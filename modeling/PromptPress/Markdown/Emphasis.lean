import PromptPress.Markdown.Escape
import PromptPress.Markdown.Tag

/-!
# Emphasis

One mark around words stands for emphasis, two for strong emphasis; a mark is a star or an
underscore.  Marks come in runs.  A run that leans against what follows may begin emphasis, and one
that leans against what precedes may end it: then it is paired with the innermost run that fits.
What stands between paired marks must hold its inline tags together.

A single mark inside a word is no mark: it is held back while emphasis is read.  Two waves strike
words out.
-/

namespace PromptPress.Markdown

/-- The place where a pattern occurs first, if it occurs. -/
def firstPlace (p : Pattern) (d : Draft) : Option Nat := (p.find? d).map fun m => m.front.length

/-- Is a tag opened before it is closed? -/
def opensFirst (name : String) (d : Draft) : Bool :=
  match firstPlace (closeTag name) d, firstPlace (.word ("<" ++ name)) d with
  | none, none => true
  | none, some _ => false
  | some _, none => true
  | some a, some b => b ≤ a

/-- Does a tag of a name begin somewhere, or end? -/
def tagName (name : String) : Pattern :=
  .chain [.char '<', .upTo 1 (Glyph.isChar '/'), .word name]

/-- The first inline tag whose name the text behind a bracket begins with. -/
def inlineTagAt? (d : Draft) : Option String :=
  if d.startsWith "<" then inlineTags.find? fun name => (tagName name).opens d else none

/-- The inline tags that begin or end in a draft. -/
def inlineTagsOf : Draft → List String
  | [] => []
  | g :: d => (inlineTagAt? (g :: d)).toList ++ inlineTagsOf d

/-- Does a draft hold its inline tags together? -/
def holdsTags (d : Draft) : Bool :=
  (inlineTagsOf d).all fun name => isBalanced name d && opensFirst name d

/-! ## Runs of marks -/

/-- A run of equal marks: the mark, how many of them are still to be paired, how many there were,
and whether the run may begin and end emphasis. -/
structure MarkRun where
  mark : Char
  count : Nat
  size : Nat
  opens : Bool
  closes : Bool

/-- A part of a line: a run of marks, or what stands between runs. -/
inductive LinePart where
  | text (d : Draft)
  | marks (r : MarkRun)

/-- A blank, or no glyph at all. -/
def isBlankEdge (g : Option Glyph) : Bool := (g.map Pattern.blank).getD true

/-- A sign that belongs to no word. -/
def isSignEdge (g : Option Glyph) : Bool :=
  (g.map (Glyph.is fun c => c == '_' || !(Text.isWordChar c || Text.isBlank c))).getD false

/-- Does a run lean against what is on one side of it?  It does not lean against a blank, and it
leans against a sign only if no word is on the other side. -/
def leans (against other : Option Glyph) : Bool :=
  !isBlankEdge against && (!isSignEdge against || isBlankEdge other || isSignEdge other)

/-- A run of `n` marks between two glyphs. -/
def MarkRun.between (before : Option Glyph) (c : Char) (n : Nat) (after : Option Glyph) :
    MarkRun where
  mark := c
  count := n
  size := n
  opens := leans after before
  closes := leans before after

/-- Splits a draft into runs of marks and what stands between them; `before` is the glyph in front
of it. -/
def linePartsFrom (marks : List Char) : Nat → Option Glyph → Draft → List LinePart
  | 0, _, d => [.text d]
  | _, _, [] => []
  | n + 1, before, g :: d =>
    match marks.find? fun c => g.isChar c with
    | some c =>
      let more := (d.takeWhile (Glyph.isChar c)).length
      let rest := d.drop more
      .marks (.between before c (more + 1) rest.head?) :: linePartsFrom marks n (some g) rest
    | none =>
      let text := g :: d.takeWhile fun h => !marks.any fun c => h.isChar c
      .text text :: linePartsFrom marks n text.getLast? (d.drop (text.length - 1))

/-- Splits a draft into runs of marks and what stands between them. -/
def lineParts (marks : List Char) (d : Draft) : List LinePart :=
  linePartsFrom marks d.length none d

/-- The marks of a run as they were written. -/
def MarkRun.written (r : MarkRun) : Draft := List.replicate r.count (.char r.mark)

/-- May two runs be paired?  A run that can begin and end emphasis is paired only if the sizes do
not add up to a multiple of three, unless both are. -/
def MarkRun.pairsWith (opening closing : MarkRun) : Bool :=
  opening.mark == closing.mark && opening.opens &&
    !((opening.closes || closing.opens) && (opening.size + closing.size) % 3 == 0 &&
      !(opening.size % 3 == 0 && closing.size % 3 == 0))

/-- A run that may begin emphasis, with what follows it. -/
structure OpenRun where
  run : MarkRun
  body : Draft

/-- What is read of a line: its beginning, and the runs that are open, the innermost one first. -/
structure OpenLine where
  done : Draft := []
  runs : List OpenRun := []

/-- Adds a draft to what is read. -/
def OpenLine.add (l : OpenLine) (d : Draft) : OpenLine :=
  match l.runs with
  | r :: rs => { l with runs := { r with body := r.body ++ d } :: rs }
  | [] => { l with done := l.done ++ d }

/-- Words as an element: emphasis, or strong emphasis. -/
def emphasised (strong : Bool) (words : Draft) : Draft :=
  let (opening, closing) : Draft × Draft :=
    if strong then ("<strong>", "</strong>") else ("<em>", "</em>")
  opening ++ words ++ closing

/-- Finds the innermost open run that pairs with a closing run, where `after` is what follows the
runs.  Runs inside are text.  Gives back the run and the runs around it. -/
def findOpening (closing : MarkRun) : List OpenRun → Draft → Option (OpenRun × List OpenRun)
  | [], _ => none
  | r :: rs, after =>
    let body := r.body ++ after
    if r.run.pairsWith closing && holdsTags body then some ({ r with body := body }, rs)
    else findOpening closing rs (r.run.written ++ body)

/-- Pairs a closing run with the runs that are open, as long as marks are left. -/
def OpenLine.close : Nat → OpenLine → MarkRun → OpenLine × MarkRun
  | 0, l, closing => (l, closing)
  | n + 1, l, closing =>
    if closing.count = 0 then (l, closing)
    else
      match findOpening closing l.runs [] with
      | none => (l, closing)
      | some (opening, around) =>
        let used := if 2 ≤ opening.run.count && 2 ≤ closing.count then 2 else 1
        let words := emphasised (used == 2) opening.body
        let left := opening.run.count - used
        let l : OpenLine :=
          if left = 0 then OpenLine.add { l with runs := around } words
          else { l with runs := ⟨{ opening.run with count := left }, words⟩ :: around }
        OpenLine.close n l { closing with count := closing.count - used }

/-- Reads a part of a line. -/
def OpenLine.step (l : OpenLine) : LinePart → OpenLine
  | .text d => l.add d
  | .marks r =>
    let (l, r) := if r.closes then l.close r.count r else (l, r)
    if r.count = 0 then l
    else if r.opens then { l with runs := ⟨r, []⟩ :: l.runs }
    else l.add r.written

/-- What is read, with the runs that are still open as text. -/
def OpenLine.finish (l : OpenLine) : Draft :=
  l.done ++ l.runs.reverse.flatMap fun r => r.run.written ++ r.body

/-- Reads emphasis between marks. -/
def readMarks (marks : List Char) (d : Draft) : Draft :=
  ((lineParts marks d).foldl OpenLine.step {}).finish

/-! ## Marks inside words, and the other rules -/

/-- A single mark inside a word. -/
def middleMark : Pattern :=
  .chain [
    .here fun c => !c.atLineStart &&
      c.behind fun g => g.isLike fun c => Text.isWordChar c && c != '_',
    .one (Pattern.among "*_"),
    .look true (.one fun g => g.isLike fun c => Text.isWordChar c && c != '_')]

/-- Holds back what a match has found. -/
def holdMatch (m : Pattern.Match) : Render Draft := do return [← Render.hold m.whole]

/-- Words between waves. -/
def struckWords : Pattern :=
  .chain [.word "~~", .look true (.one Pattern.solid), .group 1 (.fewPlus Pattern.anything),
    .here fun c => c.behind Pattern.solid, .word "~~"]

/-- Writes words between waves as an element. -/
def strike (m : Pattern.Match) : Draft :=
  let opening : Draft := "<s>"
  let closing : Draft := "</s>"
  opening ++ m.group 1 ++ closing

/-- A line feed that no list follows. -/
def freeFeed : Pattern :=
  .chain [.char '\n', .look false (.choice
    (["<ul>", "</ul>", "<ol>", "</ol>", "<li>", "</li>"].map Pattern.word))]

/-- A line feed in the page, behind the element that breaks the line. -/
def lineBreak : Draft := "<br />\n"

/-- Breaks the line at every line feed. -/
def breakAtFeeds (d : Draft) : Draft :=
  (Pattern.chain [.star Pattern.space, freeFeed]).replace (fun _ => lineBreak) d

/-- Breaks the line where two spaces end it. -/
def breakAtSpaces (d : Draft) : Draft :=
  (Pattern.chain [.atLeast 2 Pattern.space, freeFeed]).replace (fun _ => lineBreak) d

/-- Reads emphasis, and the rules that go along with it. -/
def readEmphasis (d : Draft) : Render Draft := do
  let extras ← Render.extras
  let d ← if extras.middleWordEmphasis then pure d else middleMark.replaceM holdMatch d
  let d := if extras.strike then struckWords.replace strike d else d
  let d ← Render.release (readMarks (if extras.codeFriendly then ['*'] else ['*', '_']) d)
  return if extras.breakOnNewline then breakAtFeeds d else d

end PromptPress.Markdown

import PromptPress.Markdown.Draft

/-!
# Patterns

A pattern describes stretches of a draft.  Where it leaves a choice, the first way that lets the
rest of the pattern match is taken: an eager repetition tries many glyphs first, a patient one tries
few.  Groups record what a part of the pattern has matched, and a pattern may ask for the same
again, look ahead, or look at what stands around the place that has been reached.

`Pattern.find?` is the leftmost match, and `Pattern.replace` replaces all matches.
-/

namespace PromptPress.Markdown

/-- A stretch of a draft that a group has matched. -/
structure Capture where
  group : Nat
  /-- The draft from the start of the stretch on. -/
  source : Draft
  length : Nat

/-- A place in a draft: what stands in front of it, the last glyph first, what stands behind it, and
what the groups have matched; `left` is the number of glyphs behind it. -/
structure Cursor where
  before : Draft
  after : Draft
  left : Nat
  captures : List Capture := []

namespace Cursor

/-- The start of a draft. -/
def start (d : Draft) : Cursor := ⟨[], d, d.length, []⟩

/-- One glyph further, if the next glyph is of the class. -/
def next? (p : Glyph → Bool) (c : Cursor) : Option Cursor :=
  match c.after with
  | g :: r =>
    if p g then some { c with before := g :: c.before, after := r, left := c.left - 1 } else none
  | [] => none

/-- Some glyphs further. -/
def advance : Nat → Cursor → Cursor
  | 0, c => c
  | n + 1, c =>
    match c.after with
    | g :: r => advance n { c with before := g :: c.before, after := r, left := c.left - 1 }
    | [] => c

/-- Records that a group has matched what stands between two places. -/
def capture (n : Nat) (start stop : Cursor) : Cursor :=
  { stop with captures := ⟨n, start.after, start.left - stop.left⟩ :: stop.captures }

/-- What a group has matched last. -/
def group? (n : Nat) (c : Cursor) : Option Draft :=
  (c.captures.find? fun k => k.group == n).map fun k => k.source.take k.length

/-- What a group has matched last; nothing if it has not matched. -/
def group (n : Nat) (c : Cursor) : Draft := (c.group? n).getD []

/-- Is this the start of the draft? -/
def atStart (c : Cursor) : Bool := c.before.isEmpty

/-- Is this the end of the draft? -/
def atEnd (c : Cursor) : Bool := c.after.isEmpty

/-- Is this the start of the draft, or behind a line feed? -/
def atLineStart (c : Cursor) : Bool :=
  match c.before with
  | [] => true
  | g :: _ => g.isChar '\n'

/-- Is this the end of the draft, or in front of a line feed? -/
def atLineEnd (c : Cursor) : Bool :=
  match c.after with
  | [] => true
  | g :: _ => g.isChar '\n'

/-- Is the glyph in front of this place of the class? -/
def behind (p : Glyph → Bool) (c : Cursor) : Bool :=
  match c.before with
  | [] => false
  | g :: _ => p g

/-- Is the glyph behind this place of the class? -/
def ahead (p : Glyph → Bool) (c : Cursor) : Bool :=
  match c.after with
  | [] => false
  | g :: _ => p g

/-- Do two line feeds stand in front of this place? -/
def behindBlankLine (c : Cursor) : Bool :=
  match c.before with
  | g :: h :: _ => g.isChar '\n' && h.isChar '\n'
  | _ => false

end Cursor

/-- A description of stretches of a draft. -/
inductive Pattern where
  /-- The empty stretch. -/
  | empty
  /-- A number of glyphs of a class, at least `least` and at most `most` if that is given. -/
  | run (eager : Bool) (least : Nat) (most : Option Nat) (p : Glyph → Bool)
  /-- One pattern and then another. -/
  | seq (a b : Pattern)
  /-- One pattern or else another. -/
  | alt (a b : Pattern)
  /-- A pattern any number of times. -/
  | many (eager : Bool) (a : Pattern)
  /-- A pattern, recorded under a number. -/
  | group (n : Nat) (a : Pattern)
  /-- What a group has matched, once more. -/
  | same (n : Nat)
  /-- The empty stretch, where the pattern matches or does not match ahead. -/
  | look (expected : Bool) (a : Pattern)
  /-- The empty stretch at places of a kind. -/
  | here (test : Cursor → Bool)

namespace Pattern

/-- A way to go on from a place. -/
abbrev Continuation := Cursor → Option Cursor

/-- Passes over as many glyphs of a class as possible, and gives back the places that were reached,
the last one first, in front of `reached`. -/
def places (p : Glyph → Bool) : Nat → Cursor → List Cursor → List Cursor
  | 0, _, reached => reached
  | n + 1, c, reached =>
    match c.next? p with
    | some c => places p n c (c :: reached)
    | none => reached

/-- Tries to go on, and passes over a glyph of a class where that fails. -/
def patiently (p : Glyph → Bool) (k : Continuation) : Nat → Continuation
  | 0, c => k c
  | n + 1, c =>
    match k c with
    | some r => some r
    | none =>
      match c.next? p with
      | some c => patiently p k n c
      | none => none

/-- Passes over exactly so many glyphs of a class. -/
def exactly (p : Glyph → Bool) : Nat → Continuation
  | 0, c => some c
  | n + 1, c =>
    match c.next? p with
    | some c => exactly p n c
    | none => none

/-- Matches a body again and again, as often as it makes progress. -/
def repeatedly (eager : Bool) (body : Continuation → Continuation) (k : Continuation) :
    Nat → Continuation
  | 0, c => k c
  | n + 1, c =>
    let again (_ : Unit) : Option Cursor :=
      body (fun d => if d.left < c.left then repeatedly eager body k n d else none)
        c
    if eager then
      match again () with
      | some r => some r
      | none => k c
    else
      match k c with
      | some r => some r
      | none => again ()

/-- Passes over the glyphs of a stretch. -/
def passOver : Draft → Continuation
  | [], c => some c
  | g :: d, c =>
    match c.next? g.same with
    | some c => passOver d c
    | none => none

/-- Matches a pattern at a place and goes on from there. -/
def go : Pattern → Continuation → Continuation
  | empty, k, c => k c
  | run eager least most p, k, c =>
    match exactly p least c with
    | none => none
    | some c =>
      let limit := (most.map (· - least)).getD c.left
      if eager then (places p limit c [c]).findSome? k else patiently p k limit c
  | seq a b, k, c => go a (go b k) c
  | alt a b, k, c =>
    match go a k c with
    | some r => some r
    | none => go b k c
  | many eager a, k, c => repeatedly eager (go a) k (c.left + 1) c
  | group n a, k, c => go a (fun d => k (Cursor.capture n c d)) c
  | same n, k, c =>
    match c.group? n with
    | none => none
    | some d => (passOver d c).bind k
  | look expected a, k, c =>
    match go a some c, expected with
    | some d, true => k { c with captures := d.captures }
    | none, false => k c
    | _, _ => none
  | here test, k, c => if test c then k c else none

/-- A match: what stands in front of it, the last glyph first, and the place behind it. -/
structure Match where
  start : Cursor
  stop : Cursor

namespace Match

/-- The number of glyphs that were matched. -/
def length (m : Match) : Nat := m.start.left - m.stop.left

/-- What was matched. -/
def whole (m : Match) : Draft := m.start.after.take m.length

/-- What a group has matched, if it has. -/
def group? (n : Nat) (m : Match) : Option Draft := m.stop.group? n

/-- What a group has matched. -/
def group (n : Nat) (m : Match) : Draft := m.stop.group n

/-- What stands in front of the match. -/
def front (m : Match) : Draft := m.start.before.reverse

/-- What stands behind the match. -/
def rest (m : Match) : Draft := m.stop.after

end Match

/-- The match at a place. -/
def matchAt? (p : Pattern) (c : Cursor) : Option Match := (p.go some c).map fun d => ⟨c, d⟩

/-- The first match from a place on. -/
def findFrom? (p : Pattern) : Nat → Cursor → Option Match
  | 0, c => p.matchAt? c
  | n + 1, c =>
    match p.matchAt? c with
    | some m => some m
    | none =>
      match c.next? fun _ => true with
      | some c => findFrom? p n c
      | none => none

/-- The leftmost match in a draft. -/
def find? (p : Pattern) (d : Draft) : Option Match := p.findFrom? d.length (.start d)

/-- Does the pattern match at the start of the draft? -/
def opens (p : Pattern) (d : Draft) : Bool := (p.matchAt? (.start d)).isSome

/-- Does the pattern match somewhere? -/
def occurs (p : Pattern) (d : Draft) : Bool := (p.find? d).isSome

/-- The stretch of a match's draft from a place up to the match. -/
def between (c : Cursor) (m : Match) : Draft :=
  c.after.take (c.left - m.start.left)

/-- The pieces of a draft between matches, and the matches; behind an empty match one glyph is
passed over. -/
def partsFrom (p : Pattern) : Nat → Cursor → List (Draft × Match) × Draft
  | 0, c => ([], c.after)
  | n + 1, c =>
    match p.findFrom? c.left { c with captures := [] } with
    | none => ([], c.after)
    | some m =>
      let before := between c m
      if m.stop.left < m.start.left then
        let (parts, rest) := partsFrom p n m.stop
        ((before, m) :: parts, rest)
      else
        match m.stop.after with
        | [] => ([(before, m)], [])
        | g :: _ =>
          let (parts, rest) := partsFrom p n (m.stop.advance 1)
          match parts with
          | [] => ([(before, m)], g :: rest)
          | (b, m') :: parts => ((before, m) :: (g :: b, m') :: parts, rest)

/-- The pieces of a draft in front of its matches, with the matches, and what is left. -/
def parts (p : Pattern) (d : Draft) : List (Draft × Match) × Draft :=
  p.partsFrom (d.length + 1) (.start d)

/-- All matches, from left to right. -/
def all (p : Pattern) (d : Draft) : List Match := (p.parts d).1.map (·.2)

/-- Replaces every match. -/
def replace (p : Pattern) (f : Match → Draft) (d : Draft) : Draft :=
  let (parts, rest) := p.parts d
  (parts.flatMap fun (before, m) => before ++ f m) ++ rest

/-- Replaces every match, from left to right, by what an operation makes of it. -/
def replaceM {m : Type → Type} [Monad m] (p : Pattern) (f : Match → m Draft) (d : Draft) :
    m Draft := do
  let (parts, rest) := p.parts d
  let done ← parts.mapM fun (before, x) => do return before ++ (← f x)
  return done.flatten ++ rest

/-! ## Classes of glyphs -/

/-- Every glyph. -/
def anything (_ : Glyph) : Bool := true

/-- A blank. -/
def blank (g : Glyph) : Bool := g.is Text.isBlank

/-- A glyph that is no blank. -/
def solid (g : Glyph) : Bool := !blank g

/-- A glyph that is no line feed. -/
def inLine (g : Glyph) : Bool := !g.isChar '\n'

/-- A line feed. -/
def feed (g : Glyph) : Bool := g.isChar '\n'

/-- A space. -/
def space (g : Glyph) : Bool := g.isChar ' '

/-- A space or a tab. -/
def gap (g : Glyph) : Bool := g.is Text.isSpaceOrTab

/-- A word character or a finished piece. -/
def wordlike (g : Glyph) : Bool := g.isLike Text.isWordChar

/-- One of some characters. -/
def among (s : String) (g : Glyph) : Bool := g.is fun c => s.toList.contains c

/-- A glyph that is none of some characters. -/
def notAmong (s : String) (g : Glyph) : Bool := !among s g

/-! ## Words for patterns -/

/-- One glyph of a class. -/
def one (p : Glyph → Bool) : Pattern := run true 1 (some 1) p

/-- One character. -/
def char (c : Char) : Pattern := one (Glyph.isChar c)

/-- Any number of glyphs of a class, as many as possible. -/
def star (p : Glyph → Bool) : Pattern := run true 0 none p

/-- One glyph of a class or more, as many as possible. -/
def plus (p : Glyph → Bool) : Pattern := run true 1 none p

/-- Any number of glyphs of a class, as few as possible. -/
def fewStar (p : Glyph → Bool) : Pattern := run false 0 none p

/-- One glyph of a class or more, as few as possible. -/
def fewPlus (p : Glyph → Bool) : Pattern := run false 1 none p

/-- At most so many glyphs of a class, as many as possible. -/
def upTo (n : Nat) (p : Glyph → Bool) : Pattern := run true 0 (some n) p

/-- So many glyphs of a class or more, as many as possible. -/
def atLeast (n : Nat) (p : Glyph → Bool) : Pattern := run true n none p

/-- One pattern after another. -/
def chain (ps : List Pattern) : Pattern := ps.foldr seq empty

/-- The first of some patterns that fits. -/
def choice : List Pattern → Pattern
  | [] => here fun _ => false
  | [p] => p
  | p :: ps => alt p (choice ps)

/-- A pattern or nothing. -/
def maybe (a : Pattern) : Pattern := alt a empty

/-- A pattern once or more. -/
def oneOrMore (a : Pattern) : Pattern := seq a (many true a)

/-- The characters of a text. -/
def word (s : String) : Pattern := chain (s.toList.map char)

/-- The start of a line. -/
def lineStart : Pattern := here Cursor.atLineStart

/-- The start of the draft, with the line feed that may stand there. -/
def draftStart : Pattern := seq (here Cursor.atStart) (upTo 1 feed)

/-- The end of the draft. -/
def draftEnd : Pattern := here Cursor.atEnd

end Pattern

end PromptPress.Markdown

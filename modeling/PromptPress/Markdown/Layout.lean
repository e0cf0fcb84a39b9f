import PromptPress.Markdown.Pattern

/-!
# Layout

Before a document is rendered its lines are brought into shape: line feeds end them, spaces stand in
the place of tabs, lines of blanks are empty, and the last line is ended.  A list item, a quotation
or a block of code is then a document of its own, once its lines are moved to the left.
-/

namespace PromptPress.Markdown

/-- The columns between two tab stops. -/
def tabWidth : Nat := 4

namespace Layout

/-- Spaces in the place of the tabs of a line, from a column on. -/
def expandTabs : Nat → Text → Text
  | _, [] => []
  | column, c :: s =>
    if c = '\t' then
      let n := tabWidth - column % tabWidth
      List.replicate n ' ' ++ expandTabs (column + n) s
    else c :: expandTabs (column + 1) s

/-- The text without tabs.  Where there are any, its lines are written anew, so that each ends with
a line feed, apart from the last one. -/
def withoutTabs (s : Text) : Text :=
  if s.contains '\t' then Text.joinWith ['\n'] ((Text.lines s).map (expandTabs 0)) else s

/-- Empties a line of spaces and tabs. -/
def emptyIfBlank (line : Draft) : Draft := if line.all Pattern.gap then [] else line

/-- The draft with its lines of spaces and tabs empty. -/
def emptyBlankLines (d : Draft) : Draft := d.mapFeeds emptyIfBlank

/-- A document as a draft. -/
def draft (s : Text) : Draft :=
  emptyBlankLines (.ofText (withoutTabs (Text.unixLines s ++ "\n\n")))

/-- The width of the margin of a line. -/
def margin (line : Draft) : Nat := (line.takeWhile Pattern.gap).length

/-- The margins of the lines that are not empty. -/
def margins (d : Draft) : List Nat :=
  ((d.linesWithEnds.map (·.1)).filter (! ·.isEmpty)).map margin

/-- The margin that the lines of an indented part have in common: the smallest one that is at least
`least`. -/
def commonMargin (least : Nat) (d : Draft) : Nat :=
  (((margins d).filter (least ≤ ·)).min?).getD least

/-- Moves the lines to the left, each by `n` columns or as far as its margin allows. -/
def outdentBy (n : Nat) (d : Draft) : Draft :=
  d.mapLines fun line => line.drop (min n (margin line))

/-- Moves an indented part to the left by its common margin, which counts at least one column. -/
def outdent (d : Draft) : Draft :=
  if (margins d).isEmpty then d else outdentBy (commonMargin 1 d) d

/-- Moves an indented part to the left by its common margin, but not beyond a tab stop. -/
def outdentOnce (d : Draft) : Draft :=
  if (margins d).isEmpty then d else outdentBy (min tabWidth (commonMargin 1 d)) d

/-! ## Metadata -/

/-- The name in front of the colon of an entry. -/
def entryName : Pattern :=
  let inRow (g : Glyph) := Pattern.solid g || Pattern.gap g
  .chain [.star inRow, .one Pattern.wordlike, .star inRow, .star Pattern.blank, .char ':']

/-- An entry of the metadata: a name and a value, a list under the name, or a long text. -/
def metadataEntry : Pattern :=
  let fence := Pattern.maybe (.chain [.word "---", .star Pattern.gap, .char '\n'])
  let listed := Pattern.chain [entryName,
    .oneOrMore (.chain [.plus Pattern.feed, .plus Pattern.gap, .star Pattern.inLine])]
  let line := Pattern.chain [.char '\n', .plus Pattern.blank, .star Pattern.inLine]
  let long := Pattern.chain [entryName, .plus Pattern.blank, .char '>', line, .many false line,
    .look true (.choice [
      .chain [.char '\n', entryName, .star Pattern.blank, .star Pattern.inLine, .char '\n'],
      .chain [.star Pattern.blank, .draftEnd]])]
  let simple := Pattern.chain [entryName, .look false (.word " >"), .star Pattern.inLine,
    .upTo 1 Pattern.feed]
  .chain [.lineStart, fence, .choice [listed, long, simple], fence]

/-- A line of three dashes. -/
def metadataFence : Pattern := .chain [.lineStart, .word "---", .star Pattern.gap, .char '\n']

/-- An empty line. -/
def emptyLine : Pattern := .chain [.lineStart, .char '\n']

/-- What is said where the metadata do not end. -/
def endlessMetadata : Text := "list index out of range"

/-- The draft behind its metadata.  They stand between two lines of three dashes, or, where the
draft does not begin with dashes, in front of the first empty line. -/
def withoutMetadata (d : Draft) : Except Text Draft :=
  if d.startsWith "---" then
    match metadataFence.find? d with
    | none => .error endlessMetadata
    | some opening =>
      match metadataFence.findFrom? opening.stop.left opening.stop with
      | none => if metadataEntry.occurs opening.rest then .error endlessMetadata else .ok d
      | some closing =>
        let content := Pattern.between opening.stop closing
        .ok (if metadataEntry.occurs content then closing.rest else d)
  else
    match emptyLine.find? d with
    | none => if metadataEntry.occurs d then .error endlessMetadata else .ok d
    | some m => .ok (if metadataEntry.occurs m.front then m.rest else d)

end Layout

end PromptPress.Markdown

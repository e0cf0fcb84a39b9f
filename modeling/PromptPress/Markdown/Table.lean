import PromptPress.Markdown.Inline

/-!
# Tables

A table has a row of headings, a row of dashes under it, and rows of cells.  Bars divide the cells;
the first and the last bar of a row may be left out, and a bar behind a backslash or a backtick
divides nothing.
-/

namespace PromptPress.Markdown

/-- A cell of the row of dashes. -/
def dashCell : Pattern :=
  .chain [.star Pattern.space, .upTo 1 (Glyph.isChar ':'), .plus (Glyph.isChar '-'),
    .upTo 1 (Glyph.isChar ':'), .star Pattern.space]

/-- The row of dashes, with or without a bar in front. -/
def dashRow : Pattern :=
  let ending := Pattern.chain [.upTo 1 Pattern.blank, .star Pattern.space, .char '\n']
  .choice [
    .chain [.oneOrMore (.chain [.char '|', dashCell]), .upTo 1 (Glyph.isChar '|'), ending],
    .chain [.oneOrMore (.chain [dashCell, .char '|']), .maybe dashCell, ending]]

/-- A row with at least one bar. -/
def barRow : Pattern :=
  .chain [.star Pattern.inLine, .char '|', .star Pattern.inLine]

/-- A table: its headings are group 1, its rows are group 3. -/
def table : Pattern :=
  .chain [.choice [.here fun c => c.behind Pattern.feed, .draftStart], .lineStart,
    .upTo 3 Pattern.space, .group 1 barRow, .star Pattern.space, .char '\n',
    .lineStart, .upTo 3 Pattern.space, dashRow,
    .group 3 (.many true (.chain [.lineStart, .upTo 3 Pattern.space,
      .look false (.one Pattern.space), barRow, .star Pattern.space, .char '\n']))]

/-- Splits a row at its bars; `last` is the glyph in front of the draft. -/
def splitAtBars : Glyph → Draft → List Draft
  | _, [] => [[]]
  | last, g :: d =>
    if g.isChar '|' && !Pattern.among "`\\" last then [] :: splitAtBars g d
    else
      match splitAtBars g d with
      | [] => [[g]]
      | cell :: cells => (g :: cell) :: cells

/-- A row without the bar in front. -/
def dropFirstBar : Draft → Draft
  | .char '|' :: d => d
  | d => d

/-- The cells of a row. -/
def cells (row : Draft) : List Draft :=
  let row := dropFirstBar (row.trimBy fun c => Text.isSpaceOrTab c || c == '\n')
  let row := if (row.getLast?.map (Glyph.isChar '|')).getD false then row.dropLast else row
  (splitAtBars (.char ' ') row).map fun cell =>
    (cell.trimBy Text.isBlank).replaceAll "\\|" "|"

/-- Lines between other lines. -/
def enclose (opening lines closing : List Draft) : List Draft := opening ++ lines ++ closing

/-- Writes a row, its cells as elements of a name. -/
def writeRow (name : String) (row : Draft) : Render (List Draft) := do
  let opening : Draft := "  <" ++ name ++ ">"
  let closing : Draft := "</" ++ name ++ ">"
  let written ← (cells row).mapM fun cell => do return opening ++ (← readInline cell) ++ closing
  return enclose ["<tr>"] written ["</tr>"]

/-- Writes a table. -/
def writeTable (m : Pattern.Match) : Render Draft := do
  let head ← writeRow "th" (m.group 1)
  let body := (m.group 3).trimBy (· == '\n')
  let rows ← if body.isEmpty then pure ([] : List Draft) else do
    let rows ← (body.splitAtFeeds).mapM (writeRow "td")
    pure (enclose ["<tbody>"] rows.flatten ["</tbody>"])
  let head := enclose ["<thead>"] head ["</thead>"]
  let lines := enclose ["<table>"] (head ++ rows) ["</table>"]
  return Draft.joinWith [.char '\n'] lines ++ [Glyph.char '\n']

/-- Reads the tables of a document. -/
def readTables (d : Draft) : Render Draft := do
  if (← Render.extras).tables && d.has '|' then table.replaceM writeTable d else return d

end PromptPress.Markdown

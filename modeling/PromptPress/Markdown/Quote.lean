import PromptPress.Markdown.Layout
import PromptPress.Markdown.Memory

/-!
# Quotations

A quotation is a run of lines of which the first begins with a closing bracket.  One bracket is
taken from each line, and what remains is a document of its own.
-/

namespace PromptPress.Markdown

/-- A run of quoted lines. -/
def quotation : Pattern :=
  let line := Pattern.chain [.plus Pattern.inLine, .char '\n']
  .oneOrMore (.chain [.lineStart, .star Pattern.gap, .char '>', .upTo 1 Pattern.gap, line,
    .many true line])

/-- The sign of a quotation at the start of a line. -/
def quoteSign : Pattern := .chain [.star Pattern.gap, .char '>', .upTo 1 Pattern.gap]

/-- A line without the sign of a quotation. -/
def dropQuoteSign (line : Draft) : Draft :=
  match quoteSign.matchAt? (.start line) with
  | some m => m.rest
  | none => line

/-- A preformatted block with the blanks in front of it. -/
def preformattedBlock : Pattern :=
  .chain [.star Pattern.blank, .word "<pre>", .fewPlus Pattern.anything, .word "</pre>"]

/-- A line moved two columns to the right. -/
def indentTwo (line : Draft) : Draft := "  " ++ line

/-- A line moved two columns to the left, if it begins with two spaces. -/
def outdentTwo (line : Draft) : Draft := (line.dropFront? "  ").getD line

/-- Writes a quotation; `blocks` reads what is quoted. -/
def writeQuotation (blocks : Draft → Render Draft) (m : Pattern.Match) : Render Draft := do
  let quoted ← blocks (Layout.emptyBlankLines (m.whole.mapFeeds dropQuoteSign))
  let quoted := preformattedBlock.replace (fun k => k.whole.mapFeeds outdentTwo)
    (quoted.mapFeeds indentTwo)
  let opening : Draft := "<blockquote>\n"
  return opening ++ quoted ++ "\n</blockquote>\n\n"

/-- Reads the quotations of a document. -/
def readQuotations (blocks : Draft → Render Draft) (d : Draft) : Render Draft :=
  if d.has '>' then quotation.replaceM (writeQuotation blocks) d else pure d

end PromptPress.Markdown

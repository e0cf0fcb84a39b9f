import PromptPress.Markdown.Code
import PromptPress.Markdown.Link
import PromptPress.Markdown.Emphasis

/-!
# What stands in lines

The text of a paragraph, a heading, a cell or a list item is read in a fixed order: code first, so
that nothing else reads it, then backslashes, links, bare addresses and emphasis.
-/

namespace PromptPress.Markdown

/-- Reads the text of a block. -/
def readInline (d : Draft) : Render Draft := do
  let d ← readEscapes (readCode d)
  let d ← readBareAddresses (← readLinks d)
  return breakAtSpaces (← readEmphasis (encodeText d))

end PromptPress.Markdown

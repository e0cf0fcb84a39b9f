import PromptPress.Markdown.Escape

/-!
# Code in a line

Code stands between two runs of equally many backticks.  It is finished as it is: no other rule
reads it.
-/

namespace PromptPress.Markdown

/-- A backtick. -/
def isTick (g : Glyph) : Bool := g.isChar '`'

/-- Code between backticks: group 2 is the code. -/
def codeSpan : Pattern :=
  .chain [.here fun c => !c.behind (Glyph.isChar '\\'), .group 1 (.plus isTick),
    .look false (.one isTick), .group 2 (.fewPlus Pattern.anything),
    .here fun c => !c.behind isTick, .same 1, .look false (.one isTick)]

/-- Writes code as an element. -/
def writeCode (m : Pattern.Match) : Draft :=
  let opening : Draft := "<code>"
  let closing : Draft := "</code>"
  opening ++ [.piece (encodeCode ((m.group 2).trimBy Text.isSpaceOrTab))] ++ closing

/-- Reads the code in a part of a document. -/
def readCode (d : Draft) : Draft := codeSpan.replace writeCode d

end PromptPress.Markdown

import PromptPress.Markdown.Layout
import PromptPress.Markdown.Escape

/-!
# Blocks of code

Code is fenced by lines of backticks, or it is indented by a tab stop.  Either way it becomes a
preformatted block that no other rule reads.
-/

namespace PromptPress.Markdown

/-- A block between fences: the opening fence with its margin is group 1, the code is group 3. -/
def fencedBlock : Pattern :=
  let few := Pattern.run false 0 (some 99) Pattern.blank
  .chain [.choice [.plus Pattern.feed, .draftStart, .here fun c => c.behind Pattern.feed],
    .group 1 (.chain [.lineStart, .star Pattern.gap, .atLeast 3 (Glyph.isChar '`')]), few,
    .maybe (.plus fun g => g.isLike fun c => Text.isWordChar c || c == '+' || c == '-'), few,
    .char '\n', .group 3 (.fewStar Pattern.anything), .same 1, .star Pattern.gap, .char '\n']

/-- A preformatted block with a margin. -/
def preformatted (margin code : Draft) : Draft :=
  margin ++ "<pre><code>" ++ [Glyph.piece (encodeCode code)] ++ "\n" ++ margin ++ "</code></pre>"

/-- The margin of a fenced block: that of its fence, or a smaller one that all lines have. -/
def fenceMargin (fence : Nat) (code : Draft) : Nat :=
  if code.isEmpty then fence
  else (((Layout.margins code).min?).map (min fence)).getD 0

/-- Writes a fenced block. -/
def writeFencedBlock (m : Pattern.Match) : Draft :=
  let code := (m.group 3).dropLast
  let margin := fenceMargin (Layout.margin (m.group 1)) code
  "\n" ++ preformatted (List.replicate margin (.char ' ')) (Layout.outdentBy margin code) ++ "\n"

/-- Reads the blocks between fences. -/
def readFences (d : Draft) : Draft := fencedBlock.replace writeFencedBlock d

/-- The end of some code further on, with no other tag before it. -/
def insideCode : Pattern :=
  let text := Pattern.star (Pattern.notAmong "<")
  .chain [text,
    .many true (.chain [.char '<', .upTo 1 (Glyph.isChar '/'), .word "span", text]),
    .word "</code>"]

/-- A block that is indented by a tab stop, as group 1. -/
def indentedBlock : Pattern :=
  let margin := Pattern.choice [.run true tabWidth (some tabWidth) Pattern.space, .char '\t']
  .chain [.choice [.word "\n\n", .draftStart],
    .group 1 (.oneOrMore (.chain [margin, .star Pattern.inLine, .plus Pattern.feed])),
    .choice [
      .look true (.chain [.lineStart, .upTo tabWidth Pattern.space, .one Pattern.solid]),
      .draftEnd],
    .look false insideCode]

/-- Writes an indented block. -/
def writeIndentedBlock (m : Pattern.Match) : Draft :=
  let code := Layout.outdentBy tabWidth (m.group 1)
  let code := (code.dropWhile (· == '\n')).dropEndWhile Text.isBlank
  "\n\n" ++ preformatted [] code ++ "\n\n"

/-- Reads the indented blocks. -/
def readIndentedBlocks (d : Draft) : Draft := indentedBlock.replace writeIndentedBlock d

end PromptPress.Markdown

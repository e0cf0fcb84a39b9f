import PromptPress.Markdown.Inline

/-!
# Headings and rules

A heading is a line that is underlined with `=` or `-`, or a line behind number signs.  A rule is a
line of three or more dashes, stars or underscores.
-/

namespace PromptPress.Markdown

/-- An underlined heading, or one behind number signs: the text of the first is group 2, its
underline is group 3; the signs of the second are group 5, its text is group 6. -/
def heading : Pattern :=
  .choice [
    .chain [.lineStart, .group 2 (.plus Pattern.inLine), .upTo 99 Pattern.gap, .char '\n',
      .group 3 (.choice [.plus (Glyph.isChar '='), .plus (Glyph.isChar '-')]), .star Pattern.gap,
      .plus Pattern.feed],
    .chain [.lineStart, .group 5 (.run true 1 (some 6) (Glyph.isChar '#')), .star Pattern.gap,
      .group 6 (.fewPlus Pattern.inLine), .upTo 99 Pattern.gap,
      .here fun c => !c.behind (Glyph.isChar '\\'), .star (Glyph.isChar '#'),
      .plus Pattern.feed]]

/-- A heading of a level. -/
def writeHeading (level : Nat) (text : Draft) : Render Draft := do
  let name : Draft := .ofText ('h' :: Text.ofNat level)
  let parts : List Draft :=
    [[.char '<'], name, [.char '>'], ← readInline text, "</", name, ">\n\n"]
  return parts.flatten

/-- Reads a heading.  One dash alone underlines nothing. -/
def readHeading (m : Pattern.Match) : Render Draft :=
  match m.group? 3 with
  | some [.char '-'] => pure m.whole
  | some line => writeHeading (if line.has '=' then 1 else 2) (m.group 2)
  | none => writeHeading (m.group 5).length (m.group 6)

/-- Reads the headings of a document. -/
def readHeadings (d : Draft) : Render Draft := heading.replaceM readHeading d

/-- A line that is a rule. -/
def ruleLine : Pattern :=
  let again := Pattern.chain [.same 1, .upTo 2 Pattern.space]
  .chain [.lineStart, .upTo 3 Pattern.space, .group 1 (.one (Pattern.among "-_*")),
    .upTo 2 Pattern.space, again,
    again, .many true again, .here Cursor.atLineEnd]

/-- Reads the rules of a document. -/
def readRules (d : Draft) : Draft := ruleLine.replace (fun _ => "\n<hr />\n") d

end PromptPress.Markdown

import PromptPress.Markdown.Layout
import PromptPress.Markdown.Link

/-!
# Definitions

The addresses of links and the texts of footnotes may stand apart from the text.  Such definitions
are taken out of the document and kept in mind.
-/

namespace PromptPress.Markdown

/-- The definition of a link: its name is group 1, its address is group 2, its title is group 3. -/
def linkDefinition : Pattern :=
  let title := Pattern.chain [.upTo 1 Pattern.feed, .star Pattern.gap,
    .here fun c => c.behind Pattern.blank, .one (Pattern.among "'\"("),
    .group 3 (.star Pattern.inLine), .one (Pattern.among "'\")"), .star Pattern.gap]
  .chain [.lineStart, .upTo 3 Pattern.space, .char '[', .group 1 (.plus Pattern.inLine),
    .word "]:", .star Pattern.gap, .upTo 1 Pattern.feed, .star Pattern.gap,
    .upTo 1 (Glyph.isChar '<'), .group 2 (.fewPlus Pattern.inLine), .upTo 1 (Glyph.isChar '>'),
    .star Pattern.gap, .maybe title, .choice [.plus Pattern.feed, .draftEnd]]

/-- Keeps the definition of a link in mind. -/
def keepLink (m : Pattern.Match) : Render Draft := do
  let name := (m.group 1).lower
  let url := encodeText (m.group 2)
  let title := m.group 3
  modify fun k => { k with
    addresses := Memory.record name url k.addresses
    titles := if title.isEmpty then k.titles else Memory.record name title k.titles }
  return []

/-- Takes the definitions of links out of a document. -/
def takeLinks (d : Draft) : Render Draft := linkDefinition.replaceM keepLink d

/-- The definition of a footnote: its name is group 1, its text is group 2. -/
def footnoteDefinition : Pattern :=
  let margin := Pattern.choice [.run true tabWidth (some tabWidth) Pattern.space, .char '\t']
  .chain [.lineStart, .upTo 3 Pattern.space, .word "[^", .group 1 (.plus Pattern.inLine),
    .word "]:", .star Pattern.gap,
    .group 2 (.chain [.star Pattern.blank, .star Pattern.inLine, .plus Pattern.feed,
      .many true (.chain [margin, .star Pattern.inLine, .plus Pattern.feed])]),
    .choice [
      .look true (.chain [.lineStart, .upTo tabWidth Pattern.space, .one Pattern.solid]),
      .draftEnd]]

/-- The text of a footnote, moved to the left; its first line stays if it stands behind the name. -/
def footnoteText (d : Draft) : Draft :=
  let (first, rest) : Draft × Draft := if d.startsWith "\n" then ([], d)
    else (d.takeWhile Pattern.inLine, List.dropWhile Pattern.inLine d)
  let margin := ((Layout.margins rest).min?).getD 0
  (first ++ Layout.outdentBy margin rest).trimBy Text.isBlank ++ "\n\n"

/-- Keeps the definition of a footnote in mind. -/
def keepFootnote (m : Pattern.Match) : Render Draft := do
  let name := footnoteName (m.group 1)
  let text := footnoteText (m.group 2)
  modify fun k => { k with footnotes := Memory.record name text k.footnotes }
  return []

/-- Takes the definitions of footnotes out of a document. -/
def takeFootnotes (d : Draft) : Render Draft := footnoteDefinition.replaceM keepFootnote d

end PromptPress.Markdown

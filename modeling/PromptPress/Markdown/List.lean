import PromptPress.Markdown.Inline
import PromptPress.Text.Digit
import PromptPress.Markdown.Layout

/-!
# Lists

An item begins with a marker: a star, a plus or a dash, or a number with a point.  A list reaches to
the next text that does not belong to it, or to a marker of the other kind.  At the top of a
document a list begins behind an empty line; inside an item it may begin with any line.

An item is read as a document of its own if an empty line stands in it or in front of it; otherwise
only the lists in it are read, and the rest is text.
-/

namespace PromptPress.Markdown

/-- The marker of an item without number. -/
def bulletMarker : Pattern := .one (Pattern.among "*+-")

/-- The marker of a numbered item. -/
def numberMarker : Pattern := .chain [.plus (Glyph.is Text.isDecimal), .char '.']

/-- The marker of an item. -/
def anyMarker : Pattern := .choice [bulletMarker, numberMarker]

/-- A list whose items have a marker; `other` is the marker of lists of the other kind.  The list is
group 1, the margin of its first marker is group 3 and the marker itself is group 4. -/
def wholeList (nested : Bool) (marker other : Pattern) : Pattern :=
  let start := if nested then Pattern.lineStart
    else .choice [.here Cursor.behindBlankLine, .draftStart]
  .chain [start, .group 1 (.chain [
    .group 3 (.upTo 3 Pattern.space), .group 4 marker, .plus Pattern.gap,
    .look false (.chain [.star Pattern.space, .same 4, .char ' ']),
    .fewPlus Pattern.anything,
    .choice [
      .draftEnd,
      .chain [.atLeast 2 Pattern.feed, .look true (.one Pattern.solid),
        .look false (.chain [.star Pattern.gap, marker, .plus Pattern.gap])],
      .chain [.plus Pattern.feed, .look true (.chain [.same 3, other, .plus Pattern.gap])]]])]

/-- A list of items without numbers. -/
def bulletList (nested : Bool) : Pattern := wholeList nested bulletMarker numberMarker

/-- A list of numbered items. -/
def numberList (nested : Bool) : Pattern := wholeList nested numberMarker bulletMarker

/-- An item of a list: the empty line in front of it is group 1, its margin is group 2, its marker
is group 3, its text is group 4 with the line feeds at its end as group 5, and the marker of the
next item is group 6. -/
def listItem : Pattern :=
  .chain [.maybe (.group 1 (.char '\n')), .group 2 (.chain [.lineStart, .star Pattern.gap]),
    .group 3 anyMarker, .plus Pattern.gap,
    .group 4 (.chain [.fewPlus Pattern.anything, .group 5 (.run true 1 (some 2) Pattern.feed)]),
    .look true (.chain [.star Pattern.feed, .choice [.draftEnd,
      .chain [.same 2, .group 6 anyMarker, .plus Pattern.gap]]])]

/-- The box of a task, as group 1, with what follows it as group 2. -/
def taskBox : Pattern :=
  .chain [.group 1 (.chain [.char '[', .one (Pattern.among " xX"), .char ']']), .plus Pattern.gap,
    .group 2 (.star Pattern.anything)]

/-- Writes the box of a task as an element. -/
def writeTaskBox (m : Pattern.Match) : Draft :=
  let checked : Draft := if (m.group 1).has ' ' then [] else "checked "
  let opening : Draft := "<input type=\"checkbox\" class=\"task-list-item-checkbox\" "
  opening ++ checked ++ "disabled> " ++ m.group 2

/-- Reads an item; `apart` tells whether an empty line stands in front of it. -/
def readItem (blocks lists : Draft → Render Draft) (apart : Bool) (m : Pattern.Match) :
    Render Draft := do
  let item := m.group 4
  let item ←
    if (m.group? 1).isSome || item.hasPart "\n\n" || apart then
      blocks (Layout.outdentOnce item)
    else do
      let item ← lists (Layout.outdent item)
      let endsLine := (item.getLast?.map (Glyph.isChar '\n')).getD false
      readInline (if endsLine then item.dropLast else item)
  let item := if (← Render.extras).taskList then taskBox.replace writeTaskBox item else item
  let opening : Draft := "<li>"
  return opening ++ item ++ "</li>\n"

/-- Reads items, with the drafts in front of them. -/
def readItemsFrom (blocks lists : Draft → Render Draft) :
    Bool → List (Draft × Pattern.Match) → Render Draft
  | _, [] => return []
  | apart, (before, m) :: items => do
    let item ← readItem blocks lists apart m
    return before ++ item ++ (← readItemsFrom blocks lists ((m.group 5).length == 2) items)

/-- Reads the items of a list. -/
def readItems (blocks lists : Draft → Render Draft) (d : Draft) : Render Draft := do
  let (items, rest) := listItem.parts (d.dropLastFeeds ++ [Glyph.char '\n'])
  return (← readItemsFrom blocks lists false items) ++ rest

/-- Writes a list. -/
def writeList (nested : Bool) (blocks lists : Draft → Render Draft) (m : Pattern.Match) :
    Render Draft := do
  let items ← readItems blocks lists (m.group 1)
  let marker := m.group 4
  let number := marker.dropLast
  let name : Draft := if number.isEmpty then "ul" else "ol"
  let opening : Draft :=
    if number.isEmpty || Glyph.sameAll number "1" then "" else " start=\"" ++ number ++ "\""
  let parts : List Draft := [[.char '<'], name, opening, ">\n", items, "</", name,
    if nested then ">\n" else ">\n\n"]
  return parts.flatten

/-- The first list from a place on. -/
def firstList? (nested : Bool) (c : Cursor) : Option Pattern.Match :=
  let c := { c with captures := [] }
  match (bulletList nested).findFrom? c.left c, (numberList nested).findFrom? c.left c with
  | some a, some b => if b.start.left ≤ a.start.left then some a else some b
  | some a, none => some a
  | none, b => b

/-- Reads the lists of a draft from a place on; what stands in front of the place is done. -/
def readListsFrom (nested : Bool) (blocks lists : Draft → Render Draft) :
    Nat → Cursor → Render Draft
  | 0, c => return c.before.reverse ++ c.after
  | n + 1, c =>
    match firstList? nested c with
    | none => return c.before.reverse ++ c.after
    | some m => do
      let written ← writeList nested blocks lists m
      readListsFrom nested blocks lists n
        { m.stop with before := written.reverse ++ m.start.before }

/-- Reads the lists of a draft. -/
def readLists (nested : Bool) (blocks lists : Draft → Render Draft) (d : Draft) : Render Draft :=
  readListsFrom nested blocks lists d.length (.start d)

end PromptPress.Markdown

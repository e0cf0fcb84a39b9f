import PromptPress.Markdown.Definition
import PromptPress.Markdown.Fence
import PromptPress.Markdown.Heading
import PromptPress.Markdown.List
import PromptPress.Markdown.Quote
import PromptPress.Markdown.RawBlock
import PromptPress.Markdown.Table

/-!
# Documents

A document is read block by block: fenced code, headings, rules, tables, lists, indented code and
quotations.  What a rule has written is markup, which is finished before the rest is divided into
paragraphs.  Items and quotations are documents in a document.

`render` makes the page of a document.
-/

namespace PromptPress.Markdown

/-- The stretches of a draft between empty lines. -/
def stretches (d : Draft) : List Draft :=
  let (parts, rest) := (Pattern.atLeast 2 Pattern.feed).parts (d.trimBy (· == '\n'))
  parts.map (·.1) ++ [rest]

/-- A list right behind the text of a paragraph: the text, and the list. -/
def cuddledList? (d : Draft) : Option (Draft × Draft) :=
  match listItem.find? (d ++ [Glyph.char '\n']) with
  | none => none
  | some m =>
    let alike :=
      match m.group? 6, (m.group 3).getLast? with
      | some next, some g => (next.getLast?.map g.same).getD false
      | _, _ => true
    if (m.group 2).length ≤ 3 && alike then some (m.front, d.drop m.front.length) else none

/-- A list that was written. -/
def writtenList : Pattern :=
  .chain [.choice [.word "<ul", .word "<ol"], .fewStar Pattern.inLine, .char '>']

/-- Writes a paragraph. -/
def writeParagraph (d : Draft) : Render Draft := do
  let text ← readInline d
  let opening : Draft := "<p>"
  return opening ++ text.dropWhile Text.isSpaceOrTab ++ "</p>"

/-- Reads a stretch between empty lines; `lists` reads the lists in it. -/
def readStretch (lists : Draft → Render Draft) (d : Draft) : Render (List Draft) := do
  match d with
  | [.block content] => return [content]
  | d =>
    match if (← Render.extras).cuddledLists then cuddledList? d else none with
    | none => return [← writeParagraph d]
    | some (text, tail) =>
      let list := (← lists tail).dropLastFeeds
      if writtenList.opens list then return [← writeParagraph text, list]
      else return [← writeParagraph list]

/-- Divides a draft into paragraphs. -/
def readParagraphs (lists : Draft → Render Draft) (d : Draft) : Render Draft := do
  let parts ← (stretches d).mapM (readStretch lists)
  return Draft.joinWith "\n\n" parts.flatten

mutual

/-- Reads the blocks of a document that stands in so many lists; at most `n` documents and lists are
read inside one another. -/
def readBlocks : Nat → Nat → Draft → Render Draft
  | 0, _, d => return d
  | n + 1, depth, d => do
    let d := if (← Render.extras).fences && d.hasPart "```" then readFences d else d
    let d := readRules (← readHeadings d)
    let d := readIndentedBlocks (← readInnerLists n depth d)
    let d ← readQuotations (readBlocks n depth) d
    readParagraphs (readInnerLists n depth) (← finishRawBlocks d)

/-- Reads the tables and lists of a document that stands in so many lists. -/
def readInnerLists : Nat → Nat → Draft → Render Draft
  | 0, _, d => return d
  | n + 1, depth, d => do
    readLists (0 < depth) (readBlocks n (depth + 1)) (readInnerLists n (depth + 1)) (← readTables d)

end

/-- Enough for all documents and lists inside one another. -/
def maxDepth (d : Draft) : Nat := 2 * d.length + 2

/-! ## Footnotes -/

/-- Writes a footnote, with a link back to its sign. -/
def writeFootnote (number : Nat) (name text : Draft) : Render (List Draft) := do
  let page ← readBlocks (maxDepth text) 0 text
  let link := (["<a href=\"#fnref-", name, "\" class=\"footnoteBackLink\" title=\"",
    "Jump back to footnote ", .ofText (Text.ofNat number), " in the text.\">&#8617;</a>"]
      : List Draft).flatten
  let opening := (["<li id=\"fn-", name, "\">"] : List Draft).flatten
  let body : List Draft :=
    match Draft.dropFront? page.reverse ("</p>" : Draft).reverse with
    | some r => [r.reverse ++ "&#160;" ++ link ++ "</p>"]
    | none => [page, "\n<p>" ++ link ++ "</p>"]
  return enclose [opening] body ["</li>"]

/-- Writes footnotes, the first of them with a number. -/
def writeFootnotesFrom : Nat → List Draft → Render (List Draft)
  | _, [] => return []
  | number, name :: names => do
    let text := (Memory.lookUp name (← get).footnotes).getD []
    let written ← writeFootnote number name text
    let gap : List Draft := if names.isEmpty then [] else [[]]
    return written ++ gap ++ (← writeFootnotesFrom (number + 1) names)

/-- The footnotes that are referred to, in the order of their definitions. -/
def Memory.numbered (m : Memory) : List Draft :=
  (m.footnotes.map (·.1)).filter fun name => m.references.any (Glyph.sameAll name)

/-- Writes the footnotes below a page. -/
def addFootnotes (page : Draft) : Render Draft := do
  if (← get).footnotes.isEmpty then return page
  let notes ← writeFootnotesFrom 1 (← get).numbered
  let lines := enclose ["<div class=\"footnotes\">", "<hr />", "<ol>"] notes ["</ol>", "</div>"]
  return page ++ "\n\n" ++ Draft.joinWith [.char '\n'] lines

/-! ## Pages -/

/-- What is said where patterns of links are asked for. -/
def noLinkPatterns : Text :=
  "If the 'link-patterns' extra is used, an argument for 'link_patterns' is required"

/-- Reads a document. -/
def readDocument (source : Text) : Render Draft := do
  let extras ← Render.extras
  if extras.linkPatterns then throw noLinkPatterns
  let d := Layout.draft source
  let d ← if extras.metadata then liftM (Layout.withoutMetadata d) else pure d
  let d := if extras.fences && d.hasPart "```" then readFences d else d
  let d ← finishRawBlocks d
  let d ← if extras.footnotes then takeFootnotes d else pure d
  let d ← takeLinks d
  let page ← readBlocks (maxDepth d) 0 d
  if extras.footnotes then addFootnotes page else return page

/-- The page of a document.  Where there are footnotes, a first reading finds out how they are
numbered. -/
def render (extras : Extras) (source : Text) : Except Text Text := do
  let (page, m) ← (readDocument source).run { extras := extras }
  if m.footnotes.isEmpty then return page.settle ++ ['\n']
  else
    let (page, _) ← (readDocument source).run { extras := extras, numbering := m.numbered }
    return page.settle ++ ['\n']

end PromptPress.Markdown

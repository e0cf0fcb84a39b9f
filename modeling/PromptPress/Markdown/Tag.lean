import PromptPress.Markdown.Pattern

/-!
# Tags in a document

A document may hold tags of the page that is made from it: block tags, which stand for blocks of
their own, and inline tags.
-/

namespace PromptPress.Markdown

/-- The tags of blocks that may be nested. -/
def blockTags : List String :=
  ["p", "div", "h1", "h2", "h3", "h4", "h5", "h6", "blockquote", "pre", "table", "dl", "ol", "ul",
    "script", "noscript", "form", "fieldset", "iframe", "math", "article", "aside", "header",
    "hgroup", "footer", "nav", "section", "figure", "figcaption"]

/-- The tags of changes, which stand for blocks where they begin a line. -/
def changeTags : List String := ["ins", "del"]

/-- The tags that may stand in a line; where one of them begins like another, the first one of the
list is taken. -/
def inlineTags : List String :=
  ["a", "abbr", "acronym", "b", "bdo", "big", "br", "button", "cite", "code", "dfn", "em", "i",
    "img", "input", "kbd", "label", "map", "object", "output", "q", "samp", "script", "select",
    "small", "span", "strong", "sub", "sup", "textarea", "time", "tt", "var"]

/-- A tag of a name that is open at this place. -/
def openTag (name : String) : Pattern :=
  .chain [.word ("<" ++ name), .fewStar Pattern.inLine, .char '>']

/-- The end of a tag of a name. -/
def closeTag (name : String) : Pattern := .word ("</" ++ name ++ ">")

/-- Is a tag closed as often as it is opened? -/
def isBalanced (name : String) (d : Draft) : Bool :=
  ((openTag name).all d).length == ((closeTag name).all d).length

/-- The end of a tag's name. -/
def nameEnd : Pattern := .here fun c => !c.ahead Pattern.wordlike

end PromptPress.Markdown

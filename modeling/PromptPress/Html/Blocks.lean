import PromptPress.Html.Tree
import PromptPress.Text.Lines

/-!
# The blocks of a page

The visible text of a page is what remains of it for a reader of plain text: the texts, a line
break for `br` and the alternative text of an image.  A block element stands apart from what
surrounds it, and code, rules, scripts and templates show nothing.  `blocks` is the visible text,
one piece for each block.
-/

namespace PromptPress.Html

/-- Elements whose text stands apart. -/
def blockElements : List Text :=
  ["address", "article", "aside", "blockquote", "dd", "details", "div", "dl", "dt",
    "figcaption", "figure", "footer", "h1", "h2", "h3", "h4", "h5", "h6", "header", "li", "main",
    "nav", "ol", "p", "section", "summary", "table", "tbody", "td", "tfoot", "th", "thead", "tr",
    "ul"].map String.toList

/-- Elements that show nothing. -/
def discardedElements : List Text := ["hr", "pre", "script", "style", "template"].map String.toList

/-- Visible text, or the border of a block. -/
inductive Flow where
  | text (t : Text)
  | border

/-- The alternative text of an image. -/
def altText (as : Attributes) : Text := (as.get? "alt").getD []

mutual

/-- The visible text of a node. -/
def Node.flow : Node → List Flow
  | .text t => [.text t]
  | .hidden => []
  | .element name as children =>
    if discardedElements.contains name then [.border]
    else if name == "br" then [.text ['\n']]
    else if name == "img" then [.text (altText as)]
    else if blockElements.contains name then .border :: flowAll children ++ [.border]
    else flowAll children

/-- The visible text of nodes. -/
def flowAll : List Node → List Flow
  | [] => []
  | n :: ns => n.flow ++ flowAll ns

end

/-- The texts between borders. -/
def pieces (fs : List Flow) : List Text :=
  let (s, ps) := fs.foldr (fun f (s, ps) =>
    match f with
    | .text t => (t ++ s, ps)
    | .border => (([] : Text), s :: ps)) (([] : Text), [])
  s :: ps

/-- A piece with its lines trimmed. -/
def tidy (s : Text) : Text :=
  Text.trim (Text.joinWith ['\n'] ((Text.lines s).map Text.trim))

/-- The pieces of visible text, one for each block that has any. -/
def blocks (ns : List Node) : List Text :=
  ((pieces (flowAll ns)).map tidy).filter (! ·.isEmpty)

end PromptPress.Html

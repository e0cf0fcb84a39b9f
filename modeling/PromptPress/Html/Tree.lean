import PromptPress.Html.Token

/-!
# The tree of a page

A page is a tree of elements and texts.  Elements that cannot hold anything are closed at once, and
so is one whose tag ends in a slash, whatever came before it: neither element of `<br>a<br/>b` holds
`b`.  An end tag closes the innermost open element of its name together with those inside it, and
does nothing where none is open.  Text that is all blank is kept as one space or one line break,
except inside preformatted elements.
-/

namespace PromptPress.Html

/-- A part of a page. -/
inductive Node where
  | text (t : Text)
  /-- A comment, a declaration or an instruction. -/
  | hidden
  | element (name : Text) (attributes : Attributes) (children : List Node)

/-- An element that is still open, with its children so far, the last one first. -/
structure Frame where
  name : Text
  attributes : Attributes
  children : List Node

/-- The state of building: the open elements, the innermost one first, the children of the page,
the last one first, and text that is still to be added, its last piece first. -/
structure Builder where
  frames : List Frame := []
  top : List Node := []
  pending : List Text := []

/-- The elements that cannot hold anything. -/
def voidElements : List Text :=
  ["area", "base", "br", "col", "embed", "hr", "img", "input", "keygen", "link",
    "menuitem", "meta", "param", "source", "track", "wbr", "basefont", "bgsound", "command",
    "frame", "image", "isindex", "nextid", "spacer"].map String.toList

/-- The elements that keep blank text as it is. -/
def isPreformatted (name : Text) : Bool := [("pre" : Text), "textarea"].contains name

/-- A blank of ASCII. -/
def isAsciiBlank (c : Char) : Bool :=
  c == ' ' || c == '\n' || c == '\t' || c == '\r' || c.toNat == 12

/-- Text as it is kept: all blank text becomes one space or one line break. -/
def keptText (s : Text) : Text :=
  if s.all isAsciiBlank then if s.contains '\n' then ['\n'] else [' '] else s

namespace Builder

/-- Adds a node to the innermost open element. -/
def add (b : Builder) (n : Node) : Builder :=
  match b.frames with
  | f :: fs => { b with frames := { f with children := n :: f.children } :: fs }
  | [] => { b with top := n :: b.top }

/-- Adds the text that is still to be added. -/
def flush (b : Builder) : Builder :=
  if b.pending.isEmpty then b
  else
    let s := b.pending.reverse.flatten
    let kept := if b.frames.any fun f => isPreformatted f.name then s else keptText s
    { b.add (.text kept) with pending := [] }

/-- Opens an element. -/
def open' (b : Builder) (name : Text) (as : Attributes) : Builder :=
  let b := b.flush
  { b with frames := ⟨name, as, []⟩ :: b.frames }

/-- Closes the innermost open element. -/
def pop (b : Builder) : Builder :=
  match b.frames with
  | f :: fs => { b with frames := fs }.add (.element f.name f.attributes f.children.reverse)
  | [] => b

/-- Closes open elements, as many as `n`. -/
def popMany : Nat → Builder → Builder
  | 0, b => b
  | n + 1, b => popMany n b.pop

/-- Closes the innermost open element of a name, with those inside it. -/
def close (b : Builder) (name : Text) : Builder :=
  let b := b.flush
  match b.frames.findIdx? fun f => f.name == name with
  | some n => popMany (n + 1) b
  | none => b

/-- Takes in a token. -/
def step (b : Builder) : Token → Builder
  | .text t => { b with pending := t :: b.pending }
  | .opening name as selfClosing =>
    let b := b.open' name as
    if selfClosing || voidElements.contains name then b.close name else b
  | .closing name => b.close name
  | .hidden => b.flush.add .hidden

/-- The nodes of a page, once all open elements are closed. -/
def finish (b : Builder) : List Node :=
  let b := b.flush
  (popMany b.frames.length b).top.reverse

end Builder

/-- The nodes of a list of tokens. -/
def build (ts : List Token) : List Node := (ts.foldl Builder.step {}).finish

/-- The nodes of a page. -/
def parse (s : Text) : Except Error (List Node) := (tokens s).map build

end PromptPress.Html

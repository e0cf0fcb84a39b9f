import PromptPress.Markdown.Draft

/-!
# What rendering keeps in mind

Some rules of Markdown are switched on by name.  While a document is rendered, the definitions of
its links and footnotes are kept in mind, and so are the marks that are held back from being read
as emphasis and the addresses that have been used.  Rendering fails where a document asks for
something that cannot be done; the failure says why.
-/

namespace PromptPress.Markdown

/-- The rules that are switched on. -/
structure Extras where
  fences : Bool := false
  tables : Bool := false
  strike : Bool := false
  breakOnNewline : Bool := false
  codeFriendly : Bool := false
  footnotes : Bool := false
  /-- Are marks inside a word read as emphasis? -/
  middleWordEmphasis : Bool := false
  cuddledLists : Bool := false
  taskList : Bool := false
  metadata : Bool := false
  linkPatterns : Bool := false
  deriving DecidableEq, Repr

/-- The rules of a list of names; names that are not known change nothing. -/
def Extras.ofNames (names : List Text) : Extras :=
  let on (name : String) := names.contains name.toList
  { fences := on "fenced-code-blocks"
    tables := on "tables"
    strike := on "strike"
    breakOnNewline := on "break-on-newline"
    codeFriendly := on "code-friendly"
    footnotes := on "footnotes"
    middleWordEmphasis := on "middle-word-em"
    cuddledLists := on "cuddled-lists"
    taskList := on "task_list"
    metadata := on "metadata"
    linkPatterns := on "link-patterns" }

/-- What is kept in mind while a document is rendered. -/
structure Memory where
  extras : Extras
  /-- The addresses of the defined links, by their names in lower case. -/
  addresses : List (Draft × Draft) := []
  /-- The titles of the defined links. -/
  titles : List (Draft × Draft) := []
  /-- The addresses that have been written. -/
  written : List Draft := []
  /-- What is held back until emphasis has been read. -/
  held : List Draft := []
  /-- The texts of the footnotes, by their names, in the order of their definitions. -/
  footnotes : List (Draft × Draft) := []
  /-- The footnotes that are referred to. -/
  references : List Draft := []
  /-- The order in which footnotes are numbered. -/
  numbering : List Draft := []

/-- Rendering, which may fail with a message. -/
abbrev Render (α : Type) := StateT Memory (Except Text) α

/-- The value under a name. -/
def Memory.lookUp (key : Draft) (entries : List (Draft × Draft)) : Option Draft :=
  (entries.find? fun (k, _) => Glyph.sameAll k key).map (·.2)

/-- Sets the value of a name, which keeps its place if it has one. -/
def Memory.record (key value : Draft) : List (Draft × Draft) → List (Draft × Draft)
  | [] => [(key, value)]
  | (k, v) :: entries =>
    if Glyph.sameAll k key then (k, value) :: entries else (k, v) :: record key value entries

namespace Render

/-- The rules that are switched on. -/
def extras : Render Extras := do return (← get).extras

/-- Adds a draft to a list, unless it is there. -/
def insert (d : Draft) (ds : List Draft) : List Draft :=
  if ds.any (Glyph.sameAll d) then ds else ds ++ [d]

/-- Writes an address as a finished piece, and keeps it in mind. -/
def address (url : Draft) : Render Glyph := do
  modify fun m => { m with written := insert url m.written }
  return .piece url

/-- Holds something back until emphasis has been read. -/
def hold (d : Draft) : Render Glyph := do
  modify fun m => { m with held := insert d m.held }
  return .piece d

/-- Puts back what was held back. -/
def release (d : Draft) : Render Draft := do
  let held := (← get).held
  return d.flatMap fun
    | .piece content => if held.any (Glyph.sameAll content) then content else [.piece content]
    | g => [g]

end Render

end PromptPress.Markdown

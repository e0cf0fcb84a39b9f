import PromptPress.Text.Basic

/-!
# Paths

A path is a list of parts, from a root or from the current directory.  Empty parts and single dots
are dropped when a path is read; two dots stay, because what they mean depends on the files.
-/

namespace PromptPress

/-- A path: its root, which is empty, one slash or two, and its parts. -/
structure Path where
  root : Text := []
  parts : List Text
  deriving DecidableEq, Inhabited

namespace Path

/-- Reads a path. -/
def ofText (s : Text) : Path where
  root :=
    match s with
    | '/' :: '/' :: '/' :: _ => ['/']
    | '/' :: '/' :: _ => ['/', '/']
    | '/' :: _ => ['/']
    | _ => []
  parts := (Text.splitAtChar '/' s).filter fun p => !(p.isEmpty || p == ['.'])

/-- Writes a path; the empty path is a dot. -/
def text (p : Path) : Text :=
  if p.root.isEmpty && p.parts.isEmpty then ['.'] else p.root ++ Text.joinWith ['/'] p.parts

/-- The last part, or nothing. -/
def name (p : Path) : Text := p.parts.getLast?.getD []

/-- Splits a name before its last dot, if something stands on both sides of it. -/
def splitName (name : Text) : Text × Text :=
  let ending := (name.reverse.takeWhile (· ≠ '.')).reverse
  let stem := name.take (name.length - ending.length - 1)
  if stem.isEmpty ∨ ending.isEmpty ∨ ending.length = name.length then (name, [])
  else (stem, '.' :: ending)

/-- The name without its ending. -/
def stem (p : Path) : Text := (splitName p.name).1

/-- The ending of the name, with its dot. -/
def suffix (p : Path) : Text := (splitName p.name).2

/-- Does the path hold the null character, which no name of a file does? -/
def hasNull (p : Path) : Bool := p.parts.any fun part => part.contains '\x00'

/-- The path of a file in a directory. -/
def child (p : Path) (name : Text) : Path := { p with parts := p.parts ++ [name] }

/-- A path that is read from the directory `p`. -/
def join (p q : Path) : Path := if q.root.isEmpty then { p with parts := p.parts ++ q.parts } else q

/-- The path of the directory that holds `p`. -/
def parent (p : Path) : Path := { p with parts := p.parts.dropLast }

end Path

end PromptPress

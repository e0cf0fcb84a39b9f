import PromptPress.Files.Path
import PromptPress.Files.Decoding
import PromptPress.Error

/-!
# File trees

A tree holds the files and folders below the current directory.  Each entry stands under the parts
of its place; the current directory itself is the folder without parts.  Paths are followed part
by part, so `a/../b` is found only where `a` is a folder.
-/

namespace PromptPress

/-- A file with its bytes and the time of its last change, or a folder. -/
inductive Entry where
  | file (bytes : Bytes) (modified : Int)
  | folder
  deriving DecidableEq

/-- The parts that lead from the current directory to an entry. -/
abbrev Place := List Text

/-- The files and folders below the current directory. -/
structure Tree where
  entries : List (Place × Entry) := []

namespace Tree

/-- The entry at a place. -/
def entryAt? (t : Tree) (at' : Place) : Option Entry :=
  if at'.isEmpty then some .folder
  else (t.entries.find? fun (p, _) => p == at').map (·.2)

/-- Puts an entry at a place; what stood there is replaced. -/
def set (t : Tree) (at' : Place) (e : Entry) : Tree :=
  ⟨(t.entries.filter fun (p, _) => p != at') ++ [(at', e)]⟩

/-- Follows parts from a folder to a place that may be empty. -/
def walk (t : Tree) : Place → List Text → Except FileFault Place
  | here, [] => .ok here
  | here, part :: rest =>
    match t.entryAt? here with
    | some .folder =>
      if part = ['.', '.'] then
        if here.isEmpty then .error .notFound else walk t here.dropLast rest
      else walk t (here ++ [part]) rest
    | some (.file ..) => .error .notDirectory
    | none => .error .notFound

/-- The place of a path. -/
def placeOf (t : Tree) (p : Path) : Except FileFault Place :=
  if p.root.isEmpty then t.walk [] p.parts else .error .notFound

/-- The entry that a path leads to. -/
def stat (t : Tree) (p : Path) : Except FileFault Entry :=
  match t.placeOf p with
  | .error f => .error f
  | .ok at' =>
    match t.entryAt? at' with
    | some e => .ok e
    | none => .error .notFound

/-- Does the path lead to a folder? -/
def isFolder (t : Tree) (p : Path) : Bool :=
  match t.stat p with
  | .ok .folder => true
  | _ => false

/-- Does the path lead to a file? -/
def isFile (t : Tree) (p : Path) : Bool :=
  match t.stat p with
  | .ok (.file ..) => true
  | _ => false

/-- Does the path lead to anything? -/
def exists? (t : Tree) (p : Path) : Bool :=
  match t.stat p with
  | .ok _ => true
  | .error _ => false

/-- The bytes of a file. -/
def read (t : Tree) (p : Path) : Except FileFault Bytes :=
  match t.stat p with
  | .ok (.file bytes _) => .ok bytes
  | .ok .folder => .error .isDirectory
  | .error f => .error f

/-- The time of the last change; a folder has none and counts as never changed. -/
def modified (t : Tree) (p : Path) : Except FileFault Int :=
  match t.stat p with
  | .ok (.file _ m) => .ok m
  | .ok .folder => .ok 0
  | .error f => .error f

/-- Writes a file. -/
def write (t : Tree) (p : Path) (bytes : Bytes) (modified : Int) : Except FileFault Tree :=
  match t.placeOf p with
  | .error f => .error f
  | .ok at' =>
    match t.entryAt? at' with
    | some .folder => .error .isDirectory
    | _ =>
      match t.entryAt? at'.dropLast with
      | some .folder => .ok (t.set at' (.file bytes modified))
      | some (.file ..) => .error .notDirectory
      | none => .error .notFound

/-- Makes one folder in a folder that is there. -/
def makeFolder (t : Tree) (p : Path) : Except FileFault Tree :=
  match t.placeOf p with
  | .error f => .error f
  | .ok at' =>
    match t.entryAt? at' with
    | some _ => .error .exists
    | none =>
      match t.entryAt? at'.dropLast with
      | some .folder => .ok (t.set at' .folder)
      | some (.file ..) => .error .notDirectory
      | none => .error .notFound

/-- Makes the folders that `p` leads through, from `done` on and up to a part with a null character;
folders that are there stay, and so do those that were made before a failure.  The failure names the
path that could not be made. -/
def makeFoldersFrom (t : Tree) (done : Path) : List Text → Tree × Option (FileFault × Path)
  | [] => (t, none)
  | part :: rest =>
    let here := done.child part
    if part.contains '\x00' then (t, none)
    else
      match t.makeFolder here with
      | .ok t => makeFoldersFrom t here rest
      | .error f =>
        if t.isFolder here ∨ (t.exists? here ∧ !rest.isEmpty) then makeFoldersFrom t here rest
        else (t, some (f, here))

/-- Makes a folder and those above it. -/
def makeFolders (t : Tree) (p : Path) : Tree × Option (FileFault × Path) :=
  if p.root.isEmpty then t.makeFoldersFrom ⟨[], []⟩ p.parts else (t, some (.notFound, p))

/-- Removes a file, or a folder with all that it holds. -/
def remove (t : Tree) (p : Path) : Except FileFault Tree :=
  match t.placeOf p with
  | .error f => .error f
  | .ok at' =>
    match t.entryAt? at' with
    | none => .error .notFound
    | some _ => .ok ⟨t.entries.filter fun (q, _) => !at'.isPrefixOf q⟩

/-- The files below a place, each with its bytes. -/
def filesBelow (t : Tree) (at' : Place) : List (Place × Bytes) :=
  t.entries.filterMap fun (p, e) =>
    match e with
    | .file bytes _ => if at'.isPrefixOf p then some (p, bytes) else none
    | .folder => none

/-- The names of the entries of a folder. -/
def children (t : Tree) (at' : Place) : List Text :=
  t.entries.filterMap fun (p, _) => if p.dropLast == at' then p.getLast? else none

end Tree

/-- The wording of a failure of the file system about a path. -/
def FileFault.text (f : FileFault) (p : Path) : Text :=
  let what : Text :=
    match f with
    | .other => "[Errno 5] Input/output error"
    | .notFound => "[Errno 2] No such file or directory"
    | .isDirectory => "[Errno 21] Is a directory"
    | .notDirectory => "[Errno 20] Not a directory"
    | .exists => "[Errno 17] File exists"
  what ++ ": " ++ Text.quoted p.text

/-- A failure of the file system about a path. -/
def Error.ofFile (f : FileFault) (p : Path) : Error := .fault (.file f) (f.text p)

end PromptPress

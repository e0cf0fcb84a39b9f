import PromptPress.Compiler.Build
import PromptPress.Compiler.Import

/-!
# Sessions

A session is a sequence of operations over one workspace.  It has a compiler, which is made when an
operation first needs it, and it may import documents as modules, with a compiler of its own or with
that of the session.  Settings may be overridden, one override inside another.
-/

namespace PromptPress

/-- What the compiler of a session is made from. -/
structure CompilerRequest where
  target : Option Text := none
  rules : Option (List Text) := none
  capacity : Option Int := none

/-- The compiler that imports documents: one of its own, or that of the session. -/
inductive Importer where
  | own (c : Compiler)
  | shared

/-- The state of a session. -/
structure Session where
  request : CompilerRequest := {}
  compiler : Option Compiler := none
  /-- Importing documents, if it is switched on. -/
  importer : Option Importer := none
  modules : List ImportedModule := []
  /-- The settings that were kept before each override, the latest one first. -/
  overridden : List (Option (Stamped Settings)) := []
  /-- The time of the last change of a file. -/
  clock : Nat := 1000

/-- An operation of a session. -/
abbrev Work (α : Type) := JobOn Session α

namespace Session

/-- Changes the session. -/
def change (f : Session → Session) : Work Unit := JobOn.change f

/-! ## The compiler -/

/-- Makes the compiler that is asked for. -/
def makeCompiler : Work Compiler := do
  let r := (← JobOn.state).request
  let c ← Compiler.new r.target r.rules r.capacity
  change fun s => { s with compiler := some c }
  return c

/-- The compiler of the session; the first time it is made. -/
def currentCompiler : Work Compiler := do
  match (← JobOn.state).compiler with
  | some c => return c
  | none => makeCompiler

/-- An importer that shared the compiler keeps it when the session lets it go. -/
def Importer.detach (compiler : Option Compiler) : Importer → Option Importer
  | .own c => some (.own c)
  | .shared => compiler.map .own

/-- Makes another compiler.  If that fails the session has none. -/
def replaceCompiler (r : CompilerRequest) : Work Compiler := do
  change fun s => { s with
    request := r
    compiler := none
    importer := s.importer.bind (Importer.detach s.compiler) }
  makeCompiler

/-- Runs an operation on the compiler of the session. -/
def onCompiler {α : Type} (j : Compile α) : Work α := do
  let (r, c) ← JobOn.within (← currentCompiler) j
  change fun s => { s with compiler := some c }
  Job.ofExcept r

/-- Runs an operation on a compiler that is made for it. -/
def onNewCompiler {α : Type} (target : Option Text) (j : Compile α) : Work α := do
  let c ← Compiler.new target none none
  let (r, _) ← JobOn.within c j
  Job.ofExcept r

/-- Replaces how placeholders are listed: by a failure, or as it was. -/
def replaceExtract (fault : Option Error) : Work Unit :=
  onCompiler <| JobOn.change fun c =>
    { c with extract := fun s => match fault with
        | some e => .error e
        | none => .ok (Placeholder.ofText s) }

/-- Replaces how placeholders are inspected: by a failure, or as it was. -/
def replaceInspect (fault : Option Error) : Work Unit :=
  onCompiler <| JobOn.change fun c =>
    { c with inspect := fun ps => match fault with
        | some e => .error e
        | none => .ok (Placeholder.warnings ps) }

/-! ## Files -/

/-- Writes a file, and makes the folders above it.  Every writing takes one step of the clock. -/
def writeFile (p : Path) (bytes : Bytes) (time : Option Int) : Work Unit := do
  Job.makeFolders p.parent
  let now := (← JobOn.state).clock + 1
  change fun s => { s with clock := now }
  let w ← (get : Job Workspace)
  match w.files.write p bytes (time.getD now) with
  | .ok files => (set { w with files := files } : Job Unit)
  | .error f => throw (.ofFile f p)

/-- Removes a file or a folder. -/
def remove (p : Path) : Job Unit := do
  match (← get).files.remove p with
  | .ok files => modify fun w => { w with files := files }
  | .error f => throw (.ofFile f p)

/-- The texts of the files in a folder, by the paths from the current directory, in order. -/
def filesIn (p : Path) : Job (List (Text × Text)) := do
  let t := (← get).files
  let place := (t.placeOf p).toOption.getD []
  let files := (t.filesBelow place).map fun (q, bytes) =>
    (Text.joinWith ['/'] q, (Bytes.decode .utf8 bytes).toOption.getD [])
  return files.mergeSort fun a b => Text.le a.1 b.1

/-- Reads a document in the encoding of a name. -/
def read (encoding : Option Text) (p : Path) : Job Source := do
  match Bytes.Encoding.ofName? (encoding.getD "utf-8") with
  | some e => Job.load e p
  | none =>
    let _ ← Job.ofExcept (Source.modifiedAt (← get).files p)
    throw (.fault .lookup ("unknown encoding: " ++ encoding.getD []))

/-! ## Environment and settings -/

/-- Sets a variable, or removes it. -/
def setVariable (name : Text) (value : Option Text) : Job Unit :=
  modify fun w =>
    let others := w.environment.filter fun v => v.1 != name
    { w with environment := match value with
        | some t => others ++ [(name, t)]
        | none => others }

/-- Overrides settings until the override is taken back. -/
def pushSettings (changes : Settings.Changes) : Work (Stamped Settings) := do
  let (before, now) ← Job.overrideSettings changes
  change fun s => { s with overridden := before :: s.overridden }
  return now

/-- Takes the latest override back. -/
def popSettings : Work Unit := do
  match (← JobOn.state).overridden with
  | [] => throw (.fault .index "pop from empty list")
  | before :: rest =>
    change fun s => { s with overridden := rest }
    Job.restoreSettings before

/-! ## Importing documents -/

/-- The compiler that imports documents. -/
def importCompiler : Importer → Work Compiler
  | .own c => return c
  | .shared => currentCompiler

/-- Switches importing documents on, with the compiler of the session if `shared` is set.  Where it
is on already nothing changes.  Tells whether it was off, and the target of the compiler. -/
def installImporter (shared : Bool) : Work (Bool × Target) := do
  if shared then
    let _ ← currentCompiler
  match (← JobOn.state).importer with
  | some i => return (false, (← importCompiler i).target)
  | none =>
    let i ← if shared then pure Importer.shared
      else do pure (Importer.own (← Compiler.make (pure .python) none none))
    change fun s => { s with importer := some i }
    return (true, (← importCompiler i).target)

/-- Switches importing documents off; tells whether it was on. -/
def uninstallImporter : Work Bool := do
  let was := (← JobOn.state).importer.isSome
  change fun s => { s with importer := none }
  return was

/-- Runs an operation on the compiler that imports documents. -/
def onImporter {α : Type} (j : Compile α) : Work α := do
  match (← JobOn.state).importer with
  | some (.own c) =>
    let (r, c) ← JobOn.within c j
    change fun s => { s with importer := some (.own c) }
    Job.ofExcept r
  | _ => onCompiler j

/-- The folders that are searched for a module, where `folders` are searched for the first part. -/
def searched (folders : List Path) (name parent : Text) : Work (List Path) := do
  if parent.isEmpty then return folders
  match (ImportedModule.get? (← JobOn.state).modules parent).bind (·.folders) with
  | some ps => return ps
  | none => throw (ImportedModule.noPackage name parent)

/-- Imports a module whose package is imported, unless it is imported already. -/
def importNext (folders : List Path) (parent name : Text) : Work Text := do
  match ImportedModule.get? (← JobOn.state).modules name with
  | some _ => return name
  | none =>
    let folders ← searched folders name parent
    let t := (← (get : Job Workspace)).files
    let documents := (← JobOn.state).importer.isSome
    match ImportedModule.find? t documents folders (ImportedModule.lastPart name) with
    | none => throw (ImportedModule.notFound name)
    | some found =>
      let document (p : Path) : Work ImportedModule := onImporter (ImportedModule.ofDocument name p)
      let m ← ImportedModule.load document name found
      change fun s => { s with modules := s.modules ++ [m] }
      return name

/-- Imports a module, and before it the packages that it is in. -/
def importModule (folders : List Path) (name : Text) : Work ImportedModule := do
  let _ ← (ImportedModule.leading name).foldlM (importNext folders) []
  match ImportedModule.get? (← JobOn.state).modules name with
  | some m => return m
  | none => throw (ImportedModule.notFound name)

/-- Finds the document of a module with a compiler that is made for it. -/
def findDocument (folders : List Path) (name : Text) : Job (Option Path) := do
  let _ ← Compiler.make (pure .python) none none
  return ImportedModule.findDocument? (← get).files folders (ImportedModule.lastPart name)

/-- Forgets the modules that were imported. -/
def forgetModules : Work Unit := change fun s => { s with modules := [] }

end Session

end PromptPress

import PromptPress.Compiler.Basic
import PromptPress.Files.Glob

/-!
# Building modules

A build compiles documents and writes for each of them a module and a declaration, named after the
document, into one folder.  In a build of several documents a failure stops only its own document.
-/

namespace PromptPress

/-- The files that were written for a document. -/
structure BuildResult where
  source : Path
  module : Path
  declaration : Path
  artifact : Stamped Artifact

/-- The outcome of building several documents. -/
structure BuildReport where
  built : List BuildResult := []
  /-- The documents that failed, each with the wording of its last failure. -/
  failed : List (Path × Text) := []

namespace BuildReport

/-- Did all documents succeed? -/
def isOk (r : BuildReport) : Bool := r.failed.isEmpty

/-- Sets the wording of a document's failure; a document that failed before keeps its place. -/
def recordFailure (p : Path) (message : Text) : List (Path × Text) → List (Path × Text)
  | [] => [(p, message)]
  | (q, m) :: fs =>
    if q = p then (q, message) :: fs else (q, m) :: recordFailure p message fs

end BuildReport

namespace Job

/-- Makes a folder and those above it.  A null character in the path stops it. -/
def makeFolders (p : Path) : Job Unit := do
  let (files, failure) := (← get).files.makeFolders p
  modify fun w => { w with files := files }
  match failure with
  | some (f, q) => throw (.ofFile f q)
  | none => if p.hasNull then throw Source.nullInPath else return ()

/-- Writes a file that the compiler has made. -/
def writeModule (p : Path) (s : Text) : Job Unit := do
  let w ← get
  match w.files.write p (Bytes.encode s) w.filesWritten with
  | .ok files => set { w with files := files, filesWritten := w.filesWritten + 1 }
  | .error f => throw (.ofFile f p)

end Job

namespace Compiler

/-- The report about a module that was built. -/
def builtEvent (r : BuildResult) : Log.Event :=
  ⟨"ModuleBuilder", .info, "Built template module",
    [("source", .str r.source.text), ("module", .str r.module.text),
      ("static", .bool r.artifact.value.isStatic)]⟩

/-- The files of a document in a folder. -/
def resultOf (target : Target) (p folder : Path) (a : Stamped Artifact) : BuildResult where
  source := p
  module := folder.child (p.stem ++ target.moduleSuffix)
  declaration := folder.child (p.stem ++ target.declarationSuffix)
  artifact := a

/-- Writes the module and the declaration of a document. -/
def writeFiles (target : Target) (r : BuildResult) : Job Unit := do
  Job.writeModule r.module r.artifact.value.code
  Job.writeModule r.declaration (r.artifact.value.declaration target)
  Job.report (builtEvent r)

/-- Builds a document for a target. -/
def buildFor (target : Target) (folder p : Path) : Compile BuildResult := do
  let a ← compileFile p none (some target.name)
  let r := resultOf target p folder a
  Job.makeFolders folder
  writeFiles target r
  return r

/-- Is this a failure that stops only its own document? -/
def isContained (e : Error) : Bool := e.isCompilation || e.isFileFault

/-- The report about a document that failed. -/
def buildFailedEvent (p : Path) (e : Error) : Log.Event :=
  ⟨"ModuleBuilder", .error, "Build failed", [("source", .str p.text), ("error", .str e.text)]⟩

/-- Builds a document of several, and records the outcome. -/
def buildNext (target : Target) (folder : Path) (r : BuildReport) (p : Path) :
    Compile BuildReport :=
  tryCatch (do return { r with built := r.built ++ [← buildFor target folder p] }) fun e => do
    if !isContained e then throw e
    Job.report (buildFailedEvent p e)
    return { r with failed := BuildReport.recordFailure p e.text r.failed }

/-- The report about a build that begins. -/
def buildingEvent (count : Nat) : Log.Event :=
  ⟨"ModuleBuilder", .info, "Building markdown templates", [("count", .int count)]⟩

/-- The report about a build that is done. -/
def buildDoneEvent (r : BuildReport) : Log.Event :=
  ⟨"ModuleBuilder", .info, "Build complete",
    [("built", .int r.built.length), ("failed", .int r.failed.length)]⟩

/-- Builds a document. -/
def build (target : Option Text) (folder p : Path) : Compile BuildResult := do
  buildFor (← targetOr target) folder p

/-- Builds several documents. -/
def buildAll (target : Option Text) (folder : Path) (ps : List Path) : Compile BuildReport := do
  let t ← targetOr target
  Job.report (buildingEvent ps.length)
  let r ← ps.foldlM (buildNext t folder) {}
  Job.report (buildDoneEvent r)
  return r

end Compiler

/-! ## Finding documents -/

/-- The pattern of all documents in a folder and below it. -/
def everyDocument : Text := "**/*.md"

/-- What is said of a path that is no folder. -/
def notAFolder (p : Path) : Error := .fault (.file .notDirectory) ("Not a directory: " ++ p.text)

/-- The documents in a folder that fit a pattern. -/
def documentsIn (t : Tree) (folder : Path) (pattern : Text) : Except Error (List Path) :=
  if t.isFolder folder then
    match Glob.find t folder pattern with
    | .error e => .error e
    | .ok ps => .ok (ps.filter fun p => t.isFile p && p.suffix == ".md")
  else .error (notAFolder folder)

namespace Job

/-- The documents in a folder that fit a pattern; none if that fails. -/
def findDocuments (folder : Path) (pattern : Text) : Job (List Path) := do
  let (events, r) := Log.guarded "scan markdown sources" (some []) []
    (documentsIn (← get).files folder pattern)
  reportAll events
  ofExcept r

end Job

end PromptPress

import PromptPress.Compiler.Basic
import PromptPress.Template.Render

/-!
# Importing documents as modules

A module has a name of parts with dots between them; each part but the last is a package, whose
folders are searched for the next part.  The first part is searched for in a list of folders.
Regular modules and packages come first, then folders without a module file, and only then
documents, if importing them is switched on.  A module that was imported stays until it is
forgotten.
-/

namespace PromptPress

/-- What a module holds. -/
inductive ModuleContent where
  | nothing
  /-- A text. -/
  | constant (t : Text)
  /-- A template to be filled. -/
  | template (a : Artifact)

/-- A module that was imported. -/
structure ImportedModule where
  name : Text
  /-- The document that it was made from. -/
  source : Option Path := none
  content : ModuleContent := .nothing
  /-- The folders of a package. -/
  folders : Option (List Path) := none

namespace ImportedModule

/-! ## Regular modules -/

/-- Reads a quoted text with the escapes that stand for one character. -/
def quotedText? (quote : Char) : Text → Option Text
  | [] => none
  | c :: s =>
    if c = quote then some []
    else if c = '\\' then
      match s with
      | 'n' :: r => (quotedText? quote r).map ('\n' :: ·)
      | 't' :: r => (quotedText? quote r).map ('\t' :: ·)
      | d :: r => (quotedText? quote r).map (d :: ·)
      | [] => none
    else (quotedText? quote s).map (c :: ·)

/-- The text that a line of a regular module sets, if it does. -/
def textOfLine? (line : Text) : Option Text :=
  match Text.dropFront? "TEMPLATE = " line with
  | some (q :: r) => if q = '\'' ∨ q = '"' then quotedText? q r else none
  | _ => none

/-- What a regular module holds. -/
def regularContent (code : Text) : ModuleContent :=
  match (Text.lines code).findSome? textOfLine? with
  | some t => .constant t
  | none => .nothing

/-! ## Finding modules -/

/-- What a search for a module finds. -/
inductive Found where
  /-- A package with a module file. -/
  | package (folder file : Path)
  | regular (file : Path)
  /-- Folders without a module file. -/
  | folders (ps : List Path)
  | document (file : Path)

/-- A regular module or package in a folder. -/
def regularIn? (t : Tree) (name : Text) (folder : Path) : Option Found :=
  let init := (folder.child name).child "__init__.py"
  let file := folder.child (name ++ ".py")
  if t.isFile init then some (.package (folder.child name) init)
  else if t.isFile file then some (.regular file)
  else none

/-- A document in a folder. -/
def documentIn? (t : Tree) (name : Text) (folder : Path) : Option Path :=
  let file := folder.join (.ofText (name ++ ".md"))
  if t.isFile file then some file else none

/-- The document of a name in the first of some folders that has one. -/
def findDocument? (t : Tree) (folders : List Path) (name : Text) : Option Path :=
  folders.findSome? (documentIn? t name)

/-- Searches folders for a module. -/
def find? (t : Tree) (documents : Bool) (folders : List Path) (name : Text) : Option Found :=
  match folders.findSome? (regularIn? t name) with
  | some f => some f
  | none =>
    match (folders.map (·.child name)).filter t.isFolder with
    | p :: ps => some (.folders (p :: ps))
    | [] =>
      if documents then (findDocument? t folders name).map Found.document else none

/-- The last part of a name. -/
def lastPart (name : Text) : Text := ((Text.splitAtChar '.' name).getLast?).getD []

/-- The names that lead to a module, from its first part to the whole. -/
def leading (name : Text) : List Text :=
  let parts := Text.splitAtChar '.' name
  (List.range parts.length).map fun n => Text.joinWith ['.'] (parts.take (n + 1))

/-- The error of a module that is not found. -/
def notFound (name : Text) : Error :=
  .fault .missingModule ("No module named " ++ Text.quoted name)

/-- The error of a module inside something that is no package. -/
def noPackage (name parent : Text) : Error :=
  .fault .missingModule
    ("No module named " ++ Text.quoted name ++ "; " ++ Text.quoted parent ++ " is not a package")

/-- The module of a name. -/
def get? (ms : List ImportedModule) (name : Text) : Option ImportedModule :=
  ms.find? fun m => m.name == name

/-- The content of an artifact's module. -/
def ofArtifact (name : Text) (p : Path) (a : Artifact) : ImportedModule where
  name := name
  source := some p
  content := if a.isStatic then .constant a.text else .template a

/-- The report about a document that was imported. -/
def importedEvent (name : Text) : Log.Event :=
  ⟨"MarkdownModuleLoader", .debug, "Imported markdown module", [("module", .str name)]⟩

/-- The module of a document. -/
def ofDocument (name : Text) (p : Path) : Compile ImportedModule := do
  let a ← Compiler.compileFile p none (some Target.python.name)
  Job.report (importedEvent name)
  return ofArtifact name p a.value

/-- The module of a regular file. -/
def ofFile (name : Text) (p : Path) : Job ImportedModule := do
  let s := ((← get).files.read p).toOption.bind fun bytes => (Bytes.decode .utf8 bytes).toOption
  return { name := name, content := regularContent (s.getD []) }

/-- Loads what was found; `document` makes the module of a document. -/
def load {m : Type → Type} [Monad m] [MonadLiftT Job m] (document : Path → m ImportedModule)
    (name : Text) : Found → m ImportedModule
  | .package folder file => do return { (← ofFile name file) with folders := some [folder] }
  | .regular file => do return (← ofFile name file)
  | .folders ps => return { name := name, folders := some ps }
  | .document p => document p

end ImportedModule

end PromptPress

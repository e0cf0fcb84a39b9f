import PromptPress.Text.Lines
import PromptPress.Workspace.Basic

/-!
# Sources

A source is a document that was read from a file: its name, its text with plain line feeds, and the
time of the file's last change.
-/

namespace PromptPress

/-- A document that was read from a file. -/
structure Source where
  path : Path
  text : Text
  modified : Int

namespace Source

/-- The error of a document that cannot be loaded. -/
def loadError (what : Text) (p : Path) (e : Error) : Error :=
  .sourceLoad ⟨what ++ ": " ++ e.text, some p.name, none⟩ (some e)

/-- The error of a document that is not there. -/
def missing (p : Path) (f : FileFault) : Error :=
  loadError "Markdown source not found" p (.ofFile f p)

/-- The error of a document that cannot be read. -/
def unreadable (p : Path) (e : Error) : Error := loadError "Cannot read markdown source" p e

/-- The error of a path that is not even looked for. -/
def nullInPath : Error := .fault .value "embedded null byte"

/-- The time of the last change of a document. -/
def modifiedAt (t : Tree) (p : Path) : Except Error Int :=
  if p.hasNull then .error nullInPath
  else
    match t.modified p with
    | .ok m => .ok m
    | .error f => .error (missing p f)

/-- Reads a document. -/
def load (t : Tree) (encoding : Bytes.Encoding) (p : Path) : Except Error Source :=
  match modifiedAt t p with
  | .error e => .error e
  | .ok m =>
    match t.read p with
    | .error f => .error (unreadable p (.ofFile f p))
    | .ok bytes =>
      match Bytes.decode encoding bytes with
      | .error e => .error (unreadable p (.fault .undecodable e.text))
      | .ok s => .ok ⟨p, Text.unixLines s, m⟩

/-- The report about a document that was loaded. -/
def loadedEvent (s : Source) : Log.Event :=
  ⟨"SourceLoader", .debug, "Loaded markdown source",
    [("path", .str s.path.text), ("size", .int s.text.length)]⟩

end Source

namespace Job

/-- Reads a document and reports it. -/
def load (encoding : Bytes.Encoding) (p : Path) : Job Source := do
  let s ← ofExcept (Source.load (← get).files encoding p)
  report s.loadedEvent
  return s

end Job

end PromptPress

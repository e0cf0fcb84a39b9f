import PromptPress.Json.Writer

/-!
# Errors

An error of the compiler says what went wrong and, where it concerns a document, which document;
a `Fault` is a failure of something that the compiler uses: of a text pass, the file system, a
decoder, the settings or the import of a module.  `Error.text` is the wording shown to the user,
and `Error.fields` is what a log records of an error.
-/

namespace PromptPress

/-- Failures of the file system. -/
inductive FileFault where
  | other
  | notFound
  | isDirectory
  | notDirectory
  | exists
  deriving DecidableEq

/-- The kinds of failures that are not the compiler's own. -/
inductive Fault where
  | exception
  | value
  | runtime
  | key
  | index
  | type
  | lookup
  | notImplemented
  | file (f : FileFault)
  | undecodable
  | settings
  | missingModule
  | rejectedMarkup
  deriving DecidableEq

/-- One thing that is wrong with the settings: where, what kind of problem, and its wording. -/
structure Issue where
  field : Text
  /-- The place in a list. -/
  position : Option Nat := none
  kind : Text
  message : Text
  deriving DecidableEq

/-- What an error about a document says. -/
structure Complaint where
  message : Text
  /-- The name of the document. -/
  sourceName : Option Text := none
  /-- Advice that is put after the message. -/
  hint : Option Text := none
  deriving DecidableEq

/-- Everything that can stop an operation. -/
inductive Error where
  /-- An error of the compiler without further detail. -/
  | general (message : Text)
  /-- The default passes cannot be set up or changed. -/
  | passConfiguration (message : Text)
  /-- No target has the name. -/
  | unknownTarget (message : Text)
  /-- A document could not be compiled. -/
  | compilation (c : Complaint) (cause : Option Error)
  /-- A document could not be read. -/
  | sourceLoad (c : Complaint) (cause : Option Error)
  /-- A pass failed on a document. -/
  | passExecution (c : Complaint) (passName : Text) (index : Int) (cause : Option Error)
  /-- The settings do not have the form that is asked for. -/
  | invalidSettings (issues : List Issue)
  /-- A failure of something that the compiler uses. -/
  | fault (kind : Fault) (message : Text)
  deriving Inhabited

/-- The name of a failure of the file system. -/
def FileFault.name : FileFault → Text
  | other => "OSError"
  | notFound => "FileNotFoundError"
  | isDirectory => "IsADirectoryError"
  | notDirectory => "NotADirectoryError"
  | «exists» => "FileExistsError"

/-- The name of a failure. -/
def Fault.name : Fault → Text
  | exception => "Exception"
  | value => "ValueError"
  | runtime => "RuntimeError"
  | key => "KeyError"
  | index => "IndexError"
  | type => "TypeError"
  | lookup => "LookupError"
  | notImplemented => "NotImplementedError"
  | file f => f.name
  | undecodable => "UnicodeDecodeError"
  | settings => "SettingsError"
  | missingModule => "ModuleNotFoundError"
  | rejectedMarkup => "ParserRejectedMarkup"

/-- The whole wording: the document in front, the advice behind. -/
def Complaint.text (c : Complaint) : Text :=
  let base : Text :=
    match c.sourceName with
    | some (n :: ns) => "Failed to process " ++ (n :: ns) ++ ": " ++ c.message
    | _ => c.message
  match c.hint with
  | some (h :: hs) => base ++ "\n" ++ (h :: hs)
  | _ => base

namespace Error

/-- The name of an error. -/
def name : Error → Text
  | general _ => "MdPromptError"
  | passConfiguration _ => "PassConfigurationError"
  | unknownTarget _ => "UnknownTargetError"
  | compilation .. => "CompilationError"
  | sourceLoad .. => "SourceLoadError"
  | passExecution .. => "PassExecutionError"
  | invalidSettings _ => "ValidationError"
  | fault kind _ => kind.name

/-- The wording of an error.  A missing key is shown between quotes. -/
def text : Error → Text
  | general m | passConfiguration m | unknownTarget m => m
  | compilation c _ | sourceLoad c _ | passExecution c .. => c.text
  | invalidSettings issues => Text.joinWith "\n" (issues.map (·.message))
  | fault .key m => Text.quoted m
  | fault _ m => m

/-- What an error says of a document, if it concerns one. -/
def complaint? : Error → Option Complaint
  | compilation c _ | sourceLoad c _ | passExecution c .. => some c
  | _ => none

/-- The failure that led to an error. -/
def cause? : Error → Option Error
  | compilation _ e | sourceLoad _ e | passExecution _ _ _ e => e
  | _ => none

/-- Is this a failed compilation? -/
def isCompilation (e : Error) : Bool := e.complaint?.isSome

/-- Is this a failure of the file system? -/
def isFileFault : Error → Bool
  | fault (.file _) _ => true
  | _ => false

/-- Is this one of the compiler's own errors? -/
def isOwn : Error → Bool
  | fault .. | invalidSettings _ => false
  | _ => true

/-- What an error of the compiler says of itself. -/
def details (e : Error) : List (Text × Json) :=
  let common : List (Text × Json) := [("error_type", .str e.name), ("message", .str e.text)]
  let document : List (Text × Json) :=
    match e.complaint? with
    | some c => [("source_name", Json.ofText? c.sourceName)]
    | none => []
  let pass : List (Text × Json) :=
    match e with
    | passExecution _ n i _ => [("pass_name", .str n), ("index", .int i)]
    | _ => []
  common ++ document ++ pass

/-- What a log records of an error. -/
def fields (e : Error) : List (Text × Json) :=
  if e.isOwn then e.details else [("error", .str e.text), ("error_type", .str e.name)]

/-- The kinds that an error belongs to, from its own to the most general one. -/
def kinds (e : Error) : List Text :=
  let own : List String :=
    match e with
    | general _ => ["MdPromptError"]
    | passConfiguration _ => ["PassConfigurationError", "MdPromptError"]
    | unknownTarget _ => ["UnknownTargetError", "MdPromptError", "ValueError"]
    | compilation .. => ["CompilationError", "MdPromptError"]
    | sourceLoad .. => ["SourceLoadError", "CompilationError", "MdPromptError"]
    | passExecution .. => ["PassExecutionError", "CompilationError", "MdPromptError"]
    | invalidSettings _ => ["ValidationError", "ValueError"]
    | fault k _ =>
      match k with
      | .exception => []
      | .key => ["KeyError", "LookupError"]
      | .index => ["IndexError", "LookupError"]
      | .notImplemented => ["NotImplementedError", "RuntimeError"]
      | .file .other => ["OSError"]
      | .file f => [String.ofList f.name, "OSError"]
      | .undecodable => ["UnicodeDecodeError", "UnicodeError", "ValueError"]
      | .settings => ["SettingsError", "ValueError"]
      | .missingModule => ["ModuleNotFoundError", "ImportError"]
      | k => [String.ofList k.name]
  (own ++ ["Exception", "BaseException"]).map String.toList

end Error

/-- The advice about the spelling of placeholders. -/
def placeholderHint : Text :=
  "Supported formats:\n" ++
  "  \x7bname\x7d - required string\n" ++
  "  \x7bname?\x7d - optional string\n" ++
  "  \x7bage#\x7d or \x7bage:number\x7d - number type\n" ++
  "  \x7bactive!\x7d or \x7bactive:boolean\x7d - boolean type\n" ++
  "  \x7bdata@\x7d or \x7bdata:json\x7d - JSON object"

end PromptPress

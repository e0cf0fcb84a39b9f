import PromptPress.Cache.Recent
import PromptPress.Compiler.Source
import PromptPress.Log.Failure
import PromptPress.Placeholder.Diagnosis
import PromptPress.Placeholder.Extract
import PromptPress.PlainText.Strip
import PromptPress.Template.Artifact

/-!
# The compiler

A compiler makes the artifact of a document: it makes the document plain, lists the placeholders of
the plain text, inspects them, and writes the module.  How placeholders are listed and inspected can
be replaced.

An artifact that was made from a file with the default options is kept under everything that it
depends on, so that it is made anew as soon as any of that changes.
-/

namespace PromptPress

/-- Everything that an artifact of a file depends on. -/
structure ArtifactKey where
  place : Place
  modified : Int
  target : Target
  collapse : Bool
  rules : List Text
  passes : List (Option PassId)
  deriving DecidableEq

/-- A compiler. -/
structure Compiler where
  target : Target
  /-- The rules of Markdown that are switched on. -/
  rules : List Text
  cache : Recent ArtifactKey (Stamped Artifact)
  extract : Text → Except Error (List Placeholder) := fun s => .ok (Placeholder.ofText s)
  inspect : List Placeholder → Except Error (List Text) := fun ps => .ok (Placeholder.warnings ps)

/-- An operation of a compiler. -/
abbrev Compile (α : Type) := JobOn Compiler α

namespace Compiler

/-- What is said of a cache that could hold nothing. -/
def noCapacity : Error := .fault .value "max_size must be positive"

/-- Makes a compiler.  What is not given is taken from the settings, and so is a capacity of
zero. -/
def make (target : Job Target) (rules : Option (List Text)) (capacity : Option Int) :
    Job Compiler := do
  let target ← target
  let rules ← PlainText.rulesOr rules
  let capacity ← match capacity with
    | none | some 0 => do pure (← Job.settings).value.cacheSize
    | some n => pure n
  match Recent.ofCapacity? capacity with
  | some cache => return { target := target, rules := rules, cache := cache }
  | none => throw noCapacity

/-- Makes a compiler for the target of a name. -/
def new (target : Option Text) (rules : Option (List Text)) (capacity : Option Int) :
    Job Compiler :=
  make (Job.target target) rules capacity

/-- The target of a name, or that of the compiler. -/
def targetOr (target : Option Text) : Compile Target := do
  match target with
  | some n => Job.target (some n)
  | none => return (← JobOn.state).target

/-! ## Reports -/

/-- The report about the placeholders of a text. -/
def extractedEvent (ps : List Placeholder) : Log.Event :=
  ⟨"PlaceholderExtractor", .debug, "Extracted placeholders",
    [("count", .int ps.length), ("keys", Json.texts (ps.map (·.key)))]⟩

/-- The reports about warnings. -/
def warningEvents (warnings : List Text) : List Log.Event :=
  if warnings.isEmpty then []
  else [⟨"PlaceholderValidator", .warning, "Placeholder diagnostics",
    [("warnings", Json.texts warnings)]⟩]

/-- The report about a module. -/
def generatedEvent (a : Artifact) : Log.Event :=
  ⟨"TemplateGenerator", .debug, "Generated template module",
    [("target", .str a.target.name), ("static", .bool a.isStatic),
      ("signature", .str a.signature)]⟩

/-- The report about a document that was compiled. -/
def compiledEvent (sourceName : Option Text) (a : Artifact) : Log.Event :=
  ⟨"CompilerEngine", .info, "Compiled markdown template",
    [("source_name", Json.ofText? sourceName), ("target", .str a.target.name),
      ("placeholders", .int a.placeholders.length)]⟩

/-- The report about an artifact that was kept. -/
def cachedEvent (p : Path) : Log.Event :=
  ⟨"CompilerEngine", .debug, "Using cached artifact", [("path", .str p.text)]⟩

end Compiler

namespace Job

/-- Lists the placeholders of a text and reports them. -/
def extract (f : Text → Except Error (List Placeholder)) (s : Text) : Job (List Placeholder) := do
  let ps ← ofExcept (f s)
  report (Compiler.extractedEvent ps)
  return ps

/-- Inspects placeholders and reports the warnings. -/
def inspect (f : List Placeholder → Except Error (List Text)) (ps : List Placeholder) :
    Job (List Text) := do
  let warnings ← ofExcept (f ps)
  reportAll (Compiler.warningEvents warnings)
  return warnings

/-- Makes the artifact of a plain text and reports it. -/
def generate (t : Target) (s : Text) (ps : List Placeholder) : Job Artifact := do
  let a := Artifact.ofText t s ps
  report (Compiler.generatedEvent a)
  return a

end Job

namespace Compiler

/-! ## Compiling -/

/-- Compiles a document for a target. -/
def compileFor (c : Compiler) (target : Target) (source : Json) (options : Option PlainText.Options)
    (sourceName : Option Text) : Job Artifact := do
  let s ← PlainText.ofValue c.rules options sourceName source
  let ps ← Job.extract c.extract s
  let _ ← Job.inspect c.inspect ps
  let a ← Job.generate target s ps
  Job.report (compiledEvent sourceName a)
  return a

/-- Compiles a document. -/
def compile (source : Json) (options : Option PlainText.Options) (target : Option Text)
    (sourceName : Option Text) : Compile (Stamped Artifact) := do
  let t ← targetOr target
  let c ← JobOn.state
  Job.stampArtifact (← c.compileFor t source options sourceName)

/-- The advice about an error, if its wording speaks of placeholders. -/
def hintFor (message : Text) : Option Text :=
  if Text.hasPart "placeholder" (Text.lower message) then some placeholderHint else none

/-- An error as an error about a document. -/
def asCompilation (sourceName : Text) (e : Error) : Error :=
  if e.isCompilation then e
  else .compilation ⟨e.text, some sourceName, hintFor e.text⟩ (some e)

/-- Compiles the document of a file for a target. -/
def compileSource (c : Compiler) (target : Target) (p : Path) (options : PlainText.Options) :
    Job (Stamped Artifact) := do
  let source ← Job.load .utf8 p
  let name := source.path.name
  let a ← tryCatch (c.compileFor target (.str source.text) (some options) (some name))
    fun e => throw (asCompilation name e)
  Job.stampArtifact a

/-- The options that hold where none are given, all of them settled. -/
def defaultOptions : Job PlainText.Options := do
  let collapse := (← Job.settings).value.collapseWhitespace
  let passes ← Job.defaultPasses
  return { collapse := collapse, passes := some passes }

/-- The key of a file's artifact. -/
def keyOf (target : Target) (rules : List Text) (p : Path) (options : PlainText.Options) :
    Job ArtifactKey := do
  let files := (← get).files
  let modified ← Job.ofExcept (Source.modifiedAt files p)
  let place := (files.placeOf p).toOption.getD []
  let passes := (options.passes.getD []).map fun e => e.map (·.id)
  return ⟨place, modified, target, options.collapse, rules, passes⟩

/-- Compiles a file with the default options, unless its artifact is kept. -/
def compileCached (target : Target) (p : Path) : Compile (Stamped Artifact) := do
  let options ← defaultOptions
  let c ← JobOn.state
  let key ← keyOf target c.rules p options
  let (found, cache) := c.cache.get key
  JobOn.setState { c with cache := cache }
  match found with
  | some a =>
    Job.report (cachedEvent p)
    return a
  | none =>
    let a ← c.compileSource target p options
    JobOn.change fun c => { c with cache := c.cache.put key a }
    return a

/-- Compiles a file; a failure is reported. -/
def compileFile (p : Path) (options : Option PlainText.Options) (target : Option Text) :
    Compile (Stamped Artifact) :=
  let work : Compile (Stamped Artifact) := do
    let t ← targetOr target
    match options with
    | none => compileCached t p
    | some o => do
      let c ← JobOn.state
      c.compileSource t p o
  work.onError fun e => Job.report (Log.failureEvent "compile markdown file" e [])

/-- Forgets the artifacts that are kept. -/
def clearCache : Compile Unit := JobOn.change fun c => { c with cache := c.cache.clear }

end Compiler

end PromptPress

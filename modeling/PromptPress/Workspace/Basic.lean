import PromptPress.Settings.Load
import PromptPress.Pass.Basic
import PromptPress.Target.Basic
import PromptPress.Log.Event

/-!
# The workspace

A workspace has an environment and files, and it keeps the settings that it has loaded and the
passes that run where none are given.  Every operation of the compiler is a `Job`: it may change
this state and it may fail, and what it has changed before it failed stays changed.

Settings and artifacts are stamped with a number when they are made, so that it can be told whether
two answers are one and the same thing.
-/

namespace PromptPress

/-- A value with the number that it got when it was made. -/
structure Stamped (α : Type) where
  stamp : Nat
  value : α

/-- What is kept between operations. -/
structure Workspace where
  environment : List (Text × Text) := []
  files : Tree := {}
  /-- The settings that were loaded last. -/
  settings : Option (Stamped Settings) := none
  settingsMade : Nat := 0
  /-- The default passes, once they are set or loaded. -/
  passes : Option (List (Option Pass)) := none
  /-- Are the default passes fixed? -/
  frozen : Bool := false
  passesMade : Nat := 0
  artifactsMade : Nat := 0
  /-- The number of files that the compiler has written. -/
  filesWritten : Nat := 0
  /-- What was reported, the latest event first. -/
  events : List Log.Event := []

/-- An operation that may change the workspace and may fail. -/
abbrev Job (α : Type) := ExceptT Error (StateM Workspace) α

namespace Job

/-- Runs an operation. -/
def exec {α : Type} (j : Job α) (p : Workspace) : Except Error α × Workspace :=
  StateT.run (ExceptT.run j) p

/-- Takes over a result that needs no state. -/
def ofExcept {α : Type} : Except Error α → Job α
  | .ok a => pure a
  | .error e => throw e

/-- Reports an event. -/
def report (e : Log.Event) : Job Unit := modify fun p => { p with events := e :: p.events }

/-- Reports events. -/
def reportAll : List Log.Event → Job Unit
  | [] => pure ()
  | e :: es => do
    report e
    reportAll es

/-- Stamps settings. -/
def stampSettings (s : Settings) : Job (Stamped Settings) := do
  let p ← get
  set { p with settingsMade := p.settingsMade + 1 }
  return ⟨p.settingsMade, s⟩

/-- Loads settings anew. -/
def loadSettings : Job (Stamped Settings) := do
  let p ← get
  stampSettings (← ofExcept (Settings.load [] p.environment p.files))

/-- Loads settings anew and keeps them. -/
def refreshSettings : Job (Stamped Settings) := do
  let s ← loadSettings
  modify fun p => { p with settings := some s }
  return s

/-- The settings that are kept; the first time they are loaded. -/
def settings : Job (Stamped Settings) := do
  match (← get).settings with
  | some s => return s
  | none => refreshSettings

/-- Forgets the settings that are kept. -/
def clearSettings : Job Unit := modify fun p => { p with settings := none }

/-- Keeps the settings with some fields changed; gives back what was kept before and what is kept
now. -/
def overrideSettings (changes : Settings.Changes) :
    Job (Option (Stamped Settings) × Stamped Settings) := do
  let before := (← get).settings
  let base ← match before with
    | some s => pure s
    | none => loadSettings
  let s ← stampSettings (base.value.override changes)
  modify fun p => { p with settings := some s }
  return (before, s)

/-- Keeps again what was kept before an override. -/
def restoreSettings (before : Option (Stamped Settings)) : Job Unit :=
  modify fun p => { p with settings := before }

/-- Runs an operation under changed settings. -/
def withSettings {α : Type} (changes : Settings.Changes) (j : Job α) : Job α := do
  let (before, _) ← overrideSettings changes
  tryFinally j (restoreSettings before)

/-- The entries that descriptions stand for; each of them makes a new pass. -/
def passEntries : List Pass.Spec → Job (List (Option Pass))
  | [] => pure []
  | s :: ss => do
    let p ← get
    set { p with passesMade := p.passesMade + 1 }
    let entry ← ofExcept (s.entry p.passesMade)
    return entry :: (← passEntries ss)

/-- Sets the default passes, unless they are fixed. -/
def setPasses (passes : List (Option Pass)) : Job (List (Option Pass)) := do
  if (← get).frozen then
    throw (.passConfiguration "Default passes are frozen and can no longer be changed")
  modify fun p => { p with passes := some passes }
  return passes

/-- The default passes; the first time they are those that the settings name. -/
def defaultPasses : Job (List (Option Pass)) := do
  match (← get).passes with
  | some passes => return passes
  | none =>
    let s ← settings
    let passes := (← ofExcept (Pass.ofNames s.value.defaultPasses)).map some
    modify fun p => { p with passes := some passes }
    return passes

/-- Fixes the default passes. -/
def freezePasses : Job (List (Option Pass)) := do
  let passes ← defaultPasses
  modify fun p => { p with frozen := true }
  return passes

/-- Forgets the default passes and that they are fixed. -/
def resetPasses : Job Unit := modify fun p => { p with passes := none, frozen := false }

/-- Stamps a value as a new artifact. -/
def stampArtifact {α : Type} (a : α) : Job (Stamped α) := do
  let p ← get
  set { p with artifactsMade := p.artifactsMade + 1 }
  return ⟨p.artifactsMade, a⟩

/-- The target of a name, or the one that the settings name. -/
def target (name : Option Text) : Job Target := do
  let name ← match name with
    | some n => pure n
    | none => pure (← settings).value.target
  match Target.ofName? name with
  | some t => return t
  | none => throw (.unknownTarget (Target.unknownMessage name))

end Job

/-- An operation that works on a state of its own besides. -/
abbrev JobOn (σ α : Type) := ExceptT Error (StateT σ (StateM Workspace)) α

namespace JobOn

variable {σ α : Type}

/-- An operation that leaves the state alone. -/
def beside (j : Job α) : JobOn σ α := fun s w =>
  let (r, w) := j w
  ((r, s), w)

/-- Every operation can be done beside a state. -/
instance : MonadLift Job (JobOn σ) := ⟨beside⟩

/-- The state. -/
def state : JobOn σ σ := fun s w => ((.ok s, s), w)

/-- Sets the state. -/
def setState (s : σ) : JobOn σ Unit := fun _ w => ((.ok (), s), w)

/-- Changes the state. -/
def change (f : σ → σ) : JobOn σ Unit := fun s w => ((.ok (), f s), w)

/-- Runs an operation on a state, and gives back its result and what the state has become. -/
def within (s : σ) (j : JobOn σ α) : Job (Except Error α × σ) := fun w =>
  let (r, w) := j s w
  (.ok r, w)

/-- Gives an error to an operation before it is raised. -/
def onError (j : JobOn σ α) (f : Error → JobOn σ Unit) : JobOn σ α :=
  tryCatch j fun e => do
    f e
    throw e

end JobOn

end PromptPress

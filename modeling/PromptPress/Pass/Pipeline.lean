import PromptPress.Pass.Basic
import PromptPress.Log.Event

/-!
# Pipelines of passes

The passes of a pipeline run one after another, each on what the one before has given back.  The
first one that fails, or that gives back something else than a text, stops the pipeline; the error
names it and its place among the passes.  Empty entries of the list of passes do not count.
-/

namespace PromptPress.Pass

/-- The passes of a list, its empty entries left out. -/
def kept (entries : List (Option Pass)) : List Pass := entries.filterMap fun e => e

/-- The error of a pass that fails with `e`. -/
def failure (sourceName : Option Text) (index : Nat) (p : Pass) (e : Error) : Error :=
  .passExecution ⟨"Pass '" ++ p.name ++ "' failed: " ++ e.text, sourceName, none⟩ p.name index
    (some e)

/-- The error of a pass that gives back something else than a text. -/
def wrongKind (sourceName : Option Text) (index : Nat) (p : Pass) (v : Json) : Error :=
  .passExecution ⟨"Pass '" ++ p.name ++ "' returned " ++ v.kindName ++ ", expected str",
    sourceName, none⟩ p.name index none

/-- Runs one pass. -/
def step (sourceName : Option Text) (index : Nat) (p : Pass) (s : Text) : Except Error Text :=
  match (p.run s).value with
  | .error e => .error (failure sourceName index p e)
  | .ok (.str t) => .ok t
  | .ok v => .error (wrongKind sourceName index p v)

/-- Runs passes, the first of them at place `index`. -/
def runFrom (sourceName : Option Text) : Nat → List Pass → Text → Except Error Text
  | _, [], s => .ok s
  | index, p :: ps, s =>
    match step sourceName index p s with
    | .error e => .error e
    | .ok t => runFrom sourceName (index + 1) ps t

/-- Runs the passes of a list of entries. -/
def runAll (sourceName : Option Text) (entries : List (Option Pass)) (s : Text) :
    Except Error Text :=
  runFrom sourceName 0 (kept entries) s

/-- The report about an empty entry. -/
def skipEvent (position : Nat) : Log.Event :=
  ⟨"PassPipeline", .debug, "Skipping empty pass entry", [("position", .int position)]⟩

/-- The reports about the empty entries, from a position on. -/
def skipEventsFrom : Nat → List (Option Pass) → List Log.Event
  | _, [] => []
  | n, none :: es => skipEvent n :: skipEventsFrom (n + 1) es
  | n, some _ :: es => skipEventsFrom (n + 1) es

/-- The reports about the empty entries of a list. -/
def skipEvents (entries : List (Option Pass)) : List Log.Event := skipEventsFrom 0 entries

/-- The reports about a pipeline that stopped: a pass that failed is reported, a pass that gave
back something else than a text is not. -/
def failureEvents : Error → List Log.Event
  | .passExecution _ name index (some e) =>
    [⟨"PassPipeline", .error, "Stringifier pass failed",
      [("pass_name", .str name), ("index", .int index), ("error", .str e.text)]⟩]
  | _ => []

end PromptPress.Pass

import PromptPress.Json.Basic

/-!
# Log events

An event has a level, a wording and named fields, and the component that reports it.
-/

namespace PromptPress.Log

/-- The levels of events, from the least to the most severe. -/
inductive Level where
  | debug
  | info
  | warning
  | error
  | critical
  deriving DecidableEq

/-- The name of a level. -/
def Level.name : Level → Text
  | debug => "debug"
  | info => "info"
  | warning => "warning"
  | error => "error"
  | critical => "critical"

/-- The weight of a level. -/
def Level.weight : Level → Nat
  | debug => 10
  | info => 20
  | warning => 30
  | error => 40
  | critical => 50

/-- The level of a name. -/
def Level.ofName? (s : Text) : Option Level :=
  [debug, info, warning, error, critical].find? fun l => l.name == s

/-- Something that a component reports. -/
structure Event where
  component : Text
  level : Level
  text : Text
  fields : List (Text × Json) := []

/-- The name of a component in a log; the component without a name is the root of all others. -/
def Event.componentName (e : Event) : Text := if e.component.isEmpty then "root" else e.component

/-- The component that reports for a part of the program: the one chosen for it, if that has a name,
or the part itself. -/
def reporter (part : Text) : Option Text → Text
  | some (c :: cs) => c :: cs
  | _ => part

end PromptPress.Log

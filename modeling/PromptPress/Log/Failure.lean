import PromptPress.Error
import PromptPress.Log.Event

/-!
# Reports about failures

A failed operation is reported with what a log records of its error and with fields of the caller's.
After the report the error is raised again, or a value stands in for the result.

The fields of the caller's are handed on from function to function, until they are in the report.
Each of these functions has arguments of its own, and no field may have the name of one of them, nor
may one be given twice.  Where that happens another failure is raised instead.
-/

namespace PromptPress.Log

/-! ## Handing on fields -/

/-- A function that fields are handed to, and the names of the arguments that it is given besides. -/
structure Receiver where
  name : Text
  arguments : List Text

/-- What is said of a field that is given beside another one of its name. -/
def repeatedFieldError (function k : Text) : Error :=
  .fault .type (function ++ " got multiple values for keyword argument '" ++ k ++ "'")

/-- What is said of a field that has the name of an argument. -/
def takenNameError (function k : Text) : Error :=
  .fault .type (function ++ " got multiple values for argument '" ++ k ++ "'")

/-- What is wrong with fields that a function is given, if anything is. -/
def Receiver.clash? (r : Receiver) (fields : List (Text × Json)) : Option Error :=
  ((fields.map (·.1)).find? r.arguments.contains).map (takenNameError r.name)

/-- What is wrong with the caller's fields beside others, if anything is. -/
def repeated? (function : Text) (others : List Text) (fields : List (Text × Json)) :
    Option Error :=
  ((fields.map (·.1)).find? others.contains).map (repeatedFieldError function)

/-! ## Reporting -/

/-- The component that reports failures. -/
def failureComponent : Text := "mdprompt.errors"

/-- What is given the error and the value that stands in for a result. -/
def standingIn : Receiver :=
  ⟨"ErrorHandler.log_and_return_default()", ["cls", "operation_name", "exception", "default_value"]⟩

/-- What is given the error that is to be reported. -/
def recording : Receiver := ⟨"ErrorHandler.log_failure()", ["operation_name", "exception"]⟩

/-- What is given the wording of a report. -/
def wording : Receiver :=
  ⟨"_make_filtering_bound_logger.<locals>.make_method.<locals>.meth()", ["self", "event"]⟩

/-- What is given the level of a report. -/
def levelling : Receiver :=
  ⟨"BoundLoggerBase._proxy_to_logger()", ["self", "method_name", "event"]⟩

/-- What is wrong with the caller's fields beside those of an error, if anything is.  Where a value
`stands` in for a result they have a longer way. -/
def clash? (stands : Bool) (own extra : List (Text × Json)) : Option Error :=
  let way := if stands then [standingIn, recording] else [recording]
  (way.findSome? (·.clash? extra)).or
    ((repeated? ("structlog._native." ++ wording.name) (own.map (·.1)) extra).or
      ([wording, levelling].findSome? (·.clash? (own ++ extra))))

/-- The report about a failed operation. -/
def failureEvent (operation : Text) (e : Error) (extra : List (Text × Json)) : Event :=
  ⟨failureComponent, .error, "Failed to " ++ operation, e.fields ++ extra⟩

/-- What becomes of an operation: the report about it if it failed, and the result.  Where `default`
is given it stands in for a result. -/
def guarded {α : Type} (operation : Text) (default : Option α) (extra : List (Text × Json)) :
    Except Error α → List Event × Except Error α
  | .ok a => ([], .ok a)
  | .error e =>
    match clash? default.isSome e.fields extra with
    | some clash => ([], .error clash)
    | none =>
      match default with
      | some a => ([failureEvent operation e extra], .ok a)
      | none => ([failureEvent operation e extra], .error e)

/-! ## Guards -/

/-- How the failures of an operation are met. -/
structure Guard (α : Type) where
  operation : Text
  /-- The value that stands in for a result; without it the error is raised again. -/
  default : Option α
  extra : List (Text × Json)

namespace Guard

/-- What becomes of an operation under a guard. -/
def run {α : Type} (g : Guard α) (r : Except Error α) : List Event × Except Error α :=
  guarded g.operation g.default g.extra r

/-- The guard that is told by an argument whether the error is raised again. -/
def telling : Receiver := ⟨"handle_errors()", ["operation_name", "default_return", "reraise"]⟩

/-- Fields that a guard hands on to the guard that is told by arguments, with one of these
arguments. -/
def handedOn (r : Receiver) (argument : Text) (fields : List (Text × Json)) :
    Except Error (List (Text × Json)) :=
  match (r.clash? fields).or
      (repeated? ("mdprompt.utils.error_handler." ++ telling.name) [argument] fields) with
  | some e => .error e
  | none => .ok fields

/-- The fields without the one that is taken as an argument. -/
def without (argument : Text) (fields : List (Text × Json)) : List (Text × Json) :=
  fields.filter fun f => f.1 != argument

variable {α : Type}

/-- Raises an error again, or gives a value in its place, as it is told. -/
def told (operation : Text) (default : α) (again : Bool) (fields : List (Text × Json)) :
    Except Error (Guard α) :=
  match telling.clash? fields with
  | some e => .error e
  | none => .ok ⟨operation, if again then none else some default, fields⟩

/-- Gives a value in the place of an error.  A field may tell that the error is raised again. -/
def standIn (operation : Text) (default : α) (fields : List (Text × Json)) :
    Except Error (Guard α) :=
  match handedOn ⟨"safe_with_default()", ["operation_name", "default_value"]⟩ "default_return"
      fields with
  | .error e => .error e
  | .ok fields =>
    let again := fields.any fun f => f.1 == ("reraise" : Text) && f.2.isTrue
    .ok ⟨operation, if again then none else some default, without "reraise" fields⟩

/-- Raises an error again.  A field may give a value that would stand in for a result, but none
does. -/
def raiseAgain (operation : Text) (fields : List (Text × Json)) : Except Error (Guard α) :=
  match handedOn ⟨"critical_operation()", ["operation_name"]⟩ "reraise" fields with
  | .error e => .error e
  | .ok fields => .ok ⟨operation, none, without "default_return" fields⟩

end Guard

end PromptPress.Log

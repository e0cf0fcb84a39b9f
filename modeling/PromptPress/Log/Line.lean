import PromptPress.Log.Event
import PromptPress.Json.Writer
import PromptPress.Text.Case

/-!
# Lines of a log file

A log shows the events from some level on, each on a line of its own: as an object of the
interchange format, or as a line for the reader with the level and the wording padded and the
fields in the order of their names.
-/

namespace PromptPress.Log

/-- The two forms of lines. -/
inductive Format where
  | console
  | json
  deriving DecidableEq

/-- The least level that is shown, with the name of that choice. -/
structure Threshold where
  name : Text
  weight : Nat

/-- The thresholds that have a name. -/
def thresholds : List (Text × Threshold) :=
  [("CRITICAL", ⟨"CRITICAL", 50⟩), ("FATAL", ⟨"CRITICAL", 50⟩), ("ERROR", ⟨"ERROR", 40⟩),
    ("WARN", ⟨"WARNING", 30⟩), ("WARNING", ⟨"WARNING", 30⟩), ("INFO", ⟨"INFO", 20⟩),
    ("DEBUG", ⟨"DEBUG", 10⟩), ("NOTSET", ⟨"NOTSET", 0⟩)]

/-- The threshold of a name in any case; any other name stands for `INFO`. -/
def Threshold.ofName (s : Text) : Threshold :=
  let name := Text.upperAscii s
  match thresholds.find? fun (n, _) => n == name with
  | some (_, t) => t
  | none => ⟨"INFO", 20⟩

/-- Sets a named entry, in its place if there is one already. -/
def setField (k : Text) (v : Json) : List (Text × Json) → List (Text × Json)
  | [] => [(k, v)]
  | (k', v') :: fs => if k' == k then (k, v) :: fs else (k', v') :: setField k v fs

/-- All that is known of an event: its fields, wording, component, level and time. -/
def Event.entries (time : Text) (e : Event) : List (Text × Json) :=
  setField "timestamp" (.str time) <| setField "level" (.str e.level.name) <|
    setField "logger" (.str e.componentName) <| setField "event" (.str e.text) e.fields

/-- A text with spaces behind it, so that it has at least the width. -/
def pad (width : Nat) (s : Text) : Text := s ++ List.replicate (width - s.length) ' '

/-- Does a text in a console line need quotes? -/
def needsQuotes (s : Text) : Bool :=
  s.any [' ', '\t', '=', '\r', '\n', '"', '\''].contains

/-- A value in a console line. -/
def consoleValue : Json → Text
  | .str s => if needsQuotes s then Text.quoted s else s
  | v => Json.display v

/-- The names that have a place of their own in a console line. -/
def hasPlace (k : Text) : Bool :=
  [("event" : Text), "logger", "level", "timestamp"].contains k

/-- A console line. -/
def Event.consoleLine (time : Text) (e : Event) : Text :=
  let fs := (e.fields.filter fun (k, _) => !hasPlace k).mergeSort fun a b => Text.le a.1 b.1
  let shown := fs.map fun (k, v) => k ++ "=" ++ consoleValue v
  Text.joinWith [' '] ([time, '[' :: pad 9 e.level.name ++ [']'], pad 30 e.text,
    '[' :: e.componentName ++ [']']] ++ shown)

/-- A line of the log. -/
def Event.line (f : Format) (time : Text) (e : Event) : Text :=
  match f with
  | .console => e.consoleLine time
  | .json => Json.json true (.obj (e.entries time))

end PromptPress.Log

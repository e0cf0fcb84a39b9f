import PromptPress.Text.Basic

/-!
# Values

The values that settings, log events and templates carry.  Integers are kept apart from real
numbers, because they are written differently, and an object keeps its entries in order.
-/

namespace PromptPress

/-- A value of a data text: integers are exact, other numbers are floats. -/
inductive Json where
  | null
  | bool (b : Bool)
  | int (n : Int)
  | real (x : Float)
  | str (s : Text)
  | list (xs : List Json)
  | obj (fields : List (Text × Json))
  deriving Inhabited

namespace Json

/-- A string literal as a value. -/
instance : Coe String Json := ⟨fun s => .str s.toList⟩

/-- The text, if the value is one. -/
def text? : Json → Option Text
  | .str s => some s
  | _ => none

/-- The value under a key; the last entry counts. -/
def get? (key : Text) : Json → Option Json
  | .obj fields => (fields.reverse.find? fun (k, _) => k == key).map (·.2)
  | _ => none

/-- Does the value count as true?  Nothing, zero and what is empty do not. -/
def isTrue : Json → Bool
  | .null => false
  | .bool b => b
  | .int n => n != 0
  | .real x => x != 0
  | .str s => !s.isEmpty
  | .list xs => !xs.isEmpty
  | .obj fields => !fields.isEmpty

/-- A list of texts as a value. -/
def texts (xs : List Text) : Json := .list (xs.map .str)

/-- A text or nothing as a value. -/
def ofText? : Option Text → Json
  | none => .null
  | some s => .str s

end Json

end PromptPress

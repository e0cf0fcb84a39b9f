import PromptPress.Placeholder.Basic
import PromptPress.Text.Word

/-!
# Slots

A slot is a placeholder as it is written in a text:

    slot     := "{" name [mark] "}"
    mark     := "?" | "#" | "!" | "@" | ":" type
    name     := one or more ASCII letters, digits or underscores
    type     := one or more small ASCII letters

`Slot.written` is that spelling, and `Slot.read?` reads it back from the front of a text.
-/

namespace PromptPress

/-- The one-character marks of a slot. -/
inductive Modifier where
  | optional
  | number
  | boolean
  | json
  deriving DecidableEq, Repr

namespace Modifier

/-- The character of a mark. -/
def char : Modifier → Char
  | optional => '?'
  | number => '#'
  | boolean => '!'
  | json => '@'

/-- The mark of a character. -/
def ofChar? : Char → Option Modifier
  | '?' => some optional
  | '#' => some number
  | '!' => some boolean
  | '@' => some json
  | _ => none

/-- The type that a mark stands for. -/
def typeName? : Modifier → Option Text
  | optional => none
  | number => some ValueType.number.name
  | boolean => some ValueType.boolean.name
  | json => some ValueType.json.name

end Modifier

/-- What stands behind the name of a slot. -/
inductive Mark where
  | plain
  | modifier (m : Modifier)
  | declared (typeName : Text)
  deriving DecidableEq, Repr

/-- A placeholder as it is written in a text. -/
structure Slot where
  name : Text
  mark : Mark
  deriving DecidableEq, Repr

/-- A character of a slot's name. -/
def Slot.isNameChar (c : Char) : Bool := Text.isAsciiAlnum c || c == '_'

/-- A character of a slot's type. -/
def Slot.isTypeChar (c : Char) : Bool := 'a' ≤ c && c ≤ 'z'

/-- The spelling of a mark. -/
def Mark.written : Mark → Text
  | plain => []
  | modifier m => [m.char]
  | declared t => ':' :: t

namespace Slot

/-- The spelling of a slot. -/
def written (s : Slot) : Text := '{' :: s.name ++ s.mark.written ++ ['}']

/-- Reads what stands between the name and the closing brace, and that brace. -/
def readMark? : Text → Option (Mark × Text)
  | '}' :: r => some (.plain, r)
  | ':' :: s =>
    let t := s.takeWhile isTypeChar
    match s.dropWhile isTypeChar with
    | '}' :: r => if t.isEmpty then none else some (.declared t, r)
    | _ => none
  | c :: '}' :: r => (Modifier.ofChar? c).map fun m => (.modifier m, r)
  | _ => none

/-- Reads a slot from the front of a text. -/
def read? : Text → Option (Slot × Text)
  | '{' :: s =>
    let name := s.takeWhile isNameChar
    if name.isEmpty then none
    else (readMark? (s.dropWhile isNameChar)).map fun (mark, r) => (⟨name, mark⟩, r)
  | _ => none

/-- The placeholder that a slot declares. -/
def placeholder (s : Slot) : Placeholder where
  name := s.name
  optional := s.mark = .modifier .optional
  raw := s.written
  typeName :=
    match s.mark with
    | .plain => none
    | .modifier m => m.typeName?
    | .declared t => some t

end Slot

end PromptPress

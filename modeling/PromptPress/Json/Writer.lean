import PromptPress.Json.Basic
import PromptPress.Decimal.Shortest
import PromptPress.Text.Quoted

/-!
# Writing values

A `Style` fixes how the parts of a value are spelled.  `json` is the interchange format, with
every character beyond ASCII escaped or not; `display` is the form in which a template shows a
value inside a text.
-/

namespace PromptPress.Json

/-- The escape of one code unit of sixteen bits. -/
def unitEscape (n : Nat) : Text := "\\u" ++ Text.hex 4 n

/-- The escape of a character by its code units of sixteen bits. -/
def unitEscapes (c : Char) : Text :=
  let n := c.toNat
  if n < 0x10000 then unitEscape n
  else unitEscape (0xd800 + (n - 0x10000) / 0x400) ++ unitEscape (0xdc00 + (n - 0x10000) % 0x400)

/-- A character as it stands in a string of the interchange format. -/
def stringChar (ascii : Bool) (c : Char) : Text :=
  if c = '"' then "\\\""
  else if c = '\\' then "\\\\"
  else if c = '\n' then "\\n"
  else if c = '\r' then "\\r"
  else if c = '\t' then "\\t"
  else if c.toNat = 8 then "\\b"
  else if c.toNat = 12 then "\\f"
  else if c.toNat < 0x20 ∨ (ascii ∧ 0x7e < c.toNat) then unitEscapes c
  else [c]

/-- A string of the interchange format; with `ascii`, all but the printable characters of ASCII
are escaped. -/
def string (ascii : Bool) (s : Text) : Text := '"' :: s.flatMap (stringChar ascii) ++ ['"']

/-- How the parts of a value are spelled. -/
structure Style where
  null : Text
  yes : Text
  no : Text
  /-- The spelling of a text inside the value. -/
  string : Text → Text
  /-- The spelling of floats. -/
  float : Decimal.Format

mutual

/-- Writes a value. -/
def write (st : Style) : Json → Text
  | .null => st.null
  | .bool b => if b then st.yes else st.no
  | .int n => Text.ofInt n
  | .real x => Decimal.ofFloat st.float x
  | .str s => st.string s
  | .list xs => '[' :: Text.joinWith ", " (writeAll st xs) ++ [']']
  | .obj fields => '{' :: Text.joinWith ", " (writeFields st fields) ++ ['}']

/-- Writes the members of a list. -/
def writeAll (st : Style) : List Json → List Text
  | [] => []
  | x :: xs => write st x :: writeAll st xs

/-- Writes the entries of an object. -/
def writeFields (st : Style) : List (Text × Json) → List Text
  | [] => []
  | (k, v) :: fs => (st.string k ++ ": " ++ write st v) :: writeFields st fs

end

/-- The interchange format. -/
def jsonStyle (ascii : Bool) : Style where
  null := "null"
  yes := "true"
  no := "false"
  string := string ascii
  float := { nan := "NaN", infinity := "Infinity" }

/-- The form in which values are shown inside other values. -/
def displayStyle : Style where
  null := "None"
  yes := "True"
  no := "False"
  string := Text.quoted
  float := { nan := "nan", infinity := "inf" }

/-- A value in the interchange format. -/
def json (ascii : Bool) (v : Json) : Text := write (jsonStyle ascii) v

/-- A value as it is shown, texts between quotes. -/
def display (v : Json) : Text := write displayStyle v

/-- A value as a template shows it: a text stands for itself. -/
def shown : Json → Text
  | .str s => s
  | v => display v

/-- The name of the kind of a value. -/
def kindName : Json → Text
  | .null => "NoneType"
  | .bool _ => "bool"
  | .int _ => "int"
  | .real _ => "float"
  | .str _ => "str"
  | .list _ => "list"
  | .obj _ => "dict"

end PromptPress.Json

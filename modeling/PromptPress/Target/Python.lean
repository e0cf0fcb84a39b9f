import PromptPress.Target.Basic
import PromptPress.Json.Writer

/-!
# Python modules

A template without placeholders is a string constant.  A template with placeholders is a function
of one mapping that returns a formatted string: each placeholder is a replacement field, braces of
the text between are doubled, and quotes, backslashes and control characters are escaped.
-/

namespace PromptPress.Python

/-- The spelling of a known type. -/
def typeName : ValueType → Text
  | .string => "str"
  | .number => "float"
  | .boolean => "bool"
  | .json => "dict[str, Any]"

/-- The spelling of a placeholder's type; an unknown type is a string. -/
def spellType : TypeTag → Text
  | .known t => typeName t
  | .unknown _ => typeName .string

/-- The entry of a placeholder in the type of the mapping. -/
def field (p : Placeholder) : Text :=
  let type := spellType p.type
  Json.string true p.name ++ ": " ++ if p.optional then "NotRequired[" ++ type ++ "]" else type

/-- The entries of the type of the mapping. -/
def signature (ps : List Placeholder) : Text :=
  if ps.isEmpty then "\x7b\x7d"
  else '\x7b' :: Text.joinWith ", " ((Placeholder.order ps).map field) ++ ['\x7d']

/-- A character of a string between double quotes. -/
def escapeChar (c : Char) : Text :=
  if c = '\\' ∨ c = '"' then ['\\', c]
  else if c = '\n' then "\\n"
  else if c = '\r' then "\\r"
  else if c = '\t' then "\\t"
  else if c.toNat < 0x20 ∨ c.toNat = 0x7f then "\\x" ++ Text.hex 2 c.toNat
  else [c]

/-- A character of literal text inside a formatted string. -/
def escapeLiteralChar (c : Char) : Text :=
  if c = '\x7b' ∨ c = '\x7d' then [c, c] else escapeChar c

/-- A string between double quotes. -/
def stringLiteral (s : Text) : Text := '"' :: s.flatMap escapeChar ++ ['"']

/-- Literal text inside a formatted string. -/
def escape (s : Text) : Text := s.flatMap escapeLiteralChar

/-- The replacement field of a placeholder. -/
def substitution (p : Placeholder) : Text :=
  if p.optional then "\x7bvalues.get('" ++ p.name ++ "', '')\x7d"
  else "\x7bvalues['" ++ p.name ++ "']\x7d"

/-- The names that a module with placeholders imports. -/
def typingImport : Text := "from typing import Any, NotRequired, TypedDict"

/-- The definition of the mapping's type. -/
def varsDefinition (signature : Text) : Text :=
  "TemplateVars = TypedDict(\"TemplateVars\", " ++ signature ++ ")"

/-- The line that opens a module. -/
def header : Text := "\"\"\"" ++ generatedHeader ++ "\"\"\"\n"

/-- The module of a text without placeholders. -/
def constantModule (s : Text) : Text :=
  header ++ "\nTEMPLATE: str = " ++ stringLiteral s ++ "\n"

/-- The module of a template with the body of its formatted string. -/
def functionModule (body signature : Text) : Text :=
  header ++ "\n" ++ typingImport ++ "\n\n" ++ varsDefinition signature ++
    "\n\n\ndef render(values: TemplateVars) -> str:\n    return f\"" ++ body ++ "\"\n"

/-- The declaration of a module. -/
def declaration (constant : Bool) (signature : Text) : Text :=
  if constant then "TEMPLATE: str\n"
  else typingImport ++ "\n\n" ++ varsDefinition signature ++
    "\n\ndef render(values: TemplateVars) -> str: ...\n"

end PromptPress.Python

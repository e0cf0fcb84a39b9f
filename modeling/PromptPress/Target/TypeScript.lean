import PromptPress.Target.Basic
import PromptPress.Json.Writer
import PromptPress.Text.Digit

/-!
# TypeScript modules

A template without placeholders is a string constant.  A template with placeholders is a function
of one object whose body is a template literal: each placeholder is a substitution in it, and the
three characters that mean something in such a literal are escaped in the text between.
-/

namespace PromptPress.TypeScript

/-- The spelling of a known type. -/
def typeName : ValueType → Text
  | .string => "string"
  | .number => "number"
  | .boolean => "boolean"
  | .json => "Record<string, unknown>"

/-- The spelling of a placeholder's type; an unknown type is a string. -/
def spellType : TypeTag → Text
  | .known t => typeName t
  | .unknown _ => typeName .string

/-- A name that may stand without quotes: it is not empty and does not start with a digit. -/
def isBare : Text → Bool
  | [] => false
  | c :: _ => !Text.isDigitSign c

/-- The name of a property of the parameter object. -/
def propertyName (name : Text) : Text := if isBare name then name else Json.string true name

/-- The field of a placeholder in the type of the parameter object. -/
def field (p : Placeholder) : Text :=
  propertyName p.name ++ (if p.optional then ['?'] else []) ++ ": " ++ spellType p.type

/-- The type of the parameter object. -/
def signature (ps : List Placeholder) : Text :=
  if ps.isEmpty then "\x7b\x7d"
  else "\x7b " ++ Text.joinWith "; " ((Placeholder.order ps).map field) ++ " \x7d"

/-- A character of literal text inside a template literal. -/
def escapeChar (c : Char) : Text :=
  if c = '\\' ∨ c = '\x60' ∨ c = '$' then ['\\', c] else [c]

/-- Literal text inside a template literal. -/
def escape (s : Text) : Text := s.flatMap escapeChar

/-- The substitution of a placeholder. -/
def substitution (p : Placeholder) : Text :=
  if isBare p.name then "$\x7bvars." ++ p.name ++ "\x7d"
  else "$\x7bvars[" ++ Json.string true p.name ++ "]\x7d"

/-- The module of a text without placeholders. -/
def constantModule (s : Text) : Text := "export default " ++ Json.string false s ++ ";"

/-- The module of a template with the body of its literal. -/
def functionModule (body signature : Text) : Text :=
  "export default function(vars: " ++ signature ++ "): string \x7b\n  return \x60" ++ body ++
    "\x60;\n\x7d"

/-- The declaration of a module. -/
def declaration (constant : Bool) (signature : Text) : Text :=
  let kind : Text := if constant then "string" else "(vars: " ++ signature ++ ") => string"
  "declare const _default: " ++ kind ++ ";\nexport default _default;\n"

end PromptPress.TypeScript

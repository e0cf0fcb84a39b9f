import PromptPress.Text.Basic

/-!
# Placeholders

A placeholder is a parameter of a template: its name, whether a value may be left out, and the type
that its author declared.  The declared name of the type is kept as written; `Placeholder.type`
reads it, and a name that is none of the four known types is an unknown type.
-/

namespace PromptPress

/-- The known types of values. -/
inductive ValueType where
  | string
  | number
  | boolean
  | json
  deriving DecidableEq, Repr

namespace ValueType

/-- The name that declares the type. -/
def name : ValueType → Text
  | string => "string"
  | number => "number"
  | boolean => "boolean"
  | json => "json"

/-- All known types. -/
def all : List ValueType := [string, number, boolean, json]

/-- The type that a name declares. -/
def ofName? (s : Text) : Option ValueType := all.find? fun t => t.name == s

end ValueType

/-- The type of a placeholder: a known one, or a name that is none of them. -/
inductive TypeTag where
  | known (type : ValueType)
  | unknown (name : Text)
  deriving DecidableEq, Repr

/-- Reads a declared type; without a declaration the type is a string. -/
def TypeTag.ofDeclared : Option Text → TypeTag
  | none => .known .string
  | some s =>
    match ValueType.ofName? s with
    | some t => .known t
    | none => .unknown s

/-- A parameter of a template. -/
structure Placeholder where
  name : Text
  optional : Bool := false
  /-- The spelling that stands in the text. -/
  raw : Text := []
  /-- The declared name of the type. -/
  typeName : Option Text := none
  deriving DecidableEq, Repr, Inhabited

namespace Placeholder

/-- The type of the values. -/
def type (p : Placeholder) : TypeTag := TypeTag.ofDeclared p.typeName

/-- The declaration that the placeholder stands for: its name, a mark if it is optional, and its
declared type. -/
def key (p : Placeholder) : Text :=
  p.name ++ (if p.optional then ['?'] else []) ++
    match p.typeName with
    | some (c :: s) => ':' :: c :: s
    | _ => []

/-- Required placeholders first, then the optional ones, each in the given order. -/
def order (ps : List Placeholder) : List Placeholder :=
  ps.filter (! ·.optional) ++ ps.filter (·.optional)

end Placeholder

end PromptPress

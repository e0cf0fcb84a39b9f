import PromptPress.Placeholder.Basic

/-!
# Warnings about placeholders

An unknown type is used as a string, and a name may be declared in several forms.  Neither stops a
template from being made, so both are reported as warnings: unknown types first, then the names
with several forms.
-/

namespace PromptPress.Placeholder

/-- The warning about a type that is not known. -/
def unknownTypeWarning (p : Placeholder) (typeName : Text) : Text :=
  "Unknown type '" ++ typeName ++ "' in " ++ p.raw ++ "; treated as string"

/-- The warning about a name in several forms. -/
def severalFormsWarning (name : Text) (raws : List Text) : Text :=
  "Placeholder '" ++ name ++ "' is declared in several forms: " ++ Text.joinWith ", " raws

/-- The warnings about unknown types. -/
def unknownTypes (ps : List Placeholder) : List Text :=
  ps.filterMap fun p =>
    match p.type with
    | .unknown t => some (unknownTypeWarning p t)
    | .known _ => none

/-- The names of placeholders, each at its first occurrence. -/
def names (ps : List Placeholder) : List Text :=
  (ps.map (·.name)).foldl (fun seen n => if seen.contains n then seen else seen ++ [n]) []

/-- The spellings that a name occurs in. -/
def rawsOf (name : Text) (ps : List Placeholder) : List Text :=
  (ps.filter (·.name == name)).map (·.raw)

/-- The warnings about names in several forms. -/
def severalForms (ps : List Placeholder) : List Text :=
  (names ps).filterMap fun n =>
    let raws := rawsOf n ps
    if 1 < raws.length then some (severalFormsWarning n raws) else none

/-- All warnings about a list of placeholders. -/
def warnings (ps : List Placeholder) : List Text := unknownTypes ps ++ severalForms ps

end PromptPress.Placeholder

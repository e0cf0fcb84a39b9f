import PromptPress.Slot.Scan

/-!
# Segments

A template is a text in which some slots are to be filled.  A slot is filled if its spelling is
that of a listed placeholder, so `{x}` never stands in for `{x?}`; all other slots are
literal text.  Where two placeholders have one spelling the first is used.
-/

namespace PromptPress.Template

/-- A run of literal text, or a placeholder to be filled in. -/
abbrev Segment := Run Placeholder

/-- The listed placeholder that a slot stands for. -/
def placeholderOf? (ps : List Placeholder) (s : Slot) : Option Placeholder :=
  ps.find? fun p => p.raw == s.written

/-- A slot of a listed placeholder becomes that placeholder, any other becomes its characters. -/
def fill (ps : List Placeholder) : Atom Slot → List (Atom Placeholder)
  | .char c => [.char c]
  | .item s =>
    match placeholderOf? ps s with
    | some p => [.item p]
    | none => s.written.map .char

/-- The segments of a text with respect to a list of placeholders. -/
def segments (s : Text) (ps : List Placeholder) : List Segment :=
  Run.group ((Slot.atoms s).flatMap (fill ps))

end PromptPress.Template

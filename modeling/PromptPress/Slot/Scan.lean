import PromptPress.Slot.Basic

/-!
# Finding slots in a text

`atoms` reads a text from left to right into slots and the characters between them.  Where an
opening brace begins no slot it is a character like any other, and reading goes on behind it, so
the slot in `{{name}}` is found.

`Run.group` gathers the characters between two items into one run.  Tokens are the runs of a text
together with the places where they start.
-/

namespace PromptPress

/-- A character of a text, or something that stands in its place. -/
inductive Atom (α : Type) where
  | char (c : Char)
  | item (a : α)
  deriving DecidableEq, Repr

/-- A run of characters, or an item between such runs. -/
inductive Run (α : Type) where
  | literal (text : Text)
  | item (a : α)
  deriving DecidableEq, Repr

/-- Puts an atom in front of runs; a character joins the run that it touches. -/
def Run.cons {α : Type} : Atom α → List (Run α) → List (Run α)
  | .char c, .literal t :: rs => .literal (c :: t) :: rs
  | .char c, rs => .literal [c] :: rs
  | .item a, rs => .item a :: rs

/-- Gathers characters that stand side by side. -/
def Run.group {α : Type} (as : List (Atom α)) : List (Run α) := as.foldr Run.cons []

namespace Slot

/-- Reads slots and characters; `skip` characters belong to the slot read last. -/
def atomsFrom : Nat → Text → List (Atom Slot)
  | _, [] => []
  | skip + 1, _ :: s => atomsFrom skip s
  | 0, c :: s =>
    match read? (c :: s) with
    | some (slot, _) => .item slot :: atomsFrom (slot.written.length - 1) s
    | none => .char c :: atomsFrom 0 s

/-- The slots of a text and the characters between them. -/
def atoms (s : Text) : List (Atom Slot) := atomsFrom 0 s

/-- The slots of a text, in order. -/
def all (s : Text) : List Slot :=
  (atoms s).filterMap fun
    | .item slot => some slot
    | .char _ => none

end Slot

/-- A run of literal text or a slot, with the place where it starts. -/
structure Token where
  run : Run Slot
  start : Nat
  deriving DecidableEq, Repr

namespace Token

/-- The characters of a run. -/
def runText : Run Slot → Text
  | .literal t => t
  | .item s => s.written

/-- The characters of a token. -/
def text (t : Token) : Text := runText t.run

/-- The place behind a token. -/
def stop (t : Token) : Nat := t.start + t.text.length

/-- Numbers runs by the places where they start. -/
def place : Nat → List (Run Slot) → List Token
  | _, [] => []
  | n, r :: rs => ⟨r, n⟩ :: place (n + (runText r).length) rs

/-- The tokens of a text. -/
def scan (s : Text) : List Token := place 0 (Run.group (Slot.atoms s))

/-- The slot that starts at a place of the text, if there is one. -/
def slotAt? (s : Text) (start : Nat) : Option Token :=
  (Slot.read? (s.drop start)).map fun (slot, _) => ⟨.item slot, start⟩

end Token

end PromptPress

import PromptPress.Proofs.Slot.Runs

/-!
# Reading what stands between quotes

A `Quotation` is the rule by which a language reads a literal: the quote that closes it, and how the
first unit of the rest is read.  A unit is a character, an escape or a substitution, and it stands
for some atoms.  `Quotation.read` reads unit after unit up to the closing quote.

`Reads w as rest` says that in front of `rest` the text `w` is read as the atoms `as`, after which
reading goes on with `rest`.  Pieces that are read so can be put side by side (`Reads.append`), and
`runs?_flatMap` puts together a whole template: its literals may depend on what follows them, which
is never another literal.
-/

namespace PromptPress

/-- The rule by which a literal is read, once its opening quote is passed. -/
structure Quotation (α : Type) where
  /-- The quote that ends the literal. -/
  closing : Char
  /-- The atoms of the first unit, and what follows it. -/
  unit? : Text → Option (List (Atom α) × Text)
  shorter : ∀ {s : Text} {as : List (Atom α)} {r : Text}, unit? s = some (as, r) →
    r.length < s.length

namespace Quotation

variable {α β : Type}

/-- Reads units up to the closing quote: what they stand for, and what follows the quote. -/
def read (Q : Quotation α) (s : Text) : Option (List (Atom α) × Text) :=
  match s with
  | [] => none
  | c :: s =>
    if c = Q.closing then some ([], s)
    else
      match _h : Q.unit? (c :: s) with
      | none => none
      | some (as, r) => (Q.read r).map fun (bs, e) => (as ++ bs, e)
termination_by s.length
decreasing_by exact Q.shorter _h

/-- Reads up to the closing quote, with the characters gathered. -/
def runs? (Q : Quotation α) (s : Text) : Option (List (Run α) × Text) :=
  (Q.read s).map fun (as, r) => (Run.group as, r)

theorem read_closing (Q : Quotation α) (s : Text) : Q.read (Q.closing :: s) = some ([], s) := by
  rw [read, if_pos rfl]

theorem read_unit {Q : Quotation α} {c : Char} {s : Text} {as : List (Atom α)} {r : Text}
    (hc : c ≠ Q.closing) (h : Q.unit? (c :: s) = some (as, r)) :
    Q.read (c :: s) = (Q.read r).map fun (bs, e) => (as ++ bs, e) := by
  rw [read, if_neg hc]
  split
  · rename_i hn
    rw [h] at hn
    simp at hn
  · rename_i as' r' hs
    rw [h] at hs
    obtain ⟨rfl, rfl⟩ : as = as' ∧ r = r' := by simpa using hs
    rfl

/-! ### Pieces of a literal -/

/-- In front of `rest`, the text `w` is read as `as`, and then reading goes on with `rest`. -/
def Reads (Q : Quotation α) (w : Text) (as : List (Atom α)) (rest : Text) : Prop :=
  Q.read (w ++ rest) = (Q.read rest).map fun (bs, e) => (as ++ bs, e)

variable {Q : Quotation α}

theorem Reads.nil (rest : Text) : Q.Reads [] [] rest := by
  simp [Reads]

/-- A unit is a piece. -/
theorem Reads.unit {c : Char} {w : Text} {as : List (Atom α)} {rest : Text} (hc : c ≠ Q.closing)
    (h : Q.unit? (c :: (w ++ rest)) = some (as, rest)) : Q.Reads (c :: w) as rest :=
  read_unit hc h

/-- **Pieces can be put side by side.** -/
theorem Reads.append {v w : Text} {as bs : List (Atom α)} {rest : Text}
    (hv : Q.Reads v as (w ++ rest)) (hw : Q.Reads w bs rest) :
    Q.Reads (v ++ w) (as ++ bs) rest := by
  rw [Reads] at hv hw ⊢
  rw [List.append_assoc, hv, hw, Option.map_map]
  simp [Function.comp_def]

theorem Reads.flatMap {code : β → Text} {out : β → List (Atom α)}
    (h : ∀ b r, Q.Reads (code b) (out b) r) (bs : List β) (rest : Text) :
    Q.Reads (bs.flatMap code) (bs.flatMap out) rest := by
  induction bs with
  | nil => exact Reads.nil rest
  | cons b bs ih =>
    rw [List.flatMap_cons, List.flatMap_cons]
    exact (h b _).append ih

/-- Before the closing quote, a piece is the whole literal. -/
theorem Reads.read_eq {w : Text} {as : List (Atom α)} {rest : Text}
    (h : Q.Reads w as (Q.closing :: rest)) : Q.read (w ++ Q.closing :: rest) = some (as, rest) := by
  rw [Reads, Q.read_closing] at h
  simpa using h

/-! ### Templates -/

/-- Separated runs are read one after another, if each item is read whatever follows it and each
literal is read before anything that an item or the end can begin with. -/
theorem reads_flatMap {follow : Text → Prop} {code : Run β → Text} {out : Run β → List (Atom α)}
    {rs : List (Run β)} (hs : Run.Separated rs)
    (hitem : ∀ b, .item b ∈ rs → ∀ r, Q.Reads (code (.item b)) (out (.item b)) r ∧
      follow (code (.item b) ++ r))
    (hlit : ∀ t r, follow r → Q.Reads (code (.literal t)) (out (.literal t)) r)
    {rest : Text} (hrest : follow rest) : Q.Reads (rs.flatMap code) (rs.flatMap out) rest := by
  induction rs with
  | nil => exact Reads.nil rest
  | cons r rs ih =>
    have htail := ih hs.tail fun b hb => hitem b (List.mem_cons_of_mem _ hb)
    rw [List.flatMap_cons, List.flatMap_cons]
    refine Reads.append ?_ htail
    cases r with
    | item b => exact (hitem b List.mem_cons_self _).1
    | literal t =>
      refine hlit t _ ?_
      cases rs with
      | nil => exact hrest
      | cons r' rs =>
        cases r' with
        | literal u => exact hs.2.1.elim
        | item b =>
          rw [List.flatMap_cons, List.append_assoc]
          exact (hitem b (List.mem_cons_of_mem _ List.mem_cons_self) _).2

/-- **A template is read back run by run**, up to its closing quote and no further. -/
theorem runs?_flatMap (follow : Text → Prop) {code : Run β → Text} {g : Text → Text} {f : β → α}
    {rs : List (Run β)} (hs : Run.Separated rs) (hg : ∀ t, t ≠ [] → g t ≠ [])
    (hitem : ∀ b, .item b ∈ rs → ∀ r, Q.Reads (code (.item b)) [.item (f b)] r ∧
      follow (code (.item b) ++ r))
    (hlit : ∀ t r, follow r → Q.Reads (code (.literal t)) ((g t).map .char) r)
    {rest : Text} (hrest : follow (Q.closing :: rest)) :
    Q.runs? (rs.flatMap code ++ Q.closing :: rest) = some (rs.map (Run.bimap g f), rest) := by
  have h : Q.Reads (rs.flatMap code) (rs.flatMap fun r => (r.bimap g f).atoms)
      (Q.closing :: rest) := reads_flatMap hs hitem hlit hrest
  rw [runs?, h.read_eq, Option.map_some, ← List.flatMap_map]
  dsimp only
  rw [Run.group_flatMap_atoms (hs.bimap f hg)]

end Quotation

end PromptPress

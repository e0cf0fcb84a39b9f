import PromptPress.Slot.Scan
import Mathlib.Data.List.Chain

/-!
# Runs

`Run.group` gathers characters that stand side by side, and `Run.atoms` takes a run apart again.
Gathering loses nothing (`flatMap_atoms_group`), and what it gives is separated: no run of
characters is empty, and no two of them touch (`separated_group`).  Among the separated lists of
runs there is only one for each list of atoms (`group_eq_iff`), so a list of runs can be recognised
as the gathered one without looking at how gathering proceeds.  Whether runs are separated can be
told from the runs and from the pairs of neighbours among them (`separated_iff`).
-/

namespace PromptPress

variable {α β : Type}

/-- The atom with its item replaced. -/
def Atom.map (f : α → β) : Atom α → Atom β
  | .char c => .char c
  | .item a => .item (f a)

/-- The item of an atom. -/
def Atom.item? : Atom α → Option α
  | .char _ => none
  | .item a => some a

/-- The atom spelled out. -/
def Atom.spell (f : α → Text) : Atom α → Text
  | .char c => [c]
  | .item a => f a

namespace Run

/-- The run with its text and its item replaced. -/
def bimap (g : Text → Text) (f : α → β) : Run α → Run β
  | .literal t => .literal (g t)
  | .item a => .item (f a)

/-- The run with its item replaced. -/
def map (f : α → β) : Run α → Run β := bimap id f

/-- The atoms that a run is made of. -/
def atoms : Run α → List (Atom α)
  | .literal t => t.map .char
  | .item a => [.item a]

/-- The item of a run. -/
def item? : Run α → Option α
  | .literal _ => none
  | .item a => some a

/-- The run spelled out, its text one way and its item another. -/
def spell (g : Text → Text) (f : α → Text) : Run α → Text
  | .literal t => g t
  | .item a => f a

/-- Is the run one of characters? -/
def isLiteral : Run α → Bool
  | .literal _ => true
  | .item _ => false

/-- The items of runs, in order. -/
def items (rs : List (Run α)) : List α := rs.filterMap item?

theorem mem_items {a : α} {rs : List (Run α)} : a ∈ items rs ↔ .item a ∈ rs := by
  simp only [items, List.mem_filterMap]
  constructor
  · rintro ⟨r, hr, ha⟩
    cases r with
    | literal t => simp [item?] at ha
    | item b =>
      obtain rfl : b = a := by simpa [item?] using ha
      exact hr
  · exact fun h => ⟨.item a, h, rfl⟩

theorem items_map (g : Text → Text) (f : α → β) (rs : List (Run α)) :
    items (rs.map (bimap g f)) = (items rs).map f := by
  induction rs with
  | nil => rfl
  | cons r rs ih =>
    cases r with
    | literal t => exact ih
    | item a => exact congrArg (f a :: ·) ih

theorem spell_bimap (g h : Text → Text) (f : α → β) (k : β → Text) (r : Run α) :
    (r.bimap g f).spell h k = r.spell (h ∘ g) (k ∘ f) := by
  cases r <;> rfl

/-! ### Separated runs -/

/-- No run of characters comes first. -/
def StartsApart : List (Run α) → Prop
  | .literal _ :: _ => False
  | _ => True

/-- No run of characters is empty, and no two of them touch. -/
def Separated : List (Run α) → Prop
  | [] => True
  | .literal t :: rs => t ≠ [] ∧ StartsApart rs ∧ Separated rs
  | .item _ :: rs => Separated rs

theorem Separated.tail {r : Run α} {rs : List (Run α)} (h : Separated (r :: rs)) :
    Separated rs := by
  cases r with
  | literal t => exact h.2.2
  | item a => exact h

theorem Separated.bimap {rs : List (Run α)} (h : Separated rs) {g : Text → Text} (f : α → β)
    (hg : ∀ t, t ≠ [] → g t ≠ []) : Separated (rs.map (Run.bimap g f)) := by
  induction rs with
  | nil => trivial
  | cons r rs ih =>
    cases r with
    | item a => exact ih h
    | literal t =>
      refine ⟨hg t h.1, ?_, ih h.2.2⟩
      cases rs with
      | nil => trivial
      | cons r' rs =>
        cases r' with
        | literal u => exact h.2.1.elim
        | item a => trivial

theorem startsApart_iff {rs : List (Run α)} :
    StartsApart rs ↔ ∀ r ∈ rs.head?, r.isLiteral = false := by
  cases rs with
  | nil => simp [StartsApart]
  | cons r rs => cases r <;> simp [StartsApart, isLiteral]

/-- Separated runs, told from the runs and from the pairs of neighbours. -/
theorem separated_iff {rs : List (Run α)} : Separated rs ↔ (∀ t, .literal t ∈ rs → t ≠ []) ∧
    rs.IsChain fun a b => a.isLiteral = true → b.isLiteral = false := by
  induction rs with
  | nil => exact iff_of_true trivial ⟨by simp, .nil⟩
  | cons r rs ih =>
    rw [List.isChain_cons]
    cases r with
    | item a => simp [Separated, ih, isLiteral]
    | literal t =>
      have hfilled : (∀ u, .literal u ∈ Run.literal (α := α) t :: rs → u ≠ []) ↔
          t ≠ [] ∧ ∀ u, .literal u ∈ rs → u ≠ [] := by
        simp only [List.mem_cons, Run.literal.injEq, or_imp, forall_and, forall_eq]
      have hhead : (∀ r ∈ rs.head?, (Run.literal (α := α) t).isLiteral = true →
          r.isLiteral = false) ↔ StartsApart rs := by
        rw [startsApart_iff]
        exact forall₂_congr fun r _ => forall_prop_of_true rfl
      rw [Separated, hfilled, hhead, ih, and_assoc, and_left_comm (a := StartsApart rs)]

/-! ### Gathering -/

@[simp] theorem group_nil : group ([] : List (Atom α)) = [] := rfl

theorem group_cons (a : Atom α) (as : List (Atom α)) : group (a :: as) = cons a (group as) := rfl

theorem flatMap_atoms_cons (a : Atom α) (rs : List (Run α)) :
    (cons a rs).flatMap atoms = a :: rs.flatMap atoms := by
  cases a with
  | item a => rfl
  | char c =>
    cases rs with
    | nil => rfl
    | cons r rs => cases r <;> rfl

/-- **Gathering loses nothing.** -/
theorem flatMap_atoms_group (as : List (Atom α)) : (group as).flatMap atoms = as := by
  induction as with
  | nil => rfl
  | cons a as ih => rw [group_cons, flatMap_atoms_cons, ih]

theorem Separated.cons (a : Atom α) {rs : List (Run α)} (h : Separated rs) :
    Separated (Run.cons a rs) := by
  cases a with
  | item a => exact h
  | char c =>
    cases rs with
    | nil => exact ⟨List.cons_ne_nil _ _, trivial, trivial⟩
    | cons r rs =>
      cases r with
      | literal t => exact ⟨List.cons_ne_nil _ _, h.2⟩
      | item a => exact ⟨List.cons_ne_nil _ _, trivial, h⟩

theorem separated_group (as : List (Atom α)) : Separated (group as) := by
  induction as with
  | nil => trivial
  | cons a as ih => exact ih.cons a

/-- Characters in front of runs that start apart make one run of their own. -/
theorem group_map_char_append {t : Text} (ht : t ≠ []) {as : List (Atom α)}
    (h : StartsApart (group as)) : group (t.map .char ++ as) = .literal t :: group as := by
  induction t with
  | nil => exact absurd rfl ht
  | cons c t ih =>
    rw [List.map_cons, List.cons_append, group_cons]
    cases t with
    | nil =>
      rw [List.map_nil, List.nil_append]
      revert h
      cases group as with
      | nil => intro _; rfl
      | cons r rs =>
        cases r with
        | literal u => exact fun h => h.elim
        | item a => intro _; rfl
    | cons d t => rw [ih (List.cons_ne_nil d t)]; rfl

/-- **Separated runs are what their atoms are gathered to.** -/
theorem group_flatMap_atoms {rs : List (Run α)} (h : Separated rs) :
    group (rs.flatMap atoms) = rs := by
  induction rs with
  | nil => rfl
  | cons r rs ih =>
    rw [List.flatMap_cons]
    cases r with
    | item a => exact congrArg (Run.item a :: ·) (ih h)
    | literal t =>
      have hrs := ih h.2.2
      rw [atoms, group_map_char_append h.1 (by rw [hrs]; exact h.2.1), hrs]

theorem group_eq_iff {as : List (Atom α)} {rs : List (Run α)} :
    group as = rs ↔ Separated rs ∧ rs.flatMap atoms = as := by
  constructor
  · rintro rfl
    exact ⟨separated_group as, flatMap_atoms_group as⟩
  · rintro ⟨h, rfl⟩
    exact group_flatMap_atoms h

/-- Runs are spelled like the atoms that they were gathered from. -/
theorem flatMap_spell_group (f : α → Text) (as : List (Atom α)) :
    (group as).flatMap (spell id f) = as.flatMap (Atom.spell f) := by
  have hrun : ∀ r : Run α, r.spell id f = r.atoms.flatMap (Atom.spell f) := by
    intro r
    cases r with
    | literal t => simp [spell, atoms, List.flatMap_map, Atom.spell]
    | item a => simp [spell, atoms, Atom.spell]
  calc (group as).flatMap (spell id f)
      = (group as).flatMap fun r => r.atoms.flatMap (Atom.spell f) := by
        rw [← funext hrun]
    _ = ((group as).flatMap atoms).flatMap (Atom.spell f) := List.flatMap_assoc.symm
    _ = as.flatMap (Atom.spell f) := by rw [flatMap_atoms_group]

/-! ### Where characters go -/

/-- Characters in front begin the first run. -/
theorem group_map_char_append_eq {t : Text} (ht : t ≠ []) (as : List (Atom α)) :
    ∃ u rs, group (t.map .char ++ as) = .literal (t ++ u) :: rs := by
  induction t with
  | nil => exact absurd rfl ht
  | cons c t ih =>
    rw [List.map_cons, List.cons_append, group_cons]
    cases t with
    | nil =>
      rw [List.map_nil, List.nil_append]
      cases group as with
      | nil => exact ⟨[], [], rfl⟩
      | cons r rs =>
        cases r with
        | literal u => exact ⟨u, rs, rfl⟩
        | item a => exact ⟨[], .item a :: rs, rfl⟩
    | cons d t =>
      obtain ⟨u, rs, h⟩ := ih (List.cons_ne_nil d t)
      exact ⟨u, rs, by rw [h]; rfl⟩

/-- A run of characters can only grow by what comes in front. -/
theorem exists_literal_group_append (as : List (Atom α)) {bs : List (Atom α)} {t : Text}
    (h : .literal t ∈ group bs) : ∃ u, .literal u ∈ group (as ++ bs) ∧ t <:+ u := by
  induction as with
  | nil => exact ⟨t, h, List.suffix_rfl⟩
  | cons a as ih =>
    obtain ⟨u, hu, htu⟩ := ih
    rw [List.cons_append, group_cons]
    revert hu
    cases group (as ++ bs) with
    | nil => intro hu; simp at hu
    | cons r rs =>
      intro hu
      cases a with
      | item a => exact ⟨u, List.mem_cons_of_mem _ hu, htu⟩
      | char c =>
        cases r with
        | item b => exact ⟨u, List.mem_cons_of_mem _ hu, htu⟩
        | literal v =>
          rcases List.mem_cons.1 hu with he | hm
          · obtain rfl : u = v := by simpa using he
            exact ⟨c :: u, List.mem_cons_self, htu.trans (List.suffix_cons c u)⟩
          · exact ⟨u, List.mem_cons_of_mem _ hm, htu⟩

/-- **Characters that stand side by side come to stand in one run.** -/
theorem exists_literal_of_infix {t : Text} (ht : t ≠ []) {as : List (Atom α)}
    (h : t.map .char <:+: as) : ∃ u, .literal u ∈ group as ∧ t <:+: u := by
  obtain ⟨bs, cs, rfl⟩ := h
  obtain ⟨u, rs, hg⟩ := group_map_char_append_eq ht cs
  have hm : .literal (t ++ u) ∈ group (t.map .char ++ cs) := by rw [hg]; exact List.mem_cons_self
  obtain ⟨v, hv, hs⟩ := exists_literal_group_append bs hm
  rw [List.append_assoc]
  exact ⟨v, hv, (List.prefix_append t u).isInfix.trans hs.isInfix⟩

/-! ### Gathering and replacing -/

theorem atoms_map (f : α → β) (r : Run α) : (r.map f).atoms = r.atoms.map (Atom.map f) := by
  cases r with
  | literal t => simp [map, bimap, atoms, Atom.map, Function.comp_def]
  | item a => rfl

theorem group_map (f : α → β) (as : List (Atom α)) :
    group (as.map (Atom.map f)) = (group as).map (Run.map f) := by
  refine group_eq_iff.2 ⟨(separated_group as).bimap f fun _ ht => ht, ?_⟩
  rw [List.flatMap_map]
  simp only [atoms_map]
  rw [← List.map_flatMap, flatMap_atoms_group]

theorem items_group (as : List (Atom α)) : items (group as) = as.filterMap Atom.item? := by
  induction as with
  | nil => rfl
  | cons a as ih =>
    rw [group_cons]
    cases a with
    | item a => exact congrArg (a :: ·) ih
    | char c =>
      rw [show (Atom.char c :: as).filterMap Atom.item? = as.filterMap Atom.item? from rfl, ← ih]
      cases group as with
      | nil => rfl
      | cons r rs => cases r <;> rfl

end Run

end PromptPress

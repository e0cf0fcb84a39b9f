import PromptPress.Proofs.Slot.Reading
import PromptPress.Proofs.Slot.Runs
import PromptPress.Proofs.Text.Parts

/-!
# The slots of a text

A text is read from left to right, a slot at a time where there is one and a character at a time
where there is none.  `atoms_induction` is the induction that follows this reading.  With it,
reading loses nothing (`flatMap_spell_atoms`), every slot that is found is well formed
(`wellFormed_of_mem_all`), and no slot is overlooked: a run of characters between two slots has no
slot inside (`not_occursIn_of_literal_mem`).
-/

namespace PromptPress

namespace Slot

/-- Does a slot stand somewhere in the text? -/
def OccursIn (t : Text) : Prop := ∃ w : Slot, w.WellFormed ∧ w.written <:+: t

/-! ### Reading step by step -/

theorem atomsFrom_eq_drop (n : Nat) (s : Text) : atomsFrom n s = atomsFrom 0 (s.drop n) := by
  induction n generalizing s with
  | zero => rfl
  | succ n ih =>
    cases s with
    | nil => simp [atomsFrom]
    | cons c s => rw [atomsFrom, List.drop_succ_cons, ih]

@[simp] theorem atoms_nil : atoms [] = [] := rfl

/-- Where a slot stands, it is read as one. -/
theorem atoms_written_append {w : Slot} (h : w.WellFormed) (r : Text) :
    atoms (w.written ++ r) = .item w :: atoms r := by
  obtain ⟨c, u, hu⟩ := List.exists_cons_of_ne_nil w.written_ne_nil
  have hread := read?_written_append h r
  rw [hu, List.cons_append] at hread ⊢
  rw [atoms, atomsFrom, hread]
  dsimp only
  rw [atomsFrom_eq_drop, hu, List.length_cons, Nat.add_sub_cancel, List.drop_left, atoms]

/-- Where no slot stands, a character is read. -/
theorem atoms_cons {c : Char} {s : Text} (h : read? (c :: s) = none) :
    atoms (c :: s) = .char c :: atoms s := by
  rw [atoms, atomsFrom, h, atoms]

/-- The induction that follows the reading of a text. -/
@[elab_as_elim]
theorem atoms_induction {motive : Text → Prop} (nil : motive [])
    (slot : ∀ (w : Slot) (r : Text), w.WellFormed → motive r → motive (w.written ++ r))
    (char : ∀ (c : Char) (s : Text), read? (c :: s) = none → motive s → motive (c :: s))
    (s : Text) : motive s := by
  have hne : ∀ t, (∃ w : Slot, w.WellFormed ∧ w.written = t) → t ≠ [] := by
    rintro t ⟨w, -, rfl⟩
    exact w.written_ne_nil
  refine Text.pieces_induction hne nil ?_ ?_ s
  · rintro t r ⟨w, hw, rfl⟩ ih
    exact slot w r hw ih
  · intro c s hnone ih
    refine char c s (Option.eq_none_iff_forall_ne_some.2 fun ⟨w, r⟩ hr => ?_) ih
    obtain ⟨hw, hs⟩ := read?_eq_some_iff.1 hr
    exact hnone _ ⟨w, hw, rfl⟩ ⟨r, hs.symm⟩

/-! ### What reading gives -/

/-- **Reading loses nothing.** -/
theorem flatMap_spell_atoms (s : Text) : (atoms s).flatMap (Atom.spell written) = s := by
  induction s using atoms_induction with
  | nil => rfl
  | slot w r hw ih => rw [atoms_written_append hw, List.flatMap_cons, ih]; rfl
  | char c s hr ih => rw [atoms_cons hr, List.flatMap_cons, ih]; rfl

theorem all_eq (s : Text) : all s = (atoms s).filterMap Atom.item? := by
  rw [all]
  congr 1
  funext a
  cases a <;> rfl

theorem all_written_append {w : Slot} (h : w.WellFormed) (r : Text) :
    all (w.written ++ r) = w :: all r := by
  rw [all_eq, all_eq, atoms_written_append h]
  rfl

theorem all_flatMap_written {ws : List Slot} (h : ∀ w ∈ ws, w.WellFormed) :
    all (ws.flatMap written) = ws := by
  induction ws with
  | nil => rfl
  | cons w ws ih =>
    obtain ⟨hw, hws⟩ := List.forall_mem_cons.1 h
    rw [List.flatMap_cons, all_written_append hw, ih hws]

theorem all_cons {c : Char} {s : Text} (h : read? (c :: s) = none) : all (c :: s) = all s := by
  rw [all_eq, all_eq, atoms_cons h]
  rfl

theorem mem_all {w : Slot} {s : Text} : w ∈ all s ↔ .item w ∈ atoms s := by
  rw [all_eq, List.mem_filterMap]
  constructor
  · rintro ⟨a, ha, hw⟩
    cases a with
    | char c => simp [Atom.item?] at hw
    | item v =>
      obtain rfl : v = w := by simpa [Atom.item?] using hw
      exact ha
  · exact fun h => ⟨.item w, h, rfl⟩

/-- **Every slot that is found is well formed.** -/
theorem wellFormed_of_mem_all {s : Text} {w : Slot} (h : w ∈ all s) : w.WellFormed := by
  induction s using atoms_induction with
  | nil => simp [all, atoms_nil] at h
  | slot v r hv ih =>
    rw [all_written_append hv] at h
    rcases List.mem_cons.1 h with rfl | h
    · exact hv
    · exact ih h
  | char c s hr ih =>
    rw [all_cons hr] at h
    exact ih h

/-! ### The runs of a text -/

theorem flatMap_runText_group (s : Text) : (Run.group (atoms s)).flatMap Token.runText = s := by
  have hrun : Token.runText = Run.spell id written := by
    funext r
    cases r <;> rfl
  rw [hrun, Run.flatMap_spell_group, flatMap_spell_atoms]

theorem not_occursIn_nil : ¬ OccursIn [] := by
  rintro ⟨w, -, h⟩
  exact w.written_ne_nil (List.infix_nil.1 h)

/-- Where no slot is read from a text, a character in front of a slotless front of it stays so. -/
theorem not_occursIn_cons {c : Char} {s t : Text} (hr : read? (c :: s) = none) (hp : t <+: s)
    (ht : ¬ OccursIn t) : ¬ OccursIn (c :: t) := by
  rintro ⟨w, hw, hi⟩
  rcases List.infix_cons_iff.1 hi with ⟨u, hu⟩ | hi
  · obtain ⟨v, rfl⟩ := hp
    have hread := read?_written_append hw (u ++ v)
    rw [← List.append_assoc, hu, List.cons_append, hr] at hread
    simp at hread
  · exact ht ⟨w, hw, hi⟩

/-- **No slot is overlooked:** in a run of characters between slots there is none. -/
theorem not_occursIn_of_literal_mem {s t : Text} (h : .literal t ∈ Run.group (atoms s)) :
    ¬ OccursIn t := by
  induction s using atoms_induction generalizing t with
  | nil => simp [atoms_nil] at h
  | slot w r hw ih =>
    rw [atoms_written_append hw, Run.group_cons] at h
    rcases List.mem_cons.1 h with h | h
    · simp at h
    · exact ih h
  | char c s hr ih =>
    rw [atoms_cons hr, Run.group_cons] at h
    have hs := flatMap_runText_group s
    have hc : ¬ OccursIn [c] := not_occursIn_cons hr List.nil_prefix not_occursIn_nil
    -- the character joins the first run of the rest, if that is a run of characters
    cases hg : Run.group (atoms s) with
    | nil =>
      rw [hg] at h
      obtain rfl : t = [c] := by simpa [Run.cons] using h
      exact hc
    | cons r rs =>
      rw [hg] at h hs ih
      cases r with
      | item w =>
        rcases List.mem_cons.1 h with h | h
        · obtain rfl : t = [c] := by simpa using h
          exact hc
        · exact ih h
      | literal u =>
        rcases List.mem_cons.1 h with h | h
        · obtain rfl : t = c :: u := by simpa using h
          exact not_occursIn_cons hr ⟨_, hs⟩ (ih List.mem_cons_self)
        · exact ih (List.mem_cons_of_mem _ h)

end Slot

end PromptPress

import PromptPress.Proofs.Slot.Grammar
import PromptPress.Proofs.Text.Parts

/-!
# Literal text in front of slots

A slot has no opening brace behind its front, so no slot begins in literal text and ends behind a
brace that follows it.  Literal text without a slot is read as its characters, in front of a slot or
of the end (`atoms_append`), and a whole text is such literal text or such literal text with a slot
and a rest behind it (`literal_induction`).
-/

namespace PromptPress.Slot

variable {l r : Text}

theorem OccursIn.mono {t u : Text} (h : OccursIn t) (hi : t <:+: u) : OccursIn u := by
  obtain ⟨w, hw, hp⟩ := h
  exact ⟨w, hw, hp.trans hi⟩

/-- What may follow literal text: nothing, or an opening brace. -/
def Follows (r : Text) : Prop := r = [] ∨ ∃ u, r = '{' :: u

theorem follows_written_append (w : Slot) (r : Text) : Follows (w.written ++ r) :=
  .inr ⟨_, rfl⟩

theorem read?_append_eq_none (hl : ¬ OccursIn l) (hne : l ≠ []) (hr : Follows r) :
    read? (l ++ r) = none := by
  by_contra h
  obtain ⟨⟨w, x⟩, hread⟩ := Option.ne_none_iff_exists'.1 h
  obtain ⟨hw, he⟩ := read?_eq_some_iff.1 hread
  have hp : w.written <+: l ++ r := ⟨x, he.symm⟩
  refine hl ⟨w, hw, List.IsPrefix.isInfix ?_⟩
  rcases hr with rfl | ⟨u, rfl⟩
  · rwa [List.append_nil] at hp
  · obtain ⟨c, l, rfl⟩ := List.exists_cons_of_ne_nil hne
    have htail : w.written = '{' :: w.written.tail := rfl
    rw [htail] at hp ⊢
    obtain ⟨hc, hp⟩ := List.cons_prefix_cons.1 hp
    exact List.cons_prefix_cons.2 ⟨hc, Text.prefix_of_notMem (brace_notMem_tail_written hw) hp⟩

/-- **Literal text is read as its characters.** -/
theorem atoms_append (hl : ¬ OccursIn l) (hr : Follows r) :
    atoms (l ++ r) = l.map .char ++ atoms r := by
  induction l with
  | nil => rfl
  | cons c l ih =>
    have hread := read?_append_eq_none hl (List.cons_ne_nil c l) hr
    have htail := ih fun h => hl (h.mono (List.suffix_cons c l).isInfix)
    rw [List.cons_append] at hread ⊢
    rw [atoms_cons hread, htail, List.map_cons, List.cons_append]

theorem atoms_literal (hl : ¬ OccursIn l) : atoms l = l.map .char := by
  have h := atoms_append hl (.inl rfl)
  rwa [List.append_nil, atoms_nil, List.append_nil] at h

theorem all_append (hl : ¬ OccursIn l) (hr : Follows r) : all (l ++ r) = all r := by
  have hnone : (l.map (Atom.char (α := Slot))).filterMap Atom.item? = [] := by
    rw [List.filterMap_eq_nil_iff]
    intro a ha
    obtain ⟨c, -, rfl⟩ := List.mem_map.1 ha
    rfl
  rw [all_eq, atoms_append hl hr, List.filterMap_append, hnone, List.nil_append, ← all_eq]

/-- A text without a slot, or up to its first slot. -/
theorem exists_literal_split (s : Text) : ¬ OccursIn s ∨
    ∃ (l : Text) (w : Slot) (r : Text), ¬ OccursIn l ∧ w.WellFormed ∧ s = l ++ (w.written ++ r) := by
  induction s using atoms_induction with
  | nil => exact .inl not_occursIn_nil
  | slot w r hw _ => exact .inr ⟨[], w, r, not_occursIn_nil, hw, rfl⟩
  | char c s hread ih =>
    rcases ih with hs | ⟨l, w, r, hl, hw, rfl⟩
    · exact .inl (not_occursIn_cons hread List.prefix_rfl hs)
    · exact .inr ⟨c :: l, w, r, not_occursIn_cons hread (List.prefix_append _ _) hl, hw, rfl⟩

/-- The induction on the slots of a text, each with the literal text in front of it. -/
@[elab_as_elim]
theorem literal_induction {motive : Text → Prop} (last : ∀ l, ¬ OccursIn l → motive l)
    (slot : ∀ (l : Text) (w : Slot) (r : Text), ¬ OccursIn l → w.WellFormed → motive r →
      motive (l ++ (w.written ++ r))) (s : Text) : motive s := by
  induction hn : s.length using Nat.strong_induction_on generalizing s with
  | _ n ih =>
    rcases exists_literal_split s with hs | ⟨l, w, r, hl, hw, rfl⟩
    · exact last s hs
    · refine slot l w r hl hw (ih r.length ?_ r rfl)
      have := w.length_written_pos
      rw [← hn, List.length_append, List.length_append]
      omega

/-- The runs of literal text with a slot behind it. -/
theorem group_atoms_append {w : Slot} (hl : ¬ OccursIn l) (hw : w.WellFormed) (r : Text) :
    Run.group (atoms (l ++ (w.written ++ r))) =
      (if l = [] then [] else [.literal l]) ++ .item w :: Run.group (atoms r) := by
  rw [atoms_append hl (follows_written_append w r), atoms_written_append hw]
  split_ifs with hne
  · rw [hne]
    rfl
  · have happart : Run.StartsApart (Run.group (.item w :: atoms r)) := trivial
    rw [Run.group_map_char_append hne happart]
    rfl

end PromptPress.Slot

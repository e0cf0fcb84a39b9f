import PromptPress.Proofs.PlainText.Restore
import PromptPress.Proofs.Slot.Literal
import PromptPress.Proofs.Text.Words

/-!
# Slots in words

Behind its front a slot has no opening brace, and it has no blank at all.  So no slot reaches over
such a character (`readingsFrom_append_of_bounds`): the slots of a text are those of its words, and
two texts with the same words have the same slots (`all_eq_of_words_eq`).
-/

namespace PromptPress.Slot

variable {w : Slot} {s t u v : Text}

/-- No slot that begins in front of the text ends inside it. -/
def Bounds (v : Text) : Prop :=
  ∀ c r, v = c :: r → ∀ w : Slot, w.WellFormed → c ∉ w.written.tail

theorem bounds_nil : Bounds [] := by
  intro c r h
  cases h

theorem bounds_blank {c : Char} (hc : Text.isBlank c = true) (r : Text) : Bounds (c :: r) := by
  intro d x h w hw hmem
  obtain ⟨rfl, -⟩ := List.cons.inj h
  have hblank := hw.solid.notBlank c (List.mem_of_mem_tail hmem)
  simp [hc] at hblank

theorem bounds_written_append (w : Slot) (r : Text) : Bounds (w.written ++ r) := by
  intro c x h v hv
  obtain rfl : '{' = c := (List.cons.inj h).1
  exact brace_notMem_tail_written hv

theorem read?_append_eq_none_of_bounds {c : Char} (hv : Bounds v) (hs : read? (c :: s) = none) :
    read? (c :: s ++ v) = none := by
  cases v with
  | nil => rwa [List.append_nil]
  | cons d r =>
    by_contra hread
    obtain ⟨⟨w, x⟩, hread⟩ := Option.ne_none_iff_exists'.1 hread
    obtain ⟨hw, he⟩ := read?_eq_some_iff.1 hread
    have htail : w.written = '{' :: w.written.tail := rfl
    have hp : '{' :: w.written.tail <+: c :: s ++ d :: r := ⟨x, by rw [← htail, he]⟩
    obtain ⟨rfl, hrest⟩ := List.cons_prefix_cons.1 hp
    obtain ⟨y, hy⟩ := Text.prefix_of_notMem (hv d r rfl w hw) hrest
    have hslot : read? (w.written ++ y) = some (w, y) := read?_written_append hw y
    rw [htail, List.cons_append, hy, hs] at hslot
    cases hslot

/-- **Slots do not reach over a bound.** -/
theorem readingsFrom_append_of_bounds (hv : Bounds v) (u : Text) (i : Nat) :
    readingsFrom i (u ++ v) = readingsFrom i u ++ readingsFrom (i + u.length) v := by
  induction u using atoms_induction generalizing i with
  | nil => rfl
  | slot w r hw ih =>
    rw [List.append_assoc, readingsFrom_written_append hw, readingsFrom_written_append hw, ih,
      List.cons_append, List.length_append, Nat.add_assoc]
  | char c s hs ih =>
    have hread := read?_append_eq_none_of_bounds hv hs
    rw [List.cons_append] at hread ⊢
    rw [readingsFrom_cons hread, readingsFrom_cons hs, ih, List.length_cons, Nat.add_assoc,
      Nat.add_comm 1]

theorem all_append_of_bounds (hv : Bounds v) (u : Text) : all (u ++ v) = all u ++ all v := by
  rw [← map_slot_readingsFrom 0, readingsFrom_append_of_bounds hv, List.map_append,
    map_slot_readingsFrom, map_slot_readingsFrom]

theorem read?_blank_cons {c : Char} (hc : Text.isBlank c = true) (s : Text) :
    read? (c :: s) = none := by
  by_contra hread
  obtain ⟨⟨w, x⟩, hread⟩ := Option.ne_none_iff_exists'.1 hread
  obtain ⟨-, he⟩ := read?_eq_some_iff.1 hread
  obtain rfl : c = '{' := (List.cons.inj he).1
  exact absurd hc (by decide)

theorem all_append_blank {c : Char} (hc : Text.isBlank c = true) (u s : Text) :
    all (u ++ c :: s) = all u ++ all s := by
  rw [all_append_of_bounds (bounds_blank hc s), all_cons (read?_blank_cons hc s)]

theorem all_eq_flatMap_words (s : Text) : all s = (Text.words s).flatMap all := by
  induction s using Text.blank_induction with
  | nil => rfl
  | word u hu => rw [hu.words_eq, List.flatMap_singleton]
  | blank c s hc ih =>
    rw [Text.words_blank_cons hc, ← ih]
    exact all_append_blank hc [] s
  | step u c s hu hc ih =>
    rw [hu.words_append_blank hc, List.flatMap_cons, ← ih, all_append_blank hc]

/-- **Texts with the same words have the same slots.** -/
theorem all_eq_of_words_eq (h : Text.words s = Text.words t) : all s = all t := by
  rw [all_eq_flatMap_words, h, ← all_eq_flatMap_words]

end PromptPress.Slot

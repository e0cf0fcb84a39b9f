import PromptPress.Proofs.Slot.Words
import PromptPress.Proofs.Text.Trimmed

/-!
# Slots of texts that are put together

Where texts are joined with blanks between them, the slots of the whole are those of the texts, each
at the place where its text stands (`readingsFrom_joinWith`, `all_joinWith`).

Where a text goes on without a blank, a slot may be completed by what follows.  Such a slot reaches
over all the rest of the text, so that no slot stands there: the slots of the text come first in
whatever is made of it (`all_prefix_append`).
-/

namespace PromptPress.Slot

variable {s v sep : Text}

/-! ### Texts with blanks between them -/

theorem bounds_blanks_append (hne : sep ≠ []) (hsep : ∀ c ∈ sep, Text.isBlank c = true)
    (s : Text) : Bounds (sep ++ s) := by
  obtain ⟨c, r, rfl⟩ := List.exists_cons_of_ne_nil hne
  exact bounds_blank (hsep c List.mem_cons_self) (r ++ s)

theorem readingsFrom_blanks_append (hsep : ∀ c ∈ sep, Text.isBlank c = true) (s : Text)
    (i : Nat) : readingsFrom i (sep ++ s) = readingsFrom (i + sep.length) s := by
  induction sep generalizing i with
  | nil => rfl
  | cons c r ih =>
    obtain ⟨hc, hr⟩ := List.forall_mem_cons.1 hsep
    rw [List.cons_append, readingsFrom_cons (read?_blank_cons hc _), ih hr, List.length_cons,
      Nat.add_assoc, Nat.add_comm 1]

/-- The slots of texts that are to be joined, each text at its place in the whole, and the first one
at place `i`. -/
def readingsOfJoined (sep : Text) : Nat → List Text → List SlotReading
  | _, [] => []
  | i, t :: ts => readingsFrom i t ++ readingsOfJoined sep (i + t.length + sep.length) ts

/-- **No slot stands across a joint.** -/
theorem readingsFrom_joinWith (hne : sep ≠ []) (hsep : ∀ c ∈ sep, Text.isBlank c = true)
    (ts : List Text) (i : Nat) :
    readingsFrom i (Text.joinWith sep ts) = readingsOfJoined sep i ts := by
  induction ts generalizing i with
  | nil => rfl
  | cons t ts ih =>
    cases ts with
    | nil => rw [Text.joinWith, readingsOfJoined, readingsOfJoined, List.append_nil]
    | cons u us =>
      rw [Text.joinWith_cons_of_ne_nil (List.cons_ne_nil u us),
        readingsFrom_append_of_bounds (bounds_blanks_append hne hsep _),
        readingsFrom_blanks_append hsep, ih]
      rfl

theorem map_slot_readingsOfJoined (sep : Text) (i : Nat) (ts : List Text) :
    (readingsOfJoined sep i ts).map SlotReading.slot = ts.flatMap all := by
  induction ts generalizing i with
  | nil => rfl
  | cons t ts ih =>
    rw [readingsOfJoined, List.map_append, map_slot_readingsFrom, ih, List.flatMap_cons]

theorem all_joinWith (hne : sep ≠ []) (hsep : ∀ c ∈ sep, Text.isBlank c = true)
    (ts : List Text) : all (Text.joinWith sep ts) = ts.flatMap all := by
  rw [← map_slot_readingsFrom 0, readingsFrom_joinWith hne hsep, map_slot_readingsOfJoined]

/-! ### Texts that go on -/

theorem all_eq_nil_of_brace_notMem (h : '{' ∉ s) : all s = [] := by
  rw [List.eq_nil_iff_forall_not_mem]
  intro w hw
  exact h ((written_infix_of_mem_all hw).subset List.mem_cons_self)

/-- A slot that what follows completes reaches over the whole rest of the text. -/
theorem all_eq_nil_of_read?_append {c : Char} (hs : read? (c :: s) = none)
    (h : read? (c :: s ++ v) ≠ none) : all s = [] := by
  obtain ⟨⟨w, r⟩, hread⟩ := Option.ne_none_iff_exists'.1 h
  obtain ⟨hw, he⟩ := read?_eq_some_iff.1 hread
  rcases List.append_eq_append_iff.1 he with ⟨a, ha, -⟩ | ⟨a, ha, -⟩
  · have htail : w.written.tail = s ++ a := by rw [ha]; rfl
    apply all_eq_nil_of_brace_notMem
    intro hmem
    apply brace_notMem_tail_written hw
    rw [htail]
    exact List.mem_append_left a hmem
  · -- the slot ends in the text, where none was read
    rw [ha, read?_written_append hw] at hs
    cases hs

/-- **Slots stay what they are when text is appended.** -/
theorem all_prefix_append (u v : Text) : all u <+: all (u ++ v) := by
  induction u using atoms_induction with
  | nil => exact List.nil_prefix
  | slot w r hw ih =>
    rw [List.append_assoc, all_written_append hw, all_written_append hw]
    exact List.cons_prefix_cons.2 ⟨rfl, ih⟩
  | char c s hs ih =>
    rw [all_cons hs]
    by_cases h : read? (c :: s ++ v) = none
    · rw [List.cons_append] at h ⊢
      rw [all_cons h]
      exact ih
    · rw [all_eq_nil_of_read?_append hs h]
      exact List.nil_prefix

end PromptPress.Slot

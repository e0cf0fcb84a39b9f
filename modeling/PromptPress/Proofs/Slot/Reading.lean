import PromptPress.Slot.Scan
import Mathlib.Data.List.TakeWhile

/-!
# Reading a slot back

`Slot.WellFormed` is the grammar of slots, said without the reader.  `read?_eq_some_iff` says that
reading accepts exactly what the grammar derives: a slot and a rest are read from a text if and only
if the slot is well formed and the text is its spelling followed by the rest.

So a well-formed slot is determined by its spelling (`written_inj`), even with more text behind it
(`written_append_inj`), and it cannot be undone by what stands after its closing brace.
-/

namespace PromptPress

namespace Slot

/-! ### Characters of names and types -/

theorem isNameChar_iff {c : Char} : isNameChar c = true ↔
    (48 ≤ c.toNat ∧ c.toNat ≤ 57) ∨ (65 ≤ c.toNat ∧ c.toNat ≤ 90) ∨ c.toNat = 95 ∨
      (97 ≤ c.toNat ∧ c.toNat ≤ 122) := by
  have hu : c = '_' ↔ c.toNat = 95 := Char.toNat_inj.symm
  simp only [isNameChar, Text.isAsciiAlnum, Text.isAsciiLetter, Text.isAsciiDigit, Char.le_def,
    UInt32.le_iff_toNat_le, Bool.or_eq_true, Bool.and_eq_true, decide_eq_true_eq, beq_iff_eq, hu]
  change (((97 ≤ c.toNat ∧ c.toNat ≤ 122) ∨ (65 ≤ c.toNat ∧ c.toNat ≤ 90)) ∨
    (48 ≤ c.toNat ∧ c.toNat ≤ 57)) ∨ c.toNat = 95 ↔ _
  omega

theorem isTypeChar_iff {c : Char} : isTypeChar c = true ↔ 97 ≤ c.toNat ∧ c.toNat ≤ 122 := by
  simp only [isTypeChar, Char.le_def, UInt32.le_iff_toNat_le, Bool.and_eq_true, decide_eq_true_eq]
  rfl

/-- A character whose code is that of no letter, digit or underscore stands in no name. -/
theorem ne_of_isNameChar {c d : Char} (hc : isNameChar c = true) (hd : isNameChar d = false) :
    c ≠ d := by
  intro h
  rw [h, hd] at hc
  exact absurd hc (by decide)

/-- A name as slots have it: one or more letters, digits or underscores. -/
def IsName (n : Text) : Prop := n ≠ [] ∧ ∀ c ∈ n, isNameChar c = true

instance (n : Text) : Decidable (IsName n) :=
  decidable_of_iff (n ≠ [] ∧ n.all isNameChar = true) (and_congr_right' List.all_eq_true)

/-- A type as slots declare it: one or more small letters. -/
def IsTypeName (t : Text) : Prop := t ≠ [] ∧ ∀ c ∈ t, isTypeChar c = true

instance (t : Text) : Decidable (IsTypeName t) :=
  decidable_of_iff (t ≠ [] ∧ t.all isTypeChar = true) (and_congr_right' List.all_eq_true)

theorem IsName.notMem {n : Text} (h : IsName n) {d : Char} (hd : isNameChar d = false) : d ∉ n :=
  fun hm => ne_of_isNameChar (h.2 d hm) hd rfl

end Slot

/-! ### The grammar -/

/-- A mark that the grammar derives. -/
def Mark.WellFormed : Mark → Prop
  | .declared t => Slot.IsTypeName t
  | _ => True

/-- A slot that the grammar derives. -/
structure Slot.WellFormed (s : Slot) : Prop where
  name : Slot.IsName s.name
  mark : s.mark.WellFormed

theorem Modifier.char_of_ofChar? {c : Char} {m : Modifier} (h : Modifier.ofChar? c = some m) :
    c = m.char := by
  unfold Modifier.ofChar? at h
  split at h <;> cases h <;> rfl

/-- No mark starts like a name goes on, so a name ends where its mark starts. -/
theorem Mark.head_not_isNameChar (m : Mark) (r : Text) :
    ∃ c s, m.written ++ '}' :: r = c :: s ∧ Slot.isNameChar c = false := by
  cases m with
  | plain => exact ⟨'}', r, rfl, by decide⟩
  | modifier k => exact ⟨k.char, '}' :: r, rfl, by cases k <;> decide⟩
  | declared t => exact ⟨':', t ++ '}' :: r, rfl, by decide⟩

namespace Slot

/-! ### Marks -/

theorem readMark?_written {m : Mark} (h : m.WellFormed) (r : Text) :
    readMark? (m.written ++ '}' :: r) = some (m, r) := by
  cases m with
  | plain => rfl
  | modifier k => cases k <;> rfl
  | declared t =>
    have ht : t.isEmpty = false := by simpa using h.1
    have hr : isTypeChar '}' = false := by decide
    rw [Mark.written, List.cons_append, readMark?, List.takeWhile_append_of_pos h.2,
      List.dropWhile_append_of_pos h.2, List.takeWhile_cons_of_neg (by simp [hr]),
      List.dropWhile_cons_of_neg (by simp [hr]), List.append_nil]
    simp [ht]

theorem eq_written_of_readMark? {t r : Text} {m : Mark} (h : readMark? t = some (m, r)) :
    m.WellFormed ∧ t = m.written ++ '}' :: r := by
  unfold readMark? at h
  split at h
  case h_1 r' =>
    obtain ⟨rfl, rfl⟩ : Mark.plain = m ∧ r' = r := by simpa using h
    exact ⟨trivial, rfl⟩
  case h_2 s =>
    dsimp only at h
    split at h
    · rename_i r' hd
      split at h
      · simp at h
      · rename_i he
        obtain ⟨rfl, rfl⟩ : Mark.declared (s.takeWhile isTypeChar) = m ∧ r' = r := by simpa using h
        refine ⟨⟨by simpa using he, fun c hc => List.mem_takeWhile_imp hc⟩, ?_⟩
        rw [Mark.written, List.cons_append, ← hd, List.takeWhile_append_dropWhile]
    · simp at h
  case h_3 c r' _ _ =>
    obtain ⟨k, hk, hm⟩ := Option.map_eq_some_iff.1 h
    obtain ⟨rfl, rfl⟩ : Mark.modifier k = m ∧ r' = r := by simpa using hm
    exact ⟨trivial, by rw [Modifier.char_of_ofChar? hk]; rfl⟩
  case h_4 => simp at h

/-! ### Slots -/

/-- **A well-formed slot is read from its spelling**, whatever follows it. -/
theorem read?_written_append {s : Slot} (h : s.WellFormed) (r : Text) :
    read? (s.written ++ r) = some (s, r) := by
  obtain ⟨c, u, hu, hc⟩ := s.mark.head_not_isNameChar r
  have hsplit : s.written ++ r = '{' :: (s.name ++ c :: u) := by
    rw [← hu]
    simp [written]
  have hne : s.name.isEmpty = false := by simpa using h.name.1
  rw [hsplit, read?, List.takeWhile_append_of_pos h.name.2, List.dropWhile_append_of_pos h.name.2,
    List.takeWhile_cons_of_neg (by simp [hc]), List.dropWhile_cons_of_neg (by simp [hc]),
    List.append_nil, ← hu, readMark?_written h.mark]
  simp [hne]

theorem eq_written_of_read? {t r : Text} {s : Slot} (h : read? t = some (s, r)) :
    s.WellFormed ∧ t = s.written ++ r := by
  unfold read? at h
  split at h
  · rename_i u
    dsimp only at h
    split at h
    · simp at h
    · rename_i he
      obtain ⟨⟨m, r'⟩, hm, hs⟩ := Option.map_eq_some_iff.1 h
      obtain ⟨rfl, rfl⟩ : (⟨u.takeWhile isNameChar, m⟩ : Slot) = s ∧ r' = r := by simpa using hs
      obtain ⟨hw, hd⟩ := eq_written_of_readMark? hm
      refine ⟨⟨⟨by simpa using he, fun c hc => List.mem_takeWhile_imp hc⟩, hw⟩, ?_⟩
      have hs : '{' :: (u.takeWhile isNameChar ++ (m.written ++ '}' :: r')) =
          written ⟨u.takeWhile isNameChar, m⟩ ++ r' := by simp [written]
      rw [← hs, ← hd, List.takeWhile_append_dropWhile]
  · simp at h

/-- **Reading accepts exactly what the grammar derives.** -/
theorem read?_eq_some_iff {t r : Text} {s : Slot} :
    read? t = some (s, r) ↔ s.WellFormed ∧ t = s.written ++ r := by
  refine ⟨eq_written_of_read?, ?_⟩
  rintro ⟨hs, rfl⟩
  exact read?_written_append hs r

/-- The spelling of one slot is not the front of the spelling of another. -/
theorem written_append_inj {a b : Slot} (ha : a.WellFormed) (hb : b.WellFormed) {r u : Text}
    (h : a.written ++ r = b.written ++ u) : a = b ∧ r = u := by
  have h1 := read?_written_append ha r
  rw [h, read?_written_append hb u] at h1
  simpa [eq_comm] using h1

theorem written_inj {a b : Slot} (ha : a.WellFormed) (hb : b.WellFormed)
    (h : a.written = b.written) : a = b :=
  (written_append_inj ha hb (r := []) (u := []) (by rw [h])).1

/-! ### The characters of a spelling -/

theorem written_ne_nil (s : Slot) : s.written ≠ [] := by simp [written]

theorem length_written_pos (s : Slot) : 0 < s.written.length :=
  List.length_pos_iff.2 s.written_ne_nil

/-- The characters of slots that are not those of names. -/
def signs : List Char := ['{', '}', '?', '#', '!', '@', ':']

end Slot

theorem Mark.WellFormed.mem_written {m : Mark} (h : m.WellFormed) {c : Char}
    (hc : c ∈ m.written) : Slot.isNameChar c = true ∨ c ∈ Slot.signs := by
  cases m with
  | plain => simp [Mark.written] at hc
  | modifier k =>
    obtain rfl : c = k.char := by simpa [Mark.written] using hc
    exact Or.inr (by cases k <;> decide)
  | declared t =>
    have ht : Slot.IsTypeName t := h
    rcases List.mem_cons.1 hc with rfl | hc
    · exact Or.inr (by decide)
    · have := Slot.isTypeChar_iff.1 (ht.2 c hc)
      exact Or.inl (Slot.isNameChar_iff.2 (by omega))

namespace Slot

/-- A character in the spelling of a well-formed slot is a sign or one of a name. -/
theorem WellFormed.mem_written {s : Slot} (h : s.WellFormed) {c : Char} (hc : c ∈ s.written) :
    isNameChar c = true ∨ c ∈ signs := by
  rw [written, List.cons_append, List.cons_append] at hc
  simp only [List.mem_cons, List.mem_append, List.not_mem_nil, or_false] at hc
  rcases hc with rfl | (hc | hc) | rfl
  · exact Or.inr (by decide)
  · exact Or.inl (h.name.2 c hc)
  · exact h.mark.mem_written hc
  · exact Or.inr (by decide)

end Slot

end PromptPress

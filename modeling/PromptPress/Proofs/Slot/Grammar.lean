import PromptPress.Slot.Around
import PromptPress.Proofs.Slot.Occurrence

/-!
# The grammar of slots and the places where they stand

`Slot.Derives` is the grammar of slots as a relation between a text and its parts.  At a place of a
text there is at most one text that the grammar derives, and a slot is read there if and only if
there is one (`readAt_eq_some_iff`).

An opening brace stands nowhere in a slot but at its front (`brace_notMem_tail_written`).  So no
slot begins inside another, and when a text is read from left to right the place where reading goes
on is never behind the beginning of a slot: the slots that are found are those of all places
(`mem_readingsFrom`).
-/

namespace PromptPress

/-- The slot that was read. -/
def SlotReading.slot (r : SlotReading) : Slot :=
  ⟨r.name,
    match r.modifier, r.typeName with
    | some m, _ => .modifier m
    | none, some t => .declared t
    | none, none => .plain⟩

namespace Slot

/-! ### The grammar -/

/-- The texts that the grammar derives, with the name, the mark and the type in them. -/
inductive Derives : Text → Text → Option Modifier → Option Text → Prop
  | plain {n : Text} (hn : IsName n) : Derives ('{' :: n ++ ['}']) n none none
  | marked {n : Text} (hn : IsName n) (m : Modifier) :
      Derives ('{' :: n ++ [m.char, '}']) n (some m) none
  | typed {n t : Text} (hn : IsName n) (ht : IsTypeName t) :
      Derives ('{' :: n ++ ':' :: t ++ ['}']) n none (some t)

/-- A text that the grammar derives. -/
def Derived (t : Text) : Prop := ∃ n m d, Derives t n m d

/-- What the grammar derives is the spelling of a well-formed slot. -/
theorem derives_iff {t n : Text} {m : Option Modifier} {d : Option Text} :
    Derives t n m d ↔ ∃ w : Slot, w.WellFormed ∧ w.written = t ∧ w.name = n ∧
      w.mark.modifier? = m ∧ w.mark.declared? = d := by
  constructor
  · intro h
    cases h with
    | plain hn => exact ⟨⟨n, .plain⟩, ⟨hn, trivial⟩, by simp [written, Mark.written], rfl, rfl, rfl⟩
    | marked hn k =>
      exact ⟨⟨n, .modifier k⟩, ⟨hn, trivial⟩, by simp [written, Mark.written], rfl, rfl, rfl⟩
    | typed hn ht =>
      exact ⟨⟨n, .declared _⟩, ⟨hn, ht⟩, by simp [written, Mark.written], rfl, rfl, rfl⟩
  · rintro ⟨⟨n, x⟩, hw, rfl, rfl, rfl, rfl⟩
    cases x with
    | plain =>
      have h := Derives.plain hw.name
      simpa [written, Mark.written, Mark.modifier?, Mark.declared?] using h
    | modifier k =>
      have h := Derives.marked hw.name k
      simpa [written, Mark.written, Mark.modifier?, Mark.declared?] using h
    | declared u =>
      have h := Derives.typed hw.name hw.mark
      simpa [written, Mark.written, Mark.modifier?, Mark.declared?] using h

theorem derived_iff {t : Text} : Derived t ↔ ∃ w : Slot, w.WellFormed ∧ w.written = t := by
  constructor
  · rintro ⟨n, m, d, h⟩
    obtain ⟨w, hw, ht, -⟩ := derives_iff.1 h
    exact ⟨w, hw, ht⟩
  · rintro ⟨w, hw, ht⟩
    exact ⟨_, _, _, derives_iff.2 ⟨w, hw, ht, rfl, rfl, rfl⟩⟩

/-! ### Reading at a place -/

/-- What is read where a slot stands. -/
def readingAt (w : Slot) (i : Nat) : SlotReading :=
  ⟨w.written, w.name, w.mark.modifier?, w.mark.declared?, i, i + w.written.length⟩

theorem readAt_natCast (s : Text) (i : Nat) :
    readAt s i = .ok ((read? (s.drop i)).map fun p => p.1.readingAt i) := by
  have hi : (0 : Int) ≤ (i : Int) := Int.natCast_nonneg i
  rw [readAt, if_pos hi, Int.toNat_natCast, Token.slotAt?]
  cases read? (s.drop i) with
  | none => rfl
  | some p =>
    simp [Token.reading?, readingAt, Token.stop, Token.text, Token.runText]

/-- Where a well-formed slot stands, it is read, and no other one is. -/
theorem readAt_eq_some {s : Text} {i : Nat} {r : SlotReading} :
    readAt s i = .ok (some r) ↔
      ∃ w : Slot, w.WellFormed ∧ w.written <+: s.drop i ∧ w.readingAt i = r := by
  rw [readAt_natCast, Except.ok.injEq, Option.map_eq_some_iff]
  constructor
  · rintro ⟨⟨w, u⟩, hread, hr⟩
    obtain ⟨hw, he⟩ := read?_eq_some_iff.1 hread
    exact ⟨w, hw, ⟨u, he.symm⟩, hr⟩
  · rintro ⟨w, hw, ⟨u, hu⟩, hr⟩
    exact ⟨(w, u), read?_eq_some_iff.2 ⟨hw, hu.symm⟩, hr⟩

/-- **A slot is read at a place if and only if the grammar derives a text that stands there**, and
what is read are the parts of that text. -/
theorem readAt_eq_some_iff {s : Text} {i : Nat} {r : SlotReading} :
    readAt s i = .ok (some r) ↔ r.start = i ∧ r.stop = i + r.raw.length ∧ r.raw <+: s.drop i ∧
      Derives r.raw r.name r.modifier r.typeName := by
  rw [readAt_eq_some]
  constructor
  · rintro ⟨w, hw, hp, rfl⟩
    exact ⟨rfl, rfl, hp, derives_iff.2 ⟨w, hw, rfl, rfl, rfl, rfl⟩⟩
  · rintro ⟨hstart, hstop, hp, hd⟩
    obtain ⟨w, hw, hraw, hname, hmark, htype⟩ := derives_iff.1 hd
    refine ⟨w, hw, by rwa [hraw], ?_⟩
    cases r
    simp_all [readingAt]

theorem readAt_eq_none_iff {s : Text} {i : Nat} :
    readAt s i = .ok none ↔ ¬ ∃ t, Derived t ∧ t <+: s.drop i := by
  rw [readAt_natCast, Except.ok.injEq, Option.map_eq_none_iff]
  constructor
  · rintro h ⟨t, ht, u, hu⟩
    obtain ⟨w, hw, rfl⟩ := derived_iff.1 ht
    rw [← hu, read?_written_append hw] at h
    simp at h
  · intro h
    by_contra hne
    obtain ⟨⟨w, u⟩, hread⟩ := Option.ne_none_iff_exists'.1 hne
    obtain ⟨hw, he⟩ := read?_eq_some_iff.1 hread
    exact h ⟨w.written, derived_iff.2 ⟨w, hw, rfl⟩, u, he.symm⟩

/-- At one place the grammar derives at most one text. -/
theorem derived_prefix_unique {s t u : Text} (ht : Derived t) (hu : Derived u) (hts : t <+: s)
    (hus : u <+: s) : t = u := by
  obtain ⟨v, hv, rfl⟩ := derived_iff.1 ht
  obtain ⟨w, hw, rfl⟩ := derived_iff.1 hu
  obtain ⟨a, rfl⟩ := hts
  obtain ⟨b, hb⟩ := hus
  obtain ⟨rfl, -⟩ := written_append_inj hw hv hb
  rfl

/-! ### No slot begins inside another -/

theorem brace_notMem_tail_written {w : Slot} (h : w.WellFormed) : '{' ∉ w.written.tail := by
  have hname : '{' ∉ w.name := h.name.notMem (by decide)
  have hmark : '{' ∉ w.mark.written := by
    cases hm : w.mark with
    | plain => exact List.not_mem_nil
    | modifier k => cases k <;> decide
    | declared t =>
      have ht : IsTypeName t := by simpa [hm, Mark.WellFormed] using h.mark
      rintro (_ | ⟨_, hc⟩)
      exact absurd (ht.2 _ hc) (by decide)
  simp [written, hname, hmark]

/-- A slot does not begin behind the front of another and before its end. -/
theorem not_written_prefix_drop {v w : Slot} (hv : v.WellFormed) {j : Nat} (hj : 0 < j)
    (hlt : j < v.written.length) (r : Text) : ¬ w.written <+: (v.written ++ r).drop j := by
  rintro ⟨u, hu⟩
  have hhead : (v.written ++ r).drop j = v.written.tail.drop (j - 1) ++ r := by
    rw [List.drop_append_of_le_length (Nat.le_of_lt hlt), ← List.drop_one, List.drop_drop]
    congr 2
    omega
  have hlen : j - 1 < v.written.tail.length := by
    rw [List.length_tail]
    omega
  rw [hhead, List.drop_eq_getElem_cons hlen, written] at hu
  have hc : '{' = v.written.tail[j - 1] := (List.cons.inj hu).1
  exact brace_notMem_tail_written hv (hc ▸ List.getElem_mem hlen)

/-- Behind the front of a slot, slots begin where they begin in the rest of the text. -/
theorem written_prefix_drop_written_append {v w : Slot} (hv : v.WellFormed) (hw : w.WellFormed)
    {j : Nat} {r : Text} : w.written <+: (v.written ++ r).drop j ↔
      (j = 0 ∧ w = v) ∨ ∃ k, j = v.written.length + k ∧ w.written <+: r.drop k := by
  constructor
  · intro h
    rcases Nat.eq_zero_or_pos j with rfl | hj
    · obtain ⟨u, hu⟩ := h
      exact .inl ⟨rfl, (written_append_inj hw hv hu).1⟩
    · rcases Nat.lt_or_ge j v.written.length with hlt | hge
      · exact absurd h (not_written_prefix_drop hv hj hlt r)
      · obtain ⟨k, rfl⟩ := Nat.exists_eq_add_of_le hge
        refine .inr ⟨k, rfl, ?_⟩
        rwa [List.drop_append, List.drop_eq_nil_of_le (by omega), List.nil_append,
          Nat.add_sub_cancel_left] at h
  · rintro (⟨rfl, rfl⟩ | ⟨k, rfl, h⟩)
    · exact List.prefix_append _ _
    · rwa [List.drop_append, List.drop_eq_nil_of_le (by omega), List.nil_append,
        Nat.add_sub_cancel_left]

/-- Where no slot is read, slots begin where they begin behind the first character. -/
theorem written_prefix_drop_cons {w : Slot} (hw : w.WellFormed) {c : Char} {s : Text}
    (hr : read? (c :: s) = none) {j : Nat} : w.written <+: (c :: s).drop j ↔
      ∃ k, j = k + 1 ∧ w.written <+: s.drop k := by
  cases j with
  | zero =>
    constructor
    · rintro ⟨u, hu⟩
      rw [List.drop_zero] at hu
      rw [← hu, read?_written_append hw] at hr
      simp at hr
    · rintro ⟨k, hk, -⟩
      omega
  | succ j =>
    constructor
    · intro h
      exact ⟨j, rfl, h⟩
    · rintro ⟨k, hk, h⟩
      obtain rfl : j = k := by omega
      exact h

/-! ### Reading a whole text -/

/-- The slots of a text with their places, where the text begins at place `i`. -/
def readingsFrom (i : Nat) (s : Text) : List SlotReading :=
  (Token.place i (Run.group (atoms s))).filterMap Token.reading?

/-- The slots of a text, from left to right, with their places. -/
def readings (s : Text) : List SlotReading := (Token.scan s).filterMap Token.reading?

theorem readings_eq (s : Text) : readings s = readingsFrom 0 s := rfl

@[simp] theorem readingsFrom_nil (i : Nat) : readingsFrom i [] = [] := rfl

theorem readingsFrom_written_append {w : Slot} (hw : w.WellFormed) (i : Nat) (r : Text) :
    readingsFrom i (w.written ++ r) =
      w.readingAt i :: readingsFrom (i + w.written.length) r := by
  rw [readingsFrom, atoms_written_append hw, Run.group_cons, readingsFrom]
  simp [Run.cons, Token.place, Token.reading?, readingAt, Token.stop, Token.text, Token.runText]

/-- A character that begins no slot only moves the places of what follows. -/
theorem readingsFrom_cons {c : Char} {s : Text} (hr : read? (c :: s) = none) (i : Nat) :
    readingsFrom i (c :: s) = readingsFrom (i + 1) s := by
  rw [readingsFrom, atoms_cons hr, Run.group_cons, readingsFrom]
  cases Run.group (atoms s) with
  | nil => rfl
  | cons r rs =>
    cases r with
    | item w => rfl
    | literal t =>
      have hlen : i + (t.length + 1) = i + 1 + t.length := by omega
      change (Token.place (i + (t.length + 1)) rs).filterMap Token.reading? =
        (Token.place (i + 1 + t.length) rs).filterMap Token.reading?
      rw [hlen]

theorem slot_readingAt (w : Slot) (i : Nat) : (w.readingAt i).slot = w := by
  obtain ⟨n, m⟩ := w
  cases m <;> rfl

theorem map_slot_readingsFrom (i : Nat) (s : Text) :
    (readingsFrom i s).map SlotReading.slot = all s := by
  induction s using atoms_induction generalizing i with
  | nil => rfl
  | slot w r hw ih =>
    rw [readingsFrom_written_append hw, all_written_append hw, List.map_cons, slot_readingAt, ih]
  | char c s hs ih => rw [readingsFrom_cons hs, all_cons hs, ih]

/-- **The slots that are found are those of all places:** reading from left to right passes over
none. -/
theorem mem_readingsFrom {s : Text} {i : Nat} {r : SlotReading} : r ∈ readingsFrom i s ↔
    ∃ (w : Slot) (j : Nat), w.WellFormed ∧ w.written <+: s.drop j ∧ w.readingAt (i + j) = r := by
  induction s using atoms_induction generalizing i with
  | nil =>
    rw [readingsFrom_nil]
    constructor
    · intro h
      simp at h
    · rintro ⟨w, j, -, hp, -⟩
      rw [List.drop_nil, List.prefix_nil] at hp
      exact absurd hp w.written_ne_nil
  | slot v rest hv ih =>
    rw [readingsFrom_written_append hv, List.mem_cons, ih]
    constructor
    · rintro (rfl | ⟨w, j, hw, hp, hr⟩)
      · exact ⟨v, 0, hv, List.prefix_append _ _, rfl⟩
      · refine ⟨w, v.written.length + j, hw, ?_, ?_⟩
        · exact (written_prefix_drop_written_append hv hw).2 (.inr ⟨j, rfl, hp⟩)
        · rw [← hr, Nat.add_assoc]
    · rintro ⟨w, j, hw, hp, hr⟩
      rcases (written_prefix_drop_written_append hv hw).1 hp with ⟨rfl, rfl⟩ | ⟨k, rfl, hk⟩
      · exact .inl hr.symm
      · exact .inr ⟨w, k, hw, hk, by rw [← hr, Nat.add_assoc]⟩
  | char c s hc ih =>
    rw [readingsFrom_cons hc, ih]
    constructor
    · rintro ⟨w, j, hw, hp, hr⟩
      refine ⟨w, j + 1, hw, (written_prefix_drop_cons hw hc).2 ⟨j, rfl, hp⟩, ?_⟩
      rw [← hr, Nat.add_assoc, Nat.add_comm 1 j]
    · rintro ⟨w, j, hw, hp, hr⟩
      obtain ⟨k, rfl, hk⟩ := (written_prefix_drop_cons hw hc).1 hp
      exact ⟨w, k, hw, hk, by rw [← hr, Nat.add_assoc, Nat.add_comm 1 k]⟩

/-- The slots are found in order, and each ends before the next one begins. -/
theorem pairwise_readingsFrom (s : Text) (i : Nat) :
    (readingsFrom i s).Pairwise fun a b => a.start < b.start ∧ a.stop ≤ b.start := by
  induction s using atoms_induction generalizing i with
  | nil => exact List.Pairwise.nil
  | slot v rest hv ih =>
    rw [readingsFrom_written_append hv]
    refine List.Pairwise.cons ?_ (ih _)
    intro b hb
    obtain ⟨w, j, -, -, rfl⟩ := mem_readingsFrom.1 hb
    have hpos := v.length_written_pos
    simp only [readingAt]
    omega
  | char c s hc ih =>
    rw [readingsFrom_cons hc]
    exact ih _

/-- A slot that begins at a place is the stretch of the text up to its end. -/
theorem prefix_drop_iff_stretch {s t : Text} {i : Nat} : t <+: s.drop i ∧ t ≠ [] ↔
    i + t.length ≤ s.length ∧ t = (s.take (i + t.length)).drop i ∧ t ≠ [] := by
  constructor
  · rintro ⟨hp, hne⟩
    have hlen := hp.length_le
    have hpos := List.length_pos_iff.2 hne
    rw [List.length_drop] at hlen
    refine ⟨by omega, ?_, hne⟩
    rw [List.drop_take, Nat.add_sub_cancel_left]
    exact List.prefix_iff_eq_take.1 hp
  · rintro ⟨-, ht, hne⟩
    refine ⟨?_, hne⟩
    rw [ht, List.drop_take]
    exact List.take_prefix _ _

/-- **The slots of a text are exactly the stretches of it that the grammar derives.** -/
theorem mem_readings_iff {s : Text} {r : SlotReading} : r ∈ readings s ↔
    ∃ i j : Nat, r.start = i ∧ r.stop = j ∧ j ≤ s.length ∧ r.raw = (s.take j).drop i ∧
      Derives r.raw r.name r.modifier r.typeName := by
  rw [readings_eq, mem_readingsFrom]
  constructor
  · rintro ⟨w, i, hw, hp, rfl⟩
    obtain ⟨hle, ht, -⟩ := prefix_drop_iff_stretch.1 ⟨hp, w.written_ne_nil⟩
    rw [Nat.zero_add]
    exact ⟨i, i + w.written.length, rfl, by simp [readingAt], hle, ht,
      derives_iff.2 ⟨w, hw, rfl, rfl, rfl, rfl⟩⟩
  · rintro ⟨i, j, hstart, hstop, hle, hraw, hd⟩
    obtain ⟨w, hw, he, hname, hmark, htype⟩ := derives_iff.1 hd
    have hlen : r.raw.length = j - i := by
      rw [hraw, List.length_drop, List.length_take, Nat.min_eq_left hle]
    have hpos := w.length_written_pos
    have hj : i + r.raw.length = j := by
      rw [← he] at hlen ⊢
      omega
    have hp : w.written <+: s.drop i := by
      rw [he]
      exact (prefix_drop_iff_stretch.2 ⟨by omega, by rw [hj]; exact hraw,
        by rw [← he]; exact w.written_ne_nil⟩).1
    refine ⟨w, i, hw, hp, ?_⟩
    cases r
    simp_all [readingAt]
    omega

/-- **Slots are read exactly where the grammar derives a text.**  At every place a slot is read if
and only if a text that the grammar derives stands there; there is only one such text, and its parts
are what is read.  And the slots that are found when a whole text is read are exactly its stretches
that the grammar derives, in order and apart from each other. -/
theorem reads_exactly_what_derives (s : Text) :
    (∀ i : Nat,
      (∀ r, readAt s i = .ok (some r) ↔ r.start = i ∧ r.stop = i + r.raw.length ∧
        r.raw <+: s.drop i ∧ Derives r.raw r.name r.modifier r.typeName) ∧
      (readAt s i = .ok none ↔ ¬ ∃ t, Derived t ∧ t <+: s.drop i) ∧
      ∀ t u, Derived t → Derived u → t <+: s.drop i → u <+: s.drop i → t = u) ∧
    (∀ r, r ∈ readings s ↔ ∃ i j : Nat, r.start = i ∧ r.stop = j ∧ j ≤ s.length ∧
      r.raw = (s.take j).drop i ∧ Derives r.raw r.name r.modifier r.typeName) ∧
    (readings s).Pairwise fun a b => a.start < b.start ∧ a.stop ≤ b.start := by
  refine ⟨fun i => ⟨fun r => readAt_eq_some_iff, readAt_eq_none_iff, ?_⟩,
    fun r => mem_readings_iff, pairwise_readingsFrom s 0⟩
  intro t u ht hu hts hus
  exact derived_prefix_unique ht hu hts hus

/-- A mark and a type exclude each other, and a brace that begins no slot hides none. -/
example : readings "\x7ba#:number\x7d\x7b\x7bb?\x7d\x7d" =
    [⟨"\x7bb?\x7d", "b", some .optional, none, 12, 16⟩] := by decide

end Slot

end PromptPress

import PromptPress.PlainText.Shield
import PromptPress.Text.Blank
import PromptPress.Proofs.Slot.Occurrence
import PromptPress.Proofs.Text.Digits
import PromptPress.Proofs.Text.Parts

/-!
# Sentinels

A mark has its one `M` at its front, so no mark begins inside another (`IsMark.prefix_of_append`).
A sentinel is the mark, decimal digits and an `X`; it ends at the first character behind the mark
that is no digit, so at one place at most one sentinel stands, and it stands there whatever follows
it (`readSentinel?_append`).

Blanks, braces and the ends of lines stand in no sentinel.  That is what makes sentinels safe where a
text is split, trimmed and joined: a sentinel that reaches over such a character does not exist.
-/

namespace PromptPress.PlainText

/-! ### Marks -/

/-- A lower-case hexadecimal digit. -/
def isMarkDigit (c : Char) : Bool := ('0' ≤ c && c ≤ '9') || ('a' ≤ c && c ≤ 'f')

/-- What a mark looks like: four capitals, lower-case hexadecimal digits, and an `X`. -/
def IsMark (m : Text) : Prop :=
  ∃ ds : Text, (∀ d ∈ ds, isMarkDigit d = true) ∧ m = "MDPH" ++ ds ++ ['X']

theorem isMarkDigit_bounds {c : Char} (h : isMarkDigit c = true) :
    (48 ≤ c.toNat ∧ c.toNat ≤ 57) ∨ (97 ≤ c.toNat ∧ c.toNat ≤ 102) := by
  simp only [isMarkDigit, Char.le_def, UInt32.le_iff_toNat_le, Bool.or_eq_true, Bool.and_eq_true,
    decide_eq_true_eq] at h
  exact h

theorem isMark_markOf (n : Nat) : IsMark (Shield.markOf n) := by
  have hdigit : ∀ d < 16, isMarkDigit d.digitChar = true := by decide
  refine ⟨Text.hex 12 n, fun c hc => ?_, rfl⟩
  obtain ⟨d, hd, rfl⟩ := Text.exists_digit_of_mem_hex hc
  exact hdigit d hd

namespace IsMark

variable {m : Text}

/-- The `M` at the front of a mark is its only one. -/
theorem exists_eq_cons (h : IsMark m) : ∃ t, m = 'M' :: t ∧ 'M' ∉ t := by
  obtain ⟨ds, hds, rfl⟩ := h
  refine ⟨"DPH" ++ ds ++ ['X'], rfl, ?_⟩
  intro hM
  rcases List.mem_append.1 hM with hM | hM
  · rcases List.mem_append.1 hM with hM | hM
    · exact absurd hM (by decide)
    · exact absurd (hds _ hM) (by decide)
  · exact absurd hM (by decide)

/-- A mark is made of the characters of names. -/
theorem isNameChar_of_mem (h : IsMark m) {c : Char} (hc : c ∈ m) : Slot.isNameChar c = true := by
  have hcapital : ∀ d ∈ ("MDPH" : String).toList, Slot.isNameChar d = true :=
    List.all_eq_true.1 (by decide)
  obtain ⟨ds, hds, rfl⟩ := h
  rcases List.mem_append.1 hc with hc | hc
  · rcases List.mem_append.1 hc with hc | hc
    · exact hcapital c hc
    · have := isMarkDigit_bounds (hds c hc)
      exact Slot.isNameChar_iff.2 (by omega)
  · obtain rfl := List.mem_singleton.1 hc
    decide

/-- **No mark begins inside another:** before the end or before a mark, a mark at the front of some
text ends with that text. -/
theorem prefix_of_append (h : IsMark m) {x s : Text} (hx : x ≠ []) (hs : s = [] ∨ m <+: s)
    (hp : m <+: x ++ s) : m <+: x := by
  obtain ⟨t, rfl, ht⟩ := h.exists_eq_cons
  cases x with
  | nil => exact absurd rfl hx
  | cons c x =>
    rcases hs with rfl | ⟨u, rfl⟩
    · rwa [List.append_nil] at hp
    -- behind its front the mark has no `M`, so it ends before the one that begins `s`
    · obtain ⟨hc, hp⟩ := List.cons_prefix_cons.1 hp
      exact List.cons_prefix_cons.2 ⟨hc, Text.prefix_of_notMem ht hp⟩

end IsMark

/-! ### Sentinels -/

/-- The sentinels of a number: digits of any script will do, and zeros may stand in front. -/
def IsSentinel (mark : Text) (n : Nat) (w : Text) : Prop :=
  ∃ ds : Text, ds ≠ [] ∧ (∀ d ∈ ds, Text.isDecimal d = true) ∧ Text.decimalNumber ds = n ∧
    w = mark ++ ds ++ ['X']

/-- A character that may stand in a sentinel. -/
def isSentinelChar (c : Char) : Bool := Slot.isNameChar c || Text.isDecimal c

variable {m : Text} {n : Nat} {w : Text}

theorem isSentinel_sentinel (m : Text) (n : Nat) : IsSentinel m n (sentinel m n) :=
  ⟨Text.ofNat n, Text.ofNat_ne_nil n, fun _ hd => Text.isDecimal_of_mem_ofNat hd,
    Text.decimalNumber_ofNat n, rfl⟩

namespace IsSentinel

theorem mark_prefix (h : IsSentinel m n w) : m <+: w := by
  obtain ⟨ds, -, -, -, rfl⟩ := h
  rw [List.append_assoc]
  exact List.prefix_append _ _

theorem ne_nil (h : IsSentinel m n w) : w ≠ [] := by
  obtain ⟨ds, -, -, -, rfl⟩ := h
  exact List.append_ne_nil_of_right_ne_nil _ (List.cons_ne_nil _ _)

theorem isSentinelChar_of_mem (hm : IsMark m) (h : IsSentinel m n w) {c : Char} (hc : c ∈ w) :
    isSentinelChar c = true := by
  obtain ⟨ds, -, hds, -, rfl⟩ := h
  rw [isSentinelChar, Bool.or_eq_true]
  rcases List.mem_append.1 hc with hc | hc
  · rcases List.mem_append.1 hc with hc | hc
    · exact .inl (hm.isNameChar_of_mem hc)
    · exact .inr (hds c hc)
  · obtain rfl := List.mem_singleton.1 hc
    exact .inl (by decide)

theorem notMem (hm : IsMark m) (h : IsSentinel m n w) {c : Char}
    (hc : isSentinelChar c = false) : c ∉ w := by
  intro hmem
  rw [h.isSentinelChar_of_mem hm hmem] at hc
  exact absurd hc (by decide)

end IsSentinel

/-- The codes of blanks. -/
def blankCodes : List Nat :=
  [9, 10, 11, 12, 13, 28, 29, 30, 31, 32, 0x85, 0xa0, 0x1680, 0x2000, 0x2001, 0x2002, 0x2003,
    0x2004, 0x2005, 0x2006, 0x2007, 0x2008, 0x2009, 0x200a, 0x2028, 0x2029, 0x202f, 0x205f, 0x3000]

theorem toNat_mem_blankCodes {c : Char} (h : Text.isBlank c = true) : c.toNat ∈ blankCodes := by
  simp only [blankCodes, List.mem_cons, List.not_mem_nil, or_false]
  unfold Text.isBlank at h
  dsimp only at h
  split_ifs at h
  all_goals
    simp only [Bool.and_eq_true, Bool.or_eq_true, decide_eq_true_eq, beq_iff_eq] at h
    omega

/-- No blank stands in a sentinel, whatever script it is of. -/
theorem isSentinelChar_of_isBlank {c : Char} (h : Text.isBlank c = true) :
    isSentinelChar c = false := by
  have hall : ∀ k ∈ blankCodes, isSentinelChar (Char.ofNat k) = false := by decide
  have hc := hall _ (toNat_mem_blankCodes h)
  rwa [Char.ofNat_toNat] at hc

namespace Shield

/-! ### Reading sentinels -/

/-- **A sentinel is read wherever it stands**, whatever follows it. -/
theorem readSentinel?_append (h : IsSentinel m n w) (r : Text) :
    readSentinel? m (w ++ r) = some (n, w.length) := by
  obtain ⟨ds, hne, hds, rfl, rfl⟩ := h
  obtain ⟨d, u, rfl⟩ := List.exists_cons_of_ne_nil hne
  have hdrop : Text.dropFront? m (m ++ (d :: u) ++ ['X'] ++ r) = some ((d :: u) ++ 'X' :: r) := by
    rw [Text.dropFront?_eq_some]
    simp only [List.append_assoc, List.singleton_append]
  have htake : ((d :: u) ++ 'X' :: r).takeWhile Text.isDecimal = d :: u := by
    have hX : ('X' :: r).takeWhile Text.isDecimal = [] := List.takeWhile_cons_of_neg (by decide)
    rw [List.takeWhile_append_of_pos hds, hX, List.append_nil]
  rw [readSentinel?, hdrop]
  dsimp only
  rw [htake, List.drop_left]
  simp only [List.length_append, List.length_singleton]

theorem exists_isSentinel_of_readSentinel? {s : Text} {p : Nat × Nat}
    (h : readSentinel? m s = some p) :
    ∃ w r, IsSentinel m p.1 w ∧ w.length = p.2 ∧ s = w ++ r := by
  unfold readSentinel? at h
  split at h
  · simp at h
  · rename_i r hr
    obtain rfl := Text.dropFront?_eq_some.1 hr
    dsimp only at h
    split at h
    · rename_i d u x hd hx
      obtain rfl := (Option.some.inj h).symm
      have hsplit : r = r.takeWhile Text.isDecimal ++ 'X' :: x := by
        rw [← hx]
        exact (List.take_append_drop _ r).symm.trans
          (congrArg (· ++ _) (List.prefix_iff_eq_take.1 (List.takeWhile_prefix _)).symm)
      refine ⟨m ++ r.takeWhile Text.isDecimal ++ ['X'], x,
        ⟨_, by rw [hd]; exact List.cons_ne_nil _ _, fun c hc => List.mem_takeWhile_imp hc, rfl,
          rfl⟩, ?_, ?_⟩
      · simp only [List.length_append, List.length_singleton]
      · rw [List.append_assoc, List.append_assoc, List.singleton_append, ← hsplit]
    · simp at h

/-- No sentinel is read where none stands. -/
theorem readSentinel?_eq_none_iff {s : Text} :
    readSentinel? m s = none ↔ ∀ n w, IsSentinel m n w → ¬ w <+: s := by
  constructor
  · rintro h n w hw ⟨r, rfl⟩
    rw [readSentinel?_append hw] at h
    simp at h
  · intro h
    by_contra hne
    obtain ⟨p, hp⟩ := Option.ne_none_iff_exists'.1 hne
    obtain ⟨w, r, hw, -, rfl⟩ := exists_isSentinel_of_readSentinel? hp
    exact h _ w hw (List.prefix_append _ _)

theorem readSentinel?_eq_none_of_not_mark {s : Text} (h : ¬ m <+: s) :
    readSentinel? m s = none :=
  readSentinel?_eq_none_iff.2 fun _ _ hw hp => h (hw.mark_prefix.trans hp)

/-- A text of which the front is cut off later has no sentinel at its front, if the whole has
none. -/
theorem readSentinel?_eq_none_of_longer {s t : Text} (hp : t <+: s)
    (h : readSentinel? m s = none) : readSentinel? m t = none :=
  readSentinel?_eq_none_iff.2 fun n w hw ht => readSentinel?_eq_none_iff.1 h n w hw (ht.trans hp)

/-- Behind a character that stands in no sentinel, anything may follow. -/
theorem readSentinel?_append_eq_none (hm : IsMark m) {s : Text}
    (h : readSentinel? m s = none) {c : Char} (hc : isSentinelChar c = false) (r : Text) :
    readSentinel? m (s ++ c :: r) = none :=
  readSentinel?_eq_none_iff.2 fun n w hw hp =>
    readSentinel?_eq_none_iff.1 h n w hw (Text.prefix_of_notMem (hw.notMem hm hc) hp)

/-- A character that stands in no sentinel begins none. -/
theorem readSentinel?_cons_eq_none (hm : IsMark m) {c : Char} (hc : isSentinelChar c = false)
    (s : Text) : readSentinel? m (c :: s) = none :=
  readSentinel?_append_eq_none hm (s := [])
    (readSentinel?_eq_none_iff.2 fun _ _ hw hp => hw.ne_nil (List.prefix_nil.1 hp)) hc s

/-- The induction that follows the reading of sentinels, whatever their numbers are. -/
@[elab_as_elim]
theorem sentinel_induction (m : Text) {motive : Text → Prop} (nil : motive [])
    (sentinel : ∀ (n : Nat) (w r : Text), IsSentinel m n w → motive r → motive (w ++ r))
    (char : ∀ (c : Char) (s : Text), readSentinel? m (c :: s) = none → motive s → motive (c :: s))
    (s : Text) : motive s := by
  have hne : ∀ w, (∃ n, IsSentinel m n w) → w ≠ [] := fun w ⟨n, hw⟩ => hw.ne_nil
  refine Text.pieces_induction hne nil ?_ ?_ s
  · rintro w r ⟨n, hw⟩ ih
    exact sentinel n w r hw ih
  · intro c s hnone ih
    exact char c s (readSentinel?_eq_none_iff.2 fun n w hw => hnone w ⟨n, hw⟩) ih

end Shield

/-- At one place at most one sentinel stands. -/
theorem IsSentinel.unique {k : Nat} {v s : Text} (hw : IsSentinel m n w) (hv : IsSentinel m k v)
    (hws : w <+: s) (hvs : v <+: s) : n = k ∧ w = v := by
  obtain ⟨a, rfl⟩ := hws
  obtain ⟨b, hb⟩ := hvs
  have hread := Shield.readSentinel?_append hw a
  rw [← hb, Shield.readSentinel?_append hv b, Option.some.injEq, Prod.mk.injEq] at hread
  exact ⟨hread.1.symm, List.append_inj_left hb hread.2 |>.symm⟩

end PromptPress.PlainText

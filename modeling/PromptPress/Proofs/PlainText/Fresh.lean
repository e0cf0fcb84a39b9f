import PromptPress.Proofs.PlainText.Sentinel
import Mathlib.Combinatorics.Pigeonhole
import Mathlib.Order.Interval.Finset.Nat

/-!
# Fresh marks

The marks of different numbers do not stand at the same place of a text: the digits of both end at
the first `X` behind the capitals.  So a text has fewer marks than characters, and among one more
than that there is one that it lacks (`not_freshMark_infix`).
-/

namespace PromptPress.PlainText.Shield

theorem X_notMem_hex (width n : Nat) : 'X' ∉ Text.hex width n := by
  have hdigit : ∀ d < 16, 'X' ≠ d.digitChar := by decide
  intro h
  obtain ⟨d, hd, he⟩ := Text.exists_digit_of_mem_hex h
  exact hdigit d hd he

/-- At one place there is the mark of at most one number. -/
theorem markOf_unique {n k : Nat} {s : Text} (hn : markOf n <+: s) (hk : markOf k <+: s) :
    n = k := by
  obtain ⟨a, rfl⟩ := hn
  obtain ⟨b, hb⟩ := hk
  have hdigits : Text.hex 12 k ++ 'X' :: b = Text.hex 12 n ++ 'X' :: a := by
    unfold markOf at hb
    simpa only [List.append_assoc, List.singleton_append, List.append_cancel_left_eq] using hb
  have hkn : Text.hex 12 k <+: Text.hex 12 n :=
    Text.prefix_of_notMem (X_notMem_hex 12 k) ⟨_, hdigits⟩
  have hnk : Text.hex 12 n <+: Text.hex 12 k :=
    Text.prefix_of_notMem (X_notMem_hex 12 n) ⟨_, hdigits.symm⟩
  have hhex : Text.hex 12 n = Text.hex 12 k :=
    hnk.eq_of_length (Nat.le_antisymm hnk.length_le hkn.length_le)
  rw [← Text.hexNumber_hex 12 n, hhex, Text.hexNumber_hex]

/-- Of one more number than a text has characters, there is one whose mark the text lacks. -/
theorem exists_not_markOf_infix (s : Text) : ∃ n < s.length + 1, ¬ markOf n <:+: s := by
  by_contra hall
  have hinfix : ∀ n, n < s.length + 1 → ∃ t, markOf n <+: t ∧ t <:+ s := by
    intro n hn
    by_contra h
    exact hall ⟨n, hn, fun hi => h (List.infix_iff_prefix_suffix.1 hi)⟩
  choose! rest hfront hsuffix using hinfix
  -- what begins with a mark is not empty, so there are as many lengths as characters
  have hmaps : ∀ n ∈ Finset.range (s.length + 1),
      (rest n).length ∈ Finset.Icc 1 s.length := by
    intro n hn
    have hn := Finset.mem_range.1 hn
    have hlen := (hfront n hn).length_le
    have hmark : 0 < (markOf n).length := by simp [markOf]
    exact Finset.mem_Icc.2 ⟨by omega, (hsuffix n hn).length_le⟩
  have hcard : (Finset.Icc 1 s.length).card < (Finset.range (s.length + 1)).card := by
    rw [Nat.card_Icc, Finset.card_range]
    omega
  obtain ⟨n, hn, k, hk, hne, hlen⟩ := Finset.exists_ne_map_eq_of_card_lt_of_maps_to hcard hmaps
  have hn := Finset.mem_range.1 hn
  have hk := Finset.mem_range.1 hk
  have hrest : rest n = rest k :=
    (List.suffix_of_suffix_length_le (hsuffix n hn) (hsuffix k hk) (Nat.le_of_eq hlen)).eq_of_length
      hlen
  exact hne (markOf_unique (hfront n hn) (hrest ▸ hfront k hk))

/-- **A fresh mark does not occur in its text.** -/
theorem not_freshMark_infix (s : Text) : ¬ freshMark s <:+: s := by
  unfold freshMark
  cases hfind : (List.range (s.length + 1)).find? fun n => !Text.hasPart (markOf n) s with
  | some n =>
    have hn := List.find?_some hfind
    rw [Option.getD_some, ← Text.hasPart_iff]
    simpa using hn
  | none =>
    obtain ⟨n, hn, hi⟩ := exists_not_markOf_infix s
    have hpart := List.find?_eq_none.1 hfind n (List.mem_range.2 hn)
    exact absurd (Text.hasPart_iff.1 (by simpa using hpart)) hi

theorem isMark_freshMark (s : Text) : IsMark (freshMark s) := isMark_markOf _

end PromptPress.PlainText.Shield

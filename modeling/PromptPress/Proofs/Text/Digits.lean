import PromptPress.Text.Digit
import PromptPress.Text.Basic
import Mathlib.Data.Nat.Digits.Defs

/-!
# Numbers in digits

A number is written in digits and read back by a fold over them, whatever the base is
(`foldl_toDigits`).  The decimal digits of a number are decimal digits and stand for it
(`decimalNumber_ofNat`), and so do its hexadecimal digits, however many zeros stand in front of them
(`hexNumber_hex`).
-/

namespace PromptPress.Text

/-- Reading digits one by one gives back the number, if each digit has its value. -/
theorem foldl_toDigits {b : Nat} (hb : 1 < b) {value : Char → Nat}
    (hvalue : ∀ d < b, value d.digitChar = d) (n : Nat) :
    (Nat.toDigits b n).foldl (fun m c => b * m + value c) 0 = n := by
  induction n using Nat.strong_induction_on with
  | _ n ih =>
    rw [Nat.toDigits_eq_if hb]
    by_cases hn : n < b
    · rw [if_pos hn, List.foldl_cons, List.foldl_nil, hvalue n hn, Nat.mul_zero, Nat.zero_add]
    · have hlt : n / b < n := Nat.div_lt_self (by omega) hb
      rw [if_neg hn, List.foldl_append, ih _ hlt, List.foldl_cons, List.foldl_nil,
        hvalue _ (Nat.mod_lt n (by omega)), Nat.div_add_mod]

theorem exists_digit_of_mem_toDigits {b : Nat} (hb : 1 < b) {n : Nat} {c : Char}
    (h : c ∈ Nat.toDigits b n) : ∃ d < b, c = d.digitChar := by
  induction n using Nat.strong_induction_on with
  | _ n ih =>
    rw [Nat.toDigits_eq_if hb] at h
    by_cases hn : n < b
    · rw [if_pos hn, List.mem_singleton] at h
      exact ⟨n, hn, h⟩
    · rw [if_neg hn, List.mem_append, List.mem_singleton] at h
      rcases h with h | h
      · exact ih _ (Nat.div_lt_self (by omega) hb) h
      · exact ⟨n % b, Nat.mod_lt n (by omega), h⟩

/-! ### Decimal digits -/

theorem ofNat_ne_nil (n : Nat) : ofNat n ≠ [] := Nat.toDigits_ne_nil

theorem isDecimal_of_mem_ofNat {n : Nat} {c : Char} (h : c ∈ ofNat n) : isDecimal c = true := by
  have hall : ∀ d < 10, isDecimal d.digitChar = true := by decide
  obtain ⟨d, hd, rfl⟩ := exists_digit_of_mem_toDigits (by decide) h
  exact hall d hd

/-- **The decimal digits of a number stand for it.** -/
theorem decimalNumber_ofNat (n : Nat) : decimalNumber (ofNat n) = n := by
  have hvalue : ∀ d < 10, (decimalValue? d.digitChar).getD 0 = d := by decide
  exact foldl_toDigits (by decide) hvalue n

/-! ### Hexadecimal digits -/

theorem exists_digit_of_mem_hex {width n : Nat} {c : Char} (h : c ∈ hex width n) :
    ∃ d < 16, c = d.digitChar := by
  rcases List.mem_append.1 h with h | h
  · exact ⟨0, by decide, (List.mem_replicate.1 h).2⟩
  · exact exists_digit_of_mem_toDigits (by decide) h

/-- A number below a power of sixteen has as many hexadecimal digits as are asked for. -/
theorem length_hex {width n : Nat} (hw : 0 < width) (hn : n < 16 ^ width) :
    (hex width n).length = width := by
  have hlen := Nat.toDigits_length 16 n width hw hn
  rw [hex, List.length_append, List.length_replicate]
  omega

/-- **The hexadecimal digits of a number stand for it**, zeros in front of them or not. -/
theorem hexNumber_hex (width n : Nat) : CodeRanges.hexNumber (hex width n) = n := by
  have hvalue : ∀ d < 16, CodeRanges.hexValue d.digitChar = d := by decide
  have hzeros : ∀ k, (List.replicate k '0').foldl (fun m c => 16 * m + CodeRanges.hexValue c) 0 =
      0 := by
    intro k
    induction k with
    | zero => rfl
    | succ k ih => exact ih
  unfold CodeRanges.hexNumber hex
  rw [List.foldl_append, hzeros]
  exact foldl_toDigits (by decide) hvalue n

end PromptPress.Text

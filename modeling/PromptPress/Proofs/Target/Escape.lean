import PromptPress.Proofs.Text.Digits

/-!
# Escapes by number

Languages write a character that they cannot show by its code in digits.  `Escape.code?` reads a
code of a fixed number of hexadecimal digits, and reads back what `Text.hex` writes.
-/

namespace PromptPress.Escape

/-- A hexadecimal digit. -/
def isHexDigit (c : Char) : Bool :=
  ('0' ≤ c && c ≤ '9') || ('a' ≤ c && c ≤ 'f') || ('A' ≤ c && c ≤ 'F')

/-- The character of a code, if there is one: the codes of surrogates are those of no character. -/
def char? (n : Nat) : Option Char := if n.isValidChar then some (Char.ofNat n) else none

/-- Reads the code of a character in `width` hexadecimal digits. -/
def code? (width : Nat) (s : Text) : Option (Text × Text) :=
  let ds := s.take width
  if ds.length = width ∧ ds.all isHexDigit = true then
    (char? (CodeRanges.hexNumber ds)).map fun c => ([c], s.drop width)
  else none

theorem length_of_code? {width : Nat} {s t r : Text} (h : code? width s = some (t, r)) :
    r.length ≤ s.length := by
  unfold code? at h
  dsimp only at h
  split at h
  · obtain ⟨c, -, hc⟩ := Option.map_eq_some_iff.1 h
    obtain ⟨-, rfl⟩ : [c] = t ∧ s.drop width = r := by simpa using hc
    rw [List.length_drop]
    omega
  · simp at h

theorem char?_toNat (c : Char) : char? c.toNat = some c := by
  have hv : c.toNat.isValidChar := c.valid
  rw [char?, if_pos hv, Char.ofNat_toNat]

theorem isHexDigit_of_mem_hex {width n : Nat} {c : Char} (h : c ∈ Text.hex width n) :
    isHexDigit c = true := by
  have hall : ∀ d < 16, isHexDigit d.digitChar = true := by decide
  obtain ⟨d, hd, rfl⟩ := Text.exists_digit_of_mem_hex h
  exact hall d hd

/-- **A code that fits into its digits is read back.** -/
theorem code?_hex {width : Nat} (hw : 0 < width) {c : Char} (hc : c.toNat < 16 ^ width) (r : Text) :
    code? width (Text.hex width c.toNat ++ r) = some ([c], r) := by
  have hlen := Text.length_hex hw hc
  have hall : (Text.hex width c.toNat).all isHexDigit = true :=
    List.all_eq_true.2 fun d hd => isHexDigit_of_mem_hex hd
  rw [code?, List.take_left' hlen, List.drop_left' hlen, Text.hexNumber_hex, char?_toNat]
  simp [hlen, hall]

end PromptPress.Escape

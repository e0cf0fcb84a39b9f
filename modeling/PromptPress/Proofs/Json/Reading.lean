import PromptPress.Json.Reader
import PromptPress.Json.Writer
import PromptPress.Proofs.Target.Escape

/-!
# Strings of the interchange format read back

A character stands between the quotes of a string in one of three ways (`Spelling`), and each of
them is read back in one step, whatever follows it: the escapes begin with a backslash, and neither
a quote nor a backslash stands for itself.  So a string is read back up to its closing quote and no
further (`stringRest?_string`), and its text is one value (`read?_string`).
-/

namespace PromptPress.Json

/-- How a character stands in a string: as a short escape, by its code, or for itself. -/
inductive Spelling (c : Char) : Text → Prop
  | short {e : Char} (h : shortEscape? e = some c) : Spelling c ['\\', e]
  | code (h : c.toNat < 0x20) : Spelling c ('\\' :: 'u' :: Text.hex 4 c.toNat)
  | plain (hq : c ≠ '"') (hb : c ≠ '\\') (h : ¬ c.toNat < 0x20) : Spelling c [c]

theorem spelling (c : Char) : Spelling c (stringChar false c) := by
  have hcode : ∀ {n : Nat}, c.toNat = n → Char.ofNat n = c := by
    rintro n rfl
    exact Char.ofNat_toNat c
  unfold stringChar
  split_ifs with h₁ h₂ h₃ h₄ h₅ h₆ h₇ h₈
  · subst h₁
    exact .short rfl
  · subst h₂
    exact .short rfl
  · subst h₃
    exact .short rfl
  · subst h₄
    exact .short rfl
  · subst h₅
    exact .short rfl
  · exact .short (congrArg some (hcode h₆))
  · exact .short (congrArg some (hcode h₇))
  · have hlt : c.toNat < 0x20 := h₈.resolve_right fun h => absurd h.1 (by decide)
    have hunits : unitEscapes c = '\\' :: 'u' :: Text.hex 4 c.toNat := by
      rw [unitEscapes, if_pos (by omega)]
      rfl
    rw [hunits]
    exact .code hlt
  · exact .plain h₁ h₂ fun h => h₈ (.inl h)

theorem unit?_hex {n : Nat} (hn : n < 16 ^ 4) (r : Text) : unit? (Text.hex 4 n ++ r) = some (n, r) := by
  have hlen := Text.length_hex (by decide) hn
  have hall : (Text.hex 4 n).all isHexDigit = true :=
    List.all_eq_true.2 fun d hd => Escape.isHexDigit_of_mem_hex hd
  have hnum := Text.hexNumber_hex 4 n
  obtain ⟨a, b, c, d, he⟩ : ∃ a b c d, Text.hex 4 n = [a, b, c, d] := by
    match Text.hex 4 n, hlen with
    | [a, b, c, d], _ => exact ⟨a, b, c, d, rfl⟩
  rw [he] at hall hnum ⊢
  show (if [a, b, c, d].all isHexDigit = true then _ else none) = _
  rw [if_pos hall, hnum]
  rfl

/-- A code below those of the pairs stands for its character alone. -/
theorem unitChar_toNat {c : Char} (h : c.toNat < 0xd800) (r : Text) :
    unitChar c.toNat r = (c, r) := by
  unfold unitChar
  rw [if_neg (by omega), if_neg (by omega), Char.ofNat_toNat]

/-- **A character is read back from its spelling** in one step, whatever follows it. -/
theorem Spelling.stringRest? {c : Char} {w : Text} (h : Spelling c w) (fuel : Nat)
    (done r : Text) : Json.stringRest? (fuel + 1) done (w ++ r) =
      Json.stringRest? fuel (c :: done) r := by
  cases h with
  | @short e he =>
    have hu : e ≠ 'u' := by
      rintro rfl
      exact absurd he (Option.some_ne_none c).symm
    rw [List.cons_append, List.singleton_append, Json.stringRest?]
    · rw [he]
    · exact hu
  | code hlt =>
    rw [List.cons_append, List.cons_append, Json.stringRest?, unit?_hex (by omega)]
    dsimp only
    rw [unitChar_toNat (by omega)]
  | plain hq hb hlt =>
    rw [List.singleton_append, Json.stringRest?]
    · exact if_neg (not_or.2 ⟨hlt, hb⟩)
    all_goals simp_all

theorem Spelling.length_pos {c : Char} {w : Text} (h : Spelling c w) : 0 < w.length := by
  cases h <;> exact Nat.succ_pos _

/-- **A string is read back up to its closing quote** and no further. -/
theorem stringRest?_string (s r done : Text) {fuel : Nat} (hfuel : s.length < fuel) :
    stringRest? fuel done (s.flatMap (stringChar false) ++ '"' :: r) =
      some (done.reverse ++ s, r) := by
  induction s generalizing done fuel with
  | nil =>
    obtain ⟨n, rfl⟩ : ∃ n, fuel = n + 1 := ⟨fuel - 1, by simp at hfuel; omega⟩
    rw [List.append_nil]
    rfl
  | cons c s ih =>
    obtain ⟨n, rfl⟩ : ∃ n, fuel = n + 1 := ⟨fuel - 1, by simp at hfuel; omega⟩
    rw [List.flatMap_cons, List.append_assoc, (spelling c).stringRest?,
      ih (c :: done) (by simpa using hfuel), List.reverse_cons, List.append_assoc]
    rfl

theorem length_le_length_flatMap_stringChar (s : Text) :
    s.length ≤ (s.flatMap (stringChar false)).length := by
  induction s with
  | nil => exact Nat.le_refl 0
  | cons c s ih =>
    have := (spelling c).length_pos
    rw [List.flatMap_cons, List.length_append, List.length_cons]
    omega

/-- A string is read as a value up to its end and no further. -/
theorem value?_string (fuel : Nat) (s r : Text) :
    value? (fuel + 1) (string false s ++ r) = some (.str s, r) := by
  have hlen := length_le_length_flatMap_stringChar s
  have hstring : string false s ++ r = '"' :: (s.flatMap (stringChar false) ++ '"' :: r) := by
    rw [string, List.cons_append, List.cons_append, List.append_assoc, List.singleton_append]
  have hskip : skipBlanks ('"' :: (s.flatMap (stringChar false) ++ '"' :: r)) =
      '"' :: (s.flatMap (stringChar false) ++ '"' :: r) := rfl
  rw [hstring, value?, hskip]
  show (stringRest? _ [] (s.flatMap (stringChar false) ++ '"' :: r)).map _ = _
  rw [stringRest?_string s r [] (by rw [List.length_append]; omega)]
  rfl

/-- **The text of a string is one value.** -/
theorem read?_string (s : Text) : read? (string false s) = some (.str s) := by
  have hvalue := value?_string (string false s).length s []
  rw [List.append_nil] at hvalue
  rw [read?, hvalue]
  rfl

end PromptPress.Json

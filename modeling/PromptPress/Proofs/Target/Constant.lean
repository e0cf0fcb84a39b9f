import PromptPress.Proofs.Target.Python
import PromptPress.Proofs.Target.TypeScript
import PromptPress.Proofs.Json.Reading

/-!
# Constants read back

The module of a text without placeholders has the text as one string between double quotes.  The
rules by which Python and ECMAScript read such a string are stated here without regard to how it is
written, as quotations without items (`Quotation.literal?`).

The two languages get their strings from different writers.  What is shown of each is one lemma on
one character, `reads_escapeChar` and `reads_spelling`: whatever follows the spelling of a
character, the reader takes that spelling and nothing else.
-/

namespace PromptPress

/-! ### Literals without items -/

/-- The character of an atom where there are no items. -/
def Atom.toChar : Atom Empty → Char
  | .char c => c
  | .item e => nomatch e

namespace Quotation

/-- Reads a literal from its opening quote on: its text, and what follows the closing quote. -/
def literal? (Q : Quotation Empty) : Text → Option (Text × Text)
  | [] => none
  | c :: s =>
    if c = Q.closing then (Q.read s).map fun (as, r) => (as.map Atom.toChar, r) else none

/-- Characters that are read one by one make up a literal that ends with its closing quote. -/
theorem literal?_flatMap {Q : Quotation Empty} {code : Char → Text}
    (h : ∀ c r, Q.Reads (code c) [.char c] r) (s rest : Text) :
    Q.literal? (Q.closing :: (s.flatMap code ++ Q.closing :: rest)) = some (s, rest) := by
  have hread : Q.read (s.flatMap code ++ Q.closing :: rest) = some (s.map .char, rest) := by
    rw [← List.flatMap_singleton' (s.map Atom.char), List.flatMap_map]
    exact (Reads.flatMap h s _).read_eq
  have htext : (s.map Atom.char).map Atom.toChar = s := by
    rw [List.map_map]
    exact List.map_id s
  rw [literal?, if_pos rfl, hread, Option.map_some]
  dsimp only
  rw [htext]

end Quotation

/-! ### Python -/

namespace Python

/-- How strings between double quotes are read. -/
def plain : Quotation Empty where
  closing := '"'
  unit? := stringUnit?
  shorter := length_of_stringUnit?

/-- Reads a string from its opening quote on.  Three quotes open a string of another kind. -/
def literal? : Text → Option (Text × Text)
  | '"' :: '"' :: '"' :: _ => none
  | s => plain.literal? s

theorem reads_escapeChar (c : Char) (r : Text) : plain.Reads (escapeChar c) [.char c] r := by
  obtain ⟨d, w, he, hq, -, hu⟩ := stringUnit?_escapeChar c r
  rw [he]
  exact Quotation.Reads.unit hq hu

theorem literal?_stringLiteral (s rest : Text) :
    literal? (stringLiteral s ++ '\n' :: rest) = some (s, '\n' :: rest) := by
  have hsplit : stringLiteral s ++ '\n' :: rest =
      '"' :: (s.flatMap escapeChar ++ '"' :: '\n' :: rest) := by
    rw [stringLiteral, List.cons_append, List.cons_append, List.append_assoc,
      List.singleton_append]
  have hread := Quotation.literal?_flatMap reads_escapeChar s ('\n' :: rest)
  -- a second quote closes the literal of an empty text, and the line ends behind it
  have hquotes : ∀ t, s.flatMap escapeChar ++ '"' :: '\n' :: rest ≠ '"' :: '"' :: t := by
    intro t
    cases s with
    | nil =>
      intro h
      exact absurd (List.cons.inj (List.cons.inj h).2).1 (by decide)
    | cons c s =>
      obtain ⟨d, w, he, hq, -⟩ := stringUnit?_escapeChar (α := Empty) c []
      rw [List.flatMap_cons, he]
      exact fun h => hq (List.cons.inj h).1
  rw [hsplit, literal?]
  · exact hread
  · intro t h
    exact hquotes t (List.cons.inj h).2

/-- A string is spelled without control characters. -/
theorem le_toNat_of_mem_stringLiteral {s : Text} {c : Char} (h : c ∈ stringLiteral s) :
    0x20 ≤ c.toNat := by
  have hhex : ∀ d < 16, 0x20 ≤ d.digitChar.toNat := by decide
  have hspelling : ∀ b, c ∈ escapeChar b → 0x20 ≤ c.toNat := by
    intro b hb
    unfold escapeChar at hb
    split_ifs at hb with h₁ h₂ h₃ h₄ h₅
    · obtain rfl | rfl : c = '\\' ∨ c = b := by simpa using hb
      · decide
      · rcases h₁ with rfl | rfl <;> decide
    · rcases List.mem_pair.1 hb with rfl | rfl <;> decide
    · rcases List.mem_pair.1 hb with rfl | rfl <;> decide
    · rcases List.mem_pair.1 hb with rfl | rfl <;> decide
    · rcases List.mem_append.1 hb with hb | hb
      · rcases List.mem_pair.1 hb with rfl | rfl <;> decide
      · obtain ⟨d, hd, rfl⟩ := Text.exists_digit_of_mem_hex hb
        exact hhex d hd
    · obtain rfl := List.mem_singleton.1 hb
      omega
  rcases List.mem_append.1 h with h | h
  · rcases List.mem_cons.1 h with rfl | h
    · decide
    · obtain ⟨b, -, hb⟩ := List.mem_flatMap.1 h
      exact hspelling b hb
  · obtain rfl := List.mem_singleton.1 h
    decide

end Python

/-! ### ECMAScript -/

namespace TypeScript

/-- Reads an escape or a character of a string between double quotes.  The string stands on one
line; the separators of lines and paragraphs do not end it. -/
def stringUnit? : Text → Option (List (Atom Empty) × Text)
  | [] => none
  | c :: s =>
    if c = '\\' then (escape? s).map fun (t, r) => (t.map .char, r)
    else if c = '\n' ∨ c = '\r' then none
    else some ([.char c], s)

/-- How strings between double quotes are read. -/
def plain : Quotation Empty where
  closing := '"'
  unit? := stringUnit?
  shorter {s as r} h := by
    cases s with
    | nil => simp [stringUnit?] at h
    | cons c s =>
      simp only [stringUnit?] at h
      split_ifs at h
      · obtain ⟨⟨t, r'⟩, he, hr⟩ := Option.map_eq_some_iff.1 h
        obtain ⟨-, rfl⟩ := Prod.mk.inj hr
        exact Nat.lt_succ_of_le (length_of_escape? he)
      · obtain ⟨-, rfl⟩ := Prod.mk.inj (Option.some.inj h)
        exact Nat.lt_succ_self _

/-- A short escape of the interchange format is one of ECMAScript, for the same character. -/
theorem escape?_short {e c : Char} (h : Json.shortEscape? e = some c) (r : Text) :
    escape? (e :: r) = some ([c], r) := by
  unfold Json.shortEscape? at h
  split at h <;> cases h <;> rfl

/-- A code in four digits is one of ECMAScript: no brace follows the letter in front of it. -/
theorem escape?_code {c : Char} (h : c.toNat < 16 ^ 4) (r : Text) :
    escape? ('u' :: (Text.hex 4 c.toNat ++ r)) = some ([c], r) := by
  have hbrace : ∀ d < 16, d.digitChar ≠ '{' := by decide
  have hlen := Text.length_hex (by decide) h
  have hdrop : Text.dropFront? ['{'] (Text.hex 4 c.toNat ++ r) = none := by
    cases hd : Text.hex 4 c.toNat with
    | nil => simp [hd] at hlen
    | cons a ds =>
      obtain ⟨d, hlt, rfl⟩ := Text.exists_digit_of_mem_hex (hd ▸ List.mem_cons_self : a ∈ _)
      rw [List.cons_append, Text.dropFront?, if_neg (hbrace d hlt).symm]
  have hcode := Escape.code?_hex (by decide) h r
  have hsimple : simpleEscapes.lookup 'u' = none := by decide
  have hnul : ¬ ('u' = '0' ∧ startsWithDigit (Text.hex 4 c.toNat ++ r) = false) :=
    fun h => absurd h.1 (by decide)
  simp only [escape?, hsimple, if_neg hnul, hdrop, hcode]
  rfl

theorem reads_spelling {c : Char} {w : Text} (h : Json.Spelling c w) (r : Text) :
    plain.Reads w [.char c] r := by
  have hescape : ∀ {s : Text}, escape? (s ++ r) = some ([c], r) →
      plain.Reads ('\\' :: s) [.char c] r := by
    intro s hs
    refine Quotation.Reads.unit (by decide) ?_
    show stringUnit? ('\\' :: (s ++ r)) = _
    rw [stringUnit?, if_pos rfl, hs]
    rfl
  cases h with
  | short h => exact hescape (escape?_short h r)
  | code h => exact hescape (escape?_code (by omega) r)
  | plain hq hb hlow =>
    refine Quotation.Reads.unit hq ?_
    have hline : ¬ (c = '\n' ∨ c = '\r') := by
      rintro (rfl | rfl) <;> exact hlow (by decide)
    show stringUnit? (c :: ([] ++ r)) = _
    rw [List.nil_append, stringUnit?, if_neg hb, if_neg hline]

theorem literal?_string (s rest : Text) :
    plain.literal? (Json.string false s ++ rest) = some (s, rest) := by
  have hsplit : Json.string false s ++ rest =
      '"' :: (s.flatMap (Json.stringChar false) ++ '"' :: rest) := by
    rw [Json.string, List.cons_append, List.cons_append, List.append_assoc, List.singleton_append]
  rw [hsplit]
  exact Quotation.literal?_flatMap (fun c r => reads_spelling (Json.spelling c) r) s rest

end TypeScript

/-! ### Modules -/

namespace Artifact

/-- **A module without placeholders carries its text exactly.**  In TypeScript the constant is a
value of the interchange format and a string of ECMAScript; in Python it is a string in which no
control character stands.  Each is closed at its end, whatever follows it, and denotes the text. -/
theorem constant_denotes_text (s : Text) :
    (∃ lit, (ofText .typescript s []).code = "export default " ++ lit ++ ";" ∧
      Json.read? lit = some (.str s) ∧
      (∀ fuel rest, Json.value? (fuel + 1) (lit ++ rest) = some (.str s, rest)) ∧
      ∀ rest, TypeScript.plain.literal? (lit ++ rest) = some (s, rest)) ∧
    ∃ lit, (ofText .python s []).code = Python.header ++ "\nTEMPLATE: str = " ++ lit ++ "\n" ∧
      (∀ rest, Python.literal? (lit ++ '\n' :: rest) = some (s, '\n' :: rest)) ∧
      lit.all (fun c => 0x20 ≤ c.toNat) = true := by
  refine ⟨⟨Json.string false s, rfl, Json.read?_string s, fun fuel => Json.value?_string fuel s,
    TypeScript.literal?_string s⟩, Python.stringLiteral s, rfl, Python.literal?_stringLiteral s, ?_⟩
  rw [List.all_eq_true]
  intro c hc
  exact decide_eq_true (Python.le_toNat_of_mem_stringLiteral hc)

end Artifact

end PromptPress

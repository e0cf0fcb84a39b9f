import PromptPress.Text.Basic
import Mathlib.Data.List.Infix

/-!
# Parts of texts

A part that lacks a character does not reach over it: at the front of a text it ends before that
character (`prefix_of_notMem`), and elsewhere it stands on one side of it
(`infix_or_infix_of_notMem`).

What reads a text takes a piece off its front where there is one, and a character where there is
none (`pieces_induction`).
-/

namespace PromptPress.Text

variable {α : Type}

/-- The induction that follows the reading of a text in pieces. -/
theorem pieces_induction {isPiece : List α → Prop} (hne : ∀ w, isPiece w → w ≠ [])
    {motive : List α → Prop} (nil : motive [])
    (piece : ∀ w r, isPiece w → motive r → motive (w ++ r))
    (char : ∀ c s, (∀ w, isPiece w → ¬ w <+: c :: s) → motive s → motive (c :: s))
    (s : List α) : motive s := by
  -- A piece may be long, so the induction is on the length of what is left.
  induction hn : s.length using Nat.strong_induction_on generalizing s with
  | _ n ih =>
    cases s with
    | nil => exact nil
    | cons c s =>
      by_cases hpiece : ∃ w, isPiece w ∧ w <+: c :: s
      · obtain ⟨w, hw, r, hr⟩ := hpiece
        have hpos := List.length_pos_iff.2 (hne w hw)
        rw [← hr] at hn ⊢
        rw [List.length_append] at hn
        exact piece w r hw (ih r.length (by omega) r rfl)
      · rw [List.length_cons] at hn
        exact char c s (fun w hw hp => hpiece ⟨w, hw, hp⟩) (ih s.length (by omega) s rfl)

theorem prefix_of_notMem {c : α} {w s r : List α} (hc : c ∉ w) (h : w <+: s ++ c :: r) :
    w <+: s := by
  obtain ⟨y, hy⟩ := h
  rcases List.append_eq_append_iff.1 hy with ⟨a, rfl, -⟩ | ⟨a, rfl, ha⟩
  · exact List.prefix_append _ _
  · cases a with
    | nil => simp
    | cons d a =>
      obtain rfl := (List.cons.inj ha).1
      exact absurd (List.mem_append_right s List.mem_cons_self) hc

theorem infix_or_infix_of_notMem {c : α} {w s r : List α} (hc : c ∉ w) (h : w <:+: s ++ c :: r) :
    w <:+: s ∨ w <:+: r := by
  induction s with
  | nil =>
    rcases List.infix_cons_iff.1 h with hp | hi
    · have hnil : w <+: [] := prefix_of_notMem (s := []) hc hp
      exact .inl hnil.isInfix
    · exact .inr hi
  | cons d s ih =>
    rcases List.infix_cons_iff.1 h with hp | hi
    · exact .inl (prefix_of_notMem (s := d :: s) hc hp).isInfix
    · rcases ih hi with hs | hr
      · exact .inl (List.infix_cons hs)
      · exact .inr hr

theorem isSome_dropFront?_iff {p s : Text} : (dropFront? p s).isSome ↔ p <+: s := by
  rw [Option.isSome_iff_exists]
  constructor
  · rintro ⟨r, hr⟩
    exact ⟨r, (dropFront?_eq_some.1 hr).symm⟩
  · rintro ⟨r, hr⟩
    exact ⟨r, dropFront?_eq_some.2 hr.symm⟩

theorem hasPart_iff {p s : Text} : hasPart p s = true ↔ p <:+: s := by
  rw [hasPart]
  induction s with
  | nil =>
    rw [cutAt?, List.infix_nil, ← List.isEmpty_iff]
    split_ifs with h <;> simp [h]
  | cons c s ih =>
    rw [cutAt?, List.infix_cons_iff, ← isSome_dropFront?_iff, ← ih]
    cases dropFront? p (c :: s) with
    | none => simp
    | some r => simp

end PromptPress.Text

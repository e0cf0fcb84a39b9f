import PromptPress.Text.Basic
import Mathlib.Data.List.Basic

/-!
# Texts split at a character

Splitting a text at a character gives pieces without that character, at least one, and joining them
again gives the text (`joinWith_splitAtChar`).
-/

namespace PromptPress.Text

variable {sep : Char} {l s : Text}

theorem splitAtChar_sep (sep : Char) (s : Text) :
    splitAtChar sep (sep :: s) = [] :: splitAtChar sep s := by
  rw [splitAtChar, if_pos rfl]

theorem exists_splitAtChar_eq_cons (sep : Char) (s : Text) :
    ∃ l ls, splitAtChar sep s = l :: ls := by
  cases s with
  | nil => exact ⟨[], [], rfl⟩
  | cons c s =>
    rw [splitAtChar]
    split
    · exact ⟨_, _, rfl⟩
    · split <;> exact ⟨_, _, rfl⟩

/-- A character that is not split at goes to the first piece. -/
theorem splitAtChar_cons {c : Char} (hc : c ≠ sep) {ls : List Text}
    (h : splitAtChar sep s = l :: ls) : splitAtChar sep (c :: s) = (c :: l) :: ls := by
  rw [splitAtChar, if_neg hc, h]

theorem notMem_of_mem_splitAtChar (h : l ∈ splitAtChar sep s) : sep ∉ l := by
  induction s generalizing l with
  | nil =>
    obtain rfl := List.mem_singleton.1 h
    exact List.not_mem_nil
  | cons c s ih =>
    obtain ⟨k, ks, hk⟩ := exists_splitAtChar_eq_cons sep s
    by_cases hc : c = sep
    · rw [hc, splitAtChar_sep, List.mem_cons] at h
      rcases h with rfl | h
      · exact List.not_mem_nil
      · exact ih h
    · rw [splitAtChar_cons hc hk, List.mem_cons] at h
      rcases h with rfl | h
      · exact List.not_mem_cons_of_ne_of_not_mem (Ne.symm hc) (ih (hk ▸ List.mem_cons_self))
      · exact ih (hk ▸ List.mem_cons_of_mem k h)

/-- **Joining the pieces gives the text.** -/
theorem joinWith_splitAtChar (sep : Char) (s : Text) :
    joinWith [sep] (splitAtChar sep s) = s := by
  induction s with
  | nil => rfl
  | cons c s ih =>
    obtain ⟨k, ks, hk⟩ := exists_splitAtChar_eq_cons sep s
    rw [hk] at ih
    by_cases hc : c = sep
    · rw [hc, splitAtChar_sep, hk, joinWith, ih]
      rfl
    · rw [splitAtChar_cons hc hk, ← ih]
      cases ks <;> rfl

end PromptPress.Text

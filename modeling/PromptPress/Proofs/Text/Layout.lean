import PromptPress.Text.Blank
import PromptPress.Text.Lines
import PromptPress.Proofs.Text.Parts

/-!
# Trimming and lines

The equations of trimming and of splitting into lines, for one character in front of a text and for
a solid word in front of it.  A word is solid if it is not empty and has no blank: nothing is trimmed
off it, and no line ends in it.

A carriage return in front of a line feed adds nothing to it (`lines_return_feed`), so splitting into
lines can be taken character by character.
-/

namespace PromptPress.Text

/-- A word without blanks. -/
structure Solid (v : Text) : Prop where
  ne_nil : v ≠ []
  notBlank : ∀ c ∈ v, isBlank c = false

/-! ### Trimming -/

theorem dropEndWhile_cons (p : Char → Bool) (c : Char) (s : Text) : dropEndWhile p (c :: s) =
    if (dropEndWhile p s).isEmpty && p c then [] else c :: dropEndWhile p s := rfl

theorem dropEndWhile_prefix (p : Char → Bool) (s : Text) : dropEndWhile p s <+: s := by
  induction s with
  | nil => exact List.prefix_rfl
  | cons c s ih =>
    rw [dropEndWhile_cons]
    split_ifs
    · exact List.nil_prefix
    · exact List.cons_prefix_cons.2 ⟨rfl, ih⟩

theorem dropEndWhile_append {p : Char → Bool} {v : Text} (hv : ∀ c ∈ v, p c = false) (s : Text) :
    dropEndWhile p (v ++ s) = v ++ dropEndWhile p s := by
  induction v with
  | nil => rfl
  | cons c v ih =>
    obtain ⟨hc, hv⟩ := List.forall_mem_cons.1 hv
    rw [List.cons_append, dropEndWhile_cons, hc, Bool.and_false, if_neg (by simp), ih hv,
      List.cons_append]

theorem Solid.dropWhile_append {v : Text} (hv : Solid v) (s : Text) :
    (v ++ s).dropWhile isBlank = v ++ s := by
  obtain ⟨c, u, rfl⟩ := List.exists_cons_of_ne_nil hv.ne_nil
  exact List.dropWhile_cons_of_neg (by simp [hv.notBlank c List.mem_cons_self])

/-! ### Lines -/

/-- Puts a text in front of the first line. -/
def prepend (v : Text) : List Text → List Text
  | [] => [v]
  | l :: ls => (v ++ l) :: ls

theorem isBlank_of_isLineBreak {c : Char} (h : isLineBreak c = true) : isBlank c = true := by
  unfold isLineBreak at h
  unfold isBlank
  dsimp only at h ⊢
  split_ifs at h ⊢
  all_goals
    simp only [Bool.and_eq_true, Bool.or_eq_true, decide_eq_true_eq, beq_iff_eq] at h ⊢
    omega

theorem lines_return_feed (s : Text) : lines ('\r' :: '\n' :: s) = lines ('\n' :: s) := by
  rw [lines, lines, linesWithEnds, linesWithEnds]
  · rfl
  · simp

/-- Does a text begin with a line feed? -/
def StartsLine (s : Text) : Prop := ∃ u, s = '\n' :: u

theorem linesWithEnds_cons {c : Char} {s : Text} (h : ¬ (c = '\r' ∧ StartsLine s)) :
    linesWithEnds (c :: s) =
      if isLineBreak c then ([], [c]) :: linesWithEnds s
      else
        match linesWithEnds s with
        | [] => [([c], [])]
        | (l, e) :: ls => (c :: l, e) :: ls := by
  have hapart : ∀ u, c = '\r' → s = '\n' :: u → False := by
    rintro u rfl rfl
    exact h ⟨rfl, u, rfl⟩
  refine (linesWithEnds.eq_3 c s hapart).trans ?_
  cases linesWithEnds s <;> rfl

/-- A character that ends a line has an empty line in front of it. -/
theorem lines_break {c : Char} {s : Text} (h : ¬ (c = '\r' ∧ StartsLine s))
    (hc : isLineBreak c = true) : lines (c :: s) = [] :: lines s := by
  rw [lines, linesWithEnds_cons h, if_pos hc]
  rfl

theorem lines_cons {c : Char} (s : Text) (hc : isLineBreak c = false) :
    lines (c :: s) = prepend [c] (lines s) := by
  have h : ¬ (c = '\r' ∧ StartsLine s) := by
    rintro ⟨rfl, -⟩
    exact absurd hc (by decide)
  rw [lines, linesWithEnds_cons h, hc, if_neg (by simp), lines]
  cases linesWithEnds s with
  | nil => rfl
  | cons l ls => rfl

theorem prepend_append {u v : Text} (ls : List Text) :
    prepend u (prepend v ls) = prepend (u ++ v) ls := by
  cases ls with
  | nil => rfl
  | cons l ls => simp [prepend]

theorem Solid.lines_append {v : Text} (hv : Solid v) (s : Text) :
    lines (v ++ s) = prepend v (lines s) := by
  have hbreak : ∀ c ∈ v, isLineBreak c = false := by
    intro c hc
    rw [Bool.eq_false_iff]
    intro h
    exact absurd (hv.notBlank c hc) (by simp [isBlank_of_isLineBreak h])
  obtain ⟨c, u, rfl⟩ := List.exists_cons_of_ne_nil hv.ne_nil
  clear hv
  induction u generalizing c with
  | nil => exact lines_cons s (hbreak c List.mem_cons_self)
  | cons d u ih =>
    obtain ⟨hc, hu⟩ := List.forall_mem_cons.1 hbreak
    rw [List.cons_append, lines_cons _ hc, ih d hu, prepend_append]
    rfl

/-- The first line is the front of the text. -/
theorem prefix_of_lines {s l : Text} {ls : List Text} (h : lines s = l :: ls) : l <+: s := by
  induction s generalizing l ls with
  | nil => exact absurd h (List.cons_ne_nil l ls).symm
  | cons c s ih =>
    by_cases hr : c = '\r' ∧ StartsLine s
    · obtain ⟨rfl, u, rfl⟩ := hr
      have hfeed : ¬ ('\n' = '\r' ∧ StartsLine u) := fun h => absurd h.1 (by decide)
      rw [lines_return_feed, lines_break hfeed (by decide)] at h
      obtain ⟨rfl, -⟩ := List.cons.inj h
      exact List.nil_prefix
    · cases hc : isLineBreak c with
      | true =>
        rw [lines_break hr hc] at h
        obtain ⟨rfl, -⟩ := List.cons.inj h
        exact List.nil_prefix
      | false =>
        rw [lines_cons s hc] at h
        cases hs : lines s with
        | nil =>
          rw [hs] at h
          obtain ⟨rfl, -⟩ := List.cons.inj h
          exact List.prefix_append [c] s
        | cons l' ls' =>
          rw [hs] at h
          obtain ⟨rfl, -⟩ := List.cons.inj h
          exact List.cons_prefix_cons.2 ⟨rfl, ih hs⟩

end PromptPress.Text

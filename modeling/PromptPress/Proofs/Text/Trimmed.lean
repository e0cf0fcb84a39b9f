import PromptPress.Proofs.Text.Words
import Mathlib.Data.List.DropRight

/-!
# Trimmed lines

The ink of a text is what remains of it without its blanks.  Splitting into lines, trimming and
joining touch blanks only, so they keep the ink.

A text is trimmed if no blank stands at its ends.  Where trimmed lines are joined by line feeds, only
empty lines can be trimmed off (`trim_joinWith`), and the lines that remain are read back
(`lines_joinWith`).  So the lines of such a text are trimmed as well.
-/

namespace PromptPress.Text

variable {l s u v : Text} {ls : List Text}

/-! ### Ink -/

/-- The characters of a text that are no blanks. -/
def ink (s : Text) : Text := s.filter (!isBlank ·)

@[simp] theorem ink_append (u v : Text) : ink (u ++ v) = ink u ++ ink v := List.filter_append u v

theorem ink_cons_of_blank {c : Char} (hc : isBlank c = true) (s : Text) : ink (c :: s) = ink s :=
  List.filter_cons_of_neg (by simp [hc])

theorem ink_cons_of_ink {c : Char} (hc : isBlank c = false) (s : Text) :
    ink (c :: s) = c :: ink s :=
  List.filter_cons_of_pos (by simp [hc])

theorem ink_eq_nil (hs : ∀ c ∈ s, isBlank c = true) : ink s = [] :=
  List.filter_eq_nil_iff.2 fun c hc => by simp [hs c hc]

theorem ink_dropWhile (s : Text) : ink (s.dropWhile isBlank) = ink s := by
  induction s with
  | nil => rfl
  | cons c s ih =>
    by_cases hc : isBlank c = true
    · rw [List.dropWhile_cons_of_pos hc, ink_cons_of_blank hc, ih]
    · rw [List.dropWhile_cons_of_neg hc]

theorem ink_dropEndWhile (s : Text) : ink (dropEndWhile isBlank s) = ink s := by
  obtain ⟨t, hs, ht⟩ := exists_append_dropEndWhile isBlank s
  conv_rhs => rw [hs]
  rw [ink_append, ink_eq_nil ht, List.append_nil]

@[simp] theorem ink_trim (s : Text) : ink (trim s) = ink s := by
  show ink (dropEndWhile isBlank (s.dropWhile isBlank)) = ink s
  rw [ink_dropEndWhile, ink_dropWhile]

theorem ink_joinWith {sep : Text} (hsep : ∀ c ∈ sep, isBlank c = true) (ls : List Text) :
    ink (joinWith sep ls) = ls.flatMap ink := by
  induction ls with
  | nil => rfl
  | cons l ls ih =>
    cases ls with
    | nil => rw [joinWith, List.flatMap_singleton]
    | cons l' ls =>
      rw [joinWith, ink_append, ink_append, ink_eq_nil hsep, List.append_nil, ih]
      rfl

theorem flatMap_ink_lines (s : Text) : (lines s).flatMap ink = ink s := by
  induction s with
  | nil => rfl
  | cons c s ih =>
    by_cases hr : c = '\r' ∧ StartsLine s
    · obtain ⟨rfl, u, rfl⟩ := hr
      rw [lines_return_feed, ih, ink_cons_of_blank (c := '\r') (by decide)]
    · cases hc : isLineBreak c with
      | true =>
        rw [lines_break hr hc, List.flatMap_cons, ih, ink_cons_of_blank (isBlank_of_isLineBreak hc)]
        rfl
      | false =>
        have hfront : ink (c :: s) = ink [c] ++ ink s := ink_append [c] s
        rw [lines_cons s hc, hfront, ← ih]
        cases lines s with
        | nil => rw [prepend, List.flatMap_singleton, List.flatMap_nil, List.append_nil]
        | cons l ls =>
          rw [prepend, List.flatMap_cons, List.flatMap_cons, ink_append, List.append_assoc]

/-! ### Characters that end lines -/

theorem isLineBreak_of_mem_lines (hl : l ∈ lines s) {c : Char} (hc : c ∈ l) :
    isLineBreak c = false := by
  induction s generalizing l with
  | nil => exact absurd hl (List.not_mem_nil)
  | cons d s ih =>
    by_cases hr : d = '\r' ∧ StartsLine s
    · obtain ⟨rfl, u, rfl⟩ := hr
      rw [lines_return_feed] at hl
      exact ih hl hc
    · cases hd : isLineBreak d with
      | true =>
        rw [lines_break hr hd, List.mem_cons] at hl
        rcases hl with rfl | hl
        · exact absurd hc (List.not_mem_nil)
        · exact ih hl hc
      | false =>
        rw [lines_cons s hd] at hl
        cases hs : lines s with
        | nil =>
          rw [hs, prepend, List.mem_singleton] at hl
          rw [hl, List.mem_singleton] at hc
          rwa [hc]
        | cons k ks =>
          rw [hs, prepend, List.mem_cons] at hl
          rcases hl with rfl | hl
          · rcases List.mem_cons.1 hc with rfl | hc
            · exact hd
            · exact ih (hs ▸ List.mem_cons_self) hc
          · exact ih (hs ▸ List.mem_cons_of_mem k hl) hc

theorem mem_of_mem_trim {c : Char} (hc : c ∈ trim s) : c ∈ s := by
  have hfront := dropEndWhile_prefix isBlank (s.dropWhile isBlank)
  exact (List.dropWhile_suffix isBlank).subset (hfront.subset hc)

/-! ### Trimmed texts -/

/-- No blank stands at an end of the text. -/
structure Trimmed (s : Text) : Prop where
  front : s.dropWhile isBlank = s
  back : dropEndWhile isBlank s = s

theorem Trimmed.trim_eq (h : Trimmed s) : trim s = s := by
  show dropEndWhile isBlank (s.dropWhile isBlank) = s
  rw [h.front, h.back]

theorem Trimmed.isBlank_head {c : Char} (h : Trimmed (c :: s)) : isBlank c = false := by
  by_contra hc
  have hlength := congrArg List.length h.front
  have hle := (List.dropWhile_suffix isBlank (l := s)).length_le
  rw [List.dropWhile_cons_of_pos (by simpa using hc), List.length_cons] at hlength
  omega

theorem Trimmed.ink_eq_nil_iff (h : Trimmed s) : ink s = [] ↔ s = [] := by
  cases s with
  | nil => exact Iff.rfl
  | cons c s =>
    rw [ink_cons_of_ink h.isBlank_head]
    exact iff_of_false (List.cons_ne_nil c _) (List.cons_ne_nil c s)

/-- From the end, the first text is reached where the second one is used up. -/
theorem dropEndWhile_append_eq (p : Char → Bool) (u v : Text) : dropEndWhile p (u ++ v) =
    if dropEndWhile p v = [] then dropEndWhile p u else u ++ dropEndWhile p v := by
  induction u with
  | nil =>
    split_ifs with h
    · exact h
    · rfl
  | cons c u ih =>
    rw [List.cons_append, dropEndWhile_cons, ih]
    by_cases h : dropEndWhile p v = []
    · rw [if_pos h, if_pos h, dropEndWhile_cons]
    · rw [if_neg h, if_neg h, if_neg (by simp [h]), List.cons_append]

theorem dropEndWhile_dropEndWhile (p : Char → Bool) (s : Text) :
    dropEndWhile p (dropEndWhile p s) = dropEndWhile p s := by
  induction s with
  | nil => rfl
  | cons c s ih =>
    rw [dropEndWhile_cons]
    split_ifs with h
    · rfl
    · rw [dropEndWhile_cons, ih, if_neg h]

theorem trimmed_trim (s : Text) : Trimmed (trim s) := by
  refine ⟨?_, dropEndWhile_dropEndWhile isBlank _⟩
  show (dropEndWhile isBlank (s.dropWhile isBlank)).dropWhile isBlank = _
  induction s with
  | nil => rfl
  | cons c s ih =>
    by_cases hc : isBlank c = true
    · rw [List.dropWhile_cons_of_pos hc, ih]
      show _ = dropEndWhile isBlank ((c :: s).dropWhile isBlank)
      rw [List.dropWhile_cons_of_pos hc]
      rfl
    · have hfirst : trim (c :: s) = c :: dropEndWhile isBlank s := by
        show dropEndWhile isBlank ((c :: s).dropWhile isBlank) = _
        rw [List.dropWhile_cons_of_neg hc, dropEndWhile_cons, if_neg (by simp [hc])]
      rw [hfirst]
      show (trim (c :: s)).dropWhile isBlank = _
      rw [hfirst, List.dropWhile_cons_of_neg hc]

theorem Trimmed.dropWhile_append (hu : Trimmed u) (hne : u ≠ []) (v : Text) :
    (u ++ v).dropWhile isBlank = u ++ v := by
  obtain ⟨c, r, rfl⟩ := List.exists_cons_of_ne_nil hne
  exact List.dropWhile_cons_of_neg (by simp [hu.isBlank_head])

theorem Trimmed.dropEndWhile_append (hv : Trimmed v) (hne : v ≠ []) (u : Text) :
    dropEndWhile isBlank (u ++ v) = u ++ v := by
  rw [dropEndWhile_append_eq, hv.back, if_neg hne]

/-! ### Trimmed lines -/

theorem joinWith_cons_of_ne_nil {sep : Text} (hne : ls ≠ []) (l : Text) :
    joinWith sep (l :: ls) = l ++ (sep ++ joinWith sep ls) := by
  cases ls with
  | nil => exact absurd rfl hne
  | cons k ks => rw [joinWith, List.append_assoc]

theorem joinWith_concat_of_ne_nil {sep : Text} (hne : ls ≠ []) (l : Text) :
    joinWith sep (ls ++ [l]) = joinWith sep ls ++ (sep ++ l) := by
  induction ls with
  | nil => exact absurd rfl hne
  | cons k ks ih =>
    cases ks with
    | nil => exact List.append_assoc k sep l
    | cons k' ks =>
      rw [List.cons_append, joinWith_cons_of_ne_nil (by simp), ih (List.cons_ne_nil k' ks),
        joinWith_cons_of_ne_nil (List.cons_ne_nil k' ks)]
      simp only [List.append_assoc]

theorem dropWhile_joinWith (hls : ∀ l ∈ ls, Trimmed l) : (joinWith ['\n'] ls).dropWhile isBlank =
    joinWith ['\n'] (ls.dropWhile List.isEmpty) := by
  induction ls with
  | nil => rfl
  | cons l ls ih =>
    obtain ⟨hl, hls⟩ := List.forall_mem_cons.1 hls
    by_cases hne : l = []
    · have hfeed : isBlank '\n' = true := by decide
      rw [hne, List.dropWhile_cons_of_pos rfl, ← ih hls]
      cases ls with
      | nil => rfl
      | cons k ks => exact List.dropWhile_cons_of_pos hfeed
    · rw [List.dropWhile_cons_of_neg (by simpa using hne)]
      cases ls with
      | nil => simpa [joinWith] using hl.front
      | cons k ks =>
        rw [joinWith_cons_of_ne_nil (List.cons_ne_nil k ks)]
        exact hl.dropWhile_append hne _

theorem dropEndWhile_joinWith (hls : ∀ l ∈ ls, Trimmed l) :
    dropEndWhile isBlank (joinWith ['\n'] ls) = joinWith ['\n'] (ls.rdropWhile List.isEmpty) := by
  induction ls using List.reverseRecOn with
  | nil => rfl
  | append_singleton ls l ih =>
    have hl : Trimmed l := hls l (List.mem_append_right ls List.mem_cons_self)
    have hls : ∀ k ∈ ls, Trimmed k := fun k hk => hls k (List.mem_append_left [l] hk)
    by_cases hne : l = []
    · rw [hne, List.rdropWhile_concat_pos _ _ _ rfl, ← ih hls]
      by_cases hfirst : ls = []
      · rw [hfirst]
        rfl
      · have hfeed : dropEndWhile isBlank ['\n'] = [] := by decide
        rw [joinWith_concat_of_ne_nil hfirst, List.append_nil, dropEndWhile_append_eq, if_pos hfeed]
    · rw [List.rdropWhile_concat_neg _ _ _ (by simpa using hne)]
      by_cases hfirst : ls = []
      · rw [hfirst]
        exact hl.back
      · rw [joinWith_concat_of_ne_nil hfirst, ← List.append_assoc]
        exact hl.dropEndWhile_append hne _

/-- **Only empty lines are trimmed off** where trimmed lines are joined. -/
theorem trim_joinWith (hls : ∀ l ∈ ls, Trimmed l) : trim (joinWith ['\n'] ls) =
    joinWith ['\n'] ((ls.dropWhile List.isEmpty).rdropWhile List.isEmpty) := by
  show dropEndWhile isBlank ((joinWith ['\n'] ls).dropWhile isBlank) = _
  rw [dropWhile_joinWith hls, dropEndWhile_joinWith]
  intro l hl
  exact hls l ((List.dropWhile_suffix List.isEmpty).subset hl)

theorem lines_append_feed (hl : ∀ c ∈ l, isLineBreak c = false) (s : Text) :
    lines (l ++ '\n' :: s) = l :: lines s := by
  induction l with
  | nil => exact lines_break (fun h => absurd h.1 (by decide)) (by decide)
  | cons c l ih =>
    obtain ⟨hc, hl⟩ := List.forall_mem_cons.1 hl
    rw [List.cons_append, lines_cons _ hc, ih hl]
    rfl

theorem lines_eq_singleton (hl : ∀ c ∈ l, isLineBreak c = false) (hne : l ≠ []) :
    lines l = [l] := by
  induction l with
  | nil => exact absurd rfl hne
  | cons c l ih =>
    obtain ⟨hc, hl⟩ := List.forall_mem_cons.1 hl
    rw [lines_cons _ hc]
    by_cases hlast : l = []
    · rw [hlast]
      rfl
    · rw [ih hl hlast]
      rfl

theorem isLineBreak_of_mem_joinWith (hls : ∀ l ∈ ls, ∀ c ∈ l, isLineBreak c = false) :
    ∀ c ∈ joinWith ['\n'] ls, isLineBreak c = true → c = '\n' := by
  induction ls with
  | nil => exact fun c hc => absurd hc List.not_mem_nil
  | cons l ls ih =>
    obtain ⟨hl, hls⟩ := List.forall_mem_cons.1 hls
    intro c hc hbreak
    have hnot : c ∉ l := fun hmem => by simp [hl c hmem] at hbreak
    cases ls with
    | nil => exact absurd hc hnot
    | cons k ks =>
      rw [joinWith_cons_of_ne_nil (List.cons_ne_nil k ks), List.mem_append, List.mem_append,
        List.mem_singleton] at hc
      rcases hc with hc | hc | hc
      · exact absurd hc hnot
      · exact hc
      · exact ih hls c hc hbreak

/-- **Lines are read back** from the text that they were joined to, if the last one is not empty. -/
theorem lines_joinWith (hls : ∀ l ∈ ls, ∀ c ∈ l, isLineBreak c = false)
    (hlast : ∀ h : ls ≠ [], ls.getLast h ≠ []) : lines (joinWith ['\n'] ls) = ls := by
  induction ls with
  | nil => rfl
  | cons l ls ih =>
    obtain ⟨hl, hls⟩ := List.forall_mem_cons.1 hls
    cases ls with
    | nil => exact lines_eq_singleton hl (hlast (List.cons_ne_nil l []))
    | cons k ks =>
      have hks : lines (joinWith ['\n'] (k :: ks)) = k :: ks := by
        apply ih hls
        intro h
        simpa [List.getLast_cons h] using hlast (List.cons_ne_nil l (k :: ks))
      rw [joinWith_cons_of_ne_nil (List.cons_ne_nil k ks), List.singleton_append,
        lines_append_feed hl, hks]

end PromptPress.Text

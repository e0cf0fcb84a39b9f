import PromptPress.Proofs.Text.Layout

/-!
# Words

The words of a text are what stands between its blanks (`words_eq_splitOnP`), so a blank parts the
words before it from those behind it (`words_append_blank`).  All else follows from this equation by
`blank_induction`, which takes a text apart at its first blank.

Words are written with single spaces between them in two ways.  `collapse` joins them, and `squeeze`
puts one space in the place of each run of blanks; trimmed, the second gives the first
(`trim_squeeze`).
-/

namespace PromptPress.Text

/-- Puts one space in the place of each run of blanks; `inRun` says that the text follows a blank. -/
def squeezeFrom : Bool → Text → Text
  | _, [] => []
  | inRun, c :: s =>
    if isBlank c then
      if inRun then squeezeFrom true s else ' ' :: squeezeFrom true s
    else c :: squeezeFrom false s

/-- The text with one space in the place of each run of blanks. -/
def squeeze (s : Text) : Text := squeezeFrom false s

variable {c : Char} {s u v : Text}

/-! ### Words and blanks -/

/-- Reading from the end keeps the words so far, and whether a word has just begun. -/
theorem foldr_wordsStep (s : Text) : s.foldr wordsStep ([], false) =
    ((s.splitOnP isBlank).filter (!·.isEmpty), !((s.splitOnP isBlank).headD []).isEmpty) := by
  induction s with
  | nil => rfl
  | cons c s ih =>
    obtain ⟨w, ws, hs⟩ := List.exists_cons_of_ne_nil (List.splitOnP_ne_nil isBlank s)
    rw [List.foldr_cons, ih, List.splitOnP_cons_eq_if_modifyHead, hs]
    by_cases hc : isBlank c = true
    · simp [wordsStep, hc]
    · cases w with
      | nil => simp [wordsStep, hc]
      | cons d w => simp [wordsStep, hc]

/-- **The words of a text are the pieces between its blanks**, the empty ones left out. -/
theorem words_eq_splitOnP (s : Text) : words s = (s.splitOnP isBlank).filter (!·.isEmpty) := by
  rw [words, foldr_wordsStep]

theorem words_append_blank (hc : isBlank c = true) (u v : Text) :
    words (u ++ c :: v) = words u ++ words v := by
  rw [words_eq_splitOnP, words_eq_splitOnP, words_eq_splitOnP, List.splitOnP_append_cons u v hc,
    List.filter_append]

theorem words_blank_cons (hc : isBlank c = true) (s : Text) : words (c :: s) = words s :=
  words_append_blank hc [] s

theorem Solid.words_eq (hu : Solid u) : words u = [u] := by
  rw [words_eq_splitOnP, List.splitOnP_eq_singleton hu.notBlank]
  exact List.filter_cons_of_pos (by simpa using hu.ne_nil)

theorem words_eq_nil (hs : ∀ c ∈ s, isBlank c = true) : words s = [] := by
  induction s with
  | nil => rfl
  | cons c s ih =>
    obtain ⟨hc, hs⟩ := List.forall_mem_cons.1 hs
    rw [words_blank_cons hc, ih hs]

/-- A text is without blanks, or it goes on behind its first one. -/
@[elab_as_elim]
theorem blank_induction {motive : Text → Prop} (nil : motive [])
    (word : ∀ u, Solid u → motive u) (blank : ∀ c s, isBlank c = true → motive s → motive (c :: s))
    (step : ∀ u c s, Solid u → isBlank c = true → motive s → motive (u ++ c :: s)) (s : Text) :
    motive s := by
  have hword : ∀ s u, (∀ c ∈ u, isBlank c = false) → motive (u ++ s) := by
    intro s
    induction s with
    | nil =>
      intro u hu
      rw [List.append_nil]
      by_cases hne : u = []
      · rw [hne]
        exact nil
      · exact word u ⟨hne, hu⟩
    | cons c s ih =>
      intro u hu
      by_cases hc : isBlank c = true
      · have hs : motive s := ih [] (by simp)
        by_cases hne : u = []
        · rw [hne]
          exact blank c s hc hs
        · exact step u c s ⟨hne, hu⟩ hc hs
      · rw [List.append_cons]
        apply ih
        intro d hd
        rcases List.mem_append.1 hd with hd | hd
        · exact hu d hd
        · simpa [List.mem_singleton.1 hd] using hc
  exact hword s [] (by simp)

theorem Solid.words_append_blank (hu : Solid u) (hc : isBlank c = true) (s : Text) :
    words (u ++ c :: s) = u :: words s := by
  rw [Text.words_append_blank hc, hu.words_eq, List.singleton_append]

theorem solid_of_mem_words {w : Text} (hw : w ∈ words s) : Solid w := by
  induction s using blank_induction with
  | nil => exact absurd hw (by simp [words])
  | word u hu =>
    rw [hu.words_eq, List.mem_singleton] at hw
    rwa [hw]
  | blank c s hc ih =>
    rw [words_blank_cons hc] at hw
    exact ih hw
  | step u c s hu hc ih =>
    rw [hu.words_append_blank hc, List.mem_cons] at hw
    rcases hw with rfl | hw
    · exact hu
    · exact ih hw

/-! ### Trimming -/

theorem words_dropWhile (s : Text) : words (s.dropWhile isBlank) = words s := by
  induction s with
  | nil => rfl
  | cons c s ih =>
    by_cases hc : isBlank c = true
    · rw [List.dropWhile_cons_of_pos hc, words_blank_cons hc, ih]
    · rw [List.dropWhile_cons_of_neg hc]

theorem exists_append_dropEndWhile (p : Char → Bool) (s : Text) :
    ∃ t, s = dropEndWhile p s ++ t ∧ ∀ c ∈ t, p c = true := by
  induction s with
  | nil => exact ⟨[], rfl, by simp⟩
  | cons c s ih =>
    obtain ⟨t, hs, ht⟩ := ih
    rw [dropEndWhile_cons]
    split_ifs with h
    · rw [Bool.and_eq_true, List.isEmpty_iff] at h
      rw [h.1, List.nil_append] at hs
      subst hs
      exact ⟨c :: s, rfl, List.forall_mem_cons.2 ⟨h.2, ht⟩⟩
    · exact ⟨t, by rw [List.cons_append, ← hs], ht⟩

theorem words_dropEndWhile (s : Text) : words (dropEndWhile isBlank s) = words s := by
  obtain ⟨t, hs, ht⟩ := exists_append_dropEndWhile isBlank s
  cases t with
  | nil => rw [← List.append_nil (dropEndWhile isBlank s), ← hs]
  | cons c t =>
    obtain ⟨hc, ht⟩ := List.forall_mem_cons.1 ht
    conv_rhs => rw [hs]
    rw [words_append_blank hc, words_eq_nil ht, List.append_nil]

theorem words_trim (s : Text) : words (trim s) = words s := by
  show words (dropEndWhile isBlank (s.dropWhile isBlank)) = words s
  rw [words_dropEndWhile, words_dropWhile]

/-! ### Words joined by spaces -/

theorem joinWith_eq_nil_iff {ws : List Text} (hws : ∀ w ∈ ws, Solid w) :
    joinWith [' '] ws = [] ↔ ws = [] := by
  cases ws with
  | nil => exact iff_of_true rfl rfl
  | cons w ws =>
    have hw := (hws w List.mem_cons_self).ne_nil
    refine iff_of_false ?_ (List.cons_ne_nil w ws)
    cases ws with
    | nil => exact hw
    | cons w' ws => simp [joinWith, hw]

theorem words_joinWith {ws : List Text} (hws : ∀ w ∈ ws, Solid w) :
    words (joinWith [' '] ws) = ws := by
  induction ws with
  | nil => rfl
  | cons w ws ih =>
    obtain ⟨hw, hws⟩ := List.forall_mem_cons.1 hws
    cases ws with
    | nil => exact hw.words_eq
    | cons w' ws =>
      have hspace : isBlank ' ' = true := by decide
      rw [joinWith, List.append_assoc, List.singleton_append, hw.words_append_blank hspace, ih hws]

theorem words_collapse (s : Text) : words (collapse s) = words s :=
  words_joinWith fun _ hw => solid_of_mem_words hw

theorem collapse_trim (s : Text) : collapse (trim s) = collapse s := by
  rw [collapse, words_trim, collapse]

theorem collapse_collapse (s : Text) : collapse (collapse s) = collapse s := by
  rw [collapse, words_collapse, collapse]

/-! ### Runs of blanks -/

theorem squeezeFrom_blank (hc : isBlank c = true) (s : Text) :
    squeezeFrom true (c :: s) = squeezeFrom true s := by
  rw [squeezeFrom, if_pos hc, if_pos rfl]

theorem Solid.squeezeFrom_append (hu : Solid u) (inRun : Bool) (s : Text) :
    squeezeFrom inRun (u ++ s) = u ++ squeezeFrom false s := by
  have hchars : ∀ u : Text, (∀ c ∈ u, isBlank c = false) →
      squeezeFrom false (u ++ s) = u ++ squeezeFrom false s := by
    intro u hu
    induction u with
    | nil => rfl
    | cons c u ih =>
      obtain ⟨hc, hu⟩ := List.forall_mem_cons.1 hu
      rw [List.cons_append, squeezeFrom, if_neg (by simp [hc]), ih hu, List.cons_append]
  obtain ⟨c, u, rfl⟩ := List.exists_cons_of_ne_nil hu.ne_nil
  obtain ⟨hc, hu⟩ := List.forall_mem_cons.1 hu.notBlank
  rw [List.cons_append, squeezeFrom, if_neg (by simp [hc]), hchars u hu, List.cons_append]

/-- Behind a blank, what is left of a text begins with a word. -/
theorem dropWhile_squeezeFrom (inRun : Bool) (s : Text) :
    (squeezeFrom inRun s).dropWhile isBlank = squeezeFrom true s := by
  induction s using blank_induction generalizing inRun with
  | nil => rfl
  | word u hu =>
    rw [← List.append_nil u, hu.squeezeFrom_append, hu.squeezeFrom_append, hu.dropWhile_append]
  | blank c s hc ih =>
    have hspace : isBlank ' ' = true := by decide
    rw [squeezeFrom_blank hc, squeezeFrom, if_pos hc]
    cases inRun with
    | true => exact ih true
    | false => exact (List.dropWhile_cons_of_pos hspace).trans (ih true)
  | step u c s hu hc ih =>
    rw [hu.squeezeFrom_append, hu.squeezeFrom_append, hu.dropWhile_append]

theorem dropEndWhile_squeezeFrom (s : Text) :
    dropEndWhile isBlank (squeezeFrom true s) = collapse s := by
  have hself : ∀ u, Solid u → dropEndWhile isBlank u = u := by
    intro u hu
    simpa [dropEndWhile] using dropEndWhile_append hu.notBlank []
  induction s using blank_induction with
  | nil => rfl
  | word u hu =>
    have hwhole : squeezeFrom true u = u := by
      simpa [squeezeFrom] using hu.squeezeFrom_append true []
    rw [hwhole, hself u hu, collapse, hu.words_eq, joinWith]
  | blank c s hc ih => rw [squeezeFrom_blank hc, ih, collapse, collapse, words_blank_cons hc]
  | step u c s hu hc ih =>
    have hspace : isBlank ' ' = true := by decide
    have hrest : squeezeFrom false (c :: s) = ' ' :: squeezeFrom true s := by
      rw [squeezeFrom, if_pos hc, if_neg (by simp)]
    rw [hu.squeezeFrom_append, hrest, dropEndWhile_append hu.notBlank, dropEndWhile_cons, ih, hspace,
      Bool.and_true]
    show _ = joinWith [' '] (words (u ++ c :: s))
    rw [hu.words_append_blank hc]
    -- the space stays if a word follows it
    have hnil := joinWith_eq_nil_iff fun _ (hw : _ ∈ words s) => solid_of_mem_words hw
    cases hws : words s with
    | nil => simp [collapse, hws, joinWith]
    | cons w ws =>
      have hne : (collapse s).isEmpty = false := by
        rw [List.isEmpty_eq_false_iff]
        show joinWith [' '] (words s) ≠ []
        rw [ne_eq, hnil, hws]
        exact List.cons_ne_nil w ws
      rw [hne, if_neg (by simp), collapse, hws, joinWith, List.append_assoc, List.singleton_append]

/-- **Collapsing is squeezing and trimming.** -/
theorem trim_squeeze (s : Text) : trim (squeeze s) = collapse s := by
  show dropEndWhile isBlank ((squeezeFrom false s).dropWhile isBlank) = collapse s
  rw [dropWhile_squeezeFrom, dropEndWhile_squeezeFrom]

end PromptPress.Text

import PromptPress.Proofs.PlainText.Restore
import PromptPress.Html.Blocks

/-!
# Slots and the layout of blocks

Trimming a text, splitting it into lines and joining the lines cut and insert only blanks, and
neither a sentinel nor a slot has one.  So if `t` is `s` with the slots put back, the same holds of
the two texts when both are laid out, with the same sentinels in the same order (`Fills.tidy`).

What is said of one text is said of a list of them by `FillsAll`, text by text.
-/

namespace PromptPress.PlainText

theorem IsSentinel.solid {m w : Text} {n : Nat} (hm : IsMark m) (h : IsSentinel m n w) :
    Text.Solid w := by
  refine ⟨h.ne_nil, fun c hc => ?_⟩
  rw [Bool.eq_false_iff]
  intro hblank
  exact h.notMem hm (isSentinelChar_of_isBlank hblank) hc

namespace Shield

variable {sh : Shield} {ws vs : List Text} {s t u v : Text}

theorem Sound.solid_of_getElem? (hsh : Sound sh) {n : Nat} {raw : Text}
    (hr : sh.raws[n]? = some raw) : Text.Solid raw :=
  hsh.solid raw (List.mem_of_getElem? hr)

/-! ### Empty texts and first characters -/

theorem Fills.of_nil (h : Fills sh ws [] t) : ws = [] ∧ t = [] := by
  generalize hs : ([] : Text) = s at h
  cases h with
  | nil => exact ⟨rfl, rfl⟩
  | char => exact absurd hs (List.cons_ne_nil _ _).symm
  | slot hw => exact absurd (List.append_eq_nil_iff.1 hs.symm).1 hw.ne_nil

theorem Fills.eq_nil_iff (hsh : Sound sh) (h : Fills sh ws s t) : s = [] ↔ t = [] := by
  constructor
  · rintro rfl
    exact h.of_nil.2
  · rintro rfl
    generalize ht : ([] : Text) = t at h
    cases h with
    | nil => rfl
    | char => exact absurd ht (List.cons_ne_nil _ _).symm
    | slot _ hr =>
      exact absurd (List.append_eq_nil_iff.1 ht.symm).1 (hsh.solid_of_getElem? hr).ne_nil

/-- The two texts begin with a line feed, or neither does. -/
theorem Fills.startsLine_iff (hsh : Sound sh) (h : Fills sh ws s t) :
    Text.StartsLine s ↔ Text.StartsLine t := by
  have hfeed : ∀ {x r : Text}, Text.Solid x → ¬ Text.StartsLine (x ++ r) := by
    rintro x r hx ⟨y, hy⟩
    obtain ⟨c, z, rfl⟩ := List.exists_cons_of_ne_nil hx.ne_nil
    obtain rfl : c = '\n' := (List.cons.inj hy).1
    exact absurd (hx.notBlank _ List.mem_cons_self) (by decide)
  cases h with
  | nil => exact Iff.rfl
  | char =>
    constructor
    · rintro ⟨y, hy⟩
      exact ⟨_, congrArg (· :: _) (List.cons.inj hy).1⟩
    · rintro ⟨y, hy⟩
      exact ⟨_, congrArg (· :: _) (List.cons.inj hy).1⟩
  | slot hw hr =>
    exact iff_of_false (hfeed (hw.solid hsh.mark)) (hfeed (hsh.solid_of_getElem? hr))

/-! ### Trimming -/

theorem Fills.dropWhile (hsh : Sound sh) (h : Fills sh ws s t) :
    Fills sh ws (s.dropWhile Text.isBlank) (t.dropWhile Text.isBlank) := by
  induction h with
  | nil => exact .nil
  | @char c ws s t hc hf ih =>
    by_cases hb : Text.isBlank c = true
    · rwa [List.dropWhile_cons_of_pos hb, List.dropWhile_cons_of_pos hb]
    · rw [List.dropWhile_cons_of_neg hb, List.dropWhile_cons_of_neg hb]
      exact .char hc hf
  | slot hw hr hf _ =>
    rw [(hw.solid hsh.mark).dropWhile_append, (hsh.solid_of_getElem? hr).dropWhile_append]
    exact .slot hw hr hf

theorem Fills.dropEndWhile (hsh : Sound sh) (h : Fills sh ws s t) :
    Fills sh ws (Text.dropEndWhile Text.isBlank s) (Text.dropEndWhile Text.isBlank t) := by
  induction h with
  | nil => exact .nil
  | @char c ws s t hc hf ih =>
    have hempty : (Text.dropEndWhile Text.isBlank s).isEmpty =
        (Text.dropEndWhile Text.isBlank t).isEmpty := by
      rw [Bool.eq_iff_iff, List.isEmpty_iff, List.isEmpty_iff]
      exact ih.eq_nil_iff hsh
    rw [Text.dropEndWhile_cons, Text.dropEndWhile_cons, ← hempty]
    split_ifs with hdrop
    · -- all that follows is dropped as well, so there is no sentinel in it
      rw [Bool.and_eq_true, List.isEmpty_iff] at hdrop
      rw [hdrop.1] at ih
      rw [ih.of_nil.1]
      exact .nil
    · refine .char (readSentinel?_eq_none_of_longer ?_ hc) ih
      exact List.cons_prefix_cons.2 ⟨rfl, Text.dropEndWhile_prefix _ s⟩
  | slot hw hr _ ih =>
    rw [Text.dropEndWhile_append (hw.solid hsh.mark).notBlank,
      Text.dropEndWhile_append (hsh.solid_of_getElem? hr).notBlank]
    exact .slot hw hr ih

theorem Fills.trim (hsh : Sound sh) (h : Fills sh ws s t) :
    Fills sh ws (Text.trim s) (Text.trim t) :=
  (h.dropWhile hsh).dropEndWhile hsh

/-! ### Joining -/

/-- Blanks between two texts keep them apart. -/
theorem Fills.append_blanks (hsh : Sound sh) {sep : Text} (hne : sep ≠ [])
    (hsep : ∀ c ∈ sep, Text.isBlank c = true) (h : Fills sh ws s t) (h' : Fills sh vs u v) :
    Fills sh (ws ++ vs) (s ++ (sep ++ u)) (t ++ (sep ++ v)) := by
  have hnone : ∀ c ∈ sep, isSentinelChar c = false := fun c hc =>
    isSentinelChar_of_isBlank (hsep c hc)
  have hbehind : Fills sh vs (sep ++ u) (sep ++ v) := by
    clear hne hsep
    induction sep with
    | nil => exact h'
    | cons c sep ih =>
      obtain ⟨hc, hsep⟩ := List.forall_mem_cons.1 hnone
      exact .char (readSentinel?_cons_eq_none hsh.mark hc _) (ih hsep)
  obtain ⟨c, sep, rfl⟩ := List.exists_cons_of_ne_nil hne
  induction h with
  | nil => exact hbehind
  | char hc _ ih =>
    exact .char (readSentinel?_append_eq_none hsh.mark hc (hnone c List.mem_cons_self) _) ih
  | slot hw hr _ ih =>
    rw [List.append_assoc, List.append_assoc]
    exact .slot hw hr ih

/-! ### Lists of texts -/

/-- Texts with slots in the place of the sentinels `ws`, and what they were before. -/
inductive FillsAll (sh : Shield) : List Text → List Text → List Text → Prop
  | nil : FillsAll sh [] [] []
  | cons {ws vs : List Text} {s t : Text} {ss ts : List Text} (h : Fills sh ws s t)
      (hs : FillsAll sh vs ss ts) : FillsAll sh (ws ++ vs) (s :: ss) (t :: ts)

variable {ss ts : List Text}

theorem FillsAll.map {f : Text → Text}
    (hf : ∀ {ws : List Text} {s t : Text}, Fills sh ws s t → Fills sh ws (f s) (f t))
    (h : FillsAll sh ws ss ts) : FillsAll sh ws (ss.map f) (ts.map f) := by
  induction h with
  | nil => exact .nil
  | cons h _ ih => exact .cons (hf h) ih

/-- Leaving out what is empty leaves out no sentinel. -/
theorem FillsAll.filter (hsh : Sound sh) (h : FillsAll sh ws ss ts) :
    FillsAll sh ws (ss.filter (! ·.isEmpty)) (ts.filter (! ·.isEmpty)) := by
  induction h with
  | nil => exact .nil
  | @cons ws vs s t ss ts h _ ih =>
    by_cases hs : s = []
    · subst hs
      obtain ⟨rfl, rfl⟩ := h.of_nil
      exact ih
    · have ht : t ≠ [] := fun ht => hs ((h.eq_nil_iff hsh).2 ht)
      rw [List.filter_cons_of_pos (by simpa using hs), List.filter_cons_of_pos (by simpa using ht)]
      exact .cons h ih

theorem FillsAll.joinWith (hsh : Sound sh) {sep : Text} (hne : sep ≠ [])
    (hsep : ∀ c ∈ sep, Text.isBlank c = true) (h : FillsAll sh ws ss ts) :
    Fills sh ws (Text.joinWith sep ss) (Text.joinWith sep ts) := by
  induction h with
  | nil => exact .nil
  | @cons ws vs s t ss ts h hs ih =>
    cases hs with
    | nil =>
      rw [List.append_nil]
      exact h
    | cons h' hs' =>
      rw [Text.joinWith, Text.joinWith, List.append_assoc, List.append_assoc]
      exact h.append_blanks hsh hne hsep ih

/-! ### Lines -/

/-- A sentinel goes with the line behind it. -/
theorem FillsAll.prepend_slot {n : Nat} {w raw : Text} (hw : IsSentinel sh.mark n w)
    (hr : sh.raws[n]? = some raw) (h : FillsAll sh ws ss ts) :
    FillsAll sh (w :: ws) (Text.prepend w ss) (Text.prepend raw ts) := by
  cases h with
  | nil =>
    have h := FillsAll.cons (Fills.slot hw hr .nil) .nil
    simpa [Text.prepend] using h
  | cons h hs => exact .cons (.slot hw hr h) hs

/-- A character goes with the line behind it, if no sentinel begins at it. -/
theorem FillsAll.prepend_char {c : Char} (hc : readSentinel? sh.mark [c] = none)
    (hhead : ∀ l ls, ss = l :: ls → readSentinel? sh.mark (c :: l) = none)
    (h : FillsAll sh ws ss ts) : FillsAll sh ws (Text.prepend [c] ss) (Text.prepend [c] ts) := by
  cases h with
  | nil => exact .cons (.char hc .nil : Fills sh [] [c] [c]) .nil
  | cons h hs => exact .cons (.char (hhead _ _ rfl) h) hs

/-- **Line by line**, the slots are put back like in the whole text. -/
theorem Fills.lines (hsh : Sound sh) (h : Fills sh ws s t) :
    FillsAll sh ws (Text.lines s) (Text.lines t) := by
  induction h with
  | nil => exact .nil
  | @char c ws s t hc hf ih =>
    by_cases hr : c = '\r' ∧ Text.StartsLine s
    · obtain ⟨rfl, hs⟩ := hr
      obtain ⟨t, rfl⟩ := (hf.startsLine_iff hsh).1 hs
      obtain ⟨s, rfl⟩ := hs
      rwa [Text.lines_return_feed, Text.lines_return_feed]
    -- no other character depends on what follows it
    · have hr' : ¬ (c = '\r' ∧ Text.StartsLine t) := fun h =>
        hr ⟨h.1, (hf.startsLine_iff hsh).2 h.2⟩
      cases hb : Text.isLineBreak c with
      | true =>
        rw [Text.lines_break hr hb, Text.lines_break hr' hb]
        exact .cons (.nil : Fills sh [] [] []) ih
      | false =>
        rw [Text.lines_cons s hb, Text.lines_cons t hb]
        refine ih.prepend_char (readSentinel?_eq_none_of_longer (List.prefix_append [c] s) hc) ?_
        intro l ls hl
        exact readSentinel?_eq_none_of_longer
          (List.cons_prefix_cons.2 ⟨rfl, Text.prefix_of_lines hl⟩) hc
  | slot hw hr _ ih =>
    rw [(hw.solid hsh.mark).lines_append, (hsh.solid_of_getElem? hr).lines_append]
    exact ih.prepend_slot hw hr

/-! ### Blocks -/

theorem Fills.tidy (hsh : Sound sh) (h : Fills sh ws s t) :
    Fills sh ws (Html.tidy s) (Html.tidy t) := by
  have hlines := (h.lines hsh).map fun h => h.trim hsh
  have hfeed : ∀ c ∈ (['\n'] : Text), Text.isBlank c = true := List.all_eq_true.1 (by decide)
  exact (hlines.joinWith hsh (List.cons_ne_nil _ _) hfeed).trim hsh

/-- **Pieces of visible text that are laid out as blocks** have the slots where they had the
sentinels. -/
theorem FillsAll.blocks (hsh : Sound sh) {sep : Text} (hne : sep ≠ [])
    (hsep : ∀ c ∈ sep, Text.isBlank c = true) (h : FillsAll sh ws ss ts) :
    Fills sh ws (Text.joinWith sep ((ss.map Html.tidy).filter (! ·.isEmpty)))
      (Text.joinWith sep ((ts.map Html.tidy).filter (! ·.isEmpty))) := by
  have htidy := h.map fun h => h.tidy hsh
  exact (htidy.filter hsh).joinWith hsh hne hsep

end Shield

end PromptPress.PlainText

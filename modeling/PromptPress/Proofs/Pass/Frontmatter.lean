import PromptPress.Pass.Frontmatter
import PromptPress.Proofs.Markdown.Pattern
import PromptPress.Proofs.Text.Split
import Mathlib.Data.List.TakeWhile

/-!
# The block that a document opens with

A document opens with a block if its first line is a delimiter and some later line is one, too: the
first such line closes the block (`OpensWith`).  The pattern of the block asks for a line feed
behind the first delimiter and for another one in front of the closing one, so it never sees a block
without lines: there the second delimiter is passed over, and the block goes on to the third one, if
there is one (`stripFrontmatter_of_empty`).

* `stripFrontmatter_eq_cutFirst`: what is dropped is the first match of the pattern.
* `removes_first_block_iff`: this is the block, and without one nothing is dropped, if and only if
  the document does not open with a block without lines.
-/

namespace PromptPress.Pass

open Markdown

variable {l s : Text} {ls block after : List Text}

/-! ### Delimiters -/

/-- A line is three dashes with nothing but spaces and tabs behind them. -/
def IsDelimiterLine (l : Text) : Prop := ∃ r, l = "---" ++ r ∧ ∀ c ∈ r, c = ' ' ∨ c = '\t'

theorem isDelimiter_iff : isDelimiter l = true ↔ IsDelimiterLine l := by
  have hgap : ∀ c, Text.isSpaceOrTab c = true ↔ c = ' ' ∨ c = '\t' := by
    simp [Text.isSpaceOrTab]
  unfold isDelimiter IsDelimiterLine
  constructor
  · intro h
    split at h
    · rename_i r hr
      exact ⟨r, Text.dropFront?_eq_some.1 hr, fun c hc => (hgap c).1 (List.all_eq_true.1 h c hc)⟩
    · cases h
  · rintro ⟨r, rfl, hr⟩
    have hfront : Text.dropFront? "---" ("---" ++ r) = some r := Text.dropFront?_eq_some.2 rfl
    rw [hfront]
    exact List.all_eq_true.2 fun c hc => (hgap c).2 (hr c hc)

theorem isDelimiter_eq_false_iff : isDelimiter l = false ↔ ¬ IsDelimiterLine l := by
  rw [← isDelimiter_iff, Bool.not_eq_true]

/-- What is left behind three dashes, spaces and tabs, and what `e` asks for. -/
def delimited? (e : Text → Option Text) (s : Text) : Option Text :=
  (Text.dropFront? "---" s).bind fun r => e (r.dropWhile Text.isSpaceOrTab)

/-- What is left behind a line feed, and what `f` asks for. -/
def feedThen? (f : Text → Option Text) (s : Text) : Option Text :=
  (Text.dropFront? ['\n'] s).bind f

/-- What is left behind the end of a line: a line feed, or the end of the text. -/
def lineEnd? : Text → Option Text
  | [] => some []
  | c :: s => if c = '\n' then some s else none

/-- Is this empty, or does it begin with a line feed? -/
def EndsLine (t : Text) : Prop := ∀ c u, t = c :: u → c = '\n'

theorem endsLine_nil : EndsLine [] := fun _ _ h => absurd h (List.cons_ne_nil _ _).symm

theorem endsLine_feed (s : Text) : EndsLine ('\n' :: s) := fun _ _ h => (List.cons.inj h).1.symm

theorem dropFront?_append_of_endsLine {p t : Text} (hp : '\n' ∉ p) (ht : EndsLine t) (l : Text) :
    Text.dropFront? p (l ++ t) = (Text.dropFront? p l).map (· ++ t) := by
  induction p generalizing l with
  | nil => rfl
  | cons a p ih =>
    obtain ⟨ha, hp⟩ := List.ne_and_not_mem_of_not_mem_cons hp
    cases l with
    | nil =>
      cases t with
      | nil => rfl
      | cons c u =>
        have hc : a ≠ c := fun h => ha (h.trans (ht c u rfl)).symm
        simp [Text.dropFront?, hc]
    | cons c l =>
      rw [List.cons_append, Text.dropFront?, Text.dropFront?]
      by_cases hc : a = c
      · rw [if_pos hc, if_pos hc, ih hp]
      · rw [if_neg hc, if_neg hc]
        rfl

theorem dropWhile_append_of_endsLine {e : Text → Option Text}
    (he : ∀ c u, c ≠ '\n' → e (c :: u) = none) {r t : Text} (hr : '\n' ∉ r) (ht : EndsLine t) :
    e ((r ++ t).dropWhile Text.isSpaceOrTab) =
      if r.all Text.isSpaceOrTab then e t else none := by
  induction r with
  | nil =>
    cases t with
    | nil => rfl
    | cons c u =>
      obtain rfl := ht c u rfl
      rfl
  | cons c r ih =>
    obtain ⟨hc, hr⟩ := List.ne_and_not_mem_of_not_mem_cons hr
    rw [List.cons_append, List.all_cons]
    by_cases hg : Text.isSpaceOrTab c = true
    · rw [List.dropWhile_cons_of_pos hg, hg, Bool.true_and]
      exact ih hr
    · rw [List.dropWhile_cons_of_neg hg, he c _ (Ne.symm hc), Bool.eq_false_iff.2 hg,
        Bool.false_and]
      rfl

/-- **A delimiter ends with its line.** -/
theorem delimited?_append {e : Text → Option Text} (he : ∀ c u, c ≠ '\n' → e (c :: u) = none)
    (hl : '\n' ∉ l) {t : Text} (ht : EndsLine t) :
    delimited? e (l ++ t) = if isDelimiter l then e t else none := by
  rw [delimited?, dropFront?_append_of_endsLine (by decide) ht, isDelimiter]
  cases h : Text.dropFront? "---" l with
  | none => rfl
  | some r =>
    have hr : '\n' ∉ r := by
      intro hn
      rw [Text.dropFront?_eq_some.1 h] at hl
      exact hl (List.mem_append_right _ hn)
    exact dropWhile_append_of_endsLine he hr ht

theorem feedThen?_eq_none {f : Text → Option Text} {c : Char} (hc : c ≠ '\n') (u : Text) :
    feedThen? f (c :: u) = none := by
  simp [feedThen?, Text.dropFront?, Ne.symm hc]

theorem lineEnd?_eq_none {c : Char} (hc : c ≠ '\n') (u : Text) : lineEnd? (c :: u) = none :=
  if_neg hc

/-! ### The pattern of the block -/

/-- What is left behind the block, by the pattern. -/
def behindBlock? : Text → Option Text :=
  delimited? (feedThen? (Pattern.earliest (feedThen? (delimited? lineEnd?))))

/-- The pattern of the block behind the test for the start of the text. -/
def blockPattern : Pattern :=
  .chain [.word "---", .star Pattern.gap, .char '\n', .fewStar Pattern.anything, .char '\n',
    .word "---", .star Pattern.gap, .choice [.char '\n', .draftEnd]]

/-- The pattern of the block that a document opens with. -/
def frontmatterPattern : Pattern := .seq (.here Cursor.atStart) blockPattern

theorem describes_delimiter {e : Text → Option Text} {k : Pattern.Continuation}
    (h : Pattern.Describes e k) (he : ∀ c u, c ≠ '\n' → e (c :: u) = none) :
    Pattern.Describes (delimited? e)
      ((Pattern.word "---").go ((Pattern.star Pattern.gap).go k)) := by
  refine (h.star fun c u hc => he c u ?_).word "---"
  rintro rfl
  exact absurd hc (by decide)

theorem describes_lineEnd :
    Pattern.Describes lineEnd? ((Pattern.choice [.char '\n', .draftEnd]).go some) := by
  have h := (Pattern.describes_some.char '\n').alt Pattern.describes_some.draftEnd
  intro d s
  refine (h d s).trans (congrArg _ ?_)
  cases s with
  | nil => rfl
  | cons c s =>
    by_cases hc : c = '\n'
    · simp [lineEnd?, Text.dropFront?, hc]
    · simp [lineEnd?, Text.dropFront?, hc, Ne.symm hc]

theorem describes_block : Pattern.Describes behindBlock? (blockPattern.go some) := by
  have hclose := describes_delimiter describes_lineEnd fun c u hc => lineEnd?_eq_none hc u
  exact describes_delimiter ((hclose.char '\n').fewStar.char '\n') fun c u hc =>
    feedThen?_eq_none hc u

/-! ### The pattern and the lines -/

theorem endsLine_joinWith_tail (l : Text) (ls : List Text) :
    ∃ t, EndsLine t ∧ Text.joinWith ['\n'] (l :: ls) = l ++ t ∧
      lineEnd? t = some (Text.joinWith ['\n'] ls) ∧
      (ls ≠ [] → t = '\n' :: Text.joinWith ['\n'] ls) := by
  cases ls with
  | nil => exact ⟨[], endsLine_nil, (List.append_nil l).symm, rfl, fun h => absurd rfl h⟩
  | cons k ks =>
    refine ⟨'\n' :: Text.joinWith ['\n'] (k :: ks), endsLine_feed _, ?_, rfl, fun _ => rfl⟩
    rw [Text.joinWith, List.append_assoc]
    rfl

/-- Inside a line no line feed is found. -/
theorem earliest_append {f : Text → Option Text} (hf : ∀ c u, c ≠ '\n' → f (c :: u) = none)
    (hl : '\n' ∉ l) (t : Text) : Pattern.earliest f (l ++ t) = Pattern.earliest f t := by
  induction l with
  | nil => rfl
  | cons c l ih =>
    obtain ⟨hc, hl⟩ := List.ne_and_not_mem_of_not_mem_cons hl
    rw [List.cons_append, Pattern.earliest, hf c _ (Ne.symm hc), Option.none_or, ih hl]

/-- Behind a line, the first delimiter closes. -/
theorem earliest_joinWith (hls : ∀ k ∈ l :: ls, '\n' ∉ k) :
    Pattern.earliest (feedThen? (delimited? lineEnd?)) (Text.joinWith ['\n'] (l :: ls)) =
      match ls.dropWhile (! isDelimiter ·) with
      | [] => none
      | _ :: after => some (Text.joinWith ['\n'] after) := by
  have hfeed : ∀ c u, c ≠ '\n' → feedThen? (delimited? lineEnd?) (c :: u) = none :=
    fun c u hc => feedThen?_eq_none hc u
  -- along the lines: `l` is the one that the search stands in, and a line feed is found behind it
  induction ls generalizing l with
  | nil =>
    have hl := earliest_append hfeed (hls l List.mem_cons_self) []
    rw [List.append_nil] at hl
    exact hl
  | cons k ks ih =>
    obtain ⟨hl, hks⟩ := List.forall_mem_cons.1 hls
    obtain ⟨t, ht, hjoin, hend, -⟩ := endsLine_joinWith_tail k ks
    have hclose : delimited? lineEnd? (Text.joinWith ['\n'] (k :: ks)) =
        if isDelimiter k then some (Text.joinWith ['\n'] ks) else none := by
      rw [hjoin, delimited?_append (fun c u hc => lineEnd?_eq_none hc u)
        (hks k List.mem_cons_self) ht, hend]
    have hhere : feedThen? (delimited? lineEnd?) ('\n' :: Text.joinWith ['\n'] (k :: ks)) =
        delimited? lineEnd? (Text.joinWith ['\n'] (k :: ks)) := rfl
    rw [Text.joinWith, List.append_assoc, earliest_append hfeed hl, List.singleton_append,
      Pattern.earliest, hhere, hclose]
    cases hk : isDelimiter k with
    | true => simp [hk]
    | false => simpa [hk] using ih hks

/-- **The pattern finds the block by its lines.** -/
theorem behindBlock?_eq (s : Text) : behindBlock? s =
    (afterFrontmatter? (Text.splitAtChar '\n' s)).map (Text.joinWith ['\n']) := by
  obtain ⟨l, ls, hls⟩ := Text.exists_splitAtChar_eq_cons '\n' s
  have hfree : ∀ k ∈ l :: ls, '\n' ∉ k := fun k hk => Text.notMem_of_mem_splitAtChar (hls ▸ hk)
  have hs := Text.joinWith_splitAtChar '\n' s
  rw [hls] at hs ⊢
  obtain ⟨t, ht, hjoin, -, hfeed⟩ := endsLine_joinWith_tail l ls
  rw [← hs, hjoin, behindBlock?, delimited?_append (fun c u hc => feedThen?_eq_none hc u)
    (hfree l List.mem_cons_self) ht]
  cases ls with
  | nil =>
    obtain rfl : t = [] := by simpa [Text.joinWith] using hjoin
    rw [afterFrontmatter?]
    · exact ite_self _
    · simp
  | cons k ks =>
    rw [afterFrontmatter?, hfeed (List.cons_ne_nil k ks)]
    cases isDelimiter l with
    | false => rfl
    | true =>
      refine (earliest_joinWith fun m hm => hfree m (List.mem_cons_of_mem l hm)).trans ?_
      rw [if_pos rfl]
      cases ks.dropWhile (! isDelimiter ·) <;> rfl

/-- **What is dropped is the first match of the pattern.** -/
theorem stripFrontmatter_eq_cutFirst (s : Text) :
    stripFrontmatter s = frontmatterPattern.cutFirst s := by
  rw [frontmatterPattern, describes_block.cutFirst, behindBlock?_eq, stripFrontmatter]
  cases afterFrontmatter? (Text.splitAtChar '\n' s) <;> rfl

/-! ### The block and its lines -/

/-- The first delimiter among the lines has the lines `block` in front of it and the lines `after`
behind it. -/
def ClosesAt (ls block after : List Text) : Prop :=
  ∃ close, ls = block ++ close :: after ∧ IsDelimiterLine close ∧ ∀ l ∈ block, ¬ IsDelimiterLine l

/-- The first line of the document is a delimiter, and the lines `block` stand between it and the
next one, which has the lines `after` behind it. -/
def OpensWith (s : Text) (block after : List Text) : Prop :=
  ∃ first later, Text.splitAtChar '\n' s = first :: later ∧ IsDelimiterLine first ∧
    ClosesAt later block after

/-- The text `r` is the document without the block that it opens with: what stands behind the block,
or the whole document where there is none. -/
def IsWithoutBlock (s r : Text) : Prop :=
  (∃ block after, OpensWith s block after ∧ r = Text.joinWith ['\n'] after) ∨
    (¬ ∃ block after, OpensWith s block after) ∧ r = s

theorem ClosesAt.dropWhile_eq (h : ClosesAt ls block after) :
    ∃ close, ls.dropWhile (! isDelimiter ·) = close :: after := by
  obtain ⟨close, rfl, hclose, hblock⟩ := h
  have hpass : ∀ l ∈ block, (! isDelimiter l) = true := by
    intro l hl
    rw [isDelimiter_eq_false_iff.2 (hblock l hl)]
    rfl
  have hstop : ¬ (! isDelimiter close) = true := by
    rw [isDelimiter_iff.2 hclose]
    decide
  refine ⟨close, ?_⟩
  rw [List.dropWhile_append_of_pos hpass]
  exact List.dropWhile_cons_of_neg (p := fun l => ! isDelimiter l) hstop

theorem closesAt_of_dropWhile_eq {close : Text}
    (h : ls.dropWhile (! isDelimiter ·) = close :: after) :
    ClosesAt ls (ls.takeWhile (! isDelimiter ·)) after := by
  have hhead := List.head?_dropWhile_not (! isDelimiter ·) ls
  rw [h] at hhead
  refine ⟨close, by rw [← h, List.takeWhile_append_dropWhile], ?_, fun l hl => ?_⟩
  · exact isDelimiter_iff.1 (by simpa using hhead)
  · exact isDelimiter_eq_false_iff.1 (by simpa using List.mem_takeWhile_imp hl)

/-- What stands behind the first delimiter is determined. -/
theorem ClosesAt.after_eq {block' after' : List Text} (h : ClosesAt ls block after)
    (h' : ClosesAt ls block' after') : after = after' := by
  obtain ⟨close, hclose⟩ := h.dropWhile_eq
  obtain ⟨close', hclose'⟩ := h'.dropWhile_eq
  exact (List.cons.inj (hclose.symm.trans hclose')).2

/-! ### What is dropped -/

/-- The second line is passed over, and the first delimiter behind it closes. -/
theorem stripFrontmatter_of_closesAt {first second : Text}
    (hs : Text.splitAtChar '\n' s = first :: second :: ls) (hfirst : IsDelimiterLine first)
    (h : ClosesAt ls block after) : stripFrontmatter s = Text.joinWith ['\n'] after := by
  obtain ⟨close, hclose⟩ := h.dropWhile_eq
  simp only [stripFrontmatter, hs, afterFrontmatter?, isDelimiter_iff.2 hfirst, if_true, hclose]

theorem stripFrontmatter_eq_self (h : ∀ first second ls block after,
    Text.splitAtChar '\n' s = first :: second :: ls → IsDelimiterLine first →
      ¬ ClosesAt ls block after) : stripFrontmatter s = s := by
  have hnone : afterFrontmatter? (Text.splitAtChar '\n' s) = none := by
    unfold afterFrontmatter?
    split
    · rename_i first second ls hs
      split
      · rename_i hfirst
        cases hdrop : ls.dropWhile (! isDelimiter ·) with
        | nil => rfl
        | cons close after =>
          exact absurd (closesAt_of_dropWhile_eq hdrop)
            (h first second ls _ after hs (isDelimiter_iff.1 hfirst))
      · rfl
    · rfl
  rw [stripFrontmatter, hnone]

/-- **A block with lines is dropped**, and nothing else. -/
theorem stripFrontmatter_of_opensWith (h : OpensWith s block after) (hne : block ≠ []) :
    stripFrontmatter s = Text.joinWith ['\n'] after := by
  obtain ⟨first, later, hs, hfirst, close, rfl, hclose, hblock⟩ := h
  obtain ⟨second, block, rfl⟩ := List.exists_cons_of_ne_nil hne
  exact stripFrontmatter_of_closesAt hs hfirst
    ⟨close, rfl, hclose, fun l hl => hblock l (List.mem_cons_of_mem second hl)⟩

/-- **Without a block nothing is dropped.** -/
theorem stripFrontmatter_of_not_opensWith (h : ¬ ∃ block after, OpensWith s block after) :
    stripFrontmatter s = s := by
  refine stripFrontmatter_eq_self fun first second ls block after hs hfirst hcloses => h ?_
  by_cases hsecond : IsDelimiterLine second
  · exact ⟨[], ls, first, _, hs, hfirst, second, rfl, hsecond, fun _ hl => absurd hl (by simp)⟩
  · obtain ⟨close, rfl, hclose, hblock⟩ := hcloses
    exact ⟨second :: block, after, first, _, hs, hfirst, close, rfl, hclose,
      List.forall_mem_cons.2 ⟨hsecond, hblock⟩⟩

/-- **A block without lines is taken to go on** to the next delimiter, and is no block if there is
none. -/
theorem stripFrontmatter_of_empty (h : OpensWith s [] after) :
    (∀ block rest, ClosesAt after block rest → stripFrontmatter s = Text.joinWith ['\n'] rest) ∧
      ((¬ ∃ block rest, ClosesAt after block rest) → stripFrontmatter s = s) := by
  obtain ⟨first, later, hs, hfirst, close, rfl, hclose, -⟩ := h
  constructor
  · intro block rest hcloses
    exact stripFrontmatter_of_closesAt hs hfirst hcloses
  · intro hnone
    refine stripFrontmatter_eq_self fun first' second ls block rest hs' _ hcloses => hnone ?_
    rw [hs] at hs'
    obtain ⟨-, -, rfl⟩ : first = first' ∧ close = second ∧ after = ls := by simpa using hs'
    exact ⟨block, rest, hcloses⟩

/-! ### When too little or too much is dropped -/

theorem length_joinWith_lt (ls : List Text) {close : Text} (hc : close ≠ []) (after : List Text) :
    (Text.joinWith ['\n'] after).length <
      (Text.joinWith ['\n'] (ls ++ close :: after)).length := by
  have hpos := List.length_pos_iff.2 hc
  have hcons : ∀ (l : Text) (ks : List Text), l.length + (Text.joinWith ['\n'] ks).length ≤
      (Text.joinWith ['\n'] (l :: ks)).length := by
    intro l ks
    cases ks with
    | nil => exact Nat.le_refl _
    | cons k ks =>
      rw [Text.joinWith, List.length_append, List.length_append]
      omega
  induction ls with
  | nil =>
    have := hcons close after
    rw [List.nil_append]
    omega
  | cons l ls ih =>
    have := hcons l (ls ++ close :: after)
    rw [List.cons_append]
    omega

theorem IsDelimiterLine.ne_nil (h : IsDelimiterLine l) : l ≠ [] := by
  obtain ⟨r, rfl, -⟩ := h
  exact List.cons_ne_nil '-' _

/-- Where the block has no lines, what is left is not the document without it. -/
theorem OpensWith.stripFrontmatter_ne (h : OpensWith s [] after) :
    stripFrontmatter s ≠ Text.joinWith ['\n'] after := by
  intro he
  obtain ⟨hcloses, hnone⟩ := stripFrontmatter_of_empty h
  -- with a later delimiter less is left, and without one more
  by_cases hafter : ∃ block rest, ClosesAt after block rest
  · obtain ⟨block, rest, hrest⟩ := hafter
    rw [hcloses block rest hrest] at he
    obtain ⟨close, rfl, hclose, -⟩ := hrest
    have := length_joinWith_lt block hclose.ne_nil rest
    rw [he] at this
    exact absurd this (Nat.lt_irrefl _)
  · rw [hnone hafter] at he
    obtain ⟨first, later, hs, hfirst, close, rfl, hclose, -⟩ := h
    have := length_joinWith_lt [first] hclose.ne_nil after
    have hwhole := Text.joinWith_splitAtChar '\n' s
    rw [hs] at hwhole
    rw [← he, ← hwhole] at this
    exact absurd this (Nat.lt_irrefl _)

/-- **The first block is dropped and nothing else, unless it has no lines.**  What is dropped is the
first match of the pattern.  It is the block that the document opens with, and nothing where there is
none, if and only if the document does not open with two delimiters in a row; then the second one is
passed over, and everything up to the third one is dropped, or nothing if there is no third one. -/
theorem removes_first_block_iff (s : Text) :
    stripFrontmatter s = frontmatterPattern.cutFirst s ∧
    (IsWithoutBlock s (stripFrontmatter s) ↔ ¬ ∃ after, OpensWith s [] after) ∧
    ∀ after, OpensWith s [] after →
      (∀ block rest, ClosesAt after block rest →
        stripFrontmatter s = Text.joinWith ['\n'] rest) ∧
      ((¬ ∃ block rest, ClosesAt after block rest) → stripFrontmatter s = s) := by
  refine ⟨stripFrontmatter_eq_cutFirst s, ⟨?_, ?_⟩, fun after => stripFrontmatter_of_empty⟩
  · rintro (⟨block, after', h, he⟩ | ⟨hnone, -⟩) ⟨after, hempty⟩
    · -- the document opens with one block only, so it would be the one without lines
      have hne := hempty.stripFrontmatter_ne
      obtain ⟨first, later, hs, -, hcloses⟩ := h
      obtain ⟨first', later', hs', -, hcloses'⟩ := hempty
      rw [hs] at hs'
      obtain ⟨rfl, rfl⟩ := List.cons.inj hs'
      rw [hcloses.after_eq hcloses'] at he
      exact hne he
    · exact hnone ⟨[], after, hempty⟩
  · intro hempty
    by_cases h : ∃ block after, OpensWith s block after
    · obtain ⟨block, after, h⟩ := h
      refine .inl ⟨block, after, h, stripFrontmatter_of_opensWith h ?_⟩
      rintro rfl
      exact hempty ⟨after, h⟩
    · exact .inr ⟨h, stripFrontmatter_of_not_opensWith h⟩

theorem removes_first_block_iff_of_empty_block :
    OpensWith "---\n---\nx\n---\ny" [] ["x", "---", "y"] ∧
      stripFrontmatter "---\n---\nx\n---\ny" = "y" ∧
      ¬ IsWithoutBlock "---\n---\nx\n---\ny" (stripFrontmatter "---\n---\nx\n---\ny") := by
  obtain ⟨-, hiff, hempty⟩ := removes_first_block_iff "---\n---\nx\n---\ny"
  have hline : IsDelimiterLine "---" := isDelimiter_iff.1 (by decide)
  have hopens : OpensWith "---\n---\nx\n---\ny" [] ["x", "---", "y"] :=
    ⟨"---", ["---", "x", "---", "y"], by decide, hline, "---", rfl, hline, by simp⟩
  have hcloses : ClosesAt ["x", "---", "y"] ["x"] ["y"] := by
    refine ⟨"---", rfl, hline, fun l hl => ?_⟩
    obtain rfl := List.mem_singleton.1 hl
    exact isDelimiter_eq_false_iff.1 (by decide)
  refine ⟨hopens, ?_, fun h => hiff.1 h ⟨_, hopens⟩⟩
  exact (hempty _ hopens).1 _ _ hcloses

end PromptPress.Pass

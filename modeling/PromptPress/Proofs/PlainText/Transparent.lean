import PromptPress.Proofs.PlainText.Layout
import PromptPress.Proofs.PlainText.Fresh
import PromptPress.Proofs.Html.Blocks
import PromptPress.Proofs.Workspace.Run
import PromptPress.PlainText.Strip

/-!
# Shielding and the blocks of a page

`Shield.fill` puts a slot in the place of each sentinel of a text that stands by itself.  Laying out
a page as blocks and putting the slots back gives what one gets by filling the texts of the page
first and laying it out then, whatever the page is (`restore_blocks`).

All that is needed is that no mark is torn apart or put together where two texts of the page meet:
each mark in the visible text begins a sentinel that stands whole in one of them (`Undivided`).
-/

namespace PromptPress.PlainText

namespace Shield

variable {sh : Shield}

/-! ### Filling a text -/

/-- The number of the sentinel at the front of a text, if a slot has it. -/
def sentinelAt? (sh : Shield) (s : Text) : Option Nat :=
  (List.range sh.raws.length).find? fun n => (sentinel sh.mark n).isPrefixOf s

/-- Reads sentinels and characters; `skip` characters belong to the sentinel read last. -/
def partsFrom (sh : Shield) : Nat → Text → List (Atom Nat)
  | _, [] => []
  | skip + 1, _ :: s => partsFrom sh skip s
  | 0, c :: s =>
    match sh.sentinelAt? (c :: s) with
    | some n => .item n :: partsFrom sh ((sentinel sh.mark n).length - 1) s
    | none => .char c :: partsFrom sh 0 s

/-- The sentinels of a text, by their numbers, and the characters between them. -/
def parts (sh : Shield) (s : Text) : List (Atom Nat) := partsFrom sh 0 s

/-- The text with a slot in the place of each sentinel. -/
def fill (sh : Shield) (s : Text) : Text :=
  (sh.parts s).flatMap (Atom.spell fun n => sh.raws.getD n [])

/-- The numbers of the sentinels in a text, from left to right. -/
def numbers (sh : Shield) (s : Text) : List Nat := (sh.parts s).filterMap Atom.item?

theorem sentinelAt?_eq_none_iff {s : Text} :
    sh.sentinelAt? s = none ↔ ∀ n < sh.raws.length, ¬ sentinel sh.mark n <+: s := by
  rw [sentinelAt?, List.find?_eq_none]
  simp only [List.mem_range, List.isPrefixOf_iff_prefix]

theorem of_sentinelAt? {s : Text} {n : Nat} (h : sh.sentinelAt? s = some n) :
    n < sh.raws.length ∧ sentinel sh.mark n <+: s := by
  unfold sentinelAt? at h
  have hp := List.find?_some h
  exact ⟨List.mem_range.1 (List.mem_of_find?_eq_some h), List.isPrefixOf_iff_prefix.1 hp⟩

theorem sentinelAt?_append {n : Nat} (hn : n < sh.raws.length) (r : Text) :
    sh.sentinelAt? (sentinel sh.mark n ++ r) = some n := by
  have hp : sentinel sh.mark n <+: sentinel sh.mark n ++ r := List.prefix_append _ _
  cases h : sh.sentinelAt? (sentinel sh.mark n ++ r) with
  | none => exact absurd hp (sentinelAt?_eq_none_iff.1 h n hn)
  | some k =>
    obtain ⟨-, hk⟩ := of_sentinelAt? h
    obtain ⟨rfl, -⟩ := (isSentinel_sentinel sh.mark n).unique (isSentinel_sentinel sh.mark k) hp hk
    rfl

theorem partsFrom_eq_drop (n : Nat) (s : Text) : partsFrom sh n s = partsFrom sh 0 (s.drop n) := by
  induction n generalizing s with
  | zero => rfl
  | succ n ih =>
    cases s with
    | nil => simp [partsFrom]
    | cons c s => rw [partsFrom, List.drop_succ_cons, ih]

theorem parts_append {n : Nat} (hn : n < sh.raws.length) (r : Text) :
    sh.parts (sentinel sh.mark n ++ r) = .item n :: sh.parts r := by
  obtain ⟨c, u, hu⟩ := List.exists_cons_of_ne_nil (isSentinel_sentinel sh.mark n).ne_nil
  have hat := sentinelAt?_append hn r
  rw [hu, List.cons_append] at hat ⊢
  rw [parts, partsFrom, hat]
  dsimp only
  rw [partsFrom_eq_drop, hu, List.length_cons, Nat.add_sub_cancel, List.drop_left, parts]

theorem parts_cons {c : Char} {s : Text} (h : sh.sentinelAt? (c :: s) = none) :
    sh.parts (c :: s) = .char c :: sh.parts s := by
  rw [parts, partsFrom, h, parts]

/-- The induction that follows the reading of sentinels. -/
@[elab_as_elim]
theorem parts_induction (sh : Shield) {motive : Text → Prop} (nil : motive [])
    (slot : ∀ (n : Nat) (r : Text), n < sh.raws.length → motive r →
      motive (sentinel sh.mark n ++ r))
    (char : ∀ (c : Char) (s : Text), sh.sentinelAt? (c :: s) = none → motive s → motive (c :: s))
    (s : Text) : motive s := by
  have hne : ∀ w, (∃ n < sh.raws.length, sentinel sh.mark n = w) → w ≠ [] := by
    rintro w ⟨n, -, rfl⟩
    exact (isSentinel_sentinel sh.mark n).ne_nil
  refine Text.pieces_induction hne nil ?_ ?_ s
  · rintro w r ⟨n, hn, rfl⟩ ih
    exact slot n r hn ih
  · intro c s hnone ih
    exact char c s (sentinelAt?_eq_none_iff.2 fun n hn => hnone _ ⟨n, hn, rfl⟩) ih

theorem fill_append {n : Nat} (hn : n < sh.raws.length) (r : Text) :
    sh.fill (sentinel sh.mark n ++ r) = sh.raws[n] ++ sh.fill r := by
  have hraw : sh.raws.getD n [] = sh.raws[n] := by
    rw [List.getD_eq_getElem?_getD, List.getElem?_eq_getElem hn, Option.getD_some]
  rw [fill, parts_append hn, List.flatMap_cons, Atom.spell, hraw, fill]

theorem fill_cons {c : Char} {s : Text} (h : sh.sentinelAt? (c :: s) = none) :
    sh.fill (c :: s) = c :: sh.fill s := by
  rw [fill, parts_cons h]
  rfl

theorem numbers_append {n : Nat} (hn : n < sh.raws.length) (r : Text) :
    sh.numbers (sentinel sh.mark n ++ r) = n :: sh.numbers r := by
  rw [numbers, parts_append hn]
  rfl

theorem numbers_cons {c : Char} {s : Text} (h : sh.sentinelAt? (c :: s) = none) :
    sh.numbers (c :: s) = sh.numbers s := by
  rw [numbers, parts_cons h]
  rfl

/-! ### Texts laid end to end -/

/-- Each mark in the texts laid end to end begins a sentinel of a slot, and the sentinel stands whole
in one of the texts. -/
def Undivided (sh : Shield) (ts : List Text) : Prop :=
  ∀ k < ts.flatten.length, sh.mark <+: ts.flatten.drop k →
    ∃ j < ts.length, ∃ n < sh.raws.length, (ts.take j).flatten.length ≤ k ∧
      sentinel sh.mark n <+: (ts.getD j []).drop (k - (ts.take j).flatten.length)

instance (sh : Shield) (ts : List Text) : Decidable (sh.Undivided ts) := by
  unfold Undivided
  infer_instance

/-- A text with its front cut off stays as it was behind that. -/
theorem Undivided.drop_front {w r : Text} {ts : List Text} (h : sh.Undivided ((w ++ r) :: ts)) :
    sh.Undivided (r :: ts) := by
  intro k hk hp
  have hflat : ((w ++ r) :: ts).flatten = w ++ (r :: ts).flatten := by simp
  have hdrop : ((w ++ r) :: ts).flatten.drop (w.length + k) = (r :: ts).flatten.drop k := by
    rw [hflat, List.drop_append, List.drop_eq_nil_of_le (Nat.le_add_right _ _), List.nil_append,
      Nat.add_sub_cancel_left]
  have hlt : w.length + k < ((w ++ r) :: ts).flatten.length := by
    rw [hflat, List.length_append]
    omega
  obtain ⟨j, hj, n, hn, hle, hs⟩ := h (w.length + k) hlt (hdrop ▸ hp)
  refine ⟨j, hj, n, hn, ?_⟩
  cases j with
  | zero =>
    refine ⟨Nat.zero_le k, ?_⟩
    have hcut : (w ++ r).drop (w.length + k - 0) = r.drop (k - 0) := by
      rw [Nat.sub_zero, Nat.sub_zero, List.drop_append,
        List.drop_eq_nil_of_le (Nat.le_add_right _ _), List.nil_append, Nat.add_sub_cancel_left]
    exact hcut ▸ hs
  | succ j =>
    have hlen : (((w ++ r) :: ts).take (j + 1)).flatten.length =
        w.length + ((r :: ts).take (j + 1)).flatten.length := by
      simp
    rw [hlen] at hle hs
    refine ⟨by omega, ?_⟩
    rwa [show w.length + k - (w.length + ((r :: ts).take (j + 1)).flatten.length) =
      k - ((r :: ts).take (j + 1)).flatten.length by omega] at hs

theorem Undivided.tail {ts : List Text} (h : sh.Undivided ([] :: ts)) : sh.Undivided ts := by
  intro k hk hp
  obtain ⟨j, hj, n, hn, hle, hs⟩ := h k hk hp
  cases j with
  | zero =>
    have hnil : ([] : Text).drop (k - 0) = [] := List.drop_nil
    have hs' : sentinel sh.mark n <+: [] := hnil ▸ hs
    exact absurd (List.prefix_nil.1 hs') (isSentinel_sentinel sh.mark n).ne_nil
  | succ j => exact ⟨j, Nat.lt_of_succ_lt_succ hj, n, hn, hle, hs⟩

/-- Where no sentinel stands in the first text, no mark stands at all. -/
theorem Undivided.not_mark_prefix {c : Char} {s : Text} {ts : List Text}
    (h : sh.Undivided ((c :: s) :: ts)) (hat : sh.sentinelAt? (c :: s) = none) :
    ¬ sh.mark <+: c :: (s ++ ts.flatten) := by
  intro hp
  obtain ⟨j, hj, n, hn, hle, hs⟩ := h 0 (Nat.succ_pos _) hp
  cases j with
  | zero => exact sentinelAt?_eq_none_iff.1 hat n hn hs
  | succ j => exact absurd hle (by simp)

/-- **Texts that divide no sentinel can be filled one by one.** -/
theorem fills_flatten {ts : List Text} (h : sh.Undivided ts) :
    Fills sh ((ts.flatMap sh.numbers).map (sentinel sh.mark)) ts.flatten
      (ts.map sh.fill).flatten := by
  induction ts with
  | nil => exact .nil
  | cons t ts ih =>
    rw [List.flatMap_cons, List.map_append, List.flatten_cons, List.map_cons, List.flatten_cons]
    -- the reading of the first text is followed, the others stay behind it
    induction t using parts_induction sh with
    | nil => exact ih h.tail
    | slot n r hn iht =>
      rw [numbers_append hn, fill_append hn, List.append_assoc, List.append_assoc]
      exact .slot (isSentinel_sentinel sh.mark n) (List.getElem?_eq_getElem hn) (iht h.drop_front)
    | char c s hat iht =>
      rw [numbers_cons hat, fill_cons hat]
      refine .char (readSentinel?_eq_none_of_not_mark (h.not_mark_prefix hat)) ?_
      exact iht (Undivided.drop_front (w := [c]) h)

theorem fillsAll_visible {tss : List (List Text)} (h : ∀ ts ∈ tss, sh.Undivided ts) :
    FillsAll sh ((tss.flatten.flatMap sh.numbers).map (sentinel sh.mark)) (tss.map List.flatten)
      ((tss.map (List.map sh.fill)).map List.flatten) := by
  induction tss with
  | nil => exact .nil
  | cons ts tss ih =>
    obtain ⟨hts, htss⟩ := List.forall_mem_cons.1 h
    rw [List.flatten_cons, List.flatMap_append, List.map_append]
    exact .cons (fills_flatten hts) (ih htss)

/-! ### Pages -/

/-- A page laid out as blocks, with the slots put back, is the page with its texts filled. -/
theorem fills_blocks (hsh : Sound sh) {ns : List Html.Node}
    (hns : ∀ ts ∈ Html.visible ns, sh.Undivided ts) :
    Fills sh (((Html.visible ns).flatten.flatMap sh.numbers).map (sentinel sh.mark))
      (Text.joinWith blockSeparator (Html.blocks ns))
      (Text.joinWith blockSeparator (Html.blocks (Html.mapTextAll sh.fill ns))) := by
  have hbreak : sh.fill ['\n'] = ['\n'] := by
    refine fill_cons (sentinelAt?_eq_none_iff.2 fun n _ hp => ?_)
    have hnone := readSentinel?_cons_eq_none hsh.mark (by decide : isSentinelChar '\n' = false) []
    exact readSentinel?_eq_none_iff.1 hnone n _ (isSentinel_sentinel sh.mark n) hp
  rw [Html.blocks, Html.blocks, Html.pieces_flowAll, Html.pieces_flowAll,
    Html.visible_mapText rfl hbreak]
  have hblank : ∀ c ∈ blockSeparator, Text.isBlank c = true := List.all_eq_true.1 (by decide)
  exact (fillsAll_visible hns).blocks hsh (List.cons_ne_nil _ _) hblank

end Shield

/-- **No sentinel remains in a text that was made plain.** -/
theorem not_sentinel_infix_of_strip {rules : List Text} {s t : Text} {w : Workspace}
    (h : ((strip rules s).exec w).1 = .ok t) {n : Nat} (hn : n < (Slot.all s).length) :
    ¬ sentinel (Shield.freshMark s) n <:+: t := by
  have hfresh := Shield.not_freshMark_infix s
  have hw := isSentinel_sentinel (Shield.freshMark s) n
  unfold strip at h
  dsimp only at h
  split at h
  · -- the text is kept, and it lacks the mark
    rw [Job.exec_bind, Job.exec_report] at h
    obtain rfl : s = t := Except.ok.inj h
    exact fun hi => hfresh (hw.mark_prefix.isInfix.trans hi)
  · rename_i page _
    rw [Job.exec_ofExcept] at h
    unfold ofPage at h
    dsimp only at h
    split at h
    · exact absurd h (by simp)
    · have hraws : (Shield.ofText (Shield.freshMark s) s).raws.isEmpty = false := by
        have hpos : 0 < ((Slot.all s).map Slot.written).length := by
          rw [List.length_map]
          omega
        exact List.isEmpty_eq_false_iff.2 (List.length_pos_iff.1 hpos)
      rw [Shield.restore, hraws, if_neg (by simp)] at h
      obtain ⟨ws, hf⟩ := Shield.restoreFrom_eq_ok_iff.1 h
      exact hf.not_infix (Shield.sound_ofText (Shield.isMark_freshMark s) hfresh) hw

namespace Shield

/-- **Shielding is transparent to the layout of blocks.**  For every page whose visible texts divide
no sentinel, putting the slots back into its blocks gives the blocks of the page with its texts
filled.  The sentinels that reach the visible text become the slots of their numbers, in the order of
the document, and none remains; nor does any remain in a text that was made plain. -/
theorem restore_blocks {mark s : Text} (hm : IsMark mark) (hs : ¬ mark <:+: s)
    {ns : List Html.Node} (hns : ∀ ts ∈ Html.visible ns, (ofText mark s).Undivided ts) :
    (ofText mark s).restore (Text.joinWith blockSeparator (Html.blocks ns)) =
      .ok (Text.joinWith blockSeparator
        (Html.blocks (Html.mapTextAll (ofText mark s).fill ns))) ∧
    (∃ (l : Text) (ps : List (Fin (ofText mark s).raws.length × Text)),
      ps.map (fun p => p.1.val) = (Html.visible ns).flatten.flatMap (ofText mark s).numbers ∧
      Text.joinWith blockSeparator (Html.blocks ns) = laid (fun i => sentinel mark i.val) l ps ∧
      Text.joinWith blockSeparator (Html.blocks (Html.mapTextAll (ofText mark s).fill ns)) =
        laid (ofText mark s).raws.get l ps) ∧
    (∀ n, ¬ sentinel mark n <:+: Text.joinWith blockSeparator
      (Html.blocks (Html.mapTextAll (ofText mark s).fill ns))) ∧
    ∀ rules w t, ((strip rules s).exec w).1 = .ok t →
      ∀ i : Fin (Slot.all s).length, ¬ sentinel (freshMark s) i.val <:+: t := by
  have hsound := sound_ofText hm hs
  have hfills := fills_blocks hsound hns
  refine ⟨hfills.restore_eq, hfills.exists_laid, ?_, ?_⟩
  · intro n
    exact hfills.not_infix hsound (isSentinel_sentinel mark n)
  · intro rules w t ht i
    exact not_sentinel_infix_of_strip ht i.isLt

/-- Two sentinels that touch a digit and each other, one in an alternative text, and lines that are
trimmed around them. -/
theorem restore_blocks_image :
    (ofText (markOf 0) "\x7ba\x7d\x7bb?\x7d").restore (Text.joinWith blockSeparator (Html.blocks
      [.element "p" [] [.text (" 1" ++ sentinel (markOf 0) 1 ++ "2"),
          .element "img" [("alt", sentinel (markOf 0) 0 ++ " ")] [], .element "br" [] []],
        .text (sentinel (markOf 0) 0)])) = .ok "1\x7bb?\x7d2\x7ba\x7d\n\n\x7ba\x7d" := by
  refine (restore_blocks (s := "\x7ba\x7d\x7bb?\x7d") (isMark_markOf 0) ?_ ?_).1.trans
    (congrArg Except.ok ?_)
  · decide
  · decide +kernel
  · decide +kernel

end Shield

end PromptPress.PlainText

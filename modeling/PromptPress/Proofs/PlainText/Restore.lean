import PromptPress.Proofs.PlainText.Sentinel
import PromptPress.Proofs.Text.Layout

/-!
# Putting slots back

`Fills sh ws s t` says what it is to put the slots of a shield back: the text `t` is the text `s`
with a slot in the place of each sentinel, and `ws` are these sentinels from left to right.  Putting
back succeeds if and only if there is such a text, and gives it (`restoreFrom_eq_ok_iff`).

The slots may be put back after any change to the shielded text that keeps sentinels whole.  Between
literal texts without the mark, sentinels are read as they were laid, in any order and any number,
whatever digits or letters follow them (`Fills.laid`).  And where all slots are without the mark, no
sentinel remains (`Fills.not_infix`).
-/

namespace PromptPress.Slot

theorem written_infix_of_mem_all {w : Slot} {s : Text} (h : w ∈ Slot.all s) :
    w.written <:+: s := by
  obtain ⟨as, bs, hsplit⟩ := List.append_of_mem (Slot.mem_all.1 h)
  have hs := Slot.flatMap_spell_atoms s
  rw [hsplit, List.flatMap_append, List.flatMap_cons] at hs
  exact ⟨_, _, (List.append_assoc _ _ _).trans hs⟩

theorem WellFormed.solid {w : Slot} (h : w.WellFormed) :
    Text.Solid w.written := by
  have hsign : ∀ c ∈ Slot.signs, (!Text.isBlank c) = true := List.all_eq_true.1 (by decide)
  refine ⟨w.written_ne_nil, fun c hc => ?_⟩
  rcases h.mem_written hc with hn | hs
  · rw [Bool.eq_false_iff]
    intro hblank
    exact absurd (PlainText.isSentinelChar_of_isBlank hblank) (by simp [PlainText.isSentinelChar, hn])
  · simpa using hsign c hs

end PromptPress.Slot

namespace PromptPress.PlainText.Shield

variable {sh : Shield}

/-! ### The relation -/

/-- A text with slots in the place of the sentinels `ws`, and what it was before. -/
inductive Fills (sh : Shield) : List Text → Text → Text → Prop
  | nil : Fills sh [] [] []
  | char {c : Char} {ws : List Text} {s t : Text} (hc : readSentinel? sh.mark (c :: s) = none)
      (h : Fills sh ws s t) : Fills sh ws (c :: s) (c :: t)
  | slot {n : Nat} {w raw : Text} {ws : List Text} {s t : Text} (hw : IsSentinel sh.mark n w)
      (hr : sh.raws[n]? = some raw) (h : Fills sh ws s t) : Fills sh (w :: ws) (w ++ s) (raw ++ t)

theorem restoreFrom_eq_drop (sh : Shield) (n : Nat) (s : Text) :
    restoreFrom sh n s = restoreFrom sh 0 (s.drop n) := by
  induction n generalizing s with
  | zero => rfl
  | succ n ih =>
    cases s with
    | nil => simp [restoreFrom]
    | cons c s => rw [restoreFrom, List.drop_succ_cons, ih]

/-- Where no sentinel stands, a character is passed. -/
theorem restoreFrom_cons {c : Char} {s : Text} (h : readSentinel? sh.mark (c :: s) = none) :
    restoreFrom sh 0 (c :: s) = (restoreFrom sh 0 s).map (c :: ·) := by
  rw [restoreFrom, h]

/-- Where a sentinel stands, its slot is put in its place. -/
theorem restoreFrom_sentinel_append {n : Nat} {w : Text} (hw : IsSentinel sh.mark n w) (s : Text) :
    restoreFrom sh 0 (w ++ s) =
      match sh.raws[n]? with
      | none => .error unknownSentinel
      | some raw => (restoreFrom sh 0 s).map (raw ++ ·) := by
  obtain ⟨c, u, rfl⟩ := List.exists_cons_of_ne_nil hw.ne_nil
  have hread := readSentinel?_append hw s
  rw [List.cons_append] at hread ⊢
  have hbehind : restoreFrom sh ((c :: u).length - 1) (u ++ s) = restoreFrom sh 0 s := by
    rw [restoreFrom_eq_drop, List.length_cons, Nat.add_sub_cancel, List.drop_left]
  cases hr : sh.raws[n]? with
  | none => simp only [restoreFrom, hread, hr]
  | some raw => simp only [restoreFrom, hread, hr, hbehind]

theorem Fills.restoreFrom_eq {ws : List Text} {s t : Text} (h : Fills sh ws s t) :
    restoreFrom sh 0 s = .ok t := by
  induction h with
  | nil => rfl
  | char hc _ ih => rw [restoreFrom_cons hc, ih, Except.map]
  | slot hw hr _ ih =>
    rw [restoreFrom_sentinel_append hw, hr]
    dsimp only
    rw [ih, Except.map]

/-- **Putting back is the relation:** it succeeds where slots can be put in the place of all
sentinels, and gives the text that has them. -/
theorem restoreFrom_eq_ok_iff {s t : Text} :
    restoreFrom sh 0 s = .ok t ↔ ∃ ws, Fills sh ws s t := by
  refine ⟨?_, fun ⟨_, h⟩ => h.restoreFrom_eq⟩
  intro h
  induction s using sentinel_induction sh.mark generalizing t with
  | nil =>
    obtain rfl : [] = t := Except.ok.inj h
    exact ⟨[], .nil⟩
  | sentinel n w r hw ih =>
    rw [restoreFrom_sentinel_append hw] at h
    cases hr : sh.raws[n]? with
    | none => simp [hr] at h
    | some raw =>
      rw [hr] at h
      dsimp only at h
      cases hs : restoreFrom sh 0 r with
      | error e => simp [hs, Except.map] at h
      | ok u =>
        obtain rfl : raw ++ u = t := by simpa [hs, Except.map] using h
        obtain ⟨ws, hf⟩ := ih hs
        exact ⟨w :: ws, .slot hw hr hf⟩
  | char c s hread ih =>
    rw [restoreFrom_cons hread] at h
    cases hs : restoreFrom sh 0 s with
    | error e => simp [hs, Except.map] at h
    | ok u =>
      obtain rfl : c :: u = t := by simpa [hs, Except.map] using h
      obtain ⟨ws, hf⟩ := ih hs
      exact ⟨ws, .char hread hf⟩

/-- Without slots nothing is put back. -/
theorem Fills.eq_of_raws_nil {ws : List Text} {s t : Text} (h : Fills sh ws s t)
    (hr : sh.raws = []) : t = s := by
  induction h with
  | nil => rfl
  | char _ _ ih => rw [ih]
  | slot _ hraw => simp [hr] at hraw

theorem Fills.restore_eq {ws : List Text} {s t : Text} (h : Fills sh ws s t) :
    sh.restore s = .ok t := by
  unfold restore
  split_ifs with hr
  · rw [h.eq_of_raws_nil (List.isEmpty_iff.1 hr)]
  · exact h.restoreFrom_eq

/-! ### Literal text and sentinels side by side -/

/-- Literal texts with something between each two: a first one, and pairs of what stands between and
the text behind it. -/
def laid {α : Type} (f : α → Text) (l : Text) (ps : List (α × Text)) : Text :=
  l ++ ps.flatMap fun p => f p.1 ++ p.2

theorem laid_cons {α : Type} (f : α → Text) (l : Text) (p : α × Text) (ps : List (α × Text)) :
    laid f l (p :: ps) = l ++ (f p.1 ++ laid f p.2 ps) := by
  rw [laid, laid, List.flatMap_cons, List.append_assoc]

/-- Literal text without the mark stays, before the end and before a sentinel. -/
theorem Fills.literal_append (hm : IsMark sh.mark) {l : Text} (hl : ¬ sh.mark <:+: l)
    {ws : List Text} {s t : Text} (h : Fills sh ws s t) (hs : s = [] ∨ sh.mark <+: s) :
    Fills sh ws (l ++ s) (l ++ t) := by
  induction l with
  | nil => exact h
  | cons c l ih =>
    -- a mark that begins in `l` would have to end in `l`
    refine .char (readSentinel?_eq_none_of_not_mark fun hp => ?_)
      (ih fun hi => hl (List.infix_cons hi))
    exact hl (hm.prefix_of_append (List.cons_ne_nil c l) hs hp).isInfix

/-- **Sentinels are read as they were laid** between literal texts without the mark. -/
theorem Fills.laid (hm : IsMark sh.mark) {l : Text} {ps : List (Fin sh.raws.length × Text)}
    (hl : ¬ sh.mark <:+: l) (hps : ∀ p ∈ ps, ¬ sh.mark <:+: p.2) :
    Fills sh (ps.map fun p => sentinel sh.mark p.1)
      (laid (fun i => sentinel sh.mark i.val) l ps) (laid sh.raws.get l ps) := by
  induction ps generalizing l with
  | nil =>
    have h := Fills.literal_append hm hl .nil (.inl rfl)
    simpa [Shield.laid] using h
  | cons p ps ih =>
    have hw := isSentinel_sentinel sh.mark p.1
    have hrest := ih (hps p List.mem_cons_self) fun q hq => hps q (List.mem_cons_of_mem _ hq)
    rw [laid_cons, laid_cons, List.map_cons]
    refine Fills.literal_append hm hl (.slot hw ?_ hrest) (.inr ?_)
    · exact List.getElem?_eq_getElem p.1.isLt
    · exact hw.mark_prefix.trans (List.prefix_append _ _)

/-- What the relation says of sentinels in decimal digits: they are laid in the one text where their
slots are laid in the other. -/
theorem Fills.exists_laid {is : List Nat} {s t : Text}
    (h : Fills sh (is.map (sentinel sh.mark)) s t) :
    ∃ (l : Text) (ps : List (Fin sh.raws.length × Text)), ps.map (fun p => p.1.val) = is ∧
      s = Shield.laid (fun i => sentinel sh.mark i.val) l ps ∧ t = Shield.laid sh.raws.get l ps := by
  generalize hws : is.map (sentinel sh.mark) = ws at h
  induction h generalizing is with
  | nil =>
    obtain rfl := List.map_eq_nil_iff.1 hws
    exact ⟨[], [], rfl, rfl, rfl⟩
  | @char c ws s t _ _ ih =>
    obtain ⟨l, ps, his, rfl, rfl⟩ := ih hws
    exact ⟨c :: l, ps, his, rfl, rfl⟩
  | @slot n w raw ws s t hw hr _ ih =>
    obtain ⟨i, is, rfl, hi, hws⟩ := List.map_eq_cons_iff.1 hws
    obtain ⟨l, ps, rfl, rfl, rfl⟩ := ih hws
    obtain ⟨hlt, rfl⟩ := List.getElem?_eq_some_iff.1 hr
    obtain ⟨rfl, -⟩ := (isSentinel_sentinel sh.mark i).unique hw (hi ▸ List.prefix_rfl)
      List.prefix_rfl
    refine ⟨[], (⟨i, hlt⟩, l) :: ps, rfl, ?_, ?_⟩
    · rw [laid_cons, ← hi]
      rfl
    · rw [laid_cons]
      rfl

/-! ### What is left -/

/-- A shield whose mark is one, and whose slots stand between braces, without the mark or a blank
inside. -/
structure Sound (sh : Shield) : Prop where
  mark : IsMark sh.mark
  opening : ∀ raw ∈ sh.raws, ∃ u, raw = '{' :: u
  closing : ∀ raw ∈ sh.raws, ∃ u, raw = u ++ ['}']
  unmarked : ∀ raw ∈ sh.raws, ¬ sh.mark <:+: raw
  solid : ∀ raw ∈ sh.raws, Text.Solid raw

/-- **The shield of a text is sound** if the text lacks the mark. -/
theorem sound_ofText {mark s : Text} (hm : IsMark mark) (hs : ¬ mark <:+: s) :
    Sound (ofText mark s) := by
  have hraw : ∀ raw ∈ (ofText mark s).raws, ∃ w ∈ Slot.all s, w.written = raw :=
    fun raw h => List.mem_map.1 h
  refine ⟨hm, ?_, ?_, ?_, ?_⟩
  · intro raw h
    obtain ⟨w, -, rfl⟩ := hraw raw h
    exact ⟨_, rfl⟩
  · intro raw h
    obtain ⟨w, -, rfl⟩ := hraw raw h
    exact ⟨_, rfl⟩
  · intro raw h hi
    obtain ⟨w, hw, rfl⟩ := hraw raw h
    exact hs (hi.trans (Slot.written_infix_of_mem_all hw))
  · intro raw h
    obtain ⟨w, hw, rfl⟩ := hraw raw h
    exact (Slot.wellFormed_of_mem_all hw).solid

/-- Up to the first brace, nothing has changed. -/
theorem Fills.prefix_before_brace (hsh : Sound sh) {ws : List Text} {s t v : Text}
    (h : Fills sh ws s t) (hv : '{' ∉ v) (hp : v <+: t) : v <+: s := by
  induction h generalizing v with
  | nil => exact hp
  | char _ _ ih =>
    cases v with
    | nil => exact List.nil_prefix
    | cons d v =>
      obtain ⟨rfl, hvt⟩ := List.cons_prefix_cons.1 hp
      exact List.cons_prefix_cons.2 ⟨rfl, ih (fun hd => hv (List.mem_cons_of_mem _ hd)) hvt⟩
  | slot hw hr _ ih =>
    obtain ⟨u, rfl⟩ := hsh.opening _ (List.mem_of_getElem? hr)
    cases v with
    | nil => exact List.nil_prefix
    | cons d v =>
      obtain ⟨rfl, -⟩ := List.cons_prefix_cons.1 hp
      exact absurd List.mem_cons_self hv

/-- **No sentinel remains**, nor does one come about, if no slot has the mark inside. -/
theorem Fills.not_infix (hsh : Sound sh) {ws : List Text} {s t : Text}
    (h : Fills sh ws s t) {n : Nat} {w : Text} (hw : IsSentinel sh.mark n w) : ¬ w <:+: t := by
  induction h with
  | nil => exact fun hi => hw.ne_nil (List.infix_nil.1 hi)
  | @char c ws s t hc hf ih =>
    intro hi
    rcases List.infix_cons_iff.1 hi with hp | hi
    · have hbrace : '{' ∉ w := hw.notMem hsh.mark (by decide)
      exact readSentinel?_eq_none_iff.1 hc n w hw
        ((Fills.char hc hf).prefix_before_brace hsh hbrace hp)
    · exact ih hi
  | slot _ hr _ ih =>
    intro hi
    have hmem := List.mem_of_getElem? hr
    obtain ⟨u, rfl⟩ := hsh.closing _ hmem
    -- the brace that ends the slot keeps what is before it apart from what is behind
    rw [List.append_assoc, List.singleton_append] at hi
    rcases Text.infix_or_infix_of_notMem (hw.notMem hsh.mark (by decide)) hi with hu | ht
    · refine hsh.unmarked _ hmem ?_
      exact hw.mark_prefix.isInfix.trans (hu.trans (List.prefix_append _ _).isInfix)
    · exact ih ht

end PromptPress.PlainText.Shield

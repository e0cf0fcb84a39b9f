import PromptPress.Proofs.PlainText.Restore
import PromptPress.Proofs.Slot.Words

/-!
# The runs of a shielded text

A shielded text consists of literal text and sentinels.  `Shield.runs` takes it apart in the way in
which the slots are put back, so putting back is spelling the runs, each sentinel as the slot of its
number, and it fails exactly if no slot has the number (`restore_eq`).

The slots of the text that results are those of its literal runs and those that were put back, in
order (`all_flatMap_spell`): at the border of a sentinel no slot comes about and none is torn apart.
-/

namespace PromptPress.PlainText.Shield

variable {sh : Shield} {m s w : Text} {n : Nat}

/-- Reads sentinels, by their numbers, and characters; `skip` characters belong to the sentinel read
last. -/
def atomsFrom (mark : Text) : Nat → Text → List (Atom Nat)
  | _, [] => []
  | skip + 1, _ :: s => atomsFrom mark skip s
  | 0, c :: s =>
    match readSentinel? mark (c :: s) with
    | none => .char c :: atomsFrom mark 0 s
    | some (n, length) => .item n :: atomsFrom mark (length - 1) s

/-- The sentinels of a text, by their numbers, and the characters between them. -/
def atoms (mark s : Text) : List (Atom Nat) := atomsFrom mark 0 s

/-- The runs of a shielded text: literal text, and the numbers of sentinels.  Without slots all is
literal. -/
def runs (sh : Shield) (s : Text) : List (Run Nat) :=
  Run.group (if sh.raws.isEmpty then s.map .char else atoms sh.mark s)

/-- The slots that a run shows, where slots are put in the place of sentinels. -/
def slotsOf (ws : List Slot) : Run Nat → List Slot
  | .literal u => Slot.all u
  | .item n => ws[n]?.toList

/-! ### Reading step by step -/

theorem atomsFrom_eq_drop (m : Text) (n : Nat) (s : Text) :
    atomsFrom m n s = atomsFrom m 0 (s.drop n) := by
  induction n generalizing s with
  | zero => rfl
  | succ n ih =>
    cases s with
    | nil => simp [atomsFrom]
    | cons c s => rw [atomsFrom, List.drop_succ_cons, ih]

theorem atoms_sentinel_append (hw : IsSentinel m n w) (r : Text) :
    atoms m (w ++ r) = .item n :: atoms m r := by
  obtain ⟨c, u, rfl⟩ := List.exists_cons_of_ne_nil hw.ne_nil
  have hread := readSentinel?_append hw r
  rw [List.cons_append] at hread ⊢
  rw [atoms, atomsFrom, hread]
  dsimp only
  rw [atomsFrom_eq_drop, List.length_cons, Nat.add_sub_cancel, List.drop_left, atoms]

theorem atoms_cons {c : Char} (h : readSentinel? m (c :: s) = none) :
    atoms m (c :: s) = .char c :: atoms m s := by
  rw [atoms, atomsFrom, h, atoms]

/-! ### Putting slots back -/

/-- Putting back spells each sentinel as the slot of its number, and fails where there is none. -/
theorem restoreFrom_eq (sh : Shield) (s : Text) : restoreFrom sh 0 s =
    if ∀ n ∈ (atoms sh.mark s).filterMap Atom.item?, n < sh.raws.length then
      .ok ((atoms sh.mark s).flatMap (Atom.spell fun n => sh.raws.getD n []))
    else .error unknownSentinel := by
  induction s using sentinel_induction sh.mark with
  | nil => exact (if_pos (by simp [atoms, atomsFrom])).symm
  | sentinel n w r hw ih =>
    rw [restoreFrom_sentinel_append hw, ih, atoms_sentinel_append hw]
    have hitems : (Atom.item n :: atoms sh.mark r).filterMap Atom.item? =
        n :: (atoms sh.mark r).filterMap Atom.item? := rfl
    simp only [hitems, List.forall_mem_cons]
    by_cases hn : n < sh.raws.length
    · rw [List.getElem?_eq_getElem hn]
      simp only [hn, true_and, List.flatMap_cons, Atom.spell, List.getD_eq_getElem?_getD,
        List.getElem?_eq_getElem hn, Option.getD_some]
      split_ifs <;> rfl
    · rw [List.getElem?_eq_none (Nat.le_of_not_lt hn)]
      exact (if_neg fun h => hn h.1).symm
  | char c s hread ih =>
    rw [restoreFrom_cons hread, ih, atoms_cons hread]
    have hitems : (Atom.char c :: atoms sh.mark s).filterMap Atom.item? =
        (atoms sh.mark s).filterMap Atom.item? := rfl
    rw [hitems]
    split_ifs <;> rfl

/-- **Putting slots back spells the runs**, and fails exactly where a sentinel has a number that no
slot has. -/
theorem restore_eq (sh : Shield) (s : Text) : sh.restore s =
    if ∀ n ∈ Run.items (sh.runs s), n < sh.raws.length then
      .ok ((sh.runs s).flatMap (Run.spell id fun n => sh.raws.getD n []))
    else .error unknownSentinel := by
  rw [restore, runs, Run.items_group, Run.flatMap_spell_group]
  split_ifs with hraws hall hall
  · exact congrArg Except.ok (by simp [List.flatMap_map, Atom.spell])
  · exact absurd (by simp [List.filterMap_map, Function.comp_def, Atom.item?]) hall
  · rw [restoreFrom_eq, if_pos hall]
  · rw [restoreFrom_eq, if_neg hall]

/-! ### Slots -/

/-- **The slots of spelled runs** are those of the literal ones, and those that stand between. -/
theorem all_flatMap_spell {ws : List Slot} (hws : ∀ w ∈ ws, w.WellFormed) {rs : List (Run Nat)}
    (hrs : Run.Separated rs) (hlt : ∀ n ∈ Run.items rs, n < ws.length) :
    Slot.all (rs.flatMap (Run.spell id fun n => (ws.map Slot.written).getD n [])) =
      rs.flatMap (slotsOf ws) := by
  have hspell : ∀ {n : Nat} (hn : n < ws.length),
      (ws.map Slot.written).getD n [] = ws[n].written := by
    intro n hn
    simp [List.getD_eq_getElem?_getD, hn]
  induction rs with
  | nil => rfl
  | cons r rs ih =>
    rw [List.flatMap_cons, List.flatMap_cons]
    cases r with
    | item n =>
      have hn : n < ws.length := hlt n List.mem_cons_self
      rw [Run.spell, hspell hn, Slot.all_written_append (hws _ (List.getElem_mem hn)),
        ih hrs fun k hk => hlt k (List.mem_cons_of_mem n hk), slotsOf, List.getElem?_eq_getElem hn]
      rfl
    | literal u =>
      rw [slotsOf, ← ih hrs.2.2 hlt]
      refine Slot.all_append_of_bounds ?_ u
      -- behind literal text stands nothing or a slot
      cases rs with
      | nil => exact Slot.bounds_nil
      | cons r rs =>
        cases r with
        | literal v => exact absurd hrs.2.1 id
        | item n =>
          rw [List.flatMap_cons, Run.spell, hspell (hlt n List.mem_cons_self)]
          exact Slot.bounds_written_append _ _

end PromptPress.PlainText.Shield

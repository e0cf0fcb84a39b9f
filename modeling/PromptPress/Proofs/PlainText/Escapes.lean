import PromptPress.Proofs.PlainText.Restore
import PromptPress.Proofs.Slot.Literal

/-!
# Escaped slots

`dropEscapes` is a text without the backslashes that escape a slot: of each odd run of backslashes
in front of a slot the last one is missing, and nothing else is.  It is said character by character,
with the whole text in front of a character at hand, and without regard to how slots are shielded.

Putting the slots back into the text of a shield gives just that text (`exists_fills_shieldFrom`).  Only literal
text changes, at its end, so the slots of the text stay what they were (`all_dropEscapes`).
-/

namespace PromptPress.PlainText

/-! ### Runs of backslashes -/

theorem endsEscaped_concat (s : Text) (c : Char) :
    endsEscaped (s ++ [c]) = (c == '\\' && !endsEscaped s) := by
  have hparity : ∀ n, ((n + 1) % 2 == 1) = !(n % 2 == 1) := by
    intro n
    rcases Nat.mod_two_eq_zero_or_one n with h | h <;> simp [Nat.add_mod, h]
  unfold endsEscaped
  rw [List.reverse_concat]
  by_cases hc : c = '\\'
  · rw [List.takeWhile_cons_of_pos (by simpa using hc), List.length_cons, hparity]
    simp [hc]
  · rw [List.takeWhile_cons_of_neg (by simpa using hc)]
    simp [hc]

/-- What stands in front does not matter if it does not end escaped. -/
theorem endsEscaped_append {b : Text} (hb : endsEscaped b = false) (t : Text) :
    endsEscaped (b ++ t) = endsEscaped t := by
  induction t using List.reverseRecOn with
  | nil =>
    rw [List.append_nil, hb]
    rfl
  | append_singleton t c ih =>
    rw [← List.append_assoc, endsEscaped_concat, endsEscaped_concat, ih]

theorem endsEscaped_append_written (b : Text) (w : Slot) : endsEscaped (b ++ w.written) = false := by
  have hlast : b ++ w.written = (b ++ '{' :: w.name ++ w.mark.written) ++ ['}'] := by
    simp [Slot.written]
  rw [hlast, endsEscaped_concat]
  rfl

/-! ### The text without escapes -/

/-- The text without the backslashes that escape a slot, if `before` stands in front of it. -/
def dropEscapesFrom (before : Text) : Text → Text
  | [] => []
  | c :: s =>
    if endsEscaped (before ++ [c]) ∧ (Slot.read? s).isSome then dropEscapesFrom (before ++ [c]) s
    else c :: dropEscapesFrom (before ++ [c]) s

/-- The text without the last backslash of each odd run of them that a slot follows. -/
def dropEscapes (s : Text) : Text := dropEscapesFrom [] s

variable {l : Text} {w : Slot}

theorem dropEscapesFrom_append {v : Text} (hv : '\\' ∉ v) (b r : Text) :
    dropEscapesFrom b (v ++ r) = v ++ dropEscapesFrom (b ++ v) r := by
  induction v generalizing b with
  | nil => rw [List.append_nil, List.nil_append, List.nil_append]
  | cons c v ih =>
    obtain ⟨hc, hv⟩ := List.ne_and_not_mem_of_not_mem_cons hv
    have hkeep : endsEscaped (b ++ [c]) = false := by
      rw [endsEscaped_concat, beq_false_of_ne hc.symm, Bool.false_and]
    rw [List.cons_append, dropEscapesFrom, hkeep, if_neg (by simp), ih hv, ← List.append_cons,
      List.cons_append]

/-- Of literal text in front of a slot, only the last character may be missing. -/
theorem dropEscapesFrom_slot (hl : ¬ Slot.OccursIn l) (hw : w.WellFormed) (b r : Text) :
    dropEscapesFrom b (l ++ (w.written ++ r)) =
      (if endsEscaped (b ++ l) then l.dropLast else l) ++
        (w.written ++ dropEscapesFrom (b ++ l ++ w.written) r) := by
  induction l generalizing b with
  | nil =>
    have hslash : '\\' ∉ w.written := by
      intro hm
      rcases hw.mem_written hm with h | h <;> exact absurd h (by decide)
    rw [List.nil_append, List.dropLast_nil, ite_self, List.nil_append, List.append_nil,
      dropEscapesFrom_append hslash]
  | cons c l ih =>
    have htail : ¬ Slot.OccursIn l := fun h => hl (h.mono (List.suffix_cons c l).isInfix)
    have hbefore : b ++ [c] ++ l = b ++ c :: l := by
      rw [List.append_assoc, List.singleton_append]
    rw [List.cons_append, dropEscapesFrom, ih htail, hbefore]
    -- the slot follows the last character of `l` at once, and no other one of them
    cases l with
    | nil =>
      have hread : (Slot.read? ([] ++ (w.written ++ r))).isSome = true := by
        rw [List.nil_append, Slot.read?_written_append hw]
        rfl
      by_cases he : endsEscaped (b ++ [c]) = true
      · rw [if_pos ⟨he, hread⟩]
        simp [he]
      · rw [if_neg fun h => he h.1]
        simp [he]
    | cons d l =>
      have hread : Slot.read? (d :: l ++ (w.written ++ r)) = none :=
        Slot.read?_append_eq_none htail (List.cons_ne_nil d l) (Slot.follows_written_append w r)
      rw [hread, if_neg (by simp), ← List.cons_append]
      congr 1
      split_ifs <;> rfl

theorem dropEscapesFrom_literal (hl : ¬ Slot.OccursIn l) (b : Text) : dropEscapesFrom b l = l := by
  induction l generalizing b with
  | nil => rfl
  | cons c l ih =>
    have htail : ¬ Slot.OccursIn l := fun h => hl (h.mono (List.suffix_cons c l).isInfix)
    have hread : Slot.read? l = none := by
      cases l with
      | nil => rfl
      | cons d l =>
        have h := Slot.read?_append_eq_none htail (List.cons_ne_nil d l) (.inl rfl)
        rwa [List.append_nil] at h
    rw [dropEscapesFrom, hread, if_neg (by simp), ih htail]

/-- Behind a text that does not end escaped, literal text loses what escapes the slot behind it. -/
theorem dropEscapesFrom_eq (hl : ¬ Slot.OccursIn l) (hw : w.WellFormed) {b : Text}
    (hb : endsEscaped b = false) (r : Text) : dropEscapesFrom b (l ++ (w.written ++ r)) =
      withoutEscape l ++ (w.written ++ dropEscapesFrom (b ++ l ++ w.written) r) := by
  rw [dropEscapesFrom_slot hl hw, endsEscaped_append hb, withoutEscape]

theorem withoutEscape_prefix_self (l : Text) : withoutEscape l <+: l := by
  unfold withoutEscape
  split_ifs
  · exact List.dropLast_prefix l
  · exact List.prefix_rfl

/-- **Dropping escapes neither makes nor breaks a slot.** -/
theorem all_dropEscapesFrom {b : Text} (hb : endsEscaped b = false) (s : Text) :
    Slot.all (dropEscapesFrom b s) = Slot.all s := by
  induction s using Slot.literal_induction generalizing b with
  | last l hl => rw [dropEscapesFrom_literal hl]
  | slot l w r hl hw ih =>
    have hl' : ¬ Slot.OccursIn (withoutEscape l) :=
      fun h => hl (h.mono (withoutEscape_prefix_self l).isInfix)
    rw [dropEscapesFrom_eq hl hw hb, Slot.all_append hl' (Slot.follows_written_append w _),
      Slot.all_append hl (Slot.follows_written_append w r), Slot.all_written_append hw,
      Slot.all_written_append hw, ih (endsEscaped_append_written _ w)]

theorem all_dropEscapes (s : Text) : Slot.all (dropEscapes s) = Slot.all s :=
  all_dropEscapesFrom rfl s

/-! ### Shielded text -/

theorem shieldFrom_literal (hl : ¬ Slot.OccursIn l) (m : Text) (n : Nat) :
    shieldFrom m n (Run.group (Slot.atoms l)) = l := by
  cases l with
  | nil => rfl
  | cons c l =>
    have hgroup := Run.group_map_char_append (List.cons_ne_nil c l)
      (show Run.StartsApart (Run.group ([] : List (Atom Slot))) from trivial)
    rw [Slot.atoms_literal hl, ← List.append_nil (List.map _ _), hgroup, Run.group_nil, shieldFrom,
      shieldFrom, List.append_nil]
    intro w rs h
    exact absurd h (by simp)

theorem shieldFrom_slot (hl : ¬ Slot.OccursIn l) (hw : w.WellFormed) (m : Text) (n : Nat)
    (r : Text) : shieldFrom m n (Run.group (Slot.atoms (l ++ (w.written ++ r)))) =
      withoutEscape l ++ (sentinel m n ++ shieldFrom m (n + 1) (Run.group (Slot.atoms r))) := by
  rw [Slot.group_atoms_append hl hw]
  split_ifs with hne
  · subst hne
    rfl
  · exact List.append_assoc _ _ _

namespace Shield

/-- From any slot on: the shielded text, with the slots put back, is the text without escapes. -/
theorem exists_fills_shieldFrom {sh : Shield} (hm : IsMark sh.mark) {s : Text}
    (hs : ¬ sh.mark <:+: s) {n : Nat} (hraws : sh.raws.drop n = (Slot.all s).map Slot.written)
    {b : Text} (hb : endsEscaped b = false) :
    ∃ ws, Fills sh ws (shieldFrom sh.mark n (Run.group (Slot.atoms s))) (dropEscapesFrom b s) := by
  induction s using Slot.literal_induction generalizing n b with
  | last l hl =>
    have h := Fills.literal_append hm hs .nil (.inl rfl)
    rw [List.append_nil] at h
    rw [shieldFrom_literal hl, dropEscapesFrom_literal hl]
    exact ⟨[], h⟩
  | slot l w r hl hw ih =>
    rw [Slot.all_append hl (Slot.follows_written_append w r), Slot.all_written_append hw,
      List.map_cons] at hraws
    have hget : sh.raws[n]? = some w.written := by
      have h := congrArg (·[0]?) hraws
      simpa using h
    have hrest : sh.raws.drop (n + 1) = (Slot.all r).map Slot.written := by
      rw [← List.tail_drop, hraws, List.tail_cons]
    have hr : ¬ sh.mark <:+: r := fun h =>
      hs (h.trans ((List.suffix_append _ _).trans (List.suffix_append _ _)).isInfix)
    have hl' : ¬ sh.mark <:+: withoutEscape l := fun h =>
      hs (h.trans ((withoutEscape_prefix_self l).trans (List.prefix_append _ _)).isInfix)
    obtain ⟨ws, h⟩ := ih hr hrest (endsEscaped_append_written (b ++ l) w)
    have hw' := isSentinel_sentinel sh.mark n
    rw [shieldFrom_slot hl hw, dropEscapesFrom_eq hl hw hb]
    refine ⟨_, Fills.literal_append hm hl' (.slot hw' hget h) (.inr ?_)⟩
    exact hw'.mark_prefix.trans (List.prefix_append _ _)

/-- **Shielding can be undone**, whatever is done between to the text around the sentinels.  Between
literal texts without the mark, sentinels in any order and any number become the slots of their
numbers.  In the shielded text itself they become the slots of the text, which loses the backslashes
that escape a slot and nothing else, and has the same slots after that. -/
theorem restore_ofText {mark s : Text} (hm : IsMark mark) (hs : ¬ mark <:+: s) :
    (∀ (l : Text) (ps : List (Fin (ofText mark s).raws.length × Text)), ¬ mark <:+: l →
      (∀ p ∈ ps, ¬ mark <:+: p.2) →
      (ofText mark s).restore (laid (fun i => sentinel mark i.val) l ps) =
        .ok (laid (ofText mark s).raws.get l ps)) ∧
    (ofText mark s).restore (ofText mark s).text = .ok (dropEscapes s) ∧
    Slot.all (dropEscapes s) = Slot.all s ∧
    (Slot.all (dropEscapes s)).map Slot.written = (ofText mark s).raws := by
  have hall := all_dropEscapes s
  refine ⟨?_, ?_, hall, ?_⟩
  · intro l ps hl hps
    exact (@Fills.laid (ofText mark s) hm l ps hl hps).restore_eq
  · obtain ⟨ws, h⟩ := @exists_fills_shieldFrom (ofText mark s) hm s hs 0 rfl [] rfl
    exact h.restore_eq
  · rw [hall]
    rfl

/-- A digit and an `X` behind sentinels, one of them twice; and an odd run of backslashes beside an
even one. -/
theorem restore_ofText_backslashes :
    (ofText (markOf 0) "\\\x7ba\x7d\\\\\x7bb\x7d").restore
      (laid (fun i : Fin 2 => sentinel (markOf 0) i.val) "0X" [(1, "1X"), (0, ""), (1, "MDPH")]) =
        .ok "0X\x7bb\x7d1X\x7ba\x7d\x7bb\x7dMDPH" ∧
    (ofText (markOf 0) "\\\x7ba\x7d\\\\\x7bb\x7d").restore
      (ofText (markOf 0) "\\\x7ba\x7d\\\\\x7bb\x7d").text = .ok "\x7ba\x7d\\\\\x7bb\x7d" := by
  obtain ⟨hlaid, htext, -⟩ := restore_ofText
    (s := "\\\x7ba\x7d\\\\\x7bb\x7d") (isMark_markOf 0) (by decide)
  refine ⟨?_, htext⟩
  exact hlaid "0X" [((1 : Fin 2), "1X"), ((0 : Fin 2), ""), ((1 : Fin 2), "MDPH")] (by decide)
    (by decide)

end Shield

end PromptPress.PlainText

import PromptPress.Proofs.PlainText.Escapes
import PromptPress.Proofs.Slot.Grammar

/-!
# Escapes read from left to right

Whether a place is escaped is told from the backslashes in front of it, back to a floor.  A reader
who goes from left to right knows it without looking back: a backslash that is not escaped escapes
the character behind it (`ReadsTo`).  Both agree from every floor on (`readsTo_iff`).

A slot ends in a brace, so behind a slot no character is escaped, and the backslashes in front of
the next slot can be counted from there or from the start of the text.  `protectFrom` writes the
sentinels slot by slot, with a floor for each of them; with either floor it gives the text of the
shield (`text_eq_protectFrom`).
-/

namespace PromptPress

namespace Slot

variable {l : Text} {w : Slot}

/-- Literal text in front of a slot or of the end only moves places. -/
theorem readingsFrom_append {r : Text} (hl : ¬ OccursIn l) (hr : Follows r) (i : Nat) :
    readingsFrom i (l ++ r) = readingsFrom (i + l.length) r := by
  induction l generalizing i with
  | nil => rfl
  | cons c l ih =>
    have hread := read?_append_eq_none hl (List.cons_ne_nil c l) hr
    have htail : ¬ OccursIn l := fun h => hl (h.mono (List.suffix_cons c l).isInfix)
    rw [List.cons_append] at hread ⊢
    rw [readingsFrom_cons hread, ih htail, List.length_cons, Nat.add_assoc, Nat.add_comm 1]

theorem readingsFrom_literal (hl : ¬ OccursIn l) (i : Nat) : readingsFrom i l = [] := by
  have h := readingsFrom_append hl (.inl rfl) i
  rwa [List.append_nil, readingsFrom_nil] at h

end Slot

namespace PlainText

open Slot (readings readingsFrom)

variable {s : Text} {floor place : Nat} {b : Bool}

/-! ### Reading forward -/

/-- A reader starts at `floor`, where no character is escaped, and goes on to a place; the character
there is escaped or not. -/
inductive ReadsTo (s : Text) (floor : Nat) : Nat → Bool → Prop
  | start (h : floor ≤ s.length) : ReadsTo s floor floor false
  | slash {p : Nat} (h : ReadsTo s floor p false) (hp : s[p]? = some '\\') :
      ReadsTo s floor (p + 1) true
  | other {p : Nat} {c : Char} (h : ReadsTo s floor p false) (hp : s[p]? = some c)
      (hc : c ≠ '\\') : ReadsTo s floor (p + 1) false
  | escaped {p : Nat} {c : Char} (h : ReadsTo s floor p true) (hp : s[p]? = some c) :
      ReadsTo s floor (p + 1) false

theorem isEscaped_self (s : Text) (floor : Nat) : isEscaped s floor floor = false := by
  have hnone : (s.take floor).drop floor = [] := List.drop_eq_nil_of_le (by simp)
  rw [isEscaped, hnone]
  rfl

theorem isEscaped_succ {c : Char} (hle : floor ≤ place) (hc : s[place]? = some c) :
    isEscaped s (place + 1) floor = (c == '\\' && !isEscaped s place floor) := by
  have hlt : place < s.length := (List.getElem?_eq_some_iff.1 hc).1
  have hdrop : (s.take place ++ [c]).drop floor = (s.take place).drop floor ++ [c] := by
    apply List.drop_append_of_le_length
    rw [List.length_take]
    omega
  rw [isEscaped, isEscaped, List.take_add_one, hc, Option.toList_some, hdrop, endsEscaped_concat]

theorem ReadsTo.isEscaped_eq (h : ReadsTo s floor place b) :
    floor ≤ place ∧ place ≤ s.length ∧ isEscaped s place floor = b := by
  induction h with
  | start hfloor => exact ⟨le_rfl, hfloor, isEscaped_self s floor⟩
  | slash h hp ih =>
    have hlt := (List.getElem?_eq_some_iff.1 hp).1
    refine ⟨by omega, hlt, ?_⟩
    rw [isEscaped_succ ih.1 hp, ih.2.2]
    rfl
  | other h hp hc ih =>
    have hlt := (List.getElem?_eq_some_iff.1 hp).1
    refine ⟨by omega, hlt, ?_⟩
    rw [isEscaped_succ ih.1 hp, ih.2.2, beq_false_of_ne hc, Bool.false_and]
  | escaped h hp ih =>
    have hlt := (List.getElem?_eq_some_iff.1 hp).1
    refine ⟨by omega, hlt, ?_⟩
    rw [isEscaped_succ ih.1 hp, ih.2.2, Bool.not_true, Bool.and_false]

/-- The reader gets to every place, and knows there what the backslashes in front of it say. -/
theorem readsTo_isEscaped (hle : floor ≤ place) (hplace : place ≤ s.length) :
    ReadsTo s floor place (isEscaped s place floor) := by
  induction place, hle using Nat.le_induction with
  | base =>
    rw [isEscaped_self]
    exact .start hplace
  | succ p hle ih =>
    have hp : s[p]? = some s[p] := List.getElem?_eq_getElem hplace
    have hread := ih (Nat.le_of_succ_le hplace)
    rw [isEscaped_succ hle hp]
    cases he : isEscaped s p floor with
    | true =>
      rw [he] at hread
      rw [Bool.not_true, Bool.and_false]
      exact .escaped hread hp
    | false =>
      rw [he] at hread
      rw [Bool.not_false, Bool.and_true]
      by_cases hc : s[p] = '\\'
      · rw [hc]
        exact .slash hread (hp.trans (congrArg some hc))
      · rw [beq_false_of_ne hc]
        exact .other hread hp hc

/-- **Counting backslashes back to a floor and reading forward from it agree.** -/
theorem readsTo_iff :
    ReadsTo s floor place b ↔ floor ≤ place ∧ place ≤ s.length ∧ isEscaped s place floor = b := by
  constructor
  · exact ReadsTo.isEscaped_eq
  · rintro ⟨hle, hplace, rfl⟩
    exact readsTo_isEscaped hle hplace

/-! ### Behind a slot -/

/-- Where no character is escaped, counting may as well stop. -/
theorem isEscaped_of_floor (hle : floor ≤ place) (hfloor : endsEscaped (s.take floor) = false) :
    isEscaped s place floor = isEscaped s place 0 := by
  have hsplit : s.take place = s.take floor ++ (s.take place).drop floor := by
    conv_lhs => rw [← List.take_append_drop floor (s.take place)]
    rw [List.take_take, Nat.min_eq_left hle]
  rw [isEscaped, isEscaped, List.drop_zero, hsplit, endsEscaped_append hfloor, ← hsplit]

/-- Behind a slot no character is escaped. -/
theorem endsEscaped_take_stop {r : SlotReading} (h : r ∈ readings s) :
    endsEscaped (s.take r.stop.toNat) = false := by
  rw [Slot.readings_eq, Slot.mem_readingsFrom] at h
  obtain ⟨w, i, -, hp, rfl⟩ := h
  have hstop : (w.readingAt (0 + i)).stop.toNat = i + w.written.length := by
    simp only [Slot.readingAt]
    omega
  have htake : (s.drop i).take w.written.length = w.written :=
    (List.prefix_iff_eq_take.1 hp).symm
  rw [hstop, List.take_add, htake]
  exact endsEscaped_append_written (s.take i) w

/-- **A slot is escaped by the backslashes behind any slot before it if and only if it is escaped by
all of them.** -/
theorem pairwise_isEscaped (s : Text) : (readings s).Pairwise fun a b =>
    isEscaped s b.start.toNat a.stop.toNat = isEscaped s b.start.toNat 0 := by
  refine (Slot.pairwise_readingsFrom s 0).imp_of_mem fun {a b} ha _ hab => ?_
  exact isEscaped_of_floor (by omega) (endsEscaped_take_stop ha)

/-! ### Protecting slot by slot -/

/-- Writes the text from `last` on with sentinels in the place of the slots `rs`, from number `n` on.
With a slot goes the backslash that escapes it, where the backslashes count that stand behind the
floor for `last`. -/
def protectFrom (floor : Nat → Nat) (mark s : Text) (n last : Nat) : List SlotReading → Text
  | [] => s.drop last
  | r :: rs =>
    let start := r.start.toNat - if isEscaped s r.start.toNat (floor last) then 1 else 0
    (s.take start).drop last ++ sentinel mark n ++
      protectFrom floor mark s (n + 1) r.stop.toNat rs

/-- A floor that is the place itself, or the start of the text. -/
def IsFloor (floor : Nat → Nat) : Prop := ∀ i, floor i = i ∨ floor i = 0

theorem isEscaped_append (hfloor : floor = place ∨ floor = 0) {before : Text}
    (hbefore : endsEscaped before = false) (hplace : before.length = place) (l r : Text) :
    isEscaped (before ++ (l ++ r)) (place + l.length) floor = endsEscaped l := by
  subst hplace
  have htake : (before ++ (l ++ r)).take (before.length + l.length) = before ++ l := by
    rw [← List.append_assoc, List.take_left' (by rw [List.length_append])]
  rcases hfloor with rfl | rfl
  · rw [isEscaped, htake, List.drop_left]
  · rw [isEscaped, htake, List.drop_zero, endsEscaped_append hbefore]

/-- What is left of literal text in front of a slot. -/
theorem drop_take_eq_withoutEscape (before l r : Text) :
    ((before ++ (l ++ r)).take
      (before.length + l.length - if endsEscaped l then 1 else 0)).drop before.length =
        withoutEscape l := by
  by_cases he : endsEscaped l = true
  · have hne : l ≠ [] := by
      rintro rfl
      exact absurd he (by decide)
    have hpos := List.length_pos_iff.2 hne
    rw [if_pos he, withoutEscape, if_pos he, List.drop_take, List.drop_left,
      List.take_append_of_le_length (by omega), List.dropLast_eq_take]
    congr 1
    omega
  · rw [if_neg he, withoutEscape, if_neg he, Nat.sub_zero, List.drop_take, List.drop_left,
      Nat.add_sub_cancel_left, List.take_left]

theorem protectFrom_eq_shieldFrom {floor : Nat → Nat} (hfloor : IsFloor floor) (mark s : Text)
    {before : Text} (hbefore : endsEscaped before = false) (n : Nat) :
    protectFrom floor mark (before ++ s) n before.length (readingsFrom before.length s) =
      shieldFrom mark n (Run.group (Slot.atoms s)) := by
  -- The induction goes from slot to slot; behind each of them no character is escaped again.
  induction s using Slot.literal_induction generalizing before n with
  | last l hl =>
    rw [Slot.readingsFrom_literal hl, protectFrom, List.drop_left, shieldFrom_literal hl]
  | slot l w r hl hw ih =>
    have hfollows := Slot.follows_written_append w r
    have hlength : before.length + l.length + w.written.length =
        (before ++ l ++ w.written).length := by
      rw [List.length_append, List.length_append]
    have hrest : before ++ (l ++ (w.written ++ r)) = before ++ l ++ w.written ++ r := by
      simp only [List.append_assoc]
    have hstart : (w.readingAt (before.length + l.length)).start.toNat =
        before.length + l.length := rfl
    have hstop : (w.readingAt (before.length + l.length)).stop.toNat =
        (before ++ l ++ w.written).length := by
      rw [← hlength]
      rfl
    rw [Slot.readingsFrom_append hl hfollows, Slot.readingsFrom_written_append hw, protectFrom,
      hstart, hstop, isEscaped_append (hfloor _) hbefore rfl, drop_take_eq_withoutEscape, hlength,
      hrest, ih (endsEscaped_append_written _ w), shieldFrom_slot hl hw, List.append_assoc]

/-- The text of a shield is written slot by slot. -/
theorem text_eq_protectFrom {floor : Nat → Nat} (hfloor : IsFloor floor) (mark s : Text) :
    (Shield.ofText mark s).text = protectFrom floor mark s 0 0 (readings s) :=
  (@protectFrom_eq_shieldFrom floor hfloor mark s [] rfl 0).symm

/-- **Escapes are the same read backward and forward.**  Counting the backslashes in front of a place
back to a floor tells what a reader knows who comes from the floor.  In front of a slot it does not
matter whether they are counted back to the end of a slot before it or to the start of the text, and
so the shield replaces the slots, and takes the backslashes away that escape them, with either
floor. -/
theorem escapes_read_forward (s : Text) :
    (∀ floor place b, ReadsTo s floor place b ↔
      floor ≤ place ∧ place ≤ s.length ∧ isEscaped s place floor = b) ∧
    ((readings s).Pairwise fun a b =>
      isEscaped s b.start.toNat a.stop.toNat = isEscaped s b.start.toNat 0) ∧
    ∀ mark, (Shield.ofText mark s).text = protectFrom (fun last => last) mark s 0 0 (readings s) ∧
      (Shield.ofText mark s).text = protectFrom (fun _ => 0) mark s 0 0 (readings s) := by
  refine ⟨fun floor place b => readsTo_iff, pairwise_isEscaped s, fun mark => ⟨?_, ?_⟩⟩
  · exact text_eq_protectFrom (fun _ => .inl rfl) mark s
  · exact text_eq_protectFrom (fun _ => .inr rfl) mark s

/-- Three backslashes behind a slot: the third one escapes the next slot. -/
example : isEscaped "\x7ba\x7d\\\\\\\x7bb\x7d" 6 3 = true ∧
    protectFrom (fun last => last) "M" "\x7ba\x7d\\\\\\\x7bb\x7d" 0 0
      (readings "\x7ba\x7d\\\\\\\x7bb\x7d") = "M0X\\\\M1X" := by decide

end PlainText

end PromptPress

import PromptPress.Proofs.Template.Interpolation
import PromptPress.Proofs.Slot.Grammar
import Mathlib.Data.List.Nodup

/-!
# Splitting a text for any list of placeholders

The listed placeholders need not come from the text: they may be repeated, and their spellings may
be those of no slot.  Whatever is listed, splitting loses nothing, no literal text is empty or
stands beside another, and the placeholders stand exactly where the slots with a listed spelling
are, each the first one listed with that spelling (`forall₂_placedItems_segments`).

So of a list only the first placeholder of each spelling matters, and its order only where spellings
repeat (`segments_perm`).
-/

namespace PromptPress

/-! ### The places of items -/

namespace Run

variable {α : Type} {f : α → Text} {n : Nat} {rs : List (Run α)}

/-- The items of runs with the places where they start; an item `a` is spelled `f a`. -/
def placedItems (f : α → Text) : Nat → List (Run α) → List (Nat × α)
  | _, [] => []
  | n, .literal t :: rs => placedItems f (n + t.length) rs
  | n, .item a :: rs => (n, a) :: placedItems f (n + (f a).length) rs

theorem placedItems_cons_char (c : Char) :
    placedItems f n (cons (.char c) rs) = placedItems f (n + 1) rs := by
  cases rs with
  | nil => rfl
  | cons r rs =>
    cases r with
    | item a => rfl
    | literal t =>
      show placedItems f (n + (t.length + 1)) rs = placedItems f (n + 1 + t.length) rs
      rw [Nat.add_assoc, Nat.add_comm 1]

theorem placedItems_group_chars (t : Text) (as : List (Atom α)) :
    placedItems f n (group (t.map .char ++ as)) = placedItems f (n + t.length) (group as) := by
  induction t generalizing n with
  | nil => rfl
  | cons c t ih =>
    rw [List.map_cons, List.cons_append, group_cons, placedItems_cons_char, ih, List.length_cons,
      Nat.add_assoc, Nat.add_comm 1]

end Run

namespace Template

variable {ps qs : List Placeholder} {p : Placeholder} {w : Slot}

/-! ### The first placeholder of a spelling -/

/-- Is this the first one of the listed placeholders that has the spelling? -/
def IsFirstSpelled (ps : List Placeholder) (raw : Text) (p : Placeholder) : Prop :=
  p.raw = raw ∧ ∃ before after, ps = before ++ p :: after ∧ ∀ q ∈ before, q.raw ≠ raw

theorem placeholderOf?_eq_some_iff : placeholderOf? ps w = some p ↔
    IsFirstSpelled ps w.written p := by
  rw [placeholderOf?, List.find?_eq_some_iff_append]
  simp [IsFirstSpelled]

theorem placeholderOf?_eq_none_iff : placeholderOf? ps w = none ↔
    w.written ∉ ps.map Placeholder.raw := by
  rw [placeholderOf?, List.find?_eq_none]
  simp

/-! ### Where placeholders stand -/

/-- Does a placeholder stand where a slot was read, and is it the first one listed with the slot's
spelling? -/
def StandsFor (ps : List Placeholder) (r : SlotReading) (q : Nat × Placeholder) : Prop :=
  r.start = q.1 ∧ IsFirstSpelled ps r.raw q.2

theorem segments_written_append (hw : w.WellFormed) (r : Text) (ps : List Placeholder) :
    segments (w.written ++ r) ps =
      Run.group (fill ps (.item w) ++ (Slot.atoms r).flatMap (fill ps)) := by
  rw [segments, Slot.atoms_written_append hw, List.flatMap_cons]

theorem segments_cons {c : Char} {s : Text} (h : Slot.read? (c :: s) = none)
    (ps : List Placeholder) : segments (c :: s) ps = Run.cons (.char c) (segments s ps) := by
  rw [segments, Slot.atoms_cons h]
  rfl

/-- **Placeholders stand exactly where the slots with a listed spelling are.** -/
theorem forall₂_placedItems_segments (s : Text) (ps : List Placeholder) (n : Nat) :
    List.Forall₂ (StandsFor ps)
      ((Slot.readingsFrom n s).filter fun r => r.raw ∈ ps.map Placeholder.raw)
      (Run.placedItems Placeholder.raw n (segments s ps)) := by
  induction s using Slot.atoms_induction generalizing n with
  | nil => exact .nil
  | slot w r hw ih =>
    rw [Slot.readingsFrom_written_append hw, segments_written_append hw, fill]
    cases h : placeholderOf? ps w with
    | some p =>
      have hfirst := placeholderOf?_eq_some_iff.1 h
      have hraw : p.raw.length = w.written.length := by rw [hfirst.1]
      have hlisted : w.written ∈ ps.map Placeholder.raw := by
        by_contra hn
        rw [placeholderOf?_eq_none_iff.2 hn] at h
        cases h
      rw [List.filter_cons_of_pos (by simpa [Slot.readingAt] using hlisted)]
      refine .cons ⟨rfl, hfirst⟩ ?_
      rw [hraw]
      exact ih _
    | none =>
      have hunlisted := placeholderOf?_eq_none_iff.1 h
      rw [List.filter_cons_of_neg (by simpa [Slot.readingAt] using hunlisted)]
      dsimp only
      rw [Run.placedItems_group_chars]
      exact ih _
  | char c s hs ih =>
    rw [Slot.readingsFrom_cons hs, segments_cons hs, Run.placedItems_cons_char]
    exact ih _

/-! ### The order of the list -/

theorem placeholderOf?_perm (h : ps.Perm qs) (hd : (ps.map Placeholder.raw).Nodup) (w : Slot) :
    placeholderOf? qs w = placeholderOf? ps w := by
  cases hp : placeholderOf? ps w with
  | none =>
    rw [placeholderOf?_eq_none_iff] at hp ⊢
    rwa [← (h.map Placeholder.raw).mem_iff]
  | some p =>
    obtain ⟨hmem, hraw⟩ := mem_of_placeholderOf? hp
    cases hq : placeholderOf? qs w with
    | none =>
      rw [placeholderOf?_eq_none_iff] at hq
      exact absurd (hraw ▸ List.mem_map_of_mem (h.mem_iff.1 hmem)) hq
    | some q =>
      obtain ⟨hmem', hraw'⟩ := mem_of_placeholderOf? hq
      have he := List.inj_on_of_nodup_map hd (h.mem_iff.2 hmem') hmem (hraw'.trans hraw.symm)
      rw [he]

theorem segments_perm (h : ps.Perm qs) (hd : (ps.map Placeholder.raw).Nodup) (s : Text) :
    segments s qs = segments s ps := by
  have hfill : fill qs = fill ps := by
    funext a
    cases a with
    | char c => rfl
    | item w => rw [fill, fill, placeholderOf?_perm h hd]
  rw [segments, segments, hfill]

/-- **Splitting is lossless and exact**, for every text and every list of placeholders.  The
segments spell the text, no literal text is empty, and no two stand side by side.  The placeholders
stand, in order, exactly where the slots with a listed spelling are, and each is the first one
listed with that spelling.  Where no spelling is listed twice, the order of the list does not
matter. -/
theorem segments_lossless_and_exact (s : Text) (ps : List Placeholder) :
    (segments s ps).flatMap (Run.spell id Placeholder.raw) = s ∧
      (∀ t, .literal t ∈ segments s ps → t ≠ []) ∧
      ((segments s ps).IsChain fun a b => a.isLiteral = true → b.isLiteral = false) ∧
      List.Forall₂ (StandsFor ps)
        ((Slot.readings s).filter fun r => r.raw ∈ ps.map Placeholder.raw)
        (Run.placedItems Placeholder.raw 0 (segments s ps)) ∧
      ((ps.map Placeholder.raw).Nodup → ∀ qs, ps.Perm qs → segments s qs = segments s ps) := by
  have hseparated : Run.Separated (segments s ps) := Run.separated_group _
  obtain ⟨hfilled, hapart⟩ := Run.separated_iff.1 hseparated
  refine ⟨flatMap_spell_segments s ps, hfilled, hapart, forall₂_placedItems_segments s ps 0, ?_⟩
  intro hd qs h
  exact segments_perm h hd s

/-- Of two placeholders, in either order, one has the spelling of no slot; another slot of the text
is not listed. -/
theorem segments_lossless_and_exact_swapped :
    (([⟨"y", true, "\x7by", none⟩, ⟨"x", false, "\x7bx\x7d", none⟩] : List Placeholder).map
        Placeholder.raw).Nodup ∧
      ([⟨"y", true, "\x7by", none⟩, ⟨"x", false, "\x7bx\x7d", none⟩] : List Placeholder).Perm
        [⟨"x", false, "\x7bx\x7d", none⟩, ⟨"y", true, "\x7by", none⟩] ∧
      segments "\x7b\x7bx\x7d\x7by?\x7d\x7bx\x7d"
          [⟨"x", false, "\x7bx\x7d", none⟩, ⟨"y", true, "\x7by", none⟩] =
        segments "\x7b\x7bx\x7d\x7by?\x7d\x7bx\x7d"
          [⟨"y", true, "\x7by", none⟩, ⟨"x", false, "\x7bx\x7d", none⟩] ∧
      segments "\x7b\x7bx\x7d\x7by?\x7d\x7bx\x7d"
          [⟨"y", true, "\x7by", none⟩, ⟨"x", false, "\x7bx\x7d", none⟩] =
        [.literal "\x7b", .item ⟨"x", false, "\x7bx\x7d", none⟩, .literal "\x7by?\x7d",
          .item ⟨"x", false, "\x7bx\x7d", none⟩] := by
  have hd : (([⟨"y", true, "\x7by", none⟩, ⟨"x", false, "\x7bx\x7d", none⟩] : List Placeholder).map
      Placeholder.raw).Nodup := by decide
  have hswap : ([⟨"y", true, "\x7by", none⟩, ⟨"x", false, "\x7bx\x7d", none⟩] :
      List Placeholder).Perm [⟨"x", false, "\x7bx\x7d", none⟩, ⟨"y", true, "\x7by", none⟩] :=
    .swap _ _ _
  obtain ⟨-, -, -, -, hperm⟩ := segments_lossless_and_exact "\x7b\x7bx\x7d\x7by?\x7d\x7bx\x7d"
    [⟨"y", true, "\x7by", none⟩, ⟨"x", false, "\x7bx\x7d", none⟩]
  exact ⟨hd, hswap, hperm hd _ hswap, by decide⟩

end Template

end PromptPress

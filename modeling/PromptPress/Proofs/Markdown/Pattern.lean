import PromptPress.Markdown.Pattern

/-!
# Patterns in plain texts

In a text that no rule has touched yet, a pattern without groups only looks at the characters that
are left, apart from its tests of the place.  So a way to go on from a place can be described by a
function of what is left: what remains behind the match, if there is one (`Describes`).  The lemmas
below give this function for the patterns that are put together from characters, eager and patient
runs, and choices.

An eager run of a class takes all characters of the class, if what follows it cannot begin with one
of them (`Describes.star`).  A patient run of any characters ends at the first place from where the
rest of the pattern matches (`Describes.fewStar`).
-/

namespace PromptPress.Markdown

namespace Draft

theorem settle_ofText (s : Text) : settle (ofText s) = s := by
  induction s with
  | nil => rfl
  | cons c s ih => exact congrArg (c :: ·) ih

end Draft

namespace Cursor

/-- The place in an untouched text where `s` is left. -/
def plain (b : Draft) (s : Text) : Cursor := ⟨b, .ofText s, s.length, []⟩

theorem start_ofText (s : Text) : start (.ofText s) = plain [] s := by
  rw [start, plain, Draft.ofText, List.length_map]

theorem next?_plain_cons (p : Glyph → Bool) (b : Draft) (c : Char) (s : Text) :
    (plain b (c :: s)).next? p =
      if p (.char c) then some (plain (.char c :: b) s) else none := rfl

end Cursor

namespace Pattern

open Cursor (plain)

variable {p : Glyph → Bool} {k : Continuation} {f g : Text → Option Text} {a b : Pattern}

/-- At a place of an untouched text, what is left behind the match is what `f` makes of what is
left there; where `f` gives nothing, there is no match. -/
def Describes (f : Text → Option Text) (k : Continuation) : Prop :=
  ∀ b s, (k (plain b s)).map Cursor.after = (f s).map Draft.ofText

theorem describes_some : Describes some some := fun _ _ => rfl

theorem Describes.eq_none_iff (h : Describes f k) {d : Draft} {s : Text} :
    k (plain d s) = none ↔ f s = none := by
  rw [← Option.map_eq_none_iff, h d s, Option.map_eq_none_iff]

/-! ### Characters -/

theorem Describes.char (h : Describes f k) (c : Char) :
    Describes (fun s => (Text.dropFront? [c] s).bind f) ((Pattern.char c).go k) := by
  intro d s
  cases s with
  | nil => rfl
  | cons e s =>
    have hclass : Glyph.isChar c (.char e) = (e == c) := rfl
    rw [Pattern.char, Pattern.one, go, exactly, Cursor.next?_plain_cons, hclass]
    by_cases he : c = e
    · have hk := h (.char e :: d) s
      cases hc : k (plain (.char e :: d) s) <;>
        simpa [Text.dropFront?, exactly, places, he, hc] using hk
    · simp [Text.dropFront?, he, Ne.symm he]

theorem Describes.word (h : Describes f k) (w : String) :
    Describes (fun s => (Text.dropFront? w s).bind f) ((Pattern.word w).go k) := by
  have hcons : ∀ (c : Char) (u s : Text),
      Text.dropFront? (c :: u) s = (Text.dropFront? [c] s).bind (Text.dropFront? u) := by
    intro c u s
    cases s with
    | nil => rfl
    | cons e s => by_cases he : c = e <;> simp [Text.dropFront?, he]
  unfold Pattern.word chain
  induction w.toList with
  | nil => exact h
  | cons c w ih =>
    intro d s
    refine (ih.char c d s).trans ?_
    show ((Text.dropFront? [c] s).bind fun s => (Text.dropFront? w s).bind f).map _ =
      ((Text.dropFront? (c :: w) s).bind f).map _
    rw [hcons c w, Option.bind_assoc]

/-! ### Runs -/

theorem findSome?_cons_of_none {α β : Type} {k : α → Option β} {xs : List α}
    (h : ∀ x ∈ xs, k x = none) (x : α) : (x :: xs).findSome? k = k x := by
  rw [List.findSome?_cons, List.findSome?_eq_none_iff.2 h]
  cases k x <;> rfl

/-- Of the places that an eager run reaches only the last one counts, if the rest of the pattern
does not match in front of a character of the class. -/
theorem Describes.findSome?_places (h : Describes f k)
    (hp : ∀ c s, p (.char c) = true → f (c :: s) = none) (d : Draft) (s : Text)
    {reached : List Cursor} (hr : ∀ x ∈ reached, k x = none) :
    ((places p s.length (plain d s) (plain d s :: reached)).findSome? k).map Cursor.after =
      (f (s.dropWhile fun c => p (.char c))).map Draft.ofText := by
  induction s generalizing d reached with
  | nil =>
    show ((plain d [] :: reached).findSome? k).map Cursor.after = _
    rw [findSome?_cons_of_none hr]
    exact h d []
  | cons c s ih =>
    rw [List.length_cons, places, Cursor.next?_plain_cons]
    by_cases hc : p (.char c) = true
    · rw [if_pos hc, List.dropWhile_cons_of_pos (p := fun c => p (.char c)) hc]
      refine ih (.char c :: d) fun x hx => ?_
      rcases List.mem_cons.1 hx with rfl | hx
      · exact h.eq_none_iff.2 (hp c s hc)
      · exact hr x hx
    · rw [if_neg hc, List.dropWhile_cons_of_neg (p := fun c => p (.char c)) hc]
      exact (congrArg _ (findSome?_cons_of_none hr _)).trans (h d (c :: s))

/-- **An eager run takes all it can**, if what follows it cannot begin with one of its class. -/
theorem Describes.star (h : Describes f k)
    (hp : ∀ c s, p (.char c) = true → f (c :: s) = none) :
    Describes (fun s => f (s.dropWhile fun c => p (.char c))) ((Pattern.star p).go k) :=
  fun d s => h.findSome?_places hp d s fun _ hx => absurd hx List.not_mem_nil

/-- What `f` gives at the first place where it gives something. -/
def earliest (f : Text → Option Text) : Text → Option Text
  | [] => f []
  | c :: s => (f (c :: s)).or (earliest f s)

/-- **A patient run ends as early as it can.** -/
theorem Describes.fewStar (h : Describes f k) :
    Describes (earliest f) ((Pattern.fewStar anything).go k) := by
  intro d s
  show (patiently anything k s.length (plain d s)).map Cursor.after = _
  induction s generalizing d with
  | nil => exact h d []
  | cons c s ih =>
    have hk := h d (c :: s)
    have hnext : (plain d (c :: s)).next? anything = some (plain (.char c :: d) s) := rfl
    rw [List.length_cons, patiently, hnext, earliest]
    cases hf : f (c :: s) with
    | none =>
      rw [h.eq_none_iff.2 hf, Option.none_or]
      exact ih _
    | some r =>
      rw [hf] at hk
      obtain ⟨e, he, -⟩ := Option.map_eq_some_iff.1 hk
      rw [he] at hk ⊢
      exact hk

/-! ### Choices and places -/

theorem Describes.alt (ha : Describes f (a.go k)) (hb : Describes g (b.go k)) :
    Describes (fun s => (f s).or (g s)) ((Pattern.alt a b).go k) := by
  intro d s
  have hk := ha d s
  rw [go]
  dsimp only
  cases hf : f s with
  | none =>
    rw [ha.eq_none_iff.2 hf, Option.none_or]
    exact hb d s
  | some r =>
    rw [hf] at hk
    obtain ⟨e, he, -⟩ := Option.map_eq_some_iff.1 hk
    rw [he] at hk ⊢
    exact hk

theorem Describes.draftEnd (h : Describes f k) :
    Describes (fun s => if s = [] then f s else none) (draftEnd.go k) := by
  intro d s
  cases s with
  | nil => exact h d []
  | cons c s => rfl

/-- A pattern for the start of a draft matches nowhere else. -/
theorem findFrom?_here_atStart (a : Pattern) (n : Nat) {c : Cursor} (hc : c.atStart = false) :
    (seq (here Cursor.atStart) a).findFrom? n c = none := by
  have hmatch : ∀ {c : Cursor}, c.atStart = false →
      (seq (here Cursor.atStart) a).matchAt? c = none := by
    intro c hc
    rw [matchAt?, go, go, hc]
    rfl
  induction n generalizing c with
  | zero => exact hmatch hc
  | succ n ih =>
    rw [findFrom?, hmatch hc]
    unfold Cursor.next?
    cases c.after with
    | nil => rfl
    | cons g r => exact ih rfl

/-! ### Cutting out a match -/

/-- The text without the first match of a pattern. -/
def cutFirst (p : Pattern) (s : Text) : Text :=
  match p.find? (.ofText s) with
  | some m => Draft.settle (m.front ++ m.rest)
  | none => s

/-- A match at the start of a text is cut out by going on behind it. -/
theorem Describes.cutFirst (h : Describes f (a.go some)) (s : Text) :
    (seq (here Cursor.atStart) a).cutFirst s = (f s).getD s := by
  have hgo : (seq (here Cursor.atStart) a).matchAt? (plain [] s) =
      (a.go some (plain [] s)).map fun d => ⟨plain [] s, d⟩ := rfl
  have hs := h [] s
  unfold Pattern.cutFirst find?
  rw [Cursor.start_ofText]
  cases hf : f s with
  | none =>
    have hnone : (seq (here Cursor.atStart) a).matchAt? (plain [] s) = none := by
      rw [hgo, h.eq_none_iff.2 hf]
      rfl
    have hfind : (seq (here Cursor.atStart) a).findFrom? (Draft.ofText s).length (plain [] s) =
        none := by
      cases s with
      | nil => exact hnone
      | cons c s =>
        show findFrom? _ ((Draft.ofText s).length + 1) _ = none
        rw [findFrom?, hnone]
        exact findFrom?_here_atStart a _ rfl
    rw [hfind]
    rfl
  | some r =>
    rw [hf] at hs
    obtain ⟨e, he, hr⟩ := Option.map_eq_some_iff.1 hs
    have hsome : (seq (here Cursor.atStart) a).findFrom? (Draft.ofText s).length (plain [] s) =
        some ⟨plain [] s, e⟩ := by
      cases s with
      | nil => exact hgo.trans (by rw [he]; rfl)
      | cons c s =>
        show findFrom? _ ((Draft.ofText s).length + 1) _ = _
        rw [findFrom?, hgo, he]
        rfl
    rw [hsome]
    show Draft.settle (([] : Draft) ++ e.after) = r
    rw [hr]
    exact Draft.settle_ofText r

end Pattern

end PromptPress.Markdown

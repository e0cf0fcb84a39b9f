import PromptPress.Template.Render
import PromptPress.Proofs.Compiler.Artifact
import PromptPress.Proofs.Placeholder.Declaration
import Mathlib.Data.List.Forall2

/-!
# Which slots are interpolated

A template is made of a text and the placeholders that are extracted from it.  A slot is filled if
its own spelling was extracted (`placeholderOf?_ofText`), and a declaration is extracted in the
spelling that comes first.  So the slots of a text are all filled if and only if the text does not
mix the spellings of a declaration (`not_mixesSpellings_iff`); where it does, the later spelling
stays behind as literal text.
-/

namespace PromptPress

namespace Slot

/-- Is one type of one name given by its mark in one slot of the text, and by its name in
another? -/
def MixesSpellings (s : Text) : Prop :=
  ∃ n m t, m.typeName? = some t ∧ ⟨n, .modifier m⟩ ∈ all s ∧ ⟨n, .declared t⟩ ∈ all s

/-- A text mixes spellings if and only if one of its slots is not extracted as it is spelled. -/
theorem not_mixesSpellings_iff {s : Text} :
    ¬ MixesSpellings s ↔ ∀ w ∈ all s, w.placeholder ∈ Placeholder.ofText s := by
  constructor
  · intro h w hw
    by_contra hn
    obtain ⟨v, hv, hp, hc⟩ := Placeholder.exists_mem_ofText hw
    rcases eq_or_respelled hc with rfl | ⟨n, m, t, hm, ⟨rfl, rfl⟩ | ⟨rfl, rfl⟩⟩
    · exact hn hp
    · exact h ⟨n, m, t, hm, hv, hw⟩
    · exact h ⟨n, m, t, hm, hw, hv⟩
  · rintro h ⟨n, m, t, hm, ha, hb⟩
    have hc : canonical ⟨n, .modifier m⟩ = canonical ⟨n, .declared t⟩ := by
      rw [canonical, canonical, Mark.canonical, hm]
      rfl
    have := Placeholder.eq_of_mem_ofText ha hb (h _ ha) (h _ hb) hc
    simp at this

end Slot

namespace Template

/-! ### The placeholder of a slot -/

theorem mem_of_placeholderOf? {ps : List Placeholder} {w : Slot} {p : Placeholder}
    (h : placeholderOf? ps w = some p) : p ∈ ps ∧ p.raw = w.written :=
  ⟨List.mem_of_find?_eq_some h, by simpa using List.find?_some h⟩

/-- A slot of the text can stand only for its own placeholder. -/
theorem eq_of_placeholderOf?_ofText {s : Text} {w : Slot} {p : Placeholder} (hw : w ∈ Slot.all s)
    (h : placeholderOf? (Placeholder.ofText s) w = some p) : p = w.placeholder := by
  obtain ⟨hp, hr⟩ := mem_of_placeholderOf? h
  obtain ⟨v, hv, rfl⟩ := Placeholder.mem_ofText hp
  rw [Slot.written_inj (Slot.wellFormed_of_mem_all hv) (Slot.wellFormed_of_mem_all hw) hr]

/-- **A slot is filled if and only if its own spelling was extracted.** -/
theorem placeholderOf?_ofText {s : Text} {w : Slot} (hw : w ∈ Slot.all s) :
    placeholderOf? (Placeholder.ofText s) w =
      if w.placeholder ∈ Placeholder.ofText s then some w.placeholder else none := by
  cases h : placeholderOf? (Placeholder.ofText s) w with
  | some p =>
    obtain rfl := eq_of_placeholderOf?_ofText hw h
    rw [if_pos (mem_of_placeholderOf? h).1]
  | none =>
    rw [if_neg]
    intro hm
    have := List.find?_eq_none.1 h _ hm
    exact this (beq_self_eq_true w.written)

/-! ### Segments and slots -/

theorem items_segments (s : Text) (ps : List Placeholder) :
    Run.items (segments s ps) = (Slot.all s).filterMap (placeholderOf? ps) := by
  rw [segments, Run.items_group, Slot.all_eq]
  induction Slot.atoms s with
  | nil => rfl
  | cons a as ih =>
    rw [List.flatMap_cons, List.filterMap_append, ih]
    cases a with
    | char c => rfl
    | item w =>
      rw [List.filterMap_cons_some (show Atom.item? (.item w) = some w from rfl),
        List.filterMap_cons, fill]
      cases placeholderOf? ps w with
      | some p => rfl
      | none => simp [Atom.item?, Function.comp_def]

theorem mem_of_item_mem_segments {s : Text} {ps : List Placeholder} {p : Placeholder}
    (h : .item p ∈ segments s ps) : p ∈ ps := by
  rw [← Run.mem_items, items_segments] at h
  obtain ⟨w, -, hw⟩ := List.mem_filterMap.1 h
  exact (mem_of_placeholderOf? hw).1

/-- **Segments spell the text that they were made from.** -/
theorem flatMap_spell_segments (s : Text) (ps : List Placeholder) :
    (segments s ps).flatMap (Run.spell id Placeholder.raw) = s := by
  have hfill : ∀ a, (fill ps a).flatMap (Atom.spell Placeholder.raw) = a.spell Slot.written := by
    intro a
    cases a with
    | char c => rfl
    | item w =>
      rw [fill]
      cases h : placeholderOf? ps w with
      | some p =>
        have hr := (mem_of_placeholderOf? h).2
        simpa [Atom.spell] using hr
      | none => simp [Atom.spell, List.flatMap_map]
  rw [segments, Run.flatMap_spell_group, List.flatMap_assoc]
  simp only [hfill]
  exact Slot.flatMap_spell_atoms s

/-- The slots that are filled are those whose own spelling was extracted, in order. -/
theorem items_segments_ofText (s : Text) :
    Run.items (segments s (Placeholder.ofText s)) =
      ((Slot.all s).map Slot.placeholder).filter (· ∈ Placeholder.ofText s) := by
  rw [items_segments, List.filterMap_congr fun w hw => placeholderOf?_ofText hw]
  induction Slot.all s with
  | nil => rfl
  | cons w ws ih =>
    rw [List.filterMap_cons, List.map_cons, List.filter_cons, ih]
    by_cases h : w.placeholder ∈ Placeholder.ofText s <;> simp [h]

/-- Each placeholder of a text stands in one of its segments. -/
theorem item_mem_segments_iff {s : Text} {p : Placeholder} :
    .item p ∈ segments s (Placeholder.ofText s) ↔ p ∈ Placeholder.ofText s := by
  refine ⟨mem_of_item_mem_segments, fun h => ?_⟩
  obtain ⟨w, hw, rfl⟩ := Placeholder.mem_ofText h
  rw [← Run.mem_items, items_segments_ofText, List.mem_filter]
  exact ⟨List.mem_map_of_mem hw, by simpa using h⟩

/-- A slot that is not filled stands in literal text. -/
theorem exists_literal_of_placeholderOf?_eq_none {s : Text} {ps : List Placeholder} {w : Slot}
    (hw : w ∈ Slot.all s) (h : placeholderOf? ps w = none) :
    ∃ t, .literal t ∈ segments s ps ∧ Slot.OccursIn t := by
  obtain ⟨as, bs, he⟩ := List.append_of_mem (Slot.mem_all.1 hw)
  have hi : w.written.map .char <:+: (Slot.atoms s).flatMap (fill ps) := by
    refine ⟨as.flatMap (fill ps), bs.flatMap (fill ps), ?_⟩
    rw [he, List.flatMap_append, List.flatMap_cons, fill, h, List.append_assoc]
  obtain ⟨t, ht, hwt⟩ := Run.exists_literal_of_infix w.written_ne_nil hi
  exact ⟨t, ht, w, Slot.wellFormed_of_mem_all hw, hwt⟩

/-- Where every slot is filled, the segments are the runs of the text. -/
theorem segments_eq_map {s : Text} {ps : List Placeholder}
    (h : ∀ w ∈ Slot.all s, placeholderOf? ps w = some w.placeholder) :
    segments s ps = (Run.group (Slot.atoms s)).map (Run.map Slot.placeholder) := by
  rw [← Run.group_map, segments, List.map_eq_flatMap]
  refine congrArg Run.group (List.flatMap_congr fun a ha => ?_)
  cases a with
  | char c => rfl
  | item w => rw [fill, h w (Slot.mem_all.2 ha)]; rfl

/-! ### What becomes of the tokens -/

/-- Does a token become this segment?  Literal text stays as it is, and a slot becomes a placeholder
that declares the same. -/
def Becomes : Run Slot → Segment → Prop
  | .literal t, .literal u => u = t
  | .item w, .item p => p.declaration = w.placeholder.declaration
  | _, _ => False

theorem becomes_map (r : Run Slot) : Becomes r (r.map Slot.placeholder) := by
  cases r <;> rfl

/-- Only literal text becomes literal text. -/
theorem literal_mem_of_becomes {rs : List (Run Slot)} {gs : List Segment}
    (h : List.Forall₂ Becomes rs gs) {t : Text} (ht : .literal t ∈ gs) : .literal t ∈ rs := by
  induction h with
  | nil => simp at ht
  | @cons r g rs gs hb _ ih =>
    rcases List.mem_cons.1 ht with rfl | ht
    · cases r with
      | item w => exact hb.elim
      | literal u =>
        obtain rfl : t = u := hb
        exact List.mem_cons_self
    · exact List.mem_cons_of_mem _ (ih ht)

end Template

theorem Token.map_run_place (n : Nat) (rs : List (Run Slot)) :
    (Token.place n rs).map Token.run = rs := by
  induction rs generalizing n with
  | nil => rfl
  | cons r rs ih => rw [Token.place, List.map_cons, ih]

namespace Artifact

/-- Does each token of the text, in its turn, become a segment of the template? -/
def FillsEverySlot (a : Artifact) : Prop :=
  List.Forall₂ (fun k g => Template.Becomes k.run g) (Token.scan a.text) a.segments

/-- Is there no slot in the literal text of the template? -/
def LeavesNoSlot (a : Artifact) : Prop := ∀ t, .literal t ∈ a.segments → ¬ Slot.OccursIn t

theorem fillsEverySlot_iff (a : Artifact) : a.FillsEverySlot ↔
    List.Forall₂ Template.Becomes (Run.group (Slot.atoms a.text)) a.segments := by
  have h := Token.map_run_place 0 (Run.group (Slot.atoms a.text))
  rw [← h, List.forall₂_map_left_iff]
  rfl

theorem FillsEverySlot.leavesNoSlot {a : Artifact} (h : a.FillsEverySlot) : a.LeavesNoSlot := by
  rw [fillsEverySlot_iff] at h
  exact fun t ht => Slot.not_occursIn_of_literal_mem (Template.literal_mem_of_becomes h ht)

theorem LeavesNoSlot.not_mixesSpellings {t : Target} {s : Text}
    (h : (ofText t s (Placeholder.ofText s)).LeavesNoSlot) : ¬ Slot.MixesSpellings s := by
  refine Slot.not_mixesSpellings_iff.2 fun w hw => ?_
  by_contra hn
  have hnone := Template.placeholderOf?_ofText hw
  rw [if_neg hn] at hnone
  obtain ⟨u, hu, ho⟩ := Template.exists_literal_of_placeholderOf?_eq_none hw hnone
  exact h u hu ho

theorem fillsEverySlot_of_not_mixesSpellings (t : Target) {s : Text}
    (h : ¬ Slot.MixesSpellings s) : (ofText t s (Placeholder.ofText s)).FillsEverySlot := by
  have hall : ∀ w ∈ Slot.all s,
      Template.placeholderOf? (Placeholder.ofText s) w = some w.placeholder := fun w hw => by
    rw [Template.placeholderOf?_ofText hw, if_pos (Slot.not_mixesSpellings_iff.1 h w hw)]
  rw [fillsEverySlot_iff]
  change List.Forall₂ _ (Run.group (Slot.atoms s)) (Template.segments s (Placeholder.ofText s))
  rw [Template.segments_eq_map hall, List.forall₂_map_right_iff, List.forall₂_same]
  exact fun r _ => Template.becomes_map r

/-- The two ways to say that nothing is left out, each with its exact condition. -/
theorem fills_and_leaves_iff (t : Target) (s : Text) :
    ((ofText t s (Placeholder.ofText s)).FillsEverySlot ↔ ¬ Slot.MixesSpellings s) ∧
      ((ofText t s (Placeholder.ofText s)).LeavesNoSlot ↔ ¬ Slot.MixesSpellings s) :=
  ⟨⟨fun h => h.leavesNoSlot.not_mixesSpellings, fillsEverySlot_of_not_mixesSpellings t⟩,
    fun h => h.not_mixesSpellings,
    fun h => (fillsEverySlot_of_not_mixesSpellings t h).leavesNoSlot⟩

/-- **Every slot is interpolated if and only if the text mixes no spellings.**  The slots that are
interpolated are always those that are extracted in their own spelling.  All of them are, and no
slot is left in literal text, exactly where no type is given both by its mark and by its name.  The
same holds of every artifact that is compiled from a document. -/
theorem interpolated_iff_not_mixesSpellings (t : Target) (s : Text) :
    Run.items (ofText t s (Placeholder.ofText s)).segments =
        ((Slot.all s).map Slot.placeholder).filter (· ∈ Placeholder.ofText s) ∧
      ((ofText t s (Placeholder.ofText s)).FillsEverySlot ↔ ¬ Slot.MixesSpellings s) ∧
      ((ofText t s (Placeholder.ofText s)).LeavesNoSlot ↔ ¬ Slot.MixesSpellings s) ∧
      ∀ (c : Compiler) (source : Json) (o : Option PlainText.Options) (n : Option Text)
        (p : Workspace),
        match ((c.withOwnPlaceholders.compileFor t source o n).exec p).1 with
        | .ok a => (a.FillsEverySlot ↔ ¬ Slot.MixesSpellings a.text) ∧
            (a.LeavesNoSlot ↔ ¬ Slot.MixesSpellings a.text)
        | .error _ => True := by
  obtain ⟨hfills, hleaves⟩ := fills_and_leaves_iff t s
  refine ⟨Template.items_segments_ofText s, hfills, hleaves, ?_⟩
  intro c source o n p
  rcases h : (c.withOwnPlaceholders.compileFor t source o n).exec p with ⟨e | a, q⟩
  · trivial
  · obtain ⟨u, rfl⟩ := Compiler.ofText_of_compileFor h
    exact fills_and_leaves_iff t u

/-- A number that is marked first and named later. -/
example : body .typescript "\x7bage#\x7d then \x7bage:number\x7d"
    (Placeholder.ofText "\x7bage#\x7d then \x7bage:number\x7d") =
      "$\x7bvars.age\x7d then \x7bage:number\x7d" := by decide

end Artifact

end PromptPress

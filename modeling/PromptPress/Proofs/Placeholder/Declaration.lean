import PromptPress.Placeholder.Extract
import PromptPress.Proofs.Slot.Occurrence
import Mathlib.Data.List.Nodup

/-!
# Declarations and their spellings

A slot declares a name, whether a value may be left out, and a type.  The three marks for types are
shorthand: `canonical` spells the type by its name instead, and the key of a slot's placeholder is
the spelling of its canonical form (`written_canonical`).  So two slots have one key if and only if
they declare the same (`key_eq_iff`, `canonical_eq_iff`), and then they are the same slot, unless
one gives the type by its mark and the other by its name (`eq_or_respelled`).

The extracted placeholders are some of those that the text declares, in order
(`firstsFrom_sublist`).  They are the first one of each key: keys do not repeat
(`nodup_keys_firstsFrom`) and none is missing (`exists_key_mem_firstsFrom`).
-/

namespace PromptPress

/-- What a placeholder declares, however it is spelled. -/
def Placeholder.declaration (p : Placeholder) : Text × Bool × Option Text :=
  (p.name, p.optional, p.typeName)

/-! ### Canonical spelling -/

/-- The mark with a type given by its name. -/
def Mark.canonical : Mark → Mark
  | .modifier m =>
    match m.typeName? with
    | some t => .declared t
    | none => .modifier m
  | m => m

/-- No two marks stand for one type. -/
theorem Modifier.typeName?_inj {j k : Modifier} {t : Text} (hj : j.typeName? = some t)
    (hk : k.typeName? = some t) : j = k := by
  have h : j.typeName? = k.typeName? := hj.trans hk.symm
  revert h hj
  cases j <;> cases k <;> first | (intro _ _; rfl) | (intro _ h; exact absurd h (by decide))

/-- A mark is canonical already, or it is shorthand for a type. -/
theorem Mark.canonical_eq_self_or (x : Mark) : x.canonical = x ∨
    ∃ m t, m.typeName? = some t ∧ x = .modifier m ∧ x.canonical = .declared t := by
  cases x with
  | plain => exact Or.inl rfl
  | declared t => exact Or.inl rfl
  | modifier m =>
    cases h : m.typeName? with
    | none => exact Or.inl (by rw [canonical, h])
    | some t => exact Or.inr ⟨m, t, h, rfl, by rw [canonical, h]⟩

namespace Slot

/-- The slot with its type given by its name. -/
def canonical (w : Slot) : Slot := ⟨w.name, w.mark.canonical⟩

theorem WellFormed.canonical {w : Slot} (h : w.WellFormed) : w.canonical.WellFormed := by
  refine ⟨h.name, ?_⟩
  obtain ⟨n, m⟩ := w
  cases m with
  | plain => exact True.intro
  | declared t => exact h.mark
  | modifier k =>
    cases k with
    | optional => exact True.intro
    | number => exact (by decide : IsTypeName ValueType.number.name)
    | boolean => exact (by decide : IsTypeName ValueType.boolean.name)
    | json => exact (by decide : IsTypeName ValueType.json.name)

/-- The key of a slot's placeholder is what stands between the braces of its canonical form. -/
theorem key_placeholder {w : Slot} (h : w.WellFormed) :
    w.placeholder.key = w.name ++ w.mark.canonical.written := by
  obtain ⟨n, m⟩ := w
  rw [Placeholder.key, List.append_assoc]
  cases m with
  | plain => rfl
  | modifier k => cases k <;> rfl
  | declared t =>
    have ht : IsTypeName t := h.mark
    obtain ⟨c, u, rfl⟩ := List.exists_cons_of_ne_nil ht.1
    rfl

theorem written_canonical {w : Slot} (h : w.WellFormed) :
    w.canonical.written = '{' :: w.placeholder.key ++ ['}'] := by
  rw [key_placeholder h, written, canonical, List.cons_append]

/-- **A key stands for one declaration.** -/
theorem key_eq_iff {a b : Slot} (ha : a.WellFormed) (hb : b.WellFormed) :
    a.placeholder.key = b.placeholder.key ↔ a.canonical = b.canonical := by
  constructor
  · intro h
    refine written_inj ha.canonical hb.canonical ?_
    rw [written_canonical ha, written_canonical hb, h]
  · intro h
    have hw := written_canonical ha
    rw [h, written_canonical hb] at hw
    simpa using hw.symm

theorem declaration_canonical (w : Slot) :
    w.canonical.placeholder.declaration = w.placeholder.declaration := by
  obtain ⟨n, m⟩ := w
  cases m with
  | plain => rfl
  | declared t => rfl
  | modifier k => cases k <;> rfl

/-- The canonical slot of a declaration. -/
def declaring (d : Text × Bool × Option Text) : Slot :=
  ⟨d.1,
    match d.2 with
    | (_, some t) => .declared t
    | (true, none) => .modifier .optional
    | (false, none) => .plain⟩

theorem canonical_eq_declaring (w : Slot) : w.canonical = declaring w.placeholder.declaration := by
  obtain ⟨n, m⟩ := w
  cases m with
  | plain => rfl
  | declared t => rfl
  | modifier k => cases k <;> rfl

theorem canonical_eq_iff {a b : Slot} : a.canonical = b.canonical ↔
    a.placeholder.declaration = b.placeholder.declaration := by
  constructor
  · intro h
    rw [← declaration_canonical, h, declaration_canonical]
  · intro h
    rw [canonical_eq_declaring, h, ← canonical_eq_declaring]

/-- Two spellings of one declaration differ at most in how the type is given. -/
theorem eq_or_respelled {a b : Slot} (h : a.canonical = b.canonical) :
    a = b ∨ ∃ n m t, m.typeName? = some t ∧
      ((a = ⟨n, .modifier m⟩ ∧ b = ⟨n, .declared t⟩) ∨
        (b = ⟨n, .modifier m⟩ ∧ a = ⟨n, .declared t⟩)) := by
  obtain ⟨n, x⟩ := a
  obtain ⟨n', y⟩ := b
  obtain ⟨rfl, hm⟩ : n = n' ∧ x.canonical = y.canonical := by simpa [canonical] using h
  rcases x.canonical_eq_self_or with hx | ⟨j, t, hj, rfl, hx⟩
  · rcases y.canonical_eq_self_or with hy | ⟨k, u, hk, rfl, hy⟩
    · exact Or.inl (by rw [← hx, ← hy, hm])
    · exact Or.inr ⟨n, k, u, hk, Or.inr ⟨rfl, by rw [← hx, hm, hy]⟩⟩
  · rcases y.canonical_eq_self_or with hy | ⟨k, u, hk, rfl, hy⟩
    · exact Or.inr ⟨n, j, t, hj, Or.inl ⟨rfl, by rw [← hy, ← hm, hx]⟩⟩
    · obtain rfl : t = u := by simpa [hx, hy] using hm
      exact Or.inl (by rw [Modifier.typeName?_inj hj hk])

end Slot

/-! ### The first of each key -/

namespace Placeholder

theorem firstsFrom_sublist (seen : List Text) (ps : List Placeholder) :
    (firstsFrom seen ps).Sublist ps := by
  induction ps generalizing seen with
  | nil => exact List.Sublist.refl _
  | cons p ps ih =>
    rw [firstsFrom]
    split
    · exact (ih seen).cons p
    · exact (ih _).cons_cons p

theorem mem_of_mem_firstsFrom {seen : List Text} {p : Placeholder} {ps : List Placeholder}
    (h : p ∈ firstsFrom seen ps) : p ∈ ps := (firstsFrom_sublist seen ps).subset h

theorem key_notMem_of_mem_firstsFrom {seen : List Text} {p : Placeholder} {ps : List Placeholder}
    (h : p ∈ firstsFrom seen ps) : p.key ∉ seen := by
  induction ps generalizing seen with
  | nil => simp [firstsFrom] at h
  | cons q ps ih =>
    rw [firstsFrom] at h
    split at h
    · exact ih h
    · rename_i hq
      rcases List.mem_cons.1 h with rfl | h
      · simpa using hq
      · exact fun hm => ih h (List.mem_cons_of_mem _ hm)

/-- Keys do not repeat. -/
theorem nodup_keys_firstsFrom (seen : List Text) (ps : List Placeholder) :
    ((firstsFrom seen ps).map key).Nodup := by
  induction ps generalizing seen with
  | nil => exact List.nodup_nil
  | cons p ps ih =>
    rw [firstsFrom]
    split
    · exact ih seen
    · rw [List.map_cons, List.nodup_cons]
      refine ⟨?_, ih _⟩
      intro hp
      obtain ⟨q, hq, he⟩ := List.mem_map.1 hp
      exact key_notMem_of_mem_firstsFrom hq (he ▸ List.mem_cons_self)

theorem key_inj_firstsFrom {seen : List Text} {p q : Placeholder} {ps : List Placeholder}
    (hp : p ∈ firstsFrom seen ps) (hq : q ∈ firstsFrom seen ps) (h : p.key = q.key) : p = q :=
  List.inj_on_of_nodup_map (nodup_keys_firstsFrom seen ps) hp hq h

/-- No key is missing. -/
theorem exists_key_mem_firstsFrom {seen : List Text} {p : Placeholder} {ps : List Placeholder}
    (h : p ∈ ps) (hs : p.key ∉ seen) : ∃ q ∈ firstsFrom seen ps, q.key = p.key := by
  induction ps generalizing seen with
  | nil => simp at h
  | cons r ps ih =>
    rw [firstsFrom]
    by_cases hr : seen.contains r.key = true
    · rw [if_pos hr]
      rcases List.mem_cons.1 h with rfl | h
      · exact absurd (by simpa using hr) hs
      · exact ih h hs
    · rw [if_neg hr]
      by_cases hk : p.key = r.key
      · exact ⟨r, List.mem_cons_self, hk.symm⟩
      · rcases List.mem_cons.1 h with rfl | h
        · exact absurd rfl hk
        · have hsr : p.key ∉ r.key :: seen := by simp [hk, hs]
          obtain ⟨q, hq, he⟩ := ih h hsr
          exact ⟨q, List.mem_cons_of_mem _ hq, he⟩

/-! ### The placeholders of a text -/

theorem mem_ofText {s : Text} {p : Placeholder} (h : p ∈ ofText s) :
    ∃ w ∈ Slot.all s, w.placeholder = p :=
  List.mem_map.1 (mem_of_mem_firstsFrom h)

theorem isName_of_mem_ofText {s : Text} {p : Placeholder} (h : p ∈ ofText s) :
    Slot.IsName p.name := by
  obtain ⟨w, hw, rfl⟩ := mem_ofText h
  exact (Slot.wellFormed_of_mem_all hw).name

/-- A slot that is extracted is the one that its declaration is known by. -/
theorem eq_of_mem_ofText {s : Text} {a b : Slot} (ha : a ∈ Slot.all s) (hb : b ∈ Slot.all s)
    (hpa : a.placeholder ∈ ofText s) (hpb : b.placeholder ∈ ofText s)
    (h : a.canonical = b.canonical) : a = b := by
  have hwa := Slot.wellFormed_of_mem_all ha
  have hwb := Slot.wellFormed_of_mem_all hb
  have hp := key_inj_firstsFrom hpa hpb ((Slot.key_eq_iff hwa hwb).2 h)
  exact Slot.written_inj hwa hwb (congrArg Placeholder.raw hp)

/-- Every slot declares what an extracted slot declares. -/
theorem exists_mem_ofText {s : Text} {w : Slot} (h : w ∈ Slot.all s) :
    ∃ v ∈ Slot.all s, v.placeholder ∈ ofText s ∧ v.canonical = w.canonical := by
  have hm : w.placeholder ∈ (Slot.all s).map Slot.placeholder := List.mem_map_of_mem h
  obtain ⟨q, hq, hk⟩ := exists_key_mem_firstsFrom hm (List.not_mem_nil)
  obtain ⟨v, hv, rfl⟩ := mem_ofText hq
  exact ⟨v, hv, hq,
    (Slot.key_eq_iff (Slot.wellFormed_of_mem_all hv) (Slot.wellFormed_of_mem_all h)).1 hk⟩

end Placeholder

end PromptPress

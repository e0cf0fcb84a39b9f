import PromptPress.Placeholder.Diagnosis
import Mathlib.Data.List.Induction
import Mathlib.Data.List.Nodup
import Mathlib.Data.List.Perm.Basic

/-!
# What the warnings say

The warnings about a list of placeholders are those about unknown types, one for each placeholder
that has one, and then those about names in several forms.  `Repeated` says of a list of names,
without a look at how they are found, that they are those which two or more placeholders have, each
once and in the order of its first occurrence.  Only one list is like that, and its names are the
ones that are reported (`repeated_iff`, `warnings_eq`).

A warning of one kind is never one of the other, so the warnings alone tell whether a name is
repeated (`reportsConflict_warnings_iff`).
-/

namespace PromptPress.Placeholder

variable {n : Text} {ns : List Text} {ps : List Placeholder}

/-! ### Names in the order of their first occurrence -/

theorem names_concat (ps : List Placeholder) (p : Placeholder) :
    names (ps ++ [p]) = if p.name ∈ names ps then names ps else names ps ++ [p.name] := by
  simp [names, List.foldl_append]

theorem mem_names : n ∈ names ps ↔ n ∈ ps.map (·.name) := by
  induction ps using List.reverseRecOn with
  | nil => exact Iff.rfl
  | append_singleton ps p ih =>
    rw [names_concat, List.map_append, List.mem_append, List.map_singleton, List.mem_singleton]
    split_ifs with hp
    · rw [ih]
      refine ⟨Or.inl, ?_⟩
      rintro (h | rfl)
      · exact h
      · exact ih.1 hp
    · rw [List.mem_append, List.mem_singleton, ih]

theorem nodup_names (ps : List Placeholder) : (names ps).Nodup := by
  induction ps using List.reverseRecOn with
  | nil => exact List.nodup_nil
  | append_singleton ps p ih =>
    rw [names_concat]
    split_ifs with hp
    · exact ih
    · exact List.nodup_append.2 ⟨ih, List.nodup_singleton _, by
        rintro a ha b hb rfl
        exact hp (List.mem_singleton.1 hb ▸ ha)⟩

/-- The names stand in the order in which they first occur. -/
theorem pairwise_names (ps : List Placeholder) : (names ps).Pairwise fun m n =>
    (ps.map (·.name)).idxOf m < (ps.map (·.name)).idxOf n := by
  induction ps using List.reverseRecOn with
  | nil => exact List.Pairwise.nil
  | append_singleton ps p ih =>
    -- one more placeholder behind them does not move the first occurrences
    have hkeep : (names ps).Pairwise fun m n =>
        ((ps ++ [p]).map (·.name)).idxOf m < ((ps ++ [p]).map (·.name)).idxOf n := by
      refine ih.imp_of_mem fun hm hn hlt => ?_
      rwa [List.map_append, List.idxOf_append_of_mem (mem_names.1 hm),
        List.idxOf_append_of_mem (mem_names.1 hn)]
    rw [names_concat]
    split_ifs with hp
    · exact hkeep
    · refine List.pairwise_append.2 ⟨hkeep, List.pairwise_singleton _ _, ?_⟩
      intro m hm n hn
      obtain rfl := List.mem_singleton.1 hn
      rw [List.map_append, List.idxOf_append_of_mem (mem_names.1 hm),
        List.idxOf_append_of_notMem fun h => hp (mem_names.2 h)]
      exact Nat.lt_of_lt_of_le (List.idxOf_lt_length_of_mem (mem_names.1 hm)) (Nat.le_add_right _ _)

/-! ### Names in several forms -/

/-- The names are those that two or more of the placeholders have, in the order in which they first
occur. -/
structure Repeated (ps : List Placeholder) (ns : List Text) : Prop where
  distinct : ns.Nodup
  mem_iff : ∀ n, n ∈ ns ↔ 2 ≤ (ps.map (·.name)).count n
  ordered : ns.Pairwise fun m n => (ps.map (·.name)).idxOf m < (ps.map (·.name)).idxOf n

theorem Repeated.eq {ms : List Text} (h : Repeated ps ns) (h' : Repeated ps ms) : ns = ms := by
  have hperm : ns.Perm ms := (List.perm_ext_iff_of_nodup h.distinct h'.distinct).2 fun n => by
    rw [h.mem_iff, h'.mem_iff]
  refine hperm.eq_of_pairwise ?_ h.ordered h'.ordered
  intro m n _ _ hmn hnm
  exact absurd hnm (Nat.lt_asymm hmn)

/-- The names that are reported. -/
def repeatedNames (ps : List Placeholder) : List Text :=
  (names ps).filter fun n => 1 < (rawsOf n ps).length

theorem length_rawsOf (n : Text) (ps : List Placeholder) :
    (rawsOf n ps).length = (ps.map (·.name)).count n := by
  rw [rawsOf, List.length_map, ← List.countP_eq_length_filter, List.count, List.countP_map]
  rfl

theorem repeated_repeatedNames (ps : List Placeholder) : Repeated ps (repeatedNames ps) where
  distinct := (nodup_names ps).filter _
  mem_iff n := by
    rw [repeatedNames, List.mem_filter, mem_names, decide_eq_true_eq, length_rawsOf]
    constructor
    · exact And.right
    · intro h
      exact ⟨List.count_pos_iff.1 (Nat.lt_of_lt_of_le Nat.zero_lt_two h), h⟩
  ordered := (pairwise_names ps).filter _

/-- **The reported names are the repeated ones.** -/
theorem repeated_iff : Repeated ps ns ↔ ns = repeatedNames ps := by
  constructor
  · intro h
    exact h.eq (repeated_repeatedNames ps)
  · rintro rfl
    exact repeated_repeatedNames ps

theorem severalForms_eq (ps : List Placeholder) : severalForms ps =
    (repeatedNames ps).map fun n => severalFormsWarning n (rawsOf n ps) := by
  rw [repeatedNames, ← List.filterMap_eq_map, List.filterMap_filter, severalForms]
  simp only [decide_eq_true_eq, Function.comp_def]

theorem repeatedNames_eq_nil_iff : repeatedNames ps = [] ↔ (ps.map (·.name)).Nodup := by
  rw [List.nodup_iff_count_le_one, List.eq_nil_iff_forall_not_mem]
  refine forall_congr' fun n => ?_
  rw [(repeated_repeatedNames ps).mem_iff]
  omega

/-! ### Unknown types -/

/-- Is a type declared that is none of the known ones? -/
def declaresUnknown (p : Placeholder) : Bool :=
  match p.typeName with
  | some t => !(ValueType.all.map ValueType.name).contains t
  | none => false

theorem ofName?_eq_none_iff {t : Text} :
    ValueType.ofName? t = none ↔ t ∉ ValueType.all.map ValueType.name := by
  rw [ValueType.ofName?, List.find?_eq_none]
  simp

/-- The type is unknown just where a declared name is none of the known ones. -/
theorem type_eq (p : Placeholder) : p.type =
    if p.declaresUnknown then .unknown (p.typeName.getD [])
    else .known ((p.typeName.bind ValueType.ofName?).getD .string) := by
  unfold type declaresUnknown TypeTag.ofDeclared
  cases p.typeName with
  | none => rfl
  | some t =>
    cases h : ValueType.ofName? t with
    | none =>
      have ht := ofName?_eq_none_iff.1 h
      simp [ht, h]
    | some v =>
      have ht : t ∈ ValueType.all.map ValueType.name := by
        by_contra hn
        rw [ofName?_eq_none_iff.2 hn] at h
        cases h
      simp [ht, h]

theorem unknownTypes_eq (ps : List Placeholder) : unknownTypes ps =
    (ps.filter declaresUnknown).map fun p => unknownTypeWarning p (p.typeName.getD []) := by
  rw [← List.filterMap_eq_map, List.filterMap_filter, unknownTypes]
  refine List.filterMap_congr fun p _ => ?_
  rw [type_eq]
  split_ifs <;> rfl

/-! ### The warnings -/

/-- **The warnings are those about unknown types and then those about repeated names.** -/
theorem warnings_eq (ps : List Placeholder) : warnings ps =
    ((ps.filter declaresUnknown).map fun p => unknownTypeWarning p (p.typeName.getD [])) ++
      (repeatedNames ps).map fun n => severalFormsWarning n (rawsOf n ps) := by
  rw [warnings, unknownTypes_eq, severalForms_eq]

/-- Is one of the warnings about a name in several forms? -/
def ReportsConflict (ws : List Text) : Prop := ∃ n raws, severalFormsWarning n raws ∈ ws

theorem unknownTypeWarning_ne (p : Placeholder) (t n : Text) (raws : List Text) :
    unknownTypeWarning p t ≠ severalFormsWarning n raws := by
  intro h
  have hhead : some 'U' = some 'P' := congrArg List.head? h
  exact absurd hhead (by decide)

/-- **A conflict is reported if and only if** two placeholders have one name. -/
theorem reportsConflict_warnings_iff :
    ReportsConflict (warnings ps) ↔ ¬ (ps.map (·.name)).Nodup := by
  rw [← repeatedNames_eq_nil_iff, warnings_eq]
  constructor
  · rintro ⟨n, raws, h⟩ hnil
    rw [hnil, List.map_nil, List.append_nil] at h
    obtain ⟨p, -, hp⟩ := List.mem_map.1 h
    exact unknownTypeWarning_ne _ _ _ _ hp
  · intro hne
    obtain ⟨n, hn⟩ := List.exists_mem_of_ne_nil _ hne
    exact ⟨n, rawsOf n ps, List.mem_append_right _ (List.mem_map_of_mem hn)⟩

end PromptPress.Placeholder

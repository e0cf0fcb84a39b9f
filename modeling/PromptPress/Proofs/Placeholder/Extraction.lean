import PromptPress.Proofs.Placeholder.Declaration
import Mathlib.Data.List.Perm.Basic

/-!
# Extraction keeps the first of each key

The slots of a text declare placeholders, one at each occurrence.  `KeepsFirsts` says, without a
look at how extraction proceeds, what it is to keep the first one of each key: no key is there twice
and none is missing, each one kept is the first of its key, and they stand in the order in which
their keys first occur.  Only one list is like that, and it is the one that is extracted
(`keepsFirsts_iff`).

Extracting again from what was extracted changes nothing (`ofText_flatMap_raw`): the spellings laid
end to end are read back one by one.
-/

namespace PromptPress.Placeholder

variable {seen : List Text} {p q : Placeholder} {ps qs : List Placeholder}

/-- The placeholders that the slots of a text declare, one at each occurrence. -/
def occurrences (s : Text) : List Placeholder := (Slot.all s).map Slot.placeholder

theorem ofText_eq (s : Text) : ofText s = firstsFrom [] (occurrences s) := rfl

/-! ### Where a key first occurs -/

/-- How many placeholders stand before the first one with a key. -/
def firstPlace (k : Text) (ps : List Placeholder) : Nat := ps.findIdx fun p => p.key == k

theorem firstPlace_cons_self (p : Placeholder) (ps : List Placeholder) :
    firstPlace p.key (p :: ps) = 0 := by
  simp [firstPlace, List.findIdx_cons]

theorem firstPlace_cons_of_ne {k : Text} (h : p.key ≠ k) (ps : List Placeholder) :
    firstPlace k (p :: ps) = firstPlace k ps + 1 := by
  rw [firstPlace, List.findIdx_cons, beq_false_of_ne h]
  rfl

/-- What is kept has another key than those that were seen. -/
theorem ne_key_of_mem_firstsFrom {k : Text} (hk : k ∈ seen) (h : p ∈ firstsFrom seen ps) :
    k ≠ p.key := fun he => key_notMem_of_mem_firstsFrom h (he ▸ hk)

theorem getElem?_firstPlace (h : p ∈ firstsFrom seen ps) : ps[firstPlace p.key ps]? = some p := by
  induction ps generalizing seen with
  | nil => simp [firstsFrom] at h
  | cons q ps ih =>
    -- behind a placeholder of another key, first places are counted in the rest
    have hrest : ∀ seen : List Text, q.key ∈ seen → p ∈ firstsFrom seen ps →
        (q :: ps)[firstPlace p.key (q :: ps)]? = some p := by
      intro seen hq hp
      rw [firstPlace_cons_of_ne (ne_key_of_mem_firstsFrom hq hp), List.getElem?_cons_succ]
      exact ih hp
    rw [firstsFrom] at h
    split at h
    · rename_i hq
      exact hrest seen (by simpa using hq) h
    · rcases List.mem_cons.1 h with rfl | h
      · rw [firstPlace_cons_self, List.getElem?_cons_zero]
      · exact hrest _ List.mem_cons_self h

theorem pairwise_firstPlace (seen : List Text) (ps : List Placeholder) :
    (firstsFrom seen ps).Pairwise fun p q => firstPlace p.key ps < firstPlace q.key ps := by
  induction ps generalizing seen with
  | nil => exact List.Pairwise.nil
  | cons r ps ih =>
    have hrest : ∀ seen : List Text, r.key ∈ seen → (firstsFrom seen ps).Pairwise fun p q =>
        firstPlace p.key (r :: ps) < firstPlace q.key (r :: ps) := by
      intro seen hr
      refine (ih seen).imp_of_mem fun hp hq hlt => ?_
      rw [firstPlace_cons_of_ne (ne_key_of_mem_firstsFrom hr hp),
        firstPlace_cons_of_ne (ne_key_of_mem_firstsFrom hr hq)]
      omega
    rw [firstsFrom]
    split
    · rename_i hr
      exact hrest seen (by simpa using hr)
    · refine List.pairwise_cons.2 ⟨?_, hrest _ List.mem_cons_self⟩
      intro p hp
      have hne := ne_key_of_mem_firstsFrom List.mem_cons_self hp
      rw [firstPlace_cons_self, firstPlace_cons_of_ne hne]
      omega

/-! ### Keeping the first of each key -/

/-- Of the placeholders `ps` the first one of each key is kept, and `qs` is what remains. -/
structure KeepsFirsts (ps qs : List Placeholder) : Prop where
  /-- No key is there twice. -/
  distinct : (qs.map key).Nodup
  /-- No key is missing. -/
  covers : ∀ p ∈ ps, p.key ∈ qs.map key
  /-- What is kept is the first of its key. -/
  first : ∀ q ∈ qs, ps[firstPlace q.key ps]? = some q
  /-- What is kept stands in the order in which the keys first occur. -/
  ordered : qs.Pairwise fun p q => firstPlace p.key ps < firstPlace q.key ps

theorem keepsFirsts_firstsFrom (ps : List Placeholder) : KeepsFirsts ps (firstsFrom [] ps) where
  distinct := nodup_keys_firstsFrom [] ps
  covers p hp := by
    obtain ⟨q, hq, he⟩ := exists_key_mem_firstsFrom hp List.not_mem_nil
    exact List.mem_map.2 ⟨q, hq, he⟩
  first _ hq := getElem?_firstPlace hq
  ordered := pairwise_firstPlace [] ps

theorem KeepsFirsts.mem_of_mem {rs : List Placeholder} (h : KeepsFirsts ps qs)
    (h' : KeepsFirsts ps rs) (hq : q ∈ qs) : q ∈ rs := by
  have hfirst := h.first q hq
  obtain ⟨r, hr, he⟩ := List.mem_map.1 (h'.covers q (List.mem_of_getElem? hfirst))
  -- the one kept for the same key is the one that stands where the key first occurs
  have hr' := h'.first r hr
  rw [he, hfirst] at hr'
  rwa [Option.some.inj hr']

theorem KeepsFirsts.eq {rs : List Placeholder} (h : KeepsFirsts ps qs) (h' : KeepsFirsts ps rs) :
    qs = rs := by
  have hperm : qs.Perm rs :=
    (List.perm_ext_iff_of_nodup (h.distinct.of_map key) (h'.distinct.of_map key)).2 fun _ =>
      ⟨h.mem_of_mem h', h'.mem_of_mem h⟩
  refine hperm.eq_of_pairwise ?_ h.ordered h'.ordered
  intro p q _ _ hpq hqp
  exact absurd hqp (Nat.lt_asymm hpq)

/-- **What is kept is the only list with these properties.** -/
theorem keepsFirsts_iff : KeepsFirsts ps qs ↔ qs = firstsFrom [] ps := by
  constructor
  · intro h
    exact h.eq (keepsFirsts_firstsFrom ps)
  · rintro rfl
    exact keepsFirsts_firstsFrom ps

/-! ### Extracting again -/

theorem firstsFrom_eq_self (hd : (ps.map key).Nodup) (hs : ∀ p ∈ ps, p.key ∉ seen) :
    firstsFrom seen ps = ps := by
  induction ps generalizing seen with
  | nil => rfl
  | cons p ps ih =>
    obtain ⟨hfresh, hd⟩ := List.nodup_cons.1 hd
    obtain ⟨hp, hs⟩ := List.forall_mem_cons.1 hs
    rw [firstsFrom, if_neg (by simpa using hp), ih hd]
    intro q hq hmem
    rcases List.mem_cons.1 hmem with he | hmem
    · exact hfresh (he ▸ List.mem_map_of_mem hq)
    · exact hs q hq hmem

theorem exists_slots_ofText (s : Text) :
    ∃ ws : List Slot, (∀ w ∈ ws, w.WellFormed) ∧ ofText s = ws.map Slot.placeholder := by
  obtain ⟨ws, hsub, he⟩ := List.sublist_map_iff.1 (firstsFrom_sublist [] (occurrences s))
  exact ⟨ws, fun w hw => Slot.wellFormed_of_mem_all (hsub.subset hw), he⟩

theorem ofText_flatMap_raw (s : Text) : ofText ((ofText s).flatMap raw) = ofText s := by
  obtain ⟨ws, hws, he⟩ := exists_slots_ofText s
  have hocc : occurrences ((ofText s).flatMap raw) = ofText s := by
    have hraw : (ws.map Slot.placeholder).flatMap raw = ws.flatMap Slot.written :=
      List.flatMap_map ..
    rw [occurrences, he, hraw, Slot.all_flatMap_written hws]
  rw [ofText_eq, hocc]
  exact firstsFrom_eq_self (nodup_keys_firstsFrom [] _) fun _ _ => List.not_mem_nil

/-- **Extraction keeps the first of each declaration.**  The placeholders of a text are those that
its slots declare, with only the first one of each key kept.  A key stands for one declaration:
slots of whatever texts have equal keys if and only if they declare the same name, the same type,
and both or neither that the value may be left out.  And from the spellings of what was extracted
the same is extracted again. -/
theorem ofText_keeps_firsts (s : Text) :
    (∀ ps, KeepsFirsts (occurrences s) ps ↔ ps = ofText s) ∧
      (∀ (t u : Text), ∀ a ∈ Slot.all t, ∀ b ∈ Slot.all u,
        a.placeholder.key = b.placeholder.key ↔
          a.placeholder.declaration = b.placeholder.declaration) ∧
      ofText ((ofText s).flatMap raw) = ofText s := by
  refine ⟨fun ps => keepsFirsts_iff, ?_, ofText_flatMap_raw s⟩
  intro t u a ha b hb
  rw [Slot.key_eq_iff (Slot.wellFormed_of_mem_all ha) (Slot.wellFormed_of_mem_all hb),
    Slot.canonical_eq_iff]

/-- A number that is named first and marked later is one declaration, and is extracted as it is
named; what may be left out is a declaration of its own. -/
theorem ofText_keeps_firsts_respelled :
    KeepsFirsts (occurrences "\x7ba:number\x7d\x7bb?\x7d\x7ba#\x7d\x7bb\x7d")
        [⟨"a", false, "\x7ba:number\x7d", some "number"⟩, ⟨"b", true, "\x7bb?\x7d", none⟩,
          ⟨"b", false, "\x7bb\x7d", none⟩] ∧
      ⟨"a", .modifier .number⟩ ∈ Slot.all "\x7ba#\x7d" ∧
      ⟨"a", .declared "number"⟩ ∈ Slot.all "\x7ba:number\x7d" ∧
      ((⟨"a", .modifier .number⟩ : Slot).placeholder.key =
          (⟨"a", .declared "number"⟩ : Slot).placeholder.key ↔
        (⟨"a", .modifier .number⟩ : Slot).placeholder.declaration =
          (⟨"a", .declared "number"⟩ : Slot).placeholder.declaration) := by
  have hmarked : ⟨"a", .modifier .number⟩ ∈ Slot.all "\x7ba#\x7d" := by decide
  have hnamed : ⟨"a", .declared "number"⟩ ∈ Slot.all "\x7ba:number\x7d" := by decide
  obtain ⟨hfirsts, hkeys, -⟩ :=
    ofText_keeps_firsts "\x7ba:number\x7d\x7bb?\x7d\x7ba#\x7d\x7bb\x7d"
  exact ⟨(hfirsts _).2 (by decide), hmarked, hnamed, hkeys _ _ _ hmarked _ hnamed⟩

end PromptPress.Placeholder

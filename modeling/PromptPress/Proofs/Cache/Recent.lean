import Mathlib.Data.List.Nodup
import PromptPress.Cache.Recent

/-!
# What a cache holds

A look-up finds only what the cache holds, and looking a key up and storing a value bring nothing
into the cache but the value that is stored.

A cache is *sound* if its keys are distinct and there are no more of them than it may hold; every
operation keeps it so.  In a sound cache a look-up finds whatever is held, and each operation has one
equation for a key that is held and one for a key that is not.
-/

namespace PromptPress.Recent

variable {α β : Type} {c d : Recent α β} {k : α} {v : β} {e : α × β}

theorem mem_keys : k ∈ c.keys ↔ ∃ v, (k, v) ∈ c.entries := by
  simp [keys]

/-- The keys are distinct, and they are not too many. -/
structure Sound (c : Recent α β) : Prop where
  nodup : c.keys.Nodup
  size_le : c.size ≤ c.capacity

theorem sound_empty {n : Nat} (hn : 0 < n) : (empty n hn : Recent α β).Sound :=
  ⟨List.nodup_nil, Nat.zero_le _⟩

theorem sound_clear (c : Recent α β) : c.clear.Sound := ⟨List.nodup_nil, Nat.zero_le _⟩

variable [DecidableEq α]

/-! ### Look-ups -/

theorem mem_of_find?_eq_some (h : c.find? k = some v) : (k, v) ∈ c.entries := by
  obtain ⟨⟨k', v'⟩, hfind, rfl⟩ := Option.map_eq_some_iff.1 h
  obtain rfl : k' = k := by simpa using List.find?_some hfind
  exact List.mem_of_find?_eq_some hfind

theorem find?_eq_none_iff : c.find? k = none ↔ k ∉ c.keys := by
  rw [find?, Option.map_eq_none_iff, List.find?_eq_none, mem_keys]
  constructor
  · rintro h ⟨v, hv⟩
    exact h (k, v) hv (by simp)
  · rintro h ⟨k', v⟩ hv hk
    obtain rfl : k' = k := by simpa using hk
    exact h ⟨v, hv⟩

theorem contains_iff : c.contains k = true ↔ k ∈ c.keys := List.contains_iff_mem

/-- What a look-up finds is an entry, which moves to the end. -/
theorem get_eq_some (h : c.get k = (some v, d)) :
    (k, v) ∈ c.entries ∧ d = { c with entries := c.without k ++ [(k, v)], hits := c.hits + 1 } := by
  unfold get at h
  split at h
  · cases h
    exact ⟨mem_of_find?_eq_some ‹_›, rfl⟩
  · cases h

/-- A look-up finds nothing only where there is no entry; then it is counted, and that is all. -/
theorem get_eq_none (h : c.get k = (none, d)) :
    k ∉ c.keys ∧ d = { c with misses := c.misses + 1 } := by
  unfold get at h
  split at h
  · cases h
  · cases h
    exact ⟨find?_eq_none_iff.1 ‹_›, rfl⟩

/-- A look-up that finds something finds an entry. -/
theorem mem_of_get_eq_some (h : c.get k = (some v, d)) : (k, v) ∈ c.entries := (get_eq_some h).1

/-! ### The entries of the other keys -/

theorem mem_of_mem_without (h : e ∈ c.without k) : e ∈ c.entries := (List.mem_filter.1 h).1

theorem map_without (c : Recent α β) (k : α) :
    (c.without k).map (·.1) = c.keys.filter (· ≠ k) := by
  rw [without, keys, List.filter_map]
  rfl

theorem without_eq_entries (h : k ∉ c.keys) : c.without k = c.entries := by
  refine List.filter_eq_self.2 fun e he => ?_
  have hne : e.1 ≠ k := by
    rintro rfl
    exact h (List.mem_map_of_mem he)
  simpa using hne

theorem length_without (hc : c.keys.Nodup) (h : k ∈ c.keys) :
    (c.without k).length + 1 = c.size := by
  have hfilter : c.keys.filter (· ≠ k) = c.keys.erase k := by
    rw [hc.erase_eq_filter]
    refine List.filter_congr fun j _ => ?_
    by_cases hj : j = k <;> simp [hj]
  have hlength : (c.without k).length = c.keys.length - 1 := by
    rw [← List.length_map (·.1), map_without, hfilter, List.length_erase_of_mem h]
  have hsize : c.keys.length = c.size := List.length_map ..
  have hpos : 0 < c.keys.length := List.length_pos_of_mem h
  omega

theorem mem_of_mem_get {r : Option β} (h : c.get k = (r, d)) (he : e ∈ d.entries) :
    e ∈ c.entries := by
  cases r with
  | none =>
    obtain ⟨-, rfl⟩ := get_eq_none h
    exact he
  | some u =>
    obtain ⟨hu, rfl⟩ := get_eq_some h
    rcases List.mem_append.1 he with he | he
    · exact mem_of_mem_without he
    · obtain rfl := List.mem_singleton.1 he
      exact hu

/-! ### Storing -/

theorem put_of_mem (hk : k ∈ c.keys) (v : β) :
    c.put k v = { c with entries := c.without k ++ [(k, v)] } := by
  rw [put, if_pos (contains_iff.2 hk)]

theorem put_of_notMem (hk : k ∉ c.keys) (v : β) :
    c.put k v = { c with entries := c.entries.drop (c.size + 1 - c.capacity) ++ [(k, v)] } := by
  rw [put, if_neg (contains_iff.not.2 hk)]

theorem mem_or_eq_of_mem_put (h : e ∈ (c.put k v).entries) : e ∈ c.entries ∨ e = (k, v) := by
  by_cases hk : k ∈ c.keys
  · rw [put_of_mem hk] at h
    rcases List.mem_append.1 h with h | h
    · exact .inl (mem_of_mem_without h)
    · exact .inr (List.mem_singleton.1 h)
  · rw [put_of_notMem hk] at h
    rcases List.mem_append.1 h with h | h
    · exact .inl (List.mem_of_mem_drop h)
    · exact .inr (List.mem_singleton.1 h)

/-- What a cache becomes when a value is looked up and, if it is not there, stored: it is found, or
there is room for it, or it takes the place of the first entry of a full cache. -/
inductive Took (c : Recent α β) (k : α) (v : β) : Recent α β → Prop
  | found (hv : (k, v) ∈ c.entries) :
      Took c k v { c with entries := c.without k ++ [(k, v)], hits := c.hits + 1 }
  | stored (hk : k ∉ c.keys) (hroom : c.size < c.capacity) :
      Took c k v { c with entries := c.entries ++ [(k, v)], misses := c.misses + 1 }
  | replaced (hk : k ∉ c.keys) (hfull : c.size = c.capacity) {e : α × β} {es : List (α × β)}
      (hes : c.entries = e :: es) :
      Took c k v { c with entries := es ++ [(k, v)], misses := c.misses + 1 }

/-! ### Sound caches -/

namespace Sound

/-- In a sound cache a look-up finds whatever is held. -/
theorem find?_eq_some_iff (hc : c.Sound) : c.find? k = some v ↔ (k, v) ∈ c.entries := by
  refine ⟨mem_of_find?_eq_some, fun hv => ?_⟩
  cases hfind : c.find? k with
  | none => exact absurd (mem_keys.2 ⟨v, hv⟩) (find?_eq_none_iff.1 hfind)
  | some u =>
    have hu := mem_of_find?_eq_some hfind
    have huv : (k, u) = (k, v) := List.inj_on_of_nodup_map hc.nodup hu hv rfl
    cases huv
    rfl

theorem get_of_mem (hc : c.Sound) (hv : (k, v) ∈ c.entries) :
    c.get k = (some v, { c with entries := c.without k ++ [(k, v)], hits := c.hits + 1 }) := by
  rw [get, hc.find?_eq_some_iff.2 hv]

/-- A sound cache stays sound when a key moves to the end. -/
theorem moved (hc : c.Sound) (hk : k ∈ c.keys) (v : β) (n m : Nat) :
    ({ c with entries := c.without k ++ [(k, v)], hits := n, misses := m } : Recent α β).Sound := by
  constructor
  · show ((c.without k ++ [(k, v)]).map (·.1)).Nodup
    rw [List.map_append, map_without, List.nodup_append]
    refine ⟨hc.nodup.filter _, List.nodup_singleton k, ?_⟩
    intro i hi j hj
    obtain rfl : j = k := List.mem_singleton.1 hj
    simpa using (List.mem_filter.1 hi).2
  · show (c.without k ++ [(k, v)]).length ≤ c.capacity
    rw [List.length_append, List.length_singleton, length_without hc.nodup hk]
    exact hc.size_le

omit [DecidableEq α] in
/-- A sound cache stays sound when a new key is put at the end and room is made for it. -/
theorem added (hc : c.Sound) (hk : k ∉ c.keys) (v : β) (n m : Nat) :
    ({ c with
      entries := c.entries.drop (c.size + 1 - c.capacity) ++ [(k, v)],
      hits := n, misses := m } : Recent α β).Sound := by
  constructor
  · show ((c.entries.drop _ ++ [(k, v)]).map (·.1)).Nodup
    rw [List.map_append, List.map_drop, List.nodup_append]
    refine ⟨hc.nodup.sublist (List.drop_sublist _ _), List.nodup_singleton k, ?_⟩
    intro i hi j hj
    obtain rfl : j = k := List.mem_singleton.1 hj
    rintro rfl
    exact hk (List.mem_of_mem_drop hi)
  · show (c.entries.drop _ ++ [(k, v)]).length ≤ c.capacity
    have hpos := c.capacity_pos
    have hsize : c.entries.length = c.size := rfl
    rw [List.length_append, List.length_drop, List.length_singleton]
    omega

theorem get (hc : c.Sound) (k : α) : (c.get k).2.Sound := by
  rcases hget : c.get k with ⟨_ | v, d⟩
  · obtain ⟨-, rfl⟩ := get_eq_none hget
    exact ⟨hc.nodup, hc.size_le⟩
  · obtain ⟨hv, rfl⟩ := get_eq_some hget
    exact hc.moved (mem_keys.2 ⟨v, hv⟩) v _ _

theorem put (hc : c.Sound) (k : α) (v : β) : (c.put k v).Sound := by
  by_cases hk : k ∈ c.keys
  · rw [put_of_mem hk]
    exact hc.moved hk v _ _
  · rw [put_of_notMem hk]
    exact hc.added hk v _ _

theorem delete (hc : c.Sound) (k : α) : (c.delete k).2.Sound := by
  have hsub : (c.without k).Sublist c.entries := List.filter_sublist
  exact ⟨hc.nodup.sublist (hsub.map _), Nat.le_trans hsub.length_le hc.size_le⟩

theorem took_of_get_eq_some (h : c.get k = (some v, d)) : c.Took k v d := by
  obtain ⟨hv, rfl⟩ := get_eq_some h
  exact .found hv

theorem took_put (hc : c.Sound) (h : c.get k = (none, d)) (v : β) : c.Took k v (d.put k v) := by
  obtain ⟨hk, rfl⟩ := get_eq_none h
  rw [put_of_notMem (c := { c with misses := c.misses + 1 }) hk]
  change c.Took k v { c with
    entries := c.entries.drop (c.size + 1 - c.capacity) ++ [(k, v)], misses := c.misses + 1 }
  have hle := hc.size_le
  by_cases hroom : c.size < c.capacity
  · have hzero : c.size + 1 - c.capacity = 0 := by omega
    rw [hzero]
    exact .stored hk hroom
  · have hone : c.size + 1 - c.capacity = 1 := by omega
    have hpos := c.capacity_pos
    rw [hone]
    cases hes : c.entries with
    | nil => simp [size, hes] at hroom; omega
    | cons e es => exact .replaced hk (by omega) hes

end Sound

end PromptPress.Recent

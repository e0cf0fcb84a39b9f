import PromptPress.Proofs.Cache.History

/-!
# A cache with more room

Two caches that go through the same history can look alike less and less: the larger one finds, and
so moves, keys that the smaller one has let go.  What stays is that the entries of the smaller one
are among those of the larger one in the same order, and that the larger one has at least as much
room left (`Within`).  Every step keeps that, so a cache with more room is never worse.
-/

namespace PromptPress.Recent

variable {α β : Type} {s l : Recent α β}

/-- The entries of a cache are among those of another one, in the same order; the other one has at
least as much room, at least as much of it is left, and it has found at least as much. -/
structure Within (s l : Recent α β) : Prop where
  small : s.Sound
  large : l.Sound
  capacity_le : s.capacity ≤ l.capacity
  sublist : s.entries.Sublist l.entries
  room_le : l.size + s.capacity ≤ s.size + l.capacity
  hits_le : s.hits ≤ l.hits

theorem within_empty {m n : Nat} (hm : 0 < m) (hn : 0 < n) (hmn : m ≤ n) :
    Within (empty m hm : Recent α β) (empty n hn) where
  small := sound_empty hm
  large := sound_empty hn
  capacity_le := hmn
  sublist := .refl _
  room_le := Nat.add_le_add_left hmn 0
  hits_le := Nat.le_refl 0

namespace Within

theorem keys_subset (h : Within s l) : s.keys ⊆ l.keys := (h.sublist.map _).subset

theorem clear (h : Within s l) : Within s.clear l.clear where
  small := sound_clear s
  large := sound_clear l
  capacity_le := h.capacity_le
  sublist := .refl _
  room_le := Nat.add_le_add_left h.capacity_le 0
  hits_le := Nat.le_refl 0

variable [DecidableEq α] {k : α}

theorem without_sublist (h : Within s l) (k : α) : (s.without k).Sublist (l.without k) :=
  h.sublist.filter _

/-- Both caches find the key, or both store a value where they hold one. -/
theorem moved (h : Within s l) (hk : k ∈ s.keys) (v : β) {a b : Nat} (hab : a ≤ b) :
    Within { s with entries := s.without k ++ [(k, v)], hits := a }
      { l with entries := l.without k ++ [(k, v)], hits := b } where
  small := h.small.moved hk v _ _
  large := h.large.moved (h.keys_subset hk) v _ _
  capacity_le := h.capacity_le
  sublist := (h.without_sublist k).append_right _
  room_le := by
    have hs := length_without h.small.nodup hk
    have hl := length_without h.large.nodup (h.keys_subset hk)
    have hroom := h.room_le
    simp only [size, List.length_append, List.length_singleton] at *
    omega
  hits_le := hab

/-- The larger cache finds the key, the smaller one has let it go. -/
theorem get_of_notMem (h : Within s l) (hs : k ∉ s.keys) {v : β} (hv : (k, v) ∈ l.entries) :
    Within { s with misses := s.misses + 1 }
      { l with entries := l.without k ++ [(k, v)], hits := l.hits + 1 } where
  small := ⟨h.small.nodup, h.small.size_le⟩
  large := h.large.moved (mem_keys.2 ⟨v, hv⟩) v _ _
  capacity_le := h.capacity_le
  sublist := by
    have hsub := h.without_sublist k
    rw [without_eq_entries hs] at hsub
    exact hsub.trans (List.sublist_append_left _ _)
  room_le := by
    have hl := length_without h.large.nodup (mem_keys.2 ⟨v, hv⟩)
    have hroom := h.room_le
    simp only [size, List.length_append, List.length_singleton] at *
    omega
  hits_le := Nat.le_succ_of_le h.hits_le

theorem get (h : Within s l) (k : α) : Within (s.get k).2 (l.get k).2 := by
  rcases hget : s.get k with ⟨_ | v, s'⟩
  · obtain ⟨hs, rfl⟩ := get_eq_none hget
    rcases hget' : l.get k with ⟨_ | w, l'⟩
    · obtain ⟨-, rfl⟩ := get_eq_none hget'
      exact ⟨⟨h.small.nodup, h.small.size_le⟩, ⟨h.large.nodup, h.large.size_le⟩, h.capacity_le,
        h.sublist, h.room_le, h.hits_le⟩
    · obtain ⟨hw, rfl⟩ := get_eq_some hget'
      exact h.get_of_notMem hs hw
  · obtain ⟨hv, rfl⟩ := get_eq_some hget
    rw [h.large.get_of_mem (h.sublist.subset hv)]
    exact h.moved (mem_keys.2 ⟨v, hv⟩) v (Nat.succ_le_succ h.hits_le)

/-- The larger cache holds the key, the smaller one makes room for it. -/
theorem put_of_notMem_of_mem (h : Within s l) (hs : k ∉ s.keys) (hl : k ∈ l.keys) (v : β) :
    Within { s with entries := s.entries.drop (s.size + 1 - s.capacity) ++ [(k, v)] }
      { l with entries := l.without k ++ [(k, v)] } where
  small := h.small.added hs v _ _
  large := h.large.moved hl v _ _
  capacity_le := h.capacity_le
  sublist := by
    have hsub := h.without_sublist k
    rw [without_eq_entries hs] at hsub
    exact ((List.drop_sublist _ _).trans hsub).append_right _
  room_le := by
    have hlength := length_without h.large.nodup hl
    have hroom := h.room_le
    have hsmall := h.small.size_le
    have hlarge := h.large.size_le
    simp only [size, List.length_append, List.length_drop, List.length_singleton] at *
    omega
  hits_le := h.hits_le

omit [DecidableEq α] in
/-- Both caches make room for the key, the larger one only if the smaller one has to. -/
theorem put_of_notMem_of_notMem (h : Within s l) (hl : k ∉ l.keys) (v : β) :
    Within { s with entries := s.entries.drop (s.size + 1 - s.capacity) ++ [(k, v)] }
      { l with entries := l.entries.drop (l.size + 1 - l.capacity) ++ [(k, v)] } where
  small := h.small.added (fun hs => hl (h.keys_subset hs)) v _ _
  large := h.large.added hl v _ _
  capacity_le := h.capacity_le
  sublist := by
    have hroom := h.room_le
    have hle : l.size + 1 - l.capacity ≤ s.size + 1 - s.capacity := by omega
    exact ((List.drop_sublist_drop_left _ hle).trans (h.sublist.drop _)).append_right _
  room_le := by
    have hroom := h.room_le
    have hsmall := h.small.size_le
    have hlarge := h.large.size_le
    have hlength := h.sublist.length_le
    simp only [size, List.length_append, List.length_drop, List.length_singleton] at *
    omega
  hits_le := h.hits_le

theorem put (h : Within s l) (k : α) (v : β) : Within (s.put k v) (l.put k v) := by
  by_cases hs : k ∈ s.keys
  · rw [put_of_mem hs, put_of_mem (h.keys_subset hs)]
    exact h.moved hs v h.hits_le
  · rw [put_of_notMem hs]
    by_cases hl : k ∈ l.keys
    · rw [put_of_mem hl]
      exact h.put_of_notMem_of_mem hs hl v
    · rw [put_of_notMem hl]
      exact h.put_of_notMem_of_notMem hl v

theorem delete (h : Within s l) (k : α) : Within (s.delete k).2 (l.delete k).2 where
  small := h.small.delete k
  large := h.large.delete k
  capacity_le := h.capacity_le
  sublist := h.without_sublist k
  room_le := by
    show (l.without k).length + s.capacity ≤ (s.without k).length + l.capacity
    have hroom := h.room_le
    by_cases hs : k ∈ s.keys
    · have hsmall := length_without h.small.nodup hs
      have hlarge := length_without h.large.nodup (h.keys_subset hs)
      omega
    · rw [without_eq_entries hs]
      have hle : (l.without k).length ≤ l.size := List.length_filter_le _ _
      exact Nat.le_trans (Nat.add_le_add_right hle _) hroom
  hits_le := h.hits_le

theorem after (h : Within s l) (t : Step α β) : Within (t.after s) (t.after l) := by
  cases t with
  | get k => exact h.get k
  | put k v => exact h.put k v
  | delete k => exact h.delete k
  | contains k => exact h
  | len => exact h
  | clear => exact h.clear

theorem run (h : Within s l) (steps : List (Step α β)) : Within (s.run steps) (l.run steps) := by
  induction steps using List.reverseRecOn with
  | nil => exact h
  | append_singleton steps t ih =>
    rw [run_concat, run_concat]
    exact ih.after t

end Within

variable [DecidableEq α]

/-- A cache holds what another one holds, it finds what the other one finds, and it has found at
least as much. -/
structure NotWorse (l s : Recent α β) : Prop where
  held : ∀ k v, (k, v) ∈ s.entries → (k, v) ∈ l.entries
  found : ∀ k v, (s.get k).1 = some v → (l.get k).1 = some v
  hits_le : s.hits ≤ l.hits

theorem Within.notWorse (h : Within s l) : NotWorse l s where
  held := fun _ _ hv => h.sublist.subset hv
  found := by
    intro k v hget
    have hv : (k, v) ∈ s.entries := mem_of_get_eq_some (Prod.ext hget rfl)
    rw [h.large.get_of_mem (h.sublist.subset hv)]
  hits_le := h.hits_le

/-- A larger cache is never worse than a smaller one that goes through the same history. -/
theorem run_empty_notWorse {m n : Nat} (hm : 0 < m) (hmn : m ≤ n) (steps : List (Step α β)) :
    NotWorse ((empty n (Nat.lt_of_lt_of_le hm hmn)).run steps) ((empty m hm).run steps) :=
  ((within_empty hm (Nat.lt_of_lt_of_le hm hmn) hmn).run steps).notWorse

/-- With room for one the second key takes the place of the first one, which is found again only
where there is room for two. -/
theorem run_empty_one_two_notWorse :
    NotWorse ((empty 2 (by decide)).run [.put 1 "a", .put 2 "b", .get 1])
        ((empty 1 (by decide)).run [.put 1 "a", .put 2 "b", .get 1]) ∧
      ((empty 1 (by decide)).run [Step.put 1 "a", .put 2 "b", .get 1]).hits = 0 ∧
      ((empty 2 (by decide)).run [Step.put 1 "a", .put 2 "b", .get 1]).hits = 1 :=
  ⟨run_empty_notWorse (by decide) (by decide) _, rfl, rfl⟩

end PromptPress.Recent

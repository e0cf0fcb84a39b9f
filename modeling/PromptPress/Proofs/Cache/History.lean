import Mathlib.Data.Finset.Card
import Mathlib.Data.List.DropRight
import Mathlib.Data.Nat.Find
import PromptPress.Proofs.Cache.Recent

/-!
# A cache judged by its history

A step of a history looks a key up, stores a value, drops a key, asks for a key or for the number of
entries, or clears the cache.  Storing a key uses it, and so does a look-up that finds it, so whether
a step is a use depends on what the cache has kept until then.

`Turn` says once what a step uses and what it makes of the entries, and what a history keeps is
derived from it.  The keys stand in the order of their last use (`ordered_run`).  As long as no key
is dropped, a key that was stored and is gone was used before every key that is there (`left_run`).
So the keys that are held are the ones that were used last, as many as there is room for
(`toFinset_keys_run`).
-/

namespace PromptPress.Recent

/-- Something that is done with a cache. -/
inductive Step (α β : Type) where
  | get (k : α)
  | put (k : α) (v : β)
  | delete (k : α)
  | contains (k : α)
  | len
  | clear

variable {α β : Type}

namespace Step

def isGet : Step α β → Bool
  | get _ => true
  | _ => false

def isClear : Step α β → Bool
  | clear => true
  | _ => false

def isDelete : Step α β → Bool
  | delete _ => true
  | _ => false

/-- What the step stores. -/
def stored? : Step α β → Option (α × β)
  | put k v => some (k, v)
  | _ => none

end Step

/-- The steps after the cache was last cleared. -/
def sinceClear (steps : List (Step α β)) : List (Step α β) := steps.rtakeWhile fun s => !s.isClear

variable [DecidableEq α]

/-- The cache after a step. -/
def Step.after (c : Recent α β) : Step α β → Recent α β
  | get k => (c.get k).2
  | put k v => c.put k v
  | delete k => (c.delete k).2
  | contains _ | len => c
  | clear => c.clear

/-- The key that the step uses: the one that it stores, or that it looks up and finds. -/
def Step.used? (c : Recent α β) : Step α β → Option α
  | get k => (c.get k).1.map fun _ => k
  | put k _ => some k
  | _ => none

/-- The cache after steps. -/
def run (c : Recent α β) (steps : List (Step α β)) : Recent α β := steps.foldl Step.after c

/-- The key that the step of a number uses; steps are counted from one. -/
def usedAt? (c : Recent α β) (steps : List (Step α β)) (n : Nat) : Option α :=
  steps[n - 1]?.bind (Step.used? (c.run (steps.take (n - 1))))

/-- The number of the last step that uses a key, or zero. -/
def lastUse (c : Recent α β) (steps : List (Step α β)) (k : α) : Nat :=
  Nat.findGreatest (fun n => c.usedAt? steps n = some k) steps.length

/-- The value that was stored last for a key. -/
def lastPut? (steps : List (Step α β)) (k : α) : Option β :=
  ((steps.filterMap Step.stored?).reverse.find? fun e => e.1 = k).map (·.2)

/-- The keys that were stored since the cache was last cleared. -/
def putSince (steps : List (Step α β)) : Finset α :=
  (((sinceClear steps).filterMap Step.stored?).map (·.1)).toFinset

variable {c : Recent α β} {steps : List (Step α β)} {s : Step α β} {j k : α} {v : β}

/-! ### One more step -/

theorem run_concat (c : Recent α β) (steps : List (Step α β)) (s : Step α β) :
    c.run (steps ++ [s]) = s.after (c.run steps) := by
  simp [run]

theorem usedAt?_concat_of_le {n : Nat} (hpos : 0 < n) (hn : n ≤ steps.length) :
    c.usedAt? (steps ++ [s]) n = c.usedAt? steps n := by
  have hlt : n - 1 < steps.length := by omega
  rw [usedAt?, usedAt?, List.getElem?_append_left hlt, List.take_append_of_le_length hlt.le]

theorem usedAt?_concat_self : c.usedAt? (steps ++ [s]) (steps.length + 1) = s.used? (c.run steps) := by
  simp [usedAt?]

theorem lastUse_le : c.lastUse steps k ≤ steps.length := Nat.findGreatest_le _

theorem lastUse_concat_of_used (h : s.used? (c.run steps) = some k) :
    c.lastUse (steps ++ [s]) k = steps.length + 1 := by
  have hused : c.usedAt? (steps ++ [s]) (steps.length + 1) = some k := by
    rw [usedAt?_concat_self, h]
  rw [lastUse, List.length_append, List.length_singleton, Nat.findGreatest_eq hused]

theorem lastUse_concat_of_not_used (h : s.used? (c.run steps) ≠ some k) :
    c.lastUse (steps ++ [s]) k = c.lastUse steps k := by
  have hused : c.usedAt? (steps ++ [s]) (steps.length + 1) ≠ some k := by
    rwa [usedAt?_concat_self]
  rw [lastUse, List.length_append, List.length_singleton, Nat.findGreatest_of_not hused,
    Nat.findGreatest_eq_iff]
  refine ⟨lastUse_le, fun hne => ?_, fun n hlt hn => ?_⟩
  · rw [usedAt?_concat_of_le (Nat.pos_of_ne_zero hne) lastUse_le]
    exact Nat.findGreatest_of_ne_zero rfl hne
  · rw [usedAt?_concat_of_le (Nat.zero_lt_of_lt hlt) hn]
    exact Nat.findGreatest_is_greatest hlt hn

theorem lastPut?_concat : lastPut? (steps ++ [s]) k =
    match s.stored? with
    | some (j, v) => if j = k then some v else lastPut? steps k
    | none => lastPut? steps k := by
  rw [lastPut?, List.filterMap_append, List.reverse_append]
  cases hs : s.stored? with
  | none => simp [hs, lastPut?]
  | some e =>
    obtain ⟨j, v⟩ := e
    by_cases hj : j = k <;> simp [hs, hj, lastPut?]

omit [DecidableEq α] in
theorem sinceClear_concat : sinceClear (steps ++ [s]) =
    if s.isClear then [] else sinceClear steps ++ [s] := by
  rw [sinceClear, List.rtakeWhile_concat]
  cases s.isClear <;> rfl

theorem putSince_concat : putSince (steps ++ [s]) =
    if s.isClear then ∅ else
      match s.stored? with
      | some (k, _) => insert k (putSince steps)
      | none => putSince steps := by
  rw [putSince, sinceClear_concat]
  by_cases hclear : s.isClear
  · simp [hclear]
  · cases hs : s.stored? with
    | none => simp [hs, hclear, putSince]
    | some e => ext; simp [hs, hclear, putSince]

/-! ### What a step does -/

/-- The key that a step uses, and what the step makes of the entries. -/
inductive Turn (c : Recent α β) : Step α β → Option α → List (α × β) → Prop
  | found {k : α} {v : β} (hv : (k, v) ∈ c.entries) :
      Turn c (.get k) (some k) (c.without k ++ [(k, v)])
  | missed {k : α} (hk : k ∉ c.keys) : Turn c (.get k) none c.entries
  | replaced {k : α} {v : β} (hk : k ∈ c.keys) :
      Turn c (.put k v) (some k) (c.without k ++ [(k, v)])
  | added {k : α} {v : β} (hk : k ∉ c.keys) :
      Turn c (.put k v) (some k) (c.entries.drop (c.size + 1 - c.capacity) ++ [(k, v)])
  | dropped (k : α) : Turn c (.delete k) none (c.without k)
  | asked (k : α) : Turn c (.contains k) none c.entries
  | counted : Turn c .len none c.entries
  | cleared : Turn c .clear none []

theorem turn (c : Recent α β) (s : Step α β) : Turn c s (s.used? c) (s.after c).entries := by
  cases s with
  | get k =>
    rcases hget : c.get k with ⟨_ | v, d⟩
    · obtain ⟨hk, rfl⟩ := get_eq_none hget
      rw [Step.used?, Step.after, hget]
      exact .missed hk
    · obtain ⟨hv, rfl⟩ := get_eq_some hget
      rw [Step.used?, Step.after, hget]
      exact .found hv
  | put k v =>
    by_cases hk : k ∈ c.keys
    · rw [Step.after, put_of_mem hk]
      exact .replaced hk
    · rw [Step.after, put_of_notMem hk]
      exact .added hk
  | delete k => exact .dropped k
  | contains k => exact .asked k
  | len => exact .counted
  | clear => exact .cleared

theorem not_mem_map_without : k ∉ (c.without k).map (·.1) := by
  simp [map_without]

theorem map_without_sublist : ((c.without k).map (·.1)).Sublist c.keys :=
  List.filter_sublist.map _

namespace Turn

variable {u : Option α} {es : List (α × β)}

/-- The key that is used stands at the end, behind others that were held and are not used. -/
theorem keys (h : Turn c s u es) : ∃ ks, ks.Sublist c.keys ∧ (∀ k ∈ ks, u ≠ some k) ∧
    es.map (·.1) = ks ++ u.toList := by
  have hmoved (k : α) : ∀ j ∈ (c.without k).map (·.1), some k ≠ some j := by
    rintro j hj ⟨⟩
    exact not_mem_map_without hj
  cases h with
  | found => exact ⟨_, map_without_sublist, hmoved _, List.map_append⟩
  | replaced => exact ⟨_, map_without_sublist, hmoved _, List.map_append⟩
  | @added k v hk =>
    refine ⟨_, (List.drop_sublist _ _).map _, ?_, List.map_append⟩
    rintro j hj ⟨⟩
    exact hk (((List.drop_sublist _ _).map _).subset hj)
  | dropped k => exact ⟨_, map_without_sublist, by simp, (List.append_nil _).symm⟩
  | cleared => exact ⟨[], List.nil_sublist _, by simp, rfl⟩
  | _ => exact ⟨c.keys, .refl _, by simp, by simp [Recent.keys]⟩

/-- What is held then was stored by the step, or it was held and nothing else was stored for its
key. -/
theorem mem {e : α × β} (h : Turn c s u es) (he : e ∈ es) :
    s.stored? = some e ∨ e ∈ c.entries ∧ ∀ v, s.stored? ≠ some (e.1, v) := by
  cases h with
  | found hv =>
    rcases List.mem_append.1 he with he | he
    · exact .inr ⟨mem_of_mem_without he, by simp [Step.stored?]⟩
    · rw [List.mem_singleton.1 he]
      exact .inr ⟨hv, by simp [Step.stored?]⟩
  | replaced =>
    rcases List.mem_append.1 he with hold | hnew
    · refine .inr ⟨mem_of_mem_without hold, ?_⟩
      rintro w ⟨⟩
      exact not_mem_map_without (List.mem_map_of_mem hold)
    · exact .inl (congrArg some (List.mem_singleton.1 hnew).symm)
  | added hk =>
    rcases List.mem_append.1 he with hold | hnew
    · refine .inr ⟨List.mem_of_mem_drop hold, ?_⟩
      rintro w ⟨⟩
      exact hk (List.mem_map_of_mem (List.mem_of_mem_drop hold))
    · exact .inl (congrArg some (List.mem_singleton.1 hnew).symm)
  | dropped => exact .inr ⟨mem_of_mem_without he, by simp [Step.stored?]⟩
  | cleared => cases he
  | _ => exact .inr ⟨he, by simp [Step.stored?]⟩

/-- A full cache stays full until something is dropped. -/
theorem length_of_full (h : Turn c s u es) (hc : c.Sound) (hdelete : s.isDelete = false)
    (hclear : s.isClear = false) (hfull : c.size = c.capacity) : es.length = c.capacity := by
  have hmoved (k : α) (v : β) (hk : k ∈ c.keys) : (c.without k ++ [(k, v)]).length = c.capacity := by
    rw [List.length_append, List.length_singleton, length_without hc.nodup hk, hfull]
  cases h with
  | found hv => exact hmoved _ _ (mem_keys.2 ⟨_, hv⟩)
  | replaced hk => exact hmoved _ _ hk
  | added =>
    have hpos := c.capacity_pos
    have hsize : c.entries.length = c.size := rfl
    rw [List.length_append, List.length_drop, List.length_singleton]
    omega
  | dropped => cases hdelete
  | cleared => cases hclear
  | _ => exact hfull

/-- A key that makes room is the first one of a full cache. -/
theorem evicted (h : Turn c s u es) (hc : c.Sound) (hdelete : s.isDelete = false)
    (hclear : s.isClear = false) (hj : j ∈ c.keys) (hgone : j ∉ es.map (·.1)) :
    c.size = c.capacity ∧ ∃ ks, c.keys = j :: ks ∧ es.map (·.1) = ks ++ u.toList := by
  have hmoved (k : α) (v : β) : j ∈ (c.without k ++ [(k, v)]).map (·.1) := by
    by_cases hjk : j = k <;> simp [map_without, hj, hjk]
  cases h with
  | found => exact absurd (hmoved _ _) hgone
  | replaced => exact absurd (hmoved _ _) hgone
  | @added k v hk =>
    rw [List.map_append, List.map_drop] at hgone ⊢
    have hsize : c.keys.length = c.size := List.length_map ..
    have hle := hc.size_le
    have hfull : c.size = c.capacity := by
      by_contra hne
      have hroom : c.size + 1 - c.capacity = 0 := by omega
      rw [hroom] at hgone
      exact hgone (List.mem_append_left _ hj)
    have hone : c.size + 1 - c.capacity = 1 := by omega
    rw [hone] at hgone ⊢
    change j ∉ c.keys.drop 1 ++ [k] at hgone
    show _ ∧ ∃ ks, _ ∧ c.keys.drop 1 ++ [k] = ks ++ [k]
    cases hkeys : c.keys with
    | nil =>
      rw [hkeys] at hj
      cases hj
    | cons i ks =>
      rw [hkeys] at hj hgone
      rcases List.mem_cons.1 hj with rfl | hj
      · exact ⟨hfull, ks, rfl, rfl⟩
      · exact absurd (List.mem_append_left _ hj) hgone
  | dropped => cases hdelete
  | cleared => cases hclear
  | _ => exact absurd hj hgone

end Turn

theorem mem_keys_of_stored (h : s.stored? = some (k, v)) : k ∈ (s.after c).keys := by
  cases s with
  | put j w =>
    obtain ⟨⟩ := h
    obtain ⟨ks, -, -, hkeys⟩ := (turn c (.put k v)).keys
    rw [keys, hkeys]
    exact List.mem_append_right _ (List.mem_singleton_self k)
  | _ => cases h

theorem capacity_after (c : Recent α β) (s : Step α β) : (s.after c).capacity = c.capacity := by
  cases s with
  | get k =>
    rw [Step.after, get]
    split <;> rfl
  | put k v =>
    rw [Step.after, put]
    split <;> rfl
  | _ => rfl

theorem capacity_run (c : Recent α β) (steps : List (Step α β)) :
    (c.run steps).capacity = c.capacity := by
  induction steps using List.reverseRecOn with
  | nil => rfl
  | append_singleton steps s ih => rw [run_concat, capacity_after, ih]

theorem sound_after (hc : c.Sound) (s : Step α β) : (s.after c).Sound := by
  cases s with
  | get k => exact hc.get k
  | put k v => exact hc.put k v
  | delete k => exact hc.delete k
  | contains k => exact hc
  | len => exact hc
  | clear => exact sound_clear c

theorem sound_run (hc : c.Sound) (steps : List (Step α β)) : (c.run steps).Sound := by
  induction steps using List.reverseRecOn with
  | nil => exact hc
  | append_singleton steps s ih =>
    rw [run_concat]
    exact sound_after ih s

/-! ### What a history keeps -/

omit [DecidableEq α] in
theorem sound_of_entries_eq_nil (h : c.entries = []) : c.Sound :=
  ⟨by simp [keys, h], by simp [size, h]⟩

/-- The keys that are held were used, and they stand in the order of their last use. -/
theorem ordered_run (hc : c.entries = []) (steps : List (Step α β)) :
    (∀ k ∈ (c.run steps).keys, 0 < c.lastUse steps k) ∧
      (c.run steps).keys.Pairwise fun j k => c.lastUse steps j < c.lastUse steps k := by
  induction steps using List.reverseRecOn with
  | nil => simp [run, keys, hc]
  | append_singleton steps s ih =>
    obtain ⟨hpos, hlt⟩ := ih
    obtain ⟨ks, hks, hunused, hkeys⟩ := (turn (c.run steps) s).keys
    have hold : ∀ k ∈ ks, c.lastUse (steps ++ [s]) k = c.lastUse steps k :=
      fun k hk => lastUse_concat_of_not_used (hunused k hk)
    have hnew : ∀ k ∈ (s.used? (c.run steps)).toList,
        c.lastUse (steps ++ [s]) k = steps.length + 1 :=
      fun k hk => lastUse_concat_of_used (by simpa using hk)
    rw [run_concat, keys, hkeys]
    constructor
    · intro k hk
      rcases List.mem_append.1 hk with hk | hk
      · rw [hold k hk]
        exact hpos k (hks.subset hk)
      · rw [hnew k hk]
        exact Nat.succ_pos _
    · rw [List.pairwise_append]
      refine ⟨?_, ?_, ?_⟩
      · refine (hlt.sublist hks).imp_of_mem fun hi hj hij => ?_
        rwa [hold _ hi, hold _ hj]
      · cases s.used? (c.run steps) <;> simp
      · intro i hi j hj
        rw [hold i hi, hnew j hj]
        exact Nat.lt_succ_of_le lastUse_le

/-- The value of a key is the one that was stored last for it. -/
theorem lastPut?_of_mem_run (hc : c.entries = []) (steps : List (Step α β))
    (h : (k, v) ∈ (c.run steps).entries) : lastPut? steps k = some v := by
  induction steps using List.reverseRecOn with
  | nil => simp [run, hc] at h
  | append_singleton steps s ih =>
    rw [run_concat] at h
    rw [lastPut?_concat]
    rcases (turn (c.run steps) s).mem h with hs | ⟨hold, hs⟩
    · simp [hs]
    · cases hstored : s.stored? with
      | none => exact ih hold
      | some e =>
        obtain ⟨j, w⟩ := e
        have hj : j ≠ k := by
          rintro rfl
          exact hs w hstored
        simpa [hj] using ih hold

theorem count_after (c : Recent α β) (s : Step α β) : (s.after c).hits + (s.after c).misses =
    if s.isClear then 0 else c.hits + c.misses + if s.isGet then 1 else 0 := by
  cases s with
  | get k =>
    rcases hget : c.get k with ⟨_ | v, d⟩
    · obtain ⟨-, rfl⟩ := get_eq_none hget
      rw [Step.after, hget]
      rfl
    · obtain ⟨-, rfl⟩ := get_eq_some hget
      rw [Step.after, hget]
      exact Nat.add_right_comm ..
  | put k v =>
    rw [Step.after, put]
    split <;> rfl
  | _ => rfl

/-- Hits and misses together count the look-ups since the last clear. -/
theorem count_run (hc : c.hits + c.misses = 0) (steps : List (Step α β)) :
    (c.run steps).hits + (c.run steps).misses = (sinceClear steps).countP Step.isGet := by
  induction steps using List.reverseRecOn with
  | nil => exact hc
  | append_singleton steps s ih =>
    rw [run_concat, count_after, ih, sinceClear_concat]
    by_cases hclear : s.isClear
    · simp [hclear]
    · simp [hclear, List.countP_append]

/-- What is held was stored since the last clear. -/
theorem mem_putSince_of_mem_run (hc : c.entries = []) (steps : List (Step α β))
    (h : k ∈ (c.run steps).keys) : k ∈ putSince steps := by
  induction steps using List.reverseRecOn with
  | nil => simp [run, keys, hc] at h
  | append_singleton steps s ih =>
    rw [run_concat] at h
    obtain ⟨v, hv⟩ := mem_keys.1 h
    have hclear : s.isClear = false := by
      cases s with
      | clear => cases hv
      | _ => rfl
    rw [putSince_concat, hclear]
    rcases (turn (c.run steps) s).mem hv with hs | ⟨hold, -⟩
    · simp [hs]
    · have hput := ih (mem_keys.2 ⟨v, hold⟩)
      cases s.stored? <;> simp [hput]

/-- A key that is gone after a step that drops nothing has left a full cache, and it was used before
every key that is there: it left a while ago, or it leaves now and was the first one. -/
theorem left_concat (hsound : (c.run steps).Sound)
    (hordered : (c.run steps).keys.Pairwise fun j k => c.lastUse steps j < c.lastUse steps k)
    (hdelete : s.isDelete = false) (hclear : s.isClear = false)
    (hleft : j ∉ (c.run steps).keys → (c.run steps).size = c.capacity ∧
      ∀ k ∈ (c.run steps).keys, c.lastUse steps j < c.lastUse steps k)
    (hgone : j ∉ (c.run (steps ++ [s])).keys) :
    (c.run (steps ++ [s])).size = c.capacity ∧
      ∀ k ∈ (c.run (steps ++ [s])).keys,
        c.lastUse (steps ++ [s]) j < c.lastUse (steps ++ [s]) k := by
  have hturn := turn (c.run steps) s
  obtain ⟨ks, hks, hunused, hkeys⟩ := hturn.keys
  rw [run_concat] at hgone ⊢
  rw [keys, hkeys] at hgone ⊢
  have hbefore : (c.run steps).size = c.capacity ∧
      ∀ k ∈ ks, c.lastUse steps j < c.lastUse steps k := by
    by_cases hj : j ∈ (c.run steps).keys
    · obtain ⟨hfull, ks', hcons, hkeys'⟩ :=
        hturn.evicted hsound hdelete hclear hj (hkeys ▸ hgone)
      obtain rfl : ks = ks' := List.append_cancel_right (hkeys.symm.trans hkeys')
      rw [hcons, List.pairwise_cons] at hordered
      exact ⟨hfull.trans (capacity_run c steps), hordered.1⟩
    · obtain ⟨hfull, hlt⟩ := hleft hj
      exact ⟨hfull, fun k hk => hlt k (hks.subset hk)⟩
  obtain ⟨hfull, hlt⟩ := hbefore
  refine ⟨?_, fun k hk => ?_⟩
  · rw [← capacity_run c steps] at hfull ⊢
    exact hturn.length_of_full hsound hdelete hclear hfull
  · have hj : s.used? (c.run steps) ≠ some j := by
      intro hused
      exact hgone (List.mem_append_right _ (by simp [hused]))
    rw [lastUse_concat_of_not_used hj]
    rcases List.mem_append.1 hk with hk | hk
    · rw [lastUse_concat_of_not_used (hunused k hk)]
      exact hlt k hk
    · rw [lastUse_concat_of_used (by simpa using hk)]
      exact Nat.lt_succ_of_le lastUse_le

/-- As long as nothing is dropped, a key leaves a full cache only, and it was used before every key
that stays. -/
theorem left_run (hc : c.entries = []) (steps : List (Step α β))
    (hdelete : ∀ k, .delete k ∉ sinceClear steps) (hput : j ∈ putSince steps)
    (hgone : j ∉ (c.run steps).keys) :
    (c.run steps).size = c.capacity ∧
      ∀ k ∈ (c.run steps).keys, c.lastUse steps j < c.lastUse steps k := by
  induction steps using List.reverseRecOn with
  | nil => simp [putSince, sinceClear] at hput
  | append_singleton steps s ih =>
    rw [putSince_concat] at hput
    rw [sinceClear_concat] at hdelete
    cases hclear : s.isClear with
    | true => simp [hclear] at hput
    | false =>
      simp only [hclear, Bool.false_eq_true, if_false] at hput hdelete
      have hsdelete : s.isDelete = false := by
        cases s with
        | delete k =>
          exact absurd (List.mem_append_right _ (List.mem_singleton_self _)) (hdelete k)
        | _ => rfl
      have hsound := sound_run (sound_of_entries_eq_nil hc) steps
      refine left_concat hsound (ordered_run hc steps).2 hsdelete hclear (fun hj => ?_) hgone
      refine ih (fun k hk => hdelete k (List.mem_append_left _ hk)) ?_ hj
      cases hstored : s.stored? with
      | none => simpa [hstored] using hput
      | some e =>
        rw [hstored] at hput
        rcases Finset.mem_insert.1 hput with rfl | hput
        · rw [run_concat] at hgone
          exact absurd (mem_keys_of_stored hstored) hgone
        · exact hput

/-! ### The keys that were used last -/

/-- The keys that were stored since the last clear and used after a key. -/
def later (c : Recent α β) (steps : List (Step α β)) (k : α) : Finset α :=
  (putSince steps).filter fun j => c.lastUse steps k < c.lastUse steps j

/-- The keys that were stored since the last clear and used last, as many as there is room for: there
are fewer later ones. -/
def latest (c : Recent α β) (steps : List (Step α β)) : Finset α :=
  (putSince steps).filter fun k => (c.later steps k).card < c.capacity

theorem card_toFinset_keys (hc : c.Sound) : c.keys.toFinset.card = c.size := by
  rw [List.toFinset_card_of_nodup hc.nodup]
  exact List.length_map ..

/-- What was used after a key that is held is held as well, so there is room for all of it. -/
theorem card_later_lt (hc : c.entries = []) {steps : List (Step α β)}
    (hdelete : ∀ k, .delete k ∉ sinceClear steps) (hk : k ∈ (c.run steps).keys) :
    (c.later steps k).card < c.capacity := by
  have hsound := sound_run (sound_of_entries_eq_nil hc) steps
  have hsub : c.later steps k ⊆ (c.run steps).keys.toFinset.erase k := by
    intro j hj
    obtain ⟨hput, hlt⟩ := Finset.mem_filter.1 hj
    have hne : j ≠ k := by
      rintro rfl
      exact Nat.lt_irrefl _ hlt
    have hheld : j ∈ (c.run steps).keys := by
      by_contra hgone
      exact Nat.lt_asymm hlt ((left_run hc steps hdelete hput hgone).2 k hk)
    exact Finset.mem_erase.2 ⟨hne, List.mem_toFinset.2 hheld⟩
  calc (c.later steps k).card
      ≤ ((c.run steps).keys.toFinset.erase k).card := Finset.card_le_card hsub
    _ < (c.run steps).keys.toFinset.card := Finset.card_erase_lt_of_mem (List.mem_toFinset.2 hk)
    _ = (c.run steps).size := card_toFinset_keys hsound
    _ ≤ (c.run steps).capacity := hsound.size_le
    _ = c.capacity := capacity_run c steps

/-- A key that is gone has left a full cache, and everything there was used after it. -/
theorem capacity_le_card_later (hc : c.entries = []) {steps : List (Step α β)}
    (hdelete : ∀ k, .delete k ∉ sinceClear steps) (hput : k ∈ putSince steps)
    (hgone : k ∉ (c.run steps).keys) : c.capacity ≤ (c.later steps k).card := by
  have hsound := sound_run (sound_of_entries_eq_nil hc) steps
  obtain ⟨hfull, hlt⟩ := left_run hc steps hdelete hput hgone
  have hsub : (c.run steps).keys.toFinset ⊆ c.later steps k := by
    intro j hj
    have hheld := List.mem_toFinset.1 hj
    exact Finset.mem_filter.2 ⟨mem_putSince_of_mem_run hc steps hheld, hlt j hheld⟩
  calc c.capacity = (c.run steps).keys.toFinset.card := by
        rw [card_toFinset_keys hsound, hfull]
    _ ≤ (c.later steps k).card := Finset.card_le_card hsub

/-- **As long as nothing is dropped, the keys that are held are the ones that were used last.** -/
theorem toFinset_keys_run (hc : c.entries = []) (steps : List (Step α β))
    (hdelete : ∀ k, .delete k ∉ sinceClear steps) :
    (c.run steps).keys.toFinset = c.latest steps := by
  ext k
  rw [latest, Finset.mem_filter, List.mem_toFinset]
  constructor
  · intro hk
    exact ⟨mem_putSince_of_mem_run hc steps hk, card_later_lt hc hdelete hk⟩
  · rintro ⟨hput, hfew⟩
    by_contra hgone
    exact Nat.not_le_of_lt hfew (capacity_le_card_later hc hdelete hput hgone)

/-- A cache keeps what its history says: distinct keys in the order of their last use, not more than
there is room for, the values that were stored last for them, and the number of look-ups; and where
nothing was dropped since the last clear, the keys are the ones that were used last. -/
structure KeepsLatest (c : Recent α β) (steps : List (Step α β)) : Prop where
  nodup : (c.run steps).keys.Nodup
  size_le : (c.run steps).size ≤ c.capacity
  used : ∀ k ∈ (c.run steps).keys, 0 < c.lastUse steps k
  ordered : (c.run steps).keys.Pairwise fun j k => c.lastUse steps j < c.lastUse steps k
  value : ∀ k v, (k, v) ∈ (c.run steps).entries → lastPut? steps k = some v
  counted : (c.run steps).hits + (c.run steps).misses = (sinceClear steps).countP Step.isGet
  latest : (∀ k, .delete k ∉ sinceClear steps) → (c.run steps).keys.toFinset = c.latest steps

/-- Whatever is done with an empty cache, it keeps what was used last. -/
theorem run_empty_keepsLatest {n : Nat} (hn : 0 < n) (steps : List (Step α β)) :
    KeepsLatest (empty n hn) steps := by
  have hsound := sound_run (sound_empty hn) steps
  have hordered := ordered_run (c := empty n hn) rfl steps
  exact {
    nodup := hsound.nodup
    size_le := capacity_run (empty n hn) steps ▸ hsound.size_le
    used := hordered.1
    ordered := hordered.2
    value := fun _ _ => lastPut?_of_mem_run rfl steps
    counted := count_run rfl steps
    latest := toFinset_keys_run rfl steps }

/-- Where there is room for two, the third key takes the place of the second one, as the first one was
looked up in between. -/
theorem run_empty_two_keepsLatest :
    KeepsLatest (empty 2 (by decide)) [.put 1 "a", .put 2 "b", .get 1, .put 3 "c", .get 2] ∧
      ((empty 2 (by decide)).run [.put 1 "a", .put 2 "b", .get 1, .put 3 "c", .get 2]).entries =
        [(1, "a"), (3, "c")] :=
  ⟨run_empty_keepsLatest (by decide) _, rfl⟩

end PromptPress.Recent

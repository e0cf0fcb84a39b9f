import PromptPress.Proofs.Cache.History
import PromptPress.Proofs.Compiler.History

/-!
# What a compiler does to its cache

A compiler is reached if it was made and then used: by steps of a history, by whatever is done with
its cache, and by replacing how placeholders are listed and inspected.  The cache of such a compiler
is sound.

Compiling a document leaves the compiler as it is, and so does compiling a file with options of its
own.  Compiling a file with the default options at most counts a miss if it fails; if it succeeds it
takes the artifact from the cache or stores it there under the file's key (`keepsCache_of_reached`).
-/

namespace PromptPress.Compiler

/-- The compilers, and the workspaces they are in, that can come about. -/
inductive Reached : Compiler → Workspace → Prop
  | made {target : Job Target} {rules : Option (List Text)} {capacity : Option Int} {c : Compiler}
      {w v : Workspace} (h : (make target rules capacity).exec w = (.ok c, v)) : Reached c v
  | step {c : Compiler} {w : Workspace} (h : Reached c w) (s : Step) :
      Reached (s.after (c, w)).1 (s.after (c, w)).2
  | cached {c : Compiler} {w : Workspace} (h : Reached c w)
      (s : Recent.Step ArtifactKey (Stamped Artifact)) :
      Reached { c with cache := s.after c.cache } w
  | refitted {c : Compiler} {w : Workspace} (h : Reached c w)
      (extract : Text → Except Error (List Placeholder))
      (inspect : List Placeholder → Except Error (List Text)) :
      Reached { c with extract := extract, inspect := inspect } w

/-- The key under which the artifact of a file is kept. -/
def ownKey (p : Path) (target : Option Text) : Compile ArtifactKey := do
  let t ← targetOr target
  let o ← defaultOptions
  keyOf t (← JobOn.state).rules p o

variable {c c' : Compiler} {w w' : Workspace} {p : Path} {target : Option Text}
  {r : Except Error (Stamped Artifact)} {a : Stamped Artifact} {e : Error}

/-! ### Looking a file's artifact up -/

theorem value_exec_ownKey {t : Target} {o : PlainText.Options} {k : ArtifactKey}
    {v v' u : Workspace} (ht : (targetOr target).exec c w = ((.ok t, c), v))
    (ho : defaultOptions.exec v = (.ok o, v')) (hk : (keyOf t c.rules p o).exec v' = (.ok k, u)) :
    ((ownKey p target).exec c w).1.1 = .ok k := by
  simp only [ownKey, JobOn.exec_bind, JobOn.exec_liftM, JobOn.exec_state, ht, ho, hk]

theorem CachedRun.unchanged_or_missed {t : Target} (h : CachedRun c w t p (.error e) c' w') :
    c' = c ∨ c' = { c with cache := { c.cache with misses := c.cache.misses + 1 } } := by
  cases h with
  | unsettled => exact .inl rfl
  | missing => exact .inl rfl
  | failed ho hk hget =>
    obtain ⟨-, rfl⟩ := Recent.get_eq_none hget
    exact .inr rfl

theorem CachedRun.took {t : Target} (hc : c.cache.Sound) (h : CachedRun c w t p (.ok a) c' w') :
    ∃ o v k u d, defaultOptions.exec w = (.ok o, v) ∧ (keyOf t c.rules p o).exec v = (.ok k, u) ∧
      c' = { c with cache := d } ∧ c.cache.Took k a d := by
  cases h with
  | hit ho hk hget =>
    exact ⟨_, _, _, _, _, ho, hk, rfl, Recent.Sound.took_of_get_eq_some hget⟩
  | made ho hk hget => exact ⟨_, _, _, _, _, ho, hk, rfl, hc.took_put hget a⟩

theorem sound_cachedRun {t : Target} (hc : c.cache.Sound) (h : CachedRun c w t p r c' w') :
    c'.cache.Sound := by
  have hget {k : ArtifactKey} {q : Option (Stamped Artifact)}
      {d : Recent ArtifactKey (Stamped Artifact)} (hget : c.cache.get k = (q, d)) : d.Sound := by
    have hsound := hc.get k
    rwa [hget] at hsound
  cases h with
  | unsettled => exact hc
  | missing => exact hc
  | hit _ _ h => exact hget h
  | failed _ _ h => exact hget h
  | made _ _ h => exact (hget h).put _ _

/-! ### Compilers that are reached -/

theorem sound_step (hc : c.cache.Sound) (s : Step) : (s.after (c, w)).1.cache.Sound := by
  have h := stepped s c w
  generalize (s.after (c, w)).1 = c' at h ⊢
  cases h with
  | same => exact hc
  | lookedUp _ h => exact sound_cachedRun hc h
  | cleared => exact Recent.sound_clear c.cache

theorem Reached.sound (h : Reached c w) : c.cache.Sound := by
  induction h with
  | made h =>
    obtain ⟨_, _, _, hn, rfl⟩ := exists_empty_of_exec_make h
    exact Recent.sound_empty hn
  | step _ s ih => exact sound_step ih s
  | cached _ s ih => exact Recent.sound_after ih s
  | refitted _ _ _ ih => exact ih

theorem Reached.reached (h : Reached c w) (steps : List Step) :
    Reached (Compiler.reached (c, w) steps).1 (Compiler.reached (c, w) steps).2 := by
  induction steps generalizing c w with
  | nil => exact h
  | cons s steps ih => exact ih (h.step s)

/-! ### Compiling -/

/-- What compiling does to the cache of a compiler: nothing without a file or with options of its
own, and else at most a miss that is counted, or one artifact that is taken or stored. -/
structure KeepsCache (c : Compiler) (w : Workspace) : Prop where
  document : ∀ source o target name, (after (compile source o target name) (c, w)).1 = c
  settled : ∀ p o target, (after (compileFile p (some o) target) (c, w)).1 = c
  failed : ∀ p target e c' w', (compileFile p none target).exec c w = ((.error e, c'), w') →
    c' = c ∨ c' = { c with cache := { c.cache with misses := c.cache.misses + 1 } }
  took : ∀ p target a c' w', (compileFile p none target).exec c w = ((.ok a, c'), w') →
    ∃ k d, ((ownKey p target).exec c w).1.1 = .ok k ∧ c' = { c with cache := d } ∧
      c.cache.Took k a d

theorem unchanged_or_missed_of_compileFile
    (h : (compileFile p none target).exec c w = ((.error e, c'), w')) :
    c' = c ∨ c' = { c with cache := { c.cache with misses := c.cache.misses + 1 } } := by
  rcases lookedUp_of_compileFile (congrArg Prod.fst h) with ⟨-, hc⟩ | ⟨t, v, x, -, hrun⟩
  · exact .inl hc
  · exact hrun.unchanged_or_missed

theorem took_of_compileFile (hc : c.cache.Sound)
    (h : (compileFile p none target).exec c w = ((.ok a, c'), w')) :
    ∃ k d, ((ownKey p target).exec c w).1.1 = .ok k ∧ c' = { c with cache := d } ∧
      c.cache.Took k a d := by
  rcases lookedUp_of_compileFile (congrArg Prod.fst h) with ⟨⟨e, he⟩, -⟩ | ⟨t, v, x, htarget, hrun⟩
  · cases he
  · obtain ⟨o, v', k, u, d, ho, hk, hd, htook⟩ := hrun.took hc
    exact ⟨k, d, value_exec_ownKey htarget ho hk, hd, htook⟩

/-- **Only a file that is compiled with the default options reaches the cache**, and it changes no
more than one entry that is used, stored or replaced. -/
theorem keepsCache_of_reached (h : Reached c w) : KeepsCache c w where
  document source o target name := state_compile source o target name c w
  settled p o target := state_compileFile_some p o target c w
  failed _ _ _ _ _ h := unchanged_or_missed_of_compileFile h
  took _ _ _ _ _ hrun := took_of_compileFile h.sound hrun

/-- After the file was compiled twice the cache is full. -/
theorem keepsCache_of_rewriting :
    Reached (reached (keepingTwo, {}) (rewriting changing)).1
        (reached (keepingTwo, {}) (rewriting changing)).2 ∧
      (reached (keepingTwo, {}) (rewriting changing)).1.cache.size = 2 ∧
      KeepsCache (reached (keepingTwo, {}) (rewriting changing)).1
        (reached (keepingTwo, {}) (rewriting changing)).2 := by
  have hmake : (make (pure .typescript) (some []) (some 2)).exec {} = (.ok keepingTwo, {}) := rfl
  have h := (Reached.made hmake).reached (rewriting changing)
  exact ⟨h, by decide +kernel, keepsCache_of_reached h⟩

end PromptPress.Compiler

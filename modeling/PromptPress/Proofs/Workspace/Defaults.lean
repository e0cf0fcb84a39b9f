import PromptPress.Proofs.Compiler.Lasting
import PromptPress.Proofs.Compiler.Override

/-!
# Default passes that are fixed

The default passes are loaded from the settings when they are first asked for, or when they are
fixed.  The settings may change at any time.  What carries the safety of fixed passes is that passes
that are fixed are loaded (`Workspace.Secured`): every operation keeps this, also one that fails
midway (`secured_after`).  So whatever happens behind it, passes that were fixed are the ones that
every later operation gives, and none can change them (`fixed_passes_stay`).
-/

namespace PromptPress

/-! ### Steps -/

/-- A change of the settings, or of what they are loaded from. -/
inductive SettingsChange where
  | environment (bindings : List (Text × Text))
  | files (t : Tree)
  | load
  | refresh
  | clear
  | override (changes : Settings.Changes)
  | restore (before : Option (Stamped Settings))

/-- Makes the change. -/
def SettingsChange.job : SettingsChange → Job Unit
  | environment vs => modify fun w => { w with environment := vs }
  | files t => modify fun w => { w with files := t }
  | load => do let _ ← Job.settings
  | refresh => do let _ ← Job.refreshSettings
  | clear => Job.clearSettings
  | override changes => do let _ ← Job.overrideSettings changes
  | restore before => Job.restoreSettings before

/-- Something that happens to the default passes, or to the settings that they are loaded from. -/
inductive DefaultsStep where
  | set (passes : List (Option Pass))
  | get
  | freeze
  | change (c : SettingsChange)

/-- The workspace after a step; a step that fails keeps what it has done until then. -/
def DefaultsStep.after (w : Workspace) : DefaultsStep → Workspace
  | set passes => ((Job.setPasses passes).exec w).2
  | get => (Job.defaultPasses.exec w).2
  | freeze => (Job.freezePasses.exec w).2
  | change c => (c.job.exec w).2

/-- The workspace that steps lead to. -/
def DefaultsStep.run (w : Workspace) (steps : List DefaultsStep) : Workspace :=
  steps.foldl after w

variable {w v : Workspace} {ps : List (Option Pass)}

/-! ### Operations -/

namespace Job

theorem exec_setPasses_of_frozen (h : w.frozen = true) (ps : List (Option Pass)) :
    (setPasses ps).exec w =
      (.error (.passConfiguration "Default passes are frozen and can no longer be changed"), w) := by
  simp only [setPasses, exec_bind, exec_get, h]
  rfl

theorem exec_setPasses_of_not_frozen (h : w.frozen = false) (ps : List (Option Pass)) :
    (setPasses ps).exec w = (.ok ps, { w with passes := some ps }) := by
  simp only [setPasses, exec_bind, exec_get]
  rw [if_neg (by simp [h])]
  rfl

theorem exec_defaultPasses_of_some (h : w.passes = some ps) :
    defaultPasses.exec w = (.ok ps, w) := by
  simp [defaultPasses, h]

/-- Getting the default passes fixes nothing. -/
theorem frozen_exec_defaultPasses (w : Workspace) :
    (defaultPasses.exec w).2.frozen = w.frozen := by
  have hlasting : Workspace.Lasting fun u => u.frozen = w.frozen :=
    ⟨fun _ h => h, fun _ _ h => h, fun _ h => h, fun _ h => h⟩
  exact maintains_defaultPasses hlasting w rfl

/-- Default passes that cannot be loaded stay unset. -/
theorem passes_of_exec_defaultPasses_eq_error {e : Error}
    (h : defaultPasses.exec w = (.error e, v)) : w.passes = none ∧ v.passes = none := by
  have hnone : w.passes = none := by
    cases hw : w.passes with
    | none => rfl
    | some qs =>
      rw [exec_defaultPasses_of_some hw] at h
      cases h
  obtain ⟨hresult, hloads, -⟩ := exec_defaultPasses w
  rw [h] at hresult hloads
  rcases hloads.passes with hsame | ⟨-, qs, -, hqs⟩
  · exact ⟨hnone, hsame.trans hnone⟩
  · rw [hqs] at hresult
    cases hresult

theorem exec_freezePasses (w : Workspace) : freezePasses.exec w =
    match defaultPasses.exec w with
    | (.ok ps, v) => (.ok ps, { v with frozen := true })
    | (.error e, v) => (.error e, v) := by
  unfold freezePasses
  rw [exec_bind]
  rcases defaultPasses.exec w with ⟨e | ps, v⟩ <;> rfl

end Job

/-- Changes of the settings do not touch the default passes. -/
theorem SettingsChange.passes_and_frozen (c : SettingsChange) (w : Workspace) :
    (c.job.exec w).2.passes = w.passes ∧ (c.job.exec w).2.frozen = w.frozen := by
  cases c with
  | environment vs => exact ⟨rfl, rfl⟩
  | files t => exact ⟨rfl, rfl⟩
  | clear => exact ⟨rfl, rfl⟩
  | restore before => exact ⟨rfl, rfl⟩
  | load =>
    unfold job
    rw [Job.exec_bind, Job.exec_settings]
    cases w.settings with
    | some s => exact ⟨rfl, rfl⟩
    | none => cases Settings.load [] w.environment w.files <;> exact ⟨rfl, rfl⟩
  | refresh =>
    simp only [job, Job.refreshSettings, Job.loadSettings, Job.exec_bind, Job.exec_get,
      Job.exec_ofExcept]
    cases Settings.load [] w.environment w.files <;> exact ⟨rfl, rfl⟩
  | override changes =>
    have hexec := Job.exec_overrideSettings changes w
    unfold job
    rw [Job.exec_bind]
    revert hexec
    cases w.currentSettings with
    | error e =>
      intro hexec
      rw [hexec]
      exact ⟨rfl, rfl⟩
    | ok s =>
      rintro ⟨n, hexec⟩
      rw [hexec]
      exact ⟨rfl, rfl⟩

/-! ### What every step keeps -/

/-- Default passes that are fixed are loaded. -/
def Workspace.Secured (w : Workspace) : Prop := w.frozen = true → w.passes ≠ none

/-- The default passes are fixed, and these are the ones. -/
structure Workspace.FixedAs (ps : List (Option Pass)) (w : Workspace) : Prop where
  frozen : w.frozen = true
  passes : w.passes = some ps

namespace DefaultsStep

/-- **Every step keeps it that fixed passes are loaded.** -/
theorem secured_after (h : w.Secured) (s : DefaultsStep) : (s.after w).Secured := by
  have hget : (Job.defaultPasses.exec w).2.Secured := by
    intro hfrozen hnone
    rw [Job.frozen_exec_defaultPasses] at hfrozen
    obtain ⟨ps, hps⟩ := Option.ne_none_iff_exists'.1 (h hfrozen)
    rw [Job.exec_defaultPasses_of_some hps] at hnone
    exact h hfrozen hnone
  cases s with
  | get => exact hget
  | set passes =>
    show ((Job.setPasses passes).exec w).2.Secured
    cases hfrozen : w.frozen with
    | true =>
      rw [Job.exec_setPasses_of_frozen hfrozen]
      exact h
    | false =>
      rw [Job.exec_setPasses_of_not_frozen hfrozen]
      exact fun _ => Option.some_ne_none passes
  | freeze =>
    show (Job.freezePasses.exec w).2.Secured
    rw [Job.exec_freezePasses]
    rcases hexec : Job.defaultPasses.exec w with ⟨e | ps, v⟩
    · rwa [hexec] at hget
    · have hset := (Job.exec_defaultPasses w).2.2 ps (by rw [← (Job.exec_defaultPasses w).1, hexec])
      rw [hexec] at hset
      intro _ hnone
      exact absurd (hset.symm.trans hnone) (Option.some_ne_none ps)
  | change c =>
    obtain ⟨hpasses, hfrozen⟩ := c.passes_and_frozen w
    intro hf
    show (c.job.exec w).2.passes ≠ none
    rw [hpasses]
    exact h (hfrozen ▸ hf)

theorem secured_run (h : w.Secured) (steps : List DefaultsStep) : (run w steps).Secured := by
  induction steps generalizing w with
  | nil => exact h
  | cons s steps ih => exact ih (secured_after h s)

/-- **No step changes passes that are fixed.** -/
theorem fixedAs_after (h : w.FixedAs ps) (s : DefaultsStep) : (s.after w).FixedAs ps := by
  cases s with
  | set passes =>
    show ((Job.setPasses passes).exec w).2.FixedAs ps
    rw [Job.exec_setPasses_of_frozen h.frozen]
    exact h
  | get =>
    show (Job.defaultPasses.exec w).2.FixedAs ps
    rw [Job.exec_defaultPasses_of_some h.passes]
    exact h
  | freeze =>
    show (Job.freezePasses.exec w).2.FixedAs ps
    rw [Job.exec_freezePasses, Job.exec_defaultPasses_of_some h.passes]
    exact ⟨rfl, h.passes⟩
  | change c =>
    obtain ⟨hpasses, hfrozen⟩ := c.passes_and_frozen w
    exact ⟨hfrozen.trans h.frozen, hpasses.trans h.passes⟩

theorem fixedAs_run (h : w.FixedAs ps) (steps : List DefaultsStep) : (run w steps).FixedAs ps := by
  induction steps generalizing w with
  | nil => exact h
  | cons s steps ih => exact ih (fixedAs_after h s)

end DefaultsStep

/-! ### Fixing the default passes -/

open DefaultsStep (run)

/-- All that can be done with passes that are fixed: getting them and fixing them again gives them,
setting others is refused, and nothing changes. -/
structure Workspace.StaysFixed (ps : List (Option Pass)) (w : Workspace) : Prop where
  get : Job.defaultPasses.exec w = (.ok ps, w)
  freeze : Job.freezePasses.exec w = (.ok ps, w)
  set : ∀ other, (Job.setPasses other).exec w =
    (.error (.passConfiguration "Default passes are frozen and can no longer be changed"), w)

theorem Workspace.FixedAs.staysFixed (h : w.FixedAs ps) : w.StaysFixed ps where
  get := Job.exec_defaultPasses_of_some h.passes
  freeze := by
    have hsame : { w with frozen := true } = w := by
      rw [← h.frozen]
    rw [Job.exec_freezePasses, Job.exec_defaultPasses_of_some h.passes]
    exact congrArg (Prod.mk _) hsame
  set other := Job.exec_setPasses_of_frozen h.frozen other

/-- The default passes are neither set nor fixed, and the ones that are set now are the ones that
are got. -/
structure Workspace.StaysOpen (w : Workspace) : Prop where
  passes : w.passes = none
  frozen : w.frozen = false
  set : ∀ ps, (Job.setPasses ps).exec w = (.ok ps, { w with passes := some ps })
  get : ∀ ps, Job.defaultPasses.exec { w with passes := some ps } =
    (.ok ps, { w with passes := some ps })

theorem Workspace.Secured.staysOpen (h : w.Secured) {e : Error}
    (hexec : Job.defaultPasses.exec w = (.error e, v)) : v.StaysOpen := by
  obtain ⟨hw, hv⟩ := Job.passes_of_exec_defaultPasses_eq_error hexec
  have hfrozen : v.frozen = false := by
    have hsame := Job.frozen_exec_defaultPasses w
    rw [hexec] at hsame
    rw [hsame]
    exact Bool.eq_false_iff.2 fun hf => h hf hw
  exact ⟨hv, hfrozen, Job.exec_setPasses_of_not_frozen hfrozen,
    fun ps => Job.exec_defaultPasses_of_some rfl⟩

/-- **Default passes that were fixed stay the same for good.**  After any steps, getting and fixing
the default passes give what they are or what the settings name.  Passes that were fixed are given by
every later operation, whatever the settings have become; none can be set, and nothing changes.  And
if they cannot be fixed, or not be got, they are left neither set nor fixed, and others can be
set. -/
theorem fixed_passes_stay (hw : w.Secured) (steps : List DefaultsStep) :
    (Job.defaultPasses.exec (run w steps)).1 = (run w steps).currentPasses ∧
    (Job.freezePasses.exec (run w steps)).1 = (run w steps).currentPasses ∧
    (∀ ps v, Job.freezePasses.exec (run w steps) = (.ok ps, v) →
      ∀ later, (run v later).StaysFixed ps) ∧
    ∀ e v, Job.defaultPasses.exec (run w steps) = (.error e, v) ∨
      Job.freezePasses.exec (run w steps) = (.error e, v) → v.StaysOpen := by
  have hsecured := DefaultsStep.secured_run hw steps
  generalize run w steps = u at hsecured ⊢
  obtain ⟨hresult, -, hset⟩ := Job.exec_defaultPasses u
  rw [Job.exec_freezePasses]
  rcases hexec : Job.defaultPasses.exec u with ⟨e | ps, x⟩
  · rw [hexec] at hresult
    have hopen := hsecured.staysOpen hexec
    refine ⟨hresult, hresult, fun ps v h => ?_, fun e' v h => ?_⟩
    · cases h
    · rcases h with h | h
      · cases h
        exact hopen
      · cases h
        exact hopen
  · rw [hexec] at hresult hset
    refine ⟨hresult, hresult, fun qs v h later => ?_, fun e v h => ?_⟩
    · cases h
      have hfixed : Workspace.FixedAs ps { x with frozen := true } := ⟨rfl, hset ps hresult.symm⟩
      exact (DefaultsStep.fixedAs_run hfixed later).staysFixed
    · rcases h with h | h <;> cases h

/-- The settings name a pass that does not exist, so that the passes can still be set; then they are
fixed, and settings that name another pass do not count any more. -/
theorem fixed_passes_stay_of_unknown_name :
    let w : Workspace := { settings := some ⟨0, { defaultPasses := ["nope"] }⟩ }
    let steps : List DefaultsStep := [.freeze, .set [some Pass.comments]]
    let later : List DefaultsStep :=
      [.change (.override { defaultPasses := some ["strip_frontmatter".toList] }), .set []]
    w.Secured ∧ (Job.freezePasses.exec w).2.StaysOpen ∧
      (run (Job.freezePasses.exec (run w steps)).2 later).StaysFixed [some Pass.comments] := by
  intro w steps later
  have hsecured : w.Secured := fun h => by cases h
  obtain ⟨-, -, -, hopen⟩ := fixed_passes_stay hsecured []
  obtain ⟨-, -, hfixed, -⟩ := fixed_passes_stay hsecured steps
  exact ⟨hsecured, hopen _ _ (.inr rfl), hfixed _ _ rfl later⟩

end PromptPress

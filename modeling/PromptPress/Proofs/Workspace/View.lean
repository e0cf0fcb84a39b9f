import PromptPress.Proofs.Workspace.Run

/-!
# What operations see of a workspace

The settings and the default passes are loaded when they are first asked for.  `Workspace.view` is
what they are or would be, loaded or not.  `Loads w v` says that the workspace `v` comes from `w` by
such loading, besides reports and stamps; loading changes nothing in the view (`Loads.view_eq`).

An operation is *settled* if all it does to a workspace is to load, and if its result depends on the
view alone.  Settled operations can be put together (`Settled.bind`), so whole programs of them are
settled.
-/

namespace PromptPress

namespace Workspace

/-- The settings that hold: those that are kept, or else those that would be loaded. -/
def currentSettings (w : Workspace) : Except Error Settings :=
  match w.settings with
  | some s => .ok s.value
  | none => Settings.load [] w.environment w.files

/-- The default passes that settings name. -/
def namedPasses (s : Settings) : Except Error (List (Option Pass)) :=
  (Pass.ofNames s.defaultPasses).map (·.map some)

/-- The default passes that hold: those that are set, or else those that the settings name. -/
def currentPasses (w : Workspace) : Except Error (List (Option Pass)) :=
  match w.passes with
  | some ps => .ok ps
  | none => w.currentSettings.bind namedPasses

/-- What operations see of the settings and the default passes. -/
def view (w : Workspace) : Except Error Settings × Except Error (List (Option Pass)) :=
  (w.currentSettings, w.currentPasses)

theorem currentSettings_of_some {w : Workspace} {s : Stamped Settings} (h : w.settings = some s) :
    w.currentSettings = .ok s.value := by
  rw [currentSettings, h]

theorem currentSettings_of_none {w : Workspace} (h : w.settings = none) :
    w.currentSettings = Settings.load [] w.environment w.files := by
  rw [currentSettings, h]

theorem currentPasses_of_some {w : Workspace} {ps : List (Option Pass)} (h : w.passes = some ps) :
    w.currentPasses = .ok ps := by
  rw [currentPasses, h]

theorem currentPasses_of_none {w : Workspace} (h : w.passes = none) :
    w.currentPasses = w.currentSettings.bind namedPasses := by
  rw [currentPasses, h]

/-! ### Loading -/

/-- The second workspace is the first one, with the settings or the default passes loaded where they
were not. -/
structure Loads (w v : Workspace) : Prop where
  environment : v.environment = w.environment
  files : v.files = w.files
  settings : v.settings = w.settings ∨
    (w.settings = none ∧ ∃ s, v.settings = some s ∧ w.currentSettings = .ok s.value)
  passes : v.passes = w.passes ∨
    (w.passes = none ∧ ∃ ps, v.passes = some ps ∧ w.currentPasses = .ok ps)

namespace Loads

variable {u v w : Workspace}

theorem refl (w : Workspace) : Loads w w := ⟨rfl, rfl, .inl rfl, .inl rfl⟩

theorem currentSettings_eq (h : Loads w v) : v.currentSettings = w.currentSettings := by
  rcases h.settings with hs | ⟨-, s, hs, hload⟩
  · rw [currentSettings, currentSettings, hs, h.environment, h.files]
  · rw [currentSettings_of_some hs, hload]

theorem currentPasses_eq (h : Loads w v) : v.currentPasses = w.currentPasses := by
  rcases h.passes with hp | ⟨-, ps, hp, hload⟩
  · rw [currentPasses, currentPasses, hp, h.currentSettings_eq]
  · rw [currentPasses_of_some hp, hload]

/-- **Loading changes nothing that operations see.** -/
theorem view_eq (h : Loads w v) : v.view = w.view := by
  rw [view, view, h.currentSettings_eq, h.currentPasses_eq]

theorem passes_of_some (h : Loads w v) {ps : List (Option Pass)} (hw : w.passes = some ps) :
    v.passes = some ps := by
  rcases h.passes with hv | ⟨hnone, -⟩
  · exact hv.trans hw
  · simp [hnone] at hw

theorem settings_of_some (h : Loads w v) {s : Stamped Settings} (hw : w.settings = some s) :
    v.settings = some s := by
  rcases h.settings with hv | ⟨hnone, -⟩
  · exact hv.trans hw
  · simp [hnone] at hw

theorem trans (h : Loads w v) (h' : Loads v u) : Loads w u := by
  refine ⟨h'.environment.trans h.environment, h'.files.trans h.files, ?_, ?_⟩
  · rcases h'.settings with hu | ⟨hv, s, hu, hload⟩
    · rw [hu]
      exact h.settings
    · rcases h.settings with hw | ⟨-, s', hw, -⟩
      · exact .inr ⟨hw ▸ hv, s, hu, h.currentSettings_eq ▸ hload⟩
      · simp [hw] at hv
  · rcases h'.passes with hu | ⟨hv, ps, hu, hload⟩
    · rw [hu]
      exact h.passes
    · rcases h.passes with hw | ⟨-, ps', hw, -⟩
      · exact .inr ⟨hw ▸ hv, ps, hu, h.currentPasses_eq ▸ hload⟩
      · simp [hw] at hv

end Loads

end Workspace

open Workspace (Loads)

namespace Job

variable {α β : Type}

/-! ### Settings and default passes -/

theorem exec_settings (w : Workspace) : settings.exec w =
    match w.settings with
    | some s => (.ok s, w)
    | none =>
      match Settings.load [] w.environment w.files with
      | .error e => (.error e, w)
      | .ok s => (.ok ⟨w.settingsMade, s⟩,
          { w with settings := some ⟨w.settingsMade, s⟩, settingsMade := w.settingsMade + 1 }) := by
  simp only [settings, exec_bind, exec_get]
  cases w.settings with
  | some s => rfl
  | none =>
    simp only [refreshSettings, loadSettings, exec_bind, exec_get, exec_ofExcept]
    cases Settings.load [] w.environment w.files <;> rfl

theorem loads_settings (w : Workspace) : Loads w (settings.exec w).2 := by
  rw [exec_settings]
  cases hs : w.settings with
  | some s => exact Loads.refl w
  | none =>
    cases hload : Settings.load [] w.environment w.files with
    | error e => exact Loads.refl w
    | ok s =>
      refine ⟨rfl, rfl, .inr ⟨hs, _, rfl, ?_⟩, .inl rfl⟩
      rw [Workspace.currentSettings_of_none hs, hload]

theorem value_exec_settings (w : Workspace) :
    (settings.exec w).1.map Stamped.value = w.currentSettings := by
  rw [exec_settings, Workspace.currentSettings]
  cases w.settings with
  | some s => rfl
  | none => cases Settings.load [] w.environment w.files <;> rfl

theorem exec_defaultPasses (w : Workspace) :
    (defaultPasses.exec w).1 = w.currentPasses ∧ Loads w (defaultPasses.exec w).2 ∧
      (∀ ps, w.currentPasses = .ok ps → (defaultPasses.exec w).2.passes = some ps) := by
  simp only [defaultPasses, exec_bind, exec_get]
  cases hp : w.passes with
  | some ps =>
    rw [exec_pure, Workspace.currentPasses_of_some hp]
    exact ⟨rfl, Loads.refl w, fun qs hqs => by rw [hp, ← Except.ok.inj hqs]⟩
  | none =>
    have hvalue := value_exec_settings w
    have hloads := loads_settings w
    rw [Workspace.currentPasses_of_none hp, ← hvalue, exec_bind]
    rcases hexec : settings.exec w with ⟨_ | s, v⟩
    · rw [hexec] at hloads
      exact ⟨rfl, hloads, fun qs hqs => by simp [Except.map, Except.bind] at hqs⟩
    · rw [hexec] at hvalue hloads
      have hcurrent : w.currentPasses = Workspace.namedPasses s.value := by
        rw [Workspace.currentPasses_of_none hp, ← hvalue]
        rfl
      dsimp only [Except.map, Except.bind]
      rw [exec_bind, exec_ofExcept, Workspace.namedPasses]
      cases hnames : Pass.ofNames s.value.defaultPasses with
      | error e => exact ⟨rfl, hloads, fun qs hqs => by simp [Except.map] at hqs⟩
      | ok ps =>
        refine ⟨rfl, hloads.trans ⟨rfl, rfl, .inl rfl, ?_⟩, ?_⟩
        · rcases hloads.passes with hv | ⟨-, qs, hv, hqs⟩
          · refine .inr ⟨hv.trans hp, ps.map some, rfl, ?_⟩
            rw [hloads.currentPasses_eq, hcurrent, Workspace.namedPasses, hnames]
            rfl
          · refine .inl ?_
            rw [hcurrent, Workspace.namedPasses, hnames] at hqs
            rw [hv, ← Except.ok.inj hqs]
            rfl
        · intro qs hqs
          exact congrArg some (Except.ok.inj hqs)

/-! ### Settled operations -/

/-- The operation only loads, and its result depends on what it sees of the settings and the default
passes. -/
structure Settled (j : Job α) : Prop where
  loads : ∀ w, Loads w (j.exec w).2
  result : ∀ {w v : Workspace}, w.view = v.view → (j.exec w).1 = (j.exec v).1

namespace Settled

theorem pure (a : α) : Settled (Pure.pure a : Job α) := ⟨Loads.refl, fun _ => rfl⟩

theorem throw (e : Error) : Settled (MonadExcept.throw e : Job α) := ⟨Loads.refl, fun _ => rfl⟩

theorem ofExcept (r : Except Error α) : Settled (Job.ofExcept r) := by
  cases r with
  | error e => exact throw e
  | ok a => exact pure a

theorem report (e : Log.Event) : Settled (Job.report e) :=
  ⟨fun _ => ⟨rfl, rfl, .inl rfl, .inl rfl⟩, fun _ => rfl⟩

/-- **Settled operations one after another are settled.** -/
theorem bind {x : Job α} {f : α → Job β} (hx : Settled x) (hf : ∀ a, Settled (f a)) :
    Settled (x >>= f) := by
  constructor
  · intro w
    have hw := hx.loads w
    rw [exec_bind]
    revert hw
    rcases x.exec w with ⟨e | a, w'⟩
    · exact id
    · exact fun hw => hw.trans ((hf a).loads w')
  · intro w v h
    have hw := hx.loads w
    have hv := hx.loads v
    have hr := hx.result h
    rw [exec_bind, exec_bind]
    revert hw hv hr
    rcases x.exec w with ⟨e | a, w'⟩ <;> rcases x.exec v with ⟨e' | a', v'⟩ <;> intro hw hv hr
    · exact congrArg Except.error (Except.error.inj hr)
    · exact absurd hr (by simp)
    · exact absurd hr (by simp)
    · obtain rfl := Except.ok.inj hr
      exact (hf a).result (hw.view_eq.trans (h.trans hv.view_eq.symm))

theorem reportAll (es : List Log.Event) : Settled (Job.reportAll es) := by
  induction es with
  | nil => exact pure ()
  | cons e es ih => exact (report e).bind fun _ => ih

/-- What is made of the settings is settled, if their stamp does not count. -/
theorem settings_bind {g : Settings → Job β} (hg : ∀ s, Settled (g s)) :
    Settled (Job.settings >>= fun s => g s.value) := by
  -- workspaces of one view may give different stamps, so the value is taken out first
  have hvalue : Settled (Job.settings >>= fun s => Pure.pure s.value) := by
    constructor
    · intro w
      have hw := loads_settings w
      rw [exec_bind]
      revert hw
      rcases Job.settings.exec w with ⟨e | s, w'⟩ <;> exact id
    · have hresult : ∀ w, ((Job.settings >>= fun s => Pure.pure s.value).exec w).1 =
          w.currentSettings := by
        intro w
        rw [← value_exec_settings, exec_bind]
        rcases Job.settings.exec w with ⟨e | s, w'⟩ <;> rfl
      intro w v h
      rw [hresult, hresult]
      exact congrArg Prod.fst h
  have hsplit : (Job.settings >>= fun s => g s.value) =
      (Job.settings >>= fun s => Pure.pure s.value) >>= g := by
    rw [bind_assoc]
    exact bind_congr fun s => (pure_bind s.value g).symm
  rw [hsplit]
  exact hvalue.bind hg

theorem defaultPasses : Settled Job.defaultPasses := by
  refine ⟨fun w => (exec_defaultPasses w).2.1, fun {w v} h => ?_⟩
  rw [(exec_defaultPasses w).1, (exec_defaultPasses v).1]
  exact congrArg Prod.snd h

end Settled

/-! ### Loading the default passes -/

/-- After the operation the default passes are loaded, if they can be, whatever else fails. -/
def LoadsPasses (j : Job α) : Prop :=
  ∀ w ps, w.currentPasses = .ok ps → (j.exec w).2.passes = some ps

namespace LoadsPasses

theorem defaultPasses : LoadsPasses Job.defaultPasses :=
  fun w => (exec_defaultPasses w).2.2

theorem bind {x : Job α} {f : α → Job β} (hx : LoadsPasses x) (hf : ∀ a, Settled (f a)) :
    LoadsPasses (x >>= f) := by
  intro w ps hps
  have hset := hx w ps hps
  rw [exec_bind]
  revert hset
  rcases x.exec w with ⟨e | a, v⟩
  · exact id
  · exact fun hset => ((hf a).loads v).passes_of_some hset

/-- Where the default passes are still to be loaded, the settings can be loaded before them. -/
theorem settings_bind {g : Stamped Settings → Job β} (hg : ∀ s, LoadsPasses (g s)) :
    LoadsPasses (Job.settings >>= g) := by
  intro w ps hps
  have hloads := loads_settings w
  have hvalue := value_exec_settings w
  rw [exec_bind]
  revert hloads hvalue
  rcases Job.settings.exec w with ⟨e | s, v⟩ <;> intro hloads hvalue
  · cases hw : w.passes with
    | some qs =>
      obtain rfl := Except.ok.inj ((Workspace.currentPasses_of_some hw).symm.trans hps)
      exact hloads.passes_of_some hw
    | none =>
      rw [Workspace.currentPasses_of_none hw, ← hvalue] at hps
      simp [Except.map, Except.bind] at hps
  · exact hg s v ps (hloads.currentPasses_eq.trans hps)

end LoadsPasses

end Job

end PromptPress

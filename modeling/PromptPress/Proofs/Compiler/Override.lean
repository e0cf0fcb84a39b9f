import PromptPress.Proofs.Compiler.Program

/-!
# Overridden settings

An override puts the settings back that were there before.  It does not put the default passes back:
where they were not loaded before the override, and are loaded under it, they stay those that the
overridden settings name (`Program.passes_after_override`).  This is all that outlives an override
(`Program.later_results_after_override`).
-/

namespace PromptPress

/-! ### Overrides -/

/-- The workspace under an override, where settings hold. -/
def Workspace.overridden (w : Workspace) (s : Settings) (n : Nat) (changes : Settings.Changes) :
    Workspace :=
  { w with settings := some ⟨n, s.override changes⟩, settingsMade := n + 1 }

theorem Job.exec_overrideSettings (changes : Settings.Changes) (w : Workspace) :
    match w.currentSettings with
    | .error e => (overrideSettings changes).exec w = (.error e, w)
    | .ok s => ∃ n, (overrideSettings changes).exec w =
        (.ok (w.settings, ⟨n, s.override changes⟩), w.overridden s n changes) := by
  unfold overrideSettings Workspace.currentSettings
  simp only [exec_bind, exec_get]
  cases w.settings with
  | some s => exact ⟨w.settingsMade, rfl⟩
  | none =>
    simp only [loadSettings, exec_bind, exec_get, exec_ofExcept]
    cases Settings.load [] w.environment w.files with
    | error e => rfl
    | ok s => exact ⟨w.settingsMade + 1, rfl⟩

theorem Job.exec_withSettings {α : Type} (changes : Settings.Changes) (j : Job α)
    (w : Workspace) :
    match w.currentSettings with
    | .error e => (withSettings changes j).exec w = (.error e, w)
    | .ok s => ∃ n, (withSettings changes j).exec w =
        ((j.exec (w.overridden s n changes)).1,
          { (j.exec (w.overridden s n changes)).2 with settings := w.settings }) := by
  have hover := exec_overrideSettings changes w
  unfold withSettings
  revert hover
  cases w.currentSettings with
  | error e =>
    intro hover
    dsimp only at hover ⊢
    rw [exec_bind, hover]
  | ok s =>
    rintro ⟨n, hover⟩
    refine ⟨n, ?_⟩
    rw [exec_bind, hover]
    exact exec_tryFinally j (fun p => { p with settings := w.settings }) _

namespace Program

variable {α : Type}

/-- Only the default passes can be other ones after an override; if they are, then they were not
loaded before it, and they are those that the overridden settings name. -/
theorem loads_withSettings (changes : Settings.Changes) (body : Program α) (w : Workspace) :
    let v := ((Job.withSettings changes body.run).exec w).2
    v.settings = w.settings ∧ v.environment = w.environment ∧ v.files = w.files ∧
      (v.passes = w.passes ∨ w.passes = none ∧ ∃ s ps, w.currentSettings = .ok s ∧
        Workspace.namedPasses (s.override changes) = .ok ps ∧ v.passes = some ps) := by
  dsimp only
  have hexec := Job.exec_withSettings changes body.run w
  revert hexec
  cases w.currentSettings with
  | error e =>
    intro hexec
    rw [hexec]
    exact ⟨rfl, rfl, rfl, .inl rfl⟩
  | ok s =>
    rintro ⟨n, hexec⟩
    rw [hexec]
    have hloads := (Job.Settled.program body).loads (w.overridden s n changes)
    refine ⟨rfl, hloads.environment, hloads.files, ?_⟩
    rcases hloads.passes with hkept | ⟨hnone, ps, hset, hnamed⟩
    · exact .inl hkept
    · refine .inr ⟨hnone, s, ps, rfl, ?_, hset⟩
      rw [← hnamed, Workspace.currentPasses_of_none hnone]
      rfl

theorem currentSettings_withSettings (changes : Settings.Changes) (body : Program α)
    (w : Workspace) :
    ((Job.withSettings changes body.run).exec w).2.currentSettings = w.currentSettings := by
  obtain ⟨hsettings, henv, hfiles, -⟩ := loads_withSettings changes body w
  rw [Workspace.currentSettings, Workspace.currentSettings, hsettings, henv, hfiles]

/-- The same default passes hold after an override unless they were first loaded under it, from
settings that name other ones. -/
theorem currentPasses_withSettings_iff (changes : Settings.Changes) (body : Program α)
    (w : Workspace) :
    let v := ((Job.withSettings changes body.run).exec w).2
    v.currentPasses = w.currentPasses ↔ w.passes ≠ none ∨ v.passes = none ∨
      ∃ s, w.currentSettings = .ok s ∧
        Workspace.namedPasses (s.override changes) = Workspace.namedPasses s := by
  have hcurrent := currentSettings_withSettings changes body w
  obtain ⟨-, -, -, hpasses⟩ := loads_withSettings changes body w
  revert hcurrent hpasses
  dsimp only
  generalize ((Job.withSettings changes body.run).exec w).2 = v
  intro hcurrent hpasses
  rcases hpasses with hkept | ⟨hnone, s, ps, hs, hnamed, hset⟩
  · have hsame : v.currentPasses = w.currentPasses := by
      rw [Workspace.currentPasses, Workspace.currentPasses, hkept, hcurrent]
    refine ⟨fun _ => ?_, fun _ => hsame⟩
    by_cases hw : w.passes = none
    · exact .inr (.inl (hkept.trans hw))
    · exact .inl hw
  · -- The passes were loaded under the override, so only what settings name can make them equal.
    rw [Workspace.currentPasses_of_some hset, Workspace.currentPasses_of_none hnone, hs, ← hnamed]
    constructor
    · exact fun hsame => .inr (.inr ⟨s, rfl, hsame⟩)
    · rintro (hloaded | hunset | ⟨s', hs', hagree⟩)
      · exact absurd hnone hloaded
      · simp [hunset] at hset
      · obtain rfl := Except.ok.inj hs'
        exact hagree

end Program

/-! ### Loading the default passes under an override -/

namespace Job.LoadsPasses

variable {β : Type}

theorem rulesOr_bind (rules : Option (List Text)) {f : List Text → Job β}
    (hf : ∀ names, LoadsPasses (f names)) : LoadsPasses (PlainText.rulesOr rules >>= f) := by
  cases rules with
  | some names =>
    rw [PlainText.rulesOr, pure_bind]
    exact hf names
  | none =>
    rw [PlainText.rulesOr, bind_assoc]
    exact settings_bind fun s => hf s.value.markdownExtras

theorem optionsOr_bind {o : Option PlainText.Options} (ho : ∀ o', o = some o' → o'.passes = none)
    {f : PlainText.Options → Job β} (hf : ∀ o', o'.passes = none → LoadsPasses (f o')) :
    LoadsPasses (PlainText.optionsOr o >>= f) := by
  cases o with
  | some o =>
    rw [PlainText.optionsOr, pure_bind]
    exact hf o (ho o rfl)
  | none =>
    rw [PlainText.optionsOr, bind_assoc]
    exact settings_bind fun s => hf { collapse := s.value.collapseWhitespace } rfl

theorem stringify (rules : Option (List Text)) {o : Option PlainText.Options}
    (ho : ∀ o', o = some o' → o'.passes = none) (name : Option Text) (t : Text) :
    LoadsPasses (Call.stringify rules o name (.str t)).run := by
  refine rulesOr_bind rules fun names => optionsOr_bind ho fun o' ho' => ?_
  rw [ho']
  refine defaultPasses.bind fun es => (Settled.runPasses name es t).bind fun s => ?_
  exact (Settled.strip _ s).bind fun _ => (Settled.report _).bind fun _ => Settled.pure _

end Job.LoadsPasses

/-- Where default passes were not loaded before an override, and a text is made plain with them
under it, those of the overridden settings are the ones of every later call. -/
theorem Program.passes_after_override {α : Type} (changes : Settings.Changes) {w : Workspace}
    {s : Settings} {ps : List (Option Pass)} (hw : w.passes = none)
    (hs : w.currentSettings = .ok s)
    (hps : Workspace.namedPasses (s.override changes) = .ok ps) (rules : Option (List Text))
    {o : Option PlainText.Options} (ho : ∀ o', o = some o' → o'.passes = none) (name : Option Text)
    (t : Text) (next : Except Error Text → Program α) :
    ((Job.withSettings changes (Program.call (.stringify rules o name (.str t)) next).run).exec
      w).2.passes = some ps := by
  obtain ⟨n, hexec⟩ : ∃ n, _ := by
    have hexec := Job.exec_withSettings changes
      (Program.call (.stringify rules o name (.str t)) next).run w
    rwa [hs] at hexec
  rw [hexec]
  have hcurrent : (w.overridden s n changes).currentPasses = .ok ps := by
    have hnone : (w.overridden s n changes).passes = none := hw
    rw [Workspace.currentPasses_of_none hnone]
    exact hps
  have hset := Job.LoadsPasses.stringify rules ho name t _ ps hcurrent
  exact ((Job.Settled.program (next _)).loads _).passes_of_some hset

/-! ### What outlives an override -/

variable {α : Type}

/-- **What outlives an override is the default passes.**  After an override, a later program gives
what it would have given before, had the default passes been set to those that are set now.  They
are the ones that held before, unless they were loaded under the override, from settings that name
other ones; where they are, an override changes no later result. -/
theorem Program.later_results_after_override (changes : Settings.Changes) (body : Program α)
    (w : Workspace) :
    let v := ((Job.withSettings changes body.run).exec w).2
    v.currentSettings = w.currentSettings ∧
      (v.currentPasses = w.currentPasses ↔ w.passes ≠ none ∨ v.passes = none ∨
        ∃ s, w.currentSettings = .ok s ∧
          Workspace.namedPasses (s.override changes) = Workspace.namedPasses s) ∧
      (∀ (β : Type) (later : Program β),
        (later.run.exec v).1 = (later.run.exec { w with passes := v.passes }).1) ∧
      (v.currentPasses = w.currentPasses → ∀ (β : Type) (later : Program β),
        (later.run.exec v).1 = (later.run.exec w).1) := by
  have hsettings := currentSettings_withSettings changes body w
  refine ⟨hsettings, currentPasses_withSettings_iff changes body w, fun _ later => ?_,
    fun hsame _ later => ?_⟩ <;> refine (Job.Settled.program later).result (Prod.ext hsettings ?_)
  · show Workspace.currentPasses _ = Workspace.currentPasses _
    rw [Workspace.currentPasses, Workspace.currentPasses, hsettings]
    rfl
  · exact hsame

/-- The override names a pass, the body makes a text plain, and the pass stays. -/
theorem Program.later_results_after_override_frontmatter :
    let w : Workspace := { settings := some ⟨0, {}⟩ }
    let changes : Settings.Changes := { defaultPasses := some ["strip_frontmatter".toList] }
    let body : Program Unit := .call (.stringify none none none (.str "x")) fun _ => .done ()
    let v := ((Job.withSettings changes body.run).exec w).2
    v.passes = some [some Pass.frontmatter] ∧ v.currentPasses ≠ w.currentPasses := by
  intro w changes body v
  have hset : v.passes = some [some Pass.frontmatter] :=
    passes_after_override changes rfl rfl rfl none (fun _ h => by cases h) none "x" _
  refine ⟨hset, fun hsame => ?_⟩
  rcases (later_results_after_override changes body w).2.1.mp hsame with h | h | ⟨s, hs, h⟩
  · exact h rfl
  · exact absurd (hset.symm.trans h) (by simp)
  · obtain rfl : ({} : Settings) = s := Except.ok.inj hs
    have hlengths := congrArg (fun r => r.toOption.map List.length) h
    exact absurd hlengths (by decide)

end PromptPress

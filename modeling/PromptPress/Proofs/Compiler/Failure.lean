import PromptPress.Proofs.Compiler.Blame
import PromptPress.Proofs.Compiler.Entries
import PromptPress.Proofs.Compiler.Program

/-!
# How compiling a file fails

Whatever goes wrong between reading a file and making its artifact is reported about the file
(`about_of_fileResult`), whether options are given or not.

Two things go wrong outside of that.  Without options the default ones are settled first, and an
error that this meets is raised as it is; with options that leave the passes open the same error is
met on the way, and is reported about the file.  And a path with a null character is rejected before
the file is looked for.  `failsByName` says that there is nothing else, and that apart from the
first difference it does not matter whether the default options are given or left out.
-/

namespace PromptPress.Compiler

variable {c : Compiler} {w v : Workspace} {t : Target} {p : Path} {o o' : PlainText.Options}
  {target : Option Text} {e : Error}

/-! ### Reading a file and compiling it -/

/-- What becomes of a file: it is read, and an error that its text meets is raised as an error about
the file. -/
def fileResult (c : Compiler) (t : Target) (p : Path) (o : PlainText.Options) (w : Workspace) :
    Except Error Artifact :=
  match Source.load w.files .utf8 p with
  | .error e => .error e
  | .ok src =>
    ((c.compileFor t (.str src.text) (some o) (some p.name)).exec w).1.mapError
      (asCompilation p.name)

theorem value_exec_compileSource (c : Compiler) (t : Target) (p : Path) (o : PlainText.Options)
    (w : Workspace) :
    ((c.compileSource t p o).exec w).1.map Stamped.value = c.fileResult t p o w := by
  unfold compileSource fileResult
  rw [Job.exec_bind, exec_load]
  cases hsrc : Source.load w.files .utf8 p with
  | error e => rfl
  | ok src =>
    obtain ⟨_, _, _, _, _, _, hpath, _⟩ := Source.load_eq_ok hsrc
    obtain rfl : src.path = p := congrArg Source.path hpath
    dsimp only
    rw [Job.exec_bind, Job.exec_tryCatch]
    -- The report on the way does not count for what compiling gives.
    have hsettled := Job.Settled.compileFor c t (.str src.text) (some o) (some src.path.name)
    rw [← hsettled.result (w := { w with events := src.loadedEvent :: w.events }) (v := w) rfl]
    rcases (c.compileFor t (.str src.text) (some o) (some src.path.name)).exec
      { w with events := src.loadedEvent :: w.events } with ⟨e | a, v⟩ <;> rfl

/-- **A file fails with an error about it**, unless its path is rejected. -/
theorem about_of_fileResult (hc : c.IsImpartial) (h : c.fileResult t p o w = .error e) :
    if p.hasNull then e = Source.nullInPath else e.About p.name := by
  unfold fileResult at h
  cases hsrc : Source.load w.files .utf8 p with
  | error e' =>
    rw [hsrc] at h
    cases h
    exact Source.about_of_load hsrc
  | ok src =>
    rw [hsrc] at h
    dsimp only at h
    obtain ⟨_, _, _, _, _, _, _, hm⟩ := Source.load_eq_ok hsrc
    have hnull := (Source.modifiedAt_eq_ok_iff.1 hm).1
    rw [if_neg (by simp [hnull])]
    rcases hrun : ((c.compileFor t (.str src.text) (some o) (some p.name)).exec w).1 with e' | a
    · rw [hrun] at h
      cases h
      exact (raises_compileFor hc t (some o) src.text w e' hrun).asCompilation
    · rw [hrun] at h
      cases h

/-! ### Default options -/

theorem exec_defaultOptions (w : Workspace) :
    (defaultOptions.exec w).1 = w.currentOptions ∧ Workspace.Loads w (defaultOptions.exec w).2 := by
  have hvalue := Job.value_exec_settings w
  have hloads := Job.loads_settings w
  unfold defaultOptions Workspace.currentOptions
  rw [Job.exec_bind, ← hvalue]
  revert hloads
  rcases Job.settings.exec w with ⟨e | s, u⟩ <;> intro hloads
  · exact ⟨rfl, hloads⟩
  · obtain ⟨hpasses, hthen, -⟩ := Job.exec_defaultPasses u
    dsimp only [Except.map, Except.bind]
    rw [Job.exec_bind, ← hloads.currentPasses_eq, ← hpasses]
    have hall := hloads.trans hthen
    revert hall
    rcases Job.defaultPasses.exec u with ⟨e | ps, x⟩ <;> exact fun hall => ⟨rfl, hall⟩

/-- Options that say the same as other ones, or leave the passes open. -/
structure Restates (o' o : PlainText.Options) : Prop where
  collapse : o'.collapse = o.collapse
  rules : o'.rules = o.rules
  passes : o'.passes = none ∨ o'.passes = o.passes

/-- Where the passes are left open, a document is compiled with the default ones. -/
theorem compileFor_of_passes_eq_none (ho : o.passes = none) (c : Compiler) (t : Target)
    (n : Option Text) (s : Text) : c.compileFor t (.str s) (some o) n =
      Job.defaultPasses >>= fun es =>
        c.compileFor t (.str s) (some { o with passes := some es }) n := by
  simp [compileFor, PlainText.ofValue, PlainText.ofSource, PlainText.optionsOr, PlainText.passesOr,
    ho]

theorem fileResult_of_loads (h : Workspace.Loads w v) (c : Compiler) (t : Target) (p : Path)
    (o : PlainText.Options) : c.fileResult t p o v = c.fileResult t p o w := by
  unfold fileResult
  rw [h.files]
  split
  · rfl
  · rw [(Job.Settled.compileFor c t _ (some o) (some p.name)).result h.view_eq]

theorem fileResult_of_restates (hw : w.currentOptions = .ok o) (ho : Restates o' o)
    (c : Compiler) (t : Target) (p : Path) : c.fileResult t p o' w = c.fileResult t p o w := by
  obtain ⟨ps, hps, hpasses⟩ : ∃ ps, w.currentPasses = .ok ps ∧ o.passes = some ps := by
    unfold Workspace.currentOptions at hw
    rcases hs : w.currentSettings with e | s <;> rcases hps : w.currentPasses with e' | ps <;>
      rw [hs, hps] at hw <;> cases hw
    exact ⟨ps, rfl, rfl⟩
  rcases ho.passes with hnone | hsame
  · -- Loading the default passes changes nothing that compiling sees.
    have heq : { o' with passes := some ps } = o := by
      obtain ⟨collapse, passes, rules⟩ := o
      obtain ⟨collapse', passes', rules'⟩ := o'
      obtain ⟨rfl, rfl, -⟩ := ho
      obtain rfl : passes = some ps := hpasses
      rfl
    obtain ⟨hresult, hloads, -⟩ := Job.exec_defaultPasses w
    unfold fileResult
    split
    · rfl
    · rw [compileFor_of_passes_eq_none hnone, Job.exec_bind]
      have hexec : Job.defaultPasses.exec w = (.ok ps, (Job.defaultPasses.exec w).2) :=
        Prod.ext (hresult.trans hps) rfl
      rw [hexec]
      dsimp only
      rw [heq, (Job.Settled.compileFor c t _ (some o) (some p.name)).result hloads.view_eq]
  · obtain ⟨collapse, passes, rules⟩ := o
    obtain ⟨collapse', passes', rules'⟩ := o'
    obtain ⟨rfl, rfl, -⟩ := ho
    obtain rfl : passes' = passes := hsame
    rfl

/-- An error of the default passes is raised as an error about the file, where the options leave the
passes open. -/
theorem fileResult_of_currentPasses_eq_error (hw : w.currentPasses = .error e)
    (ho : o.passes = none) (c : Compiler) (t : Target) {src : Source}
    (hsrc : Source.load w.files .utf8 p = .ok src) :
    c.fileResult t p o w = .error (asCompilation p.name e) := by
  unfold fileResult
  rw [hsrc]
  dsimp only
  rw [compileFor_of_passes_eq_none ho, Job.exec_bind]
  have hexec : Job.defaultPasses.exec w = (.error e, (Job.defaultPasses.exec w).2) :=
    Prod.ext ((Job.exec_defaultPasses w).1.trans hw) rfl
  rw [hexec]
  rfl

/-! ### Compiling a file -/

/-- The operation fails with an error. -/
def FailsWith {α : Type} (j : Compile α) (c : Compiler) (w : Workspace) (e : Error) : Prop :=
  (j.exec c w).1.1 = .error e

/-- A name that some target has is found, and nothing changes. -/
theorem exec_targetOr_of_isSome (h : ∀ n ∈ target, (Target.ofName? n).isSome) (c : Compiler)
    (w : Workspace) : ∃ t, (targetOr target).exec c w = ((.ok t, c), w) := by
  cases target with
  | none => exact ⟨c.target, rfl⟩
  | some n =>
    obtain ⟨t, ht⟩ := Option.isSome_iff_exists.1 (h n rfl)
    refine ⟨t, ?_⟩
    show ((((Job.target (some n)).exec w).1, c), ((Job.target (some n)).exec w).2) = _
    unfold Job.target
    dsimp only
    rw [pure_bind, ht]
    rfl

theorem exec_compileSource_eq_error_iff :
    ((c.compileSource t p o).exec w).1 = .error e ↔ c.fileResult t p o w = .error e := by
  rw [← value_exec_compileSource]
  rcases ((c.compileSource t p o).exec w).1 with e' | a
  · exact ⟨fun h => congrArg _ (Except.error.inj h), fun h => congrArg _ (Except.error.inj h)⟩
  · simp [Except.map]

theorem failsWith_some_iff (ht : (targetOr target).exec c w = ((.ok t, c), w)) :
    FailsWith (compileFile p (some o) target) c w e ↔ c.fileResult t p o w = .error e := by
  have hrun : ((compileFile p (some o) target).exec c w).1 =
      (((c.compileSource t p o).exec w).1, c) := by
    unfold compileFile
    rw [JobOn.exec_onError_report, JobOn.exec_bind, ht]
    rfl
  rw [FailsWith, hrun]
  exact exec_compileSource_eq_error_iff

theorem modifiedAt_of_exec_keyOf {rules : List Text} {u : Workspace}
    (h : (keyOf t rules p o).exec v = (.error e, u)) : Source.modifiedAt v.files p = .error e := by
  simp only [keyOf, Job.exec_bind, Job.exec_get, Job.exec_ofExcept] at h
  rcases hm : Source.modifiedAt v.files p with e' | m <;> rw [hm] at h <;> cases h
  rfl

/-- Without options a file fails as it does with the default ones, unless its artifact is found. -/
theorem failsWith_none_iff_or_found (ht : (targetOr target).exec c w = ((.ok t, c), w))
    (hw : w.currentOptions = .ok o) :
    (∀ e, FailsWith (compileFile p none target) c w e ↔ c.fileResult t p o w = .error e) ∨
      ∃ k a, ((ownKey p target).exec c w).1.1 = .ok k ∧ (k, a) ∈ c.cache.entries ∧
        ((compileFile p none target).exec c w).1.1 = .ok a := by
  have hrun : ((compileFile p none target).exec c w).1 = ((compileCached t p).exec c w).1 := by
    rw [exec_compileFile_none, ht]
  obtain ⟨hoptions, hloads⟩ := exec_defaultOptions w
  rw [hw] at hoptions
  unfold FailsWith
  rw [hrun]
  rcases hcached : (compileCached t p).exec c w with ⟨⟨r, c'⟩, w'⟩
  cases cachedRun hcached with
  | unsettled ho =>
    rw [ho] at hoptions
    cases hoptions
  | missing ho hk =>
    have hload := Source.load_eq_error_of_modifiedAt .utf8 (modifiedAt_of_exec_keyOf hk)
    rw [ho] at hloads
    rw [hloads.files] at hload
    refine .inl fun e => ?_
    rw [fileResult, hload]
    exact ⟨fun h => congrArg _ (Except.error.inj h), fun h => congrArg _ (Except.error.inj h)⟩
  | hit ho hk hget =>
    exact .inr ⟨_, _, value_exec_ownKey ht ho hk, Recent.mem_of_get_eq_some hget, rfl⟩
  | failed ho hk hget hs =>
    obtain rfl := Archive.eq_of_exec_keyOf hk
    rw [ho] at hoptions hloads
    obtain rfl := Except.ok.inj hoptions
    refine .inl fun e => ?_
    rw [← fileResult_of_loads hloads, ← exec_compileSource_eq_error_iff, hs]
  | made ho hk hget hs =>
    obtain rfl := Archive.eq_of_exec_keyOf hk
    rw [ho] at hoptions hloads
    obtain rfl := Except.ok.inj hoptions
    refine .inl fun e => ?_
    rw [← fileResult_of_loads hloads, ← exec_compileSource_eq_error_iff, hs]

/-- How compiling a file fails.  Every error is about the file, except that a path may be rejected
(`null`), and that without options an error that settling the default ones meets is raised as it is
(`unsettled`); with options that leave the passes open such an error is about the file (`wrapped`).
Where the default options can be settled, it does not matter whether they are given or left out,
unless the artifact is found in the cache (`same`). -/
structure FailsByName (c : Compiler) (w : Workspace) (p : Path) (target : Option Text) : Prop where
  given : ∀ o e, FailsWith (compileFile p (some o) target) c w e →
    (e.About p.name ↔ p.hasNull = false)
  leftOut : ∀ e, FailsWith (compileFile p none target) c w e →
    (e.About p.name ↔ p.hasNull = false ∧ ∃ o, w.currentOptions = .ok o)
  null : p.hasNull → ∀ o, FailsWith (compileFile p (some o) target) c w Source.nullInPath
  unsettled : ∀ e, w.currentOptions = .error e → FailsWith (compileFile p none target) c w e
  wrapped : ∀ e o src, w.currentPasses = .error e → o.passes = none →
    Source.load w.files .utf8 p = .ok src →
      FailsWith (compileFile p (some o) target) c w (asCompilation p.name e)
  same : ∀ o o', w.currentOptions = .ok o → Restates o' o →
    (∀ e, FailsWith (compileFile p none target) c w e ↔
      FailsWith (compileFile p (some o') target) c w e) ∨
    ∃ k a, ((ownKey p target).exec c w).1.1 = .ok k ∧ (k, a) ∈ c.cache.entries ∧
      ((compileFile p none target).exec c w).1.1 = .ok a

theorem failsWith_none_of_currentOptions (ht : (targetOr target).exec c w = ((.ok t, c), w))
    (hw : w.currentOptions = .error e) : FailsWith (compileFile p none target) c w e := by
  obtain ⟨hoptions, -⟩ := exec_defaultOptions w
  rw [hw] at hoptions
  rw [FailsWith, exec_compileFile_none, ht]
  dsimp only
  rcases hcached : (compileCached t p).exec c w with ⟨⟨r, c'⟩, w'⟩
  cases cachedRun hcached with
  | unsettled ho =>
    rw [ho] at hoptions
    exact congrArg _ (Except.error.inj hoptions)
  | missing ho | hit ho | failed ho | made ho =>
    rw [ho] at hoptions
    cases hoptions

theorem about_iff_of_fileResult (hc : c.IsImpartial) (h : c.fileResult t p o w = .error e) :
    e.About p.name ↔ p.hasNull = false := by
  have habout := about_of_fileResult hc h
  by_cases hp : p.hasNull
  · rw [if_pos hp] at habout
    have hnot : ¬ Source.nullInPath.About p.name := Error.not_about_of_isCompilation rfl
    simp [habout, hnot, hp]
  · rw [if_neg hp] at habout
    simp [habout, hp]

theorem about_iff_of_failsWith_none (hc : c.IsImpartial)
    (ht : (targetOr target).exec c w = ((.ok t, c), w))
    (h : FailsWith (compileFile p none target) c w e) :
    e.About p.name ↔ p.hasNull = false ∧ ∃ o, w.currentOptions = .ok o := by
  cases hw : w.currentOptions with
  | error e' =>
    have hraised := failsWith_none_of_currentOptions (p := p) ht hw
    obtain rfl : e' = e := Except.error.inj (hraised.symm.trans h)
    have hnot := Workspace.not_isCompilation_of_currentOptions hw
    simp [Error.not_about_of_isCompilation hnot]
  | ok o =>
    rcases failsWith_none_iff_or_found (p := p) ht hw with hiff | ⟨_, a, -, -, ha⟩
    · simp [about_iff_of_fileResult hc ((hiff e).1 h)]
    · cases ha.symm.trans h

/-- **Compiling a file fails with errors about it**, but for a path that is rejected and for default
options that cannot be settled. -/
theorem failsByName (hc : c.IsImpartial) (htarget : ∀ n ∈ target, (Target.ofName? n).isSome)
    (w : Workspace) (p : Path) : FailsByName c w p target := by
  obtain ⟨t, ht⟩ := exec_targetOr_of_isSome htarget c w
  constructor
  case given =>
    intro o e he
    exact about_iff_of_fileResult hc ((failsWith_some_iff ht).1 he)
  case leftOut =>
    intro e he
    exact about_iff_of_failsWith_none hc ht he
  case null =>
    intro hp o
    have hm : Source.modifiedAt w.files p = .error Source.nullInPath := if_pos hp
    rw [failsWith_some_iff ht, fileResult, Source.load_eq_error_of_modifiedAt .utf8 hm]
  case unsettled =>
    intro e he
    exact failsWith_none_of_currentOptions ht he
  case wrapped =>
    intro e o src he ho hsrc
    exact (failsWith_some_iff ht).2 (fileResult_of_currentPasses_eq_error he ho c t hsrc)
  case same =>
    intro o o' hw ho
    refine (failsWith_none_iff_or_found (p := p) ht hw).imp_left fun hiff e => ?_
    rw [hiff, failsWith_some_iff ht, fileResult_of_restates hw ho]

/-- The settings name a pass that does not exist: without options that error is raised as it is, and
with options that leave the passes open it is raised as an error about the file. -/
theorem failsByName_of_unknown_pass :
    let e : Error := .passConfiguration (Pass.unknownMessage "nope")
    let w : Workspace :=
      { settings := some ⟨0, { defaultPasses := ["nope"] }⟩,
        files := ⟨[(["a.md"], .file (Bytes.encode "x") 1)]⟩ }
    FailsByName keepingTwo w changing none ∧
      FailsWith (compileFile changing none none) keepingTwo w e ∧ ¬ e.About changing.name ∧
      FailsWith (compileFile changing (some {}) none) keepingTwo w
        (asCompilation changing.name e) := by
  intro e w
  have hplain : keepingTwo.IsPlain := ⟨rfl, rfl⟩
  have h : FailsByName keepingTwo w changing none :=
    failsByName hplain.isImpartial (by simp) w changing
  have hsrc : Source.load w.files .utf8 changing = .ok ⟨changing, "x", 1⟩ := rfl
  exact ⟨h, h.unsettled e rfl, Error.not_about_of_isCompilation rfl,
    h.wrapped e {} _ rfl rfl hsrc⟩

end PromptPress.Compiler

import PromptPress.Proofs.Compiler.Alone

/-!
# Building several documents

A build of several documents attempts them in turn, each with the compiler and the workspace that the
attempt before it has left (`attempts`).  Its report is made up of what became of the attempts
(`exec_foldlM_buildNext`): it has the results of those that succeeded, in their order, and the
documents of those that failed, each with the wording of its last failure (`Accounts`).

No attempt matters to a later one but by the files that it has left (`ready_of_mem_attempts`,
`buildFor_alone`).  A failure stops the others only if it is that of a path with a null character
(`buildsEach`).
-/

namespace PromptPress

/-! ### Reports -/

namespace BuildReport

variable {p q : Path} {m n : Text} {fs : List (Path × Text)}

theorem keys_recordFailure (p : Path) (m : Text) (fs : List (Path × Text)) :
    (recordFailure p m fs).map (·.1) =
      if p ∈ fs.map (·.1) then fs.map (·.1) else fs.map (·.1) ++ [p] := by
  induction fs with
  | nil => rfl
  | cons f fs ih =>
    obtain ⟨q, n⟩ := f
    unfold recordFailure
    by_cases hq : q = p
    · simp [hq]
    · simp only [hq, if_false, List.map_cons, ih, List.mem_cons, Ne.symm hq, false_or]
      split <;> rfl

theorem nodup_recordFailure (h : (fs.map (·.1)).Nodup) (p : Path) (m : Text) :
    ((recordFailure p m fs).map (·.1)).Nodup := by
  rw [keys_recordFailure]
  split
  · exact h
  · rename_i hp
    exact List.nodup_append.2 ⟨h, List.nodup_singleton p, fun a ha b hb hab =>
      hp (List.mem_singleton.1 hb ▸ hab ▸ ha)⟩

/-- **The wording of a failure replaces the one before it**, and no other one. -/
theorem mem_recordFailure_iff (h : (fs.map (·.1)).Nodup) :
    (p, m) ∈ recordFailure q n fs ↔ if p = q then m = n else (p, m) ∈ fs := by
  induction fs with
  | nil =>
    unfold recordFailure
    by_cases hpq : p = q <;> simp [hpq]
  | cons f fs ih =>
    obtain ⟨k, l⟩ := f
    obtain ⟨hk, hfs⟩ := List.nodup_cons.1 h
    unfold recordFailure
    by_cases hkq : k = q
    · subst hkq
      have hnone {m : Text} : (k, m) ∉ fs := fun hm => hk (List.mem_map.2 ⟨_, hm, rfl⟩)
      rw [if_pos rfl, List.mem_cons, Prod.mk.injEq]
      by_cases hpk : p = k
      · subst hpk
        simp [hnone]
      · simp [hpk]
    · rw [if_neg hkq, List.mem_cons, ih hfs, List.mem_cons, Prod.mk.injEq]
      by_cases hpq : p = q
      · simp [hpq, Ne.symm hkq]
      · simp [hpq]

end BuildReport

namespace Compiler

/-! ### Attempts -/

/-- A document's turn in a build of several: the compiler and the workspace that it starts with. -/
structure Attempt where
  path : Path
  compiler : Compiler
  workspace : Workspace

variable (t : Target) (folder : Path)

/-- What becomes of the document. -/
def Attempt.outcome (a : Attempt) : Except Error BuildResult :=
  ((buildFor t folder a.path).exec a.compiler a.workspace).1.1

/-- The wording of the failure, if the document is not built. -/
def Attempt.failure? (a : Attempt) : Option Text :=
  match a.outcome t folder with
  | .ok _ => none
  | .error e => some e.text

/-- The attempts of a build, each of which starts with what the step before it has left. -/
def attempts (c : Compiler) (w : Workspace) : List Path → List Attempt
  | [] => []
  | p :: ps =>
    let next := (buildNext t folder {} p).exec c w
    ⟨p, c, w⟩ :: attempts next.1.2 next.2 ps

/-- The wording of the last failure of a document. -/
def lastFailure (as : List Attempt) (p : Path) : Option Text :=
  as.reverse.findSome? fun a => if a.path = p then a.failure? t folder else none

/-- The report with what became of a document. -/
def noted (r : BuildReport) (a : Attempt) : BuildReport :=
  match a.outcome t folder with
  | .ok b => { r with built := r.built ++ [b] }
  | .error e => { r with failed := BuildReport.recordFailure a.path e.text r.failed }

variable {t folder} {c c' : Compiler} {w w' : Workspace} {p : Path} {ps : List Path}
  {r r' : BuildReport} {as : List Attempt} {a : Attempt} {e : Error}

/-! ### Steps -/

/-- The state behind a step does not depend on the report. -/
theorem state_buildNext (t : Target) (folder : Path) (r : BuildReport) (p : Path) (c : Compiler)
    (w : Workspace) :
    ((buildNext t folder r p).exec c w).1.2 = ((buildNext t folder {} p).exec c w).1.2 ∧
      ((buildNext t folder r p).exec c w).2 = ((buildNext t folder {} p).exec c w).2 := by
  rw [exec_buildNext, exec_buildNext]
  rcases (buildFor t folder p).exec c w with ⟨⟨e | b, c'⟩, w'⟩
  · by_cases he : isContained e <;> simp [he]
  · exact ⟨rfl, rfl⟩

/-- No failure of the document stops the others. -/
def Attempt.Contained (t : Target) (folder : Path) (a : Attempt) : Prop :=
  ∀ e, a.outcome t folder = .error e → isContained e

/-- The document does not compile, or a folder above the one for its files cannot be made. -/
def Attempt.FailsBefore (t : Target) (folder : Path) (a : Attempt) : Prop :=
  (∃ e, ((compileFile a.path none (some t.name)).exec a.compiler a.workspace).1.1 = .error e) ∨
    (a.workspace.files.makeFolders folder).2.isSome

/-- A step notes what becomes of its document, if a failure is contained. -/
theorem result_buildNext_eq_ok_iff :
    ((buildNext t folder r a.path).exec a.compiler a.workspace).1.1 = .ok r' ↔
      a.Contained t folder ∧ noted t folder r a = r' := by
  unfold Attempt.Contained noted Attempt.outcome
  rw [exec_buildNext]
  rcases (buildFor t folder a.path).exec a.compiler a.workspace with ⟨⟨e | b, c'⟩, w'⟩
  · by_cases he : isContained e <;> simp [he]
  · simp

/-- A step raises only an error of its document that is not contained. -/
theorem outcome_of_result_buildNext
    (h : ((buildNext t folder r a.path).exec a.compiler a.workspace).1.1 = .error e) :
    a.outcome t folder = .error e ∧ isContained e = false := by
  rw [exec_buildNext] at h
  unfold Attempt.outcome
  revert h
  rcases (buildFor t folder a.path).exec a.compiler a.workspace with ⟨⟨e' | b, c'⟩, w'⟩ <;> intro h
  · by_cases he : isContained e'
    · simp [he] at h
    · simp only [he] at h
      cases h
      exact ⟨rfl, by simpa using he⟩
  · cases h

/-! ### Runs -/

/-- **A build that goes on to its end notes what becomes of every document**, and it goes on if and
only if each failure is contained. -/
theorem result_foldlM_buildNext_eq_ok_iff :
    ((ps.foldlM (buildNext t folder) r).exec c w).1.1 = .ok r' ↔
      (∀ a ∈ attempts t folder c w ps, a.Contained t folder) ∧
        (attempts t folder c w ps).foldl (noted t folder) r = r' := by
  -- The report grows from step to step, while the attempts behind a step are the same whatever
  -- the report is: so the induction is over every report.
  induction ps generalizing r c w with
  | nil =>
    rw [List.foldlM_nil, JobOn.exec_pure]
    simp [attempts]
  | cons p ps ih =>
    have hstep {r₁} := @result_buildNext_eq_ok_iff t folder r r₁ ⟨p, c, w⟩
    obtain ⟨hc, hw⟩ := state_buildNext t folder r p c w
    rw [List.foldlM_cons, JobOn.exec_bind, attempts, List.forall_mem_cons, List.foldl_cons, ← hc,
      ← hw]
    dsimp only at hstep
    rcases hrun : (buildNext t folder r p).exec c w with ⟨⟨e | r₁, c₁⟩, w₁⟩
    · rw [hrun] at hstep
      have hstop : ¬ Attempt.Contained t folder ⟨p, c, w⟩ := fun h => nomatch hstep.2 ⟨h, rfl⟩
      simp [hstop]
    · rw [hrun] at hstep
      obtain ⟨hcontained, hnoted⟩ := hstep.1 rfl
      dsimp only
      rw [ih, hnoted, and_assoc]
      exact ⟨fun h => ⟨hcontained, h⟩, And.right⟩

/-- The error that stops a build is that of a document, and it is not contained. -/
theorem exists_of_result_foldlM_buildNext
    (h : ((ps.foldlM (buildNext t folder) r).exec c w).1.1 = .error e) :
    ∃ a ∈ attempts t folder c w ps, a.outcome t folder = .error e ∧ isContained e = false := by
  induction ps generalizing r c w with
  | nil =>
    rw [List.foldlM_nil, JobOn.exec_pure] at h
    cases h
  | cons p ps ih =>
    have hstep := @outcome_of_result_buildNext t folder r ⟨p, c, w⟩
    obtain ⟨hc, hw⟩ := state_buildNext t folder r p c w
    rw [List.foldlM_cons, JobOn.exec_bind] at h
    rw [attempts, ← hc, ← hw]
    dsimp only at hstep
    rcases hrun : (buildNext t folder r p).exec c w with ⟨⟨e' | r₁, c₁⟩, w₁⟩
    · rw [hrun] at h hstep
      cases h
      exact ⟨_, List.mem_cons_self, hstep rfl⟩
    · rw [hrun] at h
      obtain ⟨a, ha, hout⟩ := ih h
      exact ⟨a, List.mem_cons_of_mem _ ha, hout⟩

/-! ### Accounts -/

/-- The report accounts for the attempts: it has the results of those that succeeded in their order,
and for every document that failed, and no other, the wording of its last failure. -/
structure Accounts (t : Target) (folder : Path) (as : List Attempt) (r : BuildReport) : Prop where
  built : r.built = as.filterMap fun a => (a.outcome t folder).toOption
  failed : ∀ p m, (p, m) ∈ r.failed ↔ lastFailure t folder as p = some m
  once : (r.failed.map (·.1)).Nodup
  all : r.built.length + as.countP (fun a => (a.failure? t folder).isSome) = as.length

theorem lastFailure_concat (as : List Attempt) (a : Attempt) (p : Path) :
    lastFailure t folder (as ++ [a]) p =
      ((if a.path = p then a.failure? t folder else none).or (lastFailure t folder as p)) := by
  unfold lastFailure
  rw [List.reverse_append, List.reverse_singleton, List.singleton_append, List.findSome?_cons]
  cases (if a.path = p then a.failure? t folder else none) <;> rfl

/-- **A report that accounts for attempts accounts for one more when its outcome is noted.** -/
theorem Accounts.noted (h : Accounts t folder as r) (a : Attempt) :
    Accounts t folder (as ++ [a]) (noted t folder r a) := by
  have hfailure : a.failure? t folder = match a.outcome t folder with
    | .ok _ => none
    | .error e => some e.text := rfl
  unfold Compiler.noted
  cases hout : a.outcome t folder with
  | ok b =>
    rw [hout] at hfailure
    refine ⟨?_, fun p m => ?_, h.once, ?_⟩
    · simp [h.built, hout, Except.toOption]
    · rw [lastFailure_concat, hfailure, ite_self, Option.none_or]
      exact h.failed p m
    · have hall := h.all
      simp [hfailure] at hall ⊢
      omega
  | error e =>
    rw [hout] at hfailure
    refine ⟨?_, fun p m => ?_, BuildReport.nodup_recordFailure h.once _ _, ?_⟩
    · simp [h.built, hout, Except.toOption]
    · rw [lastFailure_concat, hfailure, BuildReport.mem_recordFailure_iff h.once, h.failed]
      by_cases hp : a.path = p
      · simp [hp, eq_comm]
      · simp [hp, Ne.symm hp]
    · have hall := h.all
      simp [hfailure] at hall ⊢
      omega

theorem accounts_foldl_noted (as : List Attempt) :
    Accounts t folder as (as.foldl (noted t folder) {}) := by
  induction as using List.reverseRecOn with
  | nil => exact ⟨rfl, fun p m => by simp [lastFailure], List.nodup_nil, rfl⟩
  | append_singleton as a ih =>
    rw [List.foldl_append]
    exact ih.noted a

/-! ### What attempts start with -/

variable {A : Archive} {t₀ : Target} {o : PlainText.Options} {target : Option Text}

theorem map_path_attempts (t : Target) (folder : Path) (c : Compiler) (w : Workspace)
    (ps : List Path) : (attempts t folder c w ps).map (·.path) = ps := by
  induction ps generalizing c w with
  | nil => rfl
  | cons p ps ih => exact congrArg (p :: ·) (ih _ _)

/-- The report about a failure is all that a step adds to the attempt. -/
theorem after_buildNext (t : Target) (folder p : Path) (c : Compiler) (w : Workspace) :
    ((buildNext t folder {} p).exec c w).1.2 = ((buildFor t folder p).exec c w).1.2 ∧
      ((buildNext t folder {} p).exec c w).2.view = ((buildFor t folder p).exec c w).2.view := by
  rw [exec_buildNext]
  rcases (buildFor t folder p).exec c w with ⟨⟨e | b, c'⟩, w'⟩
  · by_cases he : isContained e
    · simp only [he]
      exact ⟨rfl, rfl⟩
    · simp only [he]
      exact ⟨rfl, rfl⟩
  · exact ⟨rfl, rfl⟩

/-- An attempt starts with a compiler that has the rules and keeps only sound artifacts, and it sees
what is seen in a workspace. -/
structure Attempt.Ready (A : Archive) (rules : List Text) (w : Workspace) (a : Attempt) : Prop where
  keeps : A.Keeps a.compiler
  rules : a.compiler.rules = rules
  view : a.workspace.view = w.view

/-- **Every attempt of a build starts like the first one**, but for the files. -/
theorem ready_of_mem_attempts (hc : A.Keeps c)
    (hA : ∀ a ∈ attempts t folder c w ps, A.Determines a.workspace) :
    ∀ a ∈ attempts t folder c w ps, a.Ready A c.rules w := by
  induction ps generalizing c w with
  | nil => exact fun a ha => nomatch ha
  | cons p ps ih =>
    rw [attempts, List.forall_mem_cons] at hA ⊢
    obtain ⟨hstate, hview⟩ := after_buildNext t folder p c w
    rw [state_buildFor] at hstate
    rw [view_exec_buildFor] at hview
    have hkeeps : A.Keeps ((buildNext t folder {} p).exec c w).1.2 := by
      rw [hstate]
      exact keeps_step hc hA.1.toAgrees (.compileFile p none (some t.name))
    refine ⟨⟨hc, rfl, rfl⟩, fun a ha => ?_⟩
    have hready := ih hkeeps hA.2 a ha
    refine ⟨hready.keeps, ?_, hready.view.trans hview⟩
    rw [hready.rules, hstate, rules_compileFile]

/-! ### All documents -/

/-- The workspace in which the first document is attempted. -/
def begun (w : Workspace) (ps : List Path) : Workspace :=
  { w with events := buildingEvent ps.length :: w.events }

theorem result_buildAll (ht : c.targetNamed target = .ok t) (folder : Path) (ps : List Path) :
    ((buildAll target folder ps).exec c w).1.1 =
      ((ps.foldlM (buildNext t folder) {}).exec c (begun w ps)).1.1 := by
  simp only [buildAll, begun, JobOn.exec_bind, JobOn.exec_liftM, Job.exec_report,
    exec_targetOr_eq, ht]
  rcases (ps.foldlM (buildNext t folder) {}).exec c
    { w with events := buildingEvent ps.length :: w.events } with ⟨⟨e | r, c'⟩, w'⟩ <;> rfl

/-- The compiler was just made. -/
def JustMade (d : Compiler) : Prop :=
  ∃ target rules capacity w v, (make target rules capacity).exec w = (.ok d, v)

/-- How each of several documents is built.  The build gives a report if no path of a document has a
null character, and no document gets as far as the folder if the path of the folder has one
(`returns`); only such a path stops it (`stopped`); the report accounts for an attempt on each
document (`paths`, `accounts`); and what becomes of an attempt is what becomes of the document if a
compiler that was just made builds it alone, with the files that the attempts before have left
(`alone`). -/
structure BuildsEach (target : Option Text) (t : Target) (folder : Path) (ps : List Path)
    (c : Compiler) (w : Workspace) : Prop where
  paths : (attempts t folder c (begun w ps) ps).map (·.path) = ps
  returns : (∃ r, ((buildAll target folder ps).exec c w).1.1 = .ok r) ↔
    (∀ p ∈ ps, p.hasNull = false) ∧ (folder.hasNull →
      ∀ a ∈ attempts t folder c (begun w ps) ps, a.FailsBefore t folder)
  stopped : ∀ e, ((buildAll target folder ps).exec c w).1.1 = .error e → e = Source.nullInPath
  accounts : ∀ r, ((buildAll target folder ps).exec c w).1.1 = .ok r →
    Accounts t folder (attempts t folder c (begun w ps) ps) r
  alone : ∀ a ∈ attempts t folder c (begun w ps) ps, ∀ d v, JustMade d → d.rules = c.rules →
    a.workspace.SameFiles v → v.view = w.view →
      SameEnd ((buildFor t folder a.path).exec a.compiler a.workspace)
        ((buildFor t folder a.path).exec d v)

/-- Each failure is contained if and only if no path is rejected. -/
theorem contained_iff (hA : ∀ a ∈ as, A.Determines a.workspace)
    (hready : ∀ a ∈ as, a.Ready A c.rules w) (ho : w.currentOptions = .ok o) (t : Target)
    (folder : Path) :
    (∀ a ∈ as, a.Contained t folder) ↔ (∀ p ∈ as.map (·.path), p.hasNull = false) ∧
      (folder.hasNull → ∀ a ∈ as, a.FailsBefore t folder) := by
  have hoptions {a : Attempt} (ha : a ∈ as) : a.workspace.currentOptions = .ok o :=
    (Workspace.currentOptions_of_view (hready a ha).view).trans ho
  have hstops {a : Attempt} (ha : a ∈ as) (hp : a.path.hasNull = false) (hnull : folder.hasNull) :
      a.outcome t folder = .error Source.nullInPath ↔ ¬ a.FailsBefore t folder := by
    unfold Attempt.outcome Attempt.FailsBefore
    rw [buildFor_eq_null_iff (hready a ha).keeps (hA a ha) (hoptions ha) hp hnull, not_or,
      Option.not_isSome_iff_eq_none]
    rcases ((compileFile a.path none (some t.name)).exec a.compiler a.workspace).1.1 <;> simp
  constructor
  · intro hcontained
    have hpaths : ∀ a ∈ as, a.path.hasNull = false := by
      intro a ha
      by_contra hnull
      have hout := buildFor_of_hasNull (hready a ha).keeps (hA a ha) (hoptions ha)
        (Bool.eq_true_of_not_eq_false hnull) t folder
      exact nomatch hcontained a ha _ hout
    refine ⟨List.forall_mem_map.2 hpaths, fun hnull a ha => ?_⟩
    by_contra hgets
    exact nomatch hcontained a ha _ ((hstops ha (hpaths a ha) hnull).2 hgets)
  · rintro ⟨hpaths, hfolder⟩ a ha e he
    have hp : a.path.hasNull = false := hpaths a.path (List.mem_map_of_mem ha)
    rcases isContained_or_null_of_buildFor (hready a ha).keeps (hA a ha) (hoptions ha) he with
      hcontained | ⟨hnull | hnull, rfl⟩
    · exact hcontained
    · rw [hp] at hnull
      cases hnull
    · exact absurd (hfolder hnull a ha) ((hstops ha hp hnull).1 he)

/-- **A build of several documents builds each of them.**  Take a compiler with any history that
agrees with an archive, a target and default options that are there, and any files: what they hold
is determined by place and time.  Then a build gives a report that accounts for every document,
unless a path with a null character stops it, and no document's build matters to that of another one
but by the files that it leaves.  Paths are texts of whole characters: one with half a surrogate
pair, which a file system refuses in the way of a null character, is no `Text`. -/
theorem buildsEach (A : Archive) {maker : Job Target} {rules : Option (List Text)}
    {capacity : Option Int} {c₀ c : Compiler} {w₀ v₀ w : Workspace}
    (hmake : (make maker rules capacity).exec w₀ = (.ok c₀, v₀)) {steps : List Step}
    (hsteps : ∀ before, before <+: steps → A.Agrees (reached (c₀, v₀) before).2)
    (hreached : reached (c₀, v₀) steps = (c, w)) (ht : c.targetNamed target = .ok t)
    (ho : w.currentOptions = .ok o) (folder : Path) (ps : List Path)
    (hA : ∀ a ∈ attempts t folder c (begun w ps) ps, A.Determines a.workspace) :
    BuildsEach target t folder ps c w := by
  have hc : A.Keeps c := by
    have hkeeps := keeps_reached (keeps_make A hmake) hsteps
    rwa [hreached] at hkeeps
  have hready := ready_of_mem_attempts hc hA
  have hpaths := map_path_attempts t folder c (begun w ps) ps
  have hiff {r : BuildReport} := @result_foldlM_buildNext_eq_ok_iff t folder c (begun w ps) ps {} r
  have hresult := result_buildAll (w := w) ht folder ps
  constructor
  case paths => exact hpaths
  case returns =>
    have hcontained := contained_iff hA hready ho t folder
    rw [hpaths] at hcontained
    rw [hresult, ← hcontained]
    exact ⟨fun ⟨r, hr⟩ => (hiff.1 hr).1, fun h => ⟨_, hiff.2 ⟨h, rfl⟩⟩⟩
  case stopped =>
    intro e he
    rw [hresult] at he
    obtain ⟨a, ha, hout, hnot⟩ := exists_of_result_foldlM_buildNext he
    have hoptions := (Workspace.currentOptions_of_view (hready a ha).view).trans ho
    rcases isContained_or_null_of_buildFor (hready a ha).keeps (hA a ha) hoptions hout with
      hcontained | ⟨-, hnull⟩
    · rw [hnot] at hcontained
      cases hcontained
    · exact hnull
  case accounts =>
    intro r hr
    rw [hresult] at hr
    rw [← (hiff.1 hr).2]
    exact accounts_foldl_noted _
  case alone =>
    rintro a ha d v ⟨_, _, _, _, _, hd⟩ hrules hfiles hview
    exact buildFor_alone (hready a ha).keeps (keeps_make A hd) (hrules.trans (hready a ha).rules.symm)
      (hA a ha) hfiles (hview.trans (hready a ha).view.symm) t folder a.path

/-- A compiler, and a workspace with one document. -/
def withDocument : Compiler × Workspace := reached (keepingTwo, {}) [writing changing "one" 1]

/-- A document that is missing, and one that is there. -/
def missingFirst : List Path := [below ["gone.md"], changing]

/-- The archive of the document alone; nothing that can be read is anywhere else. -/
def oneDocument : Archive :=
  archiveOf fun x _ => if x = changing.parts then Bytes.encode "one" else [0xff]

/-- A document that is missing does not stop the one behind it. -/
theorem buildsEach_past_missing_document :
    BuildsEach none .typescript (below ["out"]) missingFirst withDocument.1 withDocument.2 ∧
      ((buildAll none (below ["out"]) missingFirst).exec withDocument.1
          withDocument.2).1.1.toOption.map (fun r =>
        (r.built.map (·.source), r.failed.map (·.1))) = some ([changing], [below ["gone.md"]]) := by
  have hmake : (make (pure .typescript) (some []) (some 2)).exec {} = (.ok keepingTwo, {}) := rfl
  have hagrees : ∀ before, before <+: [writing changing "one" 1] →
      oneDocument.Agrees (reached (keepingTwo, {}) before).2 := by
    intro before hbefore
    have hall : [writing changing "one" 1].inits.all fun before =>
        ((reached (keepingTwo, {}) before).2.passes.getD []).isEmpty &&
          (reached (keepingTwo, {}) before).2.files.entries.all oneDocument.knows := by
      decide +kernel
    have hmem := List.mem_inits before [writing changing "one" 1] |>.2 hbefore
    obtain ⟨hpasses, hfiles⟩ := Bool.and_eq_true_iff.1 (List.all_eq_true.1 hall _ hmem)
    exact oneDocument.agrees_of_all hpasses hfiles
  have hall : (attempts .typescript (below ["out"]) withDocument.1
      (begun withDocument.2 missingFirst) missingFirst).all fun a =>
        (a.workspace.passes.getD []).isEmpty && a.workspace.files.entries.all oneDocument.knows &&
          a.workspace.files.entryAt? changing.parts != some .folder := by
    decide +kernel
  refine ⟨buildsEach oneDocument hmake hagrees rfl rfl rfl _ _ fun a ha => ?_, by decide +kernel⟩
  obtain ⟨hknown, hfile⟩ := Bool.and_eq_true_iff.1 (List.all_eq_true.1 hall a ha)
  obtain ⟨hpasses, hfiles⟩ := Bool.and_eq_true_iff.1 hknown
  refine ⟨oneDocument.agrees_of_all hpasses hfiles, fun x hx s => ?_⟩
  by_cases hplace : x = changing.parts
  · rw [hplace] at hx
    rw [hx] at hfile
    cases hfile
  · have hbytes : oneDocument.bytes x 0 = [0xff] := if_neg hplace
    rw [hbytes]
    exact fun h => nomatch h

end Compiler

end PromptPress

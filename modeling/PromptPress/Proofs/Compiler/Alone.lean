import PromptPress.Proofs.Compiler.Build
import PromptPress.Proofs.Compiler.Options

/-!
# Building one document

What is built for a document depends on the files, on the time at which they are written, and on what
is seen of the settings and the default passes; it does not depend on what was kept of other
documents, nor on who builds it (`buildFor_alone`).  For that the artifacts that are kept have to be
sound: a time at a place stands for one content, and never both for a file and for a folder
(`Archive.Determines`).

A build leaves what is seen of the settings and the default passes as it is (`view_exec_buildFor`),
and it fails with errors that stop no other document, except that a path may be rejected
(`isContained_or_null_of_buildFor`).
-/

namespace PromptPress

open Workspace (Loads)

/-! ### Operations on files -/

/-- The workspaces have the same files, and what is written next gets the same time in them. -/
structure Workspace.SameFiles (w v : Workspace) : Prop where
  files : v.files = w.files
  time : v.filesWritten = w.filesWritten

open Workspace (SameFiles)

theorem Workspace.SameFiles.symm {w v : Workspace} (h : SameFiles w v) : SameFiles v w :=
  ⟨h.files.symm, h.time.symm⟩

theorem Workspace.SameFiles.trans {w v u : Workspace} (h : SameFiles w v) (h' : SameFiles v u) :
    SameFiles w u := ⟨h'.files.trans h.files, h'.time.trans h.time⟩

theorem Workspace.lasting_sameFiles (w : Workspace) : Workspace.Lasting (SameFiles w) :=
  ⟨fun _ h => ⟨h.files, h.time⟩, fun _ _ h => ⟨h.files, h.time⟩, fun _ h => ⟨h.files, h.time⟩,
    fun _ h => ⟨h.files, h.time⟩⟩

namespace Job

variable {α β : Type}

/-- What the operation gives, and what it does to the files, depends on the files alone; settings and
default passes stay as they are. -/
structure OnFiles (j : Job α) : Prop where
  agree : ∀ {w v}, SameFiles w v →
    (j.exec v).1 = (j.exec w).1 ∧ SameFiles (j.exec w).2 (j.exec v).2
  kept : ∀ w, (j.exec w).2.settings = w.settings ∧ (j.exec w).2.passes = w.passes

theorem OnFiles.bind {x : Job α} {f : α → Job β} (hx : OnFiles x) (hf : ∀ a, OnFiles (f a)) :
    OnFiles (x >>= f) := by
  constructor
  · intro w v h
    obtain ⟨hresult, hfiles⟩ := hx.agree h
    rw [exec_bind, exec_bind]
    revert hresult hfiles
    rcases x.exec w with ⟨e | a, w'⟩ <;> rcases x.exec v with ⟨e' | a', v'⟩ <;>
      intro hresult hfiles <;> cases hresult
    · exact ⟨rfl, hfiles⟩
    · exact (hf a).agree hfiles
  · intro w
    obtain ⟨hsettings, hpasses⟩ := hx.kept w
    rw [exec_bind]
    revert hsettings hpasses
    rcases x.exec w with ⟨e | a, w'⟩ <;> intro hsettings hpasses
    · exact ⟨hsettings, hpasses⟩
    · exact ⟨((hf a).kept w').1.trans hsettings, ((hf a).kept w').2.trans hpasses⟩

theorem onFiles_report (e : Log.Event) : OnFiles (report e) :=
  ⟨fun h => ⟨rfl, h.files, h.time⟩, fun _ => ⟨rfl, rfl⟩⟩

theorem onFiles_makeFolders (p : Path) : OnFiles (makeFolders p) := by
  constructor
  · intro w v h
    rw [exec_makeFolders, exec_makeFolders, h.files]
    exact ⟨rfl, rfl, h.time⟩
  · intro w
    rw [exec_makeFolders]
    exact ⟨rfl, rfl⟩

theorem onFiles_writeModule (p : Path) (s : Text) : OnFiles (writeModule p s) := by
  constructor
  · intro w v h
    rw [exec_writeModule, exec_writeModule, h.files, h.time]
    cases w.files.write p (Bytes.encode s) w.filesWritten with
    | error f => exact ⟨rfl, h⟩
    | ok t => exact ⟨rfl, rfl, rfl⟩
  · intro w
    rw [exec_writeModule]
    cases w.files.write p (Bytes.encode s) w.filesWritten <;> exact ⟨rfl, rfl⟩

/-! ### Loading -/

theorem Settled.maintains {j : Job α} (h : Settled j) (w : Workspace) : Maintains (Loads w) j :=
  fun v hv => hv.trans (h.loads v)

theorem maintains_loads_compileSource (w : Workspace) (c : Compiler) (t : Target) (p : Path)
    (o : PlainText.Options) : Maintains (Loads w) (c.compileSource t p o) := by
  have hload : Maintains (Loads w) (load .utf8 p) :=
    Maintains.get.bind fun _ => (Maintains.ofExcept _).bind fun _ =>
      ((Settled.report _).maintains w).bind fun _ => Maintains.pure _
  have hstamp (a : Artifact) : Maintains (Loads w) (stampArtifact a) :=
    fun v hv => hv.trans ⟨rfl, rfl, .inl rfl, .inl rfl⟩
  exact hload.bind fun _ => (((Settled.compileFor c t _ _ _).maintains w).tryCatch fun _ =>
    Maintains.throw _).bind hstamp

end Job

theorem Workspace.currentOptions_of_view {w v : Workspace} (h : v.view = w.view) :
    v.currentOptions = w.currentOptions := by
  have hsettings : v.currentSettings = w.currentSettings := congrArg Prod.fst h
  have hpasses : v.currentPasses = w.currentPasses := congrArg Prod.snd h
  rw [currentOptions, currentOptions, hsettings, hpasses]

/-! ### What compiling a file leaves -/

/-- The settings and the default passes are loaded. -/
def Workspace.IsLoaded (w : Workspace) : Prop := w.settings.isSome ∧ w.passes.isSome

theorem Workspace.IsLoaded.of_loads {w v : Workspace} (hw : w.IsLoaded) (h : Loads w v) :
    v.IsLoaded := by
  obtain ⟨s, hs⟩ := Option.isSome_iff_exists.1 hw.1
  obtain ⟨ps, hps⟩ := Option.isSome_iff_exists.1 hw.2
  exact ⟨Option.isSome_iff_exists.2 ⟨s, h.settings_of_some hs⟩,
    Option.isSome_iff_exists.2 ⟨ps, h.passes_of_some hps⟩⟩

/-- What is loaded is seen, whatever becomes of the files. -/
theorem Workspace.IsLoaded.view_eq {w v : Workspace} (hw : w.IsLoaded)
    (hsettings : v.settings = w.settings) (hpasses : v.passes = w.passes) : v.view = w.view := by
  obtain ⟨s, hs⟩ := Option.isSome_iff_exists.1 hw.1
  obtain ⟨ps, hps⟩ := Option.isSome_iff_exists.1 hw.2
  unfold Workspace.view
  rw [Workspace.currentSettings_of_some hs, Workspace.currentPasses_of_some hps,
    Workspace.currentSettings_of_some (hsettings.trans hs),
    Workspace.currentPasses_of_some (hpasses.trans hps)]

namespace Compiler

variable {c c' d : Compiler} {w w' v : Workspace} {t : Target} {p : Path} {o : PlainText.Options}
  {a : Stamped Artifact}

theorem exec_targetOr_name (t : Target) (c : Compiler) (w : Workspace) :
    (targetOr (some t.name)).exec c w = ((.ok t, c), w) := by
  rw [exec_targetOr_eq]
  cases t <;> rfl

theorem maintains_loads_compileFile (w : Workspace) (t : Target) (p : Path) :
    JobOn.Maintains (fun _ v => Loads w v) (compileFile p none (some t.name)) :=
  maintains_compileFile_of (JobOn.Maintains.liftM fun _ => Job.maintains_target_some _ t.name)
    (fun v hv => hv.trans (exec_defaultOptions v).2) (Job.maintains_loads_compileSource w)
    (fun e => (Job.Settled.report e).maintains w) p none

theorem isLoaded_of_exec_defaultOptions (ho : defaultOptions.exec w = (.ok o, v)) :
    v.IsLoaded := by
  obtain ⟨-, es, -, hes⟩ := passes_of_exec_defaultOptions ho
  refine ⟨?_, Option.isSome_iff_exists.2 ⟨es, hes⟩⟩
  obtain ⟨s, u, hs, h⟩ := Job.exec_bind_eq_ok.1 ho
  obtain ⟨es', u', hpasses, h⟩ := Job.exec_bind_eq_ok.1 h
  cases h
  have hloads := (Job.exec_defaultPasses u).2.1
  rw [hpasses] at hloads
  have hu : u.settings = some s := by
    rw [Job.exec_settings] at hs
    split at hs
    · cases hs
      assumption
    · split at hs <;> cases hs
      rfl
  exact Option.isSome_iff_exists.2 ⟨s, hloads.settings_of_some hu⟩

theorem exec_compileCached_of_compileFile
    (h : (compileFile p none (some t.name)).exec c w = ((.ok a, c'), w')) :
    (compileCached t p).exec c w = ((.ok a, c'), w') := by
  unfold compileFile JobOn.onError at h
  rw [JobOn.exec_tryCatch, JobOn.exec_bind, exec_targetOr_name] at h
  dsimp only at h
  rcases hrun : (compileCached t p).exec c w with ⟨⟨e | b, d⟩, v⟩
  · rw [hrun] at h
    dsimp only at h
    rw [JobOn.exec_liftM_bind_ok (Job.exec_report _ _), JobOn.exec_throw] at h
    cases h
  · rw [hrun] at h
    cases h
    rfl

theorem isLoaded_of_compileFile
    (h : (compileFile p none (some t.name)).exec c w = ((.ok a, c'), w')) : w'.IsLoaded := by
  cases cachedRun (exec_compileCached_of_compileFile h) with
  | hit ho hk hget =>
    obtain rfl := Archive.eq_of_exec_keyOf hk
    obtain ⟨hsettings, hpasses⟩ := isLoaded_of_exec_defaultOptions ho
    exact ⟨hsettings, hpasses⟩
  | made ho hk hget hs =>
    obtain rfl := Archive.eq_of_exec_keyOf hk
    have hloads := (Job.maintains_loads_compileSource _ c t p _).of_exec hs (Loads.refl _)
    exact (isLoaded_of_exec_defaultOptions ho).of_loads hloads

theorem rules_compileFile (t : Target) (p : Path) (c : Compiler) (w : Workspace) :
    ((compileFile p none (some t.name)).exec c w).1.2.rules = c.rules := by
  rw [exec_compileFile_none, exec_targetOr_name]
  dsimp only
  rcases hrun : (compileCached t p).exec c w with ⟨⟨r, c'⟩, w'⟩
  cases cachedRun hrun <;> rfl

/-! ### What becomes of a file -/

/-- A document that is read gives what its text gives, up to the wording of errors. -/
theorem toOption_fileResult (hc : c.IsPlain) {es : List (Option Pass)} (ho : o.passes = some es)
    {src : Source} (hsrc : Source.load w.files .utf8 p = .ok src) :
    (c.fileResult t p o w).toOption = (outcome c.rules t o none src.text).toOption := by
  rw [← toOption_compileSource hc t ho hsrc, ← value_exec_compileSource]
  cases ((c.compileSource t p o).exec w).1 <;> rfl

/-- What becomes of a file depends on the rules, on the files and on what is seen. -/
theorem fileResult_congr (hc : c.IsPlain) (hd : d.IsPlain) (hrules : d.rules = c.rules)
    (hfiles : v.files = w.files) (hview : v.view = w.view) (t : Target) (p : Path)
    (o : PlainText.Options) : d.fileResult t p o v = c.fileResult t p o w := by
  unfold fileResult
  rw [hfiles]
  split
  · rfl
  · rename_i src _
    have hsame : d.compileFor t (.str src.text) (some o) (some p.name) =
        c.compileFor t (.str src.text) (some o) (some p.name) := by
      unfold compileFor
      rw [hd.extract, hc.extract, hd.inspect, hc.inspect, hrules]
    rw [hsame, (Job.Settled.compileFor c t _ (some o) (some p.name)).result hview]

end Compiler

/-! ### What an archive determines -/

/-- The time of the last change. -/
def Entry.time : Entry → Int
  | .file _ m => m
  | .folder => 0

theorem Tree.modified_eq (t : Tree) (p : Path) : t.modified p = (t.stat p).map Entry.time := by
  unfold Tree.modified
  rcases t.stat p with f | ⟨b, m⟩ | _ <;> rfl

namespace Archive

open Compiler

/-- The workspace agrees with the archive, and where it has a folder the archive has no text at the
time that a folder has. -/
structure Determines (A : Archive) (w : Workspace) : Prop extends A.Agrees w where
  folders : ∀ x, w.files.entryAt? x = some .folder → ∀ s, Bytes.decode .utf8 (A.bytes x 0) ≠ .ok s

variable {A : Archive} {c d : Compiler} {w v u : Workspace} {t : Target} {p : Path}
  {o : PlainText.Options} {k : ArtifactKey} {e : Error}

/-- Default passes that are not set come from names. -/
theorem exists_ofNames_of_currentPasses {es : List (Option Pass)} (hnone : w.passes = none)
    (h : w.currentPasses = .ok es) : ∃ names ps, Pass.ofNames names = .ok ps ∧ es = ps.map some := by
  rw [Workspace.currentPasses_of_none hnone] at h
  rcases hs : w.currentSettings with e | s
  · rw [hs] at h
    cases h
  · rw [hs] at h
    change (Pass.ofNames s.defaultPasses).map _ = .ok es at h
    rcases hnames : Pass.ofNames s.defaultPasses with e | ps
    · rw [hnames] at h
      cases h
    · rw [hnames] at h
      exact ⟨s.defaultPasses, ps, hnames, (Except.ok.inj h).symm⟩

/-- A workspace with the same files in which the same is seen agrees with the archive too. -/
theorem Determines.of_view (hw : A.Determines w) (hfiles : v.files = w.files)
    (hview : v.view = w.view) : A.Determines v := by
  refine ⟨⟨hfiles ▸ hw.files, fun es p hes hp => ?_⟩, hfiles ▸ hw.folders⟩
  have hcurrent : w.currentPasses = .ok es :=
    (congrArg Prod.snd hview).symm.trans (Workspace.currentPasses_of_some hes)
  cases hpasses : w.passes with
  | some qs =>
    obtain rfl := Except.ok.inj ((Workspace.currentPasses_of_some hpasses).symm.trans hcurrent)
    exact hw.passes qs p hpasses hp
  | none =>
    obtain ⟨names, ps, hnames, rfl⟩ := exists_ofNames_of_currentPasses hpasses hcurrent
    have hmem : p ∈ ps := by simpa using hp
    exact A.pass_of_mem_builtin (Pass.mem_builtin_of_ofNames hnames p hmem)

theorem Determines.of_loads (hw : A.Determines w) (h : Loads w v) : A.Determines v :=
  hw.of_view h.files h.view_eq

theorem artifact?_eq_none (h : ∀ s, Bytes.decode .utf8 (A.bytes k.place k.modified) ≠ .ok s) :
    A.artifact? k = none := by
  unfold artifact?
  cases hd : Bytes.decode .utf8 (A.bytes k.place k.modified) with
  | error _ => rfl
  | ok s => exact absurd hd (h s)

theorem exists_entry_of_exec_keyOf (hk : (keyOf t c.rules p o).exec v = (.ok k, u)) :
    ∃ entry, v.files.stat p = .ok entry ∧ v.files.entryAt? k.place = some entry ∧
      k.modified = entry.time ∧ Source.modifiedAt v.files p = .ok k.modified := by
  simp only [keyOf, Job.exec_bind, Job.exec_get, Job.exec_ofExcept] at hk
  rcases hm : Source.modifiedAt v.files p with e | m
  · rw [hm] at hk
    cases hk
  rw [hm] at hk
  cases hk
  have hmodified := (Source.modifiedAt_eq_ok_iff.1 hm).2
  rw [Tree.modified_eq] at hmodified
  rcases hs : v.files.stat p with f | entry
  · rw [hs] at hmodified
    cases hmodified
  obtain ⟨x, hx, hentry⟩ := Tree.stat_eq_ok_iff.1 hs
  rw [hs] at hmodified
  exact ⟨entry, rfl, by rwa [hx], (Except.ok.inj hmodified).symm, rfl⟩

/-- The key of a document that cannot be read stands for nothing. -/
theorem Determines.artifact?_of_unread (hv : A.Determines v)
    (hk : (keyOf t c.rules p o).exec v = (.ok k, u))
    (hload : Source.load v.files .utf8 p = .error e) : A.artifact? k = none := by
  obtain ⟨entry, hs, hentry, htime, hm⟩ := exists_entry_of_exec_keyOf hk
  refine artifact?_eq_none fun s hd => ?_
  rw [htime] at hd
  cases entry with
  | folder => exact hv.folders k.place hentry s hd
  | file b m =>
    rw [Entry.time, hv.files k.place b m hentry] at hd
    unfold Source.load at hload
    rw [hm, Tree.read_eq_ok_iff.2 ⟨_, hs⟩] at hload
    dsimp only at hload
    rw [hd] at hload
    cases hload

/-! ### Looking a document up -/

/-- **Looking a document up gives what making its artifact gives**, errors included. -/
theorem value_compileCached (hc : A.Keeps c) (hw : A.Determines w) (t : Target) (p : Path) :
    ((compileCached t p).exec c w).1.1.map Stamped.value =
      w.currentOptions.bind fun o => c.fileResult t p o w := by
  obtain ⟨hoptions, hloads⟩ := exec_defaultOptions w
  rw [← hoptions]
  rcases hrun : (compileCached t p).exec c w with ⟨⟨r, c'⟩, w'⟩
  cases cachedRun hrun with
  | unsettled ho =>
    rw [ho]
    rfl
  | missing ho hk =>
    rw [ho] at hloads ⊢
    have hload := Source.load_eq_error_of_modifiedAt .utf8 (modifiedAt_of_exec_keyOf hk)
    rw [hloads.files] at hload
    show _ = c.fileResult t p _ w
    rw [fileResult, hload]
    rfl
  | hit ho hk hget =>
    rw [ho] at hloads ⊢
    show _ = c.fileResult t p _ w
    rw [← fileResult_of_loads hloads]
    have hkept := hc.entries _ (Recent.mem_of_get_eq_some hget)
    rcases hload : Source.load w.files .utf8 p with e | src
    · -- What cannot be read is not kept.
      have hnone := (hw.of_loads hloads).artifact?_of_unread hk (hloads.files ▸ hload)
      rw [hnone] at hkept
      cases hkept
    · obtain ⟨-, es, hes, -⟩ := passes_of_exec_defaultOptions ho
      obtain ⟨k', hk', hartifact⟩ := exists_key_of_settled hw.toAgrees ho t c.rules hload
      rw [hk'] at hk
      cases hk
      rw [← toOption_fileResult hc.plain hes (hloads.files ▸ hload), hkept] at hartifact
      rcases hresult : c.fileResult t p _ _ with e | a <;> rw [hresult] at hartifact <;>
        cases hartifact
      rfl
  | failed ho hk hget hs | made ho hk hget hs =>
    obtain rfl := eq_of_exec_keyOf hk
    rw [ho] at hloads ⊢
    show _ = c.fileResult t p _ w
    rw [← fileResult_of_loads hloads, ← value_exec_compileSource, hs]

theorem value_compileFile (hc : A.Keeps c) (hw : A.Determines w) (t : Target) (p : Path) :
    ((compileFile p none (some t.name)).exec c w).1.1.map Stamped.value =
      w.currentOptions.bind fun o => c.fileResult t p o w := by
  rw [exec_compileFile_none, exec_targetOr_name]
  exact value_compileCached hc hw t p

/-- **Compilers with the same rules make the same artifact of a file**, whatever they have kept. -/
theorem value_compileFile_congr (hc : A.Keeps c) (hd : A.Keeps d) (hrules : d.rules = c.rules)
    (hw : A.Determines w) (hfiles : v.files = w.files) (hview : v.view = w.view) (t : Target)
    (p : Path) : ((compileFile p none (some t.name)).exec d v).1.1.map Stamped.value =
      ((compileFile p none (some t.name)).exec c w).1.1.map Stamped.value := by
  rw [value_compileFile hc hw, value_compileFile hd (hw.of_view hfiles hview),
    Workspace.currentOptions_of_view hview]
  simp only [fileResult_congr hc.plain hd.plain hrules hfiles hview]

end Archive

namespace Compiler

variable {A : Archive} {c d : Compiler} {w v : Workspace} {t : Target} {folder p : Path}
  {e : Error}

/-! ### Building one document -/

/-- Writes the files of a document into their folder. -/
def output (t : Target) (folder : Path) (r : BuildResult) : Job Unit := do
  Job.makeFolders folder
  writeFiles t r

/-- A document is compiled, and then its files are written. -/
theorem exec_buildFor (t : Target) (folder p : Path) (c : Compiler) (w : Workspace) :
    (buildFor t folder p).exec c w =
      match (compileFile p none (some t.name)).exec c w with
      | ((.error e, c'), w') => ((.error e, c'), w')
      | ((.ok a, c'), w') =>
        ((((output t folder (resultOf t p folder a)).exec w').1.map fun _ => resultOf t p folder a,
          c'), ((output t folder (resultOf t p folder a)).exec w').2) := by
  simp only [buildFor, output, JobOn.exec_bind, JobOn.exec_liftM, Job.exec_bind]
  rcases (compileFile p none (some t.name)).exec c w with ⟨⟨e | a, c'⟩, w'⟩
  · rfl
  dsimp only
  rcases (Job.makeFolders folder).exec w' with ⟨e | _, u⟩
  · rfl
  dsimp only
  rcases (writeFiles t (resultOf t p folder a)).exec u with ⟨e | _, x⟩ <;> rfl

theorem onFiles_output (t : Target) (folder : Path) (r : BuildResult) :
    (output t folder r).OnFiles :=
  (Job.onFiles_makeFolders folder).bind fun _ => (Job.onFiles_writeModule _ _).bind fun _ =>
    (Job.onFiles_writeModule _ _).bind fun _ => Job.onFiles_report _

/-- What is written for a document does not show when its artifact was made. -/
theorem output_resultOf_congr {a b : Stamped Artifact} (h : b.value = a.value) :
    output t folder (resultOf t p folder b) = output t folder (resultOf t p folder a) := by
  unfold output writeFiles resultOf builtEvent
  dsimp only
  rw [h]

/-- **A build leaves what is seen of the settings and the default passes as it is.** -/
theorem view_exec_buildFor (t : Target) (folder p : Path) (c : Compiler) (w : Workspace) :
    ((buildFor t folder p).exec c w).2.view = w.view := by
  have hloads := maintains_loads_compileFile w t p c w (Loads.refl w)
  rw [exec_buildFor]
  rcases hrun : (compileFile p none (some t.name)).exec c w with ⟨⟨e | a, c'⟩, w'⟩
  · rw [hrun] at hloads
    exact hloads.view_eq
  · -- What is seen is loaded by now, so the files that are written do not matter.
    rw [hrun] at hloads
    obtain ⟨hsettings, hpasses⟩ := (onFiles_output t folder (resultOf t p folder a)).kept w'
    exact ((isLoaded_of_compileFile hrun).view_eq hsettings hpasses).trans hloads.view_eq

theorem state_buildFor (t : Target) (folder p : Path) (c : Compiler) (w : Workspace) :
    ((buildFor t folder p).exec c w).1.2 =
      ((compileFile p none (some t.name)).exec c w).1.2 := by
  rw [exec_buildFor]
  rcases (compileFile p none (some t.name)).exec c w with ⟨⟨e | a, c'⟩, w'⟩ <;> rfl

/-- What was written for a document, but for the stamp of its artifact. -/
def contents (r : BuildResult) : Path × Path × Path × Artifact :=
  (r.source, r.module, r.declaration, r.artifact.value)

/-- Two builds end in the same way: in the same result, and with the same files. -/
structure SameEnd (x y : (Except Error BuildResult × Compiler) × Workspace) : Prop where
  result : y.1.1.map contents = x.1.1.map contents
  files : Workspace.SameFiles x.2 y.2

/-- **What is built for a document does not depend on who builds it**, if what they have kept is
sound, nor on anything but the files, what is seen of the settings and the default passes, and the
time at which files are written. -/
theorem buildFor_alone (hc : A.Keeps c) (hd : A.Keeps d) (hrules : d.rules = c.rules)
    (hw : A.Determines w) (hfiles : Workspace.SameFiles w v) (hview : v.view = w.view) (t : Target)
    (folder p : Path) :
    SameEnd ((buildFor t folder p).exec c w) ((buildFor t folder p).exec d v) := by
  have hvalue := Archive.value_compileFile_congr hc hd hrules hw hfiles.files hview t p
  have hkept (c : Compiler) (w : Workspace) :=
    maintains_compileFile (Workspace.lasting_sameFiles w) p none (some t.name) c w ⟨rfl, rfl⟩
  have hc' := hkept c w
  have hd' := hkept d v
  rw [exec_buildFor, exec_buildFor]
  revert hvalue hc' hd'
  rcases (compileFile p none (some t.name)).exec c w with ⟨⟨e | a, c'⟩, w'⟩ <;>
    rcases (compileFile p none (some t.name)).exec d v with ⟨⟨e' | b, d'⟩, v'⟩ <;>
    intro hvalue hc' hd'
  -- Both fail alike, or they have the same artifact to write, and the same files to write it to.
  · obtain rfl : e' = e := Except.error.inj hvalue
    exact ⟨rfl, (hc'.symm.trans hfiles).trans hd'⟩
  · cases hvalue
  · cases hvalue
  · have hab : b.value = a.value := Except.ok.inj hvalue
    obtain ⟨hresult, hsame⟩ := (onFiles_output t folder (resultOf t p folder a)).agree
      ((hc'.symm.trans hfiles).trans hd')
    dsimp only at hresult hsame ⊢
    rw [output_resultOf_congr hab]
    refine ⟨?_, hsame⟩
    dsimp only
    rw [hresult]
    rcases (output t folder (resultOf t p folder a)).exec w' with ⟨e | _, x⟩
    · rfl
    · simp only [Except.map, contents, resultOf, hab]

/-! ### How a build fails -/

theorem isContained_of_about {name : Text} (h : e.About name) : isContained e = true := by
  unfold isContained
  rw [h.isCompilation, Bool.true_or]

/-- Writing the files of a document fails with a failure of the file system, unless the path of the
folder is rejected. -/
theorem isContained_or_null_of_output {r : BuildResult}
    (h : ((output t folder r).exec w).1 = .error e) :
    isContained e ∨ folder.hasNull ∧ e = Source.nullInPath := by
  have hwrite {p : Path} {s : Text} : (Job.writeModule p s).Raises fun e => isContained e := by
    intro w e h
    rw [Job.exec_writeModule] at h
    split at h <;> cases h
    rfl
  have hfolders : (Job.makeFolders folder).Raises fun e =>
      isContained e ∨ folder.hasNull ∧ e = Source.nullInPath := by
    intro w e h
    rw [Job.exec_makeFolders] at h
    dsimp only at h
    split at h
    · cases h
      exact .inl rfl
    · by_cases hnull : folder.hasNull
      · rw [if_pos hnull] at h
        cases h
        exact .inr ⟨hnull, rfl⟩
      · rw [if_neg hnull] at h
        cases h
  have hraises : (output t folder r).Raises fun e =>
      isContained e ∨ folder.hasNull ∧ e = Source.nullInPath :=
    hfolders.bind fun _ => (hwrite.mono fun _ => .inl).bind fun _ =>
      (hwrite.mono fun _ => .inl).bind fun _ => Job.Raises.report _
  exact hraises w e h

variable {o : PlainText.Options}

/-- **A build fails with errors that stop no other document**, unless a path is rejected. -/
theorem isContained_or_null_of_buildFor (hc : A.Keeps c) (hw : A.Determines w)
    (ho : w.currentOptions = .ok o) (h : ((buildFor t folder p).exec c w).1.1 = .error e) :
    isContained e ∨ (p.hasNull ∨ folder.hasNull) ∧ e = Source.nullInPath := by
  have hvalue := Archive.value_compileFile hc hw t p
  rw [exec_buildFor] at h
  rw [ho] at hvalue
  revert h hvalue
  rcases (compileFile p none (some t.name)).exec c w with ⟨⟨e' | a, c'⟩, w'⟩ <;> intro h hvalue
  · cases h
    have habout := about_of_fileResult hc.plain.isImpartial hvalue.symm
    by_cases hnull : p.hasNull
    · rw [if_pos hnull] at habout
      exact .inr ⟨.inl hnull, habout⟩
    · rw [if_neg hnull] at habout
      exact .inl (isContained_of_about habout)
  · dsimp only at h
    rcases hrun : ((output t folder (resultOf t p folder a)).exec w').1 with e' | _
    · rw [hrun] at h
      cases h
      exact (isContained_or_null_of_output hrun).imp_right fun ⟨hnull, he⟩ => ⟨.inr hnull, he⟩
    · rw [hrun] at h
      cases h

/-- Where the path of the folder is rejected, that is what stops a document exactly if the document
compiles and the folders above are there or can be made. -/
theorem buildFor_eq_null_iff (hc : A.Keeps c) (hw : A.Determines w) (ho : w.currentOptions = .ok o)
    (hp : p.hasNull = false) (hfolder : folder.hasNull) :
    ((buildFor t folder p).exec c w).1.1 = .error Source.nullInPath ↔
      (∃ a, ((compileFile p none (some t.name)).exec c w).1.1 = .ok a) ∧
        (w.files.makeFolders folder).2 = none := by
  have hvalue := Archive.value_compileFile hc hw t p
  have hfiles := (maintains_compileFile (Workspace.lasting_sameFiles w) p none (some t.name) c w
    ⟨rfl, rfl⟩).files
  rw [ho] at hvalue
  rw [exec_buildFor]
  revert hvalue hfiles
  rcases (compileFile p none (some t.name)).exec c w with ⟨⟨e | a, c'⟩, w'⟩ <;> intro hvalue hfiles
  · -- The errors of compiling are about the document.
    have habout := about_of_fileResult hc.plain.isImpartial hvalue.symm
    rw [hp, if_neg Bool.false_ne_true] at habout
    have hne : e ≠ Source.nullInPath := by
      rintro rfl
      exact nomatch isContained_of_about habout
    simp [hne]
  · dsimp only at hfiles ⊢
    rw [← hfiles]
    unfold output
    rw [Job.exec_bind, Job.exec_makeFolders]
    rcases (w'.files.makeFolders folder).2 with _ | ⟨f, q⟩
    · simp [hfolder, Except.map]
    · simp [Except.map, Error.ofFile, Source.nullInPath]

/-- A document whose path is rejected is not built. -/
theorem buildFor_of_hasNull (hc : A.Keeps c) (hw : A.Determines w) (ho : w.currentOptions = .ok o)
    (hp : p.hasNull) (t : Target) (folder : Path) :
    ((buildFor t folder p).exec c w).1.1 = .error Source.nullInPath := by
  have hvalue := Archive.value_compileFile hc hw t p
  have hresult : c.fileResult t p o w = .error Source.nullInPath := by
    unfold fileResult
    rw [Source.load_eq_error_of_modifiedAt .utf8 (if_pos hp)]
  rw [ho] at hvalue
  change _ = c.fileResult t p o w at hvalue
  rw [hresult] at hvalue
  rw [exec_buildFor]
  revert hvalue
  rcases (compileFile p none (some t.name)).exec c w with ⟨⟨e' | a, c'⟩, w'⟩ <;> intro hvalue
  · exact congrArg _ (Except.error.inj hvalue)
  · cases hvalue

end Compiler

end PromptPress

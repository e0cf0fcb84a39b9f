import PromptPress.Proofs.Cache.Recent
import PromptPress.Proofs.Compiler.Outcome
import PromptPress.Proofs.Files.Tree

/-!
# The cache cannot be noticed

An artifact that is kept was made from a file as it was at some time, with the passes that were set
at some time.  An `Archive` says what a file held at each time of its last change, and what the
passes do.  As long as it `Agrees` with the workspace, the key of an artifact determines the
artifact (`Archive.artifact?`), and every entry of the cache is the artifact of its key
(`Archive.Keeps`).  Everything that can happen between two looks into the cache maintains this, so
compiling a file gives what compiling its text gives (`artifact?_compileFile`).
-/

namespace PromptPress

/-! ### Documents -/

theorem Source.modifiedAt_eq_ok_iff {t : Tree} {p : Path} {m : Int} :
    Source.modifiedAt t p = .ok m ↔ p.hasNull = false ∧ t.modified p = .ok m := by
  unfold Source.modifiedAt
  by_cases hp : p.hasNull
  · simp [hp]
  · rcases t.modified p with f | m' <;> simp [hp]

theorem Source.load_eq_ok {t : Tree} {encoding : Bytes.Encoding} {p : Path} {src : Source}
    (h : Source.load t encoding p = .ok src) :
    ∃ x b s, t.placeOf p = .ok x ∧ t.entryAt? x = some (.file b src.modified) ∧
      Bytes.decode encoding b = .ok s ∧ src = ⟨p, Text.unixLines s, src.modified⟩ ∧
      Source.modifiedAt t p = .ok src.modified := by
  unfold Source.load at h
  rcases hm : Source.modifiedAt t p with e | m
  · simp [hm] at h
  rw [hm] at h
  dsimp only at h
  rcases hr : t.read p with f | b
  · simp [hr] at h
  rw [hr] at h
  dsimp only at h
  rcases hd : Bytes.decode encoding b with e | s
  · simp [hd] at h
  rw [hd] at h
  obtain rfl := Except.ok.inj h
  obtain ⟨m', hs⟩ := Tree.read_eq_ok_iff.1 hr
  obtain ⟨x, hx, he⟩ := Tree.stat_eq_ok_iff.1 hs
  obtain rfl : m' = m := by
    simpa [Tree.modified, hs] using (Source.modifiedAt_eq_ok_iff.1 hm).2
  exact ⟨x, b, s, hx, he, hd, rfl, rfl⟩

theorem Pass.mem_builtin_of_ofName {n : Text} {p : Pass} (h : Pass.ofName n = .ok p) :
    p ∈ Pass.builtin := by
  unfold Pass.ofName at h
  split at h
  · obtain rfl := Except.ok.inj h
    exact List.mem_of_find?_eq_some ‹_›
  · cases h

theorem Pass.mem_builtin_of_ofNames {names : List Text} {ps : List Pass}
    (h : Pass.ofNames names = .ok ps) : ∀ p ∈ ps, p ∈ Pass.builtin := by
  induction names generalizing ps with
  | nil =>
    obtain rfl := Except.ok.inj h
    simp
  | cons n names ih =>
    unfold Pass.ofNames at h
    split at h
    · cases h
    case h_2 p hp =>
      split at h
      · cases h
      case h_2 qs hqs =>
        obtain rfl := Except.ok.inj h
        exact List.forall_mem_cons.2 ⟨Pass.mem_builtin_of_ofName hp, ih hqs⟩

/-! ### What keys stand for -/

/-- What the files held at the times of their last changes, and what the passes do. -/
structure Archive where
  bytes : Place → Int → Bytes
  pass : PassId → Pass
  pass_frontmatter : pass .frontmatter = .frontmatter
  pass_comments : pass .comments = .comments

namespace Archive

/-- The files and the default passes of the workspace are those of the archive. -/
structure Agrees (A : Archive) (w : Workspace) : Prop where
  files : ∀ x b m, w.files.entryAt? x = some (.file b m) → A.bytes x m = b
  passes : ∀ es p, w.passes = some es → some p ∈ es → A.pass p.id = p

variable {A : Archive}

theorem pass_of_mem_builtin (A : Archive) {p : Pass} (h : p ∈ Pass.builtin) : A.pass p.id = p := by
  obtain rfl | rfl : p = .frontmatter ∨ p = .comments := by simpa [Pass.builtin] using h
  · exact A.pass_frontmatter
  · exact A.pass_comments

/-- Is the file at a place as the archive has it? -/
def knows (A : Archive) (e : Place × Entry) : Bool :=
  match e.2 with
  | .file b m => A.bytes e.1 m == b
  | .folder => true

/-- A workspace agrees with the archive if all its files do and no default passes are set. -/
theorem agrees_of_all {w : Workspace} (hpasses : (w.passes.getD []).isEmpty)
    (hfiles : w.files.entries.all A.knows) : A.Agrees w where
  files x b m h := by
    unfold Tree.entryAt? at h
    split at h
    · cases h
    · obtain ⟨⟨y, e⟩, hfind, rfl⟩ := Option.map_eq_some_iff.1 h
      obtain rfl : y = x := by simpa using List.find?_some hfind
      simpa [knows] using List.all_eq_true.1 hfiles _ (List.mem_of_find?_eq_some hfind)
  passes es p hes hp := by
    rw [hes] at hpasses
    obtain rfl : es = [] := by simpa using hpasses
    cases hp

theorem lasting_agrees (A : Archive) : Workspace.Lasting A.Agrees where
  events _ h := ⟨h.files, h.passes⟩
  settings _ _ h := ⟨h.files, h.passes⟩
  artifacts _ h := ⟨h.files, h.passes⟩
  passes hps h := by
    refine ⟨h.files, fun es p hes hp => ?_⟩
    obtain rfl := Option.some.inj hes
    have hmem := by simpa using hp
    exact A.pass_of_mem_builtin (Pass.mem_builtin_of_ofNames hps p hmem)

/-- The options that a key stands for. -/
def options (A : Archive) (k : ArtifactKey) : PlainText.Options where
  collapse := k.collapse
  passes := some (k.passes.map fun e => e.map A.pass)

/-- The artifact that a key stands for. -/
def artifact? (A : Archive) (k : ArtifactKey) : Option Artifact :=
  match Bytes.decode .utf8 (A.bytes k.place k.modified) with
  | .error _ => none
  | .ok s =>
    (Compiler.outcome k.rules k.target (A.options k) none (Text.unixLines s)).toOption

/-- Under the default options a file has a key, and the key stands for the file's artifact. -/
theorem exists_key {v : Workspace} (hv : A.Agrees v) {o : PlainText.Options}
    {es : List (Option Pass)} (ho : o.rules = none ∧ o.passes = some es) (hes : v.passes = some es)
    (t : Target) (rules : List Text) {p : Path} {src : Source}
    (hsrc : Source.load v.files .utf8 p = .ok src) :
    ∃ k, (Compiler.keyOf t rules p o).exec v = (.ok k, v) ∧
      A.artifact? k = (Compiler.outcome rules t o none src.text).toOption := by
  obtain ⟨x, b, s, hx, he, hd, htext, hm⟩ := Source.load_eq_ok hsrc
  refine ⟨⟨x, src.modified, t, o.collapse, rules, es.map fun e => e.map (·.id)⟩, ?_, ?_⟩
  · simp only [Compiler.keyOf, Job.exec_bind, Job.exec_get, Job.exec_ofExcept, hm]
    simp [hx, ho.2, Except.toOption]
  · -- The key keeps the identities of the passes, and the archive knows the passes by them.
    have hids : (es.map fun e => e.map (·.id)).map (fun e => e.map A.pass) = es := by
      rw [List.map_map]
      refine (List.map_congr_left fun e he => ?_).trans (List.map_id es)
      rcases e with _ | q
      · rfl
      · exact congrArg some (hv.passes es q hes he)
    have hoptions : o = ⟨o.collapse, some es, none⟩ := by rw [← ho.1, ← ho.2]
    rw [htext]
    simp only [artifact?, options, hv.files x b _ he, hd, hids, ← hoptions]

end Archive

/-! ### Looking a file's artifact up -/

namespace Compiler

/-- How compiling a file with the default options ends: in what result, with what compiler and in
what workspace. -/
inductive CachedRun (c : Compiler) (w : Workspace) (t : Target) (p : Path) :
    Except Error (Stamped Artifact) → Compiler → Workspace → Prop where
  | unsettled {e v} (ho : defaultOptions.exec w = (.error e, v)) : CachedRun c w t p (.error e) c v
  | missing {o v e u} (ho : defaultOptions.exec w = (.ok o, v))
      (hk : (keyOf t c.rules p o).exec v = (.error e, u)) : CachedRun c w t p (.error e) c u
  | hit {o v k u a d} (ho : defaultOptions.exec w = (.ok o, v))
      (hk : (keyOf t c.rules p o).exec v = (.ok k, u)) (hget : c.cache.get k = (some a, d)) :
      CachedRun c w t p (.ok a) { c with cache := d } { u with events := cachedEvent p :: u.events }
  | failed {o v k u d e x} (ho : defaultOptions.exec w = (.ok o, v))
      (hk : (keyOf t c.rules p o).exec v = (.ok k, u)) (hget : c.cache.get k = (none, d))
      (hs : (c.compileSource t p o).exec u = (.error e, x)) :
      CachedRun c w t p (.error e) { c with cache := d } x
  | made {o v k u d a x} (ho : defaultOptions.exec w = (.ok o, v))
      (hk : (keyOf t c.rules p o).exec v = (.ok k, u)) (hget : c.cache.get k = (none, d))
      (hs : (c.compileSource t p o).exec u = (.ok a, x)) :
      CachedRun c w t p (.ok a) { c with cache := d.put k a } x

theorem cachedRun {c c' : Compiler} {w w' : Workspace} {t : Target} {p : Path}
    {r : Except Error (Stamped Artifact)} (h : (compileCached t p).exec c w = ((r, c'), w')) :
    CachedRun c w t p r c' w' := by
  unfold compileCached at h
  rcases ho : defaultOptions.exec w with ⟨e | o, v⟩
  · rw [JobOn.exec_liftM_bind_error ho] at h
    cases h
    exact .unsettled ho
  rw [JobOn.exec_liftM_bind_ok ho, JobOn.exec_state_bind] at h
  rcases hk : (keyOf t c.rules p o).exec v with ⟨e | k, u⟩
  · rw [JobOn.exec_liftM_bind_error hk] at h
    cases h
    exact .missing ho hk
  rw [JobOn.exec_liftM_bind_ok hk] at h
  rcases hget : c.cache.get k with ⟨_ | a, d⟩
  · simp only [hget, JobOn.exec_setState_bind] at h
    rcases hs : (c.compileSource t p o).exec u with ⟨e | a, x⟩
    · rw [JobOn.exec_liftM_bind_error hs] at h
      cases h
      exact .failed ho hk hget hs
    · rw [JobOn.exec_liftM_bind_ok hs, JobOn.exec_change_bind] at h
      cases h
      exact .made ho hk hget hs
  · simp only [hget, JobOn.exec_setState_bind, JobOn.exec_liftM_bind_ok (Job.exec_report _ _)] at h
    cases h
    exact .hit ho hk hget

theorem exec_load (encoding : Bytes.Encoding) (p : Path) (w : Workspace) :
    (Job.load encoding p).exec w =
      match Source.load w.files encoding p with
      | .error e => (.error e, w)
      | .ok src => (.ok src, { w with events := src.loadedEvent :: w.events }) := by
  simp only [Job.load, Job.exec_bind, Job.exec_get, Job.exec_ofExcept]
  cases Source.load w.files encoding p <;> rfl

theorem exec_load_eq_ok {w v : Workspace} {encoding : Bytes.Encoding} {p : Path} {src : Source}
    (h : (Job.load encoding p).exec w = (.ok src, v)) :
    Source.load w.files encoding p = .ok src := by
  rw [exec_load] at h
  cases hsrc : Source.load w.files encoding p <;> rw [hsrc] at h <;> cases h
  rfl

/-- A file that can be read gives what its text gives. -/
theorem toOption_compileSource {c : Compiler} (hc : c.IsPlain) (t : Target)
    {o : PlainText.Options} {es : List (Option Pass)} (ho : o.passes = some es) {u : Workspace}
    {p : Path} {src : Source} (hsrc : Source.load u.files .utf8 p = .ok src) :
    ((c.compileSource t p o).exec u).1.toOption.map (·.value) =
      (outcome c.rules t o none src.text).toOption := by
  have hgives := gives_compileFor hc t ho (some src.path.name) src.text
    { u with events := src.loadedEvent :: u.events }
  rw [toOption_outcome c.rules t o none (some src.path.name), ← hgives]
  simp only [compileSource, Job.exec_bind, Job.exec_tryCatch, exec_load, hsrc]
  rcases (c.compileFor t (.str src.text) (some o) (some src.path.name)).exec
    { u with events := src.loadedEvent :: u.events } with ⟨e | a, v⟩ <;> rfl

end Compiler

/-! ### What the cache keeps -/

namespace Archive

open Compiler

/-- Every artifact that is kept is the one that its key stands for. -/
structure Keeps (A : Archive) (c : Compiler) : Prop where
  plain : c.IsPlain
  entries : ∀ e ∈ c.cache.entries, A.artifact? e.1 = some e.2.value

variable {A : Archive} {c c' : Compiler} {w w' v u : Workspace} {t : Target} {p : Path}
  {o : PlainText.Options} {k : ArtifactKey} {src : Source} {r : Except Error (Stamped Artifact)}

theorem eq_of_exec_keyOf (hk : (keyOf t c.rules p o).exec v = (.ok k, u)) : u = v :=
  (Job.maintains_keyOf (P := fun u => u = v) t c.rules p o).of_exec hk rfl

theorem files_of_exec_defaultOptions (ho : defaultOptions.exec w = (.ok o, v)) :
    v.files = w.files :=
  (Job.maintains_defaultOptions (Workspace.lasting_files (· = w.files))).of_exec ho rfl

/-- A file that can be read has a key, and the key stands for what the file gives. -/
theorem exists_key_of_settled (hw : A.Agrees w) (ho : defaultOptions.exec w = (.ok o, v))
    (t : Target) (rules : List Text) (hsrc : Source.load w.files .utf8 p = .ok src) :
    ∃ k, (keyOf t rules p o).exec v = (.ok k, v) ∧
      A.artifact? k = (outcome rules t o none src.text).toOption := by
  obtain ⟨hrules, es, hes, hv⟩ := passes_of_exec_defaultOptions ho
  have hagrees : A.Agrees v :=
    (Job.maintains_defaultOptions A.lasting_agrees).of_exec ho hw
  rw [← files_of_exec_defaultOptions ho] at hsrc
  exact exists_key hagrees ⟨hrules, hes⟩ hv t rules hsrc

theorem Keeps.withCache (h : A.Keeps c) {d : Recent ArtifactKey (Stamped Artifact)}
    (hd : ∀ e ∈ d.entries, A.artifact? e.1 = some e.2.value) : A.Keeps { c with cache := d } :=
  ⟨⟨h.plain.extract, h.plain.inspect⟩, hd⟩

/-- **A look-up keeps the cache sound**, whether it finds something, makes it or fails. -/
theorem Keeps.cachedRun (hc : A.Keeps c) (hw : A.Agrees w) (h : CachedRun c w t p r c' w') :
    A.Keeps c' := by
  cases h with
  | unsettled ho => exact hc
  | missing ho hk => exact hc
  | hit ho hk hget =>
    exact hc.withCache fun e he => hc.entries e (Recent.mem_of_mem_get hget he)
  | failed ho hk hget hs =>
    exact hc.withCache fun e he => hc.entries e (Recent.mem_of_mem_get hget he)
  | made ho hk hget hs =>
    refine hc.withCache fun e he => ?_
    rcases Recent.mem_or_eq_of_mem_put he with he | rfl
    · exact hc.entries e (Recent.mem_of_mem_get hget he)
    · -- The new entry: its file was read, so its key stands for what was made just now.
      obtain ⟨src, _, hload, _⟩ := Job.exec_bind_eq_ok.1 hs
      have hsrc := exec_load_eq_ok hload
      obtain rfl := eq_of_exec_keyOf hk
      obtain ⟨k', hk', hartifact⟩ := exists_key_of_settled hw ho t c.rules
        (files_of_exec_defaultOptions ho ▸ hsrc)
      rw [hk'] at hk
      cases hk
      obtain ⟨-, es, hes, -⟩ := passes_of_exec_defaultOptions ho
      rw [hartifact, ← toOption_compileSource hc.plain t hes hsrc, hs]
      rfl

/-- **Looking a file's artifact up gives what compiling its text gives.** -/
theorem toOption_of_cachedRun (hc : A.Keeps c) (hw : A.Agrees w)
    (hsrc : Source.load w.files .utf8 p = .ok src) (h : CachedRun c w t p r c' w')
    (name : Option Text) : r.toOption.map (·.value) =
      ((c.compileFor t (.str src.text) none name).exec w).1.toOption := by
  rw [compileFor_none, Job.exec_bind]
  have hcompile {o v} (ho : defaultOptions.exec w = (.ok o, v)) :
      ((c.compileFor t (.str src.text) (some o) name).exec v).1.toOption =
        (outcome c.rules t o none src.text).toOption := by
    obtain ⟨-, es, hes, -⟩ := passes_of_exec_defaultOptions ho
    rw [gives_compileFor hc.plain t hes name src.text v, toOption_outcome c.rules t o name none]
  have hmake {o v q x} (ho : defaultOptions.exec w = (.ok o, v))
      (hs : (c.compileSource t p o).exec v = (q, x)) :
      q.toOption.map (·.value) = (outcome c.rules t o none src.text).toOption := by
    obtain ⟨-, es, hes, -⟩ := passes_of_exec_defaultOptions ho
    rw [← files_of_exec_defaultOptions ho] at hsrc
    rw [← toOption_compileSource hc.plain t hes hsrc, hs]
  cases h with
  | unsettled ho =>
    rw [ho]
    rfl
  | missing ho hk =>
    obtain ⟨k, hk', -⟩ := exists_key_of_settled hw ho t c.rules hsrc
    rw [hk'] at hk
    cases hk
  | hit ho hk hget =>
    obtain ⟨k, hk', hartifact⟩ := exists_key_of_settled hw ho t c.rules hsrc
    rw [hk'] at hk
    cases hk
    rw [ho]
    exact (hc.entries _ (Recent.mem_of_get_eq_some hget)).symm.trans
      (hartifact.trans (hcompile ho).symm)
  | failed ho hk hget hs =>
    obtain rfl := eq_of_exec_keyOf hk
    rw [ho]
    exact (hmake ho hs).trans (hcompile ho).symm
  | made ho hk hget hs =>
    obtain rfl := eq_of_exec_keyOf hk
    rw [ho]
    exact (hmake ho hs).trans (hcompile ho).symm

end Archive

end PromptPress

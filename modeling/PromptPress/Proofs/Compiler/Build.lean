import Mathlib.Data.List.Basic
import PromptPress.Compiler.Build
import PromptPress.Proofs.Compiler.Lasting
import PromptPress.Proofs.Files.Tree

/-!
# What a build leaves behind

A build writes two files for each document, named after it.  A step of a build leaves every other
file of the folder as it is (`maintains_buildNext`), and when it succeeds it has written its two
files (`written_of_exec_buildFor`).  So in the end each of these files holds what was built for its
document, unless a later document has a file of the same name (`built_files_stay`).  Documents of
one name in two folders do have: then the later one replaces the earlier one's files
(`later_document_replaces_module`).
-/

namespace PromptPress

/-! ### Writing -/

namespace Job

theorem exec_makeFolders (q : Path) (w : Workspace) :
    (makeFolders q).exec w =
      (match (w.files.makeFolders q).2 with
        | some (f, q') => .error (.ofFile f q')
        | none => if q.hasNull then .error Source.nullInPath else .ok (),
        { w with files := (w.files.makeFolders q).1 }) := by
  simp only [makeFolders, exec_bind, exec_get]
  rcases w.files.makeFolders q with ⟨t, _ | ⟨f, q'⟩⟩
  · by_cases hnull : q.hasNull
    · simp only [hnull, if_true]
      rfl
    · simp only [hnull]
      rfl
  · rfl

theorem maintains_makeFolders (p q : Path) (b : Bytes) :
    Maintains (fun w => w.files.read p = .ok b) (makeFolders q) := by
  intro w hw
  rw [exec_makeFolders]
  exact (Tree.extends_makeFolders w.files q).read hw

theorem exec_writeModule (p : Path) (s : Text) (w : Workspace) :
    (writeModule p s).exec w =
      match w.files.write p (Bytes.encode s) w.filesWritten with
      | .ok t => (.ok (), { w with files := t, filesWritten := w.filesWritten + 1 })
      | .error f => (.error (.ofFile f p), w) := by
  simp only [writeModule, exec_bind, exec_get]
  rcases w.files.write p (Bytes.encode s) w.filesWritten with f | t <;> rfl

theorem read_of_exec_writeModule {p : Path} {s : Text} {w v : Workspace}
    (h : (writeModule p s).exec w = (.ok (), v)) : v.files.read p = .ok (Bytes.encode s) := by
  rw [exec_writeModule] at h
  rcases hwrite : w.files.write p (Bytes.encode s) w.filesWritten with f | t
  · rw [hwrite] at h
    cases h
  · rw [hwrite] at h
    cases h
    exact Tree.read_of_write hwrite

theorem maintains_writeModule {n k : Text} (hn : n ≠ ['.', '.']) (hk : k ≠ ['.', '.'])
    (hnk : n ≠ k) (folder : Path) (s : Text) (b : Bytes) :
    Maintains (fun w => w.files.read (folder.child n) = .ok b)
      (writeModule (folder.child k) s) := by
  intro w hw
  rw [exec_writeModule]
  rcases hwrite : w.files.write (folder.child k) (Bytes.encode s) w.filesWritten with f | t
  · exact hw
  · exact Tree.read_child_of_write hn hk hnk hwrite hw

end Job

namespace Compiler

/-- What a file holds does not change while documents are compiled. -/
theorem lasting_read (p : Path) (b : Bytes) :
    Workspace.Lasting fun w => w.files.read p = .ok b :=
  Workspace.lasting_files fun t => t.read p = .ok b

/-! ### The files of a document -/

/-- The names of the files of a document. -/
def outputNames (t : Target) (p : Path) : List Text :=
  [p.stem ++ t.moduleSuffix, p.stem ++ t.declarationSuffix]

/-- The files of a document in a folder. -/
def outputs (t : Target) (folder p : Path) : List Path := (outputNames t p).map folder.child

variable {t : Target} {folder p q : Path} {n : Text}

theorem length_of_mem_outputNames (h : n ∈ outputNames t p) : 3 ≤ n.length := by
  have hsuffix : 3 ≤ t.moduleSuffix.length ∧ 3 ≤ t.declarationSuffix.length := by
    cases t <;> decide
  rcases List.mem_pair.1 h with rfl | rfl
  · rw [List.length_append]
    omega
  · rw [List.length_append]
    omega

/-- No document has a file that is named like the folder above. -/
theorem ne_up_of_mem_outputNames (h : n ∈ outputNames t p) : n ≠ ['.', '.'] := by
  rintro rfl
  have hlength := length_of_mem_outputNames h
  simp at hlength

theorem module_mem_outputNames (t : Target) (p : Path) :
    p.stem ++ t.moduleSuffix ∈ outputNames t p := List.mem_pair.2 (.inl rfl)

theorem declaration_mem_outputNames (t : Target) (p : Path) :
    p.stem ++ t.declarationSuffix ∈ outputNames t p := List.mem_pair.2 (.inr rfl)

theorem module_ne_declaration (t : Target) (s : Text) :
    s ++ t.moduleSuffix ≠ s ++ t.declarationSuffix := by
  rw [Ne, List.append_cancel_left_eq]
  cases t <;> decide

theorem child_mem_outputs : folder.child n ∈ outputs t folder p ↔ n ∈ outputNames t p := by
  have hinj : Function.Injective folder.child := by
    intro a b hab
    simpa [Path.child] using hab
  exact List.mem_map_of_injective hinj

/-! ### One document -/

/-- What was made for a document is in its module and its declaration. -/
def Written (t : Target) (files : Tree) (r : BuildResult) : Prop :=
  files.read r.module = .ok (Bytes.encode r.artifact.value.code) ∧
    files.read r.declaration = .ok (Bytes.encode (r.artifact.value.declaration t))

theorem maintains_writeFiles {b : Bytes} (hn : n ≠ ['.', '.']) (hnp : n ∉ outputNames t p)
    (a : Stamped Artifact) :
    Job.Maintains (fun w => w.files.read (folder.child n) = .ok b)
      (writeFiles t (resultOf t p folder a)) := by
  have hmodule := module_mem_outputNames t p
  have hdeclaration := declaration_mem_outputNames t p
  refine (Job.maintains_writeModule hn (ne_up_of_mem_outputNames hmodule) ?_ folder _ b).bind
    fun _ => (Job.maintains_writeModule hn (ne_up_of_mem_outputNames hdeclaration) ?_ folder _
      b).bind fun _ => Job.maintains_report (lasting_read _ b) _
  · rintro rfl
    exact hnp hmodule
  · rintro rfl
    exact hnp hdeclaration

theorem maintains_buildFor {b : Bytes} (hn : n ≠ ['.', '.']) (hnp : n ∉ outputNames t p) :
    JobOn.Maintains (fun _ w => w.files.read (folder.child n) = .ok b) (buildFor t folder p) := by
  refine (maintains_compileFile (lasting_read _ b) p none _).bind fun a => ?_
  refine (JobOn.Maintains.liftM fun _ => Job.maintains_makeFolders _ _ b).bind fun _ => ?_
  exact (JobOn.Maintains.liftM fun _ => maintains_writeFiles hn hnp a).bind fun _ =>
    JobOn.Maintains.pure _

theorem written_of_exec_writeFiles {a : Stamped Artifact} {w w' : Workspace}
    (h : (writeFiles t (resultOf t p folder a)).exec w = (.ok (), w')) :
    Written t w'.files (resultOf t p folder a) := by
  obtain ⟨_, v, hmodule, h⟩ := Job.exec_bind_eq_ok.1 h
  obtain ⟨_, u, hdeclaration, h⟩ := Job.exec_bind_eq_ok.1 h
  rw [Job.exec_report] at h
  cases h
  -- The declaration has another name, so the module is still there behind it.
  have hkeep := Job.maintains_writeModule (ne_up_of_mem_outputNames (module_mem_outputNames t p))
    (ne_up_of_mem_outputNames (declaration_mem_outputNames t p)) (module_ne_declaration t p.stem)
    folder (a.value.declaration t) (Bytes.encode a.value.code)
  have hread := hkeep.of_exec hdeclaration (Job.read_of_exec_writeModule hmodule)
  have hread' := Job.read_of_exec_writeModule hdeclaration
  exact ⟨hread, hread'⟩

theorem written_of_exec_buildFor {c c' : Compiler} {w w' : Workspace} {r : BuildResult}
    (h : (buildFor t folder p).exec c w = ((.ok r, c'), w')) :
    (∃ a, r = resultOf t p folder a) ∧ Written t w'.files r := by
  obtain ⟨a, c₁, w₁, -, h⟩ := JobOn.exec_bind_eq_ok.1 h
  obtain ⟨_, c₂, w₂, -, h⟩ := JobOn.exec_bind_eq_ok.1 h
  obtain ⟨_, c₃, w₃, hfiles, h⟩ := JobOn.exec_bind_eq_ok.1 h
  rw [JobOn.exec_liftM, Prod.mk.injEq, Prod.mk.injEq] at hfiles
  cases h
  exact ⟨⟨a, rfl⟩, written_of_exec_writeFiles (Prod.ext hfiles.1.1 hfiles.2)⟩

/-! ### All documents -/

theorem maintains_buildNext {b : Bytes} (hn : n ≠ ['.', '.']) (hnp : n ∉ outputNames t p)
    (r : BuildReport) :
    JobOn.Maintains (fun _ w => w.files.read (folder.child n) = .ok b)
      (buildNext t folder r p) := by
  refine ((maintains_buildFor hn hnp).bind fun _ => JobOn.Maintains.pure _).tryCatch fun e => ?_
  have hreport : JobOn.Maintains (fun _ w => w.files.read (folder.child n) = .ok b) (do
      Job.report (buildFailedEvent p e)
      return { r with failed := BuildReport.recordFailure p e.text r.failed } : Compile BuildReport) :=
    (JobOn.Maintains.liftM fun _ => Job.maintains_report (lasting_read _ b) _).bind fun _ =>
      JobOn.Maintains.pure _
  dsimp only
  split
  · exact (JobOn.Maintains.throw e).bind fun _ => hreport
  · exact (JobOn.Maintains.pure ()).bind fun _ => hreport

/-- **A step of a build**: a failure is recorded, or it stops the build. -/
theorem exec_buildNext (r : BuildReport) (p : Path) (c : Compiler) (w : Workspace) :
    (buildNext t folder r p).exec c w =
      match (buildFor t folder p).exec c w with
      | ((.ok b, c'), w') => ((.ok { r with built := r.built ++ [b] }, c'), w')
      | ((.error e, c'), w') =>
        if isContained e then
          ((.ok { r with failed := BuildReport.recordFailure p e.text r.failed }, c'),
            { w' with events := buildFailedEvent p e :: w'.events })
        else ((.error e, c'), w') := by
  unfold buildNext
  rw [JobOn.exec_tryCatch, JobOn.exec_bind]
  rcases (buildFor t folder p).exec c w with ⟨⟨e | b, c'⟩, w'⟩
  · dsimp only
    by_cases he : isContained e
    · simp only [he]
      rfl
    · simp only [he]
      rfl
  · rfl

/-- A step of a build that goes on has written the files of its document, or has built nothing. -/
theorem built_of_exec_buildNext {c c' : Compiler} {w w' : Workspace} {r r' : BuildReport}
    (h : (buildNext t folder r p).exec c w = ((.ok r', c'), w')) :
    r'.built = r.built ∨ ∃ b, r'.built = r.built ++ [b] ∧ (∃ a, b = resultOf t p folder a) ∧
      Written t w'.files b := by
  rw [exec_buildNext] at h
  rcases hb : (buildFor t folder p).exec c w with ⟨⟨e | b, c₁⟩, w₁⟩
  · rw [hb] at h
    dsimp only at h
    by_cases he : isContained e
    · rw [if_pos he] at h
      cases h
      exact .inl rfl
    · rw [if_neg he] at h
      cases h
  · rw [hb] at h
    cases h
    exact .inr ⟨b, rfl, written_of_exec_buildFor hb⟩

theorem maintains_foldlM_buildNext {b : Bytes} {ps : List Path} (hn : n ≠ ['.', '.'])
    (hnps : ∀ q ∈ ps, n ∉ outputNames t q) (r : BuildReport) :
    JobOn.Maintains (fun _ w => w.files.read (folder.child n) = .ok b)
      (ps.foldlM (buildNext t folder) r) :=
  JobOn.Maintains.foldlM (fun r q hq => maintains_buildNext hn (hnps q hq) r) r

/-- The files of a document that was built are named after it, and each of them holds what was made
for the document, unless one of the documents in `after` has a file of that name. -/
structure Stays (t : Target) (folder : Path) (files : Tree) (after : List Path)
    (b : BuildResult) : Prop where
  named : b = resultOf t b.source folder b.artifact
  module : (∀ q ∈ after, b.module ∉ outputs t folder q) →
    files.read b.module = .ok (Bytes.encode b.artifact.value.code)
  declaration : (∀ q ∈ after, b.declaration ∉ outputs t folder q) →
    files.read b.declaration = .ok (Bytes.encode (b.artifact.value.declaration t))

/-- **Every document that a build reports as built comes from its list, and its files stay as long as
no later document has a file of their name.** -/
theorem stays_of_exec_foldlM {ps : List Path} {r r' : BuildReport} {c c' : Compiler}
    {w w' : Workspace}
    (h : (ps.foldlM (buildNext t folder) r).exec c w = ((.ok r', c'), w')) :
    ∀ b ∈ r'.built, b ∈ r.built ∨
      ∃ before after, ps = before ++ b.source :: after ∧ Stays t folder w'.files after b := by
  induction ps generalizing r c w with
  | nil =>
    rw [List.foldlM_nil, JobOn.exec_pure] at h
    cases h
    exact fun b hb => .inl hb
  | cons p ps ih =>
    rw [List.foldlM_cons] at h
    obtain ⟨r₁, c₁, w₁, hstep, h⟩ := JobOn.exec_bind_eq_ok.1 h
    intro b hb
    rcases ih h b hb with hb₁ | ⟨before, after, hps, hstays⟩
    · rcases built_of_exec_buildNext hstep with hsame | ⟨d, hbuilt, ⟨a, rfl⟩, hmodule, hdeclaration⟩
      · exact .inl (hsame ▸ hb₁)
      rw [hbuilt] at hb₁
      rcases List.mem_append.1 hb₁ with hold | hnew
      · exact .inl hold
      obtain rfl := List.mem_singleton.1 hnew
      -- The document was built in this step: the steps behind it leave its files alone.
      refine .inr ⟨[], ps, rfl, rfl, fun hother => ?_, fun hother => ?_⟩
      · have hn := ne_up_of_mem_outputNames (module_mem_outputNames t p)
        exact (maintains_foldlM_buildNext hn
          (fun q hq hmem => hother q hq (child_mem_outputs.2 hmem)) r₁).of_exec h hmodule
      · have hn := ne_up_of_mem_outputNames (declaration_mem_outputNames t p)
        exact (maintains_foldlM_buildNext hn
          (fun q hq hmem => hother q hq (child_mem_outputs.2 hmem)) r₁).of_exec h hdeclaration
    · exact .inr ⟨p :: before, after, by rw [hps]; rfl, hstays⟩

/-- **What a build of several documents leaves behind.**  Every document that is reported as built
comes from the list, its files are named after it, and each of them holds exactly what was made for
it, unless a document later in the list has a file of that name. -/
theorem built_files_stay {target : Option Text} {ps : List Path} {r : BuildReport}
    {c c' : Compiler} {w w' : Workspace}
    (h : (buildAll target folder ps).exec c w = ((.ok r, c'), w')) :
    ∃ t, ((targetOr target).exec c w).1.1 = .ok t ∧ ∀ b ∈ r.built, ∃ before after,
      ps = before ++ b.source :: after ∧ Stays t folder w'.files after b := by
  obtain ⟨t, c₁, w₁, htarget, h⟩ := JobOn.exec_bind_eq_ok.1 h
  obtain ⟨_, c₂, w₂, -, h⟩ := JobOn.exec_bind_eq_ok.1 h
  obtain ⟨r₁, c₃, w₃, hfold, h⟩ := JobOn.exec_bind_eq_ok.1 h
  obtain ⟨_, c₄, w₄, hdone, h⟩ := JobOn.exec_bind_eq_ok.1 h
  cases hdone
  cases h
  refine ⟨t, by rw [htarget], fun b hb => ?_⟩
  rcases stays_of_exec_foldlM hfold b hb with hnone | ⟨before, after, hps, hstays⟩
  · cases hnone
  · exact ⟨before, after, hps, hstays⟩

/-- A compiler that has made nothing yet. -/
def fresh : Compiler where
  target := .typescript
  rules := []
  cache := .empty 256 (by decide)

/-- A workspace with documents that hold one word each. -/
def holding (documents : List (Place × Text)) : Workspace where
  files := ⟨documents.flatMap fun (x, s) =>
    [(x.dropLast, .folder), (x, .file (Bytes.encode s) 1)]⟩

/-- The path of a folder or a file below the current directory. -/
def below (x : Place) : Path := ⟨[], x⟩

theorem built_files_stay_of_two_names : ∃ r c w,
    (buildAll none (below ["out"]) [below ["a", "x.md"], below ["b", "y.md"]]).exec fresh
      (holding [(["a", "x.md"], "one"), (["b", "y.md"], "two")]) = ((.ok r, c), w) ∧
    r.built.length = 2 ∧
    ∀ b ∈ r.built, Written .typescript w.files b := by
  have hbuilt : ((buildAll none (below ["out"])
      [below ["a", "x.md"], below ["b", "y.md"]]).exec fresh
      (holding [(["a", "x.md"], "one"), (["b", "y.md"], "two")])).1.1.toOption.map
        (·.built.length) = some 2 := by
    decide +kernel
  rcases hrun : (buildAll none (below ["out"]) [below ["a", "x.md"], below ["b", "y.md"]]).exec
    fresh (holding [(["a", "x.md"], "one"), (["b", "y.md"], "two")]) with ⟨⟨e | r, c⟩, w⟩
  · rw [hrun] at hbuilt
    cases hbuilt
  rw [hrun] at hbuilt
  have hlength : r.built.length = 2 := Option.some.inj hbuilt
  obtain ⟨t, ht, hstay⟩ := built_files_stay hrun
  obtain rfl : Target.typescript = t := Except.ok.inj ht
  refine ⟨r, c, w, rfl, hlength, fun b hb => ?_⟩
  obtain ⟨before, after, hps, hb'⟩ := hstay b hb
  have hnames := congrArg BuildResult.module hb'.named
  have hnames' := congrArg BuildResult.declaration hb'.named
  rcases before with _ | ⟨_, _ | ⟨_, before⟩⟩
  · obtain ⟨hsource, rfl⟩ := List.cons.inj hps
    rw [← hsource] at hnames hnames'
    dsimp only [resultOf] at hnames hnames'
    exact ⟨hb'.module (by rw [hnames]; decide), hb'.declaration (by rw [hnames']; decide)⟩
  · obtain ⟨-, rfl⟩ := List.cons.inj (List.cons.inj hps).2
    exact ⟨hb'.module (by simp), hb'.declaration (by simp)⟩
  · simp at hps

/-- **Of two documents of one name in different folders the later one replaces the module of the
earlier one.** -/
theorem later_document_replaces_module : ∃ r c w,
    (buildAll none (below ["out"]) [below ["a", "x.md"], below ["b", "x.md"]]).exec fresh
      (holding [(["a", "x.md"], "one"), (["b", "x.md"], "two")]) = ((.ok r, c), w) ∧
    [below ["a", "x.md"], below ["b", "x.md"]].Nodup ∧
    (∀ p ∈ [below ["a", "x.md"], below ["b", "x.md"]], p.suffix = ".md".toList) ∧
    ∃ b ∈ r.built, w.files.read b.module ≠ .ok (Bytes.encode b.artifact.value.code) := by
  rcases hrun : (buildAll none (below ["out"]) [below ["a", "x.md"], below ["b", "x.md"]]).exec
    fresh (holding [(["a", "x.md"], "one"), (["b", "x.md"], "two")]) with ⟨⟨q, c⟩, w⟩
  have hlost : ((((buildAll none (below ["out"]) [below ["a", "x.md"], below ["b", "x.md"]]).exec
      fresh (holding [(["a", "x.md"], "one"), (["b", "x.md"], "two")])).1.1.toOption.map
        (·.built)).getD []).any (fun b =>
      (((buildAll none (below ["out"]) [below ["a", "x.md"], below ["b", "x.md"]]).exec
        fresh (holding [(["a", "x.md"], "one"), (["b", "x.md"], "two")])).2.files.read
          b.module).toOption != some (Bytes.encode b.artifact.value.code)) = true := by
    decide +kernel
  rw [hrun] at hlost
  rcases q with e | r
  · cases hlost
  · obtain ⟨b, hb, hne⟩ := List.any_eq_true.1 hlost
    refine ⟨r, c, w, rfl, by decide, by decide, b, hb, fun hread => ?_⟩
    rw [hread] at hne
    simp [Except.toOption] at hne

end Compiler

end PromptPress

import Mathlib.Data.List.Infix
import PromptPress.Proofs.Compiler.Cached

/-!
# Histories of a compiler

Between two compilations of files anything may happen to the workspace: files are written, touched
and removed, settings are changed or overridden, default passes are set or reset.  A `Step` of a
history is such a change, a compilation, or the clearing of the cache; a step that fails keeps what
it has done until then.

Whatever the history, if it agrees with an archive then compiling a file with the default options
gives at any moment what compiling its text would give at that moment
(`artifact?_compileFile_eq_compile`).
-/

namespace PromptPress.Compiler

/-- Something that happens to a compiler or to its workspace. -/
inductive Step where
  /-- The workspace is changed from outside. -/
  | outside (j : Job Unit)
  | compile (source : Json) (o : Option PlainText.Options) (target name : Option Text)
  | compileFile (p : Path) (o : Option PlainText.Options) (target : Option Text)
  | clearCache

/-- The compiler and the workspace after an operation. -/
def after {α : Type} (j : Compile α) (s : Compiler × Workspace) : Compiler × Workspace :=
  ((j.exec s.1 s.2).1.2, (j.exec s.1 s.2).2)

/-- The compiler and the workspace after a step. -/
def Step.after (s : Compiler × Workspace) : Step → Compiler × Workspace
  | outside j => (s.1, (j.exec s.2).2)
  | compile source o target name => Compiler.after (Compiler.compile source o target name) s
  | compileFile p o target => Compiler.after (Compiler.compileFile p o target) s
  | clearCache => Compiler.after Compiler.clearCache s

/-- The compiler and the workspace that a history leads to. -/
def reached (s : Compiler × Workspace) (steps : List Step) : Compiler × Workspace :=
  steps.foldl Step.after s

/-- The artifact that an operation gives, if it does not fail. -/
def artifact? (j : Compile (Stamped Artifact)) (s : Compiler × Workspace) : Option Artifact :=
  (j.exec s.1 s.2).1.1.toOption.map (·.value)

variable {A : Archive} {c c' : Compiler} {w w' : Workspace}

/-! ### Steps -/

/-- Finding the target leaves the compiler as it is. -/
theorem exec_targetOr (target : Option Text) (c : Compiler) (w : Workspace) :
    ∃ r v, (targetOr target).exec c w = ((r, c), v) := by
  rcases target with _ | n
  · exact ⟨.ok c.target, w, rfl⟩
  · exact ⟨_, _, rfl⟩

theorem agrees_of_exec_targetOr (hw : A.Agrees w) {target : Option Text} {r : Except Error Target}
    (h : (targetOr target).exec c w = ((r, c'), w')) : A.Agrees w' :=
  (maintains_targetOr A.lasting_agrees target).of_exec h hw

theorem maintains_eq_targetOr (target : Option Text) :
    JobOn.Maintains (fun d _ => d = c) (targetOr target) := by
  intro d w hd
  obtain ⟨r, v, h⟩ := exec_targetOr target d w
  rwa [h]

theorem state_compile (source : Json) (o : Option PlainText.Options) (target name : Option Text)
    (c : Compiler) (w : Workspace) : ((compile source o target name).exec c w).1.2 = c := by
  have h : JobOn.Maintains (fun d _ => d = c) (compile source o target name) :=
    (maintains_eq_targetOr target).bind fun t => JobOn.Maintains.state.bind fun d =>
      (JobOn.Maintains.liftM fun _ _ hd => hd).bind fun a =>
        JobOn.Maintains.liftM fun _ _ hd => hd
  exact h c w rfl

theorem state_compileFile_some (p : Path) (o : PlainText.Options) (target : Option Text)
    (c : Compiler) (w : Workspace) : ((compileFile p (some o) target).exec c w).1.2 = c := by
  have h : JobOn.Maintains (fun d _ => d = c) (compileFile p (some o) target) := by
    refine JobOn.Maintains.onError ?_ fun e => JobOn.Maintains.liftM fun _ _ hd => hd
    exact (maintains_eq_targetOr target).bind fun t => JobOn.Maintains.state.bind fun d =>
      JobOn.Maintains.liftM fun _ _ hd => hd
  exact h c w rfl

/-- With the default options a file's artifact is looked up, once the target is found. -/
theorem exec_compileFile_none (p : Path) (target : Option Text) (c : Compiler) (w : Workspace) :
    ((compileFile p none target).exec c w).1 =
      match (targetOr target).exec c w with
      | ((.ok t, d), v) => ((compileCached t p).exec d v).1
      | ((.error e, d), _) => (.error e, d) := by
  unfold compileFile
  rw [JobOn.exec_onError_report, JobOn.exec_bind]
  rcases (targetOr target).exec c w with ⟨⟨e | t, d⟩, v⟩ <;> rfl

/-- With the default options a file fails for want of a target, or its artifact is looked up. -/
theorem lookedUp_of_compileFile {p : Path} {target : Option Text}
    {r : Except Error (Stamped Artifact)}
    (h : ((compileFile p none target).exec c w).1 = (r, c')) :
    (∃ e, r = .error e) ∧ c' = c ∨
      ∃ t v w', (targetOr target).exec c w = ((.ok t, c), v) ∧ CachedRun c v t p r c' w' := by
  obtain ⟨q, v, htarget⟩ := exec_targetOr target c w
  rw [exec_compileFile_none, htarget] at h
  rcases q with e | t
  · cases h
    exact .inl ⟨⟨e, rfl⟩, rfl⟩
  · exact .inr ⟨t, v, _, htarget, cachedRun (Prod.ext h rfl)⟩

/-- What a step can make of a compiler: it stays as it is, it looks a file's artifact up, or it
forgets all artifacts. -/
inductive Stepped (c : Compiler) (w : Workspace) : Compiler → Prop where
  | same : Stepped c w c
  | lookedUp {target t v p r c' w'} (ht : (targetOr target).exec c w = ((.ok t, c), v))
      (h : CachedRun c v t p r c' w') : Stepped c w c'
  | cleared : Stepped c w { c with cache := c.cache.clear }

theorem stepped (s : Step) (c : Compiler) (w : Workspace) : Stepped c w (s.after (c, w)).1 := by
  cases s with
  | outside j => exact .same
  | clearCache => exact .cleared
  | compile source o target name =>
    show Stepped c w ((compile source o target name).exec c w).1.2
    rw [state_compile]
    exact .same
  | compileFile p o target =>
    show Stepped c w ((compileFile p o target).exec c w).1.2
    rcases o with _ | o
    · rcases lookedUp_of_compileFile (Prod.eta _).symm with ⟨-, hc⟩ | ⟨t, v, w', htarget, hrun⟩
      · rw [hc]
        exact .same
      · exact .lookedUp htarget hrun
    · rw [state_compileFile_some]
      exact .same

/-- **Every step keeps the cache sound.** -/
theorem keeps_step (hc : A.Keeps c) (hw : A.Agrees w) (s : Step) : A.Keeps (s.after (c, w)).1 := by
  have h := stepped s c w
  generalize (s.after (c, w)).1 = c' at h ⊢
  cases h with
  | same => exact hc
  | lookedUp ht h => exact hc.cachedRun (agrees_of_exec_targetOr hw ht) h
  | cleared => exact hc.withCache fun e he => by cases he

/-! ### Histories -/

/-- **Every history that agrees with the archive keeps the cache sound.** -/
theorem keeps_reached {steps : List Step} {s : Compiler × Workspace} (hc : A.Keeps s.1)
    (hA : ∀ before, before <+: steps → A.Agrees (reached s before).2) :
    A.Keeps (reached s steps).1 := by
  -- The induction goes from the first step on: what follows starts with a sound cache again.
  induction steps generalizing s with
  | nil => exact hc
  | cons step steps ih =>
    refine ih (keeps_step hc (hA [] (List.nil_prefix)) step) fun before hbefore => ?_
    exact hA (step :: before) (List.cons_prefix_cons.2 ⟨rfl, hbefore⟩)

/-- A compiler that was just made has an empty cache, wherever the capacity came from. -/
theorem exists_empty_of_exec_make {target : Job Target} {rules : Option (List Text)}
    {capacity : Option Int} (h : (make target rules capacity).exec w = (.ok c, w')) :
    ∃ t rs n hn, c = { target := t, rules := rs, cache := .empty n hn } := by
  have hempty {n : Int} {d : Recent ArtifactKey (Stamped Artifact)}
      (hd : Recent.ofCapacity? n = some d) : ∃ m hm, d = .empty m hm := by
    unfold Recent.ofCapacity? at hd
    split at hd
    · exact ⟨_, _, (Option.some.inj hd).symm⟩
    · cases hd
  obtain ⟨t, _, _, h⟩ := Job.exec_bind_eq_ok.1 h
  obtain ⟨rs, _, _, h⟩ := Job.exec_bind_eq_ok.1 h
  dsimp only at h
  split at h
  case' h_1 | h_2 => obtain ⟨_, _, _, h⟩ := Job.exec_bind_eq_ok.1 h
  all_goals
    obtain ⟨n, _, _, h⟩ := Job.exec_bind_eq_ok.1 h
    split at h
    · obtain ⟨m, hm, rfl⟩ := hempty ‹_›
      cases h
      exact ⟨t, rs, m, hm, rfl⟩
    · cases h

/-- A compiler that was just made keeps nothing. -/
theorem keeps_make (A : Archive) {target : Job Target} {rules : Option (List Text)}
    {capacity : Option Int} (h : (make target rules capacity).exec w = (.ok c, w')) :
    A.Keeps c := by
  obtain ⟨t, rs, n, hn, rfl⟩ := exists_empty_of_exec_make h
  exact ⟨⟨rfl, rfl⟩, fun e he => nomatch he⟩

/-- What a compiler that keeps only sound artifacts gives for a file. -/
theorem artifact?_compileFile (hc : A.Keeps c) (hw : A.Agrees w) {p : Path} {src : Source}
    (hsrc : Source.load w.files .utf8 p = .ok src) (target name : Option Text) :
    artifact? (compileFile p none target) (c, w) =
      artifact? (compile (.str src.text) none target name) (c, w) := by
  obtain ⟨r, v, htarget⟩ := exec_targetOr target c w
  unfold artifact?
  dsimp only
  rw [exec_compileFile_none]
  unfold compile
  rw [JobOn.exec_bind, htarget]
  rcases r with e | t
  · rfl
  dsimp only
  have hv := agrees_of_exec_targetOr hw htarget
  have hfiles : v.files = w.files :=
    (maintains_targetOr (Workspace.lasting_files (· = w.files)) target).of_exec htarget rfl
  rcases hrun : (compileCached t p).exec c v with ⟨⟨r, c'⟩, x⟩
  have hlook := A.toOption_of_cachedRun hc hv (hfiles ▸ hsrc) (cachedRun hrun) name
  dsimp only
  rw [hlook, JobOn.exec_state_bind, JobOn.exec_bind, JobOn.exec_liftM]
  rcases (c.compileFor t (.str src.text) none name).exec v with ⟨e | a, x⟩ <;> rfl

/-- **The cache cannot be noticed.**  Take a compiler as it was made, and any history that agrees
with an archive: a file never has two contents at one time of its last change, and a pass is known
by its identity.  Then compiling a file that can be read, with the default options, gives what
compiling the file's text would give at that moment, and fails if that would fail. -/
theorem artifact?_compileFile_eq_compile (A : Archive) {target : Job Target}
    {rules : Option (List Text)} {capacity : Option Int} {c : Compiler} {w w' : Workspace}
    (hmake : (make target rules capacity).exec w = (.ok c, w')) {steps : List Step}
    (hA : ∀ before, before <+: steps → A.Agrees (reached (c, w') before).2)
    {p : Path} {src : Source}
    (hsrc : Source.load (reached (c, w') steps).2.files .utf8 p = .ok src)
    (t name : Option Text) :
    artifact? (compileFile p none t) (reached (c, w') steps) =
      artifact? (compile (.str src.text) none t name) (reached (c, w') steps) :=
  artifact?_compileFile (keeps_reached (keeps_make A hmake) hA) (hA steps (List.prefix_refl steps))
    hsrc t name

/-- A file is written. -/
def writing (p : Path) (s : Text) (modified : Int) : Step :=
  .outside do
    match (← get).files.write p (Bytes.encode s) modified with
    | .ok t => modify fun w => { w with files := t }
    | .error f => throw (.ofFile f p)

/-- A file changes and changes back, and is compiled each time in between. -/
def rewriting (p : Path) : List Step :=
  [writing p "one" 1, .compileFile p none none, writing p "\x7bx\x7d" 2, .compileFile p none none,
    writing p "one" 1]

/-- A compiler that keeps two artifacts. -/
def keepingTwo : Compiler where
  target := .typescript
  rules := []
  cache := .empty 2 (by decide)

/-- The document that changes. -/
def changing : Path := ⟨[], ["a.md"]⟩

/-- The archive of what the places hold, where all passes are built in. -/
def archiveOf (bytes : Place → Int → Bytes) : Archive where
  bytes
  pass i := if i = .comments then .comments else .frontmatter
  pass_frontmatter := rfl
  pass_comments := rfl

/-- The contents of the document, by their times. -/
def rewritten : Archive := archiveOf fun _ m => Bytes.encode (if m = 1 then "one" else "\x7bx\x7d")

theorem artifact?_compileFile_after_rewriting :
    (artifact? (compile (.str "one") none none none)
        (reached (keepingTwo, {}) (rewriting changing))).isSome ∧
      artifact? (compileFile changing none none) (reached (keepingTwo, {}) (rewriting changing)) =
        artifact? (compile (.str "one") none none none)
          (reached (keepingTwo, {}) (rewriting changing)) := by
  have hmake : (make (pure .typescript) (some []) (some 2)).exec {} = (.ok keepingTwo, {}) := rfl
  have hfiles : (reached (keepingTwo, {}) (rewriting changing)).2.files.entries =
      [([("a.md" : Text)], .file (Bytes.encode "one") 1)] := by
    decide +kernel
  have hsrc (t : Tree) (ht : t.entries = [([("a.md" : Text)], .file (Bytes.encode "one") 1)]) :
      Source.load t .utf8 changing = .ok ⟨changing, "one", 1⟩ := by
    obtain ⟨es⟩ := t
    obtain rfl : es = _ := ht
    rfl
  have hagrees : ∀ before, before <+: rewriting changing →
      rewritten.Agrees (reached (keepingTwo, {}) before).2 := by
    intro before hbefore
    have hpasses : (rewriting changing).inits.all fun before =>
        ((reached (keepingTwo, {}) before).2.passes.getD []).isEmpty := by
      decide +kernel
    have hall : (rewriting changing).inits.all fun before =>
        (reached (keepingTwo, {}) before).2.files.entries.all rewritten.knows := by
      decide +kernel
    have hmem := List.mem_inits before (rewriting changing) |>.2 hbefore
    exact rewritten.agrees_of_all (List.all_eq_true.1 hpasses _ hmem)
      (List.all_eq_true.1 hall _ hmem)
  exact ⟨by decide +kernel,
    artifact?_compileFile_eq_compile rewritten hmake hagrees (hsrc _ hfiles) none none⟩

end PromptPress.Compiler

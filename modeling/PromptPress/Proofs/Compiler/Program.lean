import PromptPress.Compiler.Basic
import PromptPress.Proofs.Workspace.View

/-!
# Programs

Making a document plain, making a compiler and compiling are settled operations: they load what is
not loaded yet, and their results depend on the settings and the default passes alone.  So are the
programs that are made of them, whatever such a program does with results and errors
(`Job.Settled.program`).
-/

namespace PromptPress

/-! ### Calls and programs -/

/-- A call of the library: to make a document plain, to make a compiler, or to compile a
document. -/
inductive Call : Type → Type
  | stringify (rules : Option (List Text)) (options : Option PlainText.Options)
      (name : Option Text) (source : Json) : Call Text
  | compiler (target : Option Text) (rules : Option (List Text)) (capacity : Option Int) :
      Call Compiler
  | compile (c : Compiler) (source : Json) (options : Option PlainText.Options)
      (target name : Option Text) : Call Artifact

/-- Does a call; the stamp of an artifact is left out. -/
def Call.run {α : Type} : Call α → Job α
  | .stringify rules options name source => do
    PlainText.ofValue (← PlainText.rulesOr rules) options name source
  | .compiler target rules capacity => Compiler.new target rules capacity
  | .compile c source options target name => do
    let (r, _) ← JobOn.within c (Compiler.compile source options target name)
    Job.ofExcept (r.map Stamped.value)

/-- The result of an operation, an error as well. -/
def Job.attempt {α : Type} (j : Job α) : Job (Except Error α) := fun w =>
  (.ok (j.exec w).1, (j.exec w).2)

/-- The target of a name, or that of a compiler. -/
def Compiler.targetFor (c : Compiler) : Option Text → Job Target
  | some n => Job.target (some n)
  | none => pure c.target

/-- A compiler's artifact of a document, before it is stamped. -/
def Compiler.artifact (c : Compiler) (source : Json) (o : Option PlainText.Options)
    (target name : Option Text) : Job Artifact :=
  c.targetFor target >>= fun t => c.compileFor t source o name

/-- A program made of calls: what it does next may depend on every result and on every error. -/
inductive Program (α : Type) : Type 1
  | done (a : α)
  | fail (e : Error)
  | call {β : Type} (c : Call β) (next : Except Error β → Program α)

/-- Runs a program. -/
def Program.run {α : Type} : Program α → Job α
  | .done a => pure a
  | .fail e => throw e
  | .call c next => Job.attempt c.run >>= fun r => (next r).run

namespace Job.Settled

variable {α : Type}

/-! ### Making a document plain -/

theorem attempt {j : Job α} (h : Settled j) : Settled j.attempt :=
  ⟨h.loads, fun hv => congrArg Except.ok (h.result hv)⟩

theorem rulesOr (rules : Option (List Text)) : Settled (PlainText.rulesOr rules) := by
  cases rules with
  | some names => exact pure names
  | none => exact settings_bind (g := fun s => Pure.pure s.markdownExtras) fun s => pure _

theorem optionsOr (o : Option PlainText.Options) : Settled (PlainText.optionsOr o) := by
  cases o with
  | some o => exact pure o
  | none =>
    refine settings_bind (g := fun s => Pure.pure { collapse := s.collapseWhitespace : PlainText.Options })
      fun s => pure _

theorem passesOr (es : Option (List (Option Pass))) : Settled (PlainText.passesOr es) := by
  cases es with
  | some es => exact pure es
  | none => exact defaultPasses

theorem runPasses (name : Option Text) (es : List (Option Pass)) (s : Text) :
    Settled (PlainText.runPasses name es s) := by
  refine (reportAll _).bind fun _ => ?_
  rcases Pass.runAll name es s with e | t
  · exact (reportAll _).bind fun _ => throw e
  · exact pure t

theorem strip (rules : List Text) (s : Text) : Settled (PlainText.strip rules s) := by
  unfold PlainText.strip
  dsimp only
  split
  · exact (report _).bind fun _ => pure s
  · exact ofExcept _

theorem ofValue (rules : List Text) (o : Option PlainText.Options) (name : Option Text)
    (source : Json) : Settled (PlainText.ofValue rules o name source) := by
  cases source with
  | str s =>
    refine (optionsOr o).bind fun o => (passesOr o.passes).bind fun es => ?_
    refine (runPasses name es s).bind fun t => (strip _ t).bind fun u => ?_
    exact (report _).bind fun _ => pure _
  | _ => exact throw _

/-! ### Compiling -/

theorem compileFor (c : Compiler) (t : Target) (source : Json) (o : Option PlainText.Options)
    (name : Option Text) : Settled (c.compileFor t source o name) := by
  have hextract (s : Text) : Settled (Job.extract c.extract s) :=
    (ofExcept _).bind fun _ => (report _).bind fun _ => pure _
  have hinspect (ps : List Placeholder) : Settled (Job.inspect c.inspect ps) :=
    (ofExcept _).bind fun _ => (reportAll _).bind fun _ => pure _
  have hgenerate (s : Text) (ps : List Placeholder) : Settled (Job.generate t s ps) :=
    (report _).bind fun _ => pure _
  refine (ofValue c.rules o name source).bind fun s => (hextract s).bind fun ps => ?_
  refine (hinspect ps).bind fun _ => (hgenerate s ps).bind fun a => ?_
  exact (report _).bind fun _ => pure a

theorem target (name : Option Text) : Settled (Job.target name) := by
  have hname (n : Text) : Settled (Job.target (some n)) := by
    unfold Job.target
    dsimp only
    rw [pure_bind]
    cases Target.ofName? n with
    | none => exact throw _
    | some t => exact pure t
  cases name with
  | some n => exact hname n
  | none => exact settings_bind (g := fun s => Job.target (some s.target)) fun s => hname s.target

theorem newCompiler (target : Option Text) (rules : Option (List Text)) (capacity : Option Int) :
    Settled (Compiler.new target rules capacity) := by
  refine (Settled.target target).bind fun t => (rulesOr rules).bind fun names => ?_
  have hsettings {k : Int → Job Compiler} (hk : ∀ n, Settled (k n)) :
      Settled (Job.settings >>= fun s => Pure.pure s.value.cacheSize >>= k) :=
    settings_bind (g := fun s => Pure.pure s.cacheSize >>= k) fun s => (pure _).bind hk
  dsimp only
  split
  -- the capacity is that of the settings or the one that is given, and there is a cache for it or not
  all_goals
    first
      | refine hsettings fun n => ?_
      | refine (pure _).bind fun n => ?_
    split
    · exact pure _
    · exact throw _

theorem artifact (c : Compiler) (source : Json) (o : Option PlainText.Options)
    (target name : Option Text) : Settled (c.artifact source o target name) := by
  refine Settled.bind ?_ fun t => compileFor c t source o name
  cases target with
  | some n => exact Settled.target (some n)
  | none => exact pure c.target

end Job.Settled

/-- Compiling is making the artifact, and stamping it. -/
theorem Call.exec_compile (c : Compiler) (source : Json) (o : Option PlainText.Options)
    (target name : Option Text) (w : Workspace) :
    ∃ n, (Call.compile c source o target name).run.exec w =
      (((c.artifact source o target name).exec w).1,
        { ((c.artifact source o target name).exec w).2 with artifactsMade := n }) := by
  have hrun : (Call.compile c source o target name).run.exec w =
      (((Compiler.compile source o target name).exec c w).1.1.map Stamped.value,
        ((Compiler.compile source o target name).exec c w).2) := by
    rw [Call.run, Job.exec_bind]
    show (Job.ofExcept _).exec _ = _
    rw [Job.exec_ofExcept]
    rfl
  have hstamp (t : Target) (v : Workspace) : ∃ n,
      (((liftM (c.compileFor t source o name) >>= fun a => liftM (Job.stampArtifact a) :
          Compile (Stamped Artifact)).exec c v).1.1.map Stamped.value,
        ((liftM (c.compileFor t source o name) >>= fun a => liftM (Job.stampArtifact a) :
          Compile (Stamped Artifact)).exec c v).2) =
      (((c.compileFor t source o name).exec v).1,
        { ((c.compileFor t source o name).exec v).2 with artifactsMade := n }) := by
    rw [JobOn.exec_bind, JobOn.exec_liftM]
    rcases (c.compileFor t source o name).exec v with ⟨e | a, u⟩
    · exact ⟨u.artifactsMade, rfl⟩
    · exact ⟨u.artifactsMade + 1, rfl⟩
  have htarget : (Compiler.targetOr target).exec c w =
      ((((c.targetFor target).exec w).1, c), ((c.targetFor target).exec w).2) := by
    cases target <;> rfl
  rw [hrun]
  unfold Compiler.compile Compiler.artifact
  rw [JobOn.exec_bind, Job.exec_bind, htarget]
  dsimp only
  rcases (c.targetFor target).exec w with ⟨e | t, v⟩
  · exact ⟨v.artifactsMade, rfl⟩
  · exact hstamp t v

/-! ### Programs -/

namespace Job.Settled

variable {α : Type}

theorem call (c : Call α) : Settled c.run := by
  cases c with
  | stringify rules o name source => exact (rulesOr rules).bind fun names => ofValue names o name source
  | compiler target rules capacity => exact newCompiler target rules capacity
  | compile c source o target name =>
    have hartifact := artifact c source o target name
    constructor
    · intro w
      obtain ⟨n, h⟩ := Call.exec_compile c source o target name w
      rw [h]
      exact (hartifact.loads w).trans ⟨rfl, rfl, .inl rfl, .inl rfl⟩
    · intro w v hview
      obtain ⟨n, hw⟩ := Call.exec_compile c source o target name w
      obtain ⟨k, hv⟩ := Call.exec_compile c source o target name v
      rw [hw, hv]
      exact hartifact.result hview

/-- **Every program of calls is settled.** -/
theorem program (p : Program α) : Settled p.run := by
  induction p with
  | done a => exact pure a
  | fail e => exact throw e
  | call c _ ih => exact (call c).attempt.bind ih

end Job.Settled

end PromptPress

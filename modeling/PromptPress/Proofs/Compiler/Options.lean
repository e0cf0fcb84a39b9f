import PromptPress.Proofs.Compiler.Failure

/-!
# Settled options

Options may be left out, and they may leave the passes open.  `Workspace.optionsFor` fills in what
holds in a workspace, or gives the error that is met on the way.  Making a document plain and
compiling it give the outcome under these options (`result_ofSource`, `result_compile`), so two calls
can be compared by comparing what they settle to.
-/

namespace PromptPress

open PlainText (Options)

/-- The options that a call comes to: what is left out is filled in. -/
def Workspace.optionsFor (w : Workspace) : Option Options → Except Error Options
  | none => w.currentOptions
  | some o =>
    match o.passes with
    | some _ => .ok o
    | none => w.currentPasses.map fun es => { o with passes := some es }

namespace Job

variable {α β : Type}

/-- A job with options gives what it gives with the options filled in. -/
theorem result_of_options {j : Option Options → Job α} {r : Options → Except Error α}
    (hgiven : ∀ o es, o.passes = some es → (j (some o)).Gives (r o))
    (hopen : ∀ o, o.passes = none →
      j (some o) = defaultPasses >>= fun es => j (some { o with passes := some es }))
    (hnone : j none = Compiler.defaultOptions >>= fun o => j (some o))
    (o : Option Options) (w : Workspace) : ((j o).exec w).1 = (w.optionsFor o).bind r := by
  cases o with
  | none =>
    show _ = w.currentOptions.bind r
    rw [hnone, exec_bind, ← (Compiler.exec_defaultOptions w).1]
    rcases hexec : Compiler.defaultOptions.exec w with ⟨e | o, v⟩
    · rfl
    · obtain ⟨-, es, hes, -⟩ := Compiler.passes_of_exec_defaultOptions hexec
      exact hgiven o es hes v
  | some o =>
    cases ho : o.passes with
    | some es =>
      rw [Workspace.optionsFor, ho]
      exact hgiven o es ho w
    | none =>
      rw [Workspace.optionsFor, ho, hopen o ho, exec_bind]
      dsimp only
      rw [← (exec_defaultPasses w).1]
      rcases defaultPasses.exec w with ⟨e | es, v⟩
      · rfl
      · exact hgiven _ es rfl v

end Job

theorem PlainText.result_ofSource (rules : List Text) (o : Option Options) (name : Option Text)
    (s : Text) (w : Workspace) : ((ofSource rules o name s).exec w).1 =
      (w.optionsFor o).bind fun p => outcome rules p name s := by
  refine Job.result_of_options (j := fun o => ofSource rules o name s) ?_ ?_ ?_ o w
  · intro o es ho
    exact gives_ofSource rules ho name s
  · intro o ho
    simp [ofSource, optionsOr, passesOr, ho]
  · exact ofSource_none rules name s

namespace Compiler

variable {c : Compiler}

theorem result_compileFor (hc : c.IsPlain) (t : Target) (o : Option Options) (name : Option Text)
    (s : Text) (w : Workspace) : ((c.compileFor t (.str s) o name).exec w).1 =
      (w.optionsFor o).bind fun p => outcome c.rules t p name s := by
  refine Job.result_of_options (j := fun o => c.compileFor t (.str s) o name) ?_ ?_ ?_ o w
  · intro o es ho
    exact gives_compileFor hc t ho name s
  · intro o ho
    exact compileFor_of_passes_eq_none ho c t name s
  · exact compileFor_none c t name s

/-- The target of a name, or that of the compiler. -/
def targetNamed (c : Compiler) : Option Text → Except Error Target
  | none => .ok c.target
  | some n =>
    match Target.ofName? n with
    | some t => .ok t
    | none => .error (.unknownTarget (Target.unknownMessage n))

theorem exec_targetOr_eq (target : Option Text) (c : Compiler) (w : Workspace) :
    (targetOr target).exec c w = ((c.targetNamed target, c), w) := by
  cases target with
  | none => rfl
  | some n =>
    show ((((Job.target (some n)).exec w).1, c), ((Job.target (some n)).exec w).2) = _
    unfold Job.target targetNamed
    dsimp only
    rw [pure_bind]
    cases Target.ofName? n <;> rfl

/-- **What compiling a document gives** under the options that the call comes to. -/
theorem result_compile (hc : c.IsPlain) (s : Text) (o : Option Options) (target name : Option Text)
    (w : Workspace) : ((compile (.str s) o target name).exec c w).1.1.map Stamped.value =
      (c.targetNamed target).bind fun t => (w.optionsFor o).bind fun p =>
        outcome c.rules t p name s := by
  unfold compile
  rw [JobOn.exec_bind, exec_targetOr_eq]
  cases c.targetNamed target with
  | error e => rfl
  | ok t =>
    dsimp only
    rw [JobOn.exec_state_bind, JobOn.exec_bind, JobOn.exec_liftM]
    show _ = (w.optionsFor o).bind fun p => outcome c.rules t p name s
    rw [← result_compileFor hc t o name s w]
    rcases (c.compileFor t (.str s) o name).exec w with ⟨e | a, v⟩ <;> rfl

end Compiler

end PromptPress

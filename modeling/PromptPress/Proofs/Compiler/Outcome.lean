import PromptPress.Proofs.Compiler.Lasting
import PromptPress.Proofs.Pass.Pipeline

/-!
# The outcome of compiling

Once the options are settled, what becomes of a document does not depend on the workspace: making it
plain gives `PlainText.outcome`, and compiling it gives `Compiler.outcome`
(`gives_compileFor`).  The name of the document shows only in errors (`toOption_outcome`), and
compiling without options is compiling with the default ones (`compileFor_none`).
-/

namespace PromptPress

/-- Two results that agree up to their errors still agree after steps that do. -/
theorem Except.toOption_bind_congr {α β : Type} {r q : Except Error α} {f g : α → Except Error β}
    (h : r.toOption = q.toOption) (hfg : ∀ a, (f a).toOption = (g a).toOption) :
    (r.bind f).toOption = (q.bind g).toOption := by
  rcases r with e | a <;> rcases q with e' | b
  · rfl
  · cases h
  · cases h
  · obtain rfl : a = b := Option.some.inj h
    exact hfg a

theorem Pass.toOption_step (n m : Option Text) (i j : Nat) (p : Pass) (s : Text) :
    (Pass.step n i p s).toOption = (Pass.step m j p s).toOption := by
  unfold Pass.step
  rcases (p.run s).value with e | v
  · rfl
  · cases v <;> rfl

theorem Pass.toOption_runFrom (n m : Option Text) (ps : List Pass) (i j : Nat) (s : Text) :
    (Pass.runFrom n i ps s).toOption = (Pass.runFrom m j ps s).toOption := by
  induction ps generalizing i j s with
  | nil => rfl
  | cons p ps ih =>
    rw [Pass.runFrom_cons, Pass.runFrom_cons]
    exact Except.toOption_bind_congr (Pass.toOption_step n m i j p s) (ih (i + 1) (j + 1))

/-! ### Plain text -/

namespace PlainText

/-- A text without its formatting; a text that cannot be rendered stays as it is. -/
def stripped (rules : List Text) (s : Text) : Except Error Text :=
  let shield := Shield.ofText (Shield.freshMark s) s
  match Markdown.render (.ofNames rules) shield.text with
  | .error _ => .ok s
  | .ok page => ofPage shield page

/-- What becomes of a document under options that are settled. -/
def outcome (rules : List Text) (o : Options) (name : Option Text) (s : Text) :
    Except Error Text := do
  let t ← Pass.runAll name (o.passes.getD []) s
  let u ← stripped (o.rules.getD rules) t
  return settleBlanks o.collapse u

theorem gives_strip (rules : List Text) (s : Text) : (strip rules s).Gives (stripped rules s) := by
  unfold strip stripped
  dsimp only
  rcases Markdown.render (.ofNames rules) (Shield.ofText (Shield.freshMark s) s).text with e | page
  · exact (Job.Gives.report _).seq (Job.Gives.pure s)
  · exact Job.Gives.ofExcept _

theorem gives_runPasses (name : Option Text) (es : List (Option Pass)) (s : Text) :
    (runPasses name es s).Gives (Pass.runAll name es s) := by
  refine (Job.Gives.reportAll _).seq ?_
  rcases Pass.runAll name es s with e | t
  · exact (Job.Gives.reportAll _).seq (Job.Gives.throw e)
  · exact Job.Gives.pure t

theorem gives_ofSource (rules : List Text) {o : Options} {es : List (Option Pass)}
    (ho : o.passes = some es) (name : Option Text) (s : Text) :
    (ofSource rules (some o) name s).Gives (outcome rules o name s) := by
  unfold ofSource outcome
  have hpasses : (passesOr o.passes).Gives (.ok (o.passes.getD [])) := by
    rw [ho]
    exact Job.Gives.pure es
  exact (Job.Gives.pure o).seq <| hpasses.seq <| (gives_runPasses name _ s).bind fun t =>
    (gives_strip _ t).bind fun u => (Job.Gives.report _).seq (Job.Gives.pure _)

theorem toOption_outcome (rules : List Text) (o : Options) (n m : Option Text) (s : Text) :
    (outcome rules o n s).toOption = (outcome rules o m s).toOption :=
  Except.toOption_bind_congr (Pass.toOption_runFrom n m _ 0 0 s) fun _ => rfl

/-- Without options a document is made plain with the default ones. -/
theorem ofSource_none (rules : List Text) (name : Option Text) (s : Text) :
    ofSource rules none name s =
      Compiler.defaultOptions >>= fun o => ofSource rules (some o) name s := by
  simp [ofSource, optionsOr, passesOr, Compiler.defaultOptions]

end PlainText

/-! ### Artifacts -/

namespace Compiler

/-- What compiling a document gives under options that are settled. -/
def outcome (rules : List Text) (t : Target) (o : PlainText.Options) (name : Option Text)
    (s : Text) : Except Error Artifact := do
  let u ← PlainText.outcome rules o name s
  return Artifact.ofText t u (Placeholder.ofText u)

/-- The compiler lists and inspects placeholders as new compilers do. -/
structure IsPlain (c : Compiler) : Prop where
  extract : c.extract = fun s => .ok (Placeholder.ofText s)
  inspect : c.inspect = fun ps => .ok (Placeholder.warnings ps)

theorem gives_compileFor {c : Compiler} (hc : c.IsPlain) (t : Target) {o : PlainText.Options}
    {es : List (Option Pass)} (ho : o.passes = some es) (name : Option Text) (s : Text) :
    (c.compileFor t (.str s) (some o) name).Gives (outcome c.rules t o name s) := by
  unfold compileFor outcome
  rw [hc.extract, hc.inspect]
  refine (PlainText.gives_ofSource c.rules ho name s).bind fun u => ?_
  have hextract : (Job.extract (fun s => .ok (Placeholder.ofText s)) u).Gives
      (.ok (Placeholder.ofText u)) :=
    (Job.Gives.ofExcept _).seq ((Job.Gives.report _).seq (Job.Gives.pure _))
  have hinspect (ps : List Placeholder) : (Job.inspect (fun ps => .ok (Placeholder.warnings ps))
      ps).Gives (.ok (Placeholder.warnings ps)) :=
    (Job.Gives.ofExcept _).seq ((Job.Gives.reportAll _).seq (Job.Gives.pure _))
  have hgenerate (ps : List Placeholder) :
      (Job.generate t u ps).Gives (.ok (Artifact.ofText t u ps)) :=
    (Job.Gives.report _).seq (Job.Gives.pure _)
  exact hextract.seq ((hinspect _).seq ((hgenerate _).seq
    ((Job.Gives.report _).seq (Job.Gives.pure _))))

/-- The name of a document decides neither whether it is compiled nor what comes out. -/
theorem toOption_outcome (rules : List Text) (t : Target) (o : PlainText.Options)
    (n m : Option Text) (s : Text) :
    (outcome rules t o n s).toOption = (outcome rules t o m s).toOption :=
  Except.toOption_bind_congr (PlainText.toOption_outcome rules o n m s) fun _ => rfl

/-- Without options a document is compiled with the default ones. -/
theorem compileFor_none (c : Compiler) (t : Target) (name : Option Text) (s : Text) :
    c.compileFor t (.str s) none name =
      defaultOptions >>= fun o => c.compileFor t (.str s) (some o) name := by
  simp only [compileFor, PlainText.ofValue, PlainText.ofSource_none, bind_assoc]

end Compiler

/-! ### Default options -/

theorem Job.passes_of_exec_defaultPasses {w v : Workspace} {es : List (Option Pass)}
    (h : Job.defaultPasses.exec w = (.ok es, v)) : v.passes = some es := by
  obtain ⟨w', _, hget, h⟩ := Job.exec_bind_eq_ok.1 h
  cases hget
  rcases hes : w.passes with _ | fs
  · rw [hes] at h
    obtain ⟨_, _, _, h⟩ := Job.exec_bind_eq_ok.1 h
    obtain ⟨ps, u, _, h⟩ := Job.exec_bind_eq_ok.1 h
    cases h
    rfl
  · rw [hes] at h
    cases h
    exact hes

/-- The default options name the default passes, which are set from then on. -/
theorem Compiler.passes_of_exec_defaultOptions {w v : Workspace} {o : PlainText.Options}
    (h : Compiler.defaultOptions.exec w = (.ok o, v)) :
    o.rules = none ∧ ∃ es, o.passes = some es ∧ v.passes = some es := by
  obtain ⟨s, _, _, h⟩ := Job.exec_bind_eq_ok.1 h
  obtain ⟨es, u, hes, h⟩ := Job.exec_bind_eq_ok.1 h
  cases h
  exact ⟨rfl, es, rfl, Job.passes_of_exec_defaultPasses hes⟩

end PromptPress

import PromptPress.Pass.Pipeline
import Mathlib.Data.List.Basic

/-!
# Passes in sequence

A pass gives a text for a text (`Answers`), or it stops the pipeline (`Stops`); `step_eq_ok_iff` and
`step_eq_error_iff` say that one step does nothing else.  A run of a pipeline then either leads
through all its passes (`Leads`) or stops at the first one that gives no text.

* `runFrom_append`, `runFrom_add`: a run goes on where the passes in front of it end, and their
  number shows only in the place that an error names (`shiftPlace`).
* `Reworked`: empty entries put in, and passes that have to be waited for put in the place of others.
* `runs_in_sequence`: what a pipeline gives, what it is stopped by, how it is split, and that
  reworking its entries does not change it.
-/

namespace PromptPress.Pass

variable {name : Option Text} {index : Nat} {p : Pass} {ps qs : List Pass} {s t : Text} {e : Error}
  {es es' : List (Option Pass)}

/-- The pass gives the text `t` for the text `s`, at once or later. -/
def Answers (p : Pass) (s t : Text) : Prop := (p.run s).value = .ok (.str t)

/-- The passes, each on what the one before has given, lead from the text `s` to the text `t`. -/
inductive Leads : List Pass → Text → Text → Prop
  | nil (s : Text) : Leads [] s s
  | cons {p : Pass} {ps : List Pass} {s u t : Text} :
      p.Answers s u → Leads ps u t → Leads (p :: ps) s t

/-- The errors that a pass at a place stops the pipeline with: it fails, and its failure is the
cause, or what it gives is no text. -/
inductive Stops (name : Option Text) (index : Nat) (p : Pass) (s : Text) : Error → Prop
  | failed {x : Error} : (p.run s).value = .error x →
      Stops name index p s
        (.passExecution ⟨"Pass '" ++ p.name ++ "' failed: " ++ x.text, name, none⟩ p.name index
          (some x))
  | noText {v : Json} : (p.run s).value = .ok v → (∀ t, v ≠ .str t) →
      Stops name index p s
        (.passExecution ⟨"Pass '" ++ p.name ++ "' returned " ++ v.kindName ++ ", expected str",
          name, none⟩ p.name index none)

/-- The error with `k` more passes in front of the one that it names. -/
def shiftPlace (k : Nat) : Error → Error
  | .passExecution c passName index cause => .passExecution c passName (index + k) cause
  | e => e

/-! ### One pass -/

theorem step_eq_ok_iff : step name index p s = .ok t ↔ p.Answers s t := by
  unfold step Answers
  rcases (p.run s).value with x | v
  · simp
  · cases v <;> simp

theorem step_eq_error_iff : step name index p s = .error e ↔ Stops name index p s e := by
  constructor
  · intro h
    unfold step at h
    split at h
    · rename_i x hx
      cases h
      exact .failed hx
    · cases h
    · rename_i v hne hv
      cases h
      exact .noText hv hne
  · rintro (@⟨x, hx⟩ | @⟨v, hv, hne⟩)
    · rw [step, hx]
      rfl
    · rw [step, hv]
      cases v with
      | str t => exact absurd rfl (hne t)
      | _ => rfl

theorem step_add (k : Nat) (s : Text) :
    step name (index + k) p s = (step name index p s).mapError (shiftPlace k) := by
  unfold step
  rcases (p.run s).value with x | v
  · rfl
  · cases v <;> rfl

/-! ### Runs -/

theorem runFrom_cons (name : Option Text) (index : Nat) (p : Pass) (ps : List Pass) (s : Text) :
    runFrom name index (p :: ps) s = (step name index p s).bind (runFrom name (index + 1) ps) := by
  rw [runFrom]
  rcases step name index p s with e | t <;> rfl

/-- **A run that gives a text has led through all passes.** -/
theorem runFrom_eq_ok_iff : runFrom name index ps s = .ok t ↔ Leads ps s t := by
  induction ps generalizing index s with
  | nil =>
    constructor
    · intro h
      cases h
      exact .nil _
    · intro h
      cases h
      rfl
  | cons p ps ih =>
    rw [runFrom_cons]
    constructor
    · intro h
      cases hstep : step name index p s with
      | error e =>
        rw [hstep] at h
        cases h
      | ok u =>
        rw [hstep] at h
        exact .cons (step_eq_ok_iff.1 hstep) (ih.1 h)
    · rintro (_ | ⟨hanswers, hleads⟩)
      rw [step_eq_ok_iff.2 hanswers]
      exact ih.2 hleads

/-- A run goes on where the passes in front end. -/
theorem runFrom_append (name : Option Text) (index : Nat) (ps qs : List Pass) (s : Text) :
    runFrom name index (ps ++ qs) s =
      (runFrom name index ps s).bind (runFrom name (index + ps.length) qs) := by
  induction ps generalizing index s with
  | nil => rfl
  | cons p ps ih =>
    rw [List.cons_append, runFrom_cons, runFrom_cons, List.length_cons, Nat.add_comm ps.length,
      ← Nat.add_assoc]
    cases step name index p s with
    | error e => rfl
    | ok u => exact ih (index + 1) u

/-- The number of passes in front shows only in the place that an error names. -/
theorem runFrom_add (name : Option Text) (index k : Nat) (ps : List Pass) (s : Text) :
    runFrom name (index + k) ps s = (runFrom name index ps s).mapError (shiftPlace k) := by
  induction ps generalizing index s with
  | nil => rfl
  | cons p ps ih =>
    rw [runFrom_cons, runFrom_cons, step_add, Nat.add_right_comm]
    cases step name index p s with
    | error e => rfl
    | ok u => exact ih (index + 1) u

/-- Passes that lead to a text, and a pass that stops on it, stop the run, whatever stands behind. -/
theorem runFrom_eq_error_of_stops {u : Text} (hleads : Leads ps s u)
    (hstops : Stops name (index + ps.length) p u e) (after : List Pass) :
    runFrom name index (ps ++ p :: after) s = .error e := by
  rw [runFrom_append, runFrom_eq_ok_iff.2 hleads]
  change runFrom name (index + ps.length) (p :: after) u = .error e
  rw [runFrom_cons, step_eq_error_iff.2 hstops]
  rfl

/-- **A run that fails stops at the first pass that gives no text.** -/
theorem runFrom_eq_error_iff : runFrom name index ps s = .error e ↔
    ∃ before p after u, ps = before ++ p :: after ∧ Leads before s u ∧
      Stops name (index + before.length) p u e := by
  constructor
  · intro h
    -- along the passes: the first one stops the run, or the others run on from what it gives
    induction ps generalizing index s with
    | nil => cases h
    | cons p ps ih =>
      rw [runFrom_cons] at h
      cases hstep : step name index p s with
      | error x =>
        rw [hstep] at h
        cases h
        exact ⟨[], p, ps, s, rfl, .nil s, step_eq_error_iff.1 hstep⟩
      | ok u =>
        rw [hstep] at h
        obtain ⟨before, q, after, v, rfl, hleads, hstops⟩ := ih h
        refine ⟨p :: before, q, after, v, rfl, .cons (step_eq_ok_iff.1 hstep) hleads, ?_⟩
        rwa [List.length_cons, Nat.add_comm before.length, ← Nat.add_assoc]
  · rintro ⟨before, p, after, u, rfl, hleads, hstops⟩
    exact runFrom_eq_error_of_stops hleads hstops after

/-! ### Entries -/

theorem kept_append (es es' : List (Option Pass)) : kept (es ++ es') = kept es ++ kept es' :=
  List.filterMap_append

theorem exists_of_kept_eq {before after : List Pass} (h : kept es = before ++ p :: after) :
    ∃ front back, es = front ++ some p :: back ∧ kept front = before := by
  obtain ⟨front, rest, rfl, hfront, hrest⟩ := List.filterMap_eq_append_iff.1 h
  obtain ⟨skipped, _, back, rfl, hskipped, rfl, -⟩ := List.filterMap_eq_cons_iff.1 hrest
  refine ⟨front ++ skipped, back, (List.append_assoc ..).symm, ?_⟩
  rw [kept_append, show kept skipped = [] from List.filterMap_eq_nil_iff.2 hskipped,
    List.append_nil]
  exact hfront

theorem runAll_append (name : Option Text) (es es' : List (Option Pass)) (s : Text) :
    runAll name (es ++ es') s = (runAll name es s).bind fun t =>
      (runAll name es' t).mapError (shiftPlace (kept es).length) := by
  rw [runAll, kept_append, runFrom_append]
  congr 1
  funext t
  exact runFrom_add name 0 _ _ t

theorem runAll_eq_error_iff : runAll name es s = .error e ↔
    ∃ front p back u, es = front ++ some p :: back ∧ Leads (kept front) s u ∧
      Stops name (kept front).length p u e := by
  rw [runAll, runFrom_eq_error_iff]
  constructor
  · rintro ⟨before, p, after, u, hkept, hleads, hstops⟩
    rw [Nat.zero_add] at hstops
    obtain ⟨front, back, rfl, rfl⟩ := exists_of_kept_eq hkept
    exact ⟨front, p, back, u, rfl, hleads, hstops⟩
  · rintro ⟨front, p, back, u, rfl, hleads, hstops⟩
    refine ⟨kept front, p, kept back, u, kept_append .., hleads, ?_⟩
    rwa [Nat.zero_add]

/-! ### Reworked entries -/

/-- The pass that does the same, but has to be waited for. -/
def awaited (id : PassId) (p : Pass) : Pass where
  id := id
  name := p.name
  run s := .later (p.run s).value

/-- Empty entries may have been put in, and passes may have been exchanged for ones that do the same
but have to be waited for. -/
inductive Reworked : List (Option Pass) → List (Option Pass) → Prop
  | nil : Reworked [] []
  | insert {es es' : List (Option Pass)} : Reworked es es' → Reworked es (none :: es')
  | keep (entry : Option Pass) {es es' : List (Option Pass)} :
      Reworked es es' → Reworked (entry :: es) (entry :: es')
  | await (id : PassId) (p : Pass) {es es' : List (Option Pass)} :
      Reworked es es' → Reworked (some p :: es) (some (p.awaited id) :: es')

theorem step_awaited (id : PassId) (p : Pass) (s : Text) :
    step name index (p.awaited id) s = step name index p s := rfl

theorem runFrom_kept_some (p : Pass) (es : List (Option Pass)) :
    runFrom name index (kept (some p :: es)) s =
      (step name index p s).bind (runFrom name (index + 1) (kept es)) :=
  runFrom_cons ..

theorem Reworked.runFrom_eq (h : Reworked es es') :
    runFrom name index (kept es') s = runFrom name index (kept es) s := by
  induction h generalizing index s with
  | nil => rfl
  | insert _ ih => exact ih
  | keep entry _ ih =>
    cases entry with
    | none => exact ih
    | some p =>
      rw [runFrom_kept_some, runFrom_kept_some]
      exact congrArg _ (funext fun _ => ih)
  | await id p _ ih =>
    rw [runFrom_kept_some, runFrom_kept_some, step_awaited]
    exact congrArg _ (funext fun _ => ih)

/-- **Passes run one after another, and the first one that gives no text is blamed.**  A pipeline
gives a text if and only if its passes lead to it, and fails if and only if the passes in front of
some pass lead to a text that this one stops on, with its place among the passes; nothing that stands
behind can change that.  The entries may be split anywhere: what stands behind goes on from the text
that the front gives, its places counted on.  And reworking the entries changes neither a text nor an
error. -/
theorem runs_in_sequence (name : Option Text) (es : List (Option Pass)) (s : Text) :
    (∀ t, runAll name es s = .ok t ↔ Leads (kept es) s t) ∧
    (∀ e, runAll name es s = .error e ↔
      ∃ front p back u, es = front ++ some p :: back ∧ Leads (kept front) s u ∧
        Stops name (kept front).length p u e) ∧
    (∀ e, runAll name es s = .error e → ∀ back, runAll name (es ++ back) s = .error e) ∧
    (∀ front back, es = front ++ back → runAll name es s =
      (runAll name front s).bind fun t =>
        (runAll name back t).mapError (shiftPlace (kept front).length)) ∧
    ∀ es', Reworked es es' → runAll name es' s = runAll name es s := by
  refine ⟨fun t => runFrom_eq_ok_iff, fun e => runAll_eq_error_iff, fun e he back => ?_, ?_,
    fun es' h => h.runFrom_eq⟩
  · rw [runAll_append, he]
    rfl
  · rintro front back rfl
    exact runAll_append name front back s

theorem runs_in_sequence_with_failure :
    let append := make 0 (some "append") false (.append "!")
    let clear := make 1 (some "clear") false (.give .null)
    let awaitedClear := make 2 (some "clear") true (.give .null)
    let error := Error.passExecution
      ⟨"Pass 'clear' returned NoneType, expected str", some "a.md", none⟩ "clear" 1 none
    runAll (some "a.md") [some append] "x" = .ok "x!" ∧
      runAll (some "a.md") [some append, some clear] "x" = .error error ∧
      runAll (some "a.md") ([some append, some clear] ++ [some comments]) "x" = .error error ∧
      runAll (some "a.md") [some append, none, some awaitedClear] "x" =
        runAll (some "a.md") [some append, some clear] "x" := by
  intro append clear awaitedClear error
  obtain ⟨hok, -⟩ := runs_in_sequence (some "a.md") [some append] "x"
  obtain ⟨-, herror, hlast, -, hreworked⟩ :=
    runs_in_sequence (some "a.md") [some append, some clear] "x"
  have hleads : Leads [append] "x" "x!" := .cons rfl (.nil _)
  have hstops : Stops (some "a.md") 1 clear "x!" error := .noText (v := .null) rfl nofun
  have hfails : runAll (some "a.md") [some append, some clear] "x" = .error error :=
    (herror error).2 ⟨[some append], clear, [], "x!", rfl, hleads, hstops⟩
  refine ⟨(hok _).2 hleads, hfails, hlast error hfails _, hreworked _ ?_⟩
  exact .keep (some append) (.insert (.await (.made 2) clear .nil))

end PromptPress.Pass

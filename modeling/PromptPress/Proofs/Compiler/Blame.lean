import PromptPress.Proofs.Compiler.Cached
import PromptPress.Proofs.Workspace.View

/-!
# Errors about a document

An error is *about* a document if it names the document and keeps what led to it as its cause
(`Error.About`).  A compiler turns the errors that are about no document into errors about the one
that it compiles (`Error.NamesNoOther.asCompilation`); so it matters that nothing on the way raises
an error about another document.  Settings, default passes and the parser raise errors about no
document, and a pipeline of passes raises errors about the one it runs on (`raises_compileFor`).
-/

namespace PromptPress

/-! ### Errors about a document -/

/-- The error is about the document of a name: it could not be read, a pass failed on it or gave
back something else than a text, or something else failed, and each failure is kept as the cause. -/
inductive Error.About (name : Text) : Error → Prop
  | unread (what : Text) {p : Path} (hp : p.name = name) (e : Error) :
      About name (Source.loadError what p e)
  | passFailed (i : Nat) (p : Pass) {s : Text} {e : Error} (h : (p.run s).value = .error e) :
      About name (Pass.failure (some name) i p e)
  | passRefused (i : Nat) (p : Pass) {s : Text} {v : Json} (h : (p.run s).value = .ok v)
      (hv : ∀ t, v ≠ .str t) : About name (Pass.wrongKind (some name) i p v)
  | wrapped (e : Error) (h : e.isCompilation = false) :
      About name (.compilation ⟨e.text, some name, Compiler.hintFor e.text⟩ (some e))

/-- The error is about the document of a name, or about none. -/
def Error.NamesNoOther (name : Text) (e : Error) : Prop := e.About name ∨ e.isCompilation = false

variable {name : Text} {e : Error}

theorem Error.About.exists_complaint (h : e.About name) :
    ∃ c, e.complaint? = some c ∧ c.sourceName = some name := by
  cases h with
  | unread what hp e => exact ⟨_, rfl, congrArg some hp⟩
  | _ => exact ⟨_, rfl, rfl⟩

theorem Error.About.isCompilation (h : e.About name) : e.isCompilation = true := by
  obtain ⟨c, hc, -⟩ := h.exists_complaint
  rw [Error.isCompilation, hc]
  rfl

theorem Error.not_about_of_isCompilation (h : e.isCompilation = false) : ¬ e.About name := by
  intro hname
  rw [hname.isCompilation] at h
  cases h

/-- Raised as an error about the document, every error that names no other document is about it. -/
theorem Error.NamesNoOther.asCompilation (h : e.NamesNoOther name) :
    (Compiler.asCompilation name e).About name := by
  unfold Compiler.asCompilation
  rcases h with h | h
  · rwa [if_pos h.isCompilation]
  · rw [if_neg (by simp [h])]
    exact .wrapped e h

/-- A document is not loaded because of its path, or else the error is about it. -/
theorem Source.about_of_modifiedAt {t : Tree} {p : Path} (h : modifiedAt t p = .error e) :
    if p.hasNull then e = nullInPath else e.About p.name := by
  unfold modifiedAt at h
  split at h
  · cases h
    rw [if_pos ‹_›]
  · rw [if_neg ‹_›]
    split at h
    · cases h
    · cases h
      exact .unread _ rfl _

theorem Source.about_of_load {t : Tree} {encoding : Bytes.Encoding} {p : Path}
    (h : load t encoding p = .error e) :
    if p.hasNull then e = nullInPath else e.About p.name := by
  unfold load at h
  split at h
  · cases h
    exact about_of_modifiedAt ‹_›
  · have hp := (modifiedAt_eq_ok_iff.1 ‹_›).1
    rw [if_neg (by simp [hp])]
    split at h
    · cases h
      exact .unread _ rfl _
    · split at h
      · cases h
        exact .unread _ rfl _
      · cases h

theorem Source.load_eq_error_of_modifiedAt {t : Tree} (encoding : Bytes.Encoding) {p : Path}
    (h : modifiedAt t p = .error e) : load t encoding p = .error e := by
  rw [load, h]

/-! ### Settings and passes -/

theorem Settings.not_isCompilation_of_fileBindings {environment : List (Text × Text)} {t : Tree}
    {names : List Text} (h : fileBindings environment t names = .error e) :
    e.isCompilation = false := by
  have hone {n : Text} {e : Error} (h : bindingsOf environment t n = .error e) :
      e.isCompilation = false := by
    unfold bindingsOf at h
    split at h
    · cases h
    · split at h <;> cases h
      rfl
  induction names with
  | nil => cases h
  | cons n names ih =>
    unfold fileBindings at h
    split at h
    · cases h
      exact hone ‹_›
    · split at h
      · cases h
        exact ih ‹_›
      · cases h

theorem Settings.not_isCompilation_of_values {s : Settings.Source} {fields : List Text}
    (h : s.values fields = .error e) : e.isCompilation = false := by
  have hone {f : Text} {e : Error} (h : s.value? f = .error e) : e.isCompilation = false := by
    unfold Settings.Source.value? at h
    split at h
    · cases h
    · split at h
      · split at h <;> cases h
        rfl
      · cases h
  induction fields with
  | nil => cases h
  | cons f fields ih =>
    unfold Settings.Source.values at h
    split at h
    · cases h
      exact hone ‹_›
    · split at h
      · cases h
        exact ih ‹_›
      · cases h

theorem Settings.not_isCompilation_of_load {arguments : List (Text × Json)}
    {environment : List (Text × Text)} {t : Tree}
    (h : Settings.load arguments environment t = .error e) : e.isCompilation = false := by
  unfold Settings.load at h
  dsimp only at h
  split at h
  · cases h
    exact Settings.not_isCompilation_of_fileBindings ‹_›
  split at h
  · cases h
    exact Settings.not_isCompilation_of_values ‹_›
  split at h
  · cases h
    exact Settings.not_isCompilation_of_values ‹_›
  split at h <;> cases h
  rfl

theorem Pass.not_isCompilation_of_ofNames {names : List Text} (h : Pass.ofNames names = .error e) :
    e.isCompilation = false := by
  have hone {n : Text} {e : Error} (h : Pass.ofName n = .error e) : e.isCompilation = false := by
    unfold Pass.ofName at h
    split at h <;> cases h
    rfl
  induction names with
  | nil => cases h
  | cons n names ih =>
    unfold Pass.ofNames at h
    split at h
    · cases h
      exact hone ‹_›
    · split at h
      · cases h
        exact ih ‹_›
      · cases h

namespace Workspace

variable {w v : Workspace}

/-- The options that hold where none are given, or the error that settling them meets. -/
def currentOptions (w : Workspace) : Except Error PlainText.Options :=
  w.currentSettings.bind fun s =>
    w.currentPasses.map fun ps => { collapse := s.collapseWhitespace, passes := some ps }

theorem not_isCompilation_of_currentSettings (h : w.currentSettings = .error e) :
    e.isCompilation = false := by
  unfold currentSettings at h
  split at h
  · cases h
  · exact Settings.not_isCompilation_of_load h

theorem not_isCompilation_of_currentPasses (h : w.currentPasses = .error e) :
    e.isCompilation = false := by
  unfold currentPasses at h
  split at h
  · cases h
  · rcases hs : w.currentSettings with e' | s
    · rw [hs] at h
      cases h
      exact not_isCompilation_of_currentSettings hs
    · rw [hs] at h
      change (Pass.ofNames s.defaultPasses).map _ = .error e at h
      rcases hps : Pass.ofNames s.defaultPasses with e' | ps
      · rw [hps] at h
        cases h
        exact Pass.not_isCompilation_of_ofNames hps
      · rw [hps] at h
        cases h

theorem not_isCompilation_of_currentOptions (h : w.currentOptions = .error e) :
    e.isCompilation = false := by
  unfold currentOptions at h
  rcases hs : w.currentSettings with e' | s
  · rw [hs] at h
    cases h
    exact not_isCompilation_of_currentSettings hs
  · rcases hps : w.currentPasses with e' | ps
    · rw [hs, hps] at h
      cases h
      exact not_isCompilation_of_currentPasses hps
    · rw [hs, hps] at h
      cases h

end Workspace

namespace Job

theorem raises_settings : settings.Raises fun e => e.isCompilation = false := by
  intro w e h
  have hvalue := value_exec_settings w
  rw [h] at hvalue
  exact Workspace.not_isCompilation_of_currentSettings hvalue.symm

theorem raises_defaultPasses : defaultPasses.Raises fun e => e.isCompilation = false := by
  intro w e h
  rw [(exec_defaultPasses w).1] at h
  exact Workspace.not_isCompilation_of_currentPasses h

end Job

/-! ### Making a document plain -/

theorem Pass.about_of_step {i : Nat} {p : Pass} {s : Text}
    (h : Pass.step (some name) i p s = .error e) : e.About name := by
  unfold Pass.step at h
  split at h <;> cases h
  · exact .passFailed i p ‹_›
  · exact .passRefused i p ‹_› ‹_›

theorem Pass.about_of_runFrom {i : Nat} {ps : List Pass} {s : Text}
    (h : Pass.runFrom (some name) i ps s = .error e) : e.About name := by
  induction ps generalizing i s with
  | nil => cases h
  | cons p ps ih =>
    unfold Pass.runFrom at h
    split at h
    · cases h
      exact Pass.about_of_step ‹_›
    · exact ih h

namespace PlainText

theorem Shield.not_isCompilation_of_restoreFrom {sh : Shield} {skip : Nat} {s : Text}
    (h : sh.restoreFrom skip s = .error e) : e.isCompilation = false := by
  induction s generalizing skip with
  | nil => cases skip <;> cases h
  | cons c s ih =>
    have hmap {skip : Nat} {f : Text → Text} (h : (sh.restoreFrom skip s).map f = .error e) :
        e.isCompilation = false := by
      rcases hs : sh.restoreFrom skip s with e' | t
      · rw [hs] at h
        cases h
        exact ih hs
      · rw [hs] at h
        cases h
    cases skip with
    | succ skip => exact ih h
    | zero =>
      unfold Shield.restoreFrom at h
      split at h
      · exact hmap h
      · split at h
        · cases h
          rfl
        · exact hmap h

theorem not_isCompilation_of_ofPage {sh : Shield} {page : Text} (h : ofPage sh page = .error e) :
    e.isCompilation = false := by
  unfold ofPage at h
  split at h
  · cases h
    rename_i hparse
    unfold Html.parse Html.tokens at hparse
    split at hparse
    · cases hparse
      rfl
    · dsimp only at hparse
      split at hparse <;> cases hparse
      rfl
  · unfold Shield.restore at h
    split at h
    · cases h
    · exact Shield.not_isCompilation_of_restoreFrom h

theorem raises_ofSource (rules : List Text) (o : Option Options) (s : Text) :
    (ofSource rules o (some name) s).Raises (Error.NamesNoOther name) := by
  have hoptions : (optionsOr o).Raises (Error.NamesNoOther name) := by
    cases o with
    | some o => exact .pure o
    | none => exact (Job.raises_settings.mono fun _ => .inr).bind fun _ => .pure _
  have hpasses (es : Option (List (Option Pass))) :
      (passesOr es).Raises (Error.NamesNoOther name) := by
    cases es with
    | some es => exact .pure es
    | none => exact Job.raises_defaultPasses.mono fun _ => .inr
  have hrun (es : List (Option Pass)) :
      (runPasses (some name) es s).Raises (Error.NamesNoOther name) := by
    unfold runPasses
    refine (Job.Raises.reportAll _).bind fun _ => ?_
    split
    · exact .pure _
    · exact (Job.Raises.reportAll _).bind fun _ => .throw (.inl (Pass.about_of_runFrom ‹_›))
  have hstrip (rules : List Text) (t : Text) :
      (strip rules t).Raises (Error.NamesNoOther name) := by
    unfold strip
    dsimp only
    split
    · exact (Job.Raises.report _).bind fun _ => .pure t
    · exact .ofExcept fun e he => .inr (not_isCompilation_of_ofPage he)
  exact hoptions.bind fun o => (hpasses o.passes).bind fun es => (hrun es).bind fun t =>
    (hstrip _ t).bind fun u => (Job.Raises.report _).bind fun _ => .pure _

end PlainText

namespace Compiler

/-! ### Compiling -/

/-- Listing and inspecting placeholders raise no errors about documents. -/
structure IsImpartial (c : Compiler) : Prop where
  extract : ∀ s e, c.extract s = .error e → e.isCompilation = false
  inspect : ∀ ps e, c.inspect ps = .error e → e.isCompilation = false

theorem IsPlain.isImpartial {c : Compiler} (h : c.IsPlain) : c.IsImpartial := by
  constructor
  · intro s e he
    rw [h.extract] at he
    cases he
  · intro ps e he
    rw [h.inspect] at he
    cases he

theorem raises_compileFor {c : Compiler} (hc : c.IsImpartial) (t : Target) (o : Option PlainText.Options)
    (s : Text) : (c.compileFor t (.str s) o (some name)).Raises (Error.NamesNoOther name) := by
  have hextract (s : Text) : (Job.extract c.extract s).Raises (Error.NamesNoOther name) :=
    (Job.Raises.ofExcept fun e he => .inr (hc.extract s e he)).bind fun _ =>
      (Job.Raises.report _).bind fun _ => .pure _
  have hinspect (ps : List Placeholder) :
      (Job.inspect c.inspect ps).Raises (Error.NamesNoOther name) :=
    (Job.Raises.ofExcept fun e he => .inr (hc.inspect ps e he)).bind fun _ =>
      (Job.Raises.reportAll _).bind fun _ => .pure _
  have hgenerate (s : Text) (ps : List Placeholder) :
      (Job.generate t s ps).Raises (Error.NamesNoOther name) :=
    (Job.Raises.report _).bind fun _ => .pure _
  exact (PlainText.raises_ofSource c.rules o s).bind fun s => (hextract s).bind fun ps =>
    (hinspect ps).bind fun _ => (hgenerate s ps).bind fun a =>
      (Job.Raises.report _).bind fun _ => .pure a

end Compiler

end PromptPress

import PromptPress.Compiler.Basic
import PromptPress.Proofs.Workspace.Run

/-!
# What compiling leaves as it is

Compiling reports events, stamps artifacts, loads settings and, the first time, the default passes;
it changes nothing else in the workspace.  A `Lasting` property is one that none of these four
touches, and every lasting property is maintained by whatever a compiler does
(`maintains_compileFile`).  What holds of the files is a lasting property
(`lasting_files`).
-/

namespace PromptPress

/-- A property of workspaces that compiling does not touch. -/
structure Workspace.Lasting (P : Workspace → Prop) : Prop where
  events : ∀ {w} (es : List Log.Event), P w → P { w with events := es }
  settings : ∀ {w} (s : Option (Stamped Settings)) (n : Nat), P w →
    P { w with settings := s, settingsMade := n }
  artifacts : ∀ {w} (n : Nat), P w → P { w with artifactsMade := n }
  passes : ∀ {w} {names : List Text} {ps : List Pass}, Pass.ofNames names = .ok ps →
    P w → P { w with passes := some (ps.map some) }

open Workspace (Lasting)

theorem Workspace.lasting_files (Q : Tree → Prop) : Lasting fun w => Q w.files :=
  ⟨fun _ h => h, fun _ _ h => h, fun _ h => h, fun _ h => h⟩

variable {P : Workspace → Prop}

namespace Job

theorem maintains_report (h : Lasting P) (e : Log.Event) : Maintains P (report e) :=
  fun _ hw => h.events _ hw

theorem maintains_reportAll (h : Lasting P) (es : List Log.Event) : Maintains P (reportAll es) := by
  induction es with
  | nil => exact Maintains.pure ()
  | cons e es ih => exact (maintains_report h e).bind fun _ => ih

theorem maintains_stampArtifact {α : Type} (h : Lasting P) (a : α) :
    Maintains P (stampArtifact a) := fun _ hw => h.artifacts _ hw

/-! ### Settings and default passes -/

theorem maintains_refreshSettings (h : Lasting P) : Maintains P refreshSettings := by
  intro w hw
  simp only [refreshSettings, loadSettings, exec_bind, exec_get, exec_ofExcept]
  rcases Settings.load [] w.environment w.files with e | s
  · exact hw
  · exact h.settings (w := w) (some ⟨w.settingsMade, s⟩) (w.settingsMade + 1) hw

theorem maintains_settings (h : Lasting P) : Maintains P settings := by
  refine Maintains.get.bind fun w => ?_
  rcases w.settings with _ | s
  · exact maintains_refreshSettings h
  · exact Maintains.pure s

theorem maintains_defaultPasses (h : Lasting P) : Maintains P defaultPasses := by
  refine Maintains.get.bind fun w => ?_
  rcases w.passes with _ | es
  · refine (maintains_settings h).bind fun s => ?_
    rcases hps : Pass.ofNames s.value.defaultPasses with e | ps
    · exact Maintains.throw e
    · rw [ofExcept, pure_bind]
      exact (Maintains.modify fun _ hw => h.passes hps hw).bind fun _ => Maintains.pure _
  · exact Maintains.pure es

theorem maintains_target_some (P : Workspace → Prop) (n : Text) : Maintains P (target (some n)) := by
  refine (Maintains.pure n).bind fun n => ?_
  dsimp only
  rcases Target.ofName? n with _ | t
  · exact Maintains.throw _
  · exact Maintains.pure t

theorem maintains_target (h : Lasting P) (name : Option Text) : Maintains P (target name) := by
  rcases name with _ | n
  · exact (maintains_settings h).bind fun s => maintains_target_some P s.value.target
  · exact maintains_target_some P n

/-! ### Making a document plain -/

theorem maintains_load (h : Lasting P) (encoding : Bytes.Encoding) (p : Path) :
    Maintains P (load encoding p) :=
  Maintains.get.bind fun _ => (Maintains.ofExcept _).bind fun _ =>
    (maintains_report h _).bind fun _ => Maintains.pure _

theorem maintains_runPasses (h : Lasting P) (name : Option Text) (es : List (Option Pass))
    (s : Text) : Maintains P (PlainText.runPasses name es s) := by
  refine (maintains_reportAll h _).bind fun _ => ?_
  rcases Pass.runAll name es s with e | t
  · exact (maintains_reportAll h _).bind fun _ => Maintains.throw e
  · exact Maintains.pure t

theorem maintains_strip (h : Lasting P) (rules : List Text) (s : Text) :
    Maintains P (PlainText.strip rules s) := by
  unfold PlainText.strip
  dsimp only
  split
  · exact (maintains_report h _).bind fun _ => Maintains.pure s
  · exact Maintains.ofExcept _

theorem maintains_ofValue (h : Lasting P) (rules : List Text) (o : Option PlainText.Options)
    (name : Option Text) (source : Json) : Maintains P (PlainText.ofValue rules o name source) := by
  have hoptions : Maintains P (PlainText.optionsOr o) := by
    rcases o with _ | o
    · exact (maintains_settings h).bind fun _ => Maintains.pure _
    · exact Maintains.pure o
  have hpasses (es : Option (List (Option Pass))) : Maintains P (PlainText.passesOr es) := by
    rcases es with _ | es
    · exact maintains_defaultPasses h
    · exact Maintains.pure es
  rcases source with _ | _ | _ | _ | s | _ | _
  case str =>
    exact hoptions.bind fun o => (hpasses o.passes).bind fun es =>
      (maintains_runPasses h name es s).bind fun s => (maintains_strip h _ s).bind fun _ =>
        (maintains_report h _).bind fun _ => Maintains.pure _
  all_goals exact Maintains.throw _

/-! ### Compiling -/

theorem maintains_compileFor (h : Lasting P) (c : Compiler) (t : Target) (source : Json)
    (o : Option PlainText.Options) (name : Option Text) :
    Maintains P (c.compileFor t source o name) := by
  refine (maintains_ofValue h c.rules o name source).bind fun s => ?_
  have hextract : Maintains P (extract c.extract s) :=
    (Maintains.ofExcept _).bind fun _ => (maintains_report h _).bind fun _ => Maintains.pure _
  have hinspect (ps : List Placeholder) : Maintains P (inspect c.inspect ps) :=
    (Maintains.ofExcept _).bind fun _ => (maintains_reportAll h _).bind fun _ => Maintains.pure _
  refine hextract.bind fun ps => (hinspect ps).bind fun _ => ?_
  exact ((maintains_report h _).bind fun _ => Maintains.pure _).bind fun _ =>
    (maintains_report h _).bind fun _ => Maintains.pure _

theorem maintains_compileSource (h : Lasting P) (c : Compiler) (t : Target) (p : Path)
    (o : PlainText.Options) : Maintains P (c.compileSource t p o) :=
  (maintains_load h .utf8 p).bind fun _ =>
    ((maintains_compileFor h c t _ _ _).tryCatch fun _ => Maintains.throw _).bind fun _ =>
      maintains_stampArtifact h _

theorem maintains_defaultOptions (h : Lasting P) : Maintains P Compiler.defaultOptions :=
  (maintains_settings h).bind fun _ => (maintains_defaultPasses h).bind fun _ => Maintains.pure _

theorem maintains_keyOf (t : Target) (rules : List Text) (p : Path) (o : PlainText.Options) :
    Maintains P (Compiler.keyOf t rules p o) :=
  Maintains.get.bind fun _ => (Maintains.ofExcept _).bind fun _ => Maintains.pure _

end Job

namespace Compiler

theorem maintains_targetOr (h : Lasting P) (target : Option Text) :
    JobOn.Maintains (fun _ w => P w) (targetOr target) := by
  rcases target with _ | n
  · exact JobOn.Maintains.state.bind fun c => JobOn.Maintains.pure c.target
  · exact JobOn.Maintains.liftM fun _ => Job.maintains_target h n

/-- What loading the default options, making an artifact and reporting maintain is maintained while a
file is compiled. -/
theorem maintains_compileFile_of {target : Option Text}
    (htarget : JobOn.Maintains (fun _ w => P w) (targetOr target))
    (hoptions : Job.Maintains P defaultOptions)
    (hsource : ∀ c t p o, Job.Maintains P (compileSource c t p o))
    (hreport : ∀ e, Job.Maintains P (Job.report e)) (p : Path) (o : Option PlainText.Options) :
    JobOn.Maintains (fun _ w => P w) (compileFile p o target) := by
  have hcached (t : Target) : JobOn.Maintains (fun _ w => P w) (compileCached t p) := by
    refine (JobOn.Maintains.liftM fun _ => hoptions).bind fun o => ?_
    refine JobOn.Maintains.state.bind fun c => ?_
    refine (JobOn.Maintains.liftM fun _ => Job.maintains_keyOf t c.rules p o).bind fun k => ?_
    rcases c.cache.get k with ⟨found, cache⟩
    refine (JobOn.Maintains.setState fun _ _ hw => hw).bind fun _ => ?_
    rcases found with _ | a
    · exact (JobOn.Maintains.liftM fun _ => hsource c t p o).bind fun a =>
        (JobOn.Maintains.change fun _ _ hw => hw).bind fun _ => JobOn.Maintains.pure a
    · exact (JobOn.Maintains.liftM fun _ => hreport _).bind fun _ => JobOn.Maintains.pure a
  refine JobOn.Maintains.onError ?_ fun e => JobOn.Maintains.liftM fun _ => hreport _
  refine htarget.bind fun t => ?_
  rcases o with _ | o
  · exact hcached t
  · exact JobOn.Maintains.state.bind fun c => JobOn.Maintains.liftM fun _ => hsource c t p o

theorem maintains_compileFile (h : Lasting P) (p : Path) (o : Option PlainText.Options)
    (target : Option Text) : JobOn.Maintains (fun _ w => P w) (compileFile p o target) :=
  maintains_compileFile_of (maintains_targetOr h target) (Job.maintains_defaultOptions h)
    (Job.maintains_compileSource h) (Job.maintains_report h) p o

end Compiler

end PromptPress

import PromptPress.Proofs.Compiler.History
import PromptPress.Proofs.Compiler.Options
import PromptPress.Proofs.Slot.Words

/-!
# Blanks and parameters

Whether the blanks of a plain text are collapsed or only trimmed, its words stay, and with them its
slots (`all_settleBlanks`).  So a template asks its callers for the same whichever is done: two
compilations whose options differ in nothing else give artifacts with one interface, or fail with
one error (`collapse_keeps_interface`).
-/

namespace PromptPress

theorem PlainText.all_settleBlanks (collapse : Bool) (s : Text) :
    Slot.all (settleBlanks collapse s) = Slot.all s := by
  cases collapse with
  | true => exact Slot.all_eq_of_words_eq (Text.words_collapse s)
  | false => exact Slot.all_eq_of_words_eq (Text.words_trim s)

theorem PlainText.ofText_settleBlanks (collapse : Bool) (s : Text) :
    Placeholder.ofText (settleBlanks collapse s) = Placeholder.ofText s := by
  rw [Placeholder.ofText, all_settleBlanks, Placeholder.ofText]

/-- What an artifact tells its callers: the placeholders, the type of the parameters, whether there
are none, and the declaration of the module. -/
def Artifact.interface (a : Artifact) : List Placeholder × Text × Bool × Text :=
  (a.placeholders, a.signature, a.isStatic, a.declaration a.target)

namespace Compiler

open PlainText (Options settleBlanks)

variable {c : Compiler} {v w : Workspace}

/-- The interface is that of the text before its blanks are settled. -/
theorem interface_outcome (rules : List Text) (t : Target) (p : Options) (name : Option Text)
    (s : Text) : (outcome rules t p name s).map Artifact.interface =
      ((Pass.runAll name (p.passes.getD []) s).bind
        fun u => PlainText.stripped (p.rules.getD rules) u).map
          fun u => (Artifact.ofText t u (Placeholder.ofText u)).interface := by
  have hinterface (u : Text) :
      (Artifact.ofText t (settleBlanks p.collapse u)
        (Placeholder.ofText (settleBlanks p.collapse u))).interface =
      (Artifact.ofText t u (Placeholder.ofText u)).interface := by
    rw [PlainText.ofText_settleBlanks]
    rfl
  unfold outcome PlainText.outcome
  rcases Pass.runAll name (p.passes.getD []) s with e | u
  · rfl
  · rcases hu : PlainText.stripped (p.rules.getD rules) u with e | x
    · simp [bind, Except.bind, Except.map, hu]
    · simp only [bind, Except.bind, Except.map, hu, pure, Except.pure]
      rw [hinterface]

/-- **Collapsing blanks never changes what a template asks for.**  A collapsed text is the text with
each run of blanks squeezed to one space and trimmed, which is its words with single spaces between
them; trimming before, or collapsing again, changes nothing; and the slots stay the same, collapsed
or trimmed.  So two compilations of a source whose options differ only in collapsing have the same
interface. -/
theorem collapse_keeps_interface (hc : c.IsPlain) {o q : Option Options} {p : Options} {b : Bool}
    (hw : w.optionsFor o = .ok p) (hv : v.optionsFor q = .ok { p with collapse := b })
    (s : Text) (target name : Option Text) :
    (∀ t : Text, Text.collapse t = Text.trim (Text.squeeze t) ∧
      Text.collapse t = Text.joinWith [' '] ((t.splitOnP Text.isBlank).filter (!·.isEmpty)) ∧
      Text.collapse (Text.trim t) = Text.collapse t ∧
      Text.collapse (Text.collapse t) = Text.collapse t ∧
      Slot.all (Text.collapse t) = Slot.all t ∧ Slot.all (Text.trim t) = Slot.all t) ∧
    ((compile (.str s) o target name).exec c w).1.1.map (·.value.interface) =
      ((compile (.str s) q target name).exec c v).1.1.map (·.value.interface) := by
  constructor
  · intro t
    refine ⟨(Text.trim_squeeze t).symm, ?_, Text.collapse_trim t, Text.collapse_collapse t,
      PlainText.all_settleBlanks true t, PlainText.all_settleBlanks false t⟩
    rw [← Text.words_eq_splitOnP]
    rfl
  · have hresult (o : Option Options) (w : Workspace) :
        ((compile (.str s) o target name).exec c w).1.1.map (·.value.interface) =
          (c.targetNamed target).bind fun t => (w.optionsFor o).bind fun p =>
            (outcome c.rules t p name s).map Artifact.interface := by
      calc ((compile (.str s) o target name).exec c w).1.1.map (·.value.interface)
          = (((compile (.str s) o target name).exec c w).1.1.map Stamped.value).map
              Artifact.interface := by
            cases ((compile (.str s) o target name).exec c w).1.1 <;> rfl
        _ = _ := by
            rw [result_compile hc]
            cases c.targetNamed target with
            | error e => rfl
            | ok t => cases w.optionsFor o <;> rfl
    rw [hresult, hresult, hw, hv]
    congr 1
    funext t
    exact (interface_outcome c.rules t p name s).trans
      (interface_outcome c.rules t { p with collapse := b } name s).symm

/-- The settings of two workspaces differ in collapsing: the texts differ, what is asked for does
not. -/
theorem collapse_keeps_interface_of_settings :
    let w : Workspace := { settings := some ⟨0, {}⟩ }
    let v : Workspace := { settings := some ⟨0, { collapseWhitespace := false }⟩ }
    let run := fun w => ((compile (.str "# \x7ba\x7d\n\n\x7b b\x7d  \x7bc?\x7d") none none none).exec
      keepingTwo w).1.1
    (run w).toOption.map (·.value.text) = some "\x7ba\x7d \x7b b\x7d \x7bc?\x7d" ∧
      (run v).toOption.map (·.value.text) = some "\x7ba\x7d\n\n\x7b b\x7d  \x7bc?\x7d" ∧
      (run w).map (·.value.interface) = (run v).map (·.value.interface) := by
  intro w v run
  have hplain : keepingTwo.IsPlain := ⟨rfl, rfl⟩
  refine ⟨by decide +kernel, by decide +kernel, ?_⟩
  exact (collapse_keeps_interface hplain (p := { passes := some [] }) (b := false) rfl rfl _ none
    none).2

end Compiler

end PromptPress

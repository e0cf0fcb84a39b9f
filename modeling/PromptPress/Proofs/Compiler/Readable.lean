import PromptPress.Proofs.Compiler.History
import PromptPress.Proofs.Compiler.Options
import PromptPress.Proofs.PlainText.Readable

/-!
# Which documents compile

Without passes a document fails for one reason only, once options and target are settled: it is
rendered to a page that is not readable (`compiles_iff_readable`).  What cannot be rendered is kept
as it was written, and compiles.
-/

namespace PromptPress

theorem Except.exists_map_eq_ok_iff {ε α β : Type} {f : α → β} {r : Except ε α} :
    (∃ b, r.map f = .ok b) ↔ ∃ a, r = .ok a := by
  cases r with
  | error e => exact iff_of_false (by rintro ⟨b, h⟩; cases h) (by rintro ⟨a, h⟩; cases h)
  | ok a => exact iff_of_true ⟨f a, rfl⟩ ⟨a, rfl⟩

open PlainText (Options Readable shieldOf strippedBy)

variable {w : Workspace} {o : Option Options} {p : Options}

/-- Without passes, a document becomes its text without formatting, with the blanks settled. -/
theorem PlainText.outcome_of_kept_eq_nil (rules : List Text)
    (hpasses : Pass.kept (p.passes.getD []) = []) (name : Option Text) (s : Text) :
    outcome rules p name s = (stripped (p.rules.getD rules) s).map (settleBlanks p.collapse) := by
  have hrun : Pass.runAll name (p.passes.getD []) s = .ok s := by
    rw [Pass.runAll, hpasses]
    rfl
  unfold outcome
  rw [hrun]
  show (stripped (p.rules.getD rules) s).bind _ = _
  cases stripped (p.rules.getD rules) s <;> rfl

theorem PlainText.exists_outcome_iff (rules : List Text)
    (hpasses : Pass.kept (p.passes.getD []) = []) (name : Option Text) (s : Text) :
    (∃ t, outcome rules p name s = .ok t) ↔
      Readable (Markdown.render (.ofNames (p.rules.getD rules))) Html.parse s := by
  rw [outcome_of_kept_eq_nil rules hpasses, Except.exists_map_eq_ok_iff, stripped_eq]
  exact exists_strippedBy_iff

namespace Compiler

variable {c : Compiler}

theorem outcome_eq_map (rules : List Text) (t : Target) (name : Option Text) (s : Text) :
    outcome rules t p name s =
      (PlainText.outcome rules p name s).map fun u => Artifact.ofText t u (Placeholder.ofText u) := by
  unfold outcome
  cases PlainText.outcome rules p name s <;> rfl

/-- **Documents compile if and only if they are readable**, where no passes run.  Whatever rendering
a document and reading its page may do, formatting is taken out exactly of readable documents; what
cannot be rendered is kept as it was written, and where a page cannot be read, the error of reading
it comes out.  So a document is made plain if it is readable, and compiled if besides its target is
known. -/
theorem compiles_iff_readable (hc : c.IsPlain) (hw : w.optionsFor o = .ok p)
    (hpasses : Pass.kept (p.passes.getD []) = []) (s : Text) (target name : Option Text) :
    (∀ (render : Text → Except Text Text) (parse : Text → Except Error (List Html.Node)),
      ((∃ t, strippedBy render parse s = .ok t) ↔ Readable render parse s) ∧
      (∀ m, render (shieldOf s).text = .error m → strippedBy render parse s = .ok s) ∧
      ∀ page e, render (shieldOf s).text = .ok page → parse page = .error e →
        strippedBy render parse s = .error e) ∧
    ((∃ t, ((PlainText.ofSource c.rules o name s).exec w).1 = .ok t) ↔
      Readable (Markdown.render (.ofNames (p.rules.getD c.rules))) Html.parse s) ∧
    ((∃ a, ((compile (.str s) o target name).exec c w).1.1 = .ok a) ↔
      (∃ t, c.targetNamed target = .ok t) ∧
        Readable (Markdown.render (.ofNames (p.rules.getD c.rules))) Html.parse s) := by
  refine ⟨fun render parse => ⟨PlainText.exists_strippedBy_iff, ?_, ?_⟩, ?_, ?_⟩
  · intro m hm
    exact PlainText.strippedBy_of_unrendered hm
  · intro page e hpage he
    exact PlainText.strippedBy_of_unread hpage he
  · rw [PlainText.result_ofSource, hw]
    exact PlainText.exists_outcome_iff c.rules hpasses name s
  · rw [← Except.exists_map_eq_ok_iff (f := Stamped.value), result_compile hc, hw]
    cases htarget : c.targetNamed target with
    | error e =>
      exact iff_of_false (by rintro ⟨a, h⟩; cases h) (by rintro ⟨⟨t, h⟩, -⟩; cases h)
    | ok t =>
      show (∃ a, outcome c.rules t p name s = .ok a) ↔ _
      rw [outcome_eq_map, Except.exists_map_eq_ok_iff, PlainText.exists_outcome_iff _ hpasses]
      exact (and_iff_right ⟨t, rfl⟩).symm

/-- A page that opens a marked section of an unknown kind cannot be read, so the document neither
becomes plain nor compiles; a bracket in its place does no harm. -/
theorem compiles_iff_readable_of_marked_section :
    let w : Workspace := { settings := some ⟨0, {}⟩ }
    let o : Option Options := some { passes := some [] }
    let run := fun s => ((compile (.str s) o none none).exec keepingTwo w).1.1
    let render := Markdown.render (.ofNames keepingTwo.rules)
    (¬ ∃ a, run "<![foo" = .ok a) ∧ ¬ Readable render Html.parse "<![foo" ∧
      (∃ a, run "[foo" = .ok a) ∧ Readable render Html.parse "[foo" := by
  intro w o run render
  have hplain : keepingTwo.IsPlain := ⟨rfl, rfl⟩
  have hiff (s : Text) := (compiles_iff_readable hplain (w := w) (o := o) rfl rfl s none none).2.2
  have hfails : (run "<![foo").toOption.isSome = false := by decide +kernel
  have hgoes : (run "[foo").toOption.isSome = true := by decide +kernel
  have hnone : ¬ ∃ a, run "<![foo" = .ok a := by
    rintro ⟨a, ha⟩
    rw [ha] at hfails
    cases hfails
  have hsome : ∃ a, run "[foo" = .ok a := by
    cases hrun : run "[foo" with
    | error e =>
      rw [hrun] at hgoes
      cases hgoes
    | ok a => exact ⟨a, rfl⟩
  have htarget : ∃ t, keepingTwo.targetNamed none = .ok t := ⟨_, rfl⟩
  exact ⟨hnone, fun hreadable => hnone ((hiff _).2 ⟨htarget, hreadable⟩), hsome,
    ((hiff _).1 hsome).2⟩

end Compiler

end PromptPress

import PromptPress.Proofs.Compiler.Collapse
import PromptPress.Proofs.Compiler.Readable
import PromptPress.Proofs.Placeholder.Declaration

/-!
# Where parameters come from

The slots of a document are shielded while it is rendered, so each of them that is shown at all is a
parameter of the template.  Braces that are no slot are not shielded, and may become one when the
formatting inside them is taken out.  The parameters of a plain text are slots of its document if and
only if the literal text that the page shows declares none but those (`parameters_written_iff`).
-/

namespace PromptPress.PlainText

variable {w : Workspace} {o : Option Options} {p : Options} {s t : Text}

/-- What is made plain without passes is the text without formatting, with the blanks settled. -/
theorem exists_of_ofSource {rules : List Text} (hw : w.optionsFor o = .ok p)
    (hpasses : Pass.kept (p.passes.getD []) = []) {name : Option Text}
    (ht : ((ofSource rules o name s).exec w).1 = .ok t) :
    ∃ u, strippedBy (Markdown.render (.ofNames (p.rules.getD rules))) Html.parse s = .ok u ∧
      t = settleBlanks p.collapse u := by
  rw [result_ofSource, hw] at ht
  replace ht : outcome rules p name s = .ok t := ht
  rw [outcome_of_kept_eq_nil rules hpasses, stripped_eq] at ht
  cases hu : strippedBy (Markdown.render (.ofNames (p.rules.getD rules))) Html.parse s with
  | error e =>
    rw [hu] at ht
    cases ht
  | ok u =>
    rw [hu] at ht
    exact ⟨u, rfl, (Except.ok.inj ht).symm⟩

/-- **Parameters are slots of the document if and only if literal text declares no others.**  What is
made plain has the slots of the literal text that the page shows, and slots of the document in the
place of sentinels. -/
theorem parameters_written_iff {rules : List Text} (hw : w.optionsFor o = .ok p)
    (hpasses : Pass.kept (p.passes.getD []) = []) {name : Option Text}
    (ht : ((ofSource rules o name s).exec w).1 = .ok t) :
    let render := Markdown.render (.ofNames (p.rules.getD rules))
    (∀ page ns, render (shieldOf s).text = .ok page → Html.parse page = .ok ns →
      Slot.all t = ((shieldOf s).runs (shown ns)).flatMap (Shield.slotsOf (Slot.all s))) ∧
    ((∀ q ∈ Placeholder.ofText t, ∃ v ∈ Slot.all s, v.written = q.raw) ↔
      ∀ page ns, render (shieldOf s).text = .ok page → Html.parse page = .ok ns →
        ∀ l, .literal l ∈ (shieldOf s).runs (shown ns) → ∀ v ∈ Slot.all l,
          v.placeholder ∈ Placeholder.ofText t → v ∈ Slot.all s) := by
  intro render
  obtain ⟨u, hu, rfl⟩ := exists_of_ofSource hw hpasses ht
  have hslots : ∀ page ns, render (shieldOf s).text = .ok page → Html.parse page = .ok ns →
      Slot.all (settleBlanks p.collapse u) =
        ((shieldOf s).runs (shown ns)).flatMap (Shield.slotsOf (Slot.all s)) := by
    intro page ns hpage hns
    rw [all_settleBlanks]
    exact all_strippedBy hpage hns hu
  refine ⟨hslots, ?_, ?_⟩
  · intro hwritten page ns hpage hns l hl v hv hshown
    obtain ⟨x, hx, hraw⟩ := hwritten v.placeholder hshown
    have hvl : v.WellFormed := Slot.wellFormed_of_mem_all hv
    obtain rfl : x = v := Slot.written_inj (Slot.wellFormed_of_mem_all hx) hvl hraw
    exact hx
  · intro hliteral q hq
    obtain ⟨v, hv, rfl⟩ := Placeholder.mem_ofText hq
    refine ⟨v, ?_, rfl⟩
    rcases cases_of_strippedBy hu with rfl | ⟨page, ns, hpage, hns⟩
    · rwa [all_settleBlanks] at hv
    · rw [hslots page ns hpage hns] at hv
      obtain ⟨r, hr, hvr⟩ := List.mem_flatMap.1 hv
      cases r with
      | literal l => exact hliteral page ns hpage hns l hr v hvr hq
      | item n => exact List.mem_of_getElem? (Option.mem_toList.1 hvr)

/-- Emphasis inside braces is no name, but what is shown of it is: a parameter comes about that the
document does not have, and the literal text of its page is to blame. -/
theorem parameters_written_iff_of_emphasis :
    let s : Text := "\x7b**name**\x7d \x7bgood\x7d"
    let t : Text := "\x7bname\x7d \x7bgood\x7d"
    let render := Markdown.render (.ofNames [])
    ((ofSource [] (some { passes := some [] }) none s).exec {}).1 = .ok t ∧
      (Placeholder.ofText t).map Placeholder.name = ["name".toList, "good".toList] ∧
      (Slot.all s).map Slot.name = ["good".toList] ∧
      ¬ ∀ page ns, render (shieldOf s).text = .ok page → Html.parse page = .ok ns →
        ∀ l, .literal l ∈ (shieldOf s).runs (shown ns) → ∀ v ∈ Slot.all l,
          v.placeholder ∈ Placeholder.ofText t → v ∈ Slot.all s := by
  intro s t render
  have ht : ((ofSource [] (some { passes := some [] }) none s).exec {}).1.toOption = some t := by
    decide +kernel
  have hok : ((ofSource [] (some { passes := some [] }) none s).exec {}).1 = .ok t := by
    cases hrun : ((ofSource [] (some { passes := some [] }) none s).exec {}).1 with
    | error e =>
      rw [hrun] at ht
      cases ht
    | ok u =>
      rw [hrun] at ht
      exact congrArg Except.ok (Option.some.inj ht)
  refine ⟨hok, by decide +kernel, by decide +kernel, fun hliteral => ?_⟩
  let o : Options := { passes := some [] }
  have hwritten := (parameters_written_iff (w := {}) (o := some o) (p := o) rfl rfl hok).2.2 hliteral
  exact absurd hwritten (by decide +kernel)

end PromptPress.PlainText

import PromptPress.Proofs.PlainText.Runs
import PromptPress.Proofs.Compiler.Outcome

/-!
# Readable pages

A document is rendered to a page, the page is read into nodes, and what they show is restored.
`strippedBy` leaves open how rendering and reading go, and whether they go well.  A document that
cannot be rendered is kept as it is, but nothing is kept where a page cannot be read: formatting is
taken out exactly if the page that was rendered is readable (`exists_strippedBy_iff`).

The slots of the text that results are those of the literal text that the page shows and those that
were put back (`all_strippedBy`).
-/

namespace PromptPress.PlainText

/-- The shield of a document. -/
def shieldOf (s : Text) : Shield := Shield.ofText (Shield.freshMark s) s

/-- What nodes show, with sentinels in the place of slots. -/
def shown (ns : List Html.Node) : Text := Text.joinWith blockSeparator (Html.blocks ns)

/-- A text without its formatting, for any way of rendering it and of reading the page. -/
def strippedBy (render : Text → Except Text Text) (parse : Text → Except Error (List Html.Node))
    (s : Text) : Except Error Text :=
  match render (shieldOf s).text with
  | .error _ => .ok s
  | .ok page =>
    match parse page with
    | .error e => .error e
    | .ok ns => (shieldOf s).restore (shown ns)

/-- If a page is rendered, it is read into nodes, and each sentinel that they show has the number of
a slot. -/
def Readable (render : Text → Except Text Text) (parse : Text → Except Error (List Html.Node))
    (s : Text) : Prop :=
  ∀ page, render (shieldOf s).text = .ok page → ∃ ns, parse page = .ok ns ∧
    ∀ n ∈ Run.items ((shieldOf s).runs (shown ns)), n < (Slot.all s).length

variable {render : Text → Except Text Text} {parse : Text → Except Error (List Html.Node)}
  {page s t : Text} {ns : List Html.Node}

theorem stripped_eq (rules : List Text) (s : Text) :
    stripped rules s = strippedBy (Markdown.render (.ofNames rules)) Html.parse s := by
  unfold stripped strippedBy ofPage
  rfl

theorem length_raws_shieldOf (s : Text) : (shieldOf s).raws.length = (Slot.all s).length :=
  List.length_map Slot.written

theorem strippedBy_of_unrendered {m : Text} (h : render (shieldOf s).text = .error m) :
    strippedBy render parse s = .ok s := by
  rw [strippedBy, h]

theorem strippedBy_of_unread {e : Error} (h : render (shieldOf s).text = .ok page)
    (he : parse page = .error e) : strippedBy render parse s = .error e := by
  rw [strippedBy, h]
  dsimp only
  rw [he]

theorem strippedBy_of_page (h : render (shieldOf s).text = .ok page) (hns : parse page = .ok ns) :
    strippedBy render parse s = (shieldOf s).restore (shown ns) := by
  rw [strippedBy, h]
  dsimp only
  rw [hns]

/-- Where formatting is taken out, the document is kept or its page was read. -/
theorem cases_of_strippedBy (ht : strippedBy render parse s = .ok t) :
    t = s ∨ ∃ page ns, render (shieldOf s).text = .ok page ∧ parse page = .ok ns := by
  cases hrender : render (shieldOf s).text with
  | error m => exact .inl (Except.ok.inj (ht.symm.trans (strippedBy_of_unrendered hrender)))
  | ok page =>
    cases hparse : parse page with
    | error e =>
      rw [strippedBy_of_unread hrender hparse] at ht
      cases ht
    | ok ns => exact .inr ⟨page, ns, rfl, hparse⟩

/-- **Formatting is taken out exactly of readable documents.** -/
theorem exists_strippedBy_iff :
    (∃ t, strippedBy render parse s = .ok t) ↔ Readable render parse s := by
  cases hrender : render (shieldOf s).text with
  | error m =>
    refine iff_of_true ⟨s, strippedBy_of_unrendered hrender⟩ fun page hpage => ?_
    rw [hrender] at hpage
    cases hpage
  | ok page =>
    cases hparse : parse page with
    | error e =>
      rw [strippedBy_of_unread hrender hparse]
      refine iff_of_false (by simp) fun hreadable => ?_
      obtain ⟨ns, hns, -⟩ := hreadable page hrender
      rw [hparse] at hns
      cases hns
    | ok ns =>
      rw [strippedBy_of_page hrender hparse, Shield.restore_eq, length_raws_shieldOf]
      constructor
      · rintro ⟨t, ht⟩ page' hpage'
        obtain rfl : page = page' := Except.ok.inj (hrender.symm.trans hpage')
        refine ⟨ns, hparse, ?_⟩
        by_contra hunknown
        rw [if_neg hunknown] at ht
        cases ht
      · intro hreadable
        obtain ⟨ns', hns', hknown⟩ := hreadable page hrender
        obtain rfl : ns = ns' := Except.ok.inj (hparse.symm.trans hns')
        exact ⟨_, if_pos hknown⟩

/-- **The slots of a text without formatting** are those of the literal text that its page shows, and
those that were put back. -/
theorem all_strippedBy (h : render (shieldOf s).text = .ok page) (hns : parse page = .ok ns)
    (ht : strippedBy render parse s = .ok t) :
    Slot.all t = ((shieldOf s).runs (shown ns)).flatMap (Shield.slotsOf (Slot.all s)) := by
  rw [strippedBy_of_page h hns, Shield.restore_eq, length_raws_shieldOf] at ht
  by_cases hknown : ∀ n ∈ Run.items ((shieldOf s).runs (shown ns)), n < (Slot.all s).length
  · rw [if_pos hknown] at ht
    rw [← Except.ok.inj ht]
    exact Shield.all_flatMap_spell (fun w hw => Slot.wellFormed_of_mem_all hw)
      (Run.separated_group _) hknown
  · rw [if_neg hknown] at ht
    cases ht

end PromptPress.PlainText

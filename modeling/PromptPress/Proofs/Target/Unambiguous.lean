import PromptPress.Proofs.Placeholder.Diagnosis
import PromptPress.Proofs.Target.Fields

/-!
# Names in one form

Where the warnings report no conflict, each name is declared once.  Then no name has two fields in
the type of the parameters, in either target; in a module for Python the body of the function asks
for a name in one way only; and the names that the type requires are all that a call needs
(`Python.call_eq_ok_of_required`).  Where a name is declared in two forms none of this holds: the
last field of the name counts, and the other form may ask for more.
-/

namespace PromptPress

theorem Placeholder.order_perm (ps : List Placeholder) : (order ps).Perm ps := by
  refine (List.perm_append_comm).trans ?_
  simpa using List.filter_append_perm (·.optional) ps

theorem Target.nodup_names_fields (t : Target) {ps : List Placeholder}
    (hd : (ps.map (·.name)).Nodup) : ((t.fields ps).map Parameter.name).Nodup := by
  have hnames : (t.fields ps).map Parameter.name = (Placeholder.order ps).map (·.name) :=
    List.map_map
  rw [hnames]
  exact ((Placeholder.order_perm ps).map _).nodup_iff.2 hd

namespace Python

variable {s : Text} {ps : List Placeholder}

/-- The replacement fields of a template are those of the declared placeholders. -/
theorem exists_of_mem_items {f : Field}
    (hf : f ∈ Run.items ((Template.segments s (Placeholder.ofText s)).map (Run.map Field.of))) :
    ∃ p ∈ Placeholder.ofText s, Field.of p = f := by
  rw [show Run.map Field.of = Run.bimap id Field.of from rfl, Run.items_map] at hf
  obtain ⟨p, hp, rfl⟩ := List.mem_map.1 hf
  exact ⟨p, Template.item_mem_segments_iff.1 (Run.mem_items.1 hp), rfl⟩

/-- **A name that is declared once is asked for in one way.** -/
theorem eq_of_name_eq (hd : ((Placeholder.ofText s).map (·.name)).Nodup) {f g : Field}
    (hf : f ∈ Run.items ((Template.segments s (Placeholder.ofText s)).map (Run.map Field.of)))
    (hg : g ∈ Run.items ((Template.segments s (Placeholder.ofText s)).map (Run.map Field.of)))
    (h : f.name = g.name) : f = g := by
  obtain ⟨p, hp, rfl⟩ := exists_of_mem_items hf
  obtain ⟨q, hq, rfl⟩ := exists_of_mem_items hg
  rw [Field.name_of, Field.name_of] at h
  rw [List.inj_on_of_nodup_map hd hp hq h]

/-- **What the type requires is all that a call needs**, where each name is declared once. -/
theorem call_eq_ok_of_required (hd : ((Placeholder.ofText s).map (·.name)).Nodup)
    {signature : Text} {values : Text → Option Text}
    (hv : ∀ n, requires (Target.python.fields (Placeholder.ofText s)) n = true →
      (values n).isSome) :
    ∃ t, call ⟨signature, (Template.segments s (Placeholder.ofText s)).map (Run.map Field.of)⟩
      values = .ok t := by
  refine call_eq_ok_iff.2 fun p hp ho => hv p.name ?_
  refine requires_iff.2 ⟨⟨p, hp, rfl⟩, fun q hq hn => ?_⟩
  rw [List.inj_on_of_nodup_map hd hq hp hn, ho]

end Python

namespace Placeholder

/-- **The warnings list all that is wrong, and their silence can be trusted.**  For the placeholders
of a text they are one for each that has an unknown type, in order, and then one for each name that
two or more of them have, in the order in which the names first occur, with all its spellings.  If
none of them is about a name in several forms, no name has two fields in the type of the parameters,
the module for Python asks for each name in one way, and it can be called with any mapping that has
the required fields. -/
theorem silence_means_unambiguous (s : Text) :
    (∃ ns, (∀ ms, Repeated (ofText s) ms ↔ ms = ns) ∧
      warnings (ofText s) =
        (((ofText s).filter declaresUnknown).map fun p =>
          unknownTypeWarning p (p.typeName.getD [])) ++
        ns.map fun n => severalFormsWarning n (rawsOf n (ofText s))) ∧
    (¬ ReportsConflict (warnings (ofText s)) →
      (∀ t : Target, t.readFields? (t.signature (ofText s)) = some (t.fields (ofText s)) ∧
        ((t.fields (ofText s)).map Parameter.name).Nodup) ∧
      (ofText s ≠ [] → ∃ m,
        Python.frame.read? (Artifact.ofText .python s (ofText s)).code = some m ∧
        Python.dictionary? m.signature = some (Target.python.fields (ofText s)) ∧
        (∀ f ∈ Run.items m.template, ∀ g ∈ Run.items m.template, f.name = g.name → f = g) ∧
        ∀ values, (∀ n, Python.requires (Target.python.fields (ofText s)) n = true →
          (values n).isSome) → ∃ t, Python.call m values = .ok t)) := by
  have hps := fun p (hp : p ∈ ofText s) => isName_of_mem_ofText hp
  refine ⟨⟨repeatedNames (ofText s), fun ms => repeated_iff, warnings_eq _⟩, fun hsilent => ?_⟩
  have hd : ((ofText s).map (·.name)).Nodup := by
    by_contra hn
    exact hsilent (reportsConflict_warnings_iff.2 hn)
  refine ⟨fun t => ⟨t.readFields?_signature hps, t.nodup_names_fields hd⟩, fun hne => ?_⟩
  refine ⟨_, Python.read?_code hne hps, Target.python.readFields?_signature hps, ?_, ?_⟩
  · intro f hf g hg h
    exact Python.eq_of_name_eq hd hf hg h
  · intro values hv
    exact Python.call_eq_ok_of_required hd hv

/-- An unknown type is reported, but no conflict; then a call may leave out what is optional. -/
theorem silence_means_unambiguous_unknown_type :
    warnings (ofText "\x7ba:date\x7d and \x7bb?\x7d, \x7ba:date\x7d") =
        ["Unknown type 'date' in \x7ba:date\x7d; treated as string".toList] ∧
      ¬ ReportsConflict (warnings (ofText "\x7ba:date\x7d and \x7bb?\x7d, \x7ba:date\x7d")) ∧
      ∃ m, Python.frame.read? (Artifact.ofText .python "\x7ba:date\x7d and \x7bb?\x7d, \x7ba:date\x7d"
          (ofText "\x7ba:date\x7d and \x7bb?\x7d, \x7ba:date\x7d")).code = some m ∧
        ∃ t, Python.call m (fun n => if n = "b".toList then none else some n) = .ok t := by
  have hsilent : ¬ ReportsConflict
      (warnings (ofText "\x7ba:date\x7d and \x7bb?\x7d, \x7ba:date\x7d")) := by
    rw [reportsConflict_warnings_iff]
    decide
  obtain ⟨-, hmeans⟩ := silence_means_unambiguous "\x7ba:date\x7d and \x7bb?\x7d, \x7ba:date\x7d"
  obtain ⟨-, hmodule⟩ := hmeans hsilent
  obtain ⟨m, hm, -, -, hcall⟩ := hmodule (by decide)
  refine ⟨by decide, hsilent, m, hm, hcall _ fun n hn => ?_⟩
  split_ifs with hb
  · rw [hb] at hn
    exact absurd hn (by decide)
  · rfl

end Placeholder

end PromptPress

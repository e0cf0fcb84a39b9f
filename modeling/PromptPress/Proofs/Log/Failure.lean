import Mathlib.Data.List.Basic
import PromptPress.Log.Failure

/-!
# When a failure is reported

A guard reports a failure once, with what a log records of the error and with the caller's fields,
and then raises the error again or gives the value that stands in for a result.  The fields are
handed on by name, so this holds exactly of fields whose names are free: no field of the error has
one of them, and no argument on the way (`failures_reported_iff`).  Where a name is not free, nothing
is reported and another failure is raised in place of the error.
-/

namespace PromptPress.Log

/-- No field has one of the names. -/
def Free (names : List Text) (fields : List (Text × Json)) : Prop := ∀ f ∈ fields, f.1 ∉ names

instance (names : List Text) (fields : List (Text × Json)) : Decidable (Free names fields) :=
  inferInstanceAs (Decidable (∀ f ∈ fields, f.1 ∉ names))

variable {names more : List Text} {own extra fields : List (Text × Json)} {e : Error}

theorem free_append : Free (names ++ more) fields ↔ Free names fields ∧ Free more fields := by
  simp only [Free, List.mem_append, not_or, forall_and]

theorem Free.mono (h : Free names fields) (hmore : more ⊆ names) : Free more fields :=
  fun f hf hm => h f hf (hmore hm)

/-! ### Handing on fields -/

theorem find?_contains_eq_none_iff :
    (fields.map (·.1)).find? names.contains = none ↔ Free names fields := by
  rw [List.find?_eq_none]
  simp only [List.forall_mem_map, List.contains_iff_mem, Free]

theorem Receiver.clash?_eq_none_iff {r : Receiver} :
    r.clash? fields = none ↔ Free r.arguments fields := by
  rw [clash?, Option.map_eq_none_iff, find?_contains_eq_none_iff]

theorem repeated?_eq_none_iff {function : Text} :
    repeated? function names fields = none ↔ Free names fields := by
  rw [repeated?, Option.map_eq_none_iff, find?_contains_eq_none_iff]

/-- The names of the arguments that are passed before a report is made. -/
def passedNames (stands : Bool) : List Text :=
  if stands then standingIn.arguments else recording.arguments

/-- The names of the parts of a report. -/
def reportNames : List Text := ["self", "event", "method_name"]

/-- The names of the fields that errors have. -/
def errorNames : List Text :=
  ["error", "error_type", "message", "source_name", "pass_name", "index"]

theorem names_fields_subset (e : Error) : e.fields.map (·.1) ⊆ errorNames := by
  cases e <;> simp [Error.fields, Error.isOwn, Error.details, Error.complaint?, errorNames]

/-- No field of an error has the name of a part of a report. -/
theorem free_reportNames_fields (e : Error) : Free reportNames e.fields := by
  have hnone : ∀ k ∈ errorNames, k ∉ reportNames := by decide
  exact fun f hf => hnone f.1 (names_fields_subset e (List.mem_map_of_mem hf))

/-- **Fields get into a report if their names are free.** -/
theorem clash?_eq_none_iff {stands : Bool} (hown : Free reportNames own) :
    clash? stands own extra = none ↔
      Free (own.map (·.1)) extra ∧ Free (passedNames stands) extra ∧ Free reportNames extra := by
  have hway : (if stands then [standingIn, recording] else [recording]).findSome?
      (·.clash? extra) = none ↔ Free (passedNames stands) extra := by
    cases stands with
    | false => simp [Receiver.clash?_eq_none_iff, passedNames]
    | true =>
      have hsub : recording.arguments ⊆ standingIn.arguments := by decide
      simp only [if_true, List.findSome?_eq_none_iff, List.forall_mem_cons,
        Receiver.clash?_eq_none_iff, passedNames]
      exact ⟨fun h => h.1, fun h => ⟨h, h.mono hsub, by simp⟩⟩
  have hparts : [wording, levelling].findSome? (·.clash? (own ++ extra)) = none ↔
      Free reportNames extra := by
    have hsub : reportNames ⊆ wording.arguments ++ levelling.arguments := by decide
    have hsup : wording.arguments ++ levelling.arguments ⊆ reportNames := by decide
    have hboth : Free (wording.arguments ++ levelling.arguments) (own ++ extra) ↔
        Free reportNames extra := by
      constructor
      · exact fun h f hf => h.mono hsub f (List.mem_append_right own hf)
      · intro h f hf hm
        rcases List.mem_append.1 hf with hf | hf
        · exact hown f hf (hsup hm)
        · exact h f hf (hsup hm)
    rw [← hboth, free_append]
    simp [Receiver.clash?_eq_none_iff]
  rw [clash?]
  simp only [Option.or_eq_none_iff, hway, hparts, repeated?_eq_none_iff]
  tauto

/-- Where fields do not get into a report, the failure that is raised is one of types. -/
theorem exists_eq_of_clash? {stands : Bool} (h : clash? stands own extra = some e) :
    ∃ m, e = .fault .type m := by
  have hreceiver {r : Receiver} {fs : List (Text × Json)} (h : r.clash? fs = some e) :
      ∃ m, e = .fault .type m := by
    obtain ⟨k, -, rfl⟩ := Option.map_eq_some_iff.1 h
    exact ⟨_, rfl⟩
  unfold clash? at h
  rcases Option.or_eq_some_iff.1 h with h | ⟨-, h⟩
  · obtain ⟨r, -, hr⟩ := List.exists_of_findSome?_eq_some h
    exact hreceiver hr
  · rcases Option.or_eq_some_iff.1 h with h | ⟨-, h⟩
    · obtain ⟨k, -, rfl⟩ := Option.map_eq_some_iff.1 h
      exact ⟨_, rfl⟩
    · obtain ⟨r, -, hr⟩ := List.exists_of_findSome?_eq_some h
      exact hreceiver hr

/-! ### Operations that fail -/

variable {α : Type} {operation : Text} {default : Option α}

theorem guarded_of_clash?_eq_none (h : clash? default.isSome e.fields extra = none) :
    guarded operation default extra (.error e) =
      ([failureEvent operation e extra], default.elim (.error e) .ok) := by
  unfold guarded
  dsimp only
  rw [h]
  cases default <;> rfl

theorem guarded_of_clash?_eq_some {clash : Error}
    (h : clash? default.isSome e.fields extra = some clash) :
    guarded operation default extra (.error e) = ([], .error clash) := by
  unfold guarded
  dsimp only
  rw [h]

/-- The failure is reported with these fields if they are the ones that are handed on. -/
theorem events_guarded_eq_iff :
    (guarded operation default extra (.error e)).1 = [failureEvent operation e fields] ↔
      clash? default.isSome e.fields extra = none ∧ extra = fields := by
  cases hclash : clash? default.isSome e.fields extra with
  | some clash =>
    rw [guarded_of_clash?_eq_some hclash]
    simp
  | none =>
    rw [guarded_of_clash?_eq_none hclash]
    simp [failureEvent]

/-! ### Guards -/

namespace Guard

variable {g : Guard α}

theorem handedOn_eq_ok_iff {r : Receiver} {argument : Text} {fs : List (Text × Json)} :
    handedOn r argument fields = .ok fs ↔ Free (r.arguments ++ [argument]) fields ∧ fields = fs := by
  have hfree : Free (r.arguments ++ [argument]) fields ↔ (r.clash? fields).or
      (repeated? ("mdprompt.utils.error_handler." ++ telling.name) [argument] fields) = none := by
    rw [free_append, Option.or_eq_none_iff, Receiver.clash?_eq_none_iff, repeated?_eq_none_iff]
  rw [hfree, handedOn]
  cases (r.clash? fields).or
      (repeated? ("mdprompt.utils.error_handler." ++ telling.name) [argument] fields) with
  | none => simp
  | some e => simp

theorem without_eq_self_iff {argument : Text} :
    without argument fields = fields ↔ Free [argument] fields := by
  rw [without, List.filter_eq_self]
  simp [Free]

/-- Only fields of one name are left out. -/
theorem free_without {argument : Text} (h : argument ∉ names)
    (hfree : Free names (without argument fields)) : Free names fields := by
  intro f hf hm
  have hne : f.1 ≠ argument := by
    rintro rfl
    exact h hm
  exact hfree f (List.mem_filter.2 ⟨hf, by simpa using hne⟩) hm

/-- The names that take a failure away, besides those of the error's own fields. -/
def lostNames : List Text := "exception" :: reportNames

/-- How a guard meets failures.  What succeeds is left alone.  An error is reported once, with its
own fields and the caller's, and what is expected is given, if and only if the names of the caller's
fields are free.  If one is the name of a field of the error, or one of `lostNames`, nothing is
reported and another failure is raised. -/
structure Meets (g : Guard α) (operation : Text) (fields : List (Text × Json))
    (expected : Error → Except Error α) (names : List Text) : Prop where
  silent : ∀ a, g.run (.ok a) = ([], .ok a)
  reported : ∀ e, g.run (.error e) =
      ([⟨failureComponent, .error, "Failed to " ++ operation, e.fields ++ fields⟩], expected e) ↔
    Free (e.fields.map (·.1) ++ (lostNames ++ names)) fields
  replaced : ∀ e, ¬ Free (e.fields.map (·.1) ++ lostNames) fields →
    ∃ m, g.run (.error e) = ([], .error (.fault .type m))

variable {argument : Text} {accepted : List Text} {d : Option α}

theorem run_of_not_free (hextra : g.extra = without argument fields)
    (hargument : argument ∉ errorNames ++ lostNames)
    (h : ¬ Free (e.fields.map (·.1) ++ lostNames) fields) :
    ∃ m, g.run (.error e) = ([], .error (.fault .type m)) := by
  have hclash : clash? g.default.isSome e.fields g.extra ≠ none := by
    intro hnone
    obtain ⟨hown, hpassed, hreport⟩ := (clash?_eq_none_iff (free_reportNames_fields e)).1 hnone
    have hexception : Free ["exception"] g.extra :=
      hpassed.mono (by cases g.default.isSome <;> decide)
    have hlost : Free (e.fields.map (·.1) ++ ([("exception" : Text)] ++ reportNames)) g.extra :=
      free_append.2 ⟨hown, free_append.2 ⟨hexception, hreport⟩⟩
    have hnot : argument ∉ e.fields.map (·.1) ++ lostNames := fun hm => hargument <|
      (List.mem_append.1 hm).elim (fun hm => List.mem_append_left _ (names_fields_subset e hm))
        (List.mem_append_right _)
    exact h (free_without hnot (hextra ▸ hlost))
  obtain ⟨clash, hsome⟩ := Option.ne_none_iff_exists'.1 hclash
  obtain ⟨m, rfl⟩ := exists_eq_of_clash? hsome
  exact ⟨m, guarded_of_clash?_eq_some hsome⟩

/-- A failure is reported with the caller's fields where no field is left out and all are handed on:
where none has a name that is lost, or that the guard itself has as an argument. -/
theorem handedOn_iff_free (hextra : g.extra = without argument fields)
    (hdefault : Free [argument] fields → g.default = d) (haccepted : Free accepted fields)
    (hway : passedNames d.isSome ⊆ accepted ++ (lostNames ++ names))
    (hnames : names ⊆ argument :: passedNames d.isSome) (hmem : argument ∈ names) :
    (clash? g.default.isSome e.fields g.extra = none ∧ g.extra = fields) ↔
      Free (e.fields.map (·.1) ++ (lostNames ++ names)) fields := by
  rw [clash?_eq_none_iff (free_reportNames_fields e)]
  constructor
  · rintro ⟨⟨hown, hpassed, hreport⟩, hfields⟩
    have hargument : Free [argument] fields := without_eq_self_iff.1 (hextra ▸ hfields)
    rw [hfields] at hown hpassed hreport
    rw [hdefault hargument] at hpassed
    have hexception : Free ["exception"] fields := hpassed.mono (by cases d.isSome <;> decide)
    have hnamesFree : Free names fields :=
      Free.mono ((@free_append [argument] _ _).2 ⟨hargument, hpassed⟩) hnames
    exact free_append.2 ⟨hown, free_append.2
      ⟨(@free_append ["exception"] reportNames _).2 ⟨hexception, hreport⟩, hnamesFree⟩⟩
  · intro hfree
    obtain ⟨hown, hrest⟩ := free_append.1 hfree
    obtain ⟨hlost, hnamesFree⟩ := free_append.1 hrest
    have hargument : Free [argument] fields :=
      hnamesFree.mono fun k hk => List.mem_singleton.1 hk ▸ hmem
    have hfields : g.extra = fields := hextra.trans (without_eq_self_iff.2 hargument)
    have hpassed : Free (passedNames d.isSome) fields :=
      Free.mono (free_append.2 ⟨haccepted, hrest⟩) hway
    rw [hfields, hdefault hargument]
    exact ⟨⟨hown, hpassed, hlost.mono (List.subset_cons_self ..)⟩, rfl⟩

/-- **A guard that leaves out the fields of one name, and without such a field does what is expected,
meets failures** as long as no field has that name, nor that of an argument on the way. -/
theorem meets_of_without (hoperation : g.operation = operation)
    (hextra : g.extra = without argument fields)
    (hdefault : Free [argument] fields → g.default = d) (haccepted : Free accepted fields)
    (hargument : argument ∉ errorNames ++ lostNames)
    (hway : passedNames d.isSome ⊆ accepted ++ (lostNames ++ names))
    (hnames : names ⊆ argument :: passedNames d.isSome) (hmem : argument ∈ names) :
    g.Meets operation fields (fun e => d.elim (.error e) .ok) names where
  silent _ := rfl
  reported e := by
    have hiff := handedOn_iff_free hextra hdefault haccepted hway hnames hmem (e := e)
    subst hoperation
    constructor
    · intro hrun
      exact hiff.1 (events_guarded_eq_iff.1 (congrArg Prod.fst hrun))
    · intro hfree
      obtain ⟨hclash, hfields⟩ := hiff.2 hfree
      have hnone : Free [argument] fields := without_eq_self_iff.1 (hextra ▸ hfields)
      rw [run, guarded_of_clash?_eq_none hclash, hfields, hdefault hnone]
      rfl
  replaced _ h := run_of_not_free hextra hargument h

theorem standIn_eq_ok_iff {default : α} :
    standIn operation default fields = .ok g ↔
      Free ["operation_name", "default_value", "default_return"] fields ∧
        g = ⟨operation, if fields.any fun f => f.1 == ("reraise" : Text) && f.2.isTrue then none
          else some default, without "reraise" fields⟩ := by
  have hfree : Free ["operation_name", "default_value", "default_return"] fields ↔
      handedOn ⟨"safe_with_default()", ["operation_name", "default_value"]⟩ "default_return" fields =
        .ok fields := by
    rw [handedOn_eq_ok_iff, and_iff_left rfl]
    rfl
  rw [hfree, standIn]
  rcases hhanded : handedOn ⟨"safe_with_default()", ["operation_name", "default_value"]⟩
    "default_return" fields with e | fs
  · exact ⟨nofun, fun h => nomatch h.1⟩
  · obtain ⟨-, rfl⟩ := handedOn_eq_ok_iff.1 hhanded
    simp only [true_and, Except.ok.injEq]
    exact eq_comm

theorem raiseAgain_eq_ok_iff :
    raiseAgain operation fields = .ok g ↔
      Free ["operation_name", "reraise"] fields ∧
        g = ⟨operation, none, without "default_return" fields⟩ := by
  have hfree : Free ["operation_name", "reraise"] fields ↔
      handedOn ⟨"critical_operation()", ["operation_name"]⟩ "reraise" fields = .ok fields := by
    rw [handedOn_eq_ok_iff, and_iff_left rfl]
    rfl
  rw [hfree, raiseAgain]
  rcases hhanded : handedOn ⟨"critical_operation()", ["operation_name"]⟩ "reraise" fields with e | fs
  · exact ⟨nofun, fun h => nomatch h.1⟩
  · obtain ⟨-, rfl⟩ := handedOn_eq_ok_iff.1 hhanded
    simp only [true_and, Except.ok.injEq]
    exact eq_comm

theorem any_eq_false_of_free {k : Text} (h : Free [k] fields) (q : Json → Bool) :
    (fields.any fun f => f.1 == k && q f.2) = false := by
  rw [List.any_eq_false]
  intro f hf
  have hne : f.1 ≠ k := fun heq => h f hf (List.mem_singleton.2 heq)
  simp [hne]

theorem meets_of_standIn {default : α} (h : standIn operation default fields = .ok g) :
    g.Meets operation fields (fun _ => .ok default) ["cls", "reraise"] := by
  obtain ⟨haccepted, rfl⟩ := standIn_eq_ok_iff.1 h
  have hway : passedNames true ⊆
      (["operation_name", "default_value", "default_return"] : List Text) ++
        (lostNames ++ (["cls", "reraise"] : List Text)) := by
    decide
  have hnames : (["cls", "reraise"] : List Text) ⊆ ("reraise" : Text) :: passedNames true := by
    decide
  refine meets_of_without (d := some default) rfl rfl (fun hfree => ?_) haccepted (by decide) hway
    hnames (by decide)
  dsimp only
  rw [any_eq_false_of_free hfree]
  rfl

theorem meets_of_raiseAgain (h : raiseAgain operation fields = .ok g) :
    g.Meets operation fields .error ["default_return"] := by
  obtain ⟨haccepted, rfl⟩ := raiseAgain_eq_ok_iff.1 h
  have hway : passedNames false ⊆
      (["operation_name", "reraise"] : List Text) ++
        (lostNames ++ (["default_return"] : List Text)) := by
    decide
  exact meets_of_without (d := none) rfl rfl (fun _ => rfl) haccepted (by decide) hway (by simp)
    (by decide)

/-- **When the failures of an operation are reported.**  For every wording of the operation, value
that stands in for a result and fields of the caller's: each of the two guards can be set up if and
only if no field has the name of one of its arguments.  Then it leaves alone what succeeds, and every
error is reported once, with its own fields and the caller's, and is answered by the value, or raised
again as it is, if and only if the names of the caller's fields are free.  If a field has the name of
a field of the error, or one of `lostNames`, nothing is reported and a failure of types is raised. -/
theorem failures_reported_iff (operation : Text) (default : α) (fields : List (Text × Json)) :
    ((∃ g, standIn operation default fields = .ok g) ↔
        Free ["operation_name", "default_value", "default_return"] fields) ∧
      (∀ g, standIn operation default fields = .ok g →
        g.Meets operation fields (fun _ => .ok default) ["cls", "reraise"]) ∧
      ((∃ g : Guard α, raiseAgain operation fields = .ok g) ↔
        Free ["operation_name", "reraise"] fields) ∧
      ∀ g : Guard α, raiseAgain operation fields = .ok g →
        g.Meets operation fields .error ["default_return"] := by
  refine ⟨?_, fun _ => meets_of_standIn, ?_, fun _ => meets_of_raiseAgain⟩
  · simp only [standIn_eq_ok_iff, exists_and_left, exists_eq, and_true]
  · simp only [raiseAgain_eq_ok_iff, exists_and_left, exists_eq, and_true]

/-- Where the caller has a field `exception`, the guard is set up, but no error is reported: a failure
of types is raised in its place. -/
theorem failures_reported_iff_of_exception_field :
    ∃ g, standIn "read the draft" (0 : Nat) [("exception", .str "late")] = .ok g ∧
      (∀ a, g.run (.ok a) = ([], .ok a)) ∧
      ∀ e, ∃ m, g.run (.error e) = ([], .error (.fault .type m)) := by
  obtain ⟨hset, hmeets, -⟩ :=
    failures_reported_iff "read the draft" (0 : Nat) [("exception", .str "late")]
  obtain ⟨g, hg⟩ := hset.2 (by decide)
  refine ⟨g, hg, (hmeets g hg).silent, fun e => (hmeets g hg).replaced e fun hfree => ?_⟩
  exact hfree _ (List.mem_singleton_self _) (List.mem_append_right _ (by decide))

end Guard

end PromptPress.Log

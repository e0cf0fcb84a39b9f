import PromptPress.Proofs.Target.Python
import PromptPress.Proofs.Target.TypeScript

/-!
# What the two targets make of a text

The modules made from one text for the two targets are called with the same arguments.  Both put an
argument that is given in the place of its placeholder.  They differ where the text has a carriage
return, which a template literal reads as a line feed, and where an argument is left out, which is
nothing in a formatted string and `undefined` in a template literal.

No two such differences make up for each other: `returns_agree_iff` has the exact condition.  A
template literal has no carriage return of its own, so equal results leave none for the formatted
string; and then each argument left out makes the one result longer.
-/

namespace PromptPress

/-! ### Comparing piece by piece -/

section Measure

variable {α : Type} {μ : Text → Nat} {f g : α → Text} {l : List α}

/-- If no piece is larger than its counterpart, neither is the whole. -/
theorem measure_flatMap_le (hμ : ∀ a b, μ (a ++ b) = μ a + μ b) (h : ∀ a ∈ l, μ (f a) ≤ μ (g a)) :
    μ (l.flatMap f) ≤ μ (l.flatMap g) := by
  induction l with
  | nil => exact le_rfl
  | cons a l ih =>
    have ha := h a List.mem_cons_self
    have hl := ih fun b hb => h b (List.mem_cons_of_mem _ hb)
    rw [List.flatMap_cons, List.flatMap_cons, hμ, hμ]
    omega

/-- If moreover the whole is as large, so is each piece. -/
theorem measure_eq_of_flatMap_eq (hμ : ∀ a b, μ (a ++ b) = μ a + μ b)
    (h : ∀ a ∈ l, μ (f a) ≤ μ (g a)) (he : μ (l.flatMap f) = μ (l.flatMap g)) :
    ∀ a ∈ l, μ (f a) = μ (g a) := by
  induction l with
  | nil => intro a ha; simp at ha
  | cons b l ih =>
    have hb := h b List.mem_cons_self
    have hl : ∀ a ∈ l, μ (f a) ≤ μ (g a) := fun a ha => h a (List.mem_cons_of_mem _ ha)
    have hle := measure_flatMap_le hμ hl
    rw [List.flatMap_cons, List.flatMap_cons, hμ, hμ] at he
    intro a ha
    rcases List.mem_cons.1 ha with rfl | ha
    · omega
    · exact ih hl (by omega) a ha

end Measure

/-! ### Line ends -/

namespace TypeScript

theorem return_notMem_lineFeeds (t : Text) : '\r' ∉ lineFeeds t := by
  induction t using lineFeeds.induct with
  | case1 => exact List.not_mem_nil
  | case2 s ih =>
    rw [lineFeeds]
    simpa using ih
  | case3 s hs ih =>
    rw [lineFeeds_return hs]
    simpa using ih
  | case4 c s _ hc ih =>
    rw [lineFeeds_cons hc]
    rintro (_ | ⟨_, hm⟩)
    · exact hc rfl
    · exact ih hm

theorem lineFeeds_eq_self {t : Text} (h : '\r' ∉ t) : lineFeeds t = t := by
  induction t using lineFeeds.induct with
  | case1 => rfl
  | case2 s ih => exact absurd List.mem_cons_self h
  | case3 s hs ih => exact absurd List.mem_cons_self h
  | case4 c s _ hc ih =>
    rw [lineFeeds_cons hc, ih fun hm => h (List.mem_cons_of_mem _ hm)]

end TypeScript

/-! ### The exact condition -/

section Results

variable (args : Text → Option Text)

/-- What the function of a template literal returns for a segment. -/
def TypeScript.result (g : Template.Segment) : Text :=
  g.spell lineFeeds fun p => (args p.name).getD "undefined"

/-- What the function of a formatted string returns for a segment. -/
def Python.result (g : Template.Segment) : Text := g.spell id fun p => (args p.name).getD []

variable {args} {gs : List Template.Segment}

/-- Equal results leave no carriage return in literal text, since a template literal has none. -/
theorem return_notMem_of_results_eq
    (h : gs.flatMap (TypeScript.result args) = gs.flatMap (Python.result args)) {t : Text}
    (ht : .literal t ∈ gs) : '\r' ∉ t := by
  have hzero : ∀ t, (TypeScript.lineFeeds t).count '\r' = 0 := fun t =>
    List.count_eq_zero_of_not_mem (TypeScript.return_notMem_lineFeeds t)
  have hle : ∀ g ∈ gs,
      (TypeScript.result args g).count '\r' ≤ (Python.result args g).count '\r' := by
    intro g _
    unfold TypeScript.result Python.result
    cases g with
    | literal t =>
      rw [Run.spell, hzero]
      exact Nat.zero_le _
    | item p =>
      rw [Run.spell, Run.spell]
      cases args p.name with
      | none => decide
      | some v => exact le_rfl
  have hg := measure_eq_of_flatMap_eq (fun _ _ => List.count_append) hle
    (congrArg (List.count '\r') h) _ ht
  rw [TypeScript.result, Run.spell, hzero] at hg
  exact List.count_eq_zero.1 hg.symm

/-- Equal results leave no argument out, since what is missing is longer in a template literal. -/
theorem isSome_of_results_eq
    (h : gs.flatMap (TypeScript.result args) = gs.flatMap (Python.result args)) {p : Placeholder}
    (hp : .item p ∈ gs) : (args p.name).isSome := by
  have hle : ∀ g ∈ gs, (Python.result args g).length ≤ (TypeScript.result args g).length := by
    intro g hg
    unfold TypeScript.result Python.result
    cases g with
    | literal t =>
      rw [Run.spell, Run.spell, TypeScript.lineFeeds_eq_self (return_notMem_of_results_eq h hg)]
      exact le_rfl
    | item p =>
      rw [Run.spell, Run.spell]
      cases args p.name with
      | none => exact Nat.zero_le _
      | some v => exact le_rfl
  have hg := measure_eq_of_flatMap_eq (fun _ _ => List.length_append) hle
    (congrArg List.length h.symm) _ hp
  rw [TypeScript.result, Python.result, Run.spell, Run.spell] at hg
  cases hv : args p.name with
  | none =>
    rw [hv] at hg
    exact absurd hg (by decide)
  | some v => rfl

theorem results_eq_iff : gs.flatMap (TypeScript.result args) = gs.flatMap (Python.result args) ↔
    (∀ t, .literal t ∈ gs → '\r' ∉ t) ∧ ∀ p, .item p ∈ gs → (args p.name).isSome := by
  constructor
  · intro h
    exact ⟨fun t => return_notMem_of_results_eq h, fun p => isSome_of_results_eq h⟩
  · rintro ⟨hret, hargs⟩
    refine List.flatMap_congr fun g hg => ?_
    cases g with
    | literal t => exact TypeScript.lineFeeds_eq_self (hret t hg)
    | item p =>
      obtain ⟨v, hv⟩ := Option.isSome_iff_exists.1 (hargs p hg)
      rw [TypeScript.result, Python.result, Run.spell, Run.spell, hv]
      rfl

end Results

/-! ### From segments to texts -/

namespace Template

/-- The slots of a text have no carriage return, so one in the text is one in literal text. -/
theorem return_mem_iff {s : Text} : '\r' ∈ s ↔
    ∃ t, .literal t ∈ segments s (Placeholder.ofText s) ∧ '\r' ∈ t := by
  have hs := flatMap_spell_segments s (Placeholder.ofText s)
  constructor
  · intro h
    rw [← hs] at h
    obtain ⟨g, hg, hc⟩ := List.mem_flatMap.1 h
    cases g with
    | literal t => exact ⟨t, hg, hc⟩
    | item p =>
      obtain ⟨w, hw, rfl⟩ := Placeholder.mem_ofText (mem_of_item_mem_segments hg)
      rcases (Slot.wellFormed_of_mem_all hw).mem_written hc with hn | hn
      · exact absurd hn (by decide)
      · exact absurd hn (by decide)
  · rintro ⟨t, ht, hc⟩
    rw [← hs]
    exact List.mem_flatMap.2 ⟨_, ht, hc⟩

end Template

/-- **The two modules of a text agree if and only if** the text has no carriage return and no
argument is left out.  Both are read back, and neither stops if the required arguments are given. -/
theorem returns_agree_iff (s : Text) (args : Text → Option Text) (hne : Placeholder.ofText s ≠ [])
    (hargs : ∀ p ∈ Placeholder.ofText s, p.optional = false → (args p.name).isSome) :
    ∃ m n u, TypeScript.frame.read?
        (Artifact.ofText .typescript s (Placeholder.ofText s)).code = some m ∧
      Python.frame.read? (Artifact.ofText .python s (Placeholder.ofText s)).code = some n ∧
      Python.call n args = .ok u ∧
      (TypeScript.call m args = u ↔
        '\r' ∉ s ∧ ∀ p ∈ Placeholder.ofText s, (args p.name).isSome) := by
  have hps : ∀ p ∈ Placeholder.ofText s, Slot.IsName p.name := by
    intro p hp
    obtain ⟨w, hw, rfl⟩ := Placeholder.mem_ofText hp
    exact (Slot.wellFormed_of_mem_all hw).name
  have hcall : ∀ p ∈ Run.items (Template.segments s (Placeholder.ofText s)),
      p.optional = false → (args p.name).isSome := fun p hp =>
    hargs p (Template.mem_of_item_mem_segments (Run.mem_items.1 hp))
  refine ⟨_, _, _, TypeScript.read?_code hne hps, Python.read?_code hne hps,
    Python.call_of hcall, ?_⟩
  rw [TypeScript.call_of]
  refine results_eq_iff.trans (and_congr ?_ ?_)
  · rw [Template.return_mem_iff]
    push Not
    exact Iff.rfl
  · simp only [Template.item_mem_segments_iff]

/-- An optional argument that is left out is nothing in one result and a word in the other. -/
theorem returns_differ_where_left_out :
    ∃ m n u, TypeScript.frame.read? (Artifact.ofText .typescript "\x7bx?\x7d"
        (Placeholder.ofText "\x7bx?\x7d")).code = some m ∧
      Python.frame.read? (Artifact.ofText .python "\x7bx?\x7d"
        (Placeholder.ofText "\x7bx?\x7d")).code = some n ∧
      Python.call n (fun _ => none) = .ok u ∧ TypeScript.call m (fun _ => none) ≠ u := by
  have hp : Placeholder.ofText "\x7bx?\x7d" =
      [{ name := "x", optional := true, raw := "\x7bx?\x7d" }] := by decide
  obtain ⟨m, n, u, hm, hn, hu, hiff⟩ := returns_agree_iff "\x7bx?\x7d" (fun _ => none)
    (by rw [hp]; decide) (by rw [hp]; decide)
  refine ⟨m, n, u, hm, hn, hu, fun he => ?_⟩
  have hx := (hiff.1 he).2 _ (by rw [hp]; exact List.mem_singleton_self _)
  simp at hx

end PromptPress

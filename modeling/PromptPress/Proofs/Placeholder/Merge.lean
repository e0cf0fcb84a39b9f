import PromptPress.Proofs.Placeholder.Extraction
import PromptPress.Proofs.Slot.Joining

/-!
# Extraction from texts that are put together

`merge` puts the placeholders of one text behind those of another, without those whose keys are
there already.  What is extracted from a list of declarations in two parts is the merge of what is
extracted from the parts (`firstsFrom_nil_append`).

So where texts are joined with blanks between them, the placeholders of the whole are merged from
those of the texts, and where a text goes on its own placeholders come first (`ofText_composes`).
-/

namespace PromptPress.Placeholder

variable {seen : List Text} {ps qs : List Placeholder}

/-- The placeholders of a list, and behind them those of another one whose keys are new. -/
def merge (ps qs : List Placeholder) : List Placeholder :=
  ps ++ qs.filter fun q => !(ps.map key).contains q.key

/-! ### The first of each key in two lists -/

/-- Keys that were seen can be left out at the end as well. -/
theorem firstsFrom_eq_filter (seen : List Text) (ps : List Placeholder) :
    firstsFrom seen ps = (firstsFrom [] ps).filter fun p => !seen.contains p.key := by
  induction ps generalizing seen with
  | nil => rfl
  | cons p ps ih =>
    have hfirst : firstsFrom [] (p :: ps) =
        p :: (firstsFrom [] ps).filter fun q => !([p.key].contains q.key) := by
      rw [firstsFrom, if_neg (by simp), ih [p.key]]
    rw [hfirst, firstsFrom]
    by_cases hp : p.key ∈ seen
    · rw [if_pos (by simpa using hp), List.filter_cons_of_neg (by simpa using hp),
        List.filter_filter, ih seen]
      refine List.filter_congr fun q _ => ?_
      have hne : q.key ∉ seen → q.key ≠ p.key := fun hq he => hq (he ▸ hp)
      simpa using hne
    · rw [if_neg (by simpa using hp), List.filter_cons_of_pos (by simpa using hp),
        List.filter_filter, ih (p.key :: seen)]
      refine congrArg (p :: ·) (List.filter_congr fun q _ => ?_)
      simp [Bool.and_comm]

theorem firstsFrom_congr {seen' : List Text} (h : ∀ k, k ∈ seen ↔ k ∈ seen')
    (ps : List Placeholder) : firstsFrom seen ps = firstsFrom seen' ps := by
  rw [firstsFrom_eq_filter seen, firstsFrom_eq_filter seen']
  refine List.filter_congr fun p _ => ?_
  simp only [List.contains_eq_mem, h]

theorem firstsFrom_append (seen : List Text) (ps qs : List Placeholder) :
    firstsFrom seen (ps ++ qs) = firstsFrom seen ps ++ firstsFrom (ps.map key ++ seen) qs := by
  induction ps generalizing seen with
  | nil => rfl
  | cons p ps ih =>
    rw [List.cons_append, firstsFrom, firstsFrom]
    by_cases hp : seen.contains p.key = true
    · -- the key is among those that were seen, so it need not be added
      have hseen : ∀ k, k ∈ ps.map key ++ seen ↔ k ∈ (p :: ps).map key ++ seen := by
        intro k
        have hmem : k = p.key → k ∈ seen := fun he => he ▸ by simpa using hp
        simp only [List.map_cons, List.cons_append, List.mem_cons, List.mem_append]
        exact ⟨.inr, fun h => h.elim (fun he => .inr (hmem he)) id⟩
      rw [if_pos hp, if_pos hp, ih, firstsFrom_congr hseen]
    · have hseen : ∀ k, k ∈ ps.map key ++ p.key :: seen ↔ k ∈ (p :: ps).map key ++ seen := by
        intro k
        simp only [List.map_cons, List.cons_append, List.mem_cons, List.mem_append]
        exact or_left_comm
      rw [if_neg hp, if_neg hp, ih, firstsFrom_congr hseen, List.cons_append]

theorem mem_keys_firstsFrom {k : Text} : k ∈ (firstsFrom [] ps).map key ↔ k ∈ ps.map key := by
  constructor
  · intro h
    exact ((firstsFrom_sublist [] ps).map key).subset h
  · intro h
    obtain ⟨p, hp, rfl⟩ := List.mem_map.1 h
    exact (keepsFirsts_firstsFrom ps).covers p hp

/-- **What two lists declare is merged** from what each of them declares. -/
theorem firstsFrom_nil_append (ps qs : List Placeholder) :
    firstsFrom [] (ps ++ qs) = merge (firstsFrom [] ps) (firstsFrom [] qs) := by
  rw [firstsFrom_append, List.append_nil, firstsFrom_eq_filter (ps.map key), merge]
  simp only [List.contains_eq_mem, mem_keys_firstsFrom]

theorem foldl_merge (pss : List (List Placeholder)) (ps : List Placeholder) :
    (pss.map (firstsFrom [])).foldl merge (firstsFrom [] ps) =
      firstsFrom [] (ps ++ pss.flatten) := by
  induction pss generalizing ps with
  | nil => rw [List.flatten_nil, List.append_nil]; rfl
  | cons qs pss ih =>
    rw [List.map_cons, List.foldl_cons, ← firstsFrom_nil_append, ih, List.append_assoc,
      List.flatten_cons]

/-! ### Texts that are put together -/

theorem ofText_joinWith {sep : Text} (hne : sep ≠ []) (hsep : ∀ c ∈ sep, Text.isBlank c = true)
    (ts : List Text) : ofText (Text.joinWith sep ts) = (ts.map ofText).foldl merge [] := by
  have hocc : occurrences (Text.joinWith sep ts) = (ts.map occurrences).flatten := by
    rw [occurrences, Slot.all_joinWith hne hsep, List.map_flatMap]
    rfl
  calc ofText (Text.joinWith sep ts)
      = firstsFrom [] ([] ++ (ts.map occurrences).flatten) := by rw [ofText_eq, hocc]; rfl
    _ = ((ts.map occurrences).map (firstsFrom [])).foldl merge [] := (foldl_merge _ []).symm
    _ = (ts.map ofText).foldl merge [] := by rw [List.map_map]; rfl

theorem ofText_prefix_append (s t : Text) : ofText s <+: ofText (s ++ t) := by
  obtain ⟨ws, hws⟩ := Slot.all_prefix_append s t
  rw [ofText_eq, ofText_eq, occurrences, occurrences, ← hws, List.map_append, firstsFrom_append]
  exact List.prefix_append _ _

/-- **Extraction is compositional.**  Where texts are joined with blanks between them, the slots of
the whole are those of the texts, one text after another and each slot at its place in its own text,
so that none stands across a joint; and the placeholders of the whole are merged from those of the
texts.  Where a text is appended to another, the placeholders of the first one come first,
unchanged. -/
theorem ofText_composes {sep : Text} (hne : sep ≠ []) (hsep : ∀ c ∈ sep, Text.isBlank c = true)
    (ts : List Text) :
    Slot.all (Text.joinWith sep ts) = ts.flatMap Slot.all ∧
      Slot.readings (Text.joinWith sep ts) = Slot.readingsOfJoined sep 0 ts ∧
      ofText (Text.joinWith sep ts) = (ts.map ofText).foldl merge [] ∧
      ∀ s t, ofText s <+: ofText (s ++ t) :=
  ⟨Slot.all_joinWith hne hsep ts, Slot.readingsFrom_joinWith hne hsep ts 0,
    ofText_joinWith hne hsep ts, ofText_prefix_append⟩

/-- A slot that is left open at the end of one block is not closed by the next one. -/
theorem ofText_composes_open_slot :
    (("\n\n" : Text) ≠ [] ∧ ∀ c ∈ ("\n\n" : Text), Text.isBlank c = true) ∧
      ofText (Text.joinWith "\n\n" ["\x7ba\x7d \x7bb", "\x7d\x7bc?\x7d", "\x7ba\x7d\x7bc\x7d"]) =
        merge (merge (ofText "\x7ba\x7d \x7bb") (ofText "\x7d\x7bc?\x7d"))
          (ofText "\x7ba\x7d\x7bc\x7d") := by
  have hne : ("\n\n" : Text) ≠ [] := by decide
  have hsep : ∀ c ∈ ("\n\n" : Text), Text.isBlank c = true := List.all_eq_true.1 (by decide)
  refine ⟨⟨hne, hsep⟩, ?_⟩
  obtain ⟨-, -, hmerged, -⟩ :=
    ofText_composes hne hsep ["\x7ba\x7d \x7bb", "\x7d\x7bc?\x7d", "\x7ba\x7d\x7bc\x7d"]
  rw [hmerged]
  rfl

end PromptPress.Placeholder

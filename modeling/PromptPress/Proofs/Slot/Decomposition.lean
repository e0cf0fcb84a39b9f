import PromptPress.Proofs.Slot.Literal

/-!
# The decomposition of a text

The tokens of a text are literal text and slots, laid end to end.  `IsDecomposition` says what is
asked of such a list without looking at how a text is read: nothing is lost, every place is right,
literal texts are neither empty nor side by side, every slot is one that the grammar derives, and
none is left in literal text.

The tokens that are found are a decomposition of the text, and there is no other one
(`isDecomposition_iff_scan`).  For the runs of the text this is `group_atoms_eq_iff`: since a slot
begins with the only opening brace in it, literal text in front of a slot or of the end is read as
literal text again.  The pieces of a decomposition are such runs with their places
(`exists_ofRuns`).
-/

namespace PromptPress

namespace Slot

variable {s : Text} {rs : List (Run Slot)}

/-! ### The runs of a text -/

/-- Runs that may stand in a text: well-formed slots, and literal text without slots. -/
structure Grammatical (rs : List (Run Slot)) : Prop where
  slotless : ∀ t, .literal t ∈ rs → ¬ OccursIn t
  wellFormed : ∀ w, .item w ∈ rs → w.WellFormed

theorem Grammatical.tail {r : Run Slot} (h : Grammatical (r :: rs)) : Grammatical rs where
  slotless t ht := h.slotless t (List.mem_cons_of_mem r ht)
  wellFormed w hw := h.wellFormed w (List.mem_cons_of_mem r hw)

theorem grammatical_group (s : Text) : Grammatical (Run.group (atoms s)) where
  slotless _ ht := not_occursIn_of_literal_mem ht
  wellFormed w hw := by
    rw [← Run.mem_items, Run.items_group, ← all_eq] at hw
    exact wellFormed_of_mem_all hw

theorem follows_of_startsApart (h : Run.StartsApart rs) : Follows (rs.flatMap Token.runText) := by
  cases rs with
  | nil => exact .inl rfl
  | cons r rs =>
    cases r with
    | literal t => exact h.elim
    | item w => exact follows_written_append w _

/-- **Runs are read back** from the text that they are laid to. -/
theorem group_atoms_flatMap (hs : Run.Separated rs) (hg : Grammatical rs) :
    Run.group (atoms (rs.flatMap Token.runText)) = rs := by
  induction rs with
  | nil => rfl
  | cons r rs ih =>
    have hrs := ih hs.tail hg.tail
    rw [List.flatMap_cons]
    cases r with
    | item w =>
      have hw := hg.wellFormed w List.mem_cons_self
      rw [Token.runText, atoms_written_append hw, Run.group_cons, hrs]
      rfl
    | literal t =>
      have ht := hg.slotless t List.mem_cons_self
      have hapart : Run.StartsApart (Run.group (atoms (rs.flatMap Token.runText))) := by
        rw [hrs]
        exact hs.2.1
      rw [Token.runText, atoms_append ht (follows_of_startsApart hs.2.1),
        Run.group_map_char_append hs.1 hapart, hrs]

theorem group_atoms_eq_iff : Run.group (atoms s) = rs ↔
    Run.Separated rs ∧ Grammatical rs ∧ rs.flatMap Token.runText = s := by
  constructor
  · rintro rfl
    exact ⟨Run.separated_group _, grammatical_group s, flatMap_runText_group s⟩
  · rintro ⟨hs, hg, rfl⟩
    exact group_atoms_flatMap hs hg

theorem occursIn_iff {t : Text} : OccursIn t ↔ ∃ u, Derived u ∧ u <:+: t := by
  constructor
  · rintro ⟨w, hw, hi⟩
    exact ⟨w.written, derived_iff.2 ⟨w, hw, rfl⟩, hi⟩
  · rintro ⟨u, hu, hi⟩
    obtain ⟨w, hw, rfl⟩ := derived_iff.1 hu
    exact ⟨w, hw, hi⟩

end Slot

/-! ### Pieces -/

/-- A piece of a text: literal text with the place where it starts, or a slot with all that is read
there. -/
inductive Piece where
  | literal (text : Text) (start : Nat)
  | slot (reading : SlotReading)
  deriving DecidableEq

namespace Piece

/-- The characters of a piece. -/
def text : Piece → Text
  | literal t _ => t
  | slot r => r.raw

/-- The place where a piece starts. -/
def start : Piece → Int
  | literal _ i => i
  | slot r => r.start

/-- Is the piece literal text? -/
def isLiteral : Piece → Bool
  | literal _ _ => true
  | slot _ => false

/-- Does every piece start behind those before it, the first one at place `n`? -/
def LaidFrom (n : Nat) (ps : List Piece) : Prop :=
  ∀ (before : List Piece) (p : Piece) (after : List Piece), ps = before ++ p :: after →
    p.start = (n + (before.flatMap text).length : Nat)

theorem laidFrom_nil (n : Nat) : LaidFrom n [] := by
  intro before p after h
  simp at h

theorem laidFrom_cons {n : Nat} {p : Piece} {ps : List Piece} :
    LaidFrom n (p :: ps) ↔ p.start = n ∧ LaidFrom (n + p.text.length) ps := by
  constructor
  · intro h
    refine ⟨by simpa using h [] p ps rfl, fun before q after he => ?_⟩
    have hq := h (p :: before) q after (by rw [he, List.cons_append])
    rw [hq, List.flatMap_cons, List.length_append, Nat.add_assoc]
  · rintro ⟨hp, hps⟩ before q after he
    cases before with
    | nil =>
      obtain ⟨rfl, -⟩ := List.cons.inj he
      simpa using hp
    | cons b before =>
      obtain ⟨rfl, hrest⟩ := List.cons.inj he
      rw [hps before q after hrest, List.flatMap_cons, List.length_append, Nat.add_assoc]

end Piece

/-- The piece that a token is. -/
def Token.piece (k : Token) : Piece :=
  match k.reading? with
  | some r => .slot r
  | none => .literal k.text k.start

namespace Piece

variable {n : Nat} {rs : List (Run Slot)}

/-- The pieces that runs are, the first one at place `n`. -/
def ofRuns (n : Nat) (rs : List (Run Slot)) : List Piece := (Token.place n rs).map Token.piece

@[simp] theorem ofRuns_nil (n : Nat) : ofRuns n [] = [] := rfl

@[simp] theorem ofRuns_literal (n : Nat) (t : Text) (rs : List (Run Slot)) :
    ofRuns n (.literal t :: rs) = .literal t n :: ofRuns (n + t.length) rs := rfl

@[simp] theorem ofRuns_item (n : Nat) (w : Slot) (rs : List (Run Slot)) :
    ofRuns n (.item w :: rs) = .slot (w.readingAt n) :: ofRuns (n + w.written.length) rs := by
  simp [ofRuns, Token.place, Token.piece, Token.reading?, Slot.readingAt, Token.stop, Token.text,
    Token.runText]

theorem flatMap_text_ofRuns (n : Nat) (rs : List (Run Slot)) :
    (ofRuns n rs).flatMap text = rs.flatMap Token.runText := by
  induction rs generalizing n with
  | nil => rfl
  | cons r rs ih =>
    cases r with
    | literal t => rw [ofRuns_literal, List.flatMap_cons, List.flatMap_cons, ih]; rfl
    | item w => rw [ofRuns_item, List.flatMap_cons, List.flatMap_cons, ih]; rfl

theorem laidFrom_ofRuns (n : Nat) (rs : List (Run Slot)) : LaidFrom n (ofRuns n rs) := by
  induction rs generalizing n with
  | nil => exact laidFrom_nil n
  | cons r rs ih =>
    cases r with
    | literal t =>
      rw [ofRuns_literal]
      exact laidFrom_cons.2 ⟨rfl, ih _⟩
    | item w =>
      rw [ofRuns_item]
      exact laidFrom_cons.2 ⟨rfl, ih _⟩

theorem literal_mem_ofRuns {t : Text} : (∃ i, .literal t i ∈ ofRuns n rs) ↔ .literal t ∈ rs := by
  induction rs generalizing n with
  | nil => simp only [ofRuns_nil, List.not_mem_nil, exists_false]
  | cons r rs ih =>
    cases r with
    | literal u => simp [exists_or, ih]
    | item w => simp [ih]

theorem slot_mem_ofRuns {r : SlotReading} (h : .slot r ∈ ofRuns n rs) :
    ∃ w i, .item w ∈ rs ∧ w.readingAt i = r := by
  induction rs generalizing n with
  | nil =>
    rw [ofRuns_nil] at h
    cases h
  | cons x rs ih =>
    cases x with
    | literal u =>
      obtain ⟨w, i, hw, hr⟩ := ih (by simpa using h)
      exact ⟨w, i, List.mem_cons_of_mem _ hw, hr⟩
    | item v =>
      rw [ofRuns_item, List.mem_cons, slot.injEq] at h
      rcases h with rfl | h
      · exact ⟨v, n, List.mem_cons_self, rfl⟩
      · obtain ⟨w, i, hw, hr⟩ := ih h
        exact ⟨w, i, List.mem_cons_of_mem _ hw, hr⟩

theorem map_isLiteral_ofRuns (n : Nat) (rs : List (Run Slot)) :
    (ofRuns n rs).map isLiteral = rs.map Run.isLiteral := by
  induction rs generalizing n with
  | nil => rfl
  | cons r rs ih =>
    cases r with
    | literal t => rw [ofRuns_literal, List.map_cons, List.map_cons, ih]; rfl
    | item w => rw [ofRuns_item, List.map_cons, List.map_cons, ih]; rfl

theorem separated_iff_ofRuns : Run.Separated rs ↔ (∀ t i, .literal t i ∈ ofRuns n rs → t ≠ []) ∧
    (ofRuns n rs).IsChain fun p q => p.isLiteral = true → q.isLiteral = false := by
  have hchain := List.isChain_map (R := fun a b => a = true → b = false) isLiteral
    (l := ofRuns n rs)
  rw [map_isLiteral_ofRuns, List.isChain_map] at hchain
  rw [Run.separated_iff, hchain]
  simp only [← literal_mem_ofRuns (n := n), forall_exists_index]

/-- What the grammar derives at a place is the reading of a slot there. -/
theorem exists_readingAt {r : SlotReading} {i : Nat}
    (hd : Slot.Derives r.raw r.name r.modifier r.typeName) (hstart : r.start = i)
    (hstop : r.stop = r.start + r.raw.length) : ∃ w : Slot, w.WellFormed ∧ w.readingAt i = r := by
  obtain ⟨w, hw, hraw, hname, hmark, htype⟩ := Slot.derives_iff.1 hd
  refine ⟨w, hw, ?_⟩
  cases r
  simp_all [Slot.readingAt]

/-- Pieces with right places are runs. -/
theorem exists_ofRuns {ps : List Piece} (hlaid : LaidFrom n ps)
    (hstop : ∀ r : SlotReading, .slot r ∈ ps → r.stop = r.start + r.raw.length)
    (hd : ∀ r : SlotReading, .slot r ∈ ps → Slot.Derives r.raw r.name r.modifier r.typeName) :
    ∃ rs, ofRuns n rs = ps ∧ ∀ w, .item w ∈ rs → w.WellFormed := by
  induction ps generalizing n with
  | nil => exact ⟨[], rfl, by simp⟩
  | cons p ps ih =>
    obtain ⟨hp, hrest⟩ := laidFrom_cons.1 hlaid
    obtain ⟨rs, rfl, hw⟩ := ih hrest (fun r hr => hstop r (List.mem_cons_of_mem p hr))
      fun r hr => hd r (List.mem_cons_of_mem p hr)
    cases p with
    | literal t i =>
      obtain rfl : i = n := Int.ofNat_inj.1 hp
      exact ⟨.literal t :: rs, rfl, by simpa using hw⟩
    | slot r =>
      obtain ⟨v, hv, rfl⟩ :=
        exists_readingAt (hd r List.mem_cons_self) hp (hstop r List.mem_cons_self)
      exact ⟨.item v :: rs, by rw [ofRuns_item]; rfl, by simpa [hv] using hw⟩

end Piece

/-! ### Decompositions -/

/-- The canonical decomposition of a text into literal text and slots. -/
structure IsDecomposition (s : Text) (ps : List Piece) : Prop where
  /-- Nothing is lost. -/
  spelled : ps.flatMap Piece.text = s
  /-- Every piece starts behind those before it. -/
  laid : Piece.LaidFrom 0 ps
  /-- Every slot stops behind its last character. -/
  stopped : ∀ r : SlotReading, .slot r ∈ ps → r.stop = r.start + r.raw.length
  /-- Every slot is one that the grammar derives. -/
  derived : ∀ r : SlotReading, .slot r ∈ ps → Slot.Derives r.raw r.name r.modifier r.typeName
  /-- No literal text is empty. -/
  filled : ∀ t i, .literal t i ∈ ps → t ≠ []
  /-- No two literal texts stand side by side. -/
  apart : ps.IsChain fun p q => p.isLiteral = true → q.isLiteral = false
  /-- No slot is left in literal text. -/
  slotless : ∀ t i, .literal t i ∈ ps → ¬ ∃ u, Slot.Derived u ∧ u <:+: t

theorem isDecomposition_ofRuns_iff {s : Text} {rs : List (Run Slot)}
    (hw : ∀ w, .item w ∈ rs → w.WellFormed) :
    IsDecomposition s (Piece.ofRuns 0 rs) ↔ Run.group (Slot.atoms s) = rs := by
  rw [Slot.group_atoms_eq_iff]
  constructor
  · intro h
    refine ⟨Piece.separated_iff_ofRuns.2 ⟨h.filled, h.apart⟩, ⟨fun t ht => ?_, hw⟩, ?_⟩
    · obtain ⟨i, hi⟩ := Piece.literal_mem_ofRuns.2 ht
      rw [Slot.occursIn_iff]
      exact h.slotless t i hi
    · rw [← Piece.flatMap_text_ofRuns 0, h.spelled]
  · rintro ⟨hs, hg, hspelled⟩
    obtain ⟨hfilled, hapart⟩ := Piece.separated_iff_ofRuns.1 hs
    refine ⟨?_, Piece.laidFrom_ofRuns 0 rs, ?_, ?_, hfilled, hapart, ?_⟩
    · rw [Piece.flatMap_text_ofRuns, hspelled]
    · intro r hr
      obtain ⟨w, i, -, rfl⟩ := Piece.slot_mem_ofRuns hr
      rfl
    · intro r hr
      obtain ⟨w, i, hmem, rfl⟩ := Piece.slot_mem_ofRuns hr
      exact Slot.derives_iff.2 ⟨w, hw w hmem, rfl, rfl, rfl, rfl⟩
    · intro t i hi
      rw [← Slot.occursIn_iff]
      exact hg.slotless t (Piece.literal_mem_ofRuns.1 ⟨i, hi⟩)

/-- **The tokens of a text are its only decomposition.** -/
theorem isDecomposition_iff_scan (s : Text) (ps : List Piece) :
    IsDecomposition s ps ↔ ps = (Token.scan s).map Token.piece := by
  have hscan : (Token.scan s).map Token.piece = Piece.ofRuns 0 (Run.group (Slot.atoms s)) := rfl
  rw [hscan]
  constructor
  · intro h
    obtain ⟨rs, rfl, hw⟩ := Piece.exists_ofRuns h.laid h.stopped h.derived
    rw [(isDecomposition_ofRuns_iff hw).1 h]
  · rintro rfl
    exact (isDecomposition_ofRuns_iff (Slot.grammatical_group s).wellFormed).2 rfl

/-- A brace that begins no slot is literal text, and slots may stand side by side. -/
example : (Token.scan "\x7b\x7ba\x7d\x7bb?\x7d\x7d").map Token.piece =
    [.literal "\x7b" 0, .slot ⟨"\x7ba\x7d", "a", none, none, 1, 4⟩,
      .slot ⟨"\x7bb?\x7d", "b", some .optional, none, 4, 8⟩, .literal "\x7d" 8] := by decide

end PromptPress

import PromptPress.Proofs.Html.Blocks
import PromptPress.Proofs.Html.Void
import PromptPress.Proofs.Text.Trimmed

/-!
# Segments

The blocks of a page are segments of its visible text.  What is seen of a page is read off its tree
in order: characters, and the borders where a block begins or ends or something is discarded.
Taking the page apart at the borders should lose nothing but blanks and part nothing but what a
border parts (`KeepsOrder`).

The flow of a page passes over what a line break or an image holds, so of what is seen it has what
stands in neither (`flatMap_signs_flowAll`), and the order is kept exactly if nothing there counts
(`blocks_keep_order`).  In a page that was read from text, line breaks and images are void elements
and hold nothing.

Which block holds a character is found by counting ink.  In the pieces between borders it is the
number of borders in front of the character (`segmentAt_groups`), and tidying the pieces, which
leaves out those without ink, tells no two characters apart and joins no two
(`segmentAt_tidy_eq_iff`).
-/

namespace PromptPress.Html

open Text (ink ink_append)

/-- Something that is seen of a page. -/
inductive Sign where
  | char (c : Char)
  | border
  deriving DecidableEq

namespace Sign

/-- The signs of a text. -/
def ofText (t : Text) : List Sign := t.map char

/-- Whether a sign is a character that is not blank. -/
def isInk : Sign → Bool
  | char c => !Text.isBlank c
  | border => false

/-- The characters among signs. -/
def chars : List Sign → Text
  | [] => []
  | char c :: xs => c :: chars xs
  | border :: xs => chars xs

/-- How much ink there is in signs. -/
def rank (xs : List Sign) : Nat := (ink (chars xs)).length

/-- The characters between borders. -/
def groups : List Sign → List Text
  | [] => [[]]
  | border :: xs => [] :: groups xs
  | char c :: xs =>
    match groups xs with
    | [] => [[c]]
    | g :: gs => (c :: g) :: gs

end Sign

/-- A sign, and whether it stands in a line break or an image. -/
structure Mark where
  sign : Sign
  held : Bool
  deriving DecidableEq

mutual

/-- What is seen of a node.  A line break is a character and an image is its alternative text, and
what they hold comes behind. -/
def Node.marks (held : Bool) : Node → List Mark
  | .text t => (Sign.ofText t).map (⟨·, held⟩)
  | .hidden => []
  | .element name as children =>
    if name ∈ discardedElements then [⟨.border, held⟩]
    else if name = "br".toList then ⟨.char '\n', held⟩ :: marksAll true children
    else if name = "img".toList then
      (Sign.ofText (altText as)).map (⟨·, held⟩) ++ marksAll true children
    else if name ∈ blockElements then
      ⟨.border, held⟩ :: marksAll held children ++ [⟨.border, held⟩]
    else marksAll held children

/-- What is seen of nodes, in their order. -/
def marksAll (held : Bool) : List Node → List Mark
  | [] => []
  | n :: ns => n.marks held ++ marksAll held ns

end

/-- The visible text of a page, and the borders in it. -/
def seen (ns : List Node) : List Sign := (marksAll false ns).map Mark.sign

/-- The number of the segment that holds a character which has `k` others in front of it, where only
ink counts. -/
def segmentAt : List Text → Nat → Nat
  | [], _ => 0
  | b :: bs, k => if k < (ink b).length then 0 else segmentAt bs (k - (ink b).length) + 1

/-- The segments have the ink of what is seen, in order, and two characters of ink are in the same
segment exactly if no border stands between them. -/
structure KeepsOrder (ss : List Sign) (bs : List Text) : Prop where
  ink_eq : ink bs.flatten = ink (Sign.chars ss)
  parted : ∀ xs c ys d zs, ss = xs ++ .char c :: (ys ++ .char d :: zs) →
    Text.isBlank c = false → Text.isBlank d = false →
      (segmentAt bs (Sign.rank xs) = segmentAt bs (Sign.rank (xs ++ .char c :: ys)) ↔ .border ∉ ys)

/-- Nothing counts that stands in a line break or an image: it has no ink, and where its borders
part ink, so does one outside. -/
structure HeldIsIdle (ms : List Mark) : Prop where
  ink : ∀ m ∈ ms, m.held = true → m.sign.isInk = false
  border : ∀ xs c ys d zs, ms = xs ++ c :: (ys ++ d :: zs) →
    c.sign.isInk = true → d.sign.isInk = true →
      (∃ m ∈ ys, m.sign = .border) → ∃ m ∈ ys, m.sign = .border ∧ m.held = false

variable {c : Char} {g : Text} {gs ps bs : List Text} {xs ys ss : List Sign} {ms : List Mark}

/-! ### Signs -/

namespace Sign

theorem rank_char_of_blank (hc : Text.isBlank c = true) (xs : List Sign) :
    rank (char c :: xs) = rank xs :=
  congrArg List.length (Text.ink_cons_of_blank hc (chars xs))

theorem rank_char_of_ink (hc : Text.isBlank c = false) (xs : List Sign) :
    rank (char c :: xs) = rank xs + 1 :=
  congrArg List.length (Text.ink_cons_of_ink hc (chars xs))

theorem groups_ne_nil (xs : List Sign) : groups xs ≠ [] := by
  cases xs with
  | nil => exact List.cons_ne_nil [] []
  | cons x xs =>
    cases x with
    | border => exact List.cons_ne_nil [] (groups xs)
    | char c =>
      rw [groups]
      split
      · exact List.cons_ne_nil _ _
      · exact List.cons_ne_nil _ _

theorem groups_char (h : groups xs = g :: gs) (c : Char) :
    groups (char c :: xs) = (c :: g) :: gs := by
  rw [groups, h]

theorem groups_ofText_append (h : groups xs = g :: gs) (t : Text) :
    groups (ofText t ++ xs) = (t ++ g) :: gs := by
  induction t with
  | nil => exact h
  | cons c t ih => exact groups_char ih c

theorem flatten_groups (xs : List Sign) : (groups xs).flatten = chars xs := by
  induction xs with
  | nil => rfl
  | cons x xs ih =>
    cases x with
    | border => exact ih
    | char c =>
      obtain ⟨g, gs, h⟩ := List.exists_cons_of_ne_nil (groups_ne_nil xs)
      rw [h] at ih
      rw [groups_char h, chars, ← ih]
      rfl

end Sign

/-- The signs of a part of what is visible. -/
def Flow.signs : Flow → List Sign
  | .text t => Sign.ofText t
  | .border => [.border]

/-- The signs that stand in no line break and no image. -/
def shown (ms : List Mark) : List Sign := (ms.filter (!·.held)).map Mark.sign

@[simp] theorem shown_nil : shown [] = [] := rfl

@[simp] theorem shown_append (ms₁ ms₂ : List Mark) :
    shown (ms₁ ++ ms₂) = shown ms₁ ++ shown ms₂ := by
  rw [shown, List.filter_append, List.map_append]
  rfl

@[simp] theorem shown_cons_of_held {m : Mark} (hm : m.held = true) (ms : List Mark) :
    shown (m :: ms) = shown ms := by
  rw [shown, List.filter_cons_of_neg (by simp [hm])]
  rfl

@[simp] theorem shown_cons_of_not_held {m : Mark} (hm : m.held = false) (ms : List Mark) :
    shown (m :: ms) = m.sign :: shown ms := by
  rw [shown, List.filter_cons_of_pos (by simp [hm])]
  rfl

@[simp] theorem shown_map_sign (ss : List Sign) : shown (ss.map (⟨·, false⟩)) = ss := by
  induction ss with
  | nil => rfl
  | cons s ss ih => simp [ih]

@[simp] theorem shown_map_held (ss : List Sign) : shown (ss.map (⟨·, true⟩)) = [] := by
  induction ss with
  | nil => rfl
  | cons s ss ih => simp [ih]

mutual

theorem Node.shown_marks_held (n : Node) : shown (n.marks true) = [] := by
  cases n with
  | text t => exact shown_map_held (Sign.ofText t)
  | hidden => rfl
  | element name as children =>
    have hchildren := shown_marksAll_held children
    rw [Node.marks]
    split_ifs
    · rfl
    · simp [hchildren]
    · simp [hchildren]
    · simp [hchildren]
    · exact hchildren

theorem shown_marksAll_held (ns : List Node) : shown (marksAll true ns) = [] := by
  cases ns with
  | nil => rfl
  | cons n ns => simp [marksAll, Node.shown_marks_held n, shown_marksAll_held ns]

end

mutual

theorem Node.flatMap_signs_flow (n : Node) : n.flow.flatMap Flow.signs = shown (n.marks false) := by
  cases n with
  | text t => simp [Node.flow, Node.marks, Flow.signs]
  | hidden => rfl
  | element name as children =>
    have hchildren := flatMap_signs_flowAll children
    rw [Node.flow, Node.marks]
    simp only [List.contains_iff_mem, beq_iff_eq]
    split_ifs with h₁ h₂ h₃ h₄
    · rfl
    · simp [Flow.signs, Sign.ofText, shown_marksAll_held]
    · simp [Flow.signs, shown_marksAll_held]
    · simp [Flow.signs, hchildren]
    · exact hchildren

/-- **The flow of a page is what is seen of it outside line breaks and images.** -/
theorem flatMap_signs_flowAll (ns : List Node) :
    (flowAll ns).flatMap Flow.signs = shown (marksAll false ns) := by
  cases ns with
  | nil => rfl
  | cons n ns =>
    simp [flowAll, marksAll, Node.flatMap_signs_flow n, flatMap_signs_flowAll ns]

end

/-- **The pieces of visible text are its characters between borders.** -/
theorem pieces_eq_groups (fs : List Flow) : pieces fs = Sign.groups (fs.flatMap Flow.signs) := by
  induction fs with
  | nil => rfl
  | cons f fs ih =>
    cases f with
    | border =>
      rw [pieces_border, ih]
      rfl
    | text t =>
      obtain ⟨g, gs, h⟩ := List.exists_cons_of_ne_nil (Sign.groups_ne_nil (fs.flatMap Flow.signs))
      rw [pieces_text, List.flatMap_cons, Flow.signs, Sign.groups_ofText_append h]
      simp only [ih, h, List.head_cons, List.tail_cons]

theorem blocks_eq (ns : List Node) :
    blocks ns = ((Sign.groups (shown (marksAll false ns))).map tidy).filter (!·.isEmpty) := by
  rw [blocks, pieces_eq_groups, flatMap_signs_flowAll]

/-! ### Tidying -/

@[simp] theorem ink_tidy (s : Text) : ink (tidy s) = ink s := by
  have hfeed : ∀ c ∈ ['\n'], Text.isBlank c = true := List.all_eq_true.1 (by decide)
  rw [tidy, Text.ink_trim, Text.ink_joinWith hfeed, List.flatMap_map]
  simp only [Text.ink_trim]
  exact Text.flatMap_ink_lines s

theorem tidy_eq_nil_iff (s : Text) : tidy s = [] ↔ ink s = [] := by
  rw [← ink_tidy]
  exact (Text.trimmed_trim _).ink_eq_nil_iff.symm

theorem flatMap_ink_tidy (ps : List Text) :
    ((ps.map tidy).filter (!·.isEmpty)).flatMap ink = ps.flatMap ink := by
  induction ps with
  | nil => rfl
  | cons p ps ih =>
    rw [List.map_cons, List.flatMap_cons, ← ih]
    by_cases hp : tidy p = []
    · rw [List.filter_cons_of_neg (by simp [hp]), (tidy_eq_nil_iff p).1 hp, List.nil_append]
    · rw [List.filter_cons_of_pos (by simpa using hp), List.flatMap_cons, ink_tidy]

theorem ink_flatten (ps : List Text) : ink ps.flatten = ps.flatMap ink := by
  induction ps with
  | nil => rfl
  | cons p ps ih => rw [List.flatten_cons, ink_append, ih, List.flatMap_cons]

/-- A tidy piece consists of trimmed lines, the first and the last of which are not empty. -/
theorem tidy_eq_joinWith (s : Text) : ∃ ls : List Text, tidy s = Text.joinWith ['\n'] ls ∧
    (∀ l ∈ ls, Text.trim l = l ∧ ∀ c ∈ l, Text.isLineBreak c = false) ∧
      ∀ h : ls ≠ [], ls.getLast h ≠ [] := by
  let trimmed := (Text.lines s).map Text.trim
  have htrimmed : ∀ l ∈ trimmed, Text.Trimmed l := by
    intro l hl
    obtain ⟨k, -, rfl⟩ := List.mem_map.1 hl
    exact Text.trimmed_trim k
  refine ⟨(trimmed.dropWhile List.isEmpty).rdropWhile List.isEmpty,
    Text.trim_joinWith htrimmed, ?_, ?_⟩
  · intro l hl
    have hmem : l ∈ trimmed :=
      (List.dropWhile_suffix _).subset ((List.rdropWhile_prefix _ _).subset hl)
    refine ⟨(htrimmed l hmem).trim_eq, fun c hc => ?_⟩
    obtain ⟨k, hk, rfl⟩ := List.mem_map.1 hmem
    exact Text.isLineBreak_of_mem_lines hk (Text.mem_of_mem_trim hc)
  · intro h
    simpa using List.rdropWhile_last_not List.isEmpty _ h

/-! ### Counting ink -/

theorem segmentAt_cons_of_ink_eq_nil {p : Text} (hp : ink p = []) (ps : List Text) (k : Nat) :
    segmentAt (p :: ps) k = segmentAt ps k + 1 := by
  rw [segmentAt, hp, List.length_nil, if_neg (Nat.not_lt_zero k), Nat.sub_zero]

/-- Between borders, a character is in the piece whose number is that of the borders before it. -/
theorem segmentAt_groups (hc : Text.isBlank c = false) (xs zs : List Sign) :
    segmentAt (Sign.groups (xs ++ .char c :: zs)) (Sign.rank xs) = xs.count .border := by
  induction xs with
  | nil =>
    obtain ⟨g, gs, h⟩ := List.exists_cons_of_ne_nil (Sign.groups_ne_nil zs)
    rw [List.nil_append, Sign.groups_char h, segmentAt, Text.ink_cons_of_ink hc]
    exact if_pos (Nat.succ_pos _)
  | cons x xs ih =>
    cases x with
    | border =>
      rw [List.cons_append, List.count_cons_self, ← ih]
      exact segmentAt_cons_of_ink_eq_nil rfl _ _
    | char d =>
      obtain ⟨g, gs, h⟩ := List.exists_cons_of_ne_nil (Sign.groups_ne_nil (xs ++ .char c :: zs))
      rw [List.cons_append, Sign.groups_char h, List.count_cons_of_ne (by simp), ← ih, h]
      by_cases hd : Text.isBlank d = true
      · rw [Sign.rank_char_of_blank hd, segmentAt, segmentAt, Text.ink_cons_of_blank hd]
      · rw [Sign.rank_char_of_ink (by simpa using hd), segmentAt, segmentAt,
          Text.ink_cons_of_ink (by simpa using hd), List.length_cons, Nat.add_sub_add_right]
        simp only [Nat.add_lt_add_iff_right]

/-- Tidying leaves out pieces without ink, so it tells no two characters apart and joins no two. -/
theorem segmentAt_tidy_eq_iff (ps : List Text) (j k : Nat) :
    segmentAt ((ps.map tidy).filter (!·.isEmpty)) j =
        segmentAt ((ps.map tidy).filter (!·.isEmpty)) k ↔ segmentAt ps j = segmentAt ps k := by
  induction ps generalizing j k with
  | nil => exact Iff.rfl
  | cons p ps ih =>
    rw [List.map_cons]
    by_cases hp : tidy p = []
    · have hink : ink p = [] := (tidy_eq_nil_iff p).1 hp
      rw [List.filter_cons_of_neg (by simp [hp]), segmentAt_cons_of_ink_eq_nil hink,
        segmentAt_cons_of_ink_eq_nil hink, Nat.add_right_cancel_iff]
      exact ih j k
    · rw [List.filter_cons_of_pos (by simpa using hp)]
      simp only [segmentAt, ink_tidy]
      split_ifs with hj hk hk
      · exact Iff.rfl
      · simp
      · simp
      · rw [Nat.add_right_cancel_iff, Nat.add_right_cancel_iff]
        exact ih _ _

/-! ### Segments of a page -/

/-- The blocks keep the order of what is seen outside line breaks and images. -/
theorem keepsOrder_shown (ns : List Node) : KeepsOrder (shown (marksAll false ns)) (blocks ns) := by
  refine ⟨?_, ?_⟩
  · rw [ink_flatten, blocks_eq, flatMap_ink_tidy, ← ink_flatten, Sign.flatten_groups]
  · intro xs c ys d zs hsigns hc hd
    have hfirst := segmentAt_groups hc xs (ys ++ .char d :: zs)
    have hsecond := segmentAt_groups hd (xs ++ .char c :: ys) zs
    rw [List.append_assoc, List.cons_append] at hsecond
    rw [blocks_eq, segmentAt_tidy_eq_iff, hsigns, hfirst, hsecond, List.count_append,
      List.count_cons_of_ne (by simp), ← List.count_eq_zero]
    omega

theorem rank_cons_of_not_isInk {s : Sign} (hs : s.isInk = false) (ss : List Sign) :
    Sign.rank (s :: ss) = Sign.rank ss := by
  cases s with
  | border => rfl
  | char c => exact Sign.rank_char_of_blank (by simpa [Sign.isInk] using hs) ss

theorem rank_cons_of_isInk {s : Sign} (hs : s.isInk = true) (ss : List Sign) :
    Sign.rank (s :: ss) = Sign.rank ss + 1 := by
  cases s with
  | border => exact absurd hs (by decide)
  | char c => exact Sign.rank_char_of_ink (by simpa [Sign.isInk] using hs) ss

theorem exists_char_of_isInk {s : Sign} (hs : s.isInk = true) :
    ∃ c, s = .char c ∧ Text.isBlank c = false := by
  cases s with
  | border => exact absurd hs (by decide)
  | char c => exact ⟨c, rfl, by simpa [Sign.isInk] using hs⟩

theorem mem_shown {s : Sign} : s ∈ shown ms ↔ ∃ m ∈ ms, m.sign = s ∧ m.held = false := by
  simp only [shown, List.mem_map, List.mem_filter, Bool.not_eq_true']
  exact ⟨fun ⟨m, ⟨hm, hheld⟩, hsign⟩ => ⟨m, hm, hsign, hheld⟩,
    fun ⟨m, hm, hsign, hheld⟩ => ⟨m, ⟨hm, hheld⟩, hsign⟩⟩

/-- What is seen has more ink than is shown, by as much as line breaks and images hold. -/
theorem rank_map_sign (ms : List Mark) :
    Sign.rank (ms.map Mark.sign) =
      Sign.rank (shown ms) + ms.countP fun m => m.held && m.sign.isInk := by
  induction ms with
  | nil => rfl
  | cons m ms ih =>
    rw [List.map_cons, List.countP_cons]
    cases hink : m.sign.isInk with
    | false =>
      rw [rank_cons_of_not_isInk hink, ih]
      cases hheld : m.held with
      | true => simp [shown_cons_of_held hheld]
      | false => simp [shown_cons_of_not_held hheld, rank_cons_of_not_isInk hink]
    | true =>
      rw [rank_cons_of_isInk hink, ih]
      cases hheld : m.held with
      | true => simp [shown_cons_of_held hheld, Nat.add_assoc]
      | false => simp [shown_cons_of_not_held hheld, rank_cons_of_isInk hink, Nat.add_right_comm]

theorem rank_shown (hink : ∀ m ∈ ms, m.held = true → m.sign.isInk = false) :
    Sign.rank (shown ms) = Sign.rank (ms.map Mark.sign) := by
  have hnone : ms.countP (fun m => m.held && m.sign.isInk) = 0 :=
    List.countP_eq_zero.2 fun m hm => by
      simp only [Bool.and_eq_true, not_and, Bool.not_eq_true]
      exact hink m hm
  rw [rank_map_sign, hnone, Nat.add_zero]

theorem chars_sublist (h : xs.Sublist ys) : (Sign.chars xs).Sublist (Sign.chars ys) := by
  induction h with
  | slnil => exact List.Sublist.slnil
  | cons s _ ih =>
    cases s with
    | char c => exact ih.cons c
    | border => exact ih
  | cons_cons s _ ih =>
    cases s with
    | char c => exact ih.cons_cons c
    | border => exact ih

/-- All the ink is shown exactly if line breaks and images hold none. -/
theorem ink_shown_eq_iff : ink (Sign.chars (shown ms)) = ink (Sign.chars (ms.map Mark.sign)) ↔
    ∀ m ∈ ms, m.held = true → m.sign.isInk = false := by
  have hsublist : (shown ms).Sublist (ms.map Mark.sign) := List.filter_sublist.map Mark.sign
  refine ⟨fun hink m hm hheld => ?_, fun hink => ?_⟩
  · have hrank : Sign.rank (shown ms) = Sign.rank (ms.map Mark.sign) := congrArg List.length hink
    have hnone : ms.countP (fun m => m.held && m.sign.isInk) = 0 := by
      rw [rank_map_sign] at hrank
      omega
    simpa [hheld] using List.countP_eq_zero.1 hnone m hm
  · exact ((chars_sublist hsublist).filter _).eq_of_length (rank_shown hink)

/-- Where all the ink is shown, two characters are in one segment exactly if no border that is shown
stands between them. -/
theorem KeepsOrder.parted_iff (h : KeepsOrder (shown ms) bs)
    (hink : ∀ m ∈ ms, m.held = true → m.sign.isInk = false) {xs ys zs : List Mark} {c d : Mark}
    (hms : ms = xs ++ c :: (ys ++ d :: zs)) (hc : c.sign.isInk = true) (hd : d.sign.isInk = true) :
    segmentAt bs (Sign.rank (xs.map Mark.sign)) =
      segmentAt bs (Sign.rank ((xs ++ c :: ys).map Mark.sign)) ↔ .border ∉ shown ys := by
  subst hms
  have hshows : ∀ m ∈ xs ++ c :: (ys ++ d :: zs), m.sign.isInk = true → m.held = false := by
    intro m hm hsign
    by_contra hheld
    exact absurd (hink m hm (by simpa using hheld)) (by simp [hsign])
  have hcshown := shown_cons_of_not_held (hshows c (by simp) hc)
  have hdshown := shown_cons_of_not_held (hshows d (by simp) hd)
  obtain ⟨c', hc', hcblank⟩ := exists_char_of_isInk hc
  obtain ⟨d', hd', hdblank⟩ := exists_char_of_isInk hd
  have hsplit : shown (xs ++ c :: (ys ++ d :: zs)) =
      shown xs ++ .char c' :: (shown ys ++ .char d' :: shown zs) := by
    rw [shown_append, hcshown, shown_append, hdshown, hc', hd']
  have hfront : shown (xs ++ c :: ys) = shown xs ++ .char c' :: shown ys := by
    rw [shown_append, hcshown, hc']
  have hxs : ∀ m ∈ xs, m.held = true → m.sign.isInk = false := fun m hm => hink m (by simp [hm])
  have hys : ∀ m ∈ xs ++ c :: ys, m.held = true → m.sign.isInk = false := by
    intro m hm
    refine hink m ?_
    rw [← List.cons_append, ← List.append_assoc]
    exact List.mem_append_left _ hm
  rw [← rank_shown hxs, ← rank_shown hys, hfront]
  exact h.parted _ _ _ _ _ hsplit hcblank hdblank

/-- **Segments that keep the order of what is shown keep that of all that is seen exactly if nothing
counts that line breaks and images hold.** -/
theorem KeepsOrder.iff_heldIsIdle (h : KeepsOrder (shown ms) bs) :
    KeepsOrder (ms.map Mark.sign) bs ↔ HeldIsIdle ms := by
  refine ⟨fun hseen => ?_, fun hidle => ?_⟩
  · have hink := ink_shown_eq_iff.1 (h.ink_eq.symm.trans hseen.ink_eq)
    refine ⟨hink, fun xs c ys d zs hms hc hd hborder => ?_⟩
    by_contra hnone
    have hsame := (h.parted_iff hink hms hc hd).2 fun hmem => hnone (mem_shown.1 hmem)
    obtain ⟨c', hc', hcblank⟩ := exists_char_of_isInk hc
    obtain ⟨d', hd', hdblank⟩ := exists_char_of_isInk hd
    have hparted := hseen.parted (xs.map Mark.sign) c' (ys.map Mark.sign) d' (zs.map Mark.sign)
      (by simp [hms, hc', hd']) hcblank hdblank
    rw [List.map_append, List.map_cons, hc'] at hsame
    exact hparted.1 hsame (by simpa using hborder)
  · refine ⟨h.ink_eq.trans (ink_shown_eq_iff.2 hidle.ink), ?_⟩
    intro xs c ys d zs hsigns hc hd
    obtain ⟨xs, rest₁, rfl, rfl, hrest₁⟩ := List.map_eq_append_iff.1 hsigns
    obtain ⟨c', rest₂, rfl, hc', hrest₂⟩ := List.map_eq_cons_iff.1 hrest₁
    obtain ⟨ys, rest₃, rfl, rfl, hrest₃⟩ := List.map_eq_append_iff.1 hrest₂
    obtain ⟨d', zs, rfl, hd', rfl⟩ := List.map_eq_cons_iff.1 hrest₃
    have hcink : c'.sign.isInk = true := by simp [hc', Sign.isInk, hc]
    have hdink : d'.sign.isInk = true := by simp [hd', Sign.isInk, hd]
    have hparted := h.parted_iff hidle.ink rfl hcink hdink
    rw [List.map_append, List.map_cons, hc'] at hparted
    rw [hparted, not_iff_not, mem_shown, List.mem_map]
    exact ⟨fun ⟨m, hm, hsign, _⟩ => ⟨m, hm, hsign⟩, hidle.border _ _ _ _ _ rfl hcink hdink⟩

mutual

theorem Node.not_held_of_mem_marks {n : Node} (h : n.Barren) :
    ∀ m ∈ n.marks false, m.held = false := by
  cases n with
  | text t =>
    intro m hm
    obtain ⟨s, -, rfl⟩ := List.mem_map.1 hm
    rfl
  | hidden => exact fun m hm => absurd hm List.not_mem_nil
  | element name as children =>
    have hchildren := not_held_of_mem_marksAll h.2
    rw [Node.marks]
    split_ifs with hdiscarded hbreak himage
    · simp
    · rw [h.1 (hbreak ▸ by decide)]
      simp [marksAll]
    · rw [h.1 (himage ▸ by decide)]
      simp [marksAll]
    · simpa [or_imp, forall_and] using hchildren
    · exact hchildren

/-- Where void elements hold nothing, neither do line breaks and images. -/
theorem not_held_of_mem_marksAll {ns : List Node} (h : BarrenAll ns) :
    ∀ m ∈ marksAll false ns, m.held = false := by
  cases ns with
  | nil => exact fun m hm => absurd hm List.not_mem_nil
  | cons n ns =>
    intro m hm
    rcases List.mem_append.1 hm with hm | hm
    · exact Node.not_held_of_mem_marks h.1 m hm
    · exact not_held_of_mem_marksAll h.2 m hm

end

theorem heldIsIdle_of_barren {ns : List Node} (h : BarrenAll ns) :
    HeldIsIdle (marksAll false ns) := by
  have hnone := not_held_of_mem_marksAll h
  refine ⟨fun m hm hheld => absurd hheld (by simp [hnone m hm]), ?_⟩
  rintro xs c ys d zs hms - - ⟨m, hm, hsign⟩
  exact ⟨m, hm, hsign, hnone m (by simp [hms, hm])⟩

-- the text that a line break holds is visible, and flattening loses it
example : let page : List Node := [.element "br".toList [] [.text ['b']]]
    blocks page = [] ∧ seen page = [.char '\n', .char 'b'] := by decide

end PromptPress.Html

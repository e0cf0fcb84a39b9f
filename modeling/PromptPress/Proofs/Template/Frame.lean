import PromptPress.Proofs.Template.Quotation
import PromptPress.Proofs.Template.Interpolation
import Mathlib.Data.List.Basic

/-!
# Modules read back

The module of a template is a frame around two texts: the type of the parameters, and the literal
that the module's function returns.  A `Frame` has the fixed texts of such a module and the rule by
which its literal is read, and `Frame.read?` takes a module apart.

Nothing is assumed about the body of the literal but that it is read up to its closing quote.  Of the
type of the parameters it is enough to know that it has no closing parenthesis, so the first one
that is met ends it.
-/

namespace PromptPress

/-! ### Reading parts of code -/

namespace Text

/-- Reads a word of certain characters, and what has to stand behind it. -/
def word? (p : Char → Bool) (ending s : Text) : Option (Text × Text) :=
  (dropFront? ending (s.dropWhile p)).map fun r => (s.takeWhile p, r)

theorem length_of_word? {p : Char → Bool} {ending s n r : Text}
    (h : word? p ending s = some (n, r)) : r.length ≤ s.length := by
  obtain ⟨r', hd, he⟩ := Option.map_eq_some_iff.1 h
  obtain ⟨-, rfl⟩ := Prod.mk.inj he
  have hlen := length_of_dropFront? hd
  have := (List.dropWhile_suffix p : s.dropWhile p <:+ s).length_le
  omega

/-- A word is read up to a character that stands in none. -/
theorem word?_append {p : Char → Bool} {n : Text} (hn : ∀ c ∈ n, p c = true) {q : Char}
    (hq : p q = false) (e r : Text) : word? p (q :: e) (n ++ (q :: e ++ r)) = some (n, r) := by
  have hd : dropFront? (q :: e) (q :: (e ++ r)) = some r := dropFront?_eq_some.2 rfl
  rw [word?, List.cons_append, List.takeWhile_append_of_pos hn, List.dropWhile_append_of_pos hn,
    List.takeWhile_cons_of_neg (by simp [hq]), List.dropWhile_cons_of_neg (by simp [hq]),
    List.append_nil, hd]
  rfl

/-- Reads a key between quotes, in which certain signs do not stand, and what has to stand behind
it. -/
def key? (signs ending s : Text) : Option (Text × Text) := word? (!signs.contains ·) ending s

/-- Names are keys. -/
theorem key?_append {signs : Text} (hs : signs.any Slot.isNameChar = false) {q : Char}
    (hq : q ∈ signs) {n : Text} (hn : Slot.IsName n) (e r : Text) :
    key? signs (q :: e) (n ++ (q :: e ++ r)) = some (n, r) := by
  refine word?_append (fun c hc => ?_) (by simpa using hq) e r
  have hc' : c ∉ signs := fun hm => List.any_eq_false.1 hs c hm (hn.2 c hc)
  simpa using hc'

/-- A text that starts with a character is found behind anything without that character. -/
theorem cutAt?_append {c : Char} {a : Text} (ha : c ∉ a) (p b : Text) :
    cutAt? (c :: p) (a ++ c :: p ++ b) = some (a, b) := by
  induction a with
  | nil =>
    have hd : dropFront? (c :: p) (c :: (p ++ b)) = some b := dropFront?_eq_some.2 rfl
    rw [List.nil_append, List.cons_append, cutAt?, hd]
  | cons d a ih =>
    obtain ⟨hd, ha⟩ := List.ne_and_not_mem_of_not_mem_cons ha
    rw [List.cons_append, List.cons_append, cutAt?, dropFront?, if_neg hd]
    dsimp only
    rw [ih ha]
    rfl

/-- **Joined entries are read one by one**, if each is read in front of the separator, and in front
of what ends them all. -/
theorem read_joinWith {α β : Type} {read : Text → Option (List β)} {entry : α → Text}
    {value : α → β} {sep ending : Text} {as : List α} (hne : as ≠ [])
    (hlast : ∀ a ∈ as, read (entry a ++ ending) = some [value a])
    (hcons : ∀ a ∈ as, ∀ r, read (entry a ++ (sep ++ r)) = (read r).map (value a :: ·)) :
    read (joinWith sep (as.map entry) ++ ending) = some (as.map value) := by
  induction as with
  | nil => exact absurd rfl hne
  | cons a as ih =>
    have htail := fun h => ih h (fun b hb => hlast b (List.mem_cons_of_mem _ hb))
      fun b hb => hcons b (List.mem_cons_of_mem _ hb)
    cases as with
    | nil => exact hlast a List.mem_cons_self
    | cons b as =>
      rw [List.map_cons, List.map_cons, joinWith, List.append_assoc, List.append_assoc,
        hcons a List.mem_cons_self, ← List.map_cons, htail (List.cons_ne_nil b as)]
      rfl

theorem notMem_joinWith {c : Char} {sep : Text} (hs : c ∉ sep) {ts : List Text}
    (ht : ∀ t ∈ ts, c ∉ t) : c ∉ joinWith sep ts := by
  induction ts with
  | nil => exact List.not_mem_nil
  | cons t ts ih =>
    have htail := ih fun u hu => ht u (List.mem_cons_of_mem _ hu)
    cases ts with
    | nil => exact ht t List.mem_cons_self
    | cons u ts =>
      rw [joinWith, List.append_assoc, List.mem_append, List.mem_append]
      rintro (h | h | h)
      · exact ht t List.mem_cons_self h
      · exact hs h
      · exact htail h

end Text

theorem Placeholder.mem_order {p : Placeholder} {ps : List Placeholder} :
    p ∈ order ps ↔ p ∈ ps := by
  rw [order, List.mem_append, List.mem_filter, List.mem_filter]
  cases p.optional <;> simp

/-- What neither a parameter has nor what stands around it, the signature of parameters has not. -/
theorem Placeholder.notMem_signature {c : Char} (opening sep closing : Text)
    (hc : c ∉ opening ++ sep ++ closing ++ "\x7b\x7d") {field : Placeholder → Text}
    {ps : List Placeholder} (hf : ∀ p ∈ ps, c ∉ field p) :
    c ∉ if ps.isEmpty then ("\x7b\x7d" : Text)
      else opening ++ Text.joinWith sep ((order ps).map field) ++ closing := by
  simp only [List.mem_append, not_or] at hc
  obtain ⟨⟨⟨hopening, hsep⟩, hclosing⟩, hnone⟩ := hc
  split_ifs
  · exact hnone
  · have hfields : c ∉ Text.joinWith sep ((order ps).map field) := by
      refine Text.notMem_joinWith hsep fun t ht => ?_
      obtain ⟨p, hp, rfl⟩ := List.mem_map.1 ht
      rcases List.mem_append.1 hp with hp | hp <;> exact hf p (List.mem_filter.1 hp).1
    simp only [List.mem_append, not_or]
    exact ⟨⟨hopening, hfields⟩, hclosing⟩

/-- A character of a name stands for itself between quotes. -/
theorem Json.stringChar_of_isNameChar {c : Char} (h : Slot.isNameChar c = true) (ascii : Bool) :
    stringChar ascii c = [c] := by
  have hc := Slot.isNameChar_iff.1 h
  have hne : ∀ {d : Char}, Slot.isNameChar d = false → c ≠ d := Slot.ne_of_isNameChar h
  unfold stringChar
  rw [if_neg (hne (by decide)), if_neg (hne (by decide)), if_neg (hne (by decide)),
    if_neg (hne (by decide)), if_neg (hne (by decide)), if_neg (by omega), if_neg (by omega),
    if_neg (by omega)]

/-- A name stands for itself between quotes. -/
theorem Json.string_of_isName {n : Text} (h : Slot.IsName n) (ascii : Bool) :
    string ascii n = '"' :: n ++ ['"'] := by
  have hn : n.flatMap (stringChar ascii) = n := by
    rw [List.flatMap_congr fun c hc => stringChar_of_isNameChar (h.2 c hc) ascii]
    exact List.flatMap_singleton' n
  rw [string, hn]

/-! ### Frames -/

/-- A module with a template. -/
structure Module (α : Type) where
  /-- The type of the parameters. -/
  signature : Text
  /-- What the module's function returns. -/
  template : List (Run α)
  deriving DecidableEq

/-- How the module of a template is laid out. -/
structure Frame (α : Type) where
  /-- What stands before the type of the parameters. -/
  opening : Text
  /-- What stands between the parenthesis that ends the parameters and the body of the literal. -/
  bridge : Text
  /-- How the literal is read. -/
  quotation : Quotation α
  /-- What stands behind the quote that closes the literal. -/
  ending : Text

namespace Frame

variable {α : Type}

/-- The text of a module. -/
def write (F : Frame α) (body signature : Text) : Text :=
  F.opening ++ (signature ++ ')' :: F.bridge ++ (body ++ F.quotation.closing :: F.ending))

/-- Takes a module apart. -/
def read? (F : Frame α) (code : Text) : Option (Module α) := do
  let s ← Text.dropFront? F.opening code
  let (signature, s) ← Text.cutAt? (')' :: F.bridge) s
  let (template, rest) ← F.quotation.runs? s
  if rest = F.ending then some ⟨signature, template⟩ else none

/-- **A module is read back** if its literal is, and its parameters have no parenthesis. -/
theorem read?_write {F : Frame α} {body signature : Text} {rs : List (Run α)}
    (hs : ')' ∉ signature) (hb : F.quotation.runs? (body ++ F.quotation.closing :: F.ending) =
      some (rs, F.ending)) : F.read? (F.write body signature) = some ⟨signature, rs⟩ := by
  have ho : Text.dropFront? F.opening (F.write body signature) = some _ :=
    Text.dropFront?_eq_some.2 rfl
  have hc := Text.cutAt?_append hs F.bridge (body ++ F.quotation.closing :: F.ending)
  simp only [read?, ho, hc, hb, Option.bind_eq_bind, Option.bind_some]
  exact if_pos trivial

end Frame

/-! ### Artifacts -/

namespace Artifact

variable {α : Type}

/-- The body of a template is read back segment by segment, if each substitution is read whatever
follows it and literal text is read before anything that a substitution or the end can begin
with. -/
theorem runs?_body (t : Target) {Q : Quotation α} (follow : Text → Prop) {g : Text → Text}
    {f : Placeholder → α} {ps : List Placeholder} (hg : ∀ u, u ≠ [] → g u ≠ [])
    (hitem : ∀ p ∈ ps, ∀ r, Q.Reads (t.substitution p) [.item (f p)] r ∧
      follow (t.substitution p ++ r))
    (hlit : ∀ u r, follow r → Q.Reads (t.escape u) ((g u).map .char) r) (s : Text) {rest : Text}
    (hrest : follow (Q.closing :: rest)) : Q.runs? (body t s ps ++ Q.closing :: rest) =
      some ((Template.segments s ps).map (Run.bimap g f), rest) := by
  refine Quotation.runs?_flatMap follow (Run.separated_group _) hg ?_ hlit hrest
  intro p hp r
  exact hitem p (Template.mem_of_item_mem_segments hp) r

/-- The code of an artifact with placeholders is read back if its body is. -/
theorem read?_code {t : Target} {F : Frame α} {s : Text} {ps : List Placeholder}
    {rs : List (Run α)} (hne : ps ≠ [])
    (hw : ∀ body signature, t.functionModule body signature = F.write body signature)
    (hs : ')' ∉ t.signature ps)
    (hb : F.quotation.runs? (body t s ps ++ F.quotation.closing :: F.ending) =
      some (rs, F.ending)) : F.read? (ofText t s ps).code = some ⟨t.signature ps, rs⟩ := by
  have hcode : (ofText t s ps).code = t.functionModule (body t s ps) (t.signature ps) := by
    rw [ofText, if_neg (by simpa using hne)]
  rw [hcode, hw]
  exact Frame.read?_write hs hb

end Artifact

/-! ### Calling -/

namespace Run

variable {α : Type}

/-- Puts values in the place of the items; the first that has none stops it. -/
def fillAll (value : α → Except Error Text) : List (Run α) → Except Error Text
  | [] => .ok []
  | .literal t :: rs => (fillAll value rs).map (t ++ ·)
  | .item a :: rs =>
    match value a with
    | .error e => .error e
    | .ok t => (fillAll value rs).map (t ++ ·)

/-- If every item has a value, the runs are spelled out with these values. -/
theorem fillAll_eq_ok {value : α → Except Error Text} {text : α → Text} {rs : List (Run α)}
    (h : ∀ a ∈ items rs, value a = .ok (text a)) :
    fillAll value rs = .ok (rs.flatMap (spell id text)) := by
  induction rs with
  | nil => rfl
  | cons r rs ih =>
    cases r with
    | literal t =>
      rw [fillAll, ih h]
      rfl
    | item a =>
      have ha := h a List.mem_cons_self
      have hrs := ih fun b hb => h b (List.mem_cons_of_mem _ hb)
      simp only [fillAll, ha, hrs]
      rfl

theorem fillAll_eq_ok_iff {value : α → Except Error Text} {rs : List (Run α)} :
    (∃ t, fillAll value rs = .ok t) ↔ ∀ a ∈ items rs, ∃ t, value a = .ok t := by
  induction rs with
  | nil => simp [fillAll, items]
  | cons r rs ih =>
    cases r with
    | literal t =>
      rw [fillAll, show items (.literal t :: rs) = items rs from rfl, ← ih]
      cases fillAll value rs <;> simp [Except.map]
    | item a =>
      rw [fillAll, show items (.item a :: rs) = a :: items rs from rfl, List.forall_mem_cons, ← ih]
      cases value a with
      | error e => simp
      | ok t => cases fillAll value rs <;> simp [Except.map]

theorem exists_item_of_fillAll_eq_error {value : α → Except Error Text}
    {rs : List (Run α)} {e : Error} (h : fillAll value rs = .error e) :
    ∃ a ∈ items rs, value a = .error e := by
  induction rs with
  | nil => simp [fillAll] at h
  | cons r rs ih =>
    have htail : ∀ t : Text, (fillAll value rs).map (t ++ ·) = .error e →
        ∃ a ∈ items rs, value a = .error e := by
      intro t ht
      cases hrs : fillAll value rs with
      | ok u => simp [hrs, Except.map] at ht
      | error f =>
        obtain rfl : f = e := by simpa [hrs, Except.map] using ht
        exact ih hrs
    cases r with
    | literal t => exact htail t h
    | item a =>
      rw [fillAll] at h
      cases ha : value a with
      | error f =>
        obtain rfl : f = e := by simpa [ha] using h
        exact ⟨a, List.mem_cons_self, ha⟩
      | ok t =>
        rw [ha] at h
        obtain ⟨b, hb, he⟩ := htail t h
        exact ⟨b, List.mem_cons_of_mem _ hb, he⟩

end Run

end PromptPress

import PromptPress.Proofs.Target.TypeScript
import PromptPress.Proofs.Target.Signature
import PromptPress.Proofs.Text.Trimmed

/-!
# Fields told apart by the type of the parameters

The type of a module's parameters can be read back in both targets: in a mapping's type by
`Python.dictionary?`, and in an object's type by `TypeScript.objectType?`.  Names may stand with
quotes or without, and types may hold commas, blanks and brackets; but no type of an object holds a
semicolon or a brace, and so the first one of them ends a field.

What is read back are the fields of the placeholders, the required ones first
(`Target.readFields?_signature`), and the type is written from these fields alone
(`Target.signature_eq_written`).  So two lists of placeholders have one type if and only if they have
the same fields in the same order.
-/

namespace PromptPress

/-! ### Required placeholders first -/

namespace Placeholder

/-- The placeholders `qs` are the placeholders `ps` with the required ones in front, and neither the
required ones nor the optional ones have changed their order. -/
structure RequiredFirst (ps qs : List Placeholder) : Prop where
  apart : qs.Pairwise fun p q => q.optional = false → p.optional = false
  kept : ∀ o, qs.filter (·.optional == o) = ps.filter (·.optional == o)

theorem order_eq (ps : List Placeholder) :
    order ps = ps.filter (·.optional == false) ++ ps.filter (·.optional == true) := by
  simp [order]

theorem requiredFirst_order (ps : List Placeholder) : RequiredFirst ps (order ps) := by
  have hreq : ∀ p ∈ ps.filter (·.optional == false), p.optional = false := by simp
  have hopt : ∀ p ∈ ps.filter (·.optional == true), p.optional = true := by simp
  constructor
  · rw [order_eq, List.pairwise_append]
    refine ⟨List.pairwise_of_forall_mem_list ?_, List.pairwise_of_forall_mem_list ?_, ?_⟩
    · exact fun p hp _ _ _ => hreq p hp
    · intro p _ q hq ho
      rw [hopt q hq] at ho
      exact absurd ho (by decide)
    · exact fun p hp _ _ _ => hreq p hp
  · intro o
    rw [order_eq, List.filter_append, List.filter_filter, List.filter_filter]
    cases o <;> simp

theorem order_eq_self {qs : List Placeholder}
    (h : qs.Pairwise fun p q => q.optional = false → p.optional = false) : order qs = qs := by
  induction qs with
  | nil => rfl
  | cons q qs ih =>
    obtain ⟨hq, hqs⟩ := List.pairwise_cons.1 h
    cases ho : q.optional with
    | false => simpa [order, ho] using ih hqs
    | true =>
      -- behind an optional placeholder none is required
      have hall : ∀ p ∈ qs, p.optional = true := by
        intro p hp
        have hp' := hq p hp
        rw [ho] at hp'
        simpa using hp'
      have hnone : qs.filter (! ·.optional) = [] :=
        List.filter_eq_nil_iff.2 fun p hp => by simp [hall p hp]
      have hself : qs.filter (·.optional) = qs :=
        List.filter_eq_self.2 fun p hp => hall p hp
      simp [order, ho, hnone, hself]

/-- **There is one such order.** -/
theorem requiredFirst_iff {ps qs : List Placeholder} : RequiredFirst ps qs ↔ qs = order ps := by
  constructor
  · intro h
    rw [← order_eq_self h.apart, order_eq, h.kept, h.kept, ← order_eq]
  · rintro rfl
    exact requiredFirst_order ps

end Placeholder

/-! ### Reading the types of objects -/

namespace TypeScript

/-- Reads the name of a property: what stands between double quotes, or else a name that does not
start with a digit. -/
def property? : Text → Option (Text × Text)
  | '"' :: s => Text.key? keySigns ['"'] s
  | s =>
    if s.takeWhile Slot.isNameChar = [] ∨ startsWithDigit s = true then none
    else some (s.takeWhile Slot.isNameChar, s.dropWhile Slot.isNameChar)

/-- Passes over the mark of a property that may be left out, and says whether it was there. -/
def optionalMark : Text → Bool × Text
  | '?' :: s => (true, s)
  | s => (false, s)

/-- Does a field go on with the character? -/
def staysInField (c : Char) : Bool := c != ';' && c != '\x7d'

/-- Reads a field up to a semicolon or a closing brace.  Spaces in front of these do not belong to
the type of the field. -/
def member? (s : Text) : Option (Parameter × Text) := do
  let (name, s) ← property? s
  let t ← Text.dropFront? ": " (optionalMark s).2
  some (⟨name, (optionalMark s).1, Text.dropEndWhile (· == ' ') (t.takeWhile staysInField)⟩,
    t.dropWhile staysInField)

theorem length_of_property? {s n r : Text} (h : property? s = some (n, r)) :
    r.length ≤ s.length := by
  unfold property? at h
  split at h
  · exact (Text.length_of_word? h).trans (Nat.le_succ _)
  · split_ifs at h
    obtain ⟨-, rfl⟩ := Prod.mk.inj (Option.some.inj h)
    exact (List.dropWhile_suffix _).length_le

theorem length_optionalMark_le (s : Text) : (optionalMark s).2.length ≤ s.length := by
  unfold optionalMark
  split
  · exact Nat.le_succ _
  · exact le_rfl

theorem length_of_member? {s r : Text} {p : Parameter} (h : member? s = some (p, r)) :
    r.length < s.length := by
  obtain ⟨⟨n, s₁⟩, hname, h⟩ := Option.bind_eq_some_iff.1 h
  obtain ⟨t, hcolon, h⟩ := Option.bind_eq_some_iff.1 h
  obtain ⟨-, rfl⟩ := Prod.mk.inj (Option.some.inj h)
  have htwo : (": " : String).toList.length = 2 := by decide
  have := length_of_property? hname
  have := length_optionalMark_le s₁
  have := Text.length_of_dropFront? hcolon
  have := (List.dropWhile_suffix staysInField : t.dropWhile staysInField <:+ t).length_le
  omega

/-- Reads the fields of an object's type, once its opening brace is passed. -/
def members? (s : Text) : Option (List Parameter) :=
  match _h : member? s with
  | some (p, '\x7d' :: []) => some [p]
  | some (p, ';' :: ' ' :: r) => (members? r).map (p :: ·)
  | _ => none
termination_by s.length
decreasing_by
  have := length_of_member? _h
  simp only [List.length_cons] at this
  omega

/-- Reads the type of an object. -/
def objectType? : Text → Option (List Parameter)
  | '\x7b' :: '\x7d' :: [] => some []
  | '\x7b' :: ' ' :: s => members? s
  | _ => none

/-! ### Reading the fields of placeholders -/

/-- The field that a placeholder is. -/
def parameter (p : Placeholder) : Parameter := ⟨p.name, p.optional, spellType p.type⟩

/-- The text of a field. -/
def written (e : Parameter) : Text :=
  propertyName e.name ++ (if e.optional then ['?'] else []) ++ ": " ++ e.type

/-- **A name is read back**, with quotes or without, in front of a character of no name. -/
theorem property?_propertyName {n : Text} (hn : Slot.IsName n) {c : Char}
    (hc : Slot.isNameChar c = false) (r : Text) :
    property? (propertyName n ++ c :: r) = some (n, c :: r) := by
  unfold propertyName
  rw [isBare_of_isName hn]
  cases hd : startsWithDigit n with
  | true =>
    have hsigns : keySigns.any Slot.isNameChar = false := by decide
    have hquote : '"' ∈ keySigns := by decide
    have hkey := Text.key?_append hsigns hquote hn [] (c :: r)
    rw [if_neg (by decide), Json.string_of_isName hn, List.append_assoc]
    exact hkey
  | false =>
    obtain ⟨d, m, rfl⟩ := List.exists_cons_of_ne_nil hn.1
    have hquote : d ≠ '"' := Slot.ne_of_isNameChar (hn.2 d List.mem_cons_self) (by decide)
    have htake : ((d :: m) ++ c :: r).takeWhile Slot.isNameChar = d :: m := by
      rw [List.takeWhile_append_of_pos hn.2, List.takeWhile_cons_of_neg (by simp [hc]),
        List.append_nil]
    have hdrop : ((d :: m) ++ c :: r).dropWhile Slot.isNameChar = c :: r := by
      rw [List.dropWhile_append_of_pos hn.2, List.dropWhile_cons_of_neg (by simp [hc])]
    have hstart : startsWithDigit ((d :: m) ++ c :: r) = false := hd
    rw [if_pos (by decide), property?]
    · rw [htake, hdrop, hstart, if_neg (by simp)]
    · exact fun s h => hquote (List.cons.inj h).1

theorem optionalMark_append (o : Bool) (r : Text) :
    optionalMark ((if o then ['?'] else []) ++ ':' :: r) = (o, ':' :: r) := by
  cases o <;> rfl

/-- A type is read up to what ends its field, and without the space in front of that. -/
theorem type_append {t : TypeTag} {g : Text} (hg : g = [] ∨ g = [' ']) {c : Char}
    (hc : staysInField c = false) (r : Text) :
    Text.dropEndWhile (· == ' ') ((spellType t ++ (g ++ c :: r)).takeWhile staysInField) =
        spellType t ∧
      (spellType t ++ (g ++ c :: r)).dropWhile staysInField = c :: r := by
  obtain ⟨v, hv⟩ : ∃ v, spellType t = typeName v := by
    cases t with
    | known v => exact ⟨v, rfl⟩
    | unknown u => exact ⟨.string, rfl⟩
  have hall : (typeName v ++ g).all staysInField = true := by
    rcases hg with rfl | rfl <;> cases v <;> rfl
  have hsigns : ∀ d ∈ typeName v ++ g, staysInField d = true := List.all_eq_true.1 hall
  have htrim : Text.dropEndWhile (· == ' ') (typeName v ++ g) = typeName v := by
    rcases hg with rfl | rfl <;> cases v <;> rfl
  rw [hv, ← List.append_assoc, List.takeWhile_append_of_pos hsigns,
    List.dropWhile_append_of_pos hsigns, List.takeWhile_cons_of_neg (by simp [hc]),
    List.dropWhile_cons_of_neg (by simp [hc]), List.append_nil]
  exact ⟨htrim, rfl⟩

/-- **The field of a placeholder is read back**, in front of what ends it. -/
theorem member?_field {p : Placeholder} (hn : Slot.IsName p.name) {g : Text}
    (hg : g = [] ∨ g = [' ']) {c : Char} (hc : staysInField c = false) (r : Text) :
    member? (field p ++ (g ++ c :: r)) = some (parameter p, c :: r) := by
  have hcolon : (": " : String).toList = [':', ' '] := by decide
  obtain ⟨htype, hrest⟩ := type_append (t := p.type) hg hc r
  -- the mark and the colon end the name
  have hname : property? (field p ++ (g ++ c :: r)) = some (p.name,
      (if p.optional then ['?'] else []) ++ ':' :: ' ' :: (spellType p.type ++ (g ++ c :: r))) := by
    unfold field
    rw [hcolon]
    cases p.optional with
    | true => simpa using property?_propertyName hn (by decide) _
    | false => simpa using property?_propertyName hn (by decide) _
  have hfront : ∀ u : Text, Text.dropFront? ": " (':' :: ' ' :: u) = some u :=
    fun u => Text.dropFront?_eq_some.2 (by rw [hcolon]; rfl)
  simp only [member?, hname, optionalMark_append, hfront, htype, hrest, Option.bind_eq_bind,
    Option.bind_some, parameter]

theorem members?_last {p : Placeholder} (hn : Slot.IsName p.name) :
    members? (field p ++ [' ', '\x7d']) = some [parameter p] := by
  have hread : member? (field p ++ [' ', '\x7d']) = some (parameter p, ['\x7d']) :=
    member?_field hn (.inr rfl) (by decide) []
  rw [members?]
  split <;> simp_all

theorem members?_cons {p : Placeholder} (hn : Slot.IsName p.name) (r : Text) :
    members? (field p ++ ';' :: ' ' :: r) = (members? r).map (parameter p :: ·) := by
  have hread : member? (field p ++ ';' :: ' ' :: r) = some (parameter p, ';' :: ' ' :: r) :=
    member?_field hn (.inl rfl) (by decide) (' ' :: r)
  rw [members?]
  split <;> simp_all

theorem members?_joinWith {ps : List Placeholder} (hne : ps ≠ [])
    (hps : ∀ p ∈ ps, Slot.IsName p.name) :
    members? (Text.joinWith "; " (ps.map field) ++ [' ', '\x7d']) = some (ps.map parameter) :=
  Text.read_joinWith hne (fun p hp => members?_last (hps p hp)) fun p hp => members?_cons (hps p hp)

/-- **The type of the parameters is read back** as the fields, the required ones first. -/
theorem objectType?_signature {ps : List Placeholder} (hps : ∀ p ∈ ps, Slot.IsName p.name) :
    objectType? (signature ps) = some ((Placeholder.order ps).map parameter) := by
  cases ps with
  | nil => decide
  | cons p ps =>
    have hne : Placeholder.order (p :: ps) ≠ [] :=
      List.ne_nil_of_mem (Placeholder.mem_order.2 List.mem_cons_self)
    have hopen : ("\x7b " : String).toList = ['\x7b', ' '] := by decide
    have hclose : (" \x7d" : String).toList = [' ', '\x7d'] := by decide
    rw [signature, if_neg (by simp), hopen, hclose]
    exact members?_joinWith hne fun q hq => hps q (Placeholder.mem_order.1 hq)

end TypeScript

/-! ### Fields and types -/

namespace Python

/-- The text of an entry. -/
def written (e : Parameter) : Text :=
  Json.string true e.name ++ ": " ++ if e.optional then "NotRequired[" ++ e.type ++ "]" else e.type

end Python

namespace Target

/-- The spelling of a placeholder's type. -/
def spellType : Target → TypeTag → Text
  | typescript => TypeScript.spellType
  | python => Python.spellType

/-- The fields that the type of the parameters has: those of the placeholders, the required ones
first. -/
def fields (t : Target) (ps : List Placeholder) : List Parameter :=
  (Placeholder.order ps).map fun p => ⟨p.name, p.optional, t.spellType p.type⟩

/-- Reads the type of the parameters. -/
def readFields? : Target → Text → Option (List Parameter)
  | typescript => TypeScript.objectType?
  | python => Python.dictionary?

theorem readFields?_signature (t : Target) {ps : List Placeholder}
    (hps : ∀ p ∈ ps, Slot.IsName p.name) : t.readFields? (t.signature ps) = some (t.fields ps) :=
  match t with
  | typescript => TypeScript.objectType?_signature hps
  | python => Python.dictionary?_signature hps

/-- The type that has the fields. -/
def written (t : Target) (es : List Parameter) : Text :=
  match t with
  | typescript =>
    if es.isEmpty then "\x7b\x7d"
    else "\x7b " ++ Text.joinWith "; " (es.map TypeScript.written) ++ " \x7d"
  | python =>
    if es.isEmpty then "\x7b\x7d"
    else '\x7b' :: Text.joinWith ", " (es.map Python.written) ++ ['\x7d']

theorem signature_eq_written (t : Target) (ps : List Placeholder) :
    t.signature ps = t.written (t.fields ps) := by
  have hempty : (t.fields ps).isEmpty = ps.isEmpty := by
    cases ps with
    | nil => rfl
    | cons p ps =>
      have hne : Placeholder.order (p :: ps) ≠ [] :=
        List.ne_nil_of_mem (Placeholder.mem_order.2 List.mem_cons_self)
      simpa [fields] using hne
  cases t with
  | typescript =>
    rw [written, hempty, fields, List.map_map]
    rfl
  | python =>
    rw [written, hempty, fields, List.map_map]
    rfl

/-- **The type of the parameters tells its fields.**  It can be read back, in either target, as the
names, the marks of what may be left out, and the types of the placeholders, which stand in the only
order that has the required ones first and changes nothing else.  So two lists have one type if and
only if they have these fields in common. -/
theorem signature_tells_fields (t : Target) (ps : List Placeholder)
    (hps : ∀ p ∈ ps, Slot.IsName p.name) :
    (∃ ordered, (∀ qs, Placeholder.RequiredFirst ps qs ↔ qs = ordered) ∧
      t.fields ps = ordered.map (fun p => ⟨p.name, p.optional, t.spellType p.type⟩) ∧
      t.readFields? (t.signature ps) = some (t.fields ps)) ∧
    ∀ qs : List Placeholder, (∀ q ∈ qs, Slot.IsName q.name) →
      (t.signature ps = t.signature qs ↔ t.fields ps = t.fields qs) := by
  refine ⟨⟨Placeholder.order ps, fun qs => Placeholder.requiredFirst_iff, rfl,
    t.readFields?_signature hps⟩, ?_⟩
  intro qs hqs
  constructor
  · -- one text is read back in one way
    intro h
    have hread := t.readFields?_signature hps
    rw [h, t.readFields?_signature hqs] at hread
    exact (Option.some.inj hread).symm
  · intro h
    rw [signature_eq_written, signature_eq_written, h]

/-- A number and, optional, a value whose type holds a comma and brackets and whose name needs
quotes: in either order they have one type. -/
theorem signature_tells_fields_swapped :
    (∀ p ∈ ([⟨"2nd", true, [], some "json"⟩, ⟨"a", false, [], some "number"⟩] : List Placeholder),
        Slot.IsName p.name) ∧
      (∀ p ∈ ([⟨"a", false, [], some "number"⟩, ⟨"2nd", true, [], some "json"⟩] :
        List Placeholder), Slot.IsName p.name) ∧
      python.readFields? (python.signature [⟨"2nd", true, [], some "json"⟩,
          ⟨"a", false, [], some "number"⟩]) =
        some [⟨"a", false, "float"⟩, ⟨"2nd", true, "dict[str, Any]"⟩] ∧
      python.signature [⟨"2nd", true, [], some "json"⟩, ⟨"a", false, [], some "number"⟩] =
        python.signature [⟨"a", false, [], some "number"⟩, ⟨"2nd", true, [], some "json"⟩] := by
  have hps : ∀ p ∈ ([⟨"2nd", true, [], some "json"⟩, ⟨"a", false, [], some "number"⟩] :
      List Placeholder), Slot.IsName p.name := by decide
  have hqs : ∀ p ∈ ([⟨"a", false, [], some "number"⟩, ⟨"2nd", true, [], some "json"⟩] :
      List Placeholder), Slot.IsName p.name := by decide
  obtain ⟨⟨_, -, -, hread⟩, hsame⟩ := signature_tells_fields python
    [⟨"2nd", true, [], some "json"⟩, ⟨"a", false, [], some "number"⟩] hps
  exact ⟨hps, hqs, hread.trans (by decide), (hsame _ hqs).2 (by decide)⟩

end Target

end PromptPress

import PromptPress.Proofs.Target.Python

/-!
# Types of parameters read back

The type of a module's parameters is read without regard to how it is written: as a list of
parameters, each with its name, whether it may be left out, and the text of its type.  Types may hold
commas and brackets, so a type ends at the first comma or brace that stands outside brackets.

* `Python.dictionary?_signature`: what is read back are the placeholders, the required ones first.
* `Python.requires_iff`: of several entries of a name the last one counts, so a name has to be given
  if none of its forms is optional.
* `Python.call_eq_ok_iff`: a call returns if each name with a required form is given.

The two conditions are the same unless a name has forms of both kinds: then the type lets the name
be left out, and the call stops (`Python.typed_calls_return_iff`).
-/

namespace PromptPress

/-- A parameter as the type of a module's parameters has it. -/
structure Parameter where
  name : Text
  optional : Bool
  type : Text
  deriving DecidableEq, Repr

namespace Python

/-! ### Reading dictionaries -/

/-- The number of open brackets behind a character. -/
def depthBehind (depth : Nat) (c : Char) : Nat :=
  if c = '[' then depth + 1 else if c = ']' then depth - 1 else depth

/-- Does a type end before the character? -/
def endsBefore (depth : Nat) (c : Char) : Bool := depth == 0 && (c == ',' || c == '\x7d')

/-- Reads a type up to the first comma or closing brace outside brackets; `depth` brackets are
open. -/
def typeText (depth : Nat) : Text → Text × Text
  | [] => ([], [])
  | c :: s =>
    if endsBefore depth c then ([], c :: s)
    else
      let (t, r) := typeText (depthBehind depth c) s
      (c :: t, r)

/-- The type inside `NotRequired[...]`. -/
def notRequired? (t : Text) : Option Text :=
  (Text.dropFront? "NotRequired[" t).bind fun u =>
    if u.getLast? = some ']' then some u.dropLast else none

/-- The parameter of a name and what is written behind its colon. -/
def parameterOf (name type : Text) : Parameter :=
  match notRequired? type with
  | some t => ⟨name, true, t⟩
  | none => ⟨name, false, type⟩

/-- The characters that do not stand for themselves in a key between double quotes. -/
def doubleQuoteSigns : Text := ['"', '\\', '\n', '\r', '\x00']

/-- Reads an entry of a dictionary. -/
def pair? (s : Text) : Option (Parameter × Text) := do
  let s ← Text.dropFront? "\"" s
  let (name, s) ← Text.key? doubleQuoteSigns ('"' :: ": ") s
  some (parameterOf name (typeText 0 s).1, (typeText 0 s).2)

theorem length_typeText_le (depth : Nat) (s : Text) :
    (typeText depth s).2.length ≤ s.length := by
  induction s generalizing depth with
  | nil => exact le_rfl
  | cons c s ih =>
    rw [typeText]
    split_ifs
    · exact le_rfl
    · exact (ih _).trans (Nat.le_succ _)

theorem length_of_pair? {s r : Text} {p : Parameter} (h : pair? s = some (p, r)) :
    r.length < s.length := by
  obtain ⟨s₁, hquote, h⟩ := Option.bind_eq_some_iff.1 h
  obtain ⟨⟨n, s₂⟩, hkey, h⟩ := Option.bind_eq_some_iff.1 h
  obtain ⟨-, rfl⟩ := Prod.mk.inj (Option.some.inj h)
  have hone : ("\"" : String).toList.length = 1 := by decide
  have := Text.length_of_dropFront? hquote
  have := Text.length_of_word? hkey
  have := length_typeText_le 0 s₂
  omega

/-- Reads the entries of a dictionary, once its opening brace is passed. -/
def pairs? (s : Text) : Option (List Parameter) :=
  match _h : pair? s with
  | some (p, '\x7d' :: []) => some [p]
  | some (p, ',' :: ' ' :: r) => (pairs? r).map (p :: ·)
  | _ => none
termination_by s.length
decreasing_by
  have := length_of_pair? _h
  simp only [List.length_cons] at this
  omega

/-- Reads a dictionary of names and types. -/
def dictionary? : Text → Option (List Parameter)
  | '\x7b' :: '\x7d' :: [] => some []
  | '\x7b' :: s => pairs? s
  | _ => none

/-- Has a mapping of this type to have the name?  Of several entries of a name the last one
counts. -/
def requires (es : List Parameter) (name : Text) : Bool :=
  match es.reverse.find? fun e => e.name == name with
  | some e => !e.optional
  | none => false

/-! ### Reading the entries of placeholders -/

/-- The parameter that a placeholder is. -/
def parameter (p : Placeholder) : Parameter := ⟨p.name, p.optional, spellType p.type⟩

theorem spellType_eq (t : TypeTag) : ∃ v, spellType t = typeName v := by
  cases t with
  | known v => exact ⟨v, rfl⟩
  | unknown u => exact ⟨.string, rfl⟩

/-- Does a type go on to its end, with all brackets closed there? -/
def isClosed (depth : Nat) : Text → Bool
  | [] => depth == 0
  | c :: s => !endsBefore depth c && isClosed (depthBehind depth c) s

theorem typeText_append {depth : Nat} {t : Text} (ht : isClosed depth t = true) {c : Char}
    (hc : c = ',' ∨ c = '\x7d') (r : Text) : typeText depth (t ++ c :: r) = (t, c :: r) := by
  induction t generalizing depth with
  | nil =>
    have hd : depth = 0 := by simpa [isClosed] using ht
    rw [List.nil_append, typeText, if_pos (by simpa [endsBefore, hd] using hc)]
  | cons d t ih =>
    obtain ⟨hd, ht⟩ := Bool.and_eq_true_iff.1 ht
    rw [List.cons_append, typeText, if_neg (by simpa using hd), ih ht]

theorem isClosed_typeName (v : ValueType) : isClosed 0 (typeName v) = true ∧
    isClosed 0 ("NotRequired[" ++ typeName v ++ "]") = true := by
  cases v <;> decide

theorem notRequired?_typeName (v : ValueType) : notRequired? (typeName v) = none ∧
    notRequired? ("NotRequired[" ++ typeName v ++ "]") = some (typeName v) := by
  cases v <;> decide

/-- **The entry of a placeholder is read back**, before a comma or a closing brace. -/
theorem pair?_field {p : Placeholder} (hn : Slot.IsName p.name) {c : Char}
    (hc : c = ',' ∨ c = '\x7d') (r : Text) :
    pair? (field p ++ c :: r) = some (parameter p, c :: r) := by
  obtain ⟨v, hv⟩ := spellType_eq p.type
  obtain ⟨hplain, hwrapped⟩ := isClosed_typeName v
  obtain ⟨hnone, hsome⟩ := notRequired?_typeName v
  have hcolon : (": " : String).toList = [':', ' '] := by decide
  -- whatever is written behind the colon, the name in front of it is read first
  have hentry : ∀ t : Text, pair? (Json.string true p.name ++ ": " ++ t) =
      some (parameterOf p.name (typeText 0 t).1, (typeText 0 t).2) := by
    intro t
    have hquote : Text.dropFront? "\"" (Json.string true p.name ++ ": " ++ t) =
        some (p.name ++ ('"' :: ": " ++ t)) := by
      rw [Text.dropFront?_eq_some, Json.string_of_isName hn]
      simp [hcolon]
    have hkey : Text.key? doubleQuoteSigns ('"' :: ": ") (p.name ++ ('"' :: ": " ++ t)) =
        some (p.name, t) := Text.key?_append (by decide) (by decide) hn ": " t
    simp only [pair?, hquote, hkey, Option.bind_eq_bind, Option.bind_some]
  rw [parameter, hv]
  cases ho : p.optional with
  | true =>
    have hf : field p = Json.string true p.name ++ ": " ++ ("NotRequired[" ++ typeName v ++ "]") := by
      simp only [field, hv, ho, if_true]
    rw [hf, List.append_assoc, hentry, typeText_append hwrapped hc]
    simp only [parameterOf, hsome]
  | false =>
    have hf : field p = Json.string true p.name ++ ": " ++ typeName v := by
      simp [field, hv, ho]
    rw [hf, List.append_assoc, hentry, typeText_append hplain hc]
    simp only [parameterOf, hnone]

theorem pairs?_last {p : Placeholder} (hn : Slot.IsName p.name) :
    pairs? (field p ++ ['\x7d']) = some [parameter p] := by
  rw [pairs?]
  split <;> simp_all [pair?_field hn (.inr rfl) []]

theorem pairs?_cons {p : Placeholder} (hn : Slot.IsName p.name) (r : Text) :
    pairs? (field p ++ ',' :: ' ' :: r) = (pairs? r).map (parameter p :: ·) := by
  rw [pairs?]
  split <;> simp_all [pair?_field hn (.inl rfl) (' ' :: r)]

theorem pairs?_joinWith {ps : List Placeholder} (hne : ps ≠ [])
    (hps : ∀ p ∈ ps, Slot.IsName p.name) :
    pairs? (Text.joinWith ", " (ps.map field) ++ ['\x7d']) = some (ps.map parameter) :=
  Text.read_joinWith hne (fun p hp => pairs?_last (hps p hp)) fun p hp => pairs?_cons (hps p hp)

/-- **The type of the parameters is read back** as the placeholders, the required ones first. -/
theorem dictionary?_signature {ps : List Placeholder} (hps : ∀ p ∈ ps, Slot.IsName p.name) :
    dictionary? (signature ps) = some ((Placeholder.order ps).map parameter) := by
  cases ps with
  | nil => decide
  | cons p ps =>
    have hne : Placeholder.order (p :: ps) ≠ [] :=
      List.ne_nil_of_mem (Placeholder.mem_order.2 List.mem_cons_self)
    have hread := pairs?_joinWith hne fun q hq => hps q (Placeholder.mem_order.1 hq)
    have hfirst : ∃ t, Text.joinWith ", " ((Placeholder.order (p :: ps)).map field) = '"' :: t := by
      obtain ⟨q, qs, hq⟩ := List.exists_cons_of_ne_nil hne
      have hf : ∃ t, field q = '"' :: t := ⟨_, rfl⟩
      obtain ⟨t, ht⟩ := hf
      rw [hq, List.map_cons, ht]
      cases qs with
      | nil => exact ⟨t, rfl⟩
      | cons _ _ => exact ⟨_, rfl⟩
    obtain ⟨t, ht⟩ := hfirst
    rw [signature, if_neg (by simp)]
    rw [ht] at hread ⊢
    exact hread

/-! ### Which names are required -/

theorem requires_append (as bs : List Parameter) (n : Text) :
    requires (as ++ bs) n =
      if ∃ e ∈ bs, e.name = n then requires bs n else requires as n := by
  unfold requires
  rw [List.reverse_append, List.find?_append]
  cases h : bs.reverse.find? fun e => e.name == n with
  | some e =>
    have he : ∃ e ∈ bs, e.name = n :=
      ⟨e, by simpa using List.mem_of_find?_eq_some h, by simpa using List.find?_some h⟩
    rw [if_pos he, Option.some_or]
  | none =>
    have hn : ¬ ∃ e ∈ bs, e.name = n := by
      rintro ⟨e, he, rfl⟩
      exact List.find?_eq_none.1 h e (List.mem_reverse.2 he) (beq_self_eq_true _)
    rw [if_neg hn, Option.none_or]

/-- Where all entries are of one kind, a name is required if there is one for it, and of that
kind. -/
theorem requires_eq_true_iff {es : List Parameter} {o : Bool} (ho : ∀ e ∈ es, e.optional = o)
    {n : Text} : requires es n = true ↔ o = false ∧ ∃ e ∈ es, e.name = n := by
  unfold requires
  cases h : es.reverse.find? fun e => e.name == n with
  | some e =>
    have hm : e ∈ es := by simpa using List.mem_of_find?_eq_some h
    have hn : e.name = n := by simpa using List.find?_some h
    dsimp only
    rw [ho e hm]
    constructor
    · intro hnot
      exact ⟨by simpa using hnot, e, hm, hn⟩
    · rintro ⟨rfl, -⟩
      rfl
  | none =>
    constructor
    · intro hf
      simp at hf
    · rintro ⟨-, e, he, rfl⟩
      exact absurd (beq_self_eq_true e.name) (List.find?_eq_none.1 h e (List.mem_reverse.2 he))

/-- **A name is required if it is declared and none of its forms is optional.** -/
theorem requires_iff {ps : List Placeholder} {n : Text} :
    requires ((Placeholder.order ps).map parameter) n = true ↔
      (∃ p ∈ ps, p.name = n) ∧ ∀ p ∈ ps, p.name = n → p.optional = false := by
  have hreq : ∀ e ∈ (ps.filter (! ·.optional)).map parameter, e.optional = false := by
    intro e he
    obtain ⟨p, hp, rfl⟩ := List.mem_map.1 he
    simpa [parameter] using (List.mem_filter.1 hp).2
  have hopt : ∀ e ∈ (ps.filter (·.optional)).map parameter, e.optional = true := by
    intro e he
    obtain ⟨p, hp, rfl⟩ := List.mem_map.1 he
    exact (List.mem_filter.1 hp).2
  -- the optional forms come last, so one of them decides
  have hlast : (∃ e ∈ (ps.filter (·.optional)).map parameter, e.name = n) ↔
      ∃ p ∈ ps, p.optional = true ∧ p.name = n := by
    simp [parameter, and_assoc]
  have hfirst : (∃ e ∈ (ps.filter (! ·.optional)).map parameter, e.name = n) ↔
      ∃ p ∈ ps, p.optional = false ∧ p.name = n := by
    simp [parameter, and_assoc]
  rw [Placeholder.order, List.map_append, requires_append]
  simp only [hlast]
  split_ifs with h
  · rw [requires_eq_true_iff hopt]
    obtain ⟨p, hp, ho, hn⟩ := h
    constructor
    · rintro ⟨hf, -⟩
      simp at hf
    · rintro ⟨-, hall⟩
      rw [hall p hp hn] at ho
      simp at ho
  · rw [requires_eq_true_iff hreq, hfirst]
    have hnone : ∀ p ∈ ps, p.name = n → p.optional = false := by
      intro p hp hn
      by_contra ho
      exact h ⟨p, hp, by simpa using ho, hn⟩
    constructor
    · rintro ⟨-, p, hp, -, hn⟩
      exact ⟨⟨p, hp, hn⟩, hnone⟩
    · rintro ⟨⟨p, hp, hn⟩, -⟩
      exact ⟨rfl, p, hp, hnone p hp hn, hn⟩

/-! ### Which calls return -/

theorem value_of_eq_ok_iff {values : Text → Option Text} {p : Placeholder} :
    (∃ t, (Field.of p).value values = .ok t) ↔ (p.optional = false → (values p.name).isSome) := by
  constructor
  · rintro ⟨t, ht⟩ ho
    rw [Field.of, ho, if_neg (by decide), Field.value] at ht
    cases hv : values p.name with
    | some v => rfl
    | none => simp [hv] at ht
  · intro h
    exact ⟨_, Field.value_of h⟩

/-- **A call returns if and only if** every name with a required form is given. -/
theorem call_eq_ok_iff {signature s : Text} {values : Text → Option Text} :
    (∃ t, call ⟨signature, (Template.segments s (Placeholder.ofText s)).map (Run.map Field.of)⟩
      values = .ok t) ↔
      ∀ p ∈ Placeholder.ofText s, p.optional = false → (values p.name).isSome := by
  rw [call, Run.fillAll_eq_ok_iff]
  dsimp only
  rw [show Run.map Field.of = Run.bimap id Field.of from rfl, Run.items_map, List.forall_mem_map]
  simp only [value_of_eq_ok_iff, Run.mem_items, Template.item_mem_segments_iff]

/-- A call that does not return stops at a required name that is not given. -/
theorem missing_of_call_eq_error {signature s : Text} {values : Text → Option Text} {e : Error}
    (h : call ⟨signature, (Template.segments s (Placeholder.ofText s)).map (Run.map Field.of)⟩
      values = .error e) :
    ∃ p ∈ Placeholder.ofText s, p.optional = false ∧ values p.name = none ∧
      e = .fault .key p.name := by
  obtain ⟨f, hf, he⟩ := Run.exists_item_of_fillAll_eq_error h
  dsimp only at hf
  rw [show Run.map Field.of = Run.bimap id Field.of from rfl, Run.items_map] at hf
  obtain ⟨p, hp, rfl⟩ := List.mem_map.1 hf
  refine ⟨p, Template.item_mem_segments_iff.1 (Run.mem_items.1 hp), ?_⟩
  unfold Field.of at he
  split_ifs at he with ho
  · simp [Field.value] at he
  · cases hv : values p.name with
    | some v => simp [Field.value, hv] at he
    | none =>
      have hkey : Error.fault .key p.name = e := by simpa [Field.value, hv] using he
      exact ⟨by simpa using ho, rfl, hkey.symm⟩

end Python

/-- Is a name required in one of its forms and optional in another? -/
def Placeholder.HasBothForms (ps : List Placeholder) (n : Text) : Prop :=
  (∃ p ∈ ps, p.name = n ∧ p.optional = false) ∧ ∃ p ∈ ps, p.name = n ∧ p.optional = true

namespace Python

/-- **The type of a module fits its calls if and only if no name has forms of both kinds.**  The
module and the type of its parameters are read back; a call returns exactly if the names with a
required form are given, and stops at one of them otherwise.  The type asks for all these names just
where none of them has an optional form as well. -/
theorem typed_calls_return_iff (s : Text) (hne : Placeholder.ofText s ≠ []) :
    ∃ m es, frame.read? (Artifact.ofText .python s (Placeholder.ofText s)).code = some m ∧
      dictionary? m.signature = some es ∧
      (∀ values : Text → Option Text, (∃ t, call m values = .ok t) ↔
        ∀ p ∈ Placeholder.ofText s, p.optional = false → (values p.name).isSome) ∧
      (∀ (values : Text → Option Text) (e : Error), call m values = .error e →
        ∃ p ∈ Placeholder.ofText s, p.optional = false ∧ values p.name = none ∧
          e = .fault .key p.name) ∧
      ((∀ values : Text → Option Text, (∀ n, requires es n = true → (values n).isSome) →
          ∃ t, call m values = .ok t) ↔
        ∀ n, ¬ Placeholder.HasBothForms (Placeholder.ofText s) n) := by
  have hps := fun p (hp : p ∈ Placeholder.ofText s) => Placeholder.isName_of_mem_ofText hp
  refine ⟨_, _, read?_code hne hps, dictionary?_signature hps, fun _ => call_eq_ok_iff,
    fun _ _ => missing_of_call_eq_error, ?_⟩
  simp only [call_eq_ok_iff, requires_iff]
  constructor
  · rintro h n ⟨⟨p, hp, rfl, hpo⟩, q, hq, hqn, hqo⟩
    -- the type lets the name be left out because of its optional form
    have hleft := h (fun k => if k = p.name then none else some []) ?_ p hp hpo
    · simp at hleft
    · rintro k ⟨-, hk⟩
      have hkp : k ≠ p.name := by
        rintro rfl
        rw [hk q hq hqn] at hqo
        simp at hqo
      simp [hkp]
  · intro h values hv p hp ho
    refine hv p.name ⟨⟨p, hp, rfl⟩, fun q hq hqn => ?_⟩
    by_contra hqo
    exact h p.name ⟨⟨p, hp, rfl, ho⟩, q, hq, hqn, by simpa using hqo⟩

/-- A name that is required first and optional later may be left out, and is missing then. -/
theorem typed_calls_stop_at_both_forms :
    ∃ m es, frame.read? (Artifact.ofText .python "\x7bx\x7d and \x7bx?\x7d"
        (Placeholder.ofText "\x7bx\x7d and \x7bx?\x7d")).code = some m ∧
      dictionary? m.signature = some es ∧
      ¬ ∀ values : Text → Option Text, (∀ n, requires es n = true → (values n).isSome) →
        ∃ t, call m values = .ok t := by
  obtain ⟨m, es, hm, hes, -, -, hiff⟩ :=
    typed_calls_return_iff "\x7bx\x7d and \x7bx?\x7d" (by decide)
  refine ⟨m, es, hm, hes, fun h => hiff.1 h "x" ?_⟩
  exact ⟨⟨{ name := "x", raw := "\x7bx\x7d" }, by decide, rfl, rfl⟩,
    { name := "x", optional := true, raw := "\x7bx?\x7d" }, by decide, rfl, rfl⟩

end Python

end PromptPress

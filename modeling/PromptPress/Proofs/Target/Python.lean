import PromptPress.Proofs.Template.Frame
import PromptPress.Proofs.Target.Escape

/-!
# Python modules read back

This module has the rules by which Python reads a string between double quotes (`stringUnit?`) and
a formatted one (`formatted`), and what it means to call the function of a module with one (`call`).
They are stated without regard to how modules are written.

The literal text of a template is read back character by character (`reads_escape`) and each
placeholder as its replacement field (`reads_substitution`), whatever follows.  So a module is read
back as the segments that it was made from, and its function puts the values in their places.
-/

namespace PromptPress.Python

/-! ### Reading strings -/

/-- What a replacement field asks for: `values['n']`, or `values.get('n', '')`. -/
inductive Field where
  | required (name : Text)
  | optional (name : Text)
  deriving DecidableEq, Repr

/-- The characters that do not stand for themselves in a key between single quotes. -/
def keySigns : Text := ['\'', '"', '\\', '{', '}', '\n', '\r', '\x00']

/-- Reads a replacement field, once its opening brace is passed. -/
def field? (s : Text) : Option (Field × Text) :=
  match Text.dropFront? "values['" s with
  | some s => (Text.key? keySigns ('\'' :: "]\x7d") s).map fun (n, r) => (.required n, r)
  | none =>
    match Text.dropFront? "values.get('" s with
    | some s => (Text.key? keySigns ('\'' :: ", '')\x7d") s).map fun (n, r) => (.optional n, r)
    | none => none

/-- What the escapes of one character stand for. -/
def simpleEscapes : List (Char × Text) :=
  [('\n', []), ('\\', ['\\']), ('\'', ['\'']), ('"', ['"']), ('a', ['\x07']), ('b', ['\x08']),
    ('f', ['\x0c']), ('n', ['\n']), ('r', ['\r']), ('t', ['\t']), ('v', ['\x0b'])]

/-- An octal digit. -/
def isOctalDigit (c : Char) : Bool := '0' ≤ c && c ≤ '7'

/-- Reads the code of a character in up to three octal digits. -/
def octal? (s : Text) : Option (Text × Text) :=
  let ds := (s.take 3).takeWhile isOctalDigit
  (Escape.char? (ds.foldl (fun n c => 8 * n + (c.toNat - 48)) 0)).map fun c =>
    ([c], s.drop ds.length)

/-- Reads an escape, once its backslash is passed.  A backslash that begins no escape stands for
itself.  Characters by name are not read here. -/
def escape? : Text → Option (Text × Text)
  | [] => none
  | c :: s =>
    match simpleEscapes.lookup c with
    | some t => some (t, s)
    | none =>
      if c = 'x' then Escape.code? 2 s
      else if c = 'u' then Escape.code? 4 s
      else if c = 'U' then Escape.code? 8 s
      else if c = 'N' then none
      else if isOctalDigit c then octal? (c :: s)
      else some (['\\'], c :: s)

/-- Reads an escape or a character of a string between double quotes.  The string stands on one
line. -/
def stringUnit? {α : Type} : Text → Option (List (Atom α) × Text)
  | [] => none
  | c :: s =>
    if c = '\\' then (escape? s).map fun (t, r) => (t.map .char, r)
    else if c = '\n' ∨ c = '\r' ∨ c = '\x00' then none
    else some ([.char c], s)

/-- Reads a unit of a formatted string: a doubled brace, a replacement field, or what any string
has. -/
def formattedUnit? : Text → Option (List (Atom Field) × Text)
  | '{' :: '{' :: s => some ([.char '{'], s)
  | '}' :: '}' :: s => some ([.char '}'], s)
  | '{' :: s => (field? s).map fun (f, r) => ([.item f], r)
  | '}' :: _ => none
  | s => stringUnit? s

theorem length_of_field? {s r : Text} {f : Field} (h : field? s = some (f, r)) :
    r.length ≤ s.length := by
  unfold field? at h
  split at h
  · rename_i s' hd
    obtain ⟨⟨n, r'⟩, hk, he⟩ := Option.map_eq_some_iff.1 h
    obtain ⟨-, rfl⟩ : Field.required n = f ∧ r' = r := by simpa using he
    have := Text.length_of_word? hk
    have := Text.length_of_dropFront? hd
    omega
  · split at h
    · rename_i s' hd
      obtain ⟨⟨n, r'⟩, hk, he⟩ := Option.map_eq_some_iff.1 h
      obtain ⟨-, rfl⟩ : Field.optional n = f ∧ r' = r := by simpa using he
      have := Text.length_of_word? hk
      have := Text.length_of_dropFront? hd
      omega
    · simp at h

theorem length_of_octal? {s t r : Text} (h : octal? s = some (t, r)) : r.length ≤ s.length := by
  obtain ⟨c, -, he⟩ := Option.map_eq_some_iff.1 h
  obtain ⟨-, rfl⟩ := Prod.mk.inj he
  rw [List.length_drop]
  omega

theorem length_of_escape? {s t r : Text} (h : escape? s = some (t, r)) :
    r.length ≤ s.length := by
  cases s with
  | nil => simp [escape?] at h
  | cons c s =>
    simp only [escape?] at h
    have hcode : ∀ {w : Nat}, Escape.code? w s = some (t, r) → r.length ≤ (c :: s).length :=
      fun hc => (Escape.length_of_code? hc).trans (Nat.le_succ _)
    split at h
    · obtain ⟨-, rfl⟩ := Prod.mk.inj (Option.some.inj h)
      exact Nat.le_succ _
    · split_ifs at h
      · exact hcode h
      · exact hcode h
      · exact hcode h
      · exact length_of_octal? h
      · obtain ⟨-, rfl⟩ := Prod.mk.inj (Option.some.inj h)
        exact le_rfl

theorem length_of_stringUnit? {α : Type} {s r : Text} {as : List (Atom α)}
    (h : stringUnit? s = some (as, r)) : r.length < s.length := by
  cases s with
  | nil => simp [stringUnit?] at h
  | cons c s =>
    simp only [stringUnit?] at h
    split_ifs at h
    · obtain ⟨⟨t, r'⟩, he, hr⟩ := Option.map_eq_some_iff.1 h
      obtain ⟨-, rfl⟩ := Prod.mk.inj hr
      exact Nat.lt_succ_of_le (length_of_escape? he)
    · obtain ⟨-, rfl⟩ := Prod.mk.inj (Option.some.inj h)
      exact Nat.lt_succ_self _

/-- How formatted strings between double quotes are read. -/
def formatted : Quotation Field where
  closing := '"'
  unit? := formattedUnit?
  shorter {s as r} h := by
    unfold formattedUnit? at h
    split at h
    · obtain ⟨-, rfl⟩ := Prod.mk.inj (Option.some.inj h)
      simp only [List.length_cons]
      omega
    · obtain ⟨-, rfl⟩ := Prod.mk.inj (Option.some.inj h)
      simp only [List.length_cons]
      omega
    · obtain ⟨⟨f, r'⟩, hf, hr⟩ := Option.map_eq_some_iff.1 h
      obtain ⟨-, rfl⟩ := Prod.mk.inj hr
      exact Nat.lt_succ_of_le (length_of_field? hf)
    · simp at h
    · exact length_of_stringUnit? h

/-! ### Literal text -/

theorem stringUnit?_escape {α : Type} {d : Char} {s r : Text} (h : escape? s = some ([d], r)) :
    stringUnit? ('\\' :: s) = some ([(.char d : Atom α)], r) := by
  rw [stringUnit?, if_pos rfl, h]
  rfl

/-- **The spelling of a character is one unit of a string**, and stands for that character.  It does
not begin with a quote, and begins with a brace only if it is the spelling of one. -/
theorem stringUnit?_escapeChar {α : Type} (c : Char) (r : Text) :
    ∃ d w, escapeChar c = d :: w ∧ d ≠ '"' ∧ (d = '\\' ∨ d = c) ∧
      stringUnit? (d :: (w ++ r)) = some ([(.char c : Atom α)], r) := by
  unfold escapeChar
  split_ifs with h₁ h₂ h₃ h₄ h₅
  · refine ⟨'\\', [c], rfl, by decide, .inl rfl, ?_⟩
    rcases h₁ with rfl | rfl <;> exact stringUnit?_escape rfl
  · subst h₂
    exact ⟨'\\', ['n'], rfl, by decide, .inl rfl, stringUnit?_escape rfl⟩
  · subst h₃
    exact ⟨'\\', ['r'], rfl, by decide, .inl rfl, stringUnit?_escape rfl⟩
  · subst h₄
    exact ⟨'\\', ['t'], rfl, by decide, .inl rfl, stringUnit?_escape rfl⟩
  · refine ⟨'\\', 'x' :: Text.hex 2 c.toNat, rfl, by decide, .inl rfl, ?_⟩
    have hc : c.toNat < 16 ^ 2 := by omega
    exact stringUnit?_escape (Escape.code?_hex (by decide) hc r)
  · have hnull : c ≠ '\x00' := by
      rintro rfl
      exact h₅ (.inl (by decide))
    obtain ⟨hb, hq⟩ := not_or.1 h₁
    refine ⟨c, [], rfl, hq, .inr rfl, ?_⟩
    rw [List.nil_append, stringUnit?, if_neg hb, if_neg (by simp [h₂, h₃, hnull])]

/-- A character that is no brace is a unit of a formatted string if it is one of a string. -/
theorem formattedUnit?_eq {c : Char} (ho : c ≠ '{') (hc : c ≠ '}') (s : Text) :
    formattedUnit? (c :: s) = stringUnit? (c :: s) := by
  unfold formattedUnit?
  split <;> simp_all

theorem reads_escapeLiteralChar (c : Char) (r : Text) :
    formatted.Reads (escapeLiteralChar c) [.char c] r := by
  unfold escapeLiteralChar
  split_ifs with h
  · rcases h with rfl | rfl <;> exact Quotation.Reads.unit (by decide) rfl
  · obtain ⟨d, w, he, hq, hd, hu⟩ := stringUnit?_escapeChar c r
    rw [he]
    refine Quotation.Reads.unit hq ?_
    have hb : d ≠ '{' ∧ d ≠ '}' := by
      rcases hd with rfl | rfl
      · decide
      · exact not_or.1 h
    exact (formattedUnit?_eq hb.1 hb.2 _).trans hu

/-- **Literal text is read back**, whatever follows it. -/
theorem reads_escape (t r : Text) : formatted.Reads (escape t) (t.map .char) r := by
  rw [← List.flatMap_singleton' (t.map Atom.char), List.flatMap_map]
  exact Quotation.Reads.flatMap reads_escapeLiteralChar t r

/-! ### Placeholders -/

namespace Field

/-- What a replacement field asks for in the place of a placeholder. -/
def of (p : Placeholder) : Field := if p.optional then optional p.name else required p.name

/-- What follows the opening brace of a replacement field. -/
def written : Field → Text
  | required n => "values['" ++ (n ++ '\'' :: "]\x7d")
  | optional n => "values.get('" ++ (n ++ '\'' :: ", '')\x7d")

/-- The name that a replacement field asks for. -/
def name : Field → Text
  | required n => n
  | optional n => n

@[simp] theorem name_of (p : Placeholder) : (of p).name = p.name := by
  unfold of
  split <;> rfl

end Field

theorem substitution_eq (p : Placeholder) : substitution p = '{' :: (Field.of p).written := by
  unfold substitution Field.of
  split_ifs
  · have hg : ("\x7bvalues.get('" : String).toList = '{' :: ("values.get('" : String).toList := by
      decide
    have he : ("', '')\x7d" : String).toList = '\'' :: (", '')\x7d" : String).toList := by decide
    rw [hg, he, List.append_assoc]
    rfl
  · have hg : ("\x7bvalues['" : String).toList = '{' :: ("values['" : String).toList := by decide
    have he : ("']\x7d" : String).toList = '\'' :: ("]\x7d" : String).toList := by decide
    rw [hg, he, List.append_assoc]
    rfl

theorem field?_written {f : Field} (hn : Slot.IsName f.name) (r : Text) :
    field? (f.written ++ r) = some (f, r) := by
  cases f with
  | required n =>
    have hn' : Slot.IsName n := hn
    have hd : Text.dropFront? "values['" ((Field.required n).written ++ r) =
        some (n ++ ('\'' :: "]\x7d" ++ r)) := by
      unfold Field.written
      rw [Text.dropFront?_eq_some, List.append_assoc, List.append_assoc]
    rw [field?, hd]
    dsimp only
    rw [Text.key?_append (by decide) (by decide) hn']
    rfl
  | optional n =>
    have hn' : Slot.IsName n := hn
    have hr : Text.dropFront? "values['" ((Field.optional n).written ++ r) = none := rfl
    have hd : Text.dropFront? "values.get('" ((Field.optional n).written ++ r) =
        some (n ++ ('\'' :: ", '')\x7d" ++ r)) := by
      unfold Field.written
      rw [Text.dropFront?_eq_some, List.append_assoc, List.append_assoc]
    rw [field?, hr]
    dsimp only
    rw [hd]
    dsimp only
    rw [Text.key?_append (by decide) (by decide) hn']
    rfl

/-- **The replacement field of a placeholder is read back**, whatever follows it. -/
theorem reads_substitution {p : Placeholder} (hn : Slot.IsName p.name) (r : Text) :
    formatted.Reads (substitution p) [.item (.of p)] r := by
  rw [substitution_eq]
  refine Quotation.Reads.unit (by decide) ?_
  have hf := field?_written (f := .of p) (by rwa [Field.name_of]) r
  have hv : ∃ t, (Field.of p).written ++ r = 'v' :: t := by
    unfold Field.of
    split_ifs <;> exact ⟨_, rfl⟩
  obtain ⟨t, ht⟩ := hv
  change formattedUnit? ('{' :: ((Field.of p).written ++ r)) = _
  rw [ht] at hf ⊢
  change (field? ('v' :: t)).map _ = _
  rw [hf]
  rfl

/-! ### Modules -/

/-- How a module with a template is laid out. -/
def frame : Frame Field where
  opening := header ++ "\n" ++ typingImport ++ "\n\n" ++ "TemplateVars = TypedDict(\"TemplateVars\", "
  bridge := "\n\n\ndef render(values: TemplateVars) -> str:\n    return f\""
  quotation := formatted
  ending := "\n"

theorem functionModule_eq (body signature : Text) :
    functionModule body signature = frame.write body signature := by
  have hp : (")" : String).toList = [')'] := rfl
  have hq : ("\"\n" : String).toList = '"' :: ("\n" : String).toList := by decide
  unfold functionModule varsDefinition Frame.write frame formatted
  simp only [hp, hq, List.append_assoc, List.cons_append, List.nil_append]

theorem paren_notMem_field {p : Placeholder} (hn : Slot.IsName p.name) : ')' ∉ field p := by
  have ht : ')' ∉ spellType p.type := by
    cases p.type with
    | known t => cases t <;> decide
    | unknown t => exact (by decide : ')' ∉ typeName .string)
  have hname : ')' ∉ p.name := hn.notMem (by decide)
  rw [field, Json.string_of_isName hn]
  split_ifs <;> simp [hname, ht]

theorem paren_notMem_signature {ps : List Placeholder} (hps : ∀ p ∈ ps, Slot.IsName p.name) :
    ')' ∉ signature ps :=
  Placeholder.notMem_signature ['\x7b'] ", " ['\x7d'] (by decide) fun p hp =>
    paren_notMem_field (hps p hp)

/-! ### Templates -/

/-- **The body of a module is read back** segment by segment, up to its closing quote. -/
theorem runs?_body {s : Text} {ps : List Placeholder} (hps : ∀ p ∈ ps, Slot.IsName p.name)
    (rest : Text) : formatted.runs? (Artifact.body .python s ps ++ '"' :: rest) =
      some ((Template.segments s ps).map (Run.map Field.of), rest) := by
  refine Artifact.runs?_body .python (fun _ => True) (fun _ ht => ht) ?_ ?_ s trivial
  · intro p hp r
    exact ⟨reads_substitution (hps p hp) r, trivial⟩
  · intro t r _
    exact reads_escape t r

theorem read?_code {s : Text} {ps : List Placeholder} (hne : ps ≠ [])
    (hps : ∀ p ∈ ps, Slot.IsName p.name) : frame.read? (Artifact.ofText .python s ps).code =
      some ⟨signature ps, (Template.segments s ps).map (Run.map Field.of)⟩ :=
  Artifact.read?_code hne functionModule_eq (paren_notMem_signature hps) (runs?_body hps _)

/-! ### Calling -/

/-- What a replacement field puts in its place. -/
def Field.value (values : Text → Option Text) : Field → Except Error Text
  | required n =>
    match values n with
    | some v => .ok v
    | none => .error (.fault .key n)
  | optional n => .ok ((values n).getD [])

/-- Calls the function of a module with values that are formatted already. -/
def call (m : Module Field) (values : Text → Option Text) : Except Error Text :=
  Run.fillAll (Field.value values) m.template

theorem Field.value_of {values : Text → Option Text} {p : Placeholder}
    (h : p.optional = false → (values p.name).isSome) :
    (of p).value values = .ok ((values p.name).getD []) := by
  unfold of
  split_ifs with ho
  · rfl
  · obtain ⟨v, hv⟩ := Option.isSome_iff_exists.1 (h (by simpa using ho))
    rw [value, hv]
    rfl

/-- A module's function puts the values in the places of the placeholders, if none that is required
is missing. -/
theorem call_of {values : Text → Option Text} {signature : Text} {gs : List Template.Segment}
    (h : ∀ p ∈ Run.items gs, p.optional = false → (values p.name).isSome) :
    call ⟨signature, gs.map (Run.map Field.of)⟩ values =
      .ok (gs.flatMap (Run.spell id fun p => (values p.name).getD [])) := by
  have hval : ∀ f ∈ Run.items (gs.map (Run.map Field.of)),
      f.value values = .ok ((values f.name).getD []) := by
    intro f hf
    rw [show Run.map Field.of = Run.bimap id Field.of from rfl, Run.items_map] at hf
    obtain ⟨p, hp, rfl⟩ := List.mem_map.1 hf
    rw [Field.value_of (h p hp), Field.name_of]
  rw [call, Run.fillAll_eq_ok hval, List.flatMap_map]
  refine congrArg _ (List.flatMap_congr fun g _ => ?_)
  rw [Run.map, Run.spell_bimap]
  simp only [Function.comp_def, Field.name_of, id]
  rfl

/-- **Calling a module's function is rendering its artifact**, and what stops the one stops the
other. -/
theorem call_eq_render (values : List (Text × Json)) (signature s : Text) (ps : List Placeholder) :
    call ⟨signature, (Template.segments s ps).map (Run.map Field.of)⟩
      (fun n => (Template.valueOf? values n).map Json.shown) =
    (Artifact.ofText .python s ps).render values := by
  unfold call Artifact.render Artifact.segments Artifact.ofText
  dsimp only
  induction Template.segments s ps with
  | nil => rfl
  | cons g gs ih =>
    cases g with
    | literal t => exact congrArg (Except.map (t ++ ·)) ih
    | item p =>
      have hp : (Field.of p).value (fun n => (Template.valueOf? values n).map Json.shown) =
          Template.fillSegment values (.item p) := by
        cases ho : p.optional <;> cases hv : Template.valueOf? values p.name <;>
          simp [Field.of, Field.value, Template.fillSegment, ho, hv]
      rw [List.map_cons, Template.fillAll, ← hp, ← ih]
      rfl

/-- **The module of a template is right.**  Its literal is read up to the closing quote and no
further, as the segments of the template; and its function returns the text with the formatted
values in the places of the placeholders, nothing where an optional one is left out. -/
theorem code_reads_and_renders {V : Type} (format : V → Text) (values : Text → Option V) (s : Text)
    (ps : List Placeholder) (hne : ps ≠ []) (hps : ∀ p ∈ ps, Slot.IsName p.name)
    (hv : ∀ p ∈ Run.items (Template.segments s ps), p.optional = false →
      (values p.name).isSome) :
    (∀ rest, formatted.runs? (Artifact.body .python s ps ++ '"' :: rest) =
      some ((Template.segments s ps).map (Run.map Field.of), rest)) ∧
    ∃ m, frame.read? (Artifact.ofText .python s ps).code = some m ∧
      m.template = (Template.segments s ps).map (Run.map Field.of) ∧
      call m (fun n => (values n).map format) = .ok ((Template.segments s ps).flatMap
        (Run.spell id fun p => ((values p.name).map format).getD [])) := by
  refine ⟨runs?_body hps, _, read?_code hne hps, rfl, call_of fun p hp ho => ?_⟩
  simpa using hv p hp ho

/-- Quotes, braces and backslashes beside placeholders, and an optional one left out. -/
theorem code_reads_and_renders_signs :
    ∃ m, frame.read? (Artifact.ofText .python "\"\x7b\x7bname\x7d\x7d\\N\x7bkept\x7d\\\x7bnote?\x7d"
        [{ name := "name", raw := "\x7bname\x7d" },
          { name := "note", optional := true, raw := "\x7bnote?\x7d" }]).code = some m ∧
      call m (fun n => if n = "name".toList then some "\"'".toList else none) =
        .ok "\"\x7b\"'\x7d\\N\x7bkept\x7d\\" := by
  obtain ⟨-, m, hm, -, hc⟩ := code_reads_and_renders id
    (fun n => if n = "name".toList then some "\"'".toList else none)
    "\"\x7b\x7bname\x7d\x7d\\N\x7bkept\x7d\\\x7bnote?\x7d"
    [{ name := "name", raw := "\x7bname\x7d" },
      { name := "note", optional := true, raw := "\x7bnote?\x7d" }]
    (by decide) (by decide) (by decide)
  simp only [Option.map_id] at hc
  exact ⟨m, hm, hc.trans (congrArg Except.ok (by decide))⟩

end PromptPress.Python

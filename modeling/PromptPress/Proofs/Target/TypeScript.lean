import PromptPress.Proofs.Template.Frame
import PromptPress.Proofs.Target.Escape

/-!
# TypeScript modules read back

This module has the rules by which ECMAScript reads a template literal (`templateUnit?`), and what
it means to call the function of a module with one (`call`).  They are stated without regard to how
modules are written.

Each character of literal text is read back but for line ends: a carriage return in a template
literal reads as a line feed, and so do a carriage return and a line feed together (`lineFeeds`).
So a literal is read back only in front of what does not begin with a line feed (`reads_escape`),
which neither a substitution nor the closing quote does.
-/

namespace PromptPress.TypeScript

/-! ### Reading template literals -/

/-- What a substitution asks for: `vars.n`, or `vars["n"]`. -/
inductive Access where
  | member (name : Text)
  | element (name : Text)
  deriving DecidableEq, Repr

/-- Does a text start with a digit? -/
def startsWithDigit : Text → Bool
  | [] => false
  | c :: _ => Text.isAsciiDigit c

/-- The characters that do not stand for themselves in a key between double quotes. -/
def keySigns : Text := ['"', '\\', '\n', '\r']

/-- Reads a substitution, once its opening brace is passed.  The name of a member is an identifier:
it is not empty and does not start with a digit. -/
def access? (s : Text) : Option (Access × Text) :=
  match Text.dropFront? "vars." s with
  | some s =>
    match Text.word? Slot.isNameChar ['}'] s with
    | some (n, r) => if n = [] ∨ startsWithDigit n = true then none else some (.member n, r)
    | none => none
  | none =>
    match Text.dropFront? "vars[\"" s with
    | some s => (Text.key? keySigns ('"' :: "]\x7d") s).map fun (n, r) => (.element n, r)
    | none => none

/-- What the escapes of one character stand for, where it is not that character. -/
def simpleEscapes : List (Char × Char) :=
  [('b', '\x08'), ('f', '\x0c'), ('n', '\n'), ('r', '\r'), ('t', '\t'), ('v', '\x0b')]

/-- What follows the end of a line at the front of a text. -/
def lineEnd? : Text → Option Text
  | '\r' :: '\n' :: s => some s
  | '\r' :: s => some s
  | '\n' :: s => some s
  | '\u2028' :: s => some s
  | '\u2029' :: s => some s
  | _ => none

/-- Reads a code between braces, once the first is passed. -/
def codePoint? (s : Text) : Option (Text × Text) :=
  match Text.word? Escape.isHexDigit ['}'] s with
  | some (ds, r) =>
    if ds = [] then none else (Escape.char? (CodeRanges.hexNumber ds)).map fun c => ([c], r)
  | none => none

/-- Reads an escape, once its backslash is passed. -/
def escape? : Text → Option (Text × Text)
  | [] => none
  | c :: s =>
    match simpleEscapes.lookup c with
    | some d => some ([d], s)
    | none =>
      if c = '0' ∧ startsWithDigit s = false then some (['\x00'], s)
      else if Text.isAsciiDigit c then none
      else if c = 'x' then Escape.code? 2 s
      else if c = 'u' then
        match Text.dropFront? ['{'] s with
        | some s => codePoint? s
        | none => Escape.code? 4 s
      else
        match lineEnd? (c :: s) with
        | some r => some ([], r)
        | none => some ([c], s)

/-- Reads a unit of a template literal: a substitution, an escape, or a character; the end of a line
is a line feed. -/
def templateUnit? : Text → Option (List (Atom Access) × Text)
  | [] => none
  | '$' :: '{' :: s => (access? s).map fun (a, r) => ([.item a], r)
  | '\\' :: s => (escape? s).map fun (t, r) => (t.map .char, r)
  | '\r' :: '\n' :: s => some ([.char '\n'], s)
  | '\r' :: s => some ([.char '\n'], s)
  | c :: s => some ([.char c], s)

theorem length_of_access? {s r : Text} {a : Access} (h : access? s = some (a, r)) :
    r.length ≤ s.length := by
  unfold access? at h
  split at h
  · rename_i s' hd
    have hlen := Text.length_of_dropFront? hd
    split at h
    · rename_i n r' hw
      have := Text.length_of_word? hw
      split_ifs at h
      obtain ⟨-, rfl⟩ := Prod.mk.inj (Option.some.inj h)
      omega
    · simp at h
  · split at h
    · rename_i s' hd
      have hlen := Text.length_of_dropFront? hd
      obtain ⟨⟨n, r'⟩, hw, he⟩ := Option.map_eq_some_iff.1 h
      obtain ⟨-, rfl⟩ := Prod.mk.inj he
      have := Text.length_of_word? hw
      omega
    · simp at h

theorem length_of_lineEnd? {s r : Text} (h : lineEnd? s = some r) : r.length ≤ s.length := by
  unfold lineEnd? at h
  split at h <;> cases h <;> simp only [List.length_cons] <;> omega

theorem length_of_codePoint? {s t r : Text} (h : codePoint? s = some (t, r)) :
    r.length ≤ s.length := by
  unfold codePoint? at h
  split at h
  · rename_i ds r' hw
    split_ifs at h
    obtain ⟨c, -, he⟩ := Option.map_eq_some_iff.1 h
    obtain ⟨-, rfl⟩ := Prod.mk.inj he
    exact Text.length_of_word? hw
  · simp at h

theorem length_of_escape? {s t r : Text} (h : escape? s = some (t, r)) :
    r.length ≤ s.length := by
  cases s with
  | nil => simp [escape?] at h
  | cons c s =>
    simp only [escape?] at h
    have hs : s.length ≤ (c :: s).length := Nat.le_succ _
    split at h
    · obtain ⟨-, rfl⟩ := Prod.mk.inj (Option.some.inj h)
      exact hs
    · split_ifs at h
      · obtain ⟨-, rfl⟩ := Prod.mk.inj (Option.some.inj h)
        exact hs
      · exact (Escape.length_of_code? h).trans hs
      · split at h
        · rename_i s' hd
          have := Text.length_of_dropFront? hd
          have := length_of_codePoint? h
          omega
        · exact (Escape.length_of_code? h).trans hs
      · split at h
        · rename_i r' hl
          obtain ⟨-, rfl⟩ := Prod.mk.inj (Option.some.inj h)
          exact length_of_lineEnd? hl
        · obtain ⟨-, rfl⟩ := Prod.mk.inj (Option.some.inj h)
          exact hs

/-- How template literals are read. -/
def template : Quotation Access where
  closing := '\x60'
  unit? := templateUnit?
  shorter {s as r} h := by
    unfold templateUnit? at h
    split at h
    · simp at h
    · obtain ⟨⟨a, r'⟩, ha, hr⟩ := Option.map_eq_some_iff.1 h
      obtain ⟨-, rfl⟩ := Prod.mk.inj hr
      have := length_of_access? ha
      simp only [List.length_cons]
      omega
    · obtain ⟨⟨t, r'⟩, ht, hr⟩ := Option.map_eq_some_iff.1 h
      obtain ⟨-, rfl⟩ := Prod.mk.inj hr
      exact Nat.lt_succ_of_le (length_of_escape? ht)
    all_goals
      obtain ⟨-, rfl⟩ := Prod.mk.inj (Option.some.inj h)
      simp only [List.length_cons]
      omega

/-! ### Literal text -/

/-- The text with every end of a line a line feed. -/
def lineFeeds : Text → Text
  | [] => []
  | '\r' :: '\n' :: s => '\n' :: lineFeeds s
  | '\r' :: s => '\n' :: lineFeeds s
  | c :: s => c :: lineFeeds s

theorem lineFeeds_return {s : Text} (hs : ∀ u, s ≠ '\n' :: u) :
    lineFeeds ('\r' :: s) = '\n' :: lineFeeds s := by
  rw [lineFeeds]
  exact hs

theorem lineFeeds_cons {c : Char} (hc : c ≠ '\r') (s : Text) :
    lineFeeds (c :: s) = c :: lineFeeds s := by
  rw [lineFeeds]
  · exact fun _ h => absurd h hc
  · exact hc

theorem templateUnit?_escape {d : Char} {s r : Text} (h : escape? s = some ([d], r)) :
    templateUnit? ('\\' :: s) = some ([.char d], r) := by
  rw [templateUnit?, h]
  rfl

theorem reads_escapeChar {c : Char} (hc : c ≠ '\r') (r : Text) :
    template.Reads (escapeChar c) [.char c] r := by
  unfold escapeChar
  split_ifs with h
  · refine Quotation.Reads.unit (by decide) ?_
    have he : escape? (c :: r) = some ([c], r) := by
      rcases h with rfl | rfl | rfl <;> rfl
    exact templateUnit?_escape he
  · obtain ⟨hb, hq, hd⟩ : c ≠ '\\' ∧ c ≠ '\x60' ∧ c ≠ '$' := by simpa using h
    refine Quotation.Reads.unit hq ?_
    change templateUnit? (c :: r) = _
    unfold templateUnit?
    split <;> simp_all

/-- The spelling of literal text does not begin with a line feed unless the text does. -/
theorem head?_escape {t : Text} (ht : t.head? ≠ some '\n') {r : Text} (hr : r.head? ≠ some '\n') :
    (escape t ++ r).head? ≠ some '\n' := by
  cases t with
  | nil => exact hr
  | cons c t =>
    unfold escape escapeChar
    rw [List.flatMap_cons]
    split_ifs
    · simp
    · simpa using ht

theorem reads_return {r : Text} (hr : r.head? ≠ some '\n') :
    template.Reads ['\r'] [.char '\n'] r := by
  refine Quotation.Reads.unit (by decide) ?_
  cases r with
  | nil => rfl
  | cons c r =>
    have hc : c ≠ '\n' := by simpa using hr
    change templateUnit? ('\r' :: c :: r) = _
    rw [templateUnit?]
    intro s h
    exact hc (List.cons.inj h).1

/-- **Literal text is read back but for the ends of its lines**, in front of anything that does not
begin with a line feed. -/
theorem reads_escape (t r : Text) (hr : r.head? ≠ some '\n') :
    template.Reads (escape t) ((lineFeeds t).map .char) r := by
  induction t using lineFeeds.induct with
  | case1 => exact Quotation.Reads.nil r
  | case2 s ih =>
    have hu : template.Reads ['\r', '\n'] [.char '\n'] (escape s ++ r) :=
      Quotation.Reads.unit (by decide) rfl
    rw [lineFeeds]
    exact hu.append ih
  | case3 s hs ih =>
    have hn : s.head? ≠ some '\n' := by
      intro h
      obtain ⟨u, rfl⟩ := List.head?_eq_some_iff.1 h
      exact hs u rfl
    rw [lineFeeds_return hs]
    exact (reads_return (head?_escape hn hr)).append ih
  | case4 c s _ hc ih =>
    rw [lineFeeds_cons hc]
    exact (reads_escapeChar hc _).append ih

/-! ### Placeholders -/

/-- Of the characters of names, the signs for digits are the ASCII digits. -/
theorem isDigitSign_of_isNameChar {c : Char} (h : Slot.isNameChar c = true) :
    Text.isDigitSign c = Text.isAsciiDigit c := by
  have hc : c.toNat < 128 := by
    have := Slot.isNameChar_iff.1 h
    omega
  have hs : decide (128 ≤ c.toNat) = false := decide_eq_false (by omega)
  rw [Text.isDigitSign, hs, Bool.false_and, Bool.or_false, Text.isDecimal, Text.decimalValue?,
    if_pos hc, Text.isAsciiDigit]
  split_ifs with hd <;> simpa using hd

/-- A name may stand without quotes if it does not start with a digit. -/
theorem isBare_of_isName {n : Text} (hn : Slot.IsName n) : isBare n = !startsWithDigit n := by
  cases n with
  | nil => exact absurd rfl hn.1
  | cons c n =>
    rw [isBare, startsWithDigit, isDigitSign_of_isNameChar (hn.2 c List.mem_cons_self)]

namespace Access

/-- What a substitution asks for in the place of a placeholder: a member, or an element where the
name starts with a digit. -/
def of (p : Placeholder) : Access :=
  if startsWithDigit p.name then element p.name else member p.name

/-- The name that a substitution asks for. -/
def name : Access → Text
  | member n => n
  | element n => n

@[simp] theorem name_of (p : Placeholder) : (of p).name = p.name := by
  unfold of
  split <;> rfl

end Access

theorem substitution_eq_member {p : Placeholder} (hn : Slot.IsName p.name)
    (hd : startsWithDigit p.name = false) :
    substitution p = '$' :: '{' :: ("vars." ++ (p.name ++ ['}'])) := by
  have hb : isBare p.name = true := by rw [isBare_of_isName hn, hd]; rfl
  have hv : ("$\x7bvars." : String).toList = '$' :: '{' :: ("vars." : String).toList := by decide
  have he : ("\x7d" : String).toList = ['}'] := by decide
  unfold substitution
  rw [if_pos hb, hv, he, List.append_assoc]
  rfl

theorem substitution_eq_element {p : Placeholder} (hn : Slot.IsName p.name)
    (hd : startsWithDigit p.name = true) :
    substitution p = '$' :: '{' :: ("vars[\"" ++ (p.name ++ '"' :: "]\x7d")) := by
  have hb : isBare p.name = false := by rw [isBare_of_isName hn, hd]; rfl
  have hv : ("$\x7bvars[" : String).toList ++ ['"'] =
      '$' :: '{' :: ("vars[\"" : String).toList := by decide
  unfold substitution
  rw [hb, if_neg (by decide), Json.string_of_isName hn, List.append_assoc, List.cons_append,
    List.cons_append, List.append_assoc, ← List.singleton_append, ← List.append_assoc, hv]
  rfl

theorem access?_member {n : Text} (hn : Slot.IsName n) (hd : startsWithDigit n = false) (r : Text) :
    access? ("vars." ++ (n ++ ['}']) ++ r) = some (.member n, r) := by
  have hv : Text.dropFront? "vars." ("vars." ++ (n ++ ['}']) ++ r) = some (n ++ (['}'] ++ r)) := by
    rw [Text.dropFront?_eq_some, List.append_assoc, List.append_assoc]
  have hw := Text.word?_append hn.2 (q := '}') (by decide) [] r
  rw [access?, hv]
  dsimp only
  rw [hw]
  simp [hn.1, hd]

theorem access?_element {n : Text} (hn : Slot.IsName n) (r : Text) :
    access? ("vars[\"" ++ (n ++ '"' :: "]\x7d") ++ r) = some (.element n, r) := by
  have hm : Text.dropFront? "vars." ("vars[\"" ++ (n ++ '"' :: "]\x7d") ++ r) = none := rfl
  have hv : Text.dropFront? "vars[\"" ("vars[\"" ++ (n ++ '"' :: "]\x7d") ++ r) =
      some (n ++ ('"' :: "]\x7d" ++ r)) := by
    rw [Text.dropFront?_eq_some, List.append_assoc, List.append_assoc]
  have hw : Text.key? keySigns ('"' :: "]\x7d") (n ++ ('"' :: "]\x7d" ++ r)) = some (n, r) :=
    Text.key?_append (by decide) (by decide) hn _ r
  rw [access?, hm]
  dsimp only
  rw [hv]
  dsimp only
  rw [hw]
  rfl

/-- **The substitution of a placeholder is read back**, whatever follows it. -/
theorem reads_substitution {p : Placeholder} (hn : Slot.IsName p.name) (r : Text) :
    template.Reads (substitution p) [.item (.of p)] r := by
  unfold Access.of
  cases hd : startsWithDigit p.name with
  | true =>
    rw [substitution_eq_element hn hd, if_pos rfl]
    refine Quotation.Reads.unit (by decide) ?_
    change (access? ("vars[\"" ++ (p.name ++ '"' :: "]\x7d") ++ r)).map _ = _
    rw [access?_element hn]
    rfl
  | false =>
    rw [substitution_eq_member hn hd, if_neg (by decide)]
    refine Quotation.Reads.unit (by decide) ?_
    change (access? ("vars." ++ (p.name ++ ['}']) ++ r)).map _ = _
    rw [access?_member hn hd]
    rfl

/-- A substitution begins with no line feed. -/
theorem head?_substitution (p : Placeholder) (r : Text) :
    (substitution p ++ r).head? ≠ some '\n' := by
  unfold substitution
  split_ifs <;> exact fun h => absurd (Option.some.inj h) (by decide)

/-! ### Modules -/

/-- How a module with a template is laid out. -/
def frame : Frame Access where
  opening := "export default function(vars: "
  bridge := ": string \x7b\n  return \x60"
  quotation := template
  ending := ";\n\x7d"

theorem functionModule_eq (body signature : Text) :
    functionModule body signature = frame.write body signature := by
  have hb : ("): string \x7b\n  return \x60" : String).toList =
      ')' :: (": string \x7b\n  return \x60" : String).toList := by decide
  have he : ("\x60;\n\x7d" : String).toList = '\x60' :: (";\n\x7d" : String).toList := by decide
  unfold functionModule Frame.write frame template
  simp only [hb, he, List.append_assoc, List.cons_append]

theorem paren_notMem_field {p : Placeholder} (hn : Slot.IsName p.name) : ')' ∉ field p := by
  have ht : ')' ∉ spellType p.type := by
    cases p.type with
    | known t => cases t <;> decide
    | unknown t => exact (by decide : ')' ∉ typeName .string)
  have hname : ')' ∉ propertyName p.name := by
    have := hn.notMem (d := ')') (by decide)
    unfold propertyName
    split_ifs
    · exact this
    · rw [Json.string_of_isName hn]
      simpa using this
  unfold field
  split_ifs <;> simp [hname, ht]

theorem paren_notMem_signature {ps : List Placeholder} (hps : ∀ p ∈ ps, Slot.IsName p.name) :
    ')' ∉ signature ps :=
  Placeholder.notMem_signature "\x7b " "; " " \x7d" (by decide) fun p hp =>
    paren_notMem_field (hps p hp)

/-! ### Templates -/

theorem lineFeeds_ne_nil {t : Text} (ht : t ≠ []) : lineFeeds t ≠ [] := by
  unfold lineFeeds
  split
  · exact absurd rfl ht
  all_goals exact List.cons_ne_nil _ _

/-- **The body of a module is read back** segment by segment, up to its closing quote. -/
theorem runs?_body {s : Text} {ps : List Placeholder} (hps : ∀ p ∈ ps, Slot.IsName p.name)
    (rest : Text) : template.runs? (Artifact.body .typescript s ps ++ '\x60' :: rest) =
      some ((Template.segments s ps).map (Run.bimap lineFeeds Access.of), rest) := by
  have hend : ('\x60' :: rest).head? ≠ some '\n' := by
    rw [List.head?_cons]
    decide
  refine Artifact.runs?_body .typescript (·.head? ≠ some '\n') (fun _ => lineFeeds_ne_nil) ?_
    reads_escape s hend
  intro p hp r
  exact ⟨reads_substitution (hps p hp) r, head?_substitution p r⟩

theorem read?_code {s : Text} {ps : List Placeholder} (hne : ps ≠ [])
    (hps : ∀ p ∈ ps, Slot.IsName p.name) : frame.read? (Artifact.ofText .typescript s ps).code =
      some ⟨signature ps, (Template.segments s ps).map (Run.bimap lineFeeds Access.of)⟩ :=
  Artifact.read?_code hne functionModule_eq (paren_notMem_signature hps) (runs?_body hps _)

/-! ### Calling -/

/-- What a substitution puts in its place: a property that is missing is shown as undefined. -/
def Access.value (object : Text → Option Text) (a : Access) : Text :=
  (object a.name).getD "undefined"

/-- Calls the function of a module with an object. -/
def call (m : Module Access) (object : Text → Option Text) : Text :=
  m.template.flatMap (Run.spell id (Access.value object))

/-- A module's function puts the properties of the object in the places of the placeholders. -/
theorem call_of (object : Text → Option Text) (signature : Text) (gs : List Template.Segment) :
    call ⟨signature, gs.map (Run.bimap lineFeeds Access.of)⟩ object =
      gs.flatMap (Run.spell lineFeeds fun p => (object p.name).getD "undefined") := by
  rw [call, List.flatMap_map]
  refine List.flatMap_congr fun g _ => ?_
  rw [Run.spell_bimap]
  simp only [Function.comp_def, Access.value, Access.name_of, id]

/-- **The module of a template is right.**  Its literal is read up to the closing quote and no
further, as the segments of the template; and its function returns the text with the properties of
the object in the places of the placeholders.  Only the ends of lines are read as line feeds. -/
theorem code_reads_and_evaluates (object : Text → Option Text) (value : Text → Text) (s : Text)
    (ps : List Placeholder) (hne : ps ≠ []) (hps : ∀ p ∈ ps, Slot.IsName p.name)
    (ho : ∀ p ∈ ps, object p.name = some (value p.name)) :
    (∀ rest, template.runs? (Artifact.body .typescript s ps ++ '\x60' :: rest) =
      some ((Template.segments s ps).map (Run.bimap lineFeeds Access.of), rest)) ∧
    ∃ m, frame.read? (Artifact.ofText .typescript s ps).code = some m ∧
      m.template = (Template.segments s ps).map (Run.bimap lineFeeds Access.of) ∧
      call m object =
        (Template.segments s ps).flatMap (Run.spell lineFeeds fun p => value p.name) := by
  refine ⟨runs?_body hps, _, read?_code hne hps, rfl, (call_of object _ _).trans ?_⟩
  refine List.flatMap_congr fun g hg => ?_
  cases g with
  | literal t => rfl
  | item p =>
    have hp := ho p (Template.mem_of_item_mem_segments hg)
    simp only [Run.spell, hp, Option.getD_some]

/-- Dollar signs, backslashes and quotes beside placeholders, and two ends of lines. -/
theorem code_reads_and_evaluates_signs :
    ∃ m, frame.read? (Artifact.ofText .typescript "$\x7bname\x7d\\$\x7bkept\x7d\x60\r\n\x7b2nd\x7d\r"
        [{ name := "name", raw := "\x7bname\x7d" }, { name := "2nd", raw := "\x7b2nd\x7d" }]).code =
          some m ∧
      call m (fun n => some (n ++ ['$'])) = "$name$\\$\x7bkept\x7d\x60\n2nd$\n" := by
  obtain ⟨-, m, hm, -, hc⟩ := code_reads_and_evaluates (fun n => some (n ++ ['$'])) (· ++ ['$'])
    "$\x7bname\x7d\\$\x7bkept\x7d\x60\r\n\x7b2nd\x7d\r"
    [{ name := "name", raw := "\x7bname\x7d" }, { name := "2nd", raw := "\x7b2nd\x7d" }]
    (by decide) (by decide) (fun _ _ => rfl)
  exact ⟨m, hm, hc.trans (by decide)⟩

end PromptPress.TypeScript

import PromptPress.Settings.Basic
import PromptPress.Json.Reader
import PromptPress.Error
import PromptPress.Text.Blank
import PromptPress.Text.Digit

/-!
# Checking settings

Each field of the settings accepts values of some kinds, and a text that spells such a value.  What
does not fit is reported field by field, in the order of the fields.
-/

namespace PromptPress.Settings

/-- A value of a field, or what is wrong with the one that is given. -/
abbrev Checked (α : Type) := Except (List Issue) α

/-- One problem of a field. -/
def issue {α : Type} (field kind message : Text) : Checked α :=
  .error [⟨field, none, kind, message⟩]

/-- The truth value that a word spells. -/
def wordBool? (s : Text) : Option Bool :=
  let w := Text.lower s
  if [("1" : Text), "on", "t", "true", "y", "yes"].contains w then some true
  else if [("0" : Text), "off", "f", "false", "n", "no"].contains w then some false
  else none

/-- The whole number that a float is equal to. -/
def wholeNumber? (x : Float) : Option Int :=
  if x.isNaN ∨ x.isInf ∨ x.floor != x then none
  else if x < 0 then some (-((-x).toUInt64.toNat : Int)) else some x.toUInt64.toNat

/-- A truth value: itself, one or zero, or a word for it. -/
def checkBool (field : Text) (v : Json) : Checked Bool :=
  let unreadable : Checked Bool :=
    issue field "bool_parsing" "Input should be a valid boolean, unable to interpret input"
  let ofInt (n : Int) : Checked Bool :=
    if n = 1 then .ok true else if n = 0 then .ok false else unreadable
  match v with
  | .bool b => .ok b
  | .str s =>
    match wordBool? s with
    | some b => .ok b
    | none => unreadable
  | .int n => ofInt n
  | .real x =>
    match wholeNumber? x with
    | some n => ofInt n
    | none => issue field "bool_type" "Input should be a valid boolean"
  | _ => issue field "bool_type" "Input should be a valid boolean"

/-- The value of digits, with single underscores between them. -/
def spacedDigits? : Text → Option Nat
  | s =>
    let groups := Text.splitAtChar '_' s
    if groups.all fun g => !g.isEmpty && g.all Text.isAsciiDigit then
      some (Text.decimalNumber groups.flatten)
    else none

/-- The whole number that a text spells: an optional sign, digits, and a point with zeros. -/
def wordInt? (s : Text) : Option Int :=
  let s := Text.trim s
  let (negative, s) :=
    match s with
    | '-' :: r => (true, r)
    | '+' :: r => (false, r)
    | r => (false, r)
  let digits := s.takeWhile (· ≠ '.')
  if (s.dropWhile (· ≠ '.')).all fun c => c == '.' || c == '0' then
    if (s.filter (· = '.')).length ≤ 1 then
      (spacedDigits? digits).map fun n => if negative then -(n : Int) else n
    else none
  else none

/-- A whole number: itself, a float without a fraction, a truth value, or a text that spells it. -/
def checkInt (field : Text) (v : Json) : Checked Int :=
  match v with
  | .int n => .ok n
  | .bool b => .ok (if b then 1 else 0)
  | .real x =>
    match wholeNumber? x with
    | some n => .ok n
    | none =>
      if x.isNaN ∨ x.isInf then issue field "finite_number" "Input should be a finite number"
      else issue field "int_from_float"
        "Input should be a valid integer, got a number with a fractional part"
  | .str s =>
    match wordInt? s with
    | some n => .ok n
    | none => issue field "int_parsing"
        "Input should be a valid integer, unable to parse string as an integer"
  | _ => issue field "int_type" "Input should be a valid integer"

/-- A positive whole number. -/
def checkPositive (field : Text) (v : Json) : Checked Int :=
  match checkInt field v with
  | .error e => .error e
  | .ok n =>
    if 0 < n then .ok n
    else issue field "value_error" ("Value error, " ++ field ++ " must be positive")

/-- A text. -/
def checkText (field : Text) (v : Json) : Checked Text :=
  match v with
  | .str s => .ok s
  | _ => issue field "string_type" "Input should be a valid string"

/-- The members of a list that are no texts, as problems at their positions. -/
def textIssues (field : Text) : Nat → List Json → List Issue
  | _, [] => []
  | n, .str _ :: vs => textIssues field (n + 1) vs
  | n, _ :: vs =>
    ⟨field, some n, "string_type", "Input should be a valid string"⟩ :: textIssues field (n + 1) vs

/-- A list of texts. -/
def checkTexts (field : Text) (v : Json) : Checked (List Text) :=
  match v with
  | .list vs =>
    match textIssues field 0 vs with
    | [] => .ok (vs.filterMap Json.text?)
    | issues => .error issues
  | _ => issue field "list_type" "Input should be a valid list"

/-- One of two texts. -/
def checkChoice (field a b : Text) (v : Json) : Checked Text :=
  match v with
  | .str s =>
    if s = a ∨ s = b then .ok s
    else issue field "literal_error" ("Input should be '" ++ a ++ "' or '" ++ b ++ "'")
  | _ => issue field "literal_error" ("Input should be '" ++ a ++ "' or '" ++ b ++ "'")

/-- A path or nothing. -/
def checkPath (field : Text) (v : Json) : Checked (Option Path) :=
  match v with
  | .null => .ok none
  | .str s => .ok (some (Path.ofText s))
  | _ => issue field "path_type" "Input is not a valid path"

/-- The names of the fields, in their order. -/
def fieldNames : List Text :=
  [("collapse_whitespace" : Text), "default_passes", "markdown_extras", "target", "cache_size",
    "log_level", "log_format", "log_file", "environment"]

/-- The fields whose values are lists. -/
def isListField (field : Text) : Bool :=
  [("default_passes" : Text), "markdown_extras"].contains field

/-- The given value of a field, or the value that holds otherwise. -/
def pick {α : Type} (given : Text → Option Json) (field : Text) (check : Text → Json → Checked α)
    (default : α) : Checked α :=
  match given field with
  | some v => check field v
  | none => .ok default

/-- The problems of a check. -/
def problems {α : Type} : Checked α → List Issue
  | .ok _ => []
  | .error e => e

/-- Checks the given values of all fields. -/
def check (given : Text → Option Json) : Checked Settings :=
  let d : Settings := {}
  let collapse := pick given "collapse_whitespace" checkBool d.collapseWhitespace
  let passes := pick given "default_passes" checkTexts d.defaultPasses
  let extras := pick given "markdown_extras" checkTexts d.markdownExtras
  let target := pick given "target" (checkChoice · "typescript" "python") d.target
  let size := pick given "cache_size" checkPositive d.cacheSize
  let level := pick given "log_level" checkText d.logLevel
  let format := pick given "log_format" (checkChoice · "console" "json") d.logFormat
  let file := pick given "log_file" checkPath d.logFile
  let environment := pick given "environment" checkText d.environment
  match collapse, passes, extras, target, size, level, format, file, environment with
  | .ok collapse, .ok passes, .ok extras, .ok target, .ok size, .ok level, .ok format, .ok file,
      .ok environment =>
    .ok ⟨collapse, passes, extras, target, size, level, format, file, environment⟩
  | _, _, _, _, _, _, _, _, _ =>
    .error (problems collapse ++ problems passes ++ problems extras ++ problems target ++
      problems size ++ problems level ++ problems format ++ problems file ++ problems environment)

end PromptPress.Settings

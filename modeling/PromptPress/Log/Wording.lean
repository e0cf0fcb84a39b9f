import PromptPress.Error
import PromptPress.Decimal.Fixed
import PromptPress.Text.Case
import PromptPress.Text.Digit

/-!
# Wordings with arguments

The wording of an event may have places for arguments: a percent sign, the name of the argument in
parentheses if the arguments have names, signs that say how the place is filled, its width, the
number of digits after a point, and a letter that says how the argument is shown.  Two percent signs
stand for one.  Every argument without a name has to be used.
-/

namespace PromptPress.Log

/-- The arguments of a wording: one after another, or by their names.  The object that holds named
arguments can stand at the first place itself, if that place asks for no name. -/
inductive Arguments where
  | ordered (vs : List Json)
  | named (fields : List (Text × Json)) (used : Bool)

/-- The arguments of a list; one object alone gives names to its values. -/
def Arguments.ofList : List Json → Arguments
  | [.obj (f :: fs)] => named (f :: fs) false
  | vs => ordered vs

/-- What is said where arguments are missing. -/
def tooFewArguments : Error := .fault .type "not enough arguments for format string"

/-- What is said where arguments are left. -/
def tooManyArguments : Error :=
  .fault .type "not all arguments converted during string formatting"

/-- What is said where names are asked for but there are none. -/
def noNames : Error := .fault .type "format requires a mapping"

/-- What is said where a place does not end. -/
def incompletePlace : Error := .fault .value "incomplete format"

/-- A place for an argument. -/
structure Place where
  /-- The name of the argument. -/
  name : Option Text := none
  /-- Spaces stand behind the argument. -/
  leftward : Bool := false
  /-- Zeros stand in front of a number. -/
  zeros : Bool := false
  /-- A plus sign stands in front of a number that is not negative. -/
  plus : Bool := false
  /-- A space stands in front of a number that is not negative. -/
  space : Bool := false
  /-- The base of a number is shown. -/
  based : Bool := false
  /-- The least number of characters. -/
  width : Nat := 0
  /-- The number that stands behind a point: the most characters of a text, the fewest digits of a
  whole number, the digits behind the point of another number. -/
  precision : Option Nat := none

/-- Reads the name in parentheses, if there is one. -/
def placeName (s : Text) : Option Text × Text :=
  match s with
  | '(' :: r =>
    let name := r.takeWhile (· ≠ ')')
    (some name, r.drop (name.length + 1))
  | s => (none, s)

/-- Reads a number in front of a text; no digits stand for zero. -/
def leadingNumber (s : Text) : Nat × Text :=
  let digits := s.takeWhile Char.isDigit
  (Text.decimalNumber digits, s.drop digits.length)

/-- Reads the number behind a point, if there is a point. -/
def placePrecision (s : Text) : Option Nat × Text :=
  match s with
  | '.' :: r =>
    let (n, r) := leadingNumber r
    (some n, r)
  | s => (none, s)

/-- Reads a place up to its letter, which is not part of it. -/
def Place.read (s : Text) : Place × Text :=
  let (name, s) := placeName s
  let signs := s.takeWhile fun c => ['-', '+', ' ', '#', '0'].contains c
  let (width, s) := leadingNumber (s.drop signs.length)
  let (precision, s) := placePrecision s
  let s := match s with
    | c :: r => if ['h', 'l', 'L'].contains c then r else s
    | [] => []
  let place : Place :=
    { name := name, leftward := signs.contains '-', zeros := signs.contains '0'
      plus := signs.contains '+', space := signs.contains ' ', based := signs.contains '#'
      width := width, precision := precision }
  (place, s)

namespace Place

/-- Puts spaces beside a text, so that it has the width of the place. -/
def fill (p : Place) (s : Text) : Text :=
  let spaces := List.replicate (p.width - s.length) ' '
  if p.leftward then s ++ spaces else spaces ++ s

/-- Fills the place with a text. -/
def fillText (p : Place) (s : Text) : Text :=
  match p.precision with
  | some n => p.fill (s.take n)
  | none => p.fill s

/-- Fills the place with a number: its sign, what shows its base, and its digits. -/
def fillNumber (p : Place) (negative : Bool) (base digits : Text) : Text :=
  let sign : Text := if negative then "-" else if p.plus then "+" else if p.space then " " else []
  let start := sign ++ base
  if p.zeros && !p.leftward then
    start ++ List.replicate (p.width - (start.length + digits.length)) '0' ++ digits
  else p.fill (start ++ digits)

/-- Fills the place with a whole number. -/
def fillWhole (p : Place) (base digits : Text) (n : Int) : Text :=
  let zeros := List.replicate (p.precision.getD 0 - digits.length) '0'
  p.fillNumber (n < 0) (if p.based then base else []) (zeros ++ digits)

/-- Fills the place with a number that has a point. -/
def fillFloat (p : Place) (x : Float) : Text :=
  let digits := Decimal.fixed (p.precision.getD 6) x
  let point : Text := if p.based && p.precision == some 0 then "." else []
  p.fillNumber (Decimal.isSigned x && !x.isNaN) [] (digits ++ point)

end Place

/-- The whole number that a value counts as. -/
def wholeNumber? : Json → Option Int
  | .int n => some n
  | .bool b => some (if b then 1 else 0)
  | _ => none

/-- The number with a point that a value counts as. -/
def realNumber? : Json → Option Float
  | .real x => some x
  | v => (wholeNumber? v).map Float.ofInt

/-- The whole number that a value counts as, without what stands behind its point. -/
def roundedNumber? : Json → Option Int
  | .real x => if x.isFinite then some (Decimal.truncated x) else none
  | v => wholeNumber? v

/-- What is said of a letter that shows nothing; a question mark stands for one beyond ASCII. -/
def unknownLetter (c : Char) (index : Nat) : Error :=
  let shown := if 31 ≤ c.toNat ∧ c.toNat < 127 then c else '?'
  .fault .value ("unsupported format character '" ++ [shown] ++ "' (0x" ++ Text.hex 1 c.toNat ++
    ") at index " ++ Text.ofNat index)

/-- What is said of a value that a letter does not show. -/
def unfitValue (letter : Char) (needed : Text) (v : Json) : Error :=
  .fault .type ("%" ++ [letter] ++ " format: " ++ needed ++ " is required, not " ++ Json.kindName v)

/-- A text with what is not ASCII escaped. -/
def asciiOnly (s : Text) : Text :=
  s.flatMap fun c => if c.toNat < 128 then [c] else Text.escapedCode c

/-- The character that a value counts as: a number or a text of one character. -/
def character? : Json → Option Char
  | .str [c] => some c
  | v => (wholeNumber? v).map fun n => Char.ofNat n.toNat

/-- Shows a value at a place as a letter says; `index` is the place of the letter. -/
def showArgument (p : Place) (index : Nat) (letter : Char) (v : Json) : Except Error Text :=
  let whole (needed : Text) (n? : Option Int) (base : Text) (digits : Nat → Text) :=
    match n? with
    | some n => .ok (p.fillWhole base (digits n.natAbs) n)
    | none => .error (unfitValue letter needed v)
  if letter = 's' then .ok (p.fillText (Json.shown v))
  else if letter = 'r' then .ok (p.fillText (Json.display v))
  else if letter = 'a' then .ok (p.fillText (asciiOnly (Json.display v)))
  else if ['d', 'i', 'u'].contains letter then
    whole "a real number" (roundedNumber? v) [] Text.ofNat
  else if letter = 'x' then whole "an integer" (wholeNumber? v) "0x" (Text.hex 1)
  else if letter = 'X' then
    whole "an integer" (wholeNumber? v) "0X" fun n => Text.upperAscii (Text.hex 1 n)
  else if letter = 'o' then whole "an integer" (wholeNumber? v) "0o" (Nat.toDigits 8)
  else if letter = 'c' then
    match character? v with
    | some c => .ok (p.fill [c])
    | none => .error (.fault .type "%c requires int or char")
  else if ['f', 'F'].contains letter then
    match realNumber? v with
    | some x => .ok (p.fillFloat x)
    | none => .error (.fault .type ("must be real number, not " ++ Json.kindName v))
  else .error (unknownLetter letter index)

/-- Takes the next argument, or the one of a name. -/
def Arguments.take (name : Option Text) : Arguments → Except Error (Json × Arguments)
  | ordered vs =>
    match name, vs with
    | some _, _ => .error noNames
    | none, v :: vs => .ok (v, ordered vs)
    | none, [] => .error tooFewArguments
  | named fields used =>
    match name with
    | none => if used then .error tooFewArguments else .ok (.obj fields, named fields true)
    | some n =>
      match fields.find? fun (k, _) => k == n with
      | some (_, v) => .ok (v, named fields true)
      | none => .error (.fault .key n)

/-- Fills the places of a wording, at most `n` of them; `index` is the place of the text. -/
def fillFrom : Nat → Nat → Arguments → Text → Except Error Text
  | 0, _, _, s => .ok s
  | n + 1, index, args, s =>
    let before := s.takeWhile (· ≠ '%')
    match s.drop before.length with
    | [] =>
      match args with
      | .ordered (_ :: _) => .error tooManyArguments
      | _ => .ok before
    | _ :: r =>
      let (place, t) := Place.read r
      match t with
      | [] => .error incompletePlace
      | letter :: rest =>
        let here := index + before.length + 1 + (r.length - t.length)
        if letter = '%' then (fillFrom n (here + 1) args rest).map (before ++ '%' :: ·)
        else
          match args.take place.name with
          | .error e => .error e
          | .ok (v, args) =>
            match showArgument place here letter v with
            | .error e => .error e
            | .ok shown => (fillFrom n (here + 1) args rest).map (before ++ shown ++ ·)

/-- Fills the places of a wording; without arguments it stays as it is. -/
def fillWording (s : Text) (args : List Json) : Except Error Text :=
  if args.isEmpty then .ok s else fillFrom (s.length + 1) 0 (.ofList args) s

end PromptPress.Log

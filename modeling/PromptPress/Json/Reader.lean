import PromptPress.Json.Basic
import PromptPress.Text.CodeRanges
import PromptPress.Text.Word

/-!
# Reading values

A reader of the interchange format.  Each function takes the text from some place on and gives
back what stands behind the part it has read.  A number with a point or an exponent is a float;
`NaN` and the infinities are read as well.  `read?` wants the whole text to be one value, blanks
around it apart.
-/

namespace PromptPress.Json

/-- Drops the blanks of the format. -/
def skipBlanks (s : Text) : Text :=
  s.dropWhile fun c => c == ' ' || c == '\t' || c == '\n' || c == '\r'

/-- A hexadecimal digit of either case. -/
def isHexDigit (c : Char) : Bool :=
  Text.isAsciiDigit c || ('a' ≤ c && c ≤ 'f') || ('A' ≤ c && c ≤ 'F')

/-- Reads the four digits of a code unit. -/
def unit? : Text → Option (Nat × Text)
  | a :: b :: c :: d :: s =>
    if [a, b, c, d].all isHexDigit then some (CodeRanges.hexNumber [a, b, c, d], s) else none
  | _ => none

/-- The character of a code unit and of its partner, if it is the first of a pair.  A unit without
its partner stands for the replacement character. -/
def unitChar (n : Nat) (s : Text) : Char × Text :=
  if 0xd800 ≤ n ∧ n < 0xdc00 then
    match s with
    | '\\' :: 'u' :: t =>
      match unit? t with
      | some (m, r) =>
        if 0xdc00 ≤ m ∧ m < 0xe000 then
          (Char.ofNat (0x10000 + (n - 0xd800) * 0x400 + (m - 0xdc00)), r)
        else (Char.ofNat 0xfffd, s)
      | none => (Char.ofNat 0xfffd, s)
    | _ => (Char.ofNat 0xfffd, s)
  else if 0xdc00 ≤ n ∧ n < 0xe000 then (Char.ofNat 0xfffd, s)
  else (Char.ofNat n, s)

/-- The character of a short escape. -/
def shortEscape? : Char → Option Char
  | '"' => some '"'
  | '\\' => some '\\'
  | '/' => some '/'
  | 'b' => some (Char.ofNat 8)
  | 'f' => some (Char.ofNat 12)
  | 'n' => some '\n'
  | 'r' => some '\r'
  | 't' => some '\t'
  | _ => none

/-- Reads a string up to its closing quote; `done` holds its characters so far, reversed. -/
def stringRest? : Nat → Text → Text → Option (Text × Text)
  | 0, _, _ => none
  | fuel + 1, done, s =>
    match s with
    | [] => none
    | '"' :: r => some (done.reverse, r)
    | '\\' :: 'u' :: r =>
      match unit? r with
      | none => none
      | some (n, r) =>
        let (c, r) := unitChar n r
        stringRest? fuel (c :: done) r
    | '\\' :: e :: r =>
      match shortEscape? e with
      | none => none
      | some c => stringRest? fuel (c :: done) r
    | c :: r => if c.toNat < 0x20 ∨ c = '\\' then none else stringRest? fuel (c :: done) r

/-- The number that ASCII digits stand for. -/
def digitsValue (ds : Text) : Nat := ds.foldl (fun n c => 10 * n + (c.toNat - 48)) 0

/-- Reads the digits in front of a text. -/
def digits (s : Text) : Text × Text :=
  (s.takeWhile Text.isAsciiDigit, s.dropWhile Text.isAsciiDigit)

/-- Reads the digits behind a point, if there are any. -/
def fraction (s : Text) : Text × Text :=
  match s with
  | '.' :: r => match digits r with
    | ([], _) => ([], s)
    | p => p
  | _ => ([], s)

/-- Reads an exponent, if there is one. -/
def exponent? (s : Text) : Option (Int × Text) :=
  match s with
  | e :: r =>
    if e = 'e' ∨ e = 'E' then
      let (negative, r) := match r with
        | '-' :: t => (true, t)
        | '+' :: t => (false, t)
        | t => (false, t)
      match digits r with
      | ([], _) => none
      | (ds, t) => some ((if negative then -(digitsValue ds : Int) else digitsValue ds), t)
    else none
  | [] => none

/-- The float `m * 10 ^ e`. -/
def scientificValue (m : Nat) (e : Int) : Float :=
  if m = 0 ∨ e < -20000 then 0.0
  else if 20000 < e then 1.0 / 0.0
  else Float.ofScientific m (decide (e < 0)) e.natAbs

/-- Reads a number. -/
def number? (s : Text) : Option (Json × Text) :=
  let (negative, r) := match s with
    | '-' :: t => (true, t)
    | t => (false, t)
  let (ds, r) := match r with
    | '0' :: t => (['0'], t)
    | t => digits t
  if ds.isEmpty then none
  else
    let (fs, t) := fraction r
    let (power, t') := (exponent? t).getD (0, t)
    if fs.isEmpty ∧ (exponent? t).isNone then
      some (.int (if negative then -(digitsValue ds : Int) else digitsValue ds), t)
    else
      let x := scientificValue (digitsValue (ds ++ fs)) (power - fs.length)
      some (.real (if negative then -x else x), t')

/-- Reads a value that is one word. -/
def word? (s : Text) : Option (Json × Text) :=
  [("null", Json.null), ("true", .bool true), ("false", .bool false), ("NaN", .real (0.0 / 0.0)),
    ("Infinity", .real (1.0 / 0.0)), ("-Infinity", .real (-1.0 / 0.0))].findSome?
    fun (w, v) => (Text.dropFront? (w : Text) s).map fun r => (v, r)

mutual

/-- Reads a value. -/
def value? : Nat → Text → Option (Json × Text)
  | 0, _ => none
  | fuel + 1, s =>
    match skipBlanks s with
    | '"' :: r => (stringRest? (r.length + 1) [] r).map fun (t, r) => (.str t, r)
    | '[' :: r =>
      match skipBlanks r with
      | ']' :: r => some (.list [], r)
      | _ => (items? fuel r).map fun (xs, r) => (.list xs, r)
    | '{' :: r =>
      match skipBlanks r with
      | '}' :: r => some (.obj [], r)
      | _ => (entries? fuel r).map fun (fs, r) => (.obj fs, r)
    | r =>
      match word? r with
      | some p => some p
      | none => number? r

/-- Reads the members of a list up to its closing bracket. -/
def items? : Nat → Text → Option (List Json × Text)
  | 0, _ => none
  | fuel + 1, s =>
    match value? fuel s with
    | none => none
    | some (v, r) =>
      match skipBlanks r with
      | ']' :: r => some ([v], r)
      | ',' :: r => (items? fuel r).map fun (vs, r) => (v :: vs, r)
      | _ => none

/-- Reads the entries of an object up to its closing brace. -/
def entries? : Nat → Text → Option (List (Text × Json) × Text)
  | 0, _ => none
  | fuel + 1, s =>
    match skipBlanks s with
    | '"' :: r =>
      match stringRest? (r.length + 1) [] r with
      | none => none
      | some (k, r) =>
        match skipBlanks r with
        | ':' :: r =>
          match value? fuel r with
          | none => none
          | some (v, r) =>
            match skipBlanks r with
            | '}' :: r => some ([(k, v)], r)
            | ',' :: r => (entries? fuel r).map fun (fs, r) => ((k, v) :: fs, r)
            | _ => none
        | _ => none
    | _ => none

end

/-- Reads a text that is one value, blanks around it apart. -/
def read? (s : Text) : Option Json :=
  match value? (s.length + 1) s with
  | some (v, r) => if (skipBlanks r).isEmpty then some v else none
  | none => none

end PromptPress.Json

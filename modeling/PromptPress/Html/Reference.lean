import PromptPress.Html.Entity
import PromptPress.Text.Word
import PromptPress.Json.Reader

/-!
# Character references

A reference stands for characters by a number or by a name.  In a page, a number below 256 counts in
the Western code page of Windows, and a name that is not known stands for itself.  In the value of
an attribute the rules are looser: the semicolon may be missing, and of an unknown name the longest
known beginning is used.
-/

namespace PromptPress.Html

/-- The characters that the Western code page of Windows has in the place of the controls 128 to
159; where it has none, the control itself. -/
def windowsChars : List Nat :=
  [0x20ac, 0x81, 0x201a, 0x192, 0x201e, 0x2026, 0x2020, 0x2021, 0x2c6, 0x2030, 0x160, 0x2039,
    0x152, 0x8d, 0x17d, 0x8f, 0x90, 0x2018, 0x2019, 0x201c, 0x201d, 0x2022, 0x2013, 0x2014,
    0x2dc, 0x2122, 0x161, 0x203a, 0x153, 0x9d, 0x17e, 0x178]

/-- The character that marks what cannot be shown. -/
def replacementChar : Char := Char.ofNat 0xfffd

/-- The character of a number in a page. -/
def numbered (n : Nat) : Char :=
  if 0x80 ≤ n ∧ n < 0xa0 then Char.ofNat (windowsChars.getD (n - 0x80) n)
  else if n = 0 ∨ 0x10ffff < n ∨ (0xd800 ≤ n ∧ n < 0xe000) then replacementChar
  else Char.ofNat n

/-- What a name stands for in a page. -/
def namedOrSelf (name : Text) : Text := (named? name).getD ('&' :: name)

/-- Is the code point one that stands for nothing in the value of an attribute? -/
def isVoidCode (n : Nat) : Bool :=
  (1 ≤ n && n ≤ 8) || (0xe ≤ n && n ≤ 0x1f) || (0x7f ≤ n && n ≤ 0x9f) ||
    (0xfdd0 ≤ n && n ≤ 0xfdef) || n == 0xb || n % 0x10000 == 0xfffe || n % 0x10000 == 0xffff

/-- The characters of a number in the value of an attribute. -/
def numberedInValue (n : Nat) : Text :=
  if n = 0xd then ['\r']
  else if n = 0 ∨ (0x80 ≤ n ∧ n < 0xa0) then [numbered n]
  else if 0x10ffff < n ∨ (0xd800 ≤ n ∧ n < 0xe000) then [replacementChar]
  else if isVoidCode n then []
  else [Char.ofNat n]

/-- The longest beginning of a name that is known without a semicolon, of at most `n` characters. -/
def longestBare? (name : Text) : Nat → Option (Text × Text)
  | 0 => none
  | 1 => none
  | n + 2 =>
    match bareNamed? (name.take (n + 2)) with
    | some cs => some (cs, name.drop (n + 2))
    | none => longestBare? name (n + 1)

/-- What a name stands for in the value of an attribute; `closed` says that a semicolon follows. -/
def namedInValue (name : Text) (closed : Bool) : Text :=
  let ending : Text := if closed then [';'] else []
  match if closed then named? name else bareNamed? name with
  | some cs => cs
  | none =>
    match longestBare? name (if closed then name.length else name.length - 1) with
    | some (cs, rest) => cs ++ rest ++ ending
    | none => '&' :: name ++ ending

/-- Drops a semicolon. -/
def dropSemicolon : Text → Text
  | ';' :: s => s
  | s => s

/-- A character that can stand in a name of the value of an attribute. -/
def isNameChar (c : Char) : Bool :=
  !(['\t', '\n', ' ', '<', '&', '#', ';'].contains c || c.toNat == 12)

/-- Resolves the references in the value of an attribute. -/
def unescape : Nat → Text → Text
  | 0, s => s
  | _, [] => []
  | fuel + 1, '&' :: s =>
    match s with
    | '#' :: x :: r =>
      let hex := x = 'x' ∨ x = 'X'
      let ds :=
        if hex then r.takeWhile Json.isHexDigit else (x :: r).takeWhile Text.isAsciiDigit
      if ds.isEmpty then '&' :: unescape fuel s
      else
        let n := if hex then CodeRanges.hexNumber ds else Json.digitsValue ds
        let rest := dropSemicolon ((if hex then r else x :: r).drop ds.length)
        numberedInValue n ++ unescape fuel rest
    | _ =>
      let name := (s.takeWhile isNameChar).take 32
      if name.isEmpty then '&' :: unescape fuel s
      else
        match s.drop name.length with
        | ';' :: r => namedInValue name true ++ unescape fuel r
        | r => namedInValue name false ++ unescape fuel r
  | fuel + 1, c :: s => c :: unescape fuel s

/-- The value of an attribute with its references resolved. -/
def attributeValue (s : Text) : Text := unescape (s.length + 1) s

/-- The number of a reference in a page, after the sign, and what follows it. -/
def number? (s : Text) : Option (Nat × Text) :=
  let (n, ds, rest) :=
    match s with
    | x :: r =>
      if x = 'x' ∨ x = 'X' then
        let ds := r.takeWhile Json.isHexDigit
        (CodeRanges.hexNumber ds, ds, r.drop ds.length)
      else
        let ds := s.takeWhile Text.isAsciiDigit
        (Json.digitsValue ds, ds, s.drop ds.length)
    | [] => (0, [], [])
  match ds, rest with
  | [], _ => none
  | _, [] => none
  | _, c :: r => if Json.isHexDigit c then none else some (n, dropSemicolon (c :: r))

/-- A character of a name in a page, behind the first one. -/
def isReferenceChar (c : Char) : Bool := Text.isAsciiAlnum c || c == '-' || c == '.'

/-- The name of a reference in a page and what follows it.  Something has to follow that is no
letter or digit. -/
def name? (s : Text) : Option (Text × Text) :=
  match s with
  | [] => none
  | c :: r =>
    if Text.isAsciiLetter c then
      let run := r.takeWhile isReferenceChar
      match r.drop run.length with
      | d :: t => some (c :: run, dropSemicolon (d :: t))
      | [] =>
        let tail := (run.reverse.takeWhile Text.isAsciiAlnum).length + 1
        if tail ≤ run.length then
          some (c :: run.take (run.length - tail), run.drop (run.length - tail))
        else none
    else none

end PromptPress.Html

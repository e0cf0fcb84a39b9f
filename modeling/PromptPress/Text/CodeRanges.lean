/-!
# Sets of code points

A property of characters that a standard lists is kept as ranges of code points, written in a
text such as `30-39 5f`, on one line or several: each item is one code point, or the first and the
last of a range, in hexadecimal digits.
-/

namespace PromptPress

/-- Ranges of code points, each with its first and its last member. -/
abbrev CodeRanges := List (Nat × Nat)

namespace CodeRanges

/-- The value of a hexadecimal digit; other characters count as zero. -/
def hexValue (c : Char) : Nat :=
  if '0' ≤ c ∧ c ≤ '9' then c.toNat - 48
  else if 'a' ≤ c ∧ c ≤ 'f' then c.toNat - 87
  else if 'A' ≤ c ∧ c ≤ 'F' then c.toNat - 55
  else 0

/-- The number that hexadecimal digits stand for. -/
def hexNumber (ds : List Char) : Nat := ds.foldl (fun n c => 16 * n + hexValue c) 0

/-- Reads one item, `a` or `a-b`. -/
def readItem (item : List Char) : Nat × Nat :=
  let a := item.takeWhile (· ≠ '-')
  match item.dropWhile (· ≠ '-') with
  | [] => (hexNumber a, hexNumber a)
  | _ :: b => (hexNumber a, hexNumber b)

/-- Splits the written form into items; `item` holds the characters of the current one, reversed. -/
def readFrom (item : List Char) : List Char → CodeRanges
  | [] => if item.isEmpty then [] else [readItem item.reverse]
  | c :: s =>
    if c = ' ' ∨ c = '\n' then
      if item.isEmpty then readFrom [] s else readItem item.reverse :: readFrom [] s
    else readFrom (c :: item) s

/-- Reads ranges from their written form. -/
def read (s : String) : CodeRanges := readFrom [] s.toList

/-- Is the character in one of the ranges? -/
def has (r : CodeRanges) (c : Char) : Bool :=
  r.any fun (a, b) => a ≤ c.toNat && c.toNat ≤ b

end CodeRanges

end PromptPress

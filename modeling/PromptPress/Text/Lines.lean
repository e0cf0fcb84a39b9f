import PromptPress.Text.Basic

/-!
# Lines

A line ends at a line feed, a carriage return, the two in a row, or one of the other vertical
separators.  A separator at the end of the text begins no further line.
-/

namespace PromptPress.Text

/-- A character that ends a line. -/
def isLineBreak (c : Char) : Bool :=
  let n := c.toNat
  if n < 128 then (10 ≤ n && n ≤ 13) || (28 ≤ n && n ≤ 30)
  else n == 0x85 || n == 0x2028 || n == 0x2029

/-- The lines of a text, each with the separator that ends it. -/
def linesWithEnds : Text → List (Text × Text)
  | [] => []
  | '\r' :: '\n' :: s => ([], ['\r', '\n']) :: linesWithEnds s
  | c :: s =>
    if isLineBreak c then ([], [c]) :: linesWithEnds s
    else
      match linesWithEnds s with
      | [] => [([c], [])]
      | (l, e) :: ls => (c :: l, e) :: ls

/-- The lines of a text, without their separators. -/
def lines (s : Text) : List Text := (linesWithEnds s).map (·.1)

/-- Line feeds in the place of carriage returns, alone or before a line feed. -/
def unixLines : Text → Text
  | [] => []
  | '\r' :: '\n' :: s => '\n' :: unixLines s
  | c :: s => (if c = '\r' then '\n' else c) :: unixLines s

end PromptPress.Text

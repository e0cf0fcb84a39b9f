import PromptPress.Text.Basic
import PromptPress.Text.Printable

/-!
# Quoted texts

The written form of a text between quotes: single ones, unless the text holds a single quote and
no double one.  A backslash, the quote itself and what cannot be shown are escaped.
-/

namespace PromptPress.Text

/-- The escaped form of a character that is not printable. -/
def escapedCode (c : Char) : Text :=
  let n := c.toNat
  if n < 0x100 then "\\x" ++ hex 2 n
  else if n < 0x10000 then "\\u" ++ hex 4 n
  else "\\U" ++ hex 8 n

/-- A character as it stands between quotes. -/
def quotedChar (quote c : Char) : Text :=
  if c = quote ∨ c = '\\' then ['\\', c]
  else if c = '\n' then "\\n"
  else if c = '\r' then "\\r"
  else if c = '\t' then "\\t"
  else if isPrintable c then [c]
  else escapedCode c

/-- The quote that a text is written with. -/
def quoteFor (s : Text) : Char := if s.contains '\'' && !s.contains '"' then '"' else '\''

/-- The text between quotes. -/
def quoted (s : Text) : Text :=
  let q := quoteFor s
  q :: s.flatMap (quotedChar q) ++ [q]

end PromptPress.Text

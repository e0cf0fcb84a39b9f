import PromptPress.Text.Basic

/-!
# Blank characters

A blank is a space, a tab, a line break of any kind, or one of the spaces of other scripts.
`words` are the runs between the blanks, `trim` takes the blanks off both ends, and `collapse`
writes the words with single spaces between them.
-/

namespace PromptPress.Text

/-- Spaces, tabs, line breaks, the separators of ASCII, and the spaces of other scripts. -/
def isBlank (c : Char) : Bool :=
  let n := c.toNat
  if n < 128 then (9 ≤ n && n ≤ 13) || (28 ≤ n && n ≤ 32)
  else n == 0x85 || n == 0xa0 || n == 0x1680 || (0x2000 ≤ n && n ≤ 0x200a) || n == 0x2028 ||
    n == 0x2029 || n == 0x202f || n == 0x205f || n == 0x3000

/-- A space or a tab. -/
def isSpaceOrTab (c : Char) : Bool := c == ' ' || c == '\t'

/-- The text without the characters of a class at its end. -/
def dropEndWhile (p : Char → Bool) (s : Text) : Text :=
  s.foldr (fun c r => if r.isEmpty && p c then [] else c :: r) []

/-- The text without the characters of a class at both ends. -/
def trimBy (p : Char → Bool) (s : Text) : Text := dropEndWhile p (s.dropWhile p)

/-- The text without blanks at both ends. -/
def trim (s : Text) : Text := trimBy isBlank s

/-- The words of a text, and whether its first character continues the first of them. -/
def wordsStep (c : Char) : List Text × Bool → List Text × Bool
  | (ws, joined) =>
    if isBlank c then (ws, false)
    else
      match ws, joined with
      | w :: ws, true => ((c :: w) :: ws, true)
      | ws, _ => ([c] :: ws, true)

/-- The runs of characters between blanks. -/
def words (s : Text) : List Text := (s.foldr wordsStep ([], false)).1

/-- The words with one space between each two. -/
def collapse (s : Text) : Text := joinWith [' '] (words s)

/-- The number of characters that a preview shows, where nothing else is said. -/
def previewWidth : Nat := 50

/-- The words with one space between each two, cut after `limit` characters and marked with an
ellipsis if anything is cut.  A negative limit counts from the end. -/
def preview (limit : Int) (s : Text) : Text :=
  let flat := collapse s
  if limit < flat.length then
    let kept := if limit < 0 then flat.length - limit.natAbs else limit.toNat
    flat.take kept ++ "..."
  else flat

end PromptPress.Text

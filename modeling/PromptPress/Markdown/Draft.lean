import PromptPress.Text.Case
import PromptPress.Text.Lines
import PromptPress.Text.Word
import PromptPress.Text.Blank

/-!
# Drafts

A document is rendered by changing it again and again.  What is finished must not be changed
any more, so a draft is a list of glyphs: characters, and finished pieces that every rule passes
over as if they were a single letter.  `settle` puts the contents of the pieces back.
-/

namespace PromptPress.Markdown

/-- A character of a draft, or a finished piece. -/
inductive Glyph where
  | char (c : Char)
  /-- A finished piece of a line. -/
  | piece (content : List Glyph)
  /-- A finished block. -/
  | block (content : List Glyph)

/-- A document that is being rendered. -/
abbrev Draft := List Glyph

namespace Glyph

/-- Is this a character of the class?  Finished pieces are in none. -/
def is (p : Char → Bool) : Glyph → Bool
  | char c => p c
  | _ => false

/-- Is this not a character of the class?  Finished pieces never are. -/
def isNot (p : Char → Bool) (g : Glyph) : Bool := !g.is p

/-- Is this a character of the class, or a finished piece? -/
def isLike (p : Char → Bool) : Glyph → Bool
  | char c => p c
  | _ => true

/-- Is this the character? -/
def isChar (c : Char) (g : Glyph) : Bool := g.is (· == c)

/-- The number of characters that a glyph takes in a line; all finished pieces take the same. -/
def width : Glyph → Nat
  | char _ => 1
  | _ => 36

mutual

/-- The characters of a glyph, with the contents of finished pieces. -/
def settle : Glyph → Text
  | char c => [c]
  | piece content => settleAll content
  | block content => settleAll content

/-- The characters of glyphs, with the contents of finished pieces. -/
def settleAll : List Glyph → Text
  | [] => []
  | g :: gs => settle g ++ settleAll gs

end

mutual

/-- Are two glyphs the same? -/
def same : Glyph → Glyph → Bool
  | char a, char b => a == b
  | piece a, piece b => sameAll a b
  | block a, block b => sameAll a b
  | _, _ => false

/-- Are two lists of glyphs the same? -/
def sameAll : List Glyph → List Glyph → Bool
  | [], [] => true
  | a :: s, b :: t => same a b && sameAll s t
  | _, _ => false

end

/-- The glyph in lower case; finished pieces stay. -/
def lower : Glyph → List Glyph
  | char c => (Text.lowerChar c).map char
  | g => [g]

end Glyph

namespace Draft

/-- A text that no rule has touched yet. -/
def ofText (s : Text) : Draft := s.map Glyph.char

/-- A string literal stands for its characters. -/
instance : Coe String Draft := ⟨fun s => ofText s.toList⟩

/-- The text of a draft, with the contents of its finished pieces. -/
def settle (d : Draft) : Text := Glyph.settleAll d

/-- Does a character occur outside of finished pieces? -/
def has (c : Char) (d : Draft) : Bool := d.any (Glyph.isChar c)

/-- The draft in lower case. -/
def lower (d : Draft) : Draft := d.flatMap Glyph.lower

/-- What follows `p`, if the draft starts with it. -/
def dropFront? : Draft → Draft → Option Draft
  | d, [] => some d
  | [], _ :: _ => none
  | g :: d, a :: p => if a.same g then dropFront? d p else none

/-- Does the draft start with `p`? -/
def startsWith (d p : Draft) : Bool := (d.dropFront? p).isSome

/-- What stands in front of the first occurrence of `p` and what stands behind it. -/
def cutAt? (d p : Draft) : Option (Draft × Draft) :=
  match dropFront? d p with
  | some r => some ([], r)
  | none =>
    match d with
    | [] => none
    | g :: d => (cutAt? d p).map fun (a, b) => (g :: a, b)

/-- Does `p` occur in the draft? -/
def hasPart (d p : Draft) : Bool := (d.cutAt? p).isSome

/-- Replaces each occurrence of `old`, which is not empty, from left to right; `skip` glyphs of the
occurrence met last are still to be passed over. -/
def replaceFrom (old new : Draft) : Nat → Draft → Draft
  | _, [] => []
  | skip + 1, _ :: d => replaceFrom old new skip d
  | 0, g :: d =>
    if startsWith (g :: d) old then new ++ replaceFrom old new (old.length - 1) d
    else g :: replaceFrom old new 0 d

/-- Replaces each occurrence of `old`, which is not empty. -/
def replaceAll (d old new : Draft) : Draft := replaceFrom old new 0 d

/-- The draft without the characters of a class at its end. -/
def dropEndWhile (d : Draft) (p : Char → Bool) : Draft :=
  d.foldr (fun g r => if r.isEmpty && g.is p then [] else g :: r) []

/-- The draft without the characters of a class at its front. -/
def dropWhile (d : Draft) (p : Char → Bool) : Draft := List.dropWhile (Glyph.is p) d

/-- The draft without the characters of a class at both ends. -/
def trimBy (d : Draft) (p : Char → Bool) : Draft := (d.dropWhile p).dropEndWhile p

/-- The draft without line feeds at its end. -/
def dropLastFeeds (d : Draft) : Draft := d.dropEndWhile (· == '\n')

/-- The pieces of a draft between line feeds. -/
def splitAtFeeds : Draft → List Draft
  | [] => [[]]
  | g :: d =>
    if g.isChar '\n' then [] :: splitAtFeeds d
    else
      match splitAtFeeds d with
      | [] => [[g]]
      | l :: ls => (g :: l) :: ls

/-- The drafts one after another, with `sep` between each two. -/
def joinWith (sep : Draft) : List Draft → Draft
  | [] => []
  | [d] => d
  | d :: e :: ds => d ++ sep ++ joinWith sep (e :: ds)

/-- The lines of a draft, each with the separator that ends it. -/
def linesWithEnds : Draft → List (Draft × Draft)
  | [] => []
  | .char '\r' :: .char '\n' :: d => ([], "\r\n") :: linesWithEnds d
  | g :: d =>
    if g.is Text.isLineBreak then ([], [g]) :: linesWithEnds d
    else
      match linesWithEnds d with
      | [] => [([g], [])]
      | (l, e) :: ls => (g :: l, e) :: ls

/-- Changes each line, and keeps the separators. -/
def mapLines (f : Draft → Draft) (d : Draft) : Draft :=
  (linesWithEnds d).flatMap fun (l, e) => f l ++ e

/-- Changes each of the parts between line feeds. -/
def mapFeeds (f : Draft → Draft) (d : Draft) : Draft :=
  joinWith [.char '\n'] ((splitAtFeeds d).map f)

end Draft

end PromptPress.Markdown

import PromptPress.Markdown.Pattern
import PromptPress.Markdown.Memory

/-!
# Escapes

A backslash takes its meaning from the special character behind it, which is then finished.  Inside
tags and comments a backslash is a character like any other; there the marks of emphasis are
finished, so that they are not read as marks.

The characters that mean something in a page are written as references.
-/

namespace PromptPress.Markdown

/-- The characters that a backslash makes literal. -/
def escapable : List Char := "\\`*_\x7b\x7d[]()>#+-.!".toList

/-- A finished character. -/
def finished (c : Char) : Glyph := .piece [.char c]

/-- Code in a page: what means something there is written as a reference. -/
def encodeCode (d : Draft) : Draft :=
  d.flatMap fun
    | .char '&' => "&amp;"
    | .char '<' => "&lt;"
    | .char '>' => "&gt;"
    | g => [g]

/-- The marks of emphasis, finished. -/
def finishMarks (d : Draft) : Draft :=
  d.map fun
    | .char '*' => finished '*'
    | .char '_' => finished '_'
    | g => g

/-- Is this ampersand the start of a reference?  The draft is what follows it. -/
def reference : Pattern :=
  .chain [.upTo 1 (Glyph.isChar '#'), .upTo 1 (Pattern.among "xX"),
    .choice [.plus (Pattern.among "0123456789abcdefABCDEF"), .plus (Glyph.is Text.isWordChar)],
    .char ';']

/-- An ampersand that starts no reference. -/
def bareAmpersand : Pattern := .chain [.char '&', .look false reference]

/-- Writes ampersands as references, apart from those that start one. -/
def encodeAmpersands (d : Draft) : Draft := bareAmpersand.replace (fun _ => "&amp;") d

/-- The value of an attribute. -/
def encodeAttribute (d : Draft) : Draft :=
  (encodeAmpersands d).flatMap fun
    | .char '"' => "&quot;"
    | .char '<' => "&lt;"
    | .char '>' => "&gt;"
    | g => [g]

/-- An address as the value of an attribute. -/
def encodeAddress (d : Draft) : Draft :=
  d.flatMap fun
    | .char '"' => "&quot;"
    | .char '<' => "&lt;"
    | .char '>' => "&gt;"
    | g => [g]

/-- An ASCII letter, or a letter that is the same as one but for its case. -/
def isCaselessLetter (c : Char) : Bool :=
  Text.isAsciiLetter c || [0x130, 0x131, 0x17f, 0x212a].contains c.toNat

/-- Behind an opening bracket: the start of a tag, a comment, an instruction or a finished piece. -/
def mayFollowOpening (g : Glyph) : Bool :=
  g.isLike fun c => isCaselessLetter c || "/?$!".toList.contains c

/-- In front of a closing bracket: the end of a tag, a comment, an instruction or a finished
piece. -/
def mayPrecedeClosing (g : Glyph) : Bool :=
  g.isLike fun c => isCaselessLetter c || Text.isAsciiDigit c || "?!/'\"-".toList.contains c

/-- An opening bracket that starts nothing. -/
def bareOpening : Pattern := .chain [.char '<', .look false (.one mayFollowOpening)]

/-- A closing bracket that ends nothing. -/
def bareClosing : Pattern :=
  .chain [.here fun c => !c.behind mayPrecedeClosing, .char '>']

/-- Writes the ampersands and brackets that are text as references. -/
def encodeText (d : Draft) : Draft :=
  bareClosing.replace (fun _ => "&gt;") (bareOpening.replace (fun _ => "&lt;") (encodeAmpersands d))

/-! ## Backslashes -/

/-- Finishes the special characters behind backslashes. -/
def finishEscaped : Draft → Draft
  | .char '\\' :: .char c :: d =>
    if escapable.contains c then finished c :: finishEscaped d
    else .char '\\' :: finishEscaped (.char c :: d)
  | g :: d => g :: finishEscaped d
  | [] => []
termination_by d => d.length

/-- Finishes an address that was written before, where a backslash stands in front of it. -/
def finishAddress (d url : Draft) : Draft := d.replaceAll (.char '\\' :: url) [.piece url]

/-- Reads the backslashes of text. -/
def readBackslashes (d : Draft) : Render Draft := do
  let d := finishEscaped (d.replaceAll "\\<" "&lt;")
  return (← get).written.foldl finishAddress d

/-- An attribute of a tag, with the blanks in front of it. -/
def tagAttribute : Pattern :=
  let name (g : Glyph) := g.isLike fun c => Text.isWordChar c || c == '-'
  let quoted (q : Char) : Pattern := .chain [.char q, .fewStar Pattern.inLine, .char q]
  .chain [.plus Pattern.blank, .maybe (.chain [.plus name, .char ':']), .plus name, .char '=',
    .choice [quoted '"', quoted '\'']]

/-- A character of an address between brackets. -/
def isAddressChar (c : Char) : Bool :=
  Text.isWordChar c || "~:/?#[]@!$&'()*+,;%=.\\-".toList.contains c

/-- A tag, an address between brackets, a comment or an instruction, with the backslashes in front
of it. -/
def rawMarkup : Pattern :=
  .chain [.group 1 (.star (Glyph.isChar '\\')), .choice [
    .chain [.char '<', .upTo 1 (Glyph.isChar '/'), .plus (Glyph.is Text.isWordChar),
      .many true tagAttribute, .star Pattern.blank, .upTo 1 (Glyph.isChar '/'), .char '>'],
    .chain [.char '<', .plus (Glyph.isLike isAddressChar), .char '>'],
    .chain [.word "<!--", .fewStar Pattern.inLine, .word "-->"],
    .chain [.word "<?", .fewStar Pattern.inLine, .word "?>"]]]

/-- Reads the markup of a page that stands in the text.  An odd number of backslashes in front of it
makes it text. -/
def readRawMarkup (m : Pattern.Match) : Render Draft := do
  let slashes := (m.group 1).length
  if slashes % 2 = 1 then readBackslashes m.whole
  else return List.replicate (slashes / 2) (finished '\\') ++ finishMarks (m.whole.drop slashes)

/-- Reads the backslashes of a part of a document. -/
def readEscapes (d : Draft) : Render Draft := do
  let (parts, rest) := rawMarkup.parts d
  let done ← parts.mapM fun (before, m) => do
    return (← readBackslashes before) ++ (← readRawMarkup m)
  return done.flatten ++ (← readBackslashes rest)

end PromptPress.Markdown

import PromptPress.Html.Reference
import PromptPress.Text.Blank
import PromptPress.Text.Case

/-!
# Tags

A start tag has a name and attributes.  Its reading is tolerant: attributes may stand side by side,
a value may have no quotes, and slashes between attributes do not count.  A tag may turn out to be
unfinished, or to be no tag after all and thus text.
-/

namespace PromptPress.Html

/-- The attributes of a tag, in order. -/
abbrev Attributes := List (Text × Text)

/-- The value of an attribute; the last one of its name counts. -/
def Attributes.get? (as : Attributes) (name : Text) : Option Text :=
  (as.reverse.find? fun (n, _) => n == name).map (·.2)

/-- A character that ends the name of a tag. -/
def endsTagName (c : Char) : Bool :=
  c == '\t' || c == '\n' || c == '\r' || c.toNat == 12 || c == ' ' || c == '/' || c == '>' ||
    c.toNat == 0

/-- Drops blanks, and slashes that no closing bracket follows. -/
def skipFiller : Text → Text
  | [] => []
  | c :: s =>
    if Text.isBlank c then skipFiller s
    else
      match c, s with
      | '/', '>' :: _ => c :: s
      | '/', _ => skipFiller s
      | _, _ => c :: s

/-- Drops blanks and slashes. -/
def skipBlanksAndSlashes (s : Text) : Text := s.dropWhile fun c => Text.isBlank c || c == '/'

/-- May an attribute begin behind this character? -/
def mayPrecedeName (c : Char) : Bool := c == '\'' || c == '"' || c == '/' || Text.isBlank c

/-- A character that can begin the name of an attribute. -/
def beginsName (c : Char) : Bool := !(Text.isBlank c || c == '/' || c == '>')

/-- A character of the name of an attribute, behind the first one. -/
def continuesName (c : Char) : Bool := beginsName c && c != '='

/-- Reads a value behind the equality signs and the blanks after them: between quotes, or up to a
blank or a bracket.  A quote that is not closed begins no value. -/
def value? : Text → Option (Text × Text × Char)
  | '\'' :: s =>
    match s.dropWhile (· ≠ '\'') with
    | q :: r => some (s.takeWhile (· ≠ '\''), r, q)
    | [] => none
  | '"' :: s =>
    match s.dropWhile (· ≠ '"') with
    | q :: r => some (s.takeWhile (· ≠ '"'), r, q)
    | [] => none
  | s =>
    let bare := s.takeWhile fun c => c != '>' && !Text.isBlank c
    some (bare, s.drop bare.length, (bare.getLast?).getD '=')

/-- Reads the equality signs and the value behind the name of an attribute.  Where a quote is not
closed, the value is empty if a blank stands before the quote, and begins with the last equality
sign if there are several. -/
def assignment? (s : Text) : Option (Text × Text × Char) :=
  let r := s.dropWhile Text.isBlank
  let signs := r.takeWhile (· == '=')
  if signs.isEmpty then none
  else
    let t := r.drop signs.length
    let u := t.dropWhile Text.isBlank
    match value? u with
    | some v => some v
    | none =>
      if u.length < t.length then some ([], u, ' ')
      else if 2 ≤ signs.length then value? ('=' :: u)
      else none

/-- Reads attributes; `last` is the character in front of the text.  Gives back the attributes and
what follows them. -/
def attributesFrom : Nat → Char → Text → Attributes × Text
  | 0, _, s => ([], s)
  | _, _, [] => ([], [])
  | fuel + 1, last, c :: s =>
    if mayPrecedeName last && beginsName c then
      let name := c :: s.takeWhile continuesName
      let r := s.drop (name.length - 1)
      let (value, r, last) :=
        match assignment? r with
        | some (v, r, last) => (v, r, last)
        | none => ([], r, c)
      let t := skipFiller r
      let last := if t.length < r.length then ' ' else last
      let (as, t) := attributesFrom fuel last t
      ((Text.lower name, attributeValue value) :: as, t)
    else ([], c :: s)

/-- What a text that begins like a start tag turns out to be. -/
inductive StartTag where
  /-- The text ends before the tag does. -/
  | unfinished
  /-- The characters are no tag, they are text. -/
  | text (t rest : Text)
  | tag (name : Text) (attributes : Attributes) (selfClosing : Bool) (rest : Text)

/-- Reads a start tag, from behind its opening bracket. -/
def StartTag.read (s : Text) : StartTag :=
  let name := s.takeWhile (! endsTagName ·)
  let r := s.drop name.length
  let t := skipBlanksAndSlashes r
  let last := if t.length < r.length then ' ' else 'a'
  let (as, t) := attributesFrom (s.length + 1) last t
  let behind := t.dropWhile Text.isBlank
  match behind with
  | '>' :: rest =>
    let slash := as.isEmpty && (r.takeWhile (· ≠ '>')).getLast? == some '/'
    .tag (Text.lower name) as slash rest
  | '/' :: '>' :: rest => .tag (Text.lower name) as true rest
  | [] => .unfinished
  | c :: _ =>
    if c == '=' || c == '/' || Text.isAsciiLetter c then .unfinished
    else .text ('<' :: s.take (s.length - behind.length)) behind

end PromptPress.Html

import PromptPress.Html.Tag
import PromptPress.Error

/-!
# Tokens of a page

A page is read into text, tags, and what is hidden: comments, declarations and instructions.  The
content of `script` and `style` is raw up to the end tag.

Reading takes two rounds.  The first one stops at something unfinished, because more text might
follow; the second one takes up the rest, knowing that nothing follows.
-/

namespace PromptPress.Html

/-- A token of a page. -/
inductive Token where
  | text (t : Text)
  | opening (name : Text) (attributes : Attributes) (selfClosing : Bool)
  | closing (name : Text)
  /-- A comment, a declaration or an instruction. -/
  | hidden

/-- What a step of reading gives: tokens and where to go on, or a stop before the text. -/
inductive Step where
  | go (tokens : List Token) (raw : Option Text) (rest : Text)
  | stop (tokens : List Token) (rest : Text)
  | reject (message : Text)

/-- The elements whose content is raw. -/
def isRawElement (name : Text) : Bool := [("script" : Text), "style"].contains name

/-- Reads the end tag of a raw element. -/
def rawEnd? (name : Text) (s : Text) : Option Text :=
  match s with
  | '<' :: '/' :: r =>
    let r := r.dropWhile Text.isBlank
    if Text.lower (r.take name.length) == name then
      match (r.drop name.length).dropWhile Text.isBlank with
      | '>' :: t => some t
      | _ => none
    else none
  | _ => none

/-- Finds the end tag of a raw element; gives back what stands before it and behind it. -/
def findRawEnd? (name : Text) : Text → Option (Text × Text)
  | [] => none
  | c :: s =>
    match rawEnd? name (c :: s) with
    | some r => some ([], r)
    | none => (findRawEnd? name s).map fun (a, r) => (c :: a, r)

/-- The text behind the first closing bracket. -/
def afterBracket? (s : Text) : Option Text :=
  match s.dropWhile (· ≠ '>') with
  | _ :: r => some r
  | [] => none

/-- The text behind the end of a comment: two dashes, blanks and a bracket. -/
def afterComment? : Text → Option Text
  | [] => none
  | c :: s =>
    match c, s with
    | '-', '-' :: r =>
      match r.dropWhile Text.isBlank with
      | '>' :: t => some t
      | _ => afterComment? s
    | _, _ => afterComment? s

/-- The text behind the end of a marked section: a bracket, or two of them, and `>`. -/
def afterSection? (double : Bool) : Text → Option Text
  | [] => none
  | c :: s =>
    if c = ']' then
      match s.dropWhile Text.isBlank, double with
      | '>' :: t, false => some t
      | ']' :: r, true =>
        match r.dropWhile Text.isBlank with
        | '>' :: t => some t
        | _ => afterSection? double s
      | _, _ => afterSection? double s
    else afterSection? double s

/-- A character of the keyword of a marked section, behind the first one. -/
def isKeywordChar (c : Char) : Bool := isReferenceChar c || c == '_'

/-- What a marked section turns out to be, from behind its `<![`. -/
inductive Section where
  | unfinished
  | section (rest : Text)
  | unknown (keyword : Text)
  | nameless

/-- Reads a marked section. -/
def Section.read (s : Text) : Section :=
  match s with
  | [] => .unfinished
  | c :: _ =>
    if Text.isAsciiLetter c then
      let word := s.takeWhile isKeywordChar
      let r := s.drop word.length
      let gap := r.takeWhile Text.isBlank
      if (r.drop gap.length).isEmpty then .unfinished
      else
        let name := Text.lower word
        let close (double : Bool) : Section :=
          match afterSection? double s with
          | some t => .section t
          | none => .unfinished
        if [("temp" : Text), "cdata", "ignore", "include", "rcdata"].contains name then close true
        else if [("if" : Text), "else", "endif"].contains name then close false
        else .unknown (word ++ gap)
    else .nameless

/-- What remains of something unfinished when nothing follows: text up to a bracket. -/
def leftover (s : Text) : Step :=
  match s with
  | [] => .stop [] []
  | c :: r =>
    let upTo := r.takeWhile (· ≠ '>')
    match r.drop upTo.length with
    | b :: t => .go [.text (c :: upTo ++ [b])] none t
    | [] =>
      let upTo := r.takeWhile (· ≠ '<')
      match r.drop upTo.length with
      | [] => .go [.text [c]] none r
      | t => .go [.text (c :: upTo)] none t

/-- Goes on behind hidden markup, or treats it as unfinished. -/
def hiddenOr (final : Bool) (s : Text) : Option Text → Step
  | some r => .go [.hidden] none r
  | none => if final then leftover s else .stop [] s

/-- Reads an end tag, from behind its slash; `s` is the whole of it. -/
def endTag (final : Bool) (s r : Text) : Step :=
  match afterBracket? r with
  | none => if final then leftover s else .stop [] s
  | some behind =>
    let word := r.dropWhile Text.isBlank
    let isNamed : Bool := match word with
      | c :: _ => Text.isAsciiLetter c
      | [] => false
    let run := word.takeWhile fun c => Text.isAsciiAlnum c || ['-', '.', ':', '_'].contains c
    match isNamed, (word.drop run.length).dropWhile Text.isBlank with
    | true, '>' :: t => .go [.closing (Text.lower run)] none t
    | _, _ =>
      match r with
      | '>' :: t => .go [] none t
      | c :: _ =>
        if Text.isAsciiLetter c then
          .go [.closing (Text.lower (r.takeWhile (! endsTagName ·)))] none behind
        else .go [.hidden] none behind
      | [] => .stop [] s

/-- Reads markup that begins with an opening bracket. -/
def markup (final : Bool) (s : Text) : Step :=
  let unfinished : Step := if final then leftover s else .stop [] s
  match s with
  | '<' :: '/' :: r => endTag final s r
  | '<' :: '!' :: '-' :: '-' :: r => hiddenOr final s (afterComment? r)
  | '<' :: '?' :: r => hiddenOr final s (afterBracket? r)
  | '<' :: '!' :: '[' :: r =>
    match Section.read r with
    | .unfinished => unfinished
    | .section t => .go [.hidden] none t
    | .unknown keyword => .reject
        ("unknown status keyword " ++ Text.quoted keyword ++ " in marked section")
    | .nameless => .reject ("expected name token at " ++ Text.quoted (s.take 20))
  | '<' :: '!' :: r => hiddenOr final s (afterBracket? r)
  | '<' :: c :: r =>
    if Text.isAsciiLetter c then
      match StartTag.read (c :: r) with
      | .unfinished => unfinished
      | .text t rest => .go [.text t] none rest
      | .tag name as slash rest =>
        .go [.opening name as slash] (if !slash && isRawElement name then some name else none) rest
    else .go [.text ['<']] none (c :: r)
  | _ => .stop [] s

/-- Reads what begins with an ampersand. -/
def reference (final : Bool) (s : Text) : Step :=
  match s with
  | '&' :: '#' :: r =>
    match number? r with
    | some (n, t) => .go [.text [numbered n]] none t
    | none => if s.contains ';' then .stop [.text ['&', '#']] r else .stop [] s
  | '&' :: r =>
    match name? r with
    | some (n, t) => .go [.text (namedOrSelf n)] none t
    | none =>
      match r with
      | [] => .stop [] s
      | c :: t =>
        if Text.isAsciiLetter c then if final && t.isEmpty then .stop [] r else .stop [] s
        else .go [.text ['&']] none r
  | _ => .stop [] s

/-- Reads the next tokens of a page; `raw` names the raw element that is open. -/
def step (final : Bool) (raw : Option Text) (s : Text) : Step :=
  match raw with
  | some name =>
    match findRawEnd? name s with
    | none => .stop [] s
    | some (inside, r) => .go [.text inside, .closing name] none r
  | none =>
    let plain := s.takeWhile fun c => c != '<' && c != '&'
    if plain.isEmpty then
      match s with
      | '<' :: _ => markup final s
      | _ => reference final s
    else .go [.text plain] none (s.drop plain.length)

/-- What a round of reading gives. -/
structure Round where
  tokens : List Token
  raw : Option Text
  rest : Text

/-- One round of reading. -/
def round (final : Bool) : Nat → Option Text → Text → Except Text Round
  | 0, raw, s => .ok ⟨[], raw, s⟩
  | _, raw, [] => .ok ⟨[], raw, []⟩
  | fuel + 1, raw, c :: s =>
    match step final raw (c :: s) with
    | .reject m => .error m
    | .stop tokens rest => .ok ⟨tokens, raw, rest⟩
    | .go tokens raw rest =>
      match round final fuel raw rest with
      | .error m => .error m
      | .ok r => .ok { r with tokens := tokens ++ r.tokens }

/-- The wording for markup that is rejected. -/
def rejection (reason : Text) : Text :=
  "The markup you provided was rejected by the parser. Trying a different parser or a different " ++
    "encoding may help.\n\nOriginal exception(s) from parser:\n AssertionError: " ++ reason

/-- The tokens of a page. -/
def tokens (s : Text) : Except Error (List Token) :=
  match round false (s.length + 1) none s with
  | .error m => .error (.fault .rejectedMarkup (rejection m))
  | .ok first =>
    match round true (first.rest.length + 1) first.raw first.rest with
    | .error m => .error (.fault .rejectedMarkup (rejection m))
    | .ok second =>
      let last : List Token :=
        if second.rest.isEmpty || second.raw.isSome then [] else [.text second.rest]
      .ok (first.tokens ++ second.tokens ++ last)

end PromptPress.Html

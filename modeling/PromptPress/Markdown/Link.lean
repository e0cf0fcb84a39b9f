import PromptPress.Markdown.Escape

/-!
# Links and images

A link is a text between square brackets with an address behind it: the address itself between
parentheses, with or without a title, or the name of a definition between square brackets.  An
exclamation mark in front makes it an image, whose text is its alternative text.  There are no links
inside the text of a link, but there may be images.

A bare address between angle brackets is a link too.
-/

namespace PromptPress.Markdown

/-- The number of characters within which a bracket has to be closed. -/
def maxLinkText : Nat := 3000

/-- Splits what follows an opening bracket at the bracket that closes it; `depth` brackets have been
opened since, and the draft starts `offset` characters behind the opening bracket. -/
def closeBracketFrom : Nat → Nat → Draft → Option (Draft × Draft)
  | _, _, [] => none
  | depth, offset, g :: d =>
    if maxLinkText ≤ offset then none
    else if g.isChar ']' then
      match depth with
      | 0 => some ([], d)
      | depth + 1 => (closeBracketFrom depth (offset + 1) d).map fun (a, b) => (g :: a, b)
    else
      let depth := if g.isChar '[' then depth + 1 else depth
      (closeBracketFrom depth (offset + g.width) d).map fun (a, b) => (g :: a, b)

/-- Splits what follows an opening bracket at the bracket that closes it. -/
def closeBracket? (d : Draft) : Option (Draft × Draft) := closeBracketFrom 0 1 d

/-- Splits a draft behind the place where `depth` open brackets are closed, or at its end. -/
def balanced (opening closing : Char) : Nat → Draft → Draft × Draft
  | 0, d => ([], d)
  | _, [] => ([], [])
  | depth + 1, g :: d =>
    let depth := if g.isChar opening then depth + 2 else if g.isChar closing then depth
      else depth + 1
    let (a, b) := balanced opening closing depth d
    (g :: a, b)

/-- The end of an address between parentheses: a title as group 3, and the parenthesis. -/
def titleAndEnd : Pattern :=
  .chain [
    .maybe (.chain [.plus Pattern.gap, .group 2 (.one (Pattern.among "'\"")),
      .group 3 (.fewStar Pattern.anything), .same 2]),
    .char ')', .upTo 1 Pattern.feed, .draftEnd]

/-- An address between angle brackets, as group 1. -/
def bracketedAddress : Pattern :=
  .chain [.char '<', .group 1 (.star Pattern.inLine), .char '>', .star Pattern.inLine]

/-- Where a link leads: the address, the title, and what follows the link. -/
structure Destination where
  url : Draft
  title : Option Draft
  rest : Draft

/-- Reads an address between parentheses, behind the opening one. -/
def inlineDestination? (d : Draft) : Option Destination :=
  let d := d.dropWhile Text.isBlank
  match d with
  | [] => none
  | g :: r =>
    let bracketed := g.isChar '<'
    let (head, tail) := if bracketed then balanced '<' '>' 1 r else ([], d)
    let head := if bracketed then g :: head else head
    let (inner, rest) := balanced '(' ')' 1 tail
    match titleAndEnd.find? (head ++ inner) with
    | none => none
    | some m =>
      let url := m.front
      let url := if bracketed then bracketedAddress.replace (fun k => k.group 1) url else url
      some ⟨url, m.group? 3, rest⟩

/-- The name of a definition between square brackets, as group 1. -/
def definitionName : Pattern :=
  .chain [.upTo 1 Pattern.space, .maybe (.chain [.char '\n', .star Pattern.space]), .char '[',
    .group 1 (.fewStar Pattern.inLine), .char ']']

/-- What the brackets behind the text of a link turn out to be. -/
inductive Behind where
  /-- They do not make a link. -/
  | nothing
  /-- The name has no definition. -/
  | undefined
  | destination (d : Destination)

/-- Reads what stands behind the text of a link. -/
def Behind.read (m : Memory) (text rest : Draft) : Behind :=
  match rest with
  | .char '(' :: d =>
    match inlineDestination? d with
    | some d => .destination d
    | none => .nothing
  | _ =>
    match definitionName.matchAt? (.start rest) with
    | none => .nothing
    | some k =>
      let name := (k.group 1).lower
      let name := if name.isEmpty then text.lower else name
      match Memory.lookUp name m.addresses with
      | some url => .destination ⟨url, Memory.lookUp name m.titles, k.rest⟩
      | none => .undefined

/-- The attribute of a title. -/
def titleAttribute : Option Draft → Draft
  | none | some [] => []
  | some t =>
    let opening : Draft := " title=\""
    opening ++ finishMarks (encodeAttribute t) ++ [.char '"']

/-- A word of a footnote's name. -/
def footnoteName (d : Draft) : Draft :=
  d.map fun g => if g.isLike Text.isWordChar then g else .char '-'

/-- The sign that stands for a footnote. -/
def writeFootnoteSign (name : Draft) : Render Draft := do
  modify fun m => { m with references := Render.insert name m.references }
  let number := ((← get).numbering.findIdx? (Glyph.sameAll name)).getD 0
  let parts : List Draft := ["<sup class=\"footnote-ref\" id=\"fnref-", name,
    "\"><a href=\"#fn-", name, "\">", .ofText (Text.ofNat (number + 1)), "</a></sup>"]
  return parts.flatten

/-- Reads links: `done` is what stands in front of the draft, the last glyph first, and links may
begin where at most `free` glyphs are left. -/
def readLinksFrom : Nat → Nat → Draft → Draft → Render Draft
  | 0, _, done, d => return done.reverse ++ d
  | n + 1, free, done, d => do
    let head := d.takeWhile fun g => !g.isChar '['
    let done := head.reverse ++ done
    match d.drop head.length with
    | [] => return done.reverse
    | g :: r =>
      match closeBracket? r with
      | none => readLinksFrom n free (g :: done) r
      | some (text, rest) =>
        let m ← get
        let passed := (g :: text ++ [Glyph.char ']']).reverse ++ done
        let isNote := m.extras.footnotes && text.startsWith "^"
        let note := if isNote then some (footnoteName (text.drop 1)) else none
        match note with
        | some name =>
          if (Memory.lookUp name m.footnotes).isSome then
            readLinksFrom n free done ((← writeFootnoteSign name) ++ rest)
          else readLinksFrom n free passed rest
        | none =>
          match Behind.read m text rest with
          | .nothing => readLinksFrom n free (g :: done) r
          | .undefined => readLinksFrom n free passed rest
          | .destination ⟨url, title, behind⟩ =>
            let url := finishMarks (encodeAddress (.ofText url.settle))
            let title := titleAttribute title
            match done with
            | .char '!' :: done =>
              let parts : List Draft := ["<img src=\"", [← Render.address url], "\" alt=\"",
                [.piece (encodeAttribute text)], [.char '"'], title, " />"]
              readLinksFrom n behind.length (parts.flatten.reverse ++ done) behind
            | _ =>
              if r.length + 1 ≤ free then
                let parts : List Draft := ["<a href=\"", [← Render.address url], [.char '"'], title,
                  [.char '>']]
                readLinksFrom n behind.length (parts.flatten.reverse ++ done)
                  (text ++ "</a>" ++ behind)
              else readLinksFrom n free (g :: done) r

/-- Reads the links and images of a part of a document. -/
def readLinks (d : Draft) : Render Draft := readLinksFrom (d.length + 1) d.length [] d

/-! ## Bare addresses -/

/-- A letter in upper or lower case. -/
def eitherCase (c : Char) : Pattern := .one (Glyph.is fun d => Text.asciiLower d == c)

/-- A bare address, as group 1. -/
def bareAddress : Pattern :=
  .chain [.char '<', .group 1 (.chain [
    .choice (["https", "http", "ftp"].map fun s => .chain (s.toList.map eitherCase)), .char ':',
    .plus fun g => !(Pattern.blank g || Pattern.among "'\">" g)]), .char '>']

/-- Writes a bare address as a link. -/
def writeBareAddress (m : Pattern.Match) : Render Draft := do
  let url := m.group 1
  let parts : List Draft :=
    ["<a href=\"", [← Render.address (encodeAddress url)], "\">", url, "</a>"]
  return parts.flatten

/-- A mail address, as group 1. -/
def mailAddress : Pattern :=
  let part (g : Glyph) := g.isLike fun c => Text.isWordChar c || c == '-'
  .chain [.char '<', .maybe (.chain ("mailto:".toList.map eitherCase)), .group 1 (.chain [
    .plus (fun g => part g || g.isChar '.'), .char '@', .plus part,
    .many true (.chain [.char '.', .plus part]), .char '.',
    .plus (Glyph.is isCaselessLetter)]), .char '>']

/-- A text with every character written as a reference. -/
def allReferences (s : Text) : Draft :=
  .ofText (s.flatMap fun c => "&#".toList ++ Text.ofNat c.toNat ++ [';'])

/-- Writes a mail address as a link. -/
def writeMailAddress (m : Pattern.Match) : Draft :=
  let address := (m.group 1).settle
  let parts : List Draft := ["<a href=\"", allReferences ("mailto:" ++ address), "\">",
    allReferences address, "</a>"]
  parts.flatten

/-- Reads the bare addresses of a part of a document. -/
def readBareAddresses (d : Draft) : Render Draft := do
  return mailAddress.replace writeMailAddress (← bareAddress.replaceM writeBareAddress d)

end PromptPress.Markdown

import PromptPress.Markdown.Inline

/-!
# Blocks of markup

Markup that stands for itself is finished: nothing reads what is inside.  A block of markup begins
with its tag at the start of a line.  It is looked for strictly at first, counting how often the tag
is opened and closed, and then liberally, from a tag to the first end tag that ends a line.  Inline
tags that are spread over lines, rules and comments follow.
-/

namespace PromptPress.Markdown

/-- A tag that begins with what stands in front of its name. -/
def beginsTag : Pattern :=
  .chain [.fewStar Pattern.inLine, .char '<', .one Pattern.solid, .fewStar Pattern.inLine,
    .star Pattern.blank, .char '>']

/-- Finishes a block, and sets it apart from what surrounds it. -/
def setApart (d : Draft) : Draft := "\n\n" ++ [Glyph.block d] ++ "\n\n"

/-- Finishes a block of markup.  Its first line has to begin a tag. -/
def finishMarkup (d : Draft) : Render Draft :=
  if beginsTag.opens d then pure (setApart d) else throw []

/-- A tag at the start of a line, its name as group 1. -/
def lineTag (names : List String) : Pattern :=
  .chain [.maybe (.chain [.word "</code>", .look true (.word "</pre>")]), .char '<',
    .upTo 1 (Glyph.isChar '/'), .group 1 (.choice (names.map Pattern.word)), nameEnd,
    .upTo 1 (Glyph.isChar '>')]

/-- The state of looking for blocks of markup: how many tags are open, the name that counts once one
is open, the lines of the block so far, and what is done. -/
structure TagCount where
  level : Int := 0
  name : Option String := none
  block : Draft := []
  done : Draft := []

/-- Takes in a line; `finish` makes what becomes of a block. -/
def TagCount.step (names : List String) (finish : Draft → Render Draft) (s : TagCount)
    (line : Draft) : Render TagCount := do
  let found := (lineTag ((s.name.map ([·])).getD names)).matchAt? (.start line)
  let block := s.block ++ line
  let (level, name, isTag) : Int × Option String × Bool :=
    match found with
    | none => (s.level, s.name, false)
    | some m =>
      let name := String.ofList (m.group 1).settle
      if line.startsWith "</" then (s.level - 1, s.name, true)
      else if isBalanced name line then (s.level, s.name, false)
      else (s.level + 1, some name, true)
  if level = 0 then
    let block ← if isTag then finish block.dropLastFeeds else pure block
    return { level := 0, name := none, block := [], done := s.done ++ block }
  else return { level := level, name := name, block := block, done := s.done }

/-- Finishes the blocks whose tags are opened and closed equally often. -/
def finishNested (names : List String) (finish : Draft → Render Draft) (d : Draft) :
    Render Draft := do
  let lines := d.linesWithEnds.map fun (l, e) => l ++ e
  let s ← lines.foldlM (TagCount.step names finish) {}
  return s.done ++ s.block

/-- A block from a tag at the start of a line to the first end tag that ends a line. -/
def looseBlock : Pattern :=
  .chain [.lineStart, .char '<', .group 1 (.choice (blockTags.map Pattern.word)), nameEnd,
    .many false (.chain [.star Pattern.inLine, .char '\n']), .star Pattern.inLine, .word "</",
    .same 1, .char '>', .star Pattern.gap, .here Cursor.atLineEnd]

/-- A rule that is written as a tag, as group 1. -/
def ruleTag : Pattern :=
  .chain [.choice [.here Cursor.behindBlankLine, .draftStart], .group 1 (.chain [
    .upTo 3 Pattern.space, .word "<hr", nameEnd, .fewStar (Pattern.notAmong "<>"),
    .upTo 1 (Glyph.isChar '/'), .char '>', .star Pattern.gap,
    .look true (.choice [.word "\n\n", .draftEnd])])]

/-! ## Comments -/

/-- The width of a draft. -/
def width (d : Draft) : Nat := d.foldr (fun g n => g.width + n) 0

/-- Splits a draft at a width; a piece that lies across is in front. -/
def splitAtWidth : Nat → Draft → Draft × Draft
  | 0, d => ([], d)
  | _, [] => ([], [])
  | n, g :: d =>
    let (a, b) := splitAtWidth (n - g.width) d
    (g :: a, b)

/-- Takes off the margin of a comment, from what stands in front of it, the last glyph first.  There
is none where the comment stands in a line with text or right behind a line. -/
def dropMargin? (before : Draft) : Option Draft :=
  let spaces := (before.take 3).takeWhile Pattern.space
  match before.drop spaces.length with
  | [] => some []
  | [.char '\n'] => some []
  | .char '\n' :: .char '\n' :: r => some (.char '\n' :: .char '\n' :: r)
  | _ => none

/-- Is what stands behind a comment blank, up to the next empty line? -/
def endsBlock : Draft → Bool
  | [] => true
  | [.char '\n'] => true
  | .char '\n' :: .char '\n' :: _ => true
  | _ => false

/-- Finishes the comments that are blocks, from a width on.  Looking goes on as far behind the start
of the draft as the end of the comment was. -/
def finishCommentsFrom : Nat → Nat → Draft → Draft
  | 0, _, d => d
  | n + 1, start, d =>
    let (front, tail) := splitAtWidth start d
    match tail.cutAt? "<!--" with
    | none => d
    | some (a, r) =>
      match Draft.cutAt? ("<!--" ++ r) "-->" with
      | none => d
      | some (inner, after) =>
        let before := front ++ a
        let comment := inner ++ "-->"
        let next := width before + width comment
        match dropMargin? before.reverse with
        | none => d
        | some kept =>
          let behind := after.dropWhile Text.isSpaceOrTab
          if endsBlock behind then
            let margin := before.drop kept.length
            let block := margin ++ comment ++ after.take (after.length - behind.length)
            finishCommentsFrom n next (kept.reverse ++ setApart block ++ behind)
          else finishCommentsFrom n next d

/-- Finishes the comments that are blocks. -/
def finishComments (d : Draft) : Draft := finishCommentsFrom d.length 0 d

/-- Finishes the blocks of markup in a document. -/
def finishRawBlocks (d : Draft) : Render Draft := do
  if !d.has '<' then return d
  let d ← finishNested (blockTags ++ changeTags) finishMarkup d
  let d := looseBlock.replace (fun m => setApart m.whole) d
  let d ← finishNested inlineTags (fun block => do finishMarkup (← readInline block)) d
  let d := if d.hasPart "<hr" then ruleTag.replace (fun m => setApart (m.group 1)) d else d
  return if d.hasPart "<!--" then finishComments d else d

end PromptPress.Markdown

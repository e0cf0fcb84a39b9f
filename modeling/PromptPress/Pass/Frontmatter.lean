import PromptPress.Text.Blank

/-!
# Front matter

A document may open with a block between two delimiter lines, each three dashes with nothing but
spaces and tabs behind them.  The line under the first delimiter always belongs to the block, so
the earliest line that can close it is the third one of the document.
-/

namespace PromptPress.Pass

/-- A line of three dashes, spaces and tabs behind them apart. -/
def isDelimiter (line : Text) : Bool :=
  match Text.dropFront? "---" line with
  | some r => r.all Text.isSpaceOrTab
  | none => false

/-- The lines behind the block, if the lines open with one. -/
def afterFrontmatter? : List Text → Option (List Text)
  | first :: _ :: rest =>
    if isDelimiter first then
      match rest.dropWhile (! isDelimiter ·) with
      | [] => none
      | _ :: after => some after
    else none
  | _ => none

/-- The text without the block that it opens with. -/
def stripFrontmatter (s : Text) : Text :=
  match afterFrontmatter? (Text.splitAtChar '\n' s) with
  | some after => Text.joinWith ['\n'] after
  | none => s

end PromptPress.Pass

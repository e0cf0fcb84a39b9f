import PromptPress.Text.Basic

/-!
# Comments

A comment begins with `<!--` and ends at the first `-->` behind it.  Where none follows, the text
stays as it is.
-/

namespace PromptPress.Pass

/-- Drops the comments; at most `fuel` of them. -/
def stripCommentsFrom : Nat → Text → Text
  | 0, s => s
  | fuel + 1, s =>
    match Text.cutAt? "<!--" s with
    | none => s
    | some (before, r) =>
      match Text.cutAt? "-->" r with
      | none => s
      | some (_, after) => before ++ stripCommentsFrom fuel after

/-- The text without its comments. -/
def stripComments (s : Text) : Text := stripCommentsFrom s.length s

end PromptPress.Pass

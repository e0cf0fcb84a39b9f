import PromptPress.Slot.Scan

/-!
# The placeholders of a text

The slots of a text declare its placeholders.  Each declaration is listed once, at its first
occurrence and with the spelling used there.
-/

namespace PromptPress.Placeholder

/-- Keeps the first placeholder of each key; `seen` holds the keys met so far. -/
def firstsFrom (seen : List Text) : List Placeholder → List Placeholder
  | [] => []
  | p :: ps =>
    if seen.contains p.key then firstsFrom seen ps
    else p :: firstsFrom (p.key :: seen) ps

/-- The placeholders that the slots of a text declare. -/
def ofText (s : Text) : List Placeholder := firstsFrom [] ((Slot.all s).map Slot.placeholder)

end PromptPress.Placeholder

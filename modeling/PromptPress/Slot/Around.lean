import PromptPress.Slot.Scan
import PromptPress.Text.Around

/-!
# Reading a slot at a place

A slot can be read at any place of a text, and the place may be counted from the end.  Then the
slot may reach beyond the end of the text, and what is taken out for it is what stands between its
places.
-/

namespace PromptPress

/-- A slot that was read, with the places where it starts and stops. -/
structure SlotReading where
  raw : Text
  name : Text
  modifier : Option Modifier
  typeName : Option Text
  start : Int
  stop : Int
  deriving DecidableEq

/-- The modifier of a mark. -/
def Mark.modifier? : Mark → Option Modifier
  | modifier m => some m
  | _ => none

/-- The type that a mark declares. -/
def Mark.declared? : Mark → Option Text
  | declared t => some t
  | _ => none

/-- What is read where a token is a slot. -/
def Token.reading? (t : Token) : Option SlotReading :=
  match t.run with
  | .item slot =>
    some ⟨slot.written, slot.name, slot.mark.modifier?, slot.mark.declared?, t.start, t.stop⟩
  | .literal _ => none

namespace Slot

/-- What is taken out of a text for a slot that was read from a place on. -/
def takenFrom (s : Text) (start : Int) (slot : Slot) : SlotReading :=
  let stop := start + slot.written.length
  let behindName := start + 1 + slot.name.length
  { raw := Text.stretch s start stop
    name := Text.stretch s (start + 1) behindName
    modifier := slot.mark.modifier?
    typeName := slot.mark.declared?.map fun _ => Text.stretch s (behindName + 1) (stop - 1)
    start := start
    stop := stop }

/-- Reads a slot at a place that is counted from the end.  Nothing can be read in front of the
text. -/
def readBelow (s : Text) (i : Int) : Except Error (Option SlotReading) :=
  match s.drop (Text.placeAt s i) with
  | '{' :: _ =>
    if i + 1 < -(s.length : Int) then .error Text.noSuchPlace
    else .ok ((read? ('{' :: Text.onFrom s (i + 1))).map fun (slot, _) => takenFrom s i slot)
  | _ => .ok none

/-- Reads a slot at a place of a text. -/
def readAt (s : Text) (i : Int) : Except Error (Option SlotReading) :=
  if 0 ≤ i then .ok ((Token.slotAt? s i.toNat).bind Token.reading?) else readBelow s i

end Slot

end PromptPress

import PromptPress.Slot.Scan
import PromptPress.Text.Digit
import PromptPress.Text.Around

/-!
# Shielding slots

Rendering would take the marks inside a slot for Markdown.  So each slot of a text is replaced by a
sentinel, a word that no rule changes, and put back when the rendering is done.  A sentinel is a
mark that does not occur in the text, the number of the slot, and an `X`.

A backslash escapes the character behind it.  Where a slot is escaped, its backslash is taken away
together with it.
-/

namespace PromptPress.PlainText

/-- Is the place behind a text escaped by the backslashes at the end of the text? -/
def endsEscaped (s : Text) : Bool := (s.reverse.takeWhile (· == '\\')).length % 2 == 1

/-- Is a place of a text escaped, if only the backslashes from `floor` on count? -/
def isEscaped (s : Text) (place floor : Nat) : Bool := endsEscaped ((s.take place).drop floor)

/-- Is a place of a text escaped, if the backslashes from `floor` on count?  A floor below zero
counts from the end, and the backslashes there count as if they stood in front of the text. -/
def isEscapedFrom (s : Text) (floor : Int) (place : Nat) : Except Error Bool :=
  if 0 ≤ floor then .ok (isEscaped s place floor.toNat)
  else
    let back := Text.backBeyond s place floor.natAbs
    if s.length < floor.natAbs ∧ back.all (· == '\\') then .error Text.noSuchPlace
    else .ok (endsEscaped back.reverse)

/-- Literal text in front of a slot, without the backslash that escapes the slot. -/
def withoutEscape (s : Text) : Text := if endsEscaped s then s.dropLast else s

/-- The sentinel of a number. -/
def sentinel (mark : Text) (n : Nat) : Text := mark ++ Text.ofNat n ++ ['X']

/-- Writes runs with sentinels in the place of the slots, from a number on. -/
def shieldFrom (mark : Text) : Nat → List (Run Slot) → Text
  | _, [] => []
  | n, .item _ :: rs => sentinel mark n ++ shieldFrom mark (n + 1) rs
  | n, .literal t :: .item _ :: rs =>
    withoutEscape t ++ sentinel mark n ++ shieldFrom mark (n + 1) rs
  | n, .literal t :: rs => t ++ shieldFrom mark n rs

/-- A text whose slots are replaced. -/
structure Shield where
  mark : Text
  /-- The slots as they were written. -/
  raws : List Text
  text : Text

namespace Shield

/-- The mark of a number. -/
def markOf (n : Nat) : Text := "MDPH" ++ Text.hex 12 n ++ ['X']

/-- A mark that does not occur in the text. -/
def freshMark (s : Text) : Text :=
  markOf (((List.range (s.length + 1)).find? fun n => !Text.hasPart (markOf n) s).getD 0)

/-- Replaces the slots of a text. -/
def ofText (mark s : Text) : Shield where
  mark := mark
  raws := (Slot.all s).map Slot.written
  text := shieldFrom mark 0 (Run.group (Slot.atoms s))

/-- What is said of a sentinel whose number no slot has. -/
def unknownSentinel : Error := .fault .index "list index out of range"

/-- The number of the sentinel at the front of a text, and the length of the sentinel. -/
def readSentinel? (mark s : Text) : Option (Nat × Nat) :=
  match Text.dropFront? mark s with
  | none => none
  | some r =>
    let digits := r.takeWhile Text.isDecimal
    match digits, r.drop digits.length with
    | _ :: _, 'X' :: _ => some (Text.decimalNumber digits, mark.length + digits.length + 1)
    | _, _ => none

/-- Puts slots in the place of sentinels; `skip` characters of the sentinel met last are still to be
passed over. -/
def restoreFrom (sh : Shield) : Nat → Text → Except Error Text
  | _, [] => .ok []
  | skip + 1, _ :: s => restoreFrom sh skip s
  | 0, c :: s =>
    match readSentinel? sh.mark (c :: s) with
    | none => (restoreFrom sh 0 s).map (c :: ·)
    | some (n, length) =>
      match sh.raws[n]? with
      | none => .error unknownSentinel
      | some raw => (restoreFrom sh (length - 1) s).map (raw ++ ·)

/-- Puts the slots back into a text; without slots the text stays as it is. -/
def restore (sh : Shield) (s : Text) : Except Error Text :=
  if sh.raws.isEmpty then .ok s else restoreFrom sh 0 s

end Shield

end PromptPress.PlainText

import PromptPress.Error

/-!
# Places counted from the end

A place below zero counts from the end of a text.  A reader that starts at such a place and passes
the end goes on at the start of the text, and one that goes back beyond the start goes on at the
end.  What is taken out of a text between two places is nothing if the second one does not lie
behind the first.
-/

namespace PromptPress.Text

/-- The place that a number stands for.  What lies in front of the text counts as its start. -/
def placeAt (s : Text) (i : Int) : Nat := if i < 0 then (s.length + i).toNat else i.toNat

/-- The stretch between two places. -/
def stretch (s : Text) (i j : Int) : Text := (s.take (placeAt s j)).drop (placeAt s i)

/-- What a reader meets from a place on. -/
def onFrom (s : Text) (i : Int) : Text :=
  if i < 0 then s.drop (placeAt s i) ++ s else s.drop i.toNat

/-- What a reader meets who goes back from a place and stops `n` characters beyond the start. -/
def backBeyond (s : Text) (place n : Nat) : Text := (s.take place).reverse ++ s.reverse.take n

/-- What is said of a place in front of the text. -/
def noSuchPlace : Error := .fault .index "string index out of range"

end PromptPress.Text

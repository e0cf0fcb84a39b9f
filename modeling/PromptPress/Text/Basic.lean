/-!
# Texts

Every text of the library, a document, a template, generated code or a message, is a list of
characters.  A string literal stands for its characters, so that messages and code can be written
as literals and joined with `++`.

`cutAt?` splits a text at the first place where another text occurs, `replaceAll` and `splitOn` are
built on the same scan, and `joinWith` puts a separator between texts.
-/

namespace PromptPress

/-- A text: its characters, in order. -/
abbrev Text := List Char

/-- A string literal stands for its characters. -/
instance : Coe String Text := ⟨String.toList⟩

namespace Text

/-- Removes `p` from the front of a text, if the text starts with it. -/
def dropFront? : Text → Text → Option Text
  | [], s => some s
  | _ :: _, [] => none
  | a :: p, c :: s => if a = c then dropFront? p s else none

theorem dropFront?_eq_some {p s r : Text} : dropFront? p s = some r ↔ s = p ++ r := by
  induction p generalizing s with
  | nil => simp [dropFront?, eq_comm]
  | cons a p ih =>
    cases s with
    | nil => simp [dropFront?]
    | cons c s =>
      by_cases h : a = c
      · simp [dropFront?, h, ih]
      · simp [dropFront?, h, Ne.symm h]

theorem length_of_dropFront? {p s r : Text} (h : dropFront? p s = some r) :
    s.length = p.length + r.length := by
  rw [dropFront?_eq_some.1 h, List.length_append]

/-- Splits a text at the first occurrence of `p`: what stands before it and what stands after. -/
def cutAt? (p : Text) : Text → Option (Text × Text)
  | [] => if p.isEmpty then some ([], []) else none
  | c :: s =>
    match dropFront? p (c :: s) with
    | some r => some ([], r)
    | none => (cutAt? p s).map fun (a, b) => (c :: a, b)

/-- Does `p` occur in the text? -/
def hasPart (p s : Text) : Bool := (cutAt? p s).isSome

/-- The pieces of a text between the occurrences of a character. -/
def splitAtChar (sep : Char) : Text → List Text
  | [] => [[]]
  | c :: s =>
    if c = sep then [] :: splitAtChar sep s
    else
      match splitAtChar sep s with
      | [] => [[c]]
      | p :: ps => (c :: p) :: ps

/-- The texts one after another, with `sep` between each two. -/
def joinWith (sep : Text) : List Text → Text
  | [] => []
  | [s] => s
  | s :: t :: ss => s ++ sep ++ joinWith sep (t :: ss)

/-- Replaces each occurrence of `old`, from left to right; `skip` characters of the occurrence met
last are still to be passed over. -/
def replaceFrom (old new : Text) : Nat → Text → Text
  | _, [] => []
  | skip + 1, _ :: s => replaceFrom old new skip s
  | 0, c :: s =>
    if (dropFront? old (c :: s)).isSome then new ++ replaceFrom old new (old.length - 1) s
    else c :: replaceFrom old new 0 s

/-- Replaces every occurrence of `old` by `new`; an empty `old` occurs around every character. -/
def replaceAll (old new s : Text) : Text :=
  match old with
  | [] => new ++ s.flatMap fun c => c :: new
  | _ :: _ => replaceFrom old new 0 s

/-- The decimal digits of a number. -/
def ofNat (n : Nat) : Text := Nat.toDigits 10 n

/-- The decimal digits of a number, after a minus sign if it is negative. -/
def ofInt (n : Int) : Text :=
  if n < 0 then '-' :: ofNat n.natAbs else ofNat n.natAbs

/-- The lower-case hexadecimal digits of a number, at least `width` of them. -/
def hex (width n : Nat) : Text :=
  let ds := Nat.toDigits 16 n
  List.replicate (width - ds.length) '0' ++ ds

/-- Is `a` before `b` in the order of code points? -/
def lt : Text → Text → Bool
  | [], [] => false
  | [], _ :: _ => true
  | _ :: _, [] => false
  | a :: s, b :: t => a < b || (a == b && lt s t)

/-- Is `a` before `b` in the order of code points, or equal to it? -/
def le (a b : Text) : Bool := !lt b a

end Text

end PromptPress

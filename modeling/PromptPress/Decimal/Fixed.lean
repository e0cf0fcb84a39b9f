import PromptPress.Decimal.Shortest

/-!
# Floats with a fixed number of places

A float is a whole number times a power of two, so its digits up to some place are found exactly: a
value between two numbers with that many places goes to the nearer one, and one that lies halfway
goes to the number that ends with an even digit.
-/

namespace PromptPress.Decimal

/-- The nearest whole number; halfway between two of them, the even one. -/
def Ratio.nearest (x : Ratio) : Nat :=
  let low := x.num / x.den
  let rest := x.num % x.den
  if 2 * rest < x.den ∨ (2 * rest = x.den ∧ low % 2 = 0) then low else low + 1

/-- The size of a finite float. -/
def size (x : Float) : Ratio :=
  let b := Binary.ofBits (sizeBits x)
  .ofBinary b.mantissa b.exponent

/-- The digits of a number that counts units of the last of `places` places, with the point. -/
def placed (places n : Nat) : Text :=
  let digits := Text.ofNat n
  let all := List.replicate (places + 1 - digits.length) '0' ++ digits
  let whole := all.length - places
  if places = 0 then all else all.take whole ++ '.' :: all.drop whole

/-- The text of a float with so many places behind the point, its sign left out. -/
def fixed (places : Nat) (x : Float) : Text :=
  if x.isNaN then "nan"
  else if x.isInf then "inf"
  else
    placed places ((size x).unscale (-places)).nearest

/-- The whole number next to a finite float on the side of zero. -/
def truncated (x : Float) : Int :=
  let v := size x
  let n := v.num / v.den
  if isSigned x then -n else n

end PromptPress.Decimal

import PromptPress.Text.Basic

/-!
# The shortest decimal text of a float

A positive float is `m * 2 ^ q`, and every real number nearer to it than to its neighbours reads
back as that float.  On the grid of `n` significant decimal digits only the two points next to the
value can lie in that interval, so the first grid with a hit has the fewest digits, and of two hits
the nearer one is taken.
-/

namespace PromptPress.Decimal

/-- A positive float as `mantissa * 2 ^ exponent`; `narrowBelow` says that the gap to the next
float below is half of the gap above. -/
structure Binary where
  mantissa : Nat
  exponent : Int
  narrowBelow : Bool

/-- The place value of the bit in front of the fraction, the bit 52. -/
def hiddenBit : Nat := 0x10000000000000

/-- The place value of the sign, the bit 63. -/
def signBit : Nat := 0x8000000000000000

/-- The bits of a float without its sign. -/
def sizeBits (x : Float) : Nat := x.toBits.toNat % signBit

/-- Is the sign of a float set? -/
def isSigned (x : Float) : Bool := signBit ≤ x.toBits.toNat

/-- Decodes the bits of a finite float, its sign left out. -/
def Binary.ofBits (bits : Nat) : Binary :=
  let fraction := bits % hiddenBit
  let biased := bits / hiddenBit % 0x800
  if biased = 0 then ⟨fraction, -1074, false⟩
  else ⟨hiddenBit + fraction, (biased : Int) - 1075, fraction = 0 ∧ 1 < biased⟩

/-- A nonnegative rational number, as a numerator over a denominator. -/
structure Ratio where
  num : Nat
  den : Nat

/-- The rational number `m * 2 ^ q`. -/
def Ratio.ofBinary (m : Nat) (q : Int) : Ratio :=
  if q < 0 then ⟨m, Nat.pow 2 q.natAbs⟩ else ⟨m * Nat.pow 2 q.toNat, 1⟩

/-- The rational number `d * 10 ^ e`. -/
def Ratio.ofDecimal (d : Nat) (e : Int) : Ratio :=
  if e < 0 then ⟨d, Nat.pow 10 e.natAbs⟩ else ⟨d * Nat.pow 10 e.toNat, 1⟩

/-- The rational number divided by `10 ^ e`. -/
def Ratio.unscale (e : Int) (x : Ratio) : Ratio :=
  if e < 0 then ⟨x.num * Nat.pow 10 e.natAbs, x.den⟩ else ⟨x.num, x.den * Nat.pow 10 e.toNat⟩

/-- The order of rational numbers. -/
def Ratio.le (a b : Ratio) : Bool := a.num * b.den ≤ b.num * a.den

/-- The strict order of rational numbers. -/
def Ratio.lt (a b : Ratio) : Bool := a.num * b.den < b.num * a.den

/-- Does the decimal `d * 10 ^ e` read back as the float? -/
def Binary.readsBack (b : Binary) (d : Nat) (e : Int) : Bool :=
  let x := Ratio.ofDecimal d e
  let above := Ratio.ofBinary (4 * b.mantissa + 2) (b.exponent - 2)
  let below := Ratio.ofBinary (4 * b.mantissa - if b.narrowBelow then 1 else 2) (b.exponent - 2)
  if b.mantissa % 2 = 0 then below.le x && x.le above else below.lt x && x.lt above

/-- The largest `e` at most `start` with `10 ^ e ≤ x`, for a positive `x`. -/
def magnitude (x : Ratio) : Nat → Int → Int
  | 0, e => e
  | fuel + 1, e => if (Ratio.ofDecimal 1 e).le x then e else magnitude x fuel (e - 1)

/-- The point of the grid `10 ^ e` next to the value that reads back, if there is one. -/
def Binary.onGrid? (b : Binary) (e : Int) : Option Nat :=
  let scaled := (Ratio.ofBinary b.mantissa b.exponent).unscale e
  let low := scaled.num / scaled.den
  let rest := scaled.num % scaled.den
  match b.readsBack low e, b.readsBack (low + 1) e with
  | true, true =>
    if 2 * rest < scaled.den ∨ (2 * rest = scaled.den ∧ low % 2 = 0) then some low
    else some (low + 1)
  | true, false => some low
  | false, true => some (low + 1)
  | false, false => none

/-- The fewest digits that read back, as `d * 10 ^ e`, tried on finer and finer grids. -/
def Binary.shortestFrom (b : Binary) : Nat → Int → Nat × Int
  | 0, e => ((b.onGrid? e).getD 0, e)
  | fuel + 1, e =>
    match b.onGrid? e with
    | some d => (d, e)
    | none => b.shortestFrom fuel (e - 1)

/-- The fewest digits that read back, as `d * 10 ^ e`. -/
def Binary.shortest (b : Binary) : Nat × Int :=
  b.shortestFrom 17 (magnitude (Ratio.ofBinary b.mantissa b.exponent) 640 309)

/-- How the texts of floats look. -/
structure Format where
  /-- The text of what is not a number. -/
  nan : Text
  /-- The text of the positive infinity. -/
  infinity : Text
  /-- Values below ten to this power are written without an exponent. -/
  positionalBelow : Int := 16
  /-- Values at least ten to this power are written without an exponent. -/
  positionalFrom : Int := -4

/-- Drops the zeros at the end of the digits. -/
def trimZeros (ds : Text) : Text := (ds.reverse.dropWhile (· == '0')).reverse

/-- Writes digits with the point after the first `k + 1` of them. -/
def positional (ds : Text) (k : Int) : Text :=
  if k < 0 then "0." ++ List.replicate (k.natAbs - 1) '0' ++ ds
  else
    let whole := ds.take (k.toNat + 1)
    let rest := ds.drop (k.toNat + 1)
    whole ++ List.replicate (k.toNat + 1 - whole.length) '0' ++ "." ++
      (if rest.isEmpty then ['0'] else rest)

/-- Writes digits with the point after the first and the power of ten behind an `e`. -/
def scientific (ds : Text) (k : Int) : Text :=
  let point : Text := if ds.length ≤ 1 then [] else '.' :: ds.drop 1
  let power := Text.ofNat k.natAbs
  ds.take 1 ++ point ++ "e" ++ (if k < 0 then ['-'] else ['+']) ++
    (if power.length < 2 then '0' :: power else power)

/-- The text of a positive finite float. -/
def positive (f : Format) (bits : Nat) : Text :=
  let (d, e) := (Binary.ofBits bits).shortest
  let all := Text.ofNat d
  let k := e + all.length - 1
  let ds := trimZeros all
  if f.positionalFrom ≤ k ∧ k < f.positionalBelow then positional ds k else scientific ds k

/-- The text of a float. -/
def ofFloat (f : Format) (x : Float) : Text :=
  let sign : Text := if isSigned x then ['-'] else []
  if x.isNaN then f.nan
  else if x.isInf then sign ++ f.infinity
  else if sizeBits x = 0 then sign ++ "0.0"
  else sign ++ positive f (sizeBits x)

end PromptPress.Decimal

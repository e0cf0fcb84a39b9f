import PromptPress.Text.Basic

/-!
# Bytes and texts

`encode` writes a text in UTF-8.  `decode` reads bytes in one of three encodings; where bytes stand
for no text, the error says which of them and why.
-/

namespace PromptPress

/-- A sequence of bytes. -/
abbrev Bytes := List UInt8

namespace Bytes

/-- The bytes of a character in UTF-8: each byte but the first holds six bits of the code point. -/
def encodeChar (c : Char) : Bytes :=
  let n := c.toNat
  let tail (unit : Nat) : UInt8 := UInt8.ofNat (0x80 + n / unit % 0x40)
  if n < 0x80 then [UInt8.ofNat n]
  else if n < 0x800 then [UInt8.ofNat (0xc0 + n / 0x40), tail 1]
  else if n < 0x10000 then [UInt8.ofNat (0xe0 + n / 0x1000), tail 0x40, tail 1]
  else [UInt8.ofNat (0xf0 + n / 0x40000), tail 0x1000, tail 0x40, tail 1]

/-- The bytes of a text in UTF-8. -/
def encode (s : Text) : Bytes := s.flatMap encodeChar

/-- The encodings that documents may have. -/
inductive Encoding where
  | utf8
  | ascii
  | latin1
  deriving DecidableEq

/-- The name of an encoding in messages. -/
def Encoding.name : Encoding → Text
  | utf8 => "utf-8"
  | ascii => "ascii"
  | latin1 => "latin-1"

/-- Why some bytes cannot be read: the first of them, their number, and the reason. -/
structure DecodeError where
  encoding : Encoding
  start : Nat
  count : Nat
  first : UInt8
  reason : Text

/-- The wording of a decoding error. -/
def DecodeError.text (e : DecodeError) : Text :=
  "'" ++ e.encoding.name ++ "' codec can't decode " ++
    (if e.count = 1 then
      "byte 0x" ++ Text.hex 2 e.first.toNat ++ " in position " ++ Text.ofNat e.start
    else
      "bytes in position " ++ Text.ofNat e.start ++ "-" ++ Text.ofNat (e.start + e.count - 1)) ++
    ": " ++ e.reason

/-- A byte that continues a character. -/
def isTail (b : UInt8) : Bool := 0x80 ≤ b && b < 0xc0

/-- May `b` follow the first byte `a` of a character? -/
def isSecond (a b : UInt8) : Bool :=
  isTail b && !(a == 0xe0 && b < 0xa0) && !(a == 0xed && 0xa0 ≤ b) &&
    !(a == 0xf0 && b < 0x90) && !(a == 0xf4 && 0x90 ≤ b)

/-- The number of bytes of a character with this first byte; zero if no character starts so. -/
def sizeOfFirst (a : UInt8) : Nat :=
  if a < 0x80 then 1
  else if a < 0xc2 then 0
  else if a < 0xe0 then 2
  else if a < 0xf0 then 3
  else if a < 0xf5 then 4
  else 0

/-- How many of the bytes after the first one fit, up to the size of the character. -/
def goodBytes (a : UInt8) (size : Nat) (rest : Bytes) : Nat :=
  match rest.take (size - 1) with
  | [] => 1
  | b :: bs => if isSecond a b then 2 + (bs.takeWhile isTail).length else 1

/-- The character that complete bytes stand for. -/
def charOf (a : UInt8) (size : Nat) (rest : Bytes) : Char :=
  let top := if size ≤ 1 then a.toNat else a.toNat % (0x80 >>> size)
  Char.ofNat ((rest.take (size - 1)).foldl (fun n b => n * 64 + b.toNat % 64) top)

/-- Reads UTF-8; `skip` bytes belong to the character read last, `at` is the place of the next. -/
def decodeUtf8From : Nat → Nat → Bytes → Except DecodeError Text
  | _, _, [] => .ok []
  | skip + 1, place, _ :: bs => decodeUtf8From skip (place + 1) bs
  | 0, place, a :: bs =>
    let size := sizeOfFirst a
    if size = 0 then .error ⟨.utf8, place, 1, a, "invalid start byte"⟩
    else
      let good := goodBytes a size bs
      if good = size then
        (decodeUtf8From (size - 1) (place + 1) bs).map (charOf a size bs :: ·)
      else if bs.length + 1 = good then
        .error ⟨.utf8, place, good, a, "unexpected end of data"⟩
      else .error ⟨.utf8, place, good, a, "invalid continuation byte"⟩

/-- Reads ASCII. -/
def decodeAsciiFrom : Nat → Bytes → Except DecodeError Text
  | _, [] => .ok []
  | place, b :: bs =>
    if b < 0x80 then (decodeAsciiFrom (place + 1) bs).map (Char.ofNat b.toNat :: ·)
    else .error ⟨.ascii, place, 1, b, "ordinal not in range(128)"⟩

/-- Reads bytes in an encoding. -/
def decode (e : Encoding) (bs : Bytes) : Except DecodeError Text :=
  match e with
  | .utf8 => decodeUtf8From 0 0 bs
  | .ascii => decodeAsciiFrom 0 bs
  | .latin1 => .ok (bs.map fun b => Char.ofNat b.toNat)

/-- The encoding of a name. -/
def Encoding.ofName? (s : Text) : Option Encoding :=
  let name := String.ofList ((s.map fun c => if c = '_' ∨ c = ' ' then '-' else c.toLower))
  if name ∈ ["utf-8", "utf8", "u8", "utf", "cp65001"] then some .utf8
  else if name ∈ ["ascii", "us-ascii", "646"] then some .ascii
  else if name ∈ ["latin-1", "latin1", "latin", "iso-8859-1", "iso8859-1", "8859", "l1", "cp819"]
    then some .latin1
  else none

end Bytes

end PromptPress

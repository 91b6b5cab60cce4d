/-!
# Double-precision numbers

A `Binary64` is the bit pattern of a double-precision number. Numbers are passed on, never computed
with, so the pattern is the value: the two zeros, the infinities and every NaN stay apart.

Two conversions produce a pattern: `Binary64.ofInt` rounds an integer to the nearest number, a tie
going to the even one, and `Binary64.ofBinary32` widens a single-precision number, which is exact.
-/

namespace PreparedFilter

/-- A double-precision number, held as its 64 bits. -/
structure Binary64 where
  bits : UInt64
  deriving DecidableEq, Inhabited

namespace Binary64

/-! ## Fields -/

/-- The sign bit. -/
def isNegative (x : Binary64) : Bool := decide (0x8000000000000000 ≤ x.bits.toNat)

/-- The eleven bits of the biased exponent. -/
def exponentField (x : Binary64) : Nat := (x.bits.toNat >>> 52) % 0x800

/-- The fifty-two bits of the fraction. -/
def fractionField (x : Binary64) : Nat := x.bits.toNat % 0x10000000000000

/-- Neither an infinity nor a NaN. -/
def isFinite (x : Binary64) : Bool := decide (x.exponentField ≠ 0x7ff)

/-- Not a number. -/
def isNaN (x : Binary64) : Bool := !x.isFinite && decide (x.fractionField ≠ 0)

/-- The bit that normal numbers have in front of their fraction. -/
def leadingBit : Nat := 0x10000000000000

/-- The magnitude of a finite number is `mantissa * 2 ^ exponent`. -/
def mantissa (x : Binary64) : Nat :=
  if x.exponentField = 0 then x.fractionField else leadingBit + x.fractionField

/-- The power of two that goes with `mantissa`. -/
def exponent (x : Binary64) : Int :=
  if x.exponentField = 0 then -1074 else (x.exponentField : Int) - 1075

/-- Assembles a pattern from a sign and the lower sixty-three bits. -/
def ofFields (negative : Bool) (magnitude : Nat) : Binary64 :=
  ⟨UInt64.ofNat ((if negative then 0x8000000000000000 else 0) + magnitude)⟩

/-- The pattern of `mantissa * 2 ^ (k - 52)` for a mantissa between `2 ^ 52` and `2 ^ 53`. The upper
end is allowed: it carries into the exponent field, which is the right number. -/
def normalField (k : Int) (mantissa : Nat) : Nat := ((k + 1022).toNat <<< 52) + mantissa

/-! ## Conversions -/

/-- `n / 2 ^ shift`, rounded to the nearest integer; a tie goes to the even one. -/
def roundShift (n shift : Nat) : Nat :=
  let unit := 1 <<< shift
  let quotient := n / unit
  let twice := 2 * (n % unit)
  if twice < unit then quotient
  else if unit < twice then quotient + 1
  else quotient + quotient % 2

/-- The lower sixty-three bits of the number nearest to `n`. -/
def natField (n : Nat) : Nat :=
  if n = 0 then 0
  else if n.log2 ≤ 52 then normalField n.log2 (n <<< (52 - n.log2))
  else normalField n.log2 (roundShift n (n.log2 - 52))

/-- The number nearest to an integer; a tie goes to the one with an even mantissa. Meant for
integers of 64 bits, which are far inside the range. -/
def ofInt (n : Int) : Binary64 := ofFields (decide (n < 0)) (natField n.natAbs)

/-- The lower sixty-three bits of the number with single-precision exponent field `e` and fraction
field `f`. A NaN keeps its fraction and becomes a quiet one. -/
def widenedField (e f : Nat) : Nat :=
  if e = 255 then
    (0x7ff <<< 52) + (if f = 0 then 0 else (1 <<< 51) + ((f % 0x400000) <<< 29))
  else if e = 0 then
    if f = 0 then 0 else normalField (f.log2 - 149) (f <<< (52 - f.log2))
  else normalField (e - 127) ((0x800000 + f) <<< 29)

/-- The single-precision number with the given 32 bits. -/
def ofBinary32 (bits : UInt32) : Binary64 :=
  let n := bits.toNat
  ofFields (decide (0x80000000 ≤ n)) (widenedField ((n >>> 23) % 0x100) (n % 0x800000))

example : (ofInt (-7)).bits = 0xc01c000000000000 := by decide
example : (ofInt 9007199254740993).bits = (ofInt 9007199254740992).bits := by decide
example : (ofInt 9007199254740995).bits = (ofInt 9007199254740996).bits := by decide
example : (ofInt 9223372036854775807).bits = 0x43e0000000000000 := by decide
example : (ofBinary32 0x3dcccccd).bits = 0x3fb99999a0000000 := by decide
example : (ofBinary32 0x00000001).bits = 0x36a0000000000000 := by decide
example : (ofBinary32 0xff800000).bits = 0xfff0000000000000 := by decide

end Binary64

end PreparedFilter

/-!
# Hexadecimal

Bytes as pairs of hexadecimal digits. Writing uses lower-case digits; reading takes either case and
refuses an odd number of digits and every other character.
-/

namespace PreparedFilter

namespace Hex

/-- The digit of a number below sixteen. -/
def digit (n : Nat) : Char := Nat.digitChar n

/-- The value of a digit of either case. -/
def value? (c : Char) : Option Nat :=
  if '0' ≤ c ∧ c ≤ '9' then some (c.toNat - '0'.toNat)
  else if 'a' ≤ c ∧ c ≤ 'f' then some (c.toNat - 'a'.toNat + 10)
  else if 'A' ≤ c ∧ c ≤ 'F' then some (c.toNat - 'A'.toNat + 10)
  else none

/-- The two digits of a byte. -/
def ofByte (b : UInt8) : List Char := [digit (b.toNat / 16), digit (b.toNat % 16)]

/-- The digits of a sequence of bytes. -/
def encode (bytes : List UInt8) : List Char := bytes.flatMap ofByte

/-- The bytes written by a sequence of digits. -/
def decode? : List Char → Option (List UInt8)
  | [] => some []
  | [_] => none
  | high :: low :: rest => do
    let h ← value? high
    let l ← value? low
    let bytes ← decode? rest
    return UInt8.ofNat (16 * h + l) :: bytes

/-- The text of a sequence of bytes. -/
def text (bytes : List UInt8) : String := String.ofList (encode bytes)

end Hex

end PreparedFilter

import PreparedFilter.Text.Unprintable

/-!
# Quoted text

Two ways of writing a text between double quotes. Both put a backslash before a quote or a backslash
and use letters for the common controls.

* `Quoted.json` is the form of JSON: other controls become `\u` and four digits, all else stays.
* `Quoted.diagnostic` is the form of diagnostic texts: every unprintable character becomes its
  number in braces, and NUL is written as `\0`.
-/

namespace PreparedFilter

namespace Quoted

/-- The hexadecimal digits of a number, at least `width` of them. -/
def hexDigits (width n : Nat) : List Char :=
  let digits := Nat.toDigits 16 n
  List.replicate (width - digits.length) '0' ++ digits

/-- A character inside a JSON string. -/
def jsonChar (c : Char) : List Char :=
  if c = '"' then ['\\', '"']
  else if c = '\\' then ['\\', '\\']
  else if c = '\x08' then ['\\', 'b']
  else if c = '\x0c' then ['\\', 'f']
  else if c = '\n' then ['\\', 'n']
  else if c = '\r' then ['\\', 'r']
  else if c = '\t' then ['\\', 't']
  else if c.toNat < 0x20 then '\\' :: 'u' :: hexDigits 4 c.toNat
  else [c]

/-- A character inside a diagnostic text. -/
def diagnosticChar (c : Char) : List Char :=
  if c = '"' then ['\\', '"']
  else if c = '\\' then ['\\', '\\']
  else if c = '\n' then ['\\', 'n']
  else if c = '\r' then ['\\', 'r']
  else if c = '\t' then ['\\', 't']
  else if c = '\x00' then ['\\', '0']
  else if Text.isUnprintable c then ['\\', 'u', '\x7b'] ++ hexDigits 1 c.toNat ++ ['\x7d']
  else [c]

/-- Writes a text between double quotes, each character by `write`. -/
def quote (write : Char → List Char) (s : String) : String :=
  String.ofList ('"' :: (s.toList.flatMap write ++ ['"']))

/-- A JSON string. -/
def json (s : String) : String := quote jsonChar s

/-- A quoted diagnostic text. -/
def diagnostic (s : String) : String := quote diagnosticChar s

end Quoted

end PreparedFilter

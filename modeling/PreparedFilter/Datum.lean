import PreparedFilter.Binary64

/-!
# Serializable values

A `Datum` is a value as it shows itself to an encoder, before any format is chosen: integers of each
width, texts, sequences, maps with any keys, records with named fields, and variants that carry
their name. A value may also fail to show itself, with a message.
-/

namespace PreparedFilter

/-- An integer of a fixed width. -/
inductive FixedInt where
  | i8 (n : Int8)
  | i16 (n : Int16)
  | i32 (n : Int32)
  | i64 (n : Int64)
  | i128 (n : BitVec 128)
  | u8 (n : UInt8)
  | u16 (n : UInt16)
  | u32 (n : UInt32)
  | u64 (n : UInt64)
  | u128 (n : BitVec 128)
  deriving DecidableEq

/-- The integer itself. -/
def FixedInt.toInt : FixedInt → Int
  | i8 n => n.toInt
  | i16 n => n.toInt
  | i32 n => n.toInt
  | i64 n => n.toInt
  | i128 n => n.toInt
  | u8 n => n.toNat
  | u16 n => n.toNat
  | u32 n => n.toNat
  | u64 n => n.toNat
  | u128 n => n.toNat

/-- A serializable value. -/
inductive Datum where
  | bool (b : Bool)
  | int (n : FixedInt)
  /-- A single-precision number, by its bits. -/
  | single (bits : UInt32)
  | double (x : Binary64)
  | char (c : Char)
  | string (s : String)
  | bytes (bytes : List UInt8)
  | absent
  | present (value : Datum)
  | unit
  /-- A record of one unnamed field. -/
  | wrapped (value : Datum)
  | seq (elements : List Datum)
  | map (entries : List (Datum × Datum))
  | record (fields : List (String × Datum))
  /-- A variant without content. -/
  | variant (name : String)
  | variantOf (name : String) (value : Datum)
  | variantSeq (name : String) (elements : List Datum)
  | variantRecord (name : String) (fields : List (String × Datum))
  /-- A value that cannot be shown. -/
  | failing (message : String)

end PreparedFilter

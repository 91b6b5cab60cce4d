import PreparedFilter.Datum
import PreparedFilter.Bson.Diagnostic

/-!
# Serializable values as BSON

Values keep their natural type: narrow integers stay narrow, and integers that need 64 bits are
wide. Maps and records are read as extended documents. Elements are taken in order, a key before its
value, and the first failure counts.

An encoder refuses a value for a stated reason (`Refusal`), or aborts where an extended document has
an ill-formed payload.
-/

namespace PreparedFilter

/-- Why a value has no BSON form. -/
inductive Refusal where
  /-- An unsigned integer is beyond 64 signed bits. -/
  | unsigned (n : Nat)
  /-- There are no integers of this width. -/
  | unsupported (width : String)
  /-- The key of a map is no text. -/
  | invalidKey (key : Bson)
  /-- The value cannot show itself. -/
  | stated (message : String)
  deriving DecidableEq

/-- The text of a refusal. -/
def Refusal.text : Refusal → String
  | unsigned n =>
    "BSON does not support unsigned types.\n                 An attempt to encode the value: "
      ++ toString n ++ " in a signed type failed due to the value's size."
  | unsupported width => width ++ " is not supported"
  | invalidKey key => "Invalid map key type: " ++ key.diagnostic
  | stated message => message

/-- How encoding a value as BSON fails: by a refusal, or by aborting where an extended document has
an ill-formed payload. -/
inductive EncodingFailure where
  | refused (refusal : Refusal)
  | abort
  deriving DecidableEq

/-- An integer as a BSON value. -/
def FixedInt.toBson : FixedInt → Except EncodingFailure Bson
  | i8 n => .ok (.int32 n.toInt32)
  | i16 n => .ok (.int32 n.toInt32)
  | i32 n => .ok (.int32 n)
  | i64 n => .ok (.int64 n)
  | i128 _ => .error (.refused (.unsupported "i128"))
  | u8 n => .ok (.int32 (Int32.ofNat n.toNat))
  | u16 n => .ok (.int32 (Int32.ofNat n.toNat))
  | u32 n => .ok (.int64 (Int64.ofNat n.toNat))
  | u64 n =>
    if n.toNat < 0x8000000000000000 then .ok (.int64 (Int64.ofNat n.toNat))
    else .error (.refused (.unsigned n.toNat))
  | u128 _ => .error (.refused (.unsupported "u128"))

namespace Datum

/-- Reads collected entries as an extended document. -/
def readEntries (entries : List (String × Bson)) : Except EncodingFailure Bson :=
  match Extended.read? (Document.ofList entries) with
  | some value => .ok value
  | none => .error .abort

/-- The text of the key of a map. -/
def keyText (key : Bson) : Except EncodingFailure String :=
  match key with
  | .string s => .ok s
  | other => .error (.refused (.invalidKey other))

mutual

/-- A serializable value as a BSON value. -/
def toBson : Datum → Except EncodingFailure Bson
  | bool b => .ok (.bool b)
  | int n => n.toBson
  | single bits => .ok (.double (.ofBinary32 bits))
  | double x => .ok (.double x)
  | char c => .ok (.string (String.singleton c))
  | string s => .ok (.string s)
  | bytes bs => .ok (.binary 0 bs)
  | absent => .ok .null
  | present value => value.toBson
  | unit => .ok .null
  | wrapped value => value.toBson
  | seq elements => do return .array (← elementsToBson elements)
  | map entries => do readEntries (← entriesToBson entries)
  | record fields => do readEntries (← fieldsToBson fields)
  | variant name => .ok (.string name)
  | variantOf name value => do return .document [(name, ← value.toBson)]
  | variantSeq name elements => do return .document [(name, .array (← elementsToBson elements))]
  | variantRecord name fields => do
    let entries ← fieldsToBson fields
    let inner ← readEntries entries
    return .document [(name, inner)]
  | failing message => .error (.refused (.stated message))

/-- The elements of a sequence as BSON values. -/
def elementsToBson : List Datum → Except EncodingFailure (List Bson)
  | [] => .ok []
  | value :: rest => do
    let first ← value.toBson
    let others ← elementsToBson rest
    return first :: others

/-- The entries of a map, whose keys must be texts. -/
def entriesToBson : List (Datum × Datum) → Except EncodingFailure (List (String × Bson))
  | [] => .ok []
  | (key, value) :: rest => do
    let keyValue ← key.toBson
    let name ← keyText keyValue
    let first ← value.toBson
    let others ← entriesToBson rest
    return (name, first) :: others

/-- The fields of a record as entries. -/
def fieldsToBson : List (String × Datum) → Except EncodingFailure (List (String × Bson))
  | [] => .ok []
  | (name, value) :: rest => do
    let first ← value.toBson
    let others ← fieldsToBson rest
    return (name, first) :: others

end

end Datum

end PreparedFilter

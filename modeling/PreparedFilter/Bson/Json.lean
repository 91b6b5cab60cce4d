import PreparedFilter.Bson.Extended
import PreparedFilter.Json
import PreparedFilter.Defect

/-!
# BSON and JSON

`Json.toBson` takes a JSON value over into BSON. Integers become wide integers, so an unsigned one
that needs 64 bits is a defect; objects are read as extended documents after their members.

`Bson.toJson` is the way back. The types that JSON lacks are written as extended documents, binary
data as an array of its bytes. The two directions undo each other on values of the types that both
have, up to the width of integers, as long as no object looks like an extended document. A timestamp
need not come back: its halves are written as signed numbers and added up when they are read.
-/

namespace PreparedFilter

/-! ## From JSON -/

/-- A number as a BSON value. -/
def JsonNumber.toBson : JsonNumber → Except Defect Bson
  | int n _ _ =>
    if n < 0x8000000000000000 then .ok (.int64 (Int64.ofInt n)) else .error (.unsignedNumber n)
  | double x _ => .ok (.double x)

/-- Reads a document as an extended one; an ill-formed payload aborts. -/
def Extended.read (d : Document) : Except Failure Bson :=
  match read? d with
  | some value => .ok value
  | none => .error .abort

namespace Json

mutual

/-- A JSON value as a BSON value. -/
def toBson : Json → Except Failure Bson
  | null => .ok .null
  | bool b => .ok (.bool b)
  | number n => Failure.liftDefect n.toBson
  | string s => .ok (.string s)
  | array elements => do return .array (← elementsToBson elements)
  | object members => do
    let entries ← membersToBson members
    Extended.read (Document.ofList entries)

/-- The elements of an array as BSON values. -/
def elementsToBson : List Json → Except Failure (List Bson)
  | [] => .ok []
  | value :: rest => do
    let first ← value.toBson
    let others ← elementsToBson rest
    return first :: others

/-- The members of an object as entries. -/
def membersToBson : List (String × Json) → Except Failure (List (String × Bson))
  | [] => .ok []
  | (key, value) :: rest => do
    let first ← value.toBson
    let others ← membersToBson rest
    return (key, first) :: others

end

end Json

/-! ## To JSON -/

namespace Bson

mutual

/-- A BSON value as a JSON value. -/
def toJson : Bson → Json
  | double x => .ofDouble x
  | string s => .string s
  | array elements => .array (elementsToJson elements)
  | document entries => .object (entriesToJson entries)
  | bool b => .bool b
  | null => .null
  | regex pattern options => .object [("$regex", .string pattern), ("$options", .string options)]
  | code source => .single "$code" (.string source)
  | scopedCode source scope =>
    .object [("$code", .string source), ("$scope", .object (entriesToJson scope))]
  | int32 n => .ofInt64 n.toInt64
  | int64 n => .ofInt64 n
  | timestamp raw =>
    .object [("t", .ofInt64 (Extended.timestampSeconds raw).toInt64),
      ("i", .ofInt64 (Extended.timestampIncrement raw).toInt64)]
  | binary _ bytes => .array (bytes.map fun byte => .number (.ofByte byte))
  | objectId id => .single "$oid" (.string id.text)
  | date milliseconds => .single "$date" (.single "$numberLong" (.ofInt64 milliseconds))
  | symbol name => .single "$symbol" (.string name)

/-- The elements of an array as JSON values. -/
def elementsToJson : List Bson → List Json
  | [] => []
  | value :: rest => value.toJson :: elementsToJson rest

/-- The entries of a document as members. -/
def entriesToJson : List (String × Bson) → List (String × Json)
  | [] => []
  | (key, value) :: rest => (key, value.toJson) :: entriesToJson rest

end

/-! ## Documents -/

/-- A value that must be a document. -/
def toDocument (value : Bson) : Except Fault Document :=
  match value with
  | document entries => .ok entries
  | other =>
    .error (.ofOrigin ("expected Document, got " ++ other.elementType.text) .unexpectedType)

end Bson

/-- The JSON object written for a document. -/
def Document.toJson (d : Document) : Json := Bson.toJson (.document d)

end PreparedFilter

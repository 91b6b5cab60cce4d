import PreparedFilter.Datum.Bson
import PreparedFilter.Datum.Json
import PreparedFilter.Bson.Json

/-!
# The two encoders

A captured value is encoded as a BSON value (`Datum.encodeValue`), and a stored record as a document
(`Datum.encodeDocument`), by way of JSON. On common data the two differ in the width of integers and
in numbers that are not finite: by way of JSON every integer is wide, and such a number is `null`.
-/

namespace PreparedFilter

/-- A refusal is a fault of encoding a captured value. -/
def EncodingFailure.toFailure : EncodingFailure → Failure
  | abort => .abort
  | refused refusal =>
    .fault (.ofOrigin "can't convert captured value to BSON" ⟨.bsonEncoding, refusal.text⟩)

namespace Datum

/-- Encodes a captured value. -/
def encodeValue (value : Datum) : Except Failure Bson :=
  value.toBson.mapError EncodingFailure.toFailure

/-- A value as JSON; a failure is a fault of transcoding. -/
def transcode (value : Datum) : Except Fault Json :=
  value.toJson.mapError fun refusal => .lift ⟨.jsonTranscoding, refusal.text⟩

/-- Encodes a stored record as a document. -/
def encodeDocument (value : Datum) : Except Failure Document := do
  let json ← Failure.lift value.transcode
  let bson ← json.toBson
  Failure.lift bson.toDocument

end Datum

/-- The single type of a set as a text, several types as a sequence of texts. The empty set cannot
be shown. -/
def TypeSet.toDatum (types : TypeSet) : Datum :=
  match types.names with
  | [] => .failing emptyMessage
  | [name] => .string name
  | names => .seq (names.map .string)

/-- A set of types as a BSON value; the empty set is `null`. -/
def TypeSet.toBson (types : TypeSet) : Bson := types.toDatum.toBson.toOption.getD .null

end PreparedFilter

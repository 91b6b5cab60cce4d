import PreparedFilter.Bson
import PreparedFilter.Datum

/-!
# Records

A type of records that are stored as documents says how a record shows itself to an encoder, and how
it is read from a document (`Record`).

The readers here serve the fields of a record. An integer field takes integers of both widths if
they are in its range, a number field also takes integers, and all other fields take exactly their
own type. Fields may stand in any order, and unknown ones are ignored.
-/

namespace PreparedFilter

/-- Types of records that are stored as documents. -/
class Record (α : Type) where
  /-- The serializable form of a record. -/
  toDatum : α → Datum
  /-- Reads a record from a document. -/
  ofDocument? : Document → Option α

namespace Bson

/-- An integer of 32 bits. -/
def asInt32? (value : Bson) : Option Int32 := do
  let n ← value.toInt64?
  if -0x80000000 ≤ n.toInt ∧ n.toInt < 0x80000000 then some n.toInt32 else none

/-- A number; an integer is taken as the nearest number. -/
def asDouble? : Bson → Option Binary64
  | double x => some x
  | int32 n => some (.ofInt n.toInt)
  | int64 n => some (.ofInt n.toInt)
  | _ => none

/-- A truth value. -/
def asBool? : Bson → Option Bool
  | bool b => some b
  | _ => none

/-- A text. -/
def asString? : Bson → Option String
  | string s => some s
  | _ => none

/-- An array of texts. -/
def asStrings? : Bson → Option (List String)
  | array elements => elements.mapM asString?
  | _ => none

/-- The name of a variant without content: a text, or the only key of a document. -/
def asVariant? : Bson → Option String
  | string name => some name
  | document [(name, _)] => some name
  | _ => none

end Bson

/-- The field of a document, read by the given reader. A missing field is not read. -/
def Document.field? {α : Type} (d : Document) (name : String) (read : Bson → Option α) :
    Option α := do
  let value ← d.get? name
  read value

end PreparedFilter

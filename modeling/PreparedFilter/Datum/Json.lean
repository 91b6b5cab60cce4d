import PreparedFilter.Datum
import PreparedFilter.Json

/-!
# Serializable values as JSON

Integers of every width become numbers as long as they fit in 64 bits, bytes an array of numbers,
and variants objects under their name. The keys of an object are texts: texts, characters, names of
variants, integers and truth values serve as keys, and nothing else does.
-/

namespace PreparedFilter

/-- Why a value has no JSON form. -/
inductive JsonRefusal where
  /-- The key of a map is no text. -/
  | keyNotText
  /-- An integer is beyond 64 bits. -/
  | outOfRange
  /-- The value cannot show itself. -/
  | stated (message : String)
  deriving DecidableEq

/-- The text of a refusal. -/
def JsonRefusal.text : JsonRefusal → String
  | keyNotText => "key must be a string"
  | outOfRange => "number out of range"
  | stated message => message

/-- An integer as a JSON value. -/
def FixedInt.toJson (n : FixedInt) : Except JsonRefusal Json :=
  match JsonNumber.ofInt? n.toInt with
  | some number => .ok (.number number)
  | none => .error .outOfRange

namespace Datum

/-- The text of a key. -/
def toJsonKey : Datum → Except JsonRefusal String
  | bool b => .ok (toString b)
  | int n => .ok (toString n.toInt)
  | char c => .ok (String.singleton c)
  | string s => .ok s
  | variant name => .ok name
  | wrapped value => value.toJsonKey
  | failing message => .error (.stated message)
  | _ => .error .keyNotText

mutual

/-- A serializable value as a JSON value. -/
def toJson : Datum → Except JsonRefusal Json
  | bool b => .ok (.bool b)
  | int n => n.toJson
  | single bits => .ok (.ofDouble (.ofBinary32 bits))
  | double x => .ok (.ofDouble x)
  | char c => .ok (.string (String.singleton c))
  | string s => .ok (.string s)
  | bytes bs => .ok (.array (bs.map fun byte => .number (.ofByte byte)))
  | absent => .ok .null
  | present value => value.toJson
  | unit => .ok .null
  | wrapped value => value.toJson
  | seq elements => do return .array (← elementsToJson elements)
  | map entries => do return .object (Members.ofList (← entriesToJson entries))
  | record fields => do return .object (Members.ofList (← fieldsToJson fields))
  | variant name => .ok (.string name)
  | variantOf name value => do return .single name (← value.toJson)
  | variantSeq name elements => do return .single name (.array (← elementsToJson elements))
  | variantRecord name fields => do
    return .single name (.object (Members.ofList (← fieldsToJson fields)))
  | failing message => .error (.stated message)

/-- The elements of a sequence as JSON values. -/
def elementsToJson : List Datum → Except JsonRefusal (List Json)
  | [] => .ok []
  | value :: rest => do
    let first ← value.toJson
    let others ← elementsToJson rest
    return first :: others

/-- The entries of a map as members. -/
def entriesToJson : List (Datum × Datum) → Except JsonRefusal (List (String × Json))
  | [] => .ok []
  | (key, value) :: rest => do
    let name ← key.toJsonKey
    let first ← value.toJson
    let others ← entriesToJson rest
    return (name, first) :: others

/-- The fields of a record as members. -/
def fieldsToJson : List (String × Datum) → Except JsonRefusal (List (String × Json))
  | [] => .ok []
  | (name, value) :: rest => do
    let first ← value.toJson
    let others ← fieldsToJson rest
    return (name, first) :: others

end

end Datum

end PreparedFilter

import PreparedFilter.Bson

/-!
# Extended documents

Some documents stand for a value of another type: `$oid` with twenty-four hexadecimal digits is an
identity, `$date` over `$numberLong` an instant, and so on. Recognition
(`Extended.Form.ofDocument?`) looks at keys and types only. The payload of a recognised form may
still be ill-formed, and then there is no value (`Extended.Form.value?`). `Extended.read?` is the
whole reading of a document.
-/

namespace PreparedFilter

namespace Extended

/-- A recognised document. -/
inductive Form where
  | regex (pattern options : String)
  | scopedCode (source : String) (scope : Document)
  | timestamp (seconds increment : Int64)
  | binary (digits : String) (subtype : Int64)
  | code (source : String)
  | objectId (digits : String)
  | date (milliseconds : Int64)
  | symbol (name : String)

/-! ## Recognition -/

/-- `$regex` and `$options`, both texts. -/
def regex? (d : Document) : Option Form :=
  match d.get? "$regex", d.get? "$options" with
  | some (.string pattern), some (.string options) => some (.regex pattern options)
  | _, _ => none

/-- `$code`, a text, and `$scope`, a document. -/
def scopedCode? (d : Document) : Option Form :=
  match d.get? "$code", d.get? "$scope" with
  | some (.string source), some (.document scope) => some (.scopedCode source scope)
  | _, _ => none

/-- `t` and `i`, integers of one width. -/
def timestamp? (d : Document) : Option Form :=
  match d.get? "t", d.get? "i" with
  | some (.int32 seconds), some (.int32 increment) =>
    some (.timestamp seconds.toInt64 increment.toInt64)
  | some (.int64 seconds), some (.int64 increment) => some (.timestamp seconds increment)
  | _, _ => none

/-- `$binary`, a text, and `type`, a wide integer. -/
def binary? (d : Document) : Option Form :=
  match d.get? "$binary", d.get? "type" with
  | some (.string digits), some (.int64 subtype) => some (.binary digits subtype)
  | _, _ => none

/-- The forms of one entry. -/
def ofEntry? (key : String) (value : Bson) : Option Form :=
  match value with
  | .string s =>
    if key = "$code" then some (.code s)
    else if key = "$oid" then some (.objectId s)
    else if key = "$symbol" then some (.symbol s)
    else none
  | .document inner =>
    if key = "$date" then
      match Document.get? inner "$numberLong" with
      | some (.int64 milliseconds) => some (.date milliseconds)
      | _ => none
    else none
  | _ => none

/-- The form of a document, if it has one. Only documents of one or two entries have. -/
def Form.ofDocument? : Document → Option Form
  | [(key, value)] => ofEntry? key value
  | [first, second] =>
    let d := [first, second]
    regex? d <|> scopedCode? d <|> timestamp? d <|> binary? d
  | _ => none

/-! ## Payloads -/

/-- The seconds that a calendar of years from -262143 to 262142 covers. -/
def calendarSeconds (seconds : Int) : Bool :=
  decide (-8334601228800 ≤ seconds) && decide (seconds ≤ 8210266876799)

/-- An instant is read as whole seconds and a rest, both of the sign of the instant, and the rest
may not be negative. -/
def readsAsDate (milliseconds : Int64) : Bool :=
  decide (0 ≤ milliseconds.toInt.tmod 1000) && calendarSeconds (milliseconds.toInt.tdiv 1000)

/-- The value that a form stands for. There is none if its payload is ill-formed. The halves of a
timestamp are added up in sixty-four bits, and a sum that does not fit is assumed to wrap around; a
program built with checks for overflow would stop there instead. -/
def Form.value? : Form → Option Bson
  | regex pattern options => some (.regex pattern options)
  | scopedCode source scope => some (.scopedCode source scope)
  | timestamp seconds increment => some (.timestamp ((seconds <<< 32) + increment))
  | binary digits subtype => (Hex.decode? digits.toList).map (.binary subtype.toUInt64.toUInt8)
  | code source => some (.code source)
  | objectId digits => (ObjectId.ofHex? digits).map .objectId
  | date milliseconds => if readsAsDate milliseconds then some (.date milliseconds) else none
  | symbol name => some (.symbol name)

/-- What a document stands for: the value of its form, or itself if it has no form. There is no
value if it has a form with an ill-formed payload. -/
def read? (d : Document) : Option Bson :=
  match Form.ofDocument? d with
  | some form => form.value?
  | none => some (.document d)

/-! ## Halves of a timestamp -/

/-- The upper half of a timestamp, as a signed number. -/
def timestampSeconds (raw : Int64) : Int32 := (raw >>> 32).toInt32

/-- The lower half of a timestamp, as a signed number. -/
def timestampIncrement (raw : Int64) : Int32 := raw.toInt32

end Extended

end PreparedFilter

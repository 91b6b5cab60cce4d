import PreparedFilter.Bson.Extended
import PreparedFilter.Binary64.Layout
import PreparedFilter.Text.Diagnostic
import PreparedFilter.Text.Calendar

/-!
# Diagnostic texts of values

The text that a message shows for a BSON value: the name of its kind and its content in parentheses,
as in `I32(5)` and `Array([Boolean(true)])`.
-/

namespace PreparedFilter

namespace Binary64

/-- Diagnostic texts write a number positionally from `0.0001` up to `10 ^ 16`. -/
def diagnosticLayout : Layout := ⟨-3, 16⟩

/-- The diagnostic text of a number. -/
def diagnostic (x : Binary64) : String :=
  if x.isFinite then diagnosticLayout.text x
  else if x.isNaN then "NaN"
  else if x.isNegative then "-inf"
  else "inf"

end Binary64

namespace Bson

open Diagnostic

mutual

/-- The diagnostic text of a value. -/
def diagnostic : Bson → String
  | double x => applied "FloatingPoint" x.diagnostic
  | string s => applied "String" (Quoted.diagnostic s)
  | array elements => applied "Array" (list (diagnostics elements))
  | document entries =>
    applied "Document" (applied "OrderedDocument" (map (entryDiagnostics entries)))
  | bool b => applied "Boolean" (toString b)
  | null => "Null"
  | regex pattern options =>
    applied "RegExp" ("/" ++ Quoted.diagnostic pattern ++ "/" ++ Quoted.diagnostic options)
  | code source => applied "JavaScriptCode" (Quoted.diagnostic source)
  | scopedCode source scope =>
    applied "JavaScriptCodeWithScope"
      (Quoted.diagnostic source ++ ", " ++ applied "OrderedDocument" (map (entryDiagnostics scope)))
  | int32 n => applied "I32" (toString n.toInt)
  | int64 n => applied "I64" (toString n.toInt)
  | timestamp raw =>
    applied "TimeStamp" (toString (Extended.timestampSeconds raw).toInt ++ ", "
      ++ toString (Extended.timestampIncrement raw).toInt)
  | binary subtype bytes => applied "BinData" (toString subtype.toNat ++ ", 0x" ++ Hex.text bytes)
  | objectId id => applied "ObjectId" (applied "ObjectId" id.text)
  | date milliseconds => applied "UtcDatetime" (Date.instantText milliseconds.toInt)
  | symbol name => applied "Symbol" (Quoted.diagnostic name)

/-- The diagnostic texts of the values of a list. -/
def diagnostics : List Bson → List String
  | [] => []
  | value :: rest => value.diagnostic :: diagnostics rest

/-- The diagnostic texts of the entries of a list. -/
def entryDiagnostics : List (String × Bson) → List String
  | [] => []
  | (key, value) :: rest =>
    entry (Quoted.diagnostic key) value.diagnostic :: entryDiagnostics rest

end

end Bson

end PreparedFilter

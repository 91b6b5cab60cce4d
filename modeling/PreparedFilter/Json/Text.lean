import PreparedFilter.Json
import PreparedFilter.Binary64.Layout
import PreparedFilter.Text.Quoted

/-!
# The text of a JSON value

Two layouts of the same tokens. The compact one (`Json.compact`) has no blanks. The indented one
(`Json.indented`) puts every element and member on a line of its own, two spaces deeper than what
holds it, and a space after the colon; an empty array or object stays on one line.
-/

namespace PreparedFilter

/-- JSON texts write a number positionally from `0.00001` up to `10 ^ 16`. -/
def JsonNumber.layout : Binary64.Layout := ⟨-4, 16⟩

/-- The text of a number. -/
def JsonNumber.text : JsonNumber → String
  | int n _ _ => toString n
  | double x _ => layout.text x

namespace Json

/-- Items between two marks, separated by commas. -/
def enclosed (opening closing : String) (items : List String) : String :=
  opening ++ ",".intercalate items ++ closing

mutual

/-- The text without blanks. -/
def compact : Json → String
  | null => "null"
  | bool b => toString b
  | number n => n.text
  | string s => Quoted.json s
  | array elements => enclosed "[" "]" (compactElements elements)
  | object members => enclosed "\x7b" "\x7d" (compactMembers members)

/-- The texts of the elements of an array. -/
def compactElements : List Json → List String
  | [] => []
  | value :: rest => value.compact :: compactElements rest

/-- The texts of the members of an object. -/
def compactMembers : List (String × Json) → List String
  | [] => []
  | (key, value) :: rest => (Quoted.json key ++ ":" ++ value.compact) :: compactMembers rest

end

/-- The start of a line at a given depth. -/
def newLine (depth : Nat) : String := String.ofList ('\n' :: List.replicate (2 * depth) ' ')

/-- Items between two marks, each on a line of its own at the given depth; the closing mark is one
level less deep. -/
def enclosedLines (depth : Nat) (opening closing : String) (items : List String) : String :=
  if items.isEmpty then opening ++ closing
  else
    opening ++ ",".intercalate (items.map fun item => newLine (depth + 1) ++ item) ++ newLine depth
      ++ closing

mutual

/-- The text with a line for each element and member. -/
def indentedAt (depth : Nat) : Json → String
  | null => "null"
  | bool b => toString b
  | number n => n.text
  | string s => Quoted.json s
  | array elements => enclosedLines depth "[" "]" (indentedElements (depth + 1) elements)
  | object members => enclosedLines depth "\x7b" "\x7d" (indentedMembers (depth + 1) members)

/-- The texts of the elements of an array. -/
def indentedElements (depth : Nat) : List Json → List String
  | [] => []
  | value :: rest => value.indentedAt depth :: indentedElements depth rest

/-- The texts of the members of an object. -/
def indentedMembers (depth : Nat) : List (String × Json) → List String
  | [] => []
  | (key, value) :: rest =>
    (Quoted.json key ++ ": " ++ value.indentedAt depth) :: indentedMembers depth rest

end

/-- The text with a line for each element and member, from the left margin. -/
def indented (value : Json) : String := value.indentedAt 0

end Json

end PreparedFilter

import PreparedFilter.Text.Quoted

/-!
# Diagnostic texts

The shapes that diagnostic texts are built from: a name applied to its content, a list, a tuple, a
map and a record of named fields.
-/

namespace PreparedFilter

namespace Diagnostic

/-- A name with its content in parentheses, as in `Slot(3)`. -/
def applied (name content : String) : String := name ++ "(" ++ content ++ ")"

/-- Items between brackets. -/
def list (items : List String) : String := "[" ++ ", ".intercalate items ++ "]"

/-- Items between parentheses. A single item keeps a comma. -/
def tuple : List String → String
  | [item] => "(" ++ item ++ ",)"
  | items => "(" ++ ", ".intercalate items ++ ")"

/-- A key and its value. -/
def entry (key value : String) : String := key ++ ": " ++ value

/-- Entries between braces. -/
def map (entries : List String) : String := "\x7b" ++ ", ".intercalate entries ++ "\x7d"

/-- A name with named fields between braces. -/
def record (name : String) (fields : List (String × String)) : String :=
  name ++ " \x7b " ++ ", ".intercalate (fields.map fun field => entry field.1 field.2) ++ " \x7d"

end Diagnostic

end PreparedFilter

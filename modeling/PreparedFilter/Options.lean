import PreparedFilter.Planner
import PreparedFilter.Json.Text

/-!
# Options as JSON

Both kinds of options are records of one field. They are read from an object, in which the field may
be missing and other fields are ignored, or from an array of at most the one element; a missing
field has its usual value. They are written as an object.
-/

namespace PreparedFilter

namespace Options

/-- The value given for the only field of a record. There is none if the JSON value is no record; a
record may leave the field out. -/
def field? (name : String) : Json → Option (Option Json)
  | .object members => some (Members.get? members name)
  | .array [] => some none
  | .array [value] => some (some value)
  | _ => none

/-- A limit: `null`, or an unsigned integer. -/
def limit? : Json → Option (Option UInt64)
  | .null => some none
  | .number (.int n _ _) => if 0 ≤ n then some (some (UInt64.ofNat n.toNat)) else none
  | _ => none

/-- A truth value. -/
def bool? : Json → Option Bool
  | .bool b => some b
  | _ => none

end Options

/-- The options of a planner, from JSON. -/
def PlannerOptions.ofJson? (json : Json) : Option PlannerOptions := do
  match ← Options.field? "max_entries" json with
  | none => return .standard
  | some value => return ⟨← Options.limit? value⟩

/-- The options of a planner, as JSON. -/
def PlannerOptions.toJson (options : PlannerOptions) : Json :=
  .single "max_entries" <|
    match options.limit with
    | none => .null
    | some n => .number (.ofUInt64 n)

/-- The style of query documents, from JSON. -/
def QueryStyle.ofJson? (json : Json) : Option QueryStyle := do
  match ← Options.field? "flatten_conjunctions" json with
  | none => return .standard
  | some value => return ⟨← Options.bool? value⟩

/-- The style of query documents, as JSON. -/
def QueryStyle.toJson (style : QueryStyle) : Json :=
  .single "flatten_conjunctions" (.bool style.flat)

end PreparedFilter

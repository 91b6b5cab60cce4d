import PreparedFilter.Record

/-!
# Example records

Types of records to try codecs on: a point, a record with a field of a fixed set of names, and
notes, which may have a note as their parent, and so on to any depth.
-/

namespace PreparedFilter

namespace Gallery

/-! ## Points -/

/-- A point of the plane. -/
structure Point where
  x : Int32
  y : Int32
  deriving DecidableEq

instance : Record Point where
  toDatum p := .record [("x", .int (.i32 p.x)), ("y", .int (.i32 p.y))]
  ofDocument? d := do
    let x ← d.field? "x" Bson.asInt32?
    let y ← d.field? "y" Bson.asInt32?
    return ⟨x, y⟩

/-! ## Foos -/

/-- One of two names. -/
inductive Light where
  | foo
  | bar
  deriving DecidableEq

/-- The stored form of a name. -/
def Light.text : Light → String
  | foo => "FOO"
  | bar => "BAR"

/-- The diagnostic text of a name. -/
def Light.diagnostic : Light → String
  | foo => "Foo"
  | bar => "Bar"

/-- The name of a stored form. -/
def Light.ofText? (s : String) : Option Light :=
  if s = "FOO" then some foo else if s = "BAR" then some bar else none

/-- A record of a text, a number and a name. -/
structure Foo where
  stringField : String
  primitiveIntField : Int32
  enumFoo : Light
  deriving DecidableEq

instance : Record Foo where
  toDatum r :=
    .record [("stringField", .string r.stringField),
      ("primitiveIntField", .int (.i32 r.primitiveIntField)), ("enumFoo", .variant r.enumFoo.text)]
  ofDocument? d := do
    let stringField ← d.field? "stringField" Bson.asString?
    let primitiveIntField ← d.field? "primitiveIntField" Bson.asInt32?
    let enumFoo ← d.field? "enumFoo" fun value => value.asVariant?.bind Light.ofText?
    return ⟨stringField, primitiveIntField, enumFoo⟩

/-! ## Notes -/

/-- A note, with the note that it answers if there is one. -/
inductive Note where
  | mk (id : Int64) (done : Bool) (score : Binary64) (tags : List String) (parent : Option Note)

namespace Note

/-- The serializable form of a note. -/
def toDatum : Note → Datum
  | mk id done score tags parent =>
    .record [("id", .int (.i64 id)), ("done", .bool done), ("score", .double score),
      ("tags", .seq (tags.map .string)),
      ("parent", match parent with
        | none => .absent
        | some note => .present note.toDatum)]

mutual

/-- Reads a note from a document. -/
def ofBson? : Bson → Option Note
  | .document entries => do
    let id ← Document.field? entries "id" Bson.toInt64?
    let done ← Document.field? entries "done" Bson.asBool?
    let score ← Document.field? entries "score" Bson.asDouble?
    let tags ← Document.field? entries "tags" Bson.asStrings?
    let parent ← parentOf? entries
    return mk id done score tags parent
  | _ => none

/-- Reads the parent of a note from its entries. It may be missing or `null`. -/
def parentOf? : List (String × Bson) → Option (Option Note)
  | [] => some none
  | (key, value) :: rest =>
    if key = "parent" then
      match value with
      | .null => some none
      | other => (ofBson? other).map some
    else parentOf? rest

end

instance : Record Note where
  toDatum := toDatum
  ofDocument? d := ofBson? (.document d)

end Note

end Gallery

end PreparedFilter

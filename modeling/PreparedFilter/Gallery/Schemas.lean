import PreparedFilter.Schema

/-!
# Example schemas

Schemas to try filters on: small everyday ones, one with a field for every set of types, one with
names that are easily mistaken, and one with many fields of one type.
-/

namespace PreparedFilter

namespace Gallery

/-- A schema with a field of each common kind. -/
def foo : Schema :=
  ⟨"Foo",
    [⟨"stringField", .string⟩, ⟨"primitiveIntField", .int⟩, ⟨"enumFoo", .string⟩,
      ⟨"rating", .double⟩, ⟨"flag", .bool⟩, ⟨"tags", .array⟩, ⟨"locations", .array⟩]⟩

/-- The schema of the elements of `locations`. -/
def location : Schema := ⟨"Location", [⟨"city", .string⟩, ⟨"zip", .string⟩]⟩

/-- The schema of a shop. -/
def item : Schema :=
  ⟨"Item", [⟨"name", .string⟩, ⟨"price", .double⟩, ⟨"sold", .bool⟩, ⟨"tags", .array⟩]⟩

/-- The schema of its orders. -/
def order : Schema := ⟨"Order", [⟨"customer", .string⟩, ⟨"paid", .bool⟩]⟩

/-- A schema without fields. -/
def empty : Schema := ⟨"Empty", []⟩

/-- A schema with a field for each type and for several sets of types. -/
def all : Schema :=
  ⟨"All",
    TypeSet.aliases.map (fun entry => ⟨entry.2, entry.1⟩)
      ++ [⟨"number", .number⟩, ⟨"ordered", .ordered⟩, ⟨"none", .none⟩, ⟨"any", .any⟩,
        ⟨"nullOrArray", TypeSet.null.union .array⟩, ⟨"boolOrInt", TypeSet.bool.union .int⟩,
        ⟨"unordered", (TypeSet.ordered.union .array).compl⟩]⟩

/-- A schema with a repeated name, an empty one, names of operators and names beyond ASCII. -/
def odd : Schema :=
  ⟨"Odd `Type`\n",
    [⟨"dup", .array⟩, ⟨"dup", .int⟩, ⟨"", .string⟩, ⟨"a.b", .int⟩, ⟨"$eq", .int⟩,
      ⟨"$and", .array⟩, ⟨"$or", .string⟩, ⟨"na\u00efve", .string⟩, ⟨"名前", .string⟩,
      ⟨"😀", .array⟩, ⟨"with space", .bool⟩, ⟨"Case", .int⟩, ⟨"case", .array⟩]⟩

/-- A schema with eight integer fields. -/
def wide : Schema :=
  ⟨"Wide", (List.range 8).map fun n => ⟨"f" ++ toString n, .int⟩⟩

/-- All example schemas with the names that they are called by. -/
def schemas : List (String × Schema) :=
  [("Foo", foo), ("Location", location), ("Item", item), ("Order", order), ("Empty", empty),
    ("All", all), ("Odd", odd), ("Wide", wide)]

/-- The example schema of a name. -/
def schema? (name : String) : Option Schema := schemas.lookup name

end Gallery

end PreparedFilter

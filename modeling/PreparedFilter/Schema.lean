import PreparedFilter.Operator

/-!
# Schemas

What is known of the documents of a collection: a name and the descriptors of the fields. A field is
looked up by name, and the first descriptor of a name counts.
-/

namespace PreparedFilter

/-- The name of a field and the types that it may hold. -/
structure FieldDescriptor where
  name : String
  types : TypeSet
  deriving DecidableEq

/-- Whether an operator applies to the field. -/
def FieldDescriptor.supports (field : FieldDescriptor) (op : Operator) : Bool :=
  op.appliesTo field.types

/-- The operators that apply to the field, in order. -/
def FieldDescriptor.operators (field : FieldDescriptor) : List Operator :=
  Operator.list.filter field.supports

/-- The name and the fields of a type of documents. -/
structure Schema where
  name : String
  fields : List FieldDescriptor
  deriving DecidableEq

/-- The first descriptor of a name. -/
def Schema.descriptor? (schema : Schema) (name : String) : Option FieldDescriptor :=
  schema.fields.find? fun field => field.name == name

end PreparedFilter

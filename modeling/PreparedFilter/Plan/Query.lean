import PreparedFilter.Defect

/-!
# Query documents

A plan and the values of one instance make a query document. An equality is written as the field and
the value alone, every other test as the field and a document headed by the key of the operator, and
a group as its connective over an array of documents.

A style may write a conjunction of equalities on distinct fields as one document with an entry for
each (`Node.equalities?`). Leaves are written from left to right, and the first defect ends it.
-/

namespace PreparedFilter

/-- The choices in writing query documents. -/
structure QueryStyle where
  /-- Whether a conjunction of equalities on distinct fields becomes one document. -/
  flat : Bool
  deriving DecidableEq

/-- The usual style writes such conjunctions as one document. -/
def QueryStyle.standard : QueryStyle := ⟨true⟩

/-- The captured value of a slot, through the table of a plan. -/
def SlotId.value (table : List Nat) (values : List Bson) (slot : SlotId) : Except Defect Bson :=
  match table[slot.index]?.bind fun position => values[position]? with
  | some value => .ok value
  | none => .error (.unresolvedSlot slot values.length)

/-- The key that heads a group. -/
def Connective.key : Connective → String
  | .conjunction => "$and"
  | .disjunction => "$or"

namespace Node

/-- A field with an operator and its operand. -/
def operation (field key : String) (operand : Bson) : Document :=
  Document.single field (.document (Document.single key operand))

/-- A comparison of a field with a value. -/
def comparisonDocument (field : String) (op : Operator) (value : Bson) : Document :=
  if op = .eq then Document.single field value else operation field op.key value

/-- The negation of a comparison. -/
def negatedDocument (field : String) (op : Operator) (value : Bson) : Document :=
  operation field "$not" (.document (Document.single op.key value))

/-- A membership test, whose value must be an array. -/
def membershipDocument (field : String) (op : Operator) (value : Bson) : Except Defect Document :=
  match value with
  | .array elements => .ok (operation field op.key (.array elements))
  | other => .error (.notAnArray op field other.elementType)

/-- A count of elements, whose value must be an integer and not negative. It is written in the wide
form. -/
def sizeDocument (field : String) (value : Bson) : Except Defect Document :=
  match value.toInt64? with
  | none => .error (.sizeNotInteger field value.elementType)
  | some n => do
    let _ ← naturalCount ("`$size` of " ++ Defect.ticked field) n.toInt
    return operation field Operator.size.key (.int64 n)

/-- The field and slot of a test for equality. -/
def equality? : Node → Option (String × SlotId)
  | .comparison field op slot => if op = .eq then some (field, slot) else none
  | _ => none

/-- The fields and slots of nodes that all test distinct fields for equality. -/
def equalities? (nodes : List Node) : Option (List (String × SlotId)) := do
  let tests ← nodes.mapM equality?
  if (tests.map Prod.fst).Nodup then some tests else none

/-- One document for tests of distinct fields for equality. -/
def equalitiesDocument (value : SlotId → Except Defect Bson) (tests : List (String × SlotId)) :
    Except Defect Document := do
  let entries ← tests.mapM fun test => do return (test.1, ← value test.2)
  return Document.ofList entries

mutual

/-- The query document of a node, given the values of the slots. -/
def toDocument (style : QueryStyle) (value : SlotId → Except Defect Bson) :
    Node → Except Defect Document
  | .comparison field op slot => do return comparisonDocument field op (← value slot)
  | .negated field op slot => do return negatedDocument field op (← value slot)
  | .membership field op slot => do membershipDocument field op (← value slot)
  | .size field slot => do sizeDocument field (← value slot)
  | .element field criteria => do
    let inner ← criteria.toDocument style value
    return operation field Operator.elemMatch.key (.document inner)
  | .group connective members =>
    match if style.flat && connective == .conjunction then equalities? members else none with
    | some tests => equalitiesDocument value tests
    | none => do
      let documents ← toDocuments style value members
      return Document.single connective.key (.array documents)

/-- The query documents of a list of nodes, as values. -/
def toDocuments (style : QueryStyle) (value : SlotId → Except Defect Bson) :
    List Node → Except Defect (List Bson)
  | [] => .ok []
  | node :: rest => do
    let first ← node.toDocument style value
    let others ← toDocuments style value rest
    return .document first :: others

end

end Node

namespace Plan

/-- The query document of a plan with the given captured values. -/
def query (plan : Plan) (style : QueryStyle) (values : List Bson) : Except Defect Document :=
  plan.root.toDocument style (SlotId.value plan.slots values)

/-- The query document of a plan; a fault names the definition of the plan. -/
def render (plan : Plan) (style : QueryStyle) (values : List Bson) : Except Fault Document :=
  (plan.query style values).mapError fun defect =>
    (Fault.ofDefect defect).withDefinition plan.definition

end Plan

end PreparedFilter

import PreparedFilter.Defect

/-!
# Preparation

How a predicate becomes a plan. One pass from left to right looks up every field, pushes negations
down to the leaves, joins groups of one connective that are nested in each other, and hands out
slots to the leaves in the order in which they are met. The first defect ends it.

The pass takes the schema in scope, the polarity and the table of slots so far, and returns a node
and the longer table (`Predicate.toNode`, and `Predicate.toOperands` for the members of a group).
Under an odd number of negations a group changes its connective, an equality or membership test its
operator, and an order test becomes a negated one; the other tests cannot be negated. Criteria on
elements start a scope of their own, which is never negated.
-/

namespace PreparedFilter

/-- The field descriptor that an operator is applied to: the first of the name, if it suits. -/
def Schema.resolve (scope : Schema) (field : String) (op : Operator) :
    Except Defect FieldDescriptor :=
  match scope.descriptor? field with
  | none => .error (.unknownField scope.name field)
  | some descriptor =>
    if descriptor.supports op then .ok descriptor
    else .error (.unsuitedOperator op scope.name field descriptor.types)

/-- The leaf for a test that is not negated. -/
def Node.leaf (scope field : String) (op : Operator) (slot : SlotId) : Except Defect Node :=
  if op.isComparison then .ok (.comparison field op slot)
  else if op.isMembership then .ok (.membership field op slot)
  else if op = .size then .ok (.size field slot)
  else .error (.missingCriteria op scope field)

/-- The leaf for a test at a given polarity. -/
def Node.leafUnder (negated : Bool) (scope field : String) (op : Operator) (slot : SlotId) :
    Except Defect Node :=
  if negated then
    if op.isOrdering then .ok (.negated field op slot)
    else
      match op.negation? with
      | some complement => Node.leaf scope field complement slot
      | none => .error (.negatedOperator op field)
  else Node.leaf scope field op slot

namespace Predicate

mutual

/-- The node of a predicate, or of its negation, over the schema in scope. -/
def toNode (scope : Schema) (negated : Bool) :
    Predicate → List Nat → Except Defect (Node × List Nat)
  | .test field op position, table => do
    let _ ← scope.resolve field op
    let leaf ← Node.leafUnder negated scope.name field op ⟨table.length⟩
    return (leaf, table ++ [position])
  | .element field fields criteria, table => do
    let _ ← scope.resolve field .elemMatch
    if negated then .error (.negatedOperator .elemMatch field)
    else
      let (node, table) ← criteria.toNode ⟨field, fields⟩ false table
      return (.element field node, table)
  | .group connective members, table => do
    let joined := connective.under negated
    if members.isEmpty then .error (.emptyGroup joined scope.name)
    else
      let (nodes, table) ← toOperands scope negated joined members table
      return (.join joined nodes, table)
  | .not inner, table => inner.toNode scope (!negated) table

/-- The nodes of the members of a group that is joined by a connective. A member that is itself a
group of that connective is replaced by its members. -/
def toOperands (scope : Schema) (negated : Bool) (joined : Connective) :
    List Predicate → List Nat → Except Defect (List Node × List Nat)
  | [], table => .ok ([], table)
  | p :: ps, table => do
    let (node, table) ← p.toNode scope negated table
    let (nodes, table) ← toOperands scope negated joined ps table
    return (node.operands joined ++ nodes, table)

end

end Predicate

/-- The plan of a definition whose predicate is over the given schema. -/
def Plan.prepare (definition : DefinitionId) (schema : Schema) (predicate : Predicate) :
    Except Defect Plan := do
  let (root, slots) ← predicate.toNode schema false []
  return ⟨definition, root, slots⟩

end PreparedFilter

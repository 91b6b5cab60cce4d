import PreparedFilter.Plan.Preparation
import PreparedFilter.Proofs.Outcome

/-!
# The steps of a successful preparation

Preparation ends at the first defect, so a preparation that succeeded went through every step. The
lemmas here say so once for each form of a predicate (`toNode_test_eq_ok_iff` and its like), and no
later proof about a plan opens the pass itself. Where failures count, too, a group is taken apart by
`toNode_group` and `toOperands_cons`.

From them: the table only grows, and it grows by the positions of the predicate in the order of
writing (`toNode_table`).
-/

namespace PreparedFilter

/-! ## Leaves -/

namespace Node

/-- There is one form of leaf for each class of operators, and none for `$elemMatch`. -/
theorem leaf_eq_ok_iff {scope field : String} {op : Operator} {slot : SlotId} {node : Node} :
    leaf scope field op slot = .ok node ↔
      (op.isComparison = true ∧ node = .comparison field op slot) ∨
      (op.isMembership = true ∧ node = .membership field op slot) ∨
      (op = .size ∧ node = .size field slot) := by
  cases op <;>
    simp [leaf, Operator.isComparison, Operator.isOrdering, Operator.isMembership, eq_comm]

/-- Under a negation a leaf is the negation of an order test, or the leaf of the operator that holds
exactly where the written one does not. -/
theorem leafUnder_true_eq_ok_iff {scope field : String} {op : Operator} {slot : SlotId}
    {node : Node} :
    leafUnder true scope field op slot = .ok node ↔
      (op.isOrdering = true ∧ node = .negated field op slot) ∨
      (∃ complement, op.negation? = some complement ∧
        leaf scope field complement slot = .ok node) := by
  cases op <;> simp [leafUnder, Operator.isOrdering, Operator.negation?, eq_comm]

theorem leafUnder_false {scope field : String} {op : Operator} {slot : SlotId} :
    leafUnder false scope field op slot = leaf scope field op slot := rfl

end Node

namespace Predicate

variable {scope : Schema} {negated : Bool} {table table' : List Nat}

/-! ## Nodes -/

/-- A test takes the next slot, once its field and its operator have been checked. -/
theorem toNode_test_eq_ok_iff {field : String} {op : Operator} {position : Nat} {node : Node} :
    (test field op position).toNode scope negated table = .ok (node, table') ↔
      (∃ descriptor, scope.resolve field op = .ok descriptor) ∧
        Node.leafUnder negated scope.name field op ⟨table.length⟩ = .ok node ∧
        table' = table ++ [position] := by
  rw [toNode]
  simp only [bind_eq_ok_iff, pure, Except.pure, Except.ok.injEq, Prod.mk.injEq]
  constructor
  · rintro ⟨descriptor, hr, leaf, hl, rfl, rfl⟩
    exact ⟨⟨descriptor, hr⟩, hl, rfl⟩
  · rintro ⟨⟨descriptor, hr⟩, hl, rfl⟩
    exact ⟨descriptor, hr, node, hl, rfl, rfl⟩

/-- The criteria of an element test are prepared over the fields of the elements, and start at a
positive polarity. -/
theorem toNode_element_eq_ok_iff {field : String} {fields : List FieldDescriptor}
    {criteria : Predicate} {node : Node} :
    (element field fields criteria).toNode scope negated table = .ok (node, table') ↔
      (∃ descriptor, scope.resolve field .elemMatch = .ok descriptor) ∧ negated = false ∧
        ∃ inner, criteria.toNode ⟨field, fields⟩ false table = .ok (inner, table') ∧
          node = .element field inner := by
  rw [toNode]
  cases negated with
  | true => simp [bind_eq_ok_iff]
  | false =>
    simp only [Bool.false_eq_true, if_false, bind_eq_ok_iff, pure, Except.pure, Except.ok.injEq,
      Prod.mk.injEq, true_and]
    constructor
    · rintro ⟨descriptor, hr, ⟨inner, _⟩, hc, rfl, rfl⟩
      exact ⟨⟨descriptor, hr⟩, inner, hc, rfl⟩
    · rintro ⟨⟨descriptor, hr⟩, inner, hc, rfl⟩
      exact ⟨descriptor, hr, (inner, table'), hc, rfl, rfl⟩

theorem toNode_group_eq_ok_iff {connective : Connective} {members : List Predicate} {node : Node} :
    (group connective members).toNode scope negated table = .ok (node, table') ↔
      members ≠ [] ∧ ∃ nodes,
        toOperands scope negated (connective.under negated) members table = .ok (nodes, table') ∧
          node = .join (connective.under negated) nodes := by
  rw [toNode]
  cases members with
  | nil => simp
  | cons p ps =>
    simp only [List.isEmpty_cons, Bool.false_eq_true, if_false, bind_eq_ok_iff, pure, Except.pure,
      Except.ok.injEq, Prod.mk.injEq, ne_eq, reduceCtorEq, not_false_eq_true, true_and]
    constructor
    · rintro ⟨⟨nodes, _⟩, hn, rfl, rfl⟩
      exact ⟨nodes, hn, rfl⟩
    · rintro ⟨nodes, hn, rfl⟩
      exact ⟨(nodes, table'), hn, rfl, rfl⟩

theorem toNode_group {connective : Connective} {members : List Predicate}
    (nonempty : members ≠ []) :
    (group connective members).toNode scope negated table =
      (toOperands scope negated (connective.under negated) members table >>= fun result =>
        pure (Node.join (connective.under negated) result.1, result.2)) := by
  rw [toNode, if_neg (by rwa [List.isEmpty_iff])]

/-- A negation leaves no node; it only turns the polarity. -/
theorem toNode_not {inner : Predicate} :
    (not inner).toNode scope negated table = inner.toNode scope (!negated) table := by
  rw [toNode]

/-! ## Operands -/

theorem toOperands_nil_eq_ok_iff {joined : Connective} {nodes : List Node} :
    toOperands scope negated joined [] table = .ok (nodes, table') ↔
      nodes = [] ∧ table' = table := by
  rw [toOperands]
  simp [eq_comm]

theorem toOperands_cons {joined : Connective} {p : Predicate} {ps : List Predicate} :
    toOperands scope negated joined (p :: ps) table =
      (p.toNode scope negated table >>= fun first =>
        toOperands scope negated joined ps first.2 >>= fun rest =>
          pure (first.1.operands joined ++ rest.1, rest.2)) := by
  rw [toOperands]

/-- Members are prepared from left to right, each going on with the table of the one before. -/
theorem toOperands_cons_eq_ok_iff {joined : Connective} {p : Predicate} {ps : List Predicate}
    {nodes : List Node} :
    toOperands scope negated joined (p :: ps) table = .ok (nodes, table') ↔
      ∃ node between rest, p.toNode scope negated table = .ok (node, between) ∧
        toOperands scope negated joined ps between = .ok (rest, table') ∧
        nodes = node.operands joined ++ rest := by
  rw [toOperands]
  simp only [bind_eq_ok_iff, pure, Except.pure, Except.ok.injEq, Prod.mk.injEq]
  constructor
  · rintro ⟨⟨node, between⟩, hp, ⟨rest, _⟩, hps, rfl, rfl⟩
    exact ⟨node, between, rest, hp, hps, rfl⟩
  · rintro ⟨node, between, rest, hp, hps, rfl⟩
    exact ⟨(node, between), hp, (rest, table'), hps, rfl, rfl⟩

/-! ## The table -/

mutual

/-- The table grows by the positions of the predicate. -/
theorem toNode_table : ∀ (p : Predicate) {scope : Schema} {negated : Bool} {table table' : List Nat}
    {node : Node}, p.toNode scope negated table = .ok (node, table') → table' = table ++ p.positions
  | .test _ _ _, _, _, _, _, _, h => (toNode_test_eq_ok_iff.mp h).2.2
  | .element _ _ criteria, _, _, _, _, _, h => by
    obtain ⟨-, -, inner, hc, -⟩ := toNode_element_eq_ok_iff.mp h
    exact toNode_table criteria hc
  | .group _ members, _, _, _, _, _, h => by
    obtain ⟨-, nodes, hn, -⟩ := toNode_group_eq_ok_iff.mp h
    exact toOperands_table members hn
  | .not inner, _, _, _, _, _, h => by
    rw [toNode_not] at h
    exact toNode_table inner h

theorem toOperands_table : ∀ (ps : List Predicate) {scope : Schema} {negated : Bool}
    {joined : Connective} {table table' : List Nat} {nodes : List Node},
    toOperands scope negated joined ps table = .ok (nodes, table') →
      table' = table ++ allPositions ps
  | [], _, _, _, _, _, _, h => by
    rw [(toOperands_nil_eq_ok_iff.mp h).2, allPositions, List.append_nil]
  | p :: ps, _, _, _, _, _, _, h => by
    obtain ⟨node, between, rest, hp, hps, -⟩ := toOperands_cons_eq_ok_iff.mp h
    rw [toOperands_table ps hps, toNode_table p hp, allPositions, List.append_assoc]

end

end Predicate

/-- A plan holds the node and the table of the predicate, and the identity that was given. -/
theorem Plan.prepare_eq_ok_iff {definition : DefinitionId} {schema : Schema}
    {predicate : Predicate} {plan : Plan} :
    Plan.prepare definition schema predicate = .ok plan ↔
      predicate.toNode schema false [] = .ok (plan.root, plan.slots) ∧
        plan.definition = definition := by
  rw [Plan.prepare]
  simp only [bind_eq_ok_iff, pure, Except.pure, Except.ok.injEq]
  constructor
  · rintro ⟨⟨root, slots⟩, h, rfl⟩
    exact ⟨h, rfl⟩
  · rintro ⟨h, rfl⟩
    exact ⟨(plan.root, plan.slots), h, rfl⟩

end PreparedFilter

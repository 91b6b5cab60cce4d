import PreparedFilter.Proofs.Preparation.NormalForm

/-!
# The leaves of a plan

Preparation turns groups inside out, splices them into each other and collapses them, but the leaves
stay in place: those of a node are the tests of the predicate, in the order of writing and each with
the next slot (`Predicate.leaves_toNode`). A slot of a plan has the position that was written in its
test, and there are no other slots.
-/

namespace PreparedFilter

/-- A test of a field, inside the element tests of the array fields on a path, outermost first. -/
structure Leaf (σ : Type) where
  path : List String
  field : String
  operator : Operator
  /-- Whether it is the negation of the test. -/
  negated : Bool
  /-- What stands for the value. -/
  slot : σ
  deriving DecidableEq

/-- The same test with another slot. -/
def Leaf.withSlot {σ τ : Type} (leaf : Leaf σ) (slot : τ) : Leaf τ := { leaf with slot }

namespace Operator

/-- The operator that a test has at a given polarity. -/
def under (negated : Bool) (op : Operator) : Operator :=
  if negated then op.negation?.getD op else op

variable {op complement : Operator}

/-- An order test keeps its operator under a negation, since it has no complement. -/
theorem under_of_isOrdering (order : op.isOrdering = true) (negated : Bool) :
    op.under negated = op := by
  cases op with
  | gt | gte | lt | lte => cases negated <;> rfl
  | _ => cases order

/-- Under a negation, an operator becomes its complement if it has one. -/
theorem under_true_of_negation? (found : op.negation? = some complement) :
    op.under true = complement := by
  rw [under, if_pos rfl, found, Option.getD_some]

/-- Only the tests for equality and membership have an operator for the negation. -/
theorem isOrdering_of_negation? (found : op.negation? = some complement) :
    op.isOrdering = false := by
  cases op with
  | gt | gte | lt | lte => cases found
  | _ => rfl

/-- The polarity of a test does not matter for the types of its field. -/
theorem appliesTo_under (op : Operator) (negated : Bool) (types : TypeSet) :
    (op.under negated).appliesTo types = op.appliesTo types := by
  cases negated with
  | false => rfl
  | true => cases op <;> rfl

end Operator

namespace Predicate

mutual

/-- The tests of a predicate at a given polarity, in the order of writing. -/
def leaves (path : List String) (negated : Bool) : Predicate → List (Leaf Nat)
  | .test field op position => [⟨path, field, op.under negated, negated && op.isOrdering, position⟩]
  | .element field _ criteria => criteria.leaves (path ++ [field]) false
  | .group _ members => allLeaves path negated members
  | .not inner => inner.leaves path (!negated)

/-- The tests of a list of predicates. -/
def allLeaves (path : List String) (negated : Bool) : List Predicate → List (Leaf Nat)
  | [] => []
  | p :: ps => p.leaves path negated ++ allLeaves path negated ps

end

mutual

theorem map_slot_leaves : ∀ (p : Predicate) (path : List String) (negated : Bool),
    (p.leaves path negated).map Leaf.slot = p.positions
  | .test _ _ _, _, _ => rfl
  | .element field _ criteria, path, _ => map_slot_leaves criteria (path ++ [field]) false
  | .group _ members, path, negated => map_slot_allLeaves members path negated
  | .not inner, path, negated => map_slot_leaves inner path (!negated)

theorem map_slot_allLeaves : ∀ (ps : List Predicate) (path : List String) (negated : Bool),
    (allLeaves path negated ps).map Leaf.slot = allPositions ps
  | [], _, _ => rfl
  | p :: ps, path, negated => by
    rw [allLeaves, List.map_append, map_slot_leaves p, map_slot_allLeaves ps, allPositions]

end

end Predicate

namespace Node

mutual

/-- The leaves of a node, from left to right. -/
def leaves (path : List String) : Node → List (Leaf SlotId)
  | .comparison field op slot => [⟨path, field, op, false, slot⟩]
  | .negated field op slot => [⟨path, field, op, true, slot⟩]
  | .membership field op slot => [⟨path, field, op, false, slot⟩]
  | .size field slot => [⟨path, field, .size, false, slot⟩]
  | .element field criteria => criteria.leaves (path ++ [field])
  | .group _ members => allLeaves path members

/-- The leaves of a list of nodes. -/
def allLeaves (path : List String) : List Node → List (Leaf SlotId)
  | [] => []
  | n :: ns => n.leaves path ++ allLeaves path ns

end

theorem leaves_group (path : List String) (c : Connective) (members : List Node) :
    (group c members).leaves path = members.flatMap (leaves path) := by
  rw [leaves]
  exact collect_eq_flatMap rfl (fun _ _ => rfl) members

mutual

theorem map_slot_leaves : ∀ (node : Node) (path : List String),
    (node.leaves path).map Leaf.slot = node.slots
  | .comparison _ _ _, _ | .negated _ _ _, _ | .membership _ _ _, _ | .size _ _, _ => rfl
  | .element field criteria, path => map_slot_leaves criteria (path ++ [field])
  | .group _ members, path => map_slot_allLeaves members path

theorem map_slot_allLeaves : ∀ (nodes : List Node) (path : List String),
    (allLeaves path nodes).map Leaf.slot = allSlots nodes
  | [], _ => rfl
  | n :: ns, path => by
    rw [allLeaves, List.map_append, map_slot_leaves n, map_slot_allLeaves ns, allSlots]

end

theorem leaves_leaf {scope field : String} {op : Operator} {slot : SlotId} {node : Node}
    (path : List String) (h : leaf scope field op slot = .ok node) :
    node.leaves path = [⟨path, field, op, false, slot⟩] := by
  rcases leaf_eq_ok_iff.mp h with ⟨-, rfl⟩ | ⟨-, rfl⟩ | ⟨rfl, rfl⟩
  · rfl
  · rfl
  · rfl

/-- An order test has no operator for its negation, and keeps its own. -/
theorem leaves_leafUnder {negated : Bool} {scope field : String} {op : Operator} {slot : SlotId}
    {node : Node} (path : List String) (h : leafUnder negated scope field op slot = .ok node) :
    node.leaves path = [⟨path, field, op.under negated, negated && op.isOrdering, slot⟩] := by
  cases negated with
  | false => exact leaves_leaf path (leafUnder_false ▸ h)
  | true =>
    rcases leafUnder_true_eq_ok_iff.mp h with ⟨order, rfl⟩ | ⟨complement, found, hl⟩
    · rw [Operator.under_of_isOrdering order, order]
      rfl
    · rw [leaves_leaf path hl, Operator.under_true_of_negation? found,
        Operator.isOrdering_of_negation? found]
      rfl

end Node

/-! ## Numbered tests -/

/-- The tests with the slots from a number on. -/
def Leaf.numbered (first : Nat) (tests : List (Leaf Nat)) : List (Leaf SlotId) :=
  (tests.zipIdx first).map fun test => test.1.withSlot ⟨test.2⟩

/-- Later tests are numbered from where the earlier ones ended. -/
theorem Leaf.numbered_append (first : Nat) (tests more : List (Leaf Nat)) :
    numbered first (tests ++ more) =
      numbered first tests ++ numbered (first + tests.length) more := by
  rw [numbered, List.zipIdx_append, List.map_append]
  rfl

namespace Predicate

mutual

/-- **The leaves of a node are the tests of the predicate**, one by one, with the next slots. -/
theorem leaves_toNode : ∀ (p : Predicate) {scope : Schema} {negated : Bool}
    {table table' : List Nat} {node : Node} (path : List String),
    p.toNode scope negated table = .ok (node, table') →
      node.leaves path = Leaf.numbered table.length (p.leaves path negated)
  | .test _ _ _, _, _, _, _, _, path, h =>
    Node.leaves_leafUnder path (toNode_test_eq_ok_iff.mp h).2.1
  | .element field _ criteria, _, _, _, _, _, path, h => by
    obtain ⟨-, -, inner, hc, rfl⟩ := toNode_element_eq_ok_iff.mp h
    rw [Node.leaves, leaves_toNode criteria (path ++ [field]) hc, leaves]
  | .group _ members, _, _, _, _, _, path, h => by
    obtain ⟨-, nodes, hn, rfl⟩ := toNode_group_eq_ok_iff.mp h
    rw [Node.collect_join (Node.leaves_group path), flatMap_leaves_toOperands members path hn,
      leaves]
  | .not inner, _, _, _, _, _, path, h => by
    rw [toNode_not] at h
    rw [leaves_toNode inner path h, leaves]

theorem flatMap_leaves_toOperands : ∀ (ps : List Predicate) {scope : Schema} {negated : Bool}
    {joined : Connective} {table table' : List Nat} {nodes : List Node} (path : List String),
    toOperands scope negated joined ps table = .ok (nodes, table') →
      nodes.flatMap (Node.leaves path) = Leaf.numbered table.length (allLeaves path negated ps)
  | [], _, _, _, _, _, _, path, h => by
    rw [(toOperands_nil_eq_ok_iff.mp h).1]
    rfl
  | p :: ps, _, negated, _, table, _, _, path, h => by
    obtain ⟨node, between, rest, hp, hps, rfl⟩ := toOperands_cons_eq_ok_iff.mp h
    -- the members after `p` go on where the leaves of `p` have ended
    have length : between.length = table.length + (p.leaves path negated).length := by
      rw [toNode_table p hp, ← map_slot_leaves p path negated, List.length_append, List.length_map]
    rw [List.flatMap_append, Node.flatMap_operands (Node.leaves_group path),
      leaves_toNode p path hp, flatMap_leaves_toOperands ps path hps, allLeaves,
      Leaf.numbered_append, length]

end

end Predicate

namespace Plan

variable {definition : DefinitionId} {schema : Schema} {predicate : Predicate} {plan : Plan}

/-- The table of a plan has the positions of the predicate. -/
theorem slots_eq (prepared : prepare definition schema predicate = .ok plan) :
    plan.slots = predicate.positions := by
  have table := Predicate.toNode_table predicate (prepare_eq_ok_iff.mp prepared).1
  rwa [List.nil_append] at table

/-- The leaves of a plan are those of the predicate, numbered from zero. -/
theorem leaves_root (prepared : prepare definition schema predicate = .ok plan) :
    plan.root.leaves [] = Leaf.numbered 0 (predicate.leaves [] false) :=
  Predicate.leaves_toNode predicate [] (prepare_eq_ok_iff.mp prepared).1

/-- The leaves of a plan have the slots of its table, each once and in order. -/
theorem slots_root (prepared : prepare definition schema predicate = .ok plan) :
    plan.root.slots = (List.range plan.slots.length).map SlotId.mk := by
  have numbers : (Leaf.numbered 0 (predicate.leaves [] false)).map Leaf.slot =
      ((predicate.leaves [] false).zipIdx.map Prod.snd).map SlotId.mk := by
    rw [Leaf.numbered, List.map_map, List.map_map]
    rfl
  have length : plan.slots.length = (predicate.leaves [] false).length := by
    rw [slots_eq prepared, ← Predicate.map_slot_leaves predicate [] false, List.length_map]
  rw [← Node.map_slot_leaves plan.root [], leaves_root prepared, numbers, List.zipIdx_map_snd,
    length, List.range_eq_range']

end Plan

end PreparedFilter

import PreparedFilter.Gallery.Filters
import PreparedFilter.Proofs.Preparation.Leaves

/-!
# No test is lost, repeated or moved

Between a predicate and its plan groups change their connective, disappear into each other and
collapse. The tests of the predicate are listed here as they were written, with their polarity
(`Predicate.tests`), and set against the leaves of the plan: there is one leaf for one test, in the
same order, on the same field and path, with the operator that the polarity asks for
(`Plan.leaves_of_tests`). Nothing else is added either: a plan has at most as many nodes as the
predicate has constructors.
-/

namespace PreparedFilter

/-! ## Written tests -/

/-- A test as it is written, inside the element tests of the array fields on a path, outermost
first. -/
structure Test where
  path : List String
  /-- Whether an odd number of negations stands over it, counted from the innermost element test. -/
  negated : Bool
  field : String
  operator : Operator
  position : Nat
  deriving DecidableEq

namespace Predicate

mutual

/-- The tests of a predicate, in the order of writing. -/
def tests (path : List String) (negated : Bool) : Predicate → List Test
  | .test field op position => [⟨path, negated, field, op, position⟩]
  | .element field _ criteria => criteria.tests (path ++ [field]) false
  | .group _ members => allTests path negated members
  | .not inner => inner.tests path (!negated)

/-- The tests of a list of predicates. -/
def allTests (path : List String) (negated : Bool) : List Predicate → List Test
  | [] => []
  | p :: ps => p.tests path negated ++ allTests path negated ps

end

mutual

/-- The number of constructors of a predicate. -/
def count : Predicate → Nat
  | .test _ _ _ => 1
  | .element _ _ criteria => criteria.count + 1
  | .group _ members => countAll members + 1
  | .not inner => inner.count + 1

/-- The number of constructors of a list of predicates. -/
def countAll : List Predicate → Nat
  | [] => 0
  | p :: ps => p.count + countAll ps

end

mutual

theorem map_position_tests : ∀ (p : Predicate) (path : List String) (negated : Bool),
    (p.tests path negated).map Test.position = p.positions
  | .test _ _ _, _, _ => rfl
  | .element field _ criteria, path, _ => map_position_tests criteria (path ++ [field]) false
  | .group _ members, path, negated => map_position_allTests members path negated
  | .not inner, path, negated => map_position_tests inner path (!negated)

theorem map_position_allTests : ∀ (ps : List Predicate) (path : List String) (negated : Bool),
    (allTests path negated ps).map Test.position = allPositions ps
  | [], _, _ => rfl
  | p :: ps, path, negated => by
    rw [allTests, List.map_append, map_position_tests p, map_position_allTests ps, allPositions]

end

end Predicate

/-! ## Leaves for tests -/

/-- How a plan makes a test at a polarity: by which operator, and whether as a negation. -/
inductive Operator.Becomes : (negated : Bool) → (written made : Operator) → (negation : Bool) → Prop
  | asWritten {op : Operator} : Becomes false op op false
  | ne : Becomes true .eq .ne false
  | eq : Becomes true .ne .eq false
  | notIn : Becomes true .isIn .notIn false
  | isIn : Becomes true .notIn .isIn false
  /-- An order test has no operator for its negation. -/
  | order {op : Operator} (ordering : op ∈ [gt, gte, lt, lte]) : Becomes true op op true

/-- A leaf makes a test. -/
structure Leaf.Makes (test : Test) (leaf : Leaf SlotId) : Prop where
  path : leaf.path = test.path
  field : leaf.field = test.field
  operator : test.operator.Becomes test.negated leaf.operator leaf.negated

namespace Operator

variable {op complement : Operator}

/-- An order test is negated as a whole. -/
theorem becomes_of_isOrdering (order : op.isOrdering = true) : op.Becomes true op true := by
  refine .order ?_
  cases op with
  | gt | gte | lt | lte => decide
  | _ => cases order

/-- A test that has a complement becomes it under a negation. -/
theorem becomes_of_negation? (found : op.negation? = some complement) :
    op.Becomes true complement false := by
  cases op with
  | eq | ne | isIn | notIn =>
    cases found
    constructor
  | _ => cases found

end Operator

/-- A leaf is prepared only for a test that can be made at its polarity. -/
theorem Node.exists_leaf_of_leafUnder {negated : Bool} {scope field : String} {op : Operator}
    {slot : SlotId} {node : Node} (path : List String)
    (h : leafUnder negated scope field op slot = .ok node) :
    ∃ made negation, op.Becomes negated made negation ∧
      node.leaves path = [⟨path, field, made, negation, slot⟩] := by
  cases negated with
  | false => exact ⟨op, false, .asWritten, leaves_leaf path (leafUnder_false ▸ h)⟩
  | true =>
    rcases leafUnder_true_eq_ok_iff.mp h with ⟨order, rfl⟩ | ⟨complement, found, hl⟩
    · exact ⟨op, true, Operator.becomes_of_isOrdering order, rfl⟩
    · exact ⟨complement, false, Operator.becomes_of_negation? found, leaves_leaf path hl⟩

namespace Predicate

mutual

/-- The leaves of a node make the tests of its predicate, one by one. -/
theorem makes_toNode : ∀ (p : Predicate) {scope : Schema} {negated : Bool}
    {table table' : List Nat} {node : Node} (path : List String),
    p.toNode scope negated table = .ok (node, table') →
      List.Forall₂ Leaf.Makes (p.tests path negated) (node.leaves path)
  | .test _ _ _, _, _, _, _, _, path, h => by
    obtain ⟨-, hl, -⟩ := toNode_test_eq_ok_iff.mp h
    obtain ⟨made, negation, becomes, leaf⟩ := Node.exists_leaf_of_leafUnder path hl
    rw [leaf]
    exact .cons ⟨rfl, rfl, becomes⟩ .nil
  | .element field _ criteria, _, _, _, _, _, path, h => by
    obtain ⟨-, -, inner, hc, rfl⟩ := toNode_element_eq_ok_iff.mp h
    rw [tests, Node.leaves]
    exact makes_toNode criteria (path ++ [field]) hc
  | .group _ members, _, _, _, _, _, path, h => by
    obtain ⟨-, nodes, hn, rfl⟩ := toNode_group_eq_ok_iff.mp h
    rw [tests, Node.collect_join (Node.leaves_group path)]
    exact makes_toOperands members path hn
  | .not inner, _, _, _, _, _, path, h => by
    rw [toNode_not] at h
    rw [tests]
    exact makes_toNode inner path h

theorem makes_toOperands : ∀ (ps : List Predicate) {scope : Schema} {negated : Bool}
    {joined : Connective} {table table' : List Nat} {nodes : List Node} (path : List String),
    toOperands scope negated joined ps table = .ok (nodes, table') →
      List.Forall₂ Leaf.Makes (allTests path negated ps) (nodes.flatMap (Node.leaves path))
  | [], _, _, _, _, _, _, path, h => by
    rw [(toOperands_nil_eq_ok_iff.mp h).1]
    exact .nil
  | p :: ps, _, _, _, _, _, _, path, h => by
    obtain ⟨node, between, rest, hp, hps, rfl⟩ := toOperands_cons_eq_ok_iff.mp h
    rw [allTests, List.flatMap_append, Node.flatMap_operands (Node.leaves_group path)]
    exact List.rel_append (makes_toNode p path hp) (makes_toOperands ps path hps)

end

end Predicate

/-! ## The number of nodes -/

namespace Node

theorem count_leaf {scope field : String} {op : Operator} {slot : SlotId} {node : Node}
    (h : leaf scope field op slot = .ok node) : node.count = 1 := by
  rcases leaf_eq_ok_iff.mp h with ⟨-, rfl⟩ | ⟨-, rfl⟩ | ⟨rfl, rfl⟩
  · rfl
  · rfl
  · rfl

theorem count_leafUnder {negated : Bool} {scope field : String} {op : Operator} {slot : SlotId}
    {node : Node} (h : leafUnder negated scope field op slot = .ok node) : node.count = 1 := by
  cases negated with
  | false => exact count_leaf (leafUnder_false ▸ h)
  | true =>
    rcases leafUnder_true_eq_ok_iff.mp h with ⟨-, rfl⟩ | ⟨complement, -, hl⟩
    · rfl
    · exact count_leaf hl

theorem countAll_append (ms ns : List Node) : countAll (ms ++ ns) = countAll ms + countAll ns := by
  induction ms with
  | nil => rw [List.nil_append, countAll, Nat.zero_add]
  | cons m ms ih => rw [List.cons_append, countAll, countAll, ih, Nat.add_assoc]

/-- A group that gives way to its members has one node less. -/
theorem countAll_operands_le (c : Connective) (node : Node) :
    countAll (node.operands c) ≤ node.count := by
  cases node with
  | group c' members =>
    rw [operands]
    split
    · rw [count]
      exact Nat.le_succ _
    · exact Nat.le_refl _
  | _ => exact Nat.le_refl _

theorem count_join_le (c : Connective) (nodes : List Node) :
    (join c nodes).count ≤ countAll nodes + 1 := by
  rw [join.eq_def]
  split
  · exact Nat.le_succ _
  · have same : (group c nodes).count = countAll nodes + 1 := by rw [count]
    exact Nat.le_of_eq same

end Node

namespace Predicate

mutual

/-- A predicate with some constructors becomes a node with no more nodes. -/
theorem count_toNode_le : ∀ (p : Predicate) {scope : Schema} {negated : Bool}
    {table table' : List Nat} {node : Node},
    p.toNode scope negated table = .ok (node, table') → node.count ≤ p.count
  | .test _ _ _, _, _, _, _, node, h => by
    obtain ⟨-, hl, -⟩ := toNode_test_eq_ok_iff.mp h
    exact Nat.le_of_eq (Node.count_leafUnder hl)
  | .element _ _ criteria, _, _, _, _, _, h => by
    obtain ⟨-, -, inner, hc, rfl⟩ := toNode_element_eq_ok_iff.mp h
    rw [Node.count, count]
    exact Nat.succ_le_succ (count_toNode_le criteria hc)
  | .group c members, _, negated, _, _, _, h => by
    obtain ⟨-, nodes, hn, rfl⟩ := toNode_group_eq_ok_iff.mp h
    calc (Node.join (c.under negated) nodes).count
        ≤ Node.countAll nodes + 1 := Node.count_join_le _ nodes
      _ ≤ countAll members + 1 := Nat.succ_le_succ (countAll_toOperands_le members hn)
      _ = (group c members).count := by rw [count]
  | .not inner, _, _, _, _, _, h => by
    rw [toNode_not] at h
    rw [count]
    exact Nat.le_succ_of_le (count_toNode_le inner h)

theorem countAll_toOperands_le : ∀ (ps : List Predicate) {scope : Schema} {negated : Bool}
    {joined : Connective} {table table' : List Nat} {nodes : List Node},
    toOperands scope negated joined ps table = .ok (nodes, table') →
      Node.countAll nodes ≤ countAll ps
  | [], _, _, _, _, _, _, h => by
    rw [(toOperands_nil_eq_ok_iff.mp h).1]
    exact Nat.le_refl 0
  | p :: ps, _, _, joined, _, _, _, h => by
    obtain ⟨node, between, rest, hp, hps, rfl⟩ := toOperands_cons_eq_ok_iff.mp h
    rw [Node.countAll_append, countAll]
    have first : Node.countAll (node.operands joined) ≤ p.count :=
      Nat.le_trans (Node.countAll_operands_le joined node) (count_toNode_le p hp)
    exact Nat.add_le_add first (countAll_toOperands_le ps hps)

end

end Predicate

/-! ## Plans -/

namespace Plan

/-- **No test is lost, repeated or moved.** The leaves of a plan make the tests of the predicate,
one by one and in the order of writing. Their slots are the numbers from zero on, each used once.
The slot at an index has the position of the test at this index, and there are no other slots. A
plan has at most as many nodes as the predicate has constructors. -/
theorem leaves_of_tests {definition : DefinitionId} {schema : Schema} {predicate : Predicate}
    {plan : Plan} (prepared : prepare definition schema predicate = .ok plan) :
    List.Forall₂ Leaf.Makes (predicate.tests [] false) (plan.root.leaves []) ∧
    (plan.root.leaves []).map Leaf.slot = (List.range plan.slotCount).map SlotId.mk ∧
    (∀ slot, plan.position? slot = (predicate.tests [] false)[slot.index]?.map Test.position) ∧
    plan.nodeCount ≤ predicate.count := by
  obtain ⟨made, -⟩ := prepare_eq_ok_iff.mp prepared
  refine ⟨Predicate.makes_toNode predicate [] made, ?_, ?_,
    Predicate.count_toNode_le predicate made⟩
  · rw [Node.map_slot_leaves, slots_root prepared]
    rfl
  · intro slot
    rw [position?, slots_eq prepared, ← Predicate.map_position_tests predicate [] false,
      List.getElem?_map]

/-- Negations that reach the leaves, also inside an element test, and a position that is written
twice. -/
theorem leaves_of_tests_foo :
    let criteria := Predicate.not (.all [Gallery.city.lt ⟨7⟩, Gallery.zip.isIn ⟨1⟩])
    let predicate := Predicate.not (.any
      [.not (.all [Gallery.intField.gt ⟨4⟩, .any [Gallery.stringField.eq ⟨2⟩]]),
        Gallery.flag.eq ⟨2⟩, Gallery.rating.lte ⟨0⟩,
        .not (Gallery.locations.elemMatch Gallery.location criteria)])
    let plan : Plan :=
      ⟨Gallery.dangling.definition,
        .group .conjunction [.comparison "primitiveIntField" .gt ⟨0⟩,
          .comparison "stringField" .eq ⟨1⟩, .comparison "flag" .ne ⟨2⟩,
          .negated "rating" .lte ⟨3⟩,
          .element "locations" (.group .disjunction
            [.negated "city" .lt ⟨4⟩, .membership "zip" .notIn ⟨5⟩])],
        [4, 2, 2, 0, 7, 1]⟩
    prepare Gallery.dangling.definition Gallery.foo predicate = .ok plan ∧
      predicate.tests [] false =
        [⟨[], false, "primitiveIntField", .gt, 4⟩, ⟨[], false, "stringField", .eq, 2⟩,
          ⟨[], true, "flag", .eq, 2⟩, ⟨[], true, "rating", .lte, 0⟩,
          ⟨["locations"], true, "city", .lt, 7⟩, ⟨["locations"], true, "zip", .isIn, 1⟩] ∧
      List.Forall₂ Leaf.Makes (predicate.tests [] false) (plan.root.leaves []) ∧
      plan.position? ⟨4⟩ = some 7 ∧ plan.position? ⟨6⟩ = none ∧
      plan.nodeCount = 9 ∧ 9 ≤ predicate.count ∧ predicate.count = 15 := by
  intro criteria predicate plan
  have prepared : prepare Gallery.dangling.definition Gallery.foo predicate = .ok plan := by decide
  obtain ⟨made, -, positions, nodes⟩ := leaves_of_tests prepared
  exact ⟨prepared, rfl, made, positions ⟨4⟩, positions ⟨6⟩, rfl, nodes, rfl⟩

end Plan

end PreparedFilter

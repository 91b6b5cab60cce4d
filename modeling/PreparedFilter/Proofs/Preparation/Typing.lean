import PreparedFilter.Gallery.Filters
import PreparedFilter.Proofs.Preparation.Leaves

/-!
# Plans are well-typed

The types of a field are looked up for the operator that was written, but a plan may carry the
opposite one, and may carry it elsewhere. Still every node of a plan applies its operator to a field
that it suits (`Node.Typed`): at the top, to a field of the schema, and in the criteria of an
element test, to one of the fields that were given with this test. Together with the normal form
this is what may be relied on in a prepared plan (`Plan.wellFormed_root`).
-/

namespace PreparedFilter

/-! ## Uses of fields -/

/-- The first descriptor of a name suits an operator. -/
def Schema.Suits (scope : Schema) (field : String) (op : Operator) : Prop :=
  ∃ descriptor, scope.descriptor? field = some descriptor ∧ descriptor.supports op = true

/-- A test of the elements of an array field, with the fields that the elements have. -/
structure ElementTest where
  field : String
  fields : List FieldDescriptor
  criteria : Predicate

namespace Predicate

mutual

/-- The element tests of a predicate that are not inside of other ones, in the order of writing. -/
def elements : Predicate → List ElementTest
  | .test _ _ _ => []
  | .element field fields criteria => [⟨field, fields, criteria⟩]
  | .group _ members => allElements members
  | .not inner => inner.elements

/-- The element tests of a list of predicates. -/
def allElements : List Predicate → List ElementTest
  | [] => []
  | p :: ps => p.elements ++ allElements ps

end

end Predicate

namespace Node

mutual

/-- The fields that a node speaks of outside of criteria, with the operators that it applies. -/
def uses : Node → List (String × Operator)
  | .comparison field op _ => [(field, op)]
  | .negated field op _ => [(field, op)]
  | .membership field op _ => [(field, op)]
  | .size field _ => [(field, .size)]
  | .element field _ => [(field, .elemMatch)]
  | .group _ members => allUses members

/-- The uses of a list of nodes. -/
def allUses : List Node → List (String × Operator)
  | [] => []
  | n :: ns => n.uses ++ allUses ns

end

mutual

/-- The element tests of a node that are not inside of other ones, from left to right. -/
def elements : Node → List (String × Node)
  | .element field criteria => [(field, criteria)]
  | .group _ members => allElements members
  | _ => []

/-- The element tests of a list of nodes. -/
def allElements : List Node → List (String × Node)
  | [] => []
  | n :: ns => n.elements ++ allElements ns

end

mutual

/-- A node and all nodes below it, also those in criteria. -/
def nodes : Node → List Node
  | .element field criteria => .element field criteria :: criteria.nodes
  | .group c members => .group c members :: allNodes members
  | leaf => [leaf]

/-- The nodes of a list of nodes, and all nodes below them. -/
def allNodes : List Node → List Node
  | [] => []
  | n :: ns => n.nodes ++ allNodes ns

end

/-- A node for a predicate over the schema in scope is well-typed: its operators suit the fields in
scope, and its element tests are those of the predicate, one by one, with criteria that are
well-typed over the fields that the predicate gives for the elements. -/
inductive Typed : Schema → Predicate → Node → Prop where
  | intro {scope : Schema} {p : Predicate} {node : Node}
    (suits : ∀ use ∈ node.uses, scope.Suits use.1 use.2)
    (fields : p.elements.map ElementTest.field = node.elements.map Prod.fst)
    (criteria : List.Forall₂ (fun test element =>
      Typed ⟨test.field, test.fields⟩ test.criteria element.2) p.elements node.elements) :
    Typed scope p node

/-! ## Parts of nodes -/

theorem uses_group (c : Connective) (members : List Node) :
    (group c members).uses = members.flatMap uses := by
  rw [uses]
  exact collect_eq_flatMap rfl (fun _ _ => rfl) members

theorem elements_group (c : Connective) (members : List Node) :
    (group c members).elements = members.flatMap elements := by
  rw [elements]
  exact collect_eq_flatMap rfl (fun _ _ => rfl) members

/-- Each of several normal nodes is normal by itself, and is no group of the connective. -/
theorem AllNormalApart.of_mem {c : Connective} {members : List Node} (h : AllNormalApart c members)
    {m : Node} (mem : m ∈ members) : m.Normal ∧ ¬ m.IsGroup c := by
  induction members with
  | nil => cases mem
  | cons n ns ih =>
    obtain ⟨normal, apart, rest⟩ := h
    rcases List.mem_cons.mp mem with rfl | later
    · exact ⟨normal, apart⟩
    · exact ih rest later

mutual

/-- All nodes of a node in normal form are in normal form. -/
theorem Normal.of_mem_nodes : ∀ {node m : Node}, node.Normal → m ∈ node.nodes → m.Normal
  | .comparison _ _ _, _, h, mem | .negated _ _ _, _, h, mem | .membership _ _ _, _, h, mem
  | .size _ _, _, h, mem => by
    rcases List.mem_singleton.mp mem with rfl
    exact h
  | .element field criteria, m, h, mem => by
    rw [nodes, List.mem_cons] at mem
    rcases mem with rfl | inside
    · exact h
    · rw [Normal] at h
      exact h.of_mem_nodes inside
  | .group c members, m, h, mem => by
    rw [nodes, List.mem_cons] at mem
    rcases mem with rfl | inside
    · exact h
    · rw [Normal] at h
      exact h.2.normal_of_mem_nodes inside

theorem AllNormalApart.normal_of_mem_nodes : ∀ {c : Connective} {members : List Node} {m : Node},
    AllNormalApart c members → m ∈ allNodes members → m.Normal
  | _, [], _, _, mem => nomatch mem
  | c, n :: ns, m, h, mem => by
    rw [allNodes, List.mem_append] at mem
    obtain ⟨normal, -, rest⟩ := h
    rcases mem with first | later
    · exact normal.of_mem_nodes first
    · exact rest.normal_of_mem_nodes later

end

/-! ## Leaves -/

theorem uses_leaf {scope field : String} {op : Operator} {slot : SlotId} {node : Node}
    (h : leaf scope field op slot = .ok node) :
    node.uses = [(field, op)] ∧ node.elements = [] := by
  rcases leaf_eq_ok_iff.mp h with ⟨-, rfl⟩ | ⟨-, rfl⟩ | ⟨rfl, rfl⟩
  · exact ⟨rfl, rfl⟩
  · exact ⟨rfl, rfl⟩
  · exact ⟨rfl, rfl⟩

/-- A leaf uses the operator that its polarity makes of the written one. -/
theorem uses_leafUnder {negated : Bool} {scope field : String} {op : Operator} {slot : SlotId}
    {node : Node} (h : leafUnder negated scope field op slot = .ok node) :
    node.uses = [(field, op.under negated)] ∧ node.elements = [] := by
  cases negated with
  | false => exact uses_leaf (leafUnder_false ▸ h)
  | true =>
    rcases leafUnder_true_eq_ok_iff.mp h with ⟨order, rfl⟩ | ⟨complement, found, hl⟩
    · rw [Operator.under_of_isOrdering order]
      exact ⟨rfl, rfl⟩
    · rw [Operator.under_true_of_negation? found]
      exact uses_leaf hl

end Node

/-- An operator is accepted if the first descriptor of the field supports it. -/
theorem Schema.resolve_eq_ok_iff {scope : Schema} {field : String} {op : Operator}
    {descriptor : FieldDescriptor} :
    scope.resolve field op = .ok descriptor ↔
      scope.descriptor? field = some descriptor ∧ descriptor.supports op = true := by
  rw [resolve]
  cases hd : scope.descriptor? field with
  | none => simp
  | some found =>
    by_cases suits : found.supports op
    · simp only [if_pos suits, Except.ok.injEq, Option.some.injEq]
      constructor
      · rintro rfl
        exact ⟨rfl, suits⟩
      · rintro ⟨rfl, -⟩
        rfl
    · simp only [if_neg suits, Option.some.injEq]
      constructor
      · intro h
        cases h
      · rintro ⟨rfl, other⟩
        exact absurd other suits

namespace Predicate

/-! ## Nodes of predicates -/

mutual

/-- **The node of a predicate is well-typed.** -/
theorem typed_toNode : ∀ (p : Predicate) {scope : Schema} {negated : Bool}
    {table table' : List Nat} {node : Node},
    p.toNode scope negated table = .ok (node, table') → node.Typed scope p
  | .test _ _ _, _, _, _, _, _, h => by
    obtain ⟨⟨descriptor, resolved⟩, hl, -⟩ := toNode_test_eq_ok_iff.mp h
    obtain ⟨found, supported⟩ := Schema.resolve_eq_ok_iff.mp resolved
    obtain ⟨uses, elements⟩ := Node.uses_leafUnder hl
    refine ⟨?_, ?_, ?_⟩
    · -- the field was looked up for the written operator, whose negation suits the same types
      rw [uses, List.forall_mem_singleton]
      refine ⟨descriptor, found, ?_⟩
      rw [FieldDescriptor.supports, Operator.appliesTo_under]
      exact supported
    · rw [elements]
      rfl
    · rw [elements]
      exact .nil
  | .element _ _ criteria, _, _, _, _, _, h => by
    obtain ⟨⟨descriptor, resolved⟩, -, inner, hc, rfl⟩ := toNode_element_eq_ok_iff.mp h
    refine ⟨?_, rfl, ?_⟩
    · rw [Node.uses, List.forall_mem_singleton]
      exact ⟨descriptor, Schema.resolve_eq_ok_iff.mp resolved⟩
    · exact .cons (typed_toNode criteria hc) .nil
  | .group _ members, _, _, _, _, _, h => by
    -- to join the operands neither adds nor moves a use of a field
    obtain ⟨-, nodes, hn, rfl⟩ := toNode_group_eq_ok_iff.mp h
    obtain ⟨suits, names, criteria⟩ := typed_toOperands members hn
    refine ⟨?_, ?_, ?_⟩
    · rw [Node.collect_join Node.uses_group]
      exact suits
    · rw [Node.collect_join Node.elements_group]
      exact names
    · rw [Node.collect_join Node.elements_group]
      exact criteria
  | .not inner, _, _, _, _, _, h => by
    rw [toNode_not] at h
    obtain ⟨suits, names, criteria⟩ := typed_toNode inner h
    exact ⟨suits, names, criteria⟩

theorem typed_toOperands : ∀ (ps : List Predicate) {scope : Schema} {negated : Bool}
    {joined : Connective} {table table' : List Nat} {nodes : List Node},
    toOperands scope negated joined ps table = .ok (nodes, table') →
      (∀ use ∈ nodes.flatMap Node.uses, scope.Suits use.1 use.2) ∧
      (allElements ps).map ElementTest.field = (nodes.flatMap Node.elements).map Prod.fst ∧
      List.Forall₂ (fun test element => element.2.Typed ⟨test.field, test.fields⟩ test.criteria)
        (allElements ps) (nodes.flatMap Node.elements)
  | [], _, _, _, _, _, _, h => by
    rw [(toOperands_nil_eq_ok_iff.mp h).1]
    exact ⟨nofun, rfl, .nil⟩
  | p :: ps, _, _, _, _, _, _, h => by
    obtain ⟨node, between, rest, hp, hps, rfl⟩ := toOperands_cons_eq_ok_iff.mp h
    obtain ⟨suits, names, criteria⟩ := typed_toNode p hp
    obtain ⟨laterSuits, laterNames, laterCriteria⟩ := typed_toOperands ps hps
    rw [List.flatMap_append, Node.flatMap_operands Node.uses_group, List.flatMap_append,
      Node.flatMap_operands Node.elements_group, allElements]
    refine ⟨?_, ?_, ?_⟩
    · intro use mem
      rcases List.mem_append.mp mem with first | later
      · exact suits use first
      · exact laterSuits use later
    · rw [List.map_append, List.map_append, names, laterNames]
    · exact List.rel_append criteria laterCriteria

end

end Predicate

/-! ## Roots of plans -/

namespace Plan

/-- **Prepared plans are in normal form and well-typed**, in the criteria of element tests, too. A
group has two members at least, none of which is a group of the same connective. Every leaf has an
operator of its kind, and every operator suits the field in its own scope that it is applied to. -/
theorem wellFormed_root {definition : DefinitionId} {schema : Schema} {predicate : Predicate}
    {plan : Plan} (prepared : prepare definition schema predicate = .ok plan) :
    (∀ c members, .group c members ∈ plan.root.nodes →
      2 ≤ members.length ∧ ∀ m ∈ members, ¬ m.IsGroup c) ∧
    (∀ field op slot, .comparison field op slot ∈ plan.root.nodes →
      op ∈ [Operator.eq, .ne, .gt, .gte, .lt, .lte]) ∧
    (∀ field op slot, .negated field op slot ∈ plan.root.nodes →
      op ∈ [Operator.gt, .gte, .lt, .lte]) ∧
    (∀ field op slot, .membership field op slot ∈ plan.root.nodes →
      op ∈ [Operator.isIn, .notIn, .all]) ∧
    plan.root.Typed schema predicate := by
  have normal {m : Node} (mem : m ∈ plan.root.nodes) : m.Normal :=
    (normal_root prepared).of_mem_nodes mem
  refine ⟨?_, ?_, ?_, ?_, ?_⟩
  · intro c members mem
    obtain ⟨several, apart⟩ := normal mem
    exact ⟨several, fun m hm => (apart.of_mem hm).2⟩
  · intro field op slot mem
    have comparison : op.isComparison = true := normal mem
    cases op <;> simp [Operator.isComparison, Operator.isOrdering] at comparison ⊢
  · intro field op slot mem
    have ordering : op.isOrdering = true := normal mem
    cases op <;> simp [Operator.isOrdering] at ordering ⊢
  · intro field op slot mem
    have membership : op.isMembership = true := normal mem
    cases op <;> simp [Operator.isMembership] at membership ⊢
  · exact Predicate.typed_toNode predicate (prepare_eq_ok_iff.mp prepared).1

/-- A negated group in criteria becomes one of its dual, typed over the fields of the elements. -/
theorem wellFormed_root_foo :
    let criteria := Predicate.not (.all [Gallery.city.lte ⟨3⟩, Gallery.zip.isIn ⟨4⟩])
    let predicate := Predicate.all
      [.any [.all [Gallery.stringField.eq ⟨0⟩, Gallery.intField.gt ⟨1⟩]],
        .not (.any [Gallery.flag.eq ⟨2⟩,
          .not (Gallery.locations.elemMatch Gallery.location criteria)])]
    let members := [Node.negated "city" .lte ⟨3⟩, .membership "zip" .notIn ⟨4⟩]
    let plan : Plan :=
      ⟨Gallery.dangling.definition,
        .group .conjunction [.comparison "stringField" .eq ⟨0⟩,
          .comparison "primitiveIntField" .gt ⟨1⟩, .comparison "flag" .ne ⟨2⟩,
          .element "locations" (.group .disjunction members)],
        [0, 1, 2, 3, 4]⟩
    prepare Gallery.dangling.definition Gallery.foo predicate = .ok plan ∧
      (.group .disjunction members ∈ plan.root.nodes ∧
        ∀ m ∈ members, ¬ m.IsGroup .disjunction) ∧
      (.negated "city" .lte ⟨3⟩ ∈ plan.root.nodes ∧
        Operator.lte ∈ [Operator.gt, .gte, .lt, .lte]) ∧
      plan.root.Typed Gallery.foo predicate := by
  intro criteria predicate members plan
  have prepared : prepare Gallery.dangling.definition Gallery.foo predicate = .ok plan := by decide
  have group : .group .disjunction members ∈ plan.root.nodes := by decide
  have negated : .negated "city" .lte ⟨3⟩ ∈ plan.root.nodes := by decide
  obtain ⟨groups, -, orderings, -, typed⟩ := wellFormed_root prepared
  exact ⟨prepared, ⟨group, (groups _ _ group).2⟩, ⟨negated, orderings _ _ _ negated⟩, typed⟩

end Plan

end PreparedFilter

import PreparedFilter.Proofs.Preparation.Steps

/-!
# The normal form of plans

The root of a plan is in normal form (`normal_toNode`): every group has two members at least, none
of which is a group of the same connective, and every leaf has an operator of its kind. Preparation
also keeps the fields of a predicate and their order (`fields_toNode`), so what is known of the
names in a predicate is known of the names in its plan.
-/

namespace PreparedFilter

namespace Predicate

mutual

/-- The fields that a predicate names, at all levels, in the order of writing. -/
def fields : Predicate → List String
  | .test field _ _ => [field]
  | .element field _ criteria => field :: criteria.fields
  | .group _ members => allFields members
  | .not inner => inner.fields

/-- The fields that a list of predicates names. -/
def allFields : List Predicate → List String
  | [] => []
  | p :: ps => p.fields ++ allFields ps

end

end Predicate

namespace Node

mutual

/-- The fields that a node names, at all levels, from left to right. -/
def fields : Node → List String
  | .comparison field _ _ => [field]
  | .negated field _ _ => [field]
  | .membership field _ _ => [field]
  | .size field _ => [field]
  | .element field criteria => field :: criteria.fields
  | .group _ members => allFields members

/-- The fields that a list of nodes names. -/
def allFields : List Node → List String
  | [] => []
  | n :: ns => n.fields ++ allFields ns

end

/-- Whether a node is a group of the given connective. -/
def IsGroup (c : Connective) : Node → Prop
  | .group c' _ => c' = c
  | _ => False

mutual

/-- Whether a node is in normal form. -/
def Normal : Node → Prop
  | .comparison _ op _ => op.isComparison = true
  | .negated _ op _ => op.isOrdering = true
  | .membership _ op _ => op.isMembership = true
  | .size _ _ => True
  | .element _ criteria => criteria.Normal
  | .group c members => 2 ≤ members.length ∧ AllNormalApart c members

/-- Whether all nodes of a list are in normal form and none is a group of the given connective. -/
def AllNormalApart (c : Connective) : List Node → Prop
  | [] => True
  | n :: ns => n.Normal ∧ ¬ n.IsGroup c ∧ AllNormalApart c ns

end

/-! ## Joining operands -/

section

variable {α : Type} {f : Node → List α}

/-- What is collected node by node is collected of each node of the list. -/
theorem collect_eq_flatMap {all : List Node → List α} (nil : all [] = [])
    (cons : ∀ n ns, all (n :: ns) = f n ++ all ns) (nodes : List Node) :
    all nodes = nodes.flatMap f := by
  induction nodes with
  | nil => exact nil
  | cons n ns ih => rw [cons, ih, List.flatMap_cons]

/-- What is collected of a group from its members is collected of the operands of a node, too. -/
theorem flatMap_operands (group : ∀ c members, f (.group c members) = members.flatMap f)
    (c : Connective) (node : Node) : (node.operands c).flatMap f = f node := by
  cases node with
  | group c' members =>
    rw [operands]
    split
    · rw [group]
    · rw [List.flatMap_singleton]
  | _ => exact List.flatMap_singleton _ _

/-- What is collected member by member does not see whether members were joined. -/
theorem collect_join (group : ∀ c members, f (.group c members) = members.flatMap f)
    (c : Connective) (nodes : List Node) : f (join c nodes) = nodes.flatMap f := by
  rw [join.eq_def]
  split
  · rw [List.flatMap_singleton]
  · rw [group]

end

theorem fields_group (c : Connective) (members : List Node) :
    (group c members).fields = members.flatMap fields := by
  rw [fields]
  exact collect_eq_flatMap rfl (fun _ _ => rfl) members

theorem allNormalApart_append {c : Connective} {ms ns : List Node} :
    AllNormalApart c (ms ++ ns) ↔ AllNormalApart c ms ∧ AllNormalApart c ns := by
  induction ms with
  | nil => rw [List.nil_append, AllNormalApart, true_and]
  | cons m ms ih => rw [List.cons_append, AllNormalApart, AllNormalApart, ih]; simp only [and_assoc]

/-- A node in normal form contributes such nodes to a group, and one at least. -/
theorem allNormalApart_operands {c : Connective} {node : Node} (h : node.Normal) :
    AllNormalApart c (node.operands c) ∧ node.operands c ≠ [] := by
  cases node with
  | group c' members =>
    rw [operands]
    split
    · next same =>
      -- the members of the group are apart from its connective already
      subst same
      rw [Normal] at h
      refine ⟨h.2, fun empty => ?_⟩
      rw [empty] at h
      exact absurd h.1 (by decide)
    · next other => exact ⟨⟨h, other, trivial⟩, List.cons_ne_nil _ _⟩
  | _ => exact ⟨⟨h, id, trivial⟩, List.cons_ne_nil _ _⟩

/-- Joining normal nodes that are no groups of the connective gives a normal node. -/
theorem normal_join {c : Connective} {nodes : List Node} (h : AllNormalApart c nodes)
    (nonempty : nodes ≠ []) : (join c nodes).Normal := by
  match nodes, h, nonempty with
  | [], _, nonempty => exact absurd rfl nonempty
  | [node], h, _ => exact h.1
  | m :: n :: rest, h, _ => exact ⟨by simp, h⟩

/-- A leaf has an operator of its kind. -/
theorem normal_leaf {scope field : String} {op : Operator} {slot : SlotId} {node : Node}
    (h : leaf scope field op slot = .ok node) : node.Normal ∧ node.fields = [field] := by
  rcases leaf_eq_ok_iff.mp h with ⟨hop, rfl⟩ | ⟨hop, rfl⟩ | ⟨rfl, rfl⟩
  · exact ⟨hop, rfl⟩
  · exact ⟨hop, rfl⟩
  · exact ⟨trivial, rfl⟩

theorem normal_leafUnder {negated : Bool} {scope field : String} {op : Operator} {slot : SlotId}
    {node : Node} (h : leafUnder negated scope field op slot = .ok node) :
    node.Normal ∧ node.fields = [field] := by
  cases negated with
  | false => exact normal_leaf (leafUnder_false ▸ h)
  | true =>
    rcases leafUnder_true_eq_ok_iff.mp h with ⟨hop, rfl⟩ | ⟨complement, -, hl⟩
    · exact ⟨hop, rfl⟩
    · exact normal_leaf hl

end Node

namespace Predicate

/-! ## Nodes of predicates -/

mutual

/-- The node of a predicate names the fields of the predicate, in the same order. -/
theorem fields_toNode : ∀ (p : Predicate) {scope : Schema} {negated : Bool}
    {table table' : List Nat} {node : Node},
    p.toNode scope negated table = .ok (node, table') → node.fields = p.fields
  | .test _ _ _, _, _, _, _, _, h => by
    rw [(Node.normal_leafUnder (toNode_test_eq_ok_iff.mp h).2.1).2, fields]
  | .element _ _ criteria, _, _, _, _, _, h => by
    obtain ⟨-, -, inner, hc, rfl⟩ := toNode_element_eq_ok_iff.mp h
    rw [Node.fields, fields_toNode criteria hc, fields]
  | .group _ members, _, _, _, _, _, h => by
    obtain ⟨-, nodes, hn, rfl⟩ := toNode_group_eq_ok_iff.mp h
    rw [Node.collect_join Node.fields_group, flatMap_fields_toOperands members hn, fields]
  | .not inner, _, _, _, _, _, h => by
    rw [toNode_not] at h
    rw [fields_toNode inner h, fields]

theorem flatMap_fields_toOperands : ∀ (ps : List Predicate) {scope : Schema} {negated : Bool}
    {joined : Connective} {table table' : List Nat} {nodes : List Node},
    toOperands scope negated joined ps table = .ok (nodes, table') →
      nodes.flatMap Node.fields = allFields ps
  | [], _, _, _, _, _, _, h => by
    rw [(toOperands_nil_eq_ok_iff.mp h).1, List.flatMap_nil, allFields]
  | p :: ps, _, _, _, _, _, _, h => by
    obtain ⟨node, between, rest, hp, hps, rfl⟩ := toOperands_cons_eq_ok_iff.mp h
    rw [List.flatMap_append, Node.flatMap_operands Node.fields_group, fields_toNode p hp,
      flatMap_fields_toOperands ps hps, allFields]

end

mutual

/-- **The node of a predicate is in normal form.** -/
theorem normal_toNode : ∀ (p : Predicate) {scope : Schema} {negated : Bool}
    {table table' : List Nat} {node : Node},
    p.toNode scope negated table = .ok (node, table') → node.Normal
  | .test _ _ _, _, _, _, _, _, h => (Node.normal_leafUnder (toNode_test_eq_ok_iff.mp h).2.1).1
  | .element _ _ criteria, _, _, _, _, _, h => by
    obtain ⟨-, -, inner, hc, rfl⟩ := toNode_element_eq_ok_iff.mp h
    show inner.Normal
    exact normal_toNode criteria hc
  | .group _ members, _, _, _, _, _, h => by
    obtain ⟨nonempty, nodes, hn, rfl⟩ := toNode_group_eq_ok_iff.mp h
    obtain ⟨all, some⟩ := allNormalApart_toOperands members hn
    exact Node.normal_join all (some nonempty)
  | .not inner, _, _, _, _, _, h => normal_toNode inner (toNode_not ▸ h)

/-- The operands of a group are normal, and none is a group of the same connective, since such
groups are opened. -/
theorem allNormalApart_toOperands : ∀ (ps : List Predicate) {scope : Schema} {negated : Bool}
    {joined : Connective} {table table' : List Nat} {nodes : List Node},
    toOperands scope negated joined ps table = .ok (nodes, table') →
      Node.AllNormalApart joined nodes ∧ (ps ≠ [] → nodes ≠ [])
  | [], _, _, _, _, _, _, h => by
    rw [(toOperands_nil_eq_ok_iff.mp h).1]
    exact ⟨trivial, fun nonempty => absurd rfl nonempty⟩
  | p :: ps, _, _, _, _, _, _, h => by
    obtain ⟨node, between, rest, hp, hps, rfl⟩ := toOperands_cons_eq_ok_iff.mp h
    obtain ⟨first, nonempty⟩ := Node.allNormalApart_operands (normal_toNode p hp)
    have others := (allNormalApart_toOperands ps hps).1
    exact ⟨Node.allNormalApart_append.mpr ⟨first, others⟩,
      fun _ empty => nonempty (List.append_eq_nil_iff.mp empty).1⟩

end

end Predicate

/-! ## Roots of plans -/

section

variable {definition : DefinitionId} {schema : Schema} {predicate : Predicate} {plan : Plan}

theorem Plan.normal_root (prepared : Plan.prepare definition schema predicate = .ok plan) :
    plan.root.Normal :=
  Predicate.normal_toNode predicate (Plan.prepare_eq_ok_iff.mp prepared).1

/-- A plan tests the fields of its predicate, and in their order. -/
theorem Plan.fields_root (prepared : Plan.prepare definition schema predicate = .ok plan) :
    plan.root.fields = predicate.fields :=
  Predicate.fields_toNode predicate (Plan.prepare_eq_ok_iff.mp prepared).1

end

end PreparedFilter

import PreparedFilter.Proofs.Preparation.Steps
import PreparedFilter.Gallery.Schemas

/-!
# Preparation keeps the meaning

A predicate holds or does not hold of a document once it is known which tests hold of which
documents, and which documents are the elements of an array field (`Interpretation`). The same
knowledge gives a meaning to a node, if its slots are looked up in a table.

`holds_toNode` says that the two meanings agree: the node of a predicate holds exactly where the
predicate does, and the node of its negation exactly where it does not.

A table that grows later changes nothing in the meaning of the nodes made before, because a slot is
looked up by its index. The induction therefore speaks of every table that continues the one which
the pass returned.
-/

universe u

namespace PreparedFilter

/-- What is known of documents: the elements of their array fields, and which tests hold of them.
The test of an operator that has a complement holds exactly where the test of the complement does
not. -/
structure Interpretation (Doc : Type u) where
  element : Doc → String → Doc → Prop
  test : Doc → String → Operator → Nat → Prop
  test_ne : ∀ d field position, test d field .ne position ↔ ¬ test d field .eq position
  test_notIn : ∀ d field position, test d field .notIn position ↔ ¬ test d field .isIn position

variable {Doc : Type u}

namespace Interpretation

/-- The interpretation in which the tests of `.ne` and `.notIn` are the complements of the given
ones of `.eq` and `.isIn`. -/
def ofTests (element : Doc → String → Doc → Prop) (test : Doc → String → Operator → Nat → Prop) :
    Interpretation Doc where
  element
  test d field op position :=
    match op with
    | .ne => ¬ test d field .eq position
    | .notIn => ¬ test d field .isIn position
    | op => test d field op position
  test_ne _ _ _ := Iff.rfl
  test_notIn _ _ _ := Iff.rfl

/-- The test of a complement holds exactly where the test does not. -/
theorem test_negation (I : Interpretation Doc) {op complement : Operator}
    (h : op.negation? = some complement) (d : Doc) (field : String) (position : Nat) :
    I.test d field complement position ↔ ¬ I.test d field op position := by
  cases op <;> simp only [Operator.negation?, reduceCtorEq, Option.some.injEq] at h <;> subst h
  · exact I.test_ne d field position
  · rw [I.test_ne d field position, Classical.not_not]
  · exact I.test_notIn d field position
  · rw [I.test_notIn d field position, Classical.not_not]

end Interpretation

/-! ## Connectives and polarity -/

/-- What a connective asks of the members of a group. -/
def Connective.Joins {α : Type} (c : Connective) (holds : α → Prop) (members : List α) : Prop :=
  match c with
  | conjunction => ∀ m ∈ members, holds m
  | disjunction => ∃ m ∈ members, holds m

/-- A statement, or its negation. -/
def Polar (negated : Bool) (statement : Prop) : Prop := if negated then ¬ statement else statement

@[simp] theorem polar_false (statement : Prop) : Polar false statement ↔ statement := by
  simp [Polar]

@[simp] theorem polar_true (statement : Prop) : Polar true statement ↔ ¬ statement := by
  simp [Polar]

theorem polar_not (negated : Bool) (statement : Prop) :
    Polar negated (¬ statement) ↔ Polar (!negated) statement := by
  cases negated <;> simp

namespace Connective

variable {α : Type} {holds : α → Prop}

@[simp] theorem joins_singleton (c : Connective) (m : α) : c.Joins holds [m] ↔ holds m := by
  cases c <;> simp [Joins]

theorem joins_append (c : Connective) (ms ns : List α) :
    c.Joins holds (ms ++ ns) ↔
      match c with
      | conjunction => c.Joins holds ms ∧ c.Joins holds ns
      | disjunction => c.Joins holds ms ∨ c.Joins holds ns := by
  cases c
  · simp only [Joins, List.mem_append]
    exact ⟨fun h => ⟨fun m hm => h m (.inl hm), fun m hm => h m (.inr hm)⟩,
      fun h m hm => hm.elim (h.1 m) (h.2 m)⟩
  · simp only [Joins, List.mem_append, or_and_right, exists_or]

/-- The negation of a group joins the negated members by the other connective. -/
theorem joins_under (c : Connective) (negated : Bool) (ms : List α) :
    (c.under negated).Joins (fun m => Polar negated (holds m)) ms ↔
      Polar negated (c.Joins holds ms) := by
  cases negated with
  | false => simp [under]
  | true => cases c <;> simp [under, dual, Joins]

/-- Members that hold alike may take each other's place at both ends of a group. -/
theorem joins_append_congr {β : Type} {holds' : β → Prop} (c : Connective) {ms ms' : List α}
    {ns ns' : List β} (h : c.Joins holds ms ↔ c.Joins holds' ns)
    (h' : c.Joins holds ms' ↔ c.Joins holds' ns') :
    c.Joins holds (ms ++ ms') ↔ c.Joins holds' (ns ++ ns') := by
  rw [joins_append, joins_append]
  cases c
  · exact and_congr h h'
  · exact or_congr h h'

end Connective

/-! ## The meaning of a predicate -/

namespace Predicate

mutual

/-- Whether a predicate holds of a document. -/
def Holds (I : Interpretation Doc) : Predicate → Doc → Prop
  | .test field op position, d => I.test d field op position
  | .element field _ criteria, d => ∃ e, I.element d field e ∧ criteria.Holds I e
  | .group .conjunction members, d => AllHold I members d
  | .group .disjunction members, d => AnyHolds I members d
  | .not inner, d => ¬ inner.Holds I d

/-- Whether all predicates of a list hold of a document. -/
def AllHold (I : Interpretation Doc) : List Predicate → Doc → Prop
  | [], _ => True
  | p :: ps, d => p.Holds I d ∧ AllHold I ps d

/-- Whether some predicate of a list holds of a document. -/
def AnyHolds (I : Interpretation Doc) : List Predicate → Doc → Prop
  | [], _ => False
  | p :: ps, d => p.Holds I d ∨ AnyHolds I ps d

end

theorem holds_group (I : Interpretation Doc) (c : Connective) (members : List Predicate) (d : Doc) :
    (group c members).Holds I d ↔ c.Joins (fun p => p.Holds I d) members := by
  cases c with
  | conjunction =>
    rw [Holds]
    induction members with
    | nil => simp [AllHold, Connective.Joins]
    | cons p ps ih => rw [AllHold, ih]; simp [Connective.Joins]
  | disjunction =>
    rw [Holds]
    induction members with
    | nil => simp [AnyHolds, Connective.Joins]
    | cons p ps ih => rw [AnyHolds, ih]; simp [Connective.Joins]

end Predicate

/-! ## The meaning of a node -/

/-- Whether a slot stands for a position with the given property. A slot outside the table stands
for none. -/
def SlotId.Finds (table : List Nat) (slot : SlotId) (property : Nat → Prop) : Prop :=
  ∃ position, table[slot.index]? = some position ∧ property position

namespace Node

mutual

/-- Whether a node holds of a document, its slots looked up in a table. -/
def Holds (I : Interpretation Doc) (table : List Nat) : Node → Doc → Prop
  | .comparison field op slot, d => slot.Finds table fun position => I.test d field op position
  | .negated field op slot, d => slot.Finds table fun position => ¬ I.test d field op position
  | .membership field op slot, d => slot.Finds table fun position => I.test d field op position
  | .size field slot, d => slot.Finds table fun position => I.test d field .size position
  | .element field criteria, d => ∃ e, I.element d field e ∧ criteria.Holds I table e
  | .group .conjunction members, d => AllHold I table members d
  | .group .disjunction members, d => AnyHolds I table members d

/-- Whether all nodes of a list hold of a document. -/
def AllHold (I : Interpretation Doc) (table : List Nat) : List Node → Doc → Prop
  | [], _ => True
  | n :: ns, d => n.Holds I table d ∧ AllHold I table ns d

/-- Whether some node of a list holds of a document. -/
def AnyHolds (I : Interpretation Doc) (table : List Nat) : List Node → Doc → Prop
  | [], _ => False
  | n :: ns, d => n.Holds I table d ∨ AnyHolds I table ns d

end

variable (I : Interpretation Doc) (table : List Nat)

theorem holds_group (c : Connective) (members : List Node) (d : Doc) :
    (group c members).Holds I table d ↔ c.Joins (fun n => n.Holds I table d) members := by
  cases c with
  | conjunction =>
    rw [Holds]
    induction members with
    | nil => simp [AllHold, Connective.Joins]
    | cons n ns ih => rw [AllHold, ih]; simp [Connective.Joins]
  | disjunction =>
    rw [Holds]
    induction members with
    | nil => simp [AnyHolds, Connective.Joins]
    | cons n ns ih => rw [AnyHolds, ih]; simp [Connective.Joins]

/-- Joining nodes means what their connective asks, also where one node stands for itself. -/
theorem holds_join (c : Connective) (nodes : List Node) (d : Doc) :
    (join c nodes).Holds I table d ↔ c.Joins (fun n => n.Holds I table d) nodes := by
  rw [join.eq_def]
  split
  · rw [Connective.joins_singleton]
  · exact holds_group I table c nodes d

/-- A node may be replaced by its operands in a group of the connective. -/
theorem joins_operands (c : Connective) (node : Node) (d : Doc) :
    c.Joins (fun n => n.Holds I table d) (node.operands c) ↔ node.Holds I table d := by
  cases node with
  | group c' members =>
    rw [operands]
    split
    · next h => rw [holds_group, h]
    · rw [Connective.joins_singleton]
  | _ => simp only [operands, Connective.joins_singleton]

/-- The leaf of an operator means the test of the operator. -/
theorem holds_leaf {scope field : String} {op : Operator} {slot : SlotId} {node : Node}
    (h : leaf scope field op slot = .ok node) (d : Doc) :
    node.Holds I table d ↔ slot.Finds table fun position => I.test d field op position := by
  rcases leaf_eq_ok_iff.mp h with ⟨-, rfl⟩ | ⟨-, rfl⟩ | ⟨rfl, rfl⟩
  · rw [Holds]
  · rw [Holds]
  · rw [Holds]

/-- A leaf holds as the test at its polarity does, whether it is made by a complement or as a
negation. -/
theorem holds_leafUnder {negated : Bool} {scope field : String} {op : Operator} {slot : SlotId}
    {node : Node} (h : leafUnder negated scope field op slot = .ok node) (d : Doc) :
    node.Holds I table d ↔
      slot.Finds table fun position => Polar negated (I.test d field op position) := by
  cases negated with
  | false =>
    rw [leafUnder_false] at h
    simpa using holds_leaf I table h d
  | true =>
    simp only [polar_true]
    rcases leafUnder_true_eq_ok_iff.mp h with ⟨-, rfl⟩ | ⟨complement, hc, hl⟩
    · rw [Holds]
    · rw [holds_leaf I table hl d]
      simp only [I.test_negation hc]

end Node

/-- A new slot finds its own position, whatever is written later. -/
theorem SlotId.finds_next (table more : List Nat) (position : Nat) (property : Nat → Prop) :
    SlotId.Finds (table ++ [position] ++ more) ⟨table.length⟩ property ↔ property position := by
  simp [SlotId.Finds]

/-! ## Agreement -/

namespace Predicate

mutual

/-- The agreement, for every table that continues the one which the pass returned. -/
theorem holds_toNode_append (I : Interpretation Doc) : ∀ (p : Predicate) {scope : Schema}
    {negated : Bool} {table table' : List Nat} {node : Node},
    p.toNode scope negated table = .ok (node, table') → ∀ (more : List Nat) (d : Doc),
      node.Holds I (table' ++ more) d ↔ Polar negated (p.Holds I d)
  | .test field op position, _, negated, table, _, node, h, more, d => by
    obtain ⟨-, hl, rfl⟩ := toNode_test_eq_ok_iff.mp h
    rw [Node.holds_leafUnder I _ hl d, SlotId.finds_next, Holds]
  | .element field fields criteria, _, negated, _, table', node, h, more, d => by
    obtain ⟨-, rfl, inner, hc, rfl⟩ := toNode_element_eq_ok_iff.mp h
    have agree : ∀ e, inner.Holds I (table' ++ more) e ↔ criteria.Holds I e := fun e => by
      rw [holds_toNode_append I criteria hc more e, polar_false]
    rw [Node.Holds, polar_false, Holds]
    simp only [agree]
  | .group c members, _, negated, _, _, node, h, more, d => by
    obtain ⟨-, nodes, hn, rfl⟩ := toNode_group_eq_ok_iff.mp h
    rw [Node.holds_join, joins_toOperands_append I members hn more d, holds_group,
      Connective.joins_under]
  | .not inner, _, negated, _, _, node, h, more, d => by
    rw [toNode_not] at h
    rw [holds_toNode_append I inner h more d, Holds, polar_not]

/-- The operands of a group mean what its members mean at the given polarity. -/
theorem joins_toOperands_append (I : Interpretation Doc) : ∀ (ps : List Predicate) {scope : Schema}
    {negated : Bool} {joined : Connective} {table table' : List Nat} {nodes : List Node},
    toOperands scope negated joined ps table = .ok (nodes, table') →
      ∀ (more : List Nat) (d : Doc),
        joined.Joins (fun n => n.Holds I (table' ++ more) d) nodes ↔
          joined.Joins (fun p => Polar negated (p.Holds I d)) ps
  | [], _, _, joined, _, _, nodes, h, more, d => by
    obtain ⟨rfl, rfl⟩ := toOperands_nil_eq_ok_iff.mp h
    cases joined <;> simp [Connective.Joins]
  | p :: ps, _, negated, joined, _, table', nodes, h, more, d => by
    obtain ⟨node, between, rest, hp, hps, rfl⟩ := toOperands_cons_eq_ok_iff.mp h
    -- the members after `p` only continue the table that `p` returned
    have hnode : node.Holds I (table' ++ more) d ↔ Polar negated (p.Holds I d) := by
      rw [toOperands_table ps hps, List.append_assoc]
      exact holds_toNode_append I p hp (allPositions ps ++ more) d
    have hfirst : joined.Joins (fun n => n.Holds I (table' ++ more) d) (node.operands joined) ↔
        joined.Joins (fun p => Polar negated (p.Holds I d)) [p] := by
      rw [Node.joins_operands, Connective.joins_singleton, hnode]
    exact joined.joins_append_congr hfirst (joins_toOperands_append I ps hps more d)

end

/-- **The node of a predicate holds exactly where the predicate does, and the node of its negation
exactly where it does not**, whatever table the pass started from. -/
theorem holds_toNode {p : Predicate} {scope : Schema} {negated : Bool} {table table' : List Nat}
    {node : Node} (h : p.toNode scope negated table = .ok (node, table'))
    (I : Interpretation Doc) (d : Doc) :
    node.Holds I table' d ↔ if negated then ¬ p.Holds I d else p.Holds I d := by
  have agree := holds_toNode_append I p h [] d
  rwa [List.append_nil] at agree

/-- Items that are known by their price alone. A position serves as the value at it. -/
def itemPrices : Interpretation Nat :=
  .ofTests (fun _ _ _ => False) fun price _ op position =>
    (op = .gt ∧ position < price) ∨ (op = .isIn ∧ position = price)

/-- A group at a negative polarity, behind a table that has an entry already. -/
theorem holds_toNode_item :
    (all [.test "price" .gt 2, .test "name" .isIn 0]).toNode Gallery.item true [7]
        = .ok (.group .disjunction [.negated "price" .gt ⟨1⟩, .membership "name" .notIn ⟨2⟩],
            [7, 2, 0]) ∧
      ((Node.group .disjunction [.negated "price" .gt ⟨1⟩, .membership "name" .notIn ⟨2⟩]).Holds
          itemPrices [7, 2, 0] 3
        ↔ ¬ (all [.test "price" .gt 2, .test "name" .isIn 0]).Holds itemPrices 3) := by
  have prepared : (all [.test "price" .gt 2, .test "name" .isIn 0]).toNode Gallery.item true [7]
      = .ok (.group .disjunction [.negated "price" .gt ⟨1⟩, .membership "name" .notIn ⟨2⟩],
          [7, 2, 0]) := rfl
  exact ⟨prepared, by simpa using holds_toNode prepared itemPrices 3⟩

end Predicate

end PreparedFilter

import PreparedFilter.Proofs.Preparation.NormalForm
import PreparedFilter.Proofs.Query.Steps
import PreparedFilter.Gallery.Schemas

/-!
# Reading query documents

A query document can be read back. The reader (`Query.ofDocument?`) knows the grammar of queries and
nothing of plans: a group by its key, an operation by the `$` that heads its key, and everything
else as a test for equality.

`ofDocument?_render` says that it gives the root of the plan with every slot replaced by its value.
Three things would mislead the reader, and each is excluded: a field whose name looks like a key of
the grammar, an equality with a value that looks like an operation, and a flat conjunction with
fewer than two entries, which the normal form of plans rules out.
-/

namespace PreparedFilter

/-! ## Keys of the grammar -/

/-- Whether a key belongs to the grammar of queries, and is not the name of a field. -/
def isOperatorKey (key : String) : Bool := key.toList.head? == some '$'

/-- Whether the value of a field looks like an operation: a document headed by such a key. -/
def Bson.isOperation : Bson → Bool
  | .document ((key, _) :: _) => isOperatorKey key
  | _ => false

/-- The operator of a key. -/
def Operator.ofKey? (key : String) : Option Operator :=
  Operator.list.find? fun op => op.key == key

/-- The connective of a key. -/
def Connective.ofKey? (key : String) : Option Connective :=
  [Connective.conjunction, .disjunction].find? fun c => c.key == key

@[simp] theorem Operator.isOperatorKey_key (op : Operator) : isOperatorKey op.key = true := by
  cases op <;> rfl

@[simp] theorem Operator.ofKey?_key (op : Operator) : Operator.ofKey? op.key = some op := by
  cases op <;> rfl

@[simp] theorem Connective.isOperatorKey_key (c : Connective) : isOperatorKey c.key = true := by
  cases c <;> rfl

@[simp] theorem Connective.ofKey?_key (c : Connective) : Connective.ofKey? c.key = some c := by
  cases c <;> rfl

/-- The name of a field is the key of no connective. -/
theorem Connective.ofKey?_eq_none {field : String} (plain : isOperatorKey field = false) :
    Connective.ofKey? field = none := by
  refine List.find?_eq_none.mpr fun c _ same => ?_
  rw [beq_iff_eq] at same
  rw [← same, isOperatorKey_key] at plain
  cases plain

/-! ## The reader -/

/-- What a query asks: the tree of a plan, with values in place of slots. -/
inductive Query where
  | comparison (field : String) (operator : Operator) (value : Bson)
  | negated (field : String) (operator : Operator) (value : Bson)
  | membership (field : String) (operator : Operator) (value : Bson)
  | size (field : String) (value : Bson)
  | element (field : String) (criteria : Query)
  | group (connective : Connective) (members : List Query)

namespace Query

/-- The reading of what `$not` stands before: an order test. -/
def ofNegation? (field : String) : Bson → Option Query
  | .document [(key, operand)] =>
    ((Operator.ofKey? key).filter Operator.isOrdering).map fun op => .negated field op operand
  | _ => none

mutual

/-- The reading of a query document. Several entries are a conjunction of equalities. -/
def ofDocument? : List (String × Bson) → Option Query
  | [] => none
  | [(key, value)] => ofEntry? key value
  | entries => some (.group .conjunction (entries.map fun entry => .comparison entry.1 .eq entry.2))

/-- The reading of the only entry of a document. -/
def ofEntry? (key : String) (value : Bson) : Option Query :=
  match Connective.ofKey? key, value with
  | some c, .array elements => (ofElements? elements).map (.group c)
  | some _, _ => none
  | none, .document entries =>
    if (Bson.document entries).isOperation then ofOperation? key entries
    else some (.comparison key .eq (.document entries))
  | none, value => some (.comparison key .eq value)

/-- The reading of an operation on a field. -/
def ofOperation? (field : String) : List (String × Bson) → Option Query
  | [(key, operand)] =>
    match Operator.ofKey? key, operand with
    | some .elemMatch, .document criteria => (ofDocument? criteria).map (.element field)
    | some .elemMatch, _ => none
    | some .size, operand => some (.size field operand)
    | some op, operand =>
      some (if op.isMembership then .membership field op operand else .comparison field op operand)
    | none, operand => if key = "$not" then ofNegation? field operand else none
  | _ => none

/-- The readings of the elements of an array. -/
def ofElements? : List Bson → Option (List Query)
  | [] => some []
  | .document entries :: rest => do
    let first ← ofDocument? entries
    let others ← ofElements? rest
    return first :: others
  | _ => none

end

variable {field key : String} {op : Operator} {v : Bson}

theorem ofDocument?_group (c : Connective) (elements : List Bson) :
    ofDocument? (Document.single c.key (.array elements)) =
      (ofElements? elements).map (.group c) := by
  rw [Document.single, ofDocument?, ofEntry?.eq_def, Connective.ofKey?_key]

/-- A field is read as a test for equality, unless its value is headed by a key of the grammar. -/
theorem ofDocument?_equality (plain : isOperatorKey field = false) (h : v.isOperation = false) :
    ofDocument? (Document.single field v) = some (.comparison field .eq v) := by
  rw [Document.single, ofDocument?, ofEntry?.eq_def, Connective.ofKey?_eq_none plain]
  cases v with
  | document entries => exact if_neg (by rw [h]; exact Bool.false_ne_true)
  | _ => rfl

theorem ofDocument?_operation (plain : isOperatorKey field = false)
    (h : isOperatorKey key = true) :
    ofDocument? (Node.operation field key v) = ofOperation? field [(key, v)] := by
  unfold Node.operation
  rw [Document.single, ofDocument?, ofEntry?.eq_def, Connective.ofKey?_eq_none plain]
  exact if_pos h

theorem ofOperation?_comparison (h : op.isComparison = true) :
    ofOperation? field [(op.key, v)] = some (.comparison field op v) := by
  rw [ofOperation?.eq_def]
  simp only [Operator.ofKey?_key]
  cases op <;> first | rfl | cases h

theorem ofOperation?_membership (h : op.isMembership = true) :
    ofOperation? field [(op.key, v)] = some (.membership field op v) := by
  rw [ofOperation?.eq_def]
  simp only [Operator.ofKey?_key]
  cases op <;> first | rfl | cases h

/-- A `$not` is read back as the order test that it negates. -/
theorem ofOperation?_negated (h : op.isOrdering = true) :
    ofOperation? field [("$not", .document (Document.single op.key v))] =
      some (.negated field op v) := by
  show ofNegation? field (.document (Document.single op.key v)) = _
  rw [Document.single, ofNegation?, Operator.ofKey?_key, Option.filter_some, if_pos h,
    Option.map_some]

theorem ofOperation?_element (criteria : Document) :
    ofOperation? field [(Operator.elemMatch.key, .document criteria)] =
      (ofDocument? criteria).map (.element field) := by
  rw [ofOperation?.eq_def]
  simp only [Operator.ofKey?_key]

/-- A document of several entries is read as equalities, whatever the values are. -/
theorem ofDocument?_entries {doc : Document} (h : 2 ≤ doc.length) :
    ofDocument? doc =
      some (.group .conjunction (doc.map fun entry => .comparison entry.1 .eq entry.2)) := by
  match doc, h with
  | [], h => cases h
  | [_], h => exact absurd h (Nat.not_succ_le_self 1)
  | first :: second :: rest, _ => rw [ofDocument?.eq_def]

end Query

/-! ## Filling a plan -/

namespace Node

mutual

/-- The leaves that test for equality, at all levels: their fields and slots, from left to right. -/
def equalityLeaves : Node → List (String × SlotId)
  | .comparison field op slot => if op = .eq then [(field, slot)] else []
  | .element _ criteria => criteria.equalityLeaves
  | .group _ members => allEqualityLeaves members
  | _ => []

/-- The leaves of a list of nodes that test for equality. -/
def allEqualityLeaves : List Node → List (String × SlotId)
  | [] => []
  | n :: ns => n.equalityLeaves ++ allEqualityLeaves ns

end

mutual

/-- The query that a node becomes when its slots are replaced by their values. A number of elements
is replaced by its wide form. -/
def fill? (value : SlotId → Option Bson) : Node → Option Query
  | .comparison field op slot => (value slot).map fun v => .comparison field op v
  | .negated field op slot => (value slot).map fun v => .negated field op v
  | .membership field op slot => (value slot).map fun v => .membership field op v
  | .size field slot => ((value slot).bind Bson.toInt64?).map fun n => .size field (.int64 n)
  | .element field criteria => (criteria.fill? value).map fun q => .element field q
  | .group c members => (fillAll? value members).map fun qs => .group c qs

/-- The queries that the nodes of a list become. -/
def fillAll? (value : SlotId → Option Bson) : List Node → Option (List Query)
  | [] => some []
  | n :: ns => do
    let first ← n.fill? value
    let others ← fillAll? value ns
    return first :: others

end

theorem equalityLeaves_eq (field : String) (slot : SlotId) :
    (comparison field .eq slot).equalityLeaves = [(field, slot)] := by
  rw [equalityLeaves, if_pos rfl]

theorem fillAll?_cons_eq_some {value : SlotId → Option Bson} {n : Node} {ns : List Node}
    {q : Query} {qs : List Query} (h : n.fill? value = some q) (hs : fillAll? value ns = some qs) :
    fillAll? value (n :: ns) = some (q :: qs) := by
  rw [fillAll?, h, hs]
  rfl

/-- Equalities are filled as the entries of one document. -/
theorem fillAll?_ofEquality {value : SlotId → Option Bson} {tests : List (String × SlotId)}
    {doc : Document}
    (h : List.Forall₂ (fun test entry => entry.1 = test.1 ∧ value test.2 = some entry.2) tests
      doc) :
    fillAll? value (tests.map ofEquality) =
      some (doc.map fun entry => .comparison entry.1 .eq entry.2) := by
  induction h with
  | nil => rw [List.map_nil, fillAll?, List.map_nil]
  | cons head _ ih =>
    obtain ⟨hfield, hvalue⟩ := head
    rw [List.map_cons, List.map_cons]
    refine fillAll?_cons_eq_some ?_ ih
    rw [ofEquality, fill?, hvalue, Option.map_some, hfield]

/-! ## Reading what was written -/

variable {style : QueryStyle} {plan : Plan} {values : List Bson}

mutual

/-- Reading the document of a node gives the node with its slots replaced by their values. -/
theorem ofDocument?_toDocument : ∀ (n : Node) {doc : Document}, n.Normal →
    (∀ field ∈ n.fields, isOperatorKey field = false) →
    (∀ leaf ∈ n.equalityLeaves, ∀ v, plan.value? values leaf.2 = some v → v.isOperation = false) →
    n.toDocument style (SlotId.value plan.slots values) = .ok doc →
      ∃ q, n.fill? (plan.value? values) = some q ∧ Query.ofDocument? doc = some q
  | .comparison field op slot, doc, normal, plain, harmless, h => by
    obtain ⟨v, hv, rfl⟩ := toDocument_comparison_eq_ok_iff.mp h
    rw [SlotId.value_eq_ok_iff] at hv
    have hfield : isOperatorKey field = false := plain field (List.mem_singleton_self field)
    refine ⟨.comparison field op v, by rw [fill?, hv, Option.map_some], ?_⟩
    unfold comparisonDocument
    -- an equality is the only leaf that does not name its operator
    by_cases hop : op = .eq
    · subst hop
      rw [equalityLeaves_eq] at harmless
      rw [if_pos rfl]
      exact Query.ofDocument?_equality hfield (harmless _ (List.mem_singleton_self _) v hv)
    · rw [if_neg hop, Query.ofDocument?_operation hfield op.isOperatorKey_key]
      exact Query.ofOperation?_comparison normal
  | .negated field op slot, doc, normal, plain, _, h => by
    obtain ⟨v, hv, rfl⟩ := toDocument_negated_eq_ok_iff.mp h
    rw [SlotId.value_eq_ok_iff] at hv
    have hfield : isOperatorKey field = false := plain field (List.mem_singleton_self field)
    refine ⟨.negated field op v, by rw [fill?, hv, Option.map_some], ?_⟩
    unfold negatedDocument
    rw [Query.ofDocument?_operation hfield rfl]
    exact Query.ofOperation?_negated normal
  | .membership field op slot, doc, normal, plain, _, h => by
    obtain ⟨elements, hv, rfl⟩ := toDocument_membership_eq_ok_iff.mp h
    rw [SlotId.value_eq_ok_iff] at hv
    have hfield : isOperatorKey field = false := plain field (List.mem_singleton_self field)
    refine ⟨.membership field op (.array elements), by rw [fill?, hv, Option.map_some], ?_⟩
    rw [Query.ofDocument?_operation hfield op.isOperatorKey_key]
    exact Query.ofOperation?_membership normal
  | .size field slot, doc, _, plain, _, h => by
    obtain ⟨v, n, hv, hn, -, rfl⟩ := toDocument_size_eq_ok_iff.mp h
    rw [SlotId.value_eq_ok_iff] at hv
    have hfield : isOperatorKey field = false := plain field (List.mem_singleton_self field)
    refine ⟨.size field (.int64 n), by rw [fill?, hv, Option.bind_some, hn, Option.map_some], ?_⟩
    rw [Query.ofDocument?_operation hfield rfl]
    rfl
  | .element field criteria, doc, normal, plain, harmless, h => by
    obtain ⟨inner, hinner, rfl⟩ := toDocument_element_eq_ok_iff.mp h
    have hfield : isOperatorKey field = false := plain field List.mem_cons_self
    obtain ⟨q, hfill, hread⟩ := ofDocument?_toDocument criteria normal
      (fun f hf => plain f (List.mem_cons_of_mem field hf)) harmless hinner
    refine ⟨.element field q, by rw [fill?, hfill, Option.map_some], ?_⟩
    rw [Query.ofDocument?_operation hfield rfl, Query.ofOperation?_element, hread, Option.map_some]
  | .group c members, doc, normal, plain, harmless, h => by
    rcases toDocument_group_eq_ok h with ⟨rfl, tests, rfl, entries⟩ | ⟨docs, hdocs, rfl⟩
    · simp only [SlotId.value_eq_ok_iff] at entries
      -- the normal form leaves no conjunction of fewer than two members
      have several : 2 ≤ doc.length := by
        have length := entries.length_eq
        have two := normal.1
        rw [List.length_map] at two
        omega
      refine ⟨_, by rw [fill?, fillAll?_ofEquality entries, Option.map_some], ?_⟩
      exact Query.ofDocument?_entries several
    · obtain ⟨qs, hfill, hread⟩ :=
        ofElements?_toDocuments members normal.2 plain harmless hdocs
      refine ⟨.group c qs, by rw [fill?, hfill, Option.map_some], ?_⟩
      rw [Query.ofDocument?_group, hread, Option.map_some]

/-- The members of a group are read back in their order. -/
theorem ofElements?_toDocuments : ∀ (ns : List Node) {c : Connective} {docs : List Bson},
    AllNormalApart c ns → (∀ field ∈ allFields ns, isOperatorKey field = false) →
    (∀ leaf ∈ allEqualityLeaves ns, ∀ v, plan.value? values leaf.2 = some v →
      v.isOperation = false) →
    toDocuments style (SlotId.value plan.slots values) ns = .ok docs →
      ∃ qs, fillAll? (plan.value? values) ns = some qs ∧ Query.ofElements? docs = some qs
  | [], _, _, _, _, _, h => by
    rw [toDocuments_nil_eq_ok_iff.mp h]
    exact ⟨[], by rw [fillAll?], by rw [Query.ofElements?]⟩
  | n :: ns, _, _, normal, plain, harmless, h => by
    obtain ⟨first, others, hfirst, hothers, rfl⟩ := toDocuments_cons_eq_ok_iff.mp h
    obtain ⟨hn, -, hns⟩ := normal
    rw [allFields] at plain
    rw [allEqualityLeaves] at harmless
    obtain ⟨q, hq, hreadq⟩ := ofDocument?_toDocument n hn
      (fun f hf => plain f (List.mem_append_left _ hf))
      (fun leaf hl => harmless leaf (List.mem_append_left _ hl)) hfirst
    obtain ⟨qs, hqs, hreadqs⟩ := ofElements?_toDocuments ns hns
      (fun f hf => plain f (List.mem_append_right _ hf))
      (fun leaf hl => harmless leaf (List.mem_append_right _ hl)) hothers
    refine ⟨q :: qs, fillAll?_cons_eq_some hq hqs, ?_⟩
    rw [Query.ofElements?, hreadq, hreadqs]
    rfl

end

end Node

/-- **Reading the query document of a plan gives the root of the plan, with every slot replaced by
its value.** -/
theorem Plan.ofDocument?_render {definition : DefinitionId} {schema : Schema}
    {predicate : Predicate} {plan : Plan} {style : QueryStyle} {values : List Bson} {doc : Document}
    (prepared : Plan.prepare definition schema predicate = .ok plan)
    (plain : ∀ field ∈ predicate.fields, isOperatorKey field = false)
    (harmless : ∀ leaf ∈ plan.root.equalityLeaves, ∀ v, plan.value? values leaf.2 = some v →
      v.isOperation = false)
    (h : plan.render style values = .ok doc) :
    ∃ q, plan.root.fill? (plan.value? values) = some q ∧ Query.ofDocument? doc = some q := by
  rw [← Plan.fields_root prepared] at plain
  exact Node.ofDocument?_toDocument plan.root (Plan.normal_root prepared) plain harmless
    (Plan.render_eq_ok_iff.mp h)

/-- The plan of: a text is as given, and a rating is not above the given one. -/
def modestPlan : Plan :=
  ⟨.named 0 "modest", .group .conjunction
    [.comparison "stringField" .eq ⟨0⟩, .negated "rating" .gt ⟨1⟩], [1, 0]⟩

/-- An equality and a negated order test are read back from their document. -/
theorem Plan.ofDocument?_render_modest :
    Plan.prepare (.named 0 "modest") Gallery.foo
        (.all [.test "stringField" .eq 1, .not (.test "rating" .gt 0)]) = .ok modestPlan ∧
      modestPlan.render .standard [.int32 5, .string "Ann"] =
        .ok [("$and", .array [.document [("stringField", .string "Ann")],
          .document [("rating", .document [("$not", .document [("$gt", .int32 5)])])]])] ∧
      ∃ q, modestPlan.root.fill? (modestPlan.value? [.int32 5, .string "Ann"]) = some q ∧
        Query.ofDocument? [("$and", .array [.document [("stringField", .string "Ann")],
          .document [("rating", .document [("$not", .document [("$gt", .int32 5)])])]])] =
            some q := by
  have prepared : Plan.prepare (.named 0 "modest") Gallery.foo
      (.all [.test "stringField" .eq 1, .not (.test "rating" .gt 0)]) = .ok modestPlan := rfl
  have rendered : modestPlan.render .standard [.int32 5, .string "Ann"] =
      .ok [("$and", .array [.document [("stringField", .string "Ann")],
        .document [("rating", .document [("$not", .document [("$gt", .int32 5)])])]])] := rfl
  refine ⟨prepared, rendered, Plan.ofDocument?_render prepared (by decide) ?_ rendered⟩
  intro leaf hleaf v hv
  rw [List.mem_singleton.mp hleaf] at hv
  cases hv
  rfl

end PreparedFilter

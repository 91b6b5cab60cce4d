import PreparedFilter.Proofs.Query.Reading

/-!
# The shape of queries

The shape of a query is what remains when the operands are taken away: its connectives, its fields
and its operators. `Shape.ofDocument` gives the shape of any document whatever, as a database would
take it, and `Node.shape` the shape that a plan means to have.

Captured values are operands, so they should not be seen in the shape. One form of a leaf lets them:
an equality is written as the field and the value alone, and a value that is a document headed by
`$` is then taken for an operation. `shape_render_iff` says that this is the only way, and
`shape_render_ne` that it does happen.
-/

namespace PreparedFilter

/-- Only criteria on elements are tested by `$elemMatch`. -/
theorem Operator.ne_elemMatch {op : Operator}
    (h : op.isComparison = true ∨ op.isOrdering = true ∨ op.isMembership = true) :
    op ≠ .elemMatch := by
  rintro rfl
  rcases h with h | h | h <;> cases h

/-! ## Shapes of documents -/

/-- The shape of a query. -/
inductive Shape where
  | equality (field : String)
  | operator (field key : String)
  | negation (operators : Shape)
  | element (field : String) (criteria : Shape)
  | group (connective : Connective) (members : List Shape)
  /-- A key of the grammar where a field is expected, such as `$nor` or `$expr`. -/
  | clause (key : String)
  /-- A member of a group that is no document. -/
  | malformed

namespace Shape

/-- The conditions of one document hold together. One stands for itself. -/
def join : List Shape → Shape
  | [shape] => shape
  | shapes => .group .conjunction shapes

mutual

/-- The shapes of the entries of a query document. -/
def ofEntries : List (String × Bson) → List Shape
  | [] => []
  | (key, value) :: rest => ofEntry key value :: ofEntries rest

/-- The shape of an entry of a query document. -/
def ofEntry (key : String) (value : Bson) : Shape :=
  match Connective.ofKey? key, value with
  | some c, .array elements => .group c (ofElements elements)
  | _, .document entries =>
    if isOperatorKey key then .clause key
    else if (Bson.document entries).isOperation then join (ofOperators key entries)
    else .equality key
  | _, _ => if isOperatorKey key then .clause key else .equality key

/-- The shapes of the operators that are applied to a field. -/
def ofOperators (field : String) : List (String × Bson) → List Shape
  | [] => []
  | (key, operand) :: rest => ofOperator field key operand :: ofOperators field rest

/-- The shape of an operator that is applied to a field. -/
def ofOperator (field key : String) : Bson → Shape
  | .document entries =>
    if key = "$not" then .negation (join (ofOperators field entries))
    else if key = Operator.elemMatch.key then .element field (join (ofEntries entries))
    else .operator field key
  | _ => .operator field key

/-- The shapes of the members of a group. -/
def ofElements : List Bson → List Shape
  | [] => []
  | .document entries :: rest => join (ofEntries entries) :: ofElements rest
  | _ :: rest => .malformed :: ofElements rest

end

/-- The shape of a query document. -/
def ofDocument (doc : Document) : Shape := join (ofEntries doc)

variable {field key : String} {op : Operator} {v : Bson}

theorem ofDocument_single : ofDocument (Document.single key v) = ofEntry key v := by
  unfold ofDocument Document.single
  rw [ofEntries, ofEntries, join]

theorem ofEntry_group (c : Connective) (elements : List Bson) :
    ofEntry c.key (.array elements) = .group c (ofElements elements) := by
  rw [ofEntry.eq_def, Connective.ofKey?_key]

/-- A document headed by a key of the grammar is taken for operators. -/
theorem ofEntry_of_isOperation (plain : isOperatorKey field = false) {entries : Document}
    (h : (Bson.document entries).isOperation = true) :
    ofEntry field (.document entries) = join (ofOperators field entries) := by
  rw [ofEntry.eq_def, Connective.ofKey?_eq_none plain]
  simp only [plain, h, Bool.false_eq_true, ↓reduceIte]

theorem ofDocument_operation (plain : isOperatorKey field = false)
    (h : isOperatorKey key = true) :
    ofDocument (Node.operation field key v) = ofOperator field key v := by
  have operation : (Bson.document (Document.single key v)).isOperation = true := h
  unfold Node.operation
  rw [ofDocument_single, ofEntry_of_isOperation plain operation, Document.single, ofOperators,
    ofOperators, join]

/-- An operator other than `$elemMatch` is told by its key alone, whatever its operand is. -/
theorem ofOperator_key (h : op ≠ .elemMatch) (v : Bson) :
    ofOperator field op.key v = .operator field op.key := by
  have not_not : op.key ≠ "$not" := by cases op <;> decide
  have not_element : op.key ≠ Operator.elemMatch.key := by
    cases op <;> first | decide | exact absurd rfl h
  cases v with
  | document entries => rw [ofOperator, if_neg not_not, if_neg not_element]
  | _ => rfl

theorem ofOperator_element (criteria : Document) :
    ofOperator field Operator.elemMatch.key (.document criteria) =
      .element field (ofDocument criteria) := by
  rw [ofOperator, if_neg (by decide), if_pos rfl, ofDocument]

theorem ofOperator_not (h : op ≠ .elemMatch) :
    ofOperator field "$not" (.document (Document.single op.key v)) =
      .negation (.operator field op.key) := by
  rw [ofOperator, if_pos rfl, Document.single, ofOperators, ofOperators, join, ofOperator_key h]

theorem join_of_two_le {shapes : List Shape} (h : 2 ≤ shapes.length) :
    join shapes = .group .conjunction shapes := by
  match shapes, h with
  | [], h => cases h
  | [_], h => exact absurd h (Nat.not_succ_le_self 1)
  | _ :: _ :: _, _ => rfl

/-- An operator is never taken for an equality. -/
theorem ofOperator_ne_equality (v : Bson) : ofOperator field key v ≠ .equality field := by
  cases v with
  | document entries =>
    rw [ofOperator]
    split
    · exact Shape.noConfusion
    · split <;> exact Shape.noConfusion
  | _ => exact Shape.noConfusion

/-- The entry of a field is a test for equality unless the value looks like an operation. -/
theorem ofEntry_eq_equality_iff (plain : isOperatorKey field = false) :
    ofEntry field v = .equality field ↔ v.isOperation = false := by
  constructor
  · intro h
    by_contra operation
    rw [Bool.not_eq_false] at operation
    -- one operator gives a shape of its own, several give a conjunction, and neither is an equality
    match v, operation with
    | .document [(key, operand)], operation =>
      rw [ofEntry_of_isOperation plain operation, ofOperators, ofOperators, join] at h
      exact ofOperator_ne_equality operand h
    | .document ((_, _) :: (_, _) :: _), operation =>
      rw [ofEntry_of_isOperation plain operation, ofOperators, ofOperators,
        join_of_two_le (Nat.le_add_left 2 _)] at h
      cases h
  · intro h
    rw [ofEntry.eq_def, Connective.ofKey?_eq_none plain]
    cases v with
    | document entries => simp only [plain, h, Bool.false_eq_true, ↓reduceIte]
    | _ => exact if_neg (by rw [plain]; exact Bool.false_ne_true)

end Shape

/-! ## Shapes of plans -/

namespace Node

mutual

/-- The shape of a node, given what becomes of its equalities. -/
def shapeWith (equality : String → SlotId → Shape) : Node → Shape
  | .comparison field op slot => if op = .eq then equality field slot else .operator field op.key
  | .negated field op _ => .negation (.operator field op.key)
  | .membership field op _ => .operator field op.key
  | .size field _ => .operator field Operator.size.key
  | .element field criteria => .element field (criteria.shapeWith equality)
  | .group c members => .group c (allShapesWith equality members)

/-- The shapes of the nodes of a list. -/
def allShapesWith (equality : String → SlotId → Shape) : List Node → List Shape
  | [] => []
  | n :: ns => n.shapeWith equality :: allShapesWith equality ns

end

theorem length_allShapesWith {equality : String → SlotId → Shape} (ns : List Node) :
    (allShapesWith equality ns).length = ns.length := by
  induction ns with
  | nil => rw [allShapesWith]; rfl
  | cons n ns ih => rw [allShapesWith, List.length_cons, List.length_cons, ih]

/-- The shape that a node means to have: every equality is one. -/
def shape (n : Node) : Shape := n.shapeWith fun field _ => .equality field

mutual

/-- Two shapes of one node are equal when its equalities became the same. -/
theorem shapeWith_eq_iff {equality equality' : String → SlotId → Shape} : ∀ (n : Node),
    n.shapeWith equality = n.shapeWith equality' ↔
      ∀ leaf ∈ n.equalityLeaves, equality leaf.1 leaf.2 = equality' leaf.1 leaf.2
  | .comparison field op slot => by
    rw [shapeWith, shapeWith, equalityLeaves]
    split
    · rw [List.forall_mem_singleton]
    · simp
  | .negated _ _ _ => by simp [shapeWith, equalityLeaves]
  | .membership _ _ _ => by simp [shapeWith, equalityLeaves]
  | .size _ _ => by simp [shapeWith, equalityLeaves]
  | .element _ criteria => by
    rw [shapeWith, shapeWith, equalityLeaves, Shape.element.injEq, ← shapeWith_eq_iff criteria]
    simp only [true_and]
  | .group _ members => by
    rw [shapeWith, shapeWith, equalityLeaves, Shape.group.injEq, ← allShapesWith_eq_iff members]
    simp only [true_and]

/-- The shapes of several nodes agree if they do at every equality. -/
theorem allShapesWith_eq_iff {equality equality' : String → SlotId → Shape} : ∀ (ns : List Node),
    allShapesWith equality ns = allShapesWith equality' ns ↔
      ∀ leaf ∈ allEqualityLeaves ns, equality leaf.1 leaf.2 = equality' leaf.1 leaf.2
  | [] => by simp [allShapesWith, allEqualityLeaves]
  | n :: ns => by
    rw [allShapesWith, allShapesWith, allEqualityLeaves, List.cons.injEq, shapeWith_eq_iff n,
      allShapesWith_eq_iff ns]
    simp only [List.mem_append, or_imp, forall_and]

end

mutual

/-- The field of an equality is a field of the node. -/
theorem mem_fields_of_mem_equalityLeaves : ∀ (n : Node) {leaf : String × SlotId},
    leaf ∈ n.equalityLeaves → leaf.1 ∈ n.fields
  | .comparison field op slot, leaf, h => by
    rw [equalityLeaves] at h
    split at h
    · rw [List.mem_singleton.mp h]
      exact List.mem_singleton_self field
    · cases h
  | .element field criteria, _, h =>
    List.mem_cons_of_mem field (mem_fields_of_mem_equalityLeaves criteria h)
  | .group _ members, _, h => mem_allFields_of_mem_allEqualityLeaves members h

theorem mem_allFields_of_mem_allEqualityLeaves : ∀ (ns : List Node) {leaf : String × SlotId},
    leaf ∈ allEqualityLeaves ns → leaf.1 ∈ allFields ns
  | n :: ns, leaf, h => by
    rw [allEqualityLeaves] at h
    rw [allFields]
    rcases List.mem_append.mp h with hn | hns
    · exact List.mem_append_left _ (mem_fields_of_mem_equalityLeaves n hn)
    · exact List.mem_append_right _ (mem_allFields_of_mem_allEqualityLeaves ns hns)

end

end Node

/-- What becomes of an equality when its slot is replaced by the captured value. -/
def Plan.equalityShape (plan : Plan) (values : List Bson) (field : String) (slot : SlotId) :
    Shape :=
  match plan.value? values slot with
  | some v => .ofEntry field v
  | none => .equality field

/-- A test for equality keeps its shape unless its value looks like an operation. -/
theorem Plan.equalityShape_eq_equality_iff {plan : Plan} {values : List Bson} {field : String}
    (plain : isOperatorKey field = false) (slot : SlotId) :
    plan.equalityShape values field slot = .equality field ↔
      ∀ v, plan.value? values slot = some v → v.isOperation = false := by
  unfold equalityShape
  cases plan.value? values slot with
  | none => simp
  | some v =>
    show Shape.ofEntry field v = .equality field ↔ _
    rw [Shape.ofEntry_eq_equality_iff plain]
    exact ⟨fun h w hw => Option.some.inj hw ▸ h, fun h => h v rfl⟩

/-! ## The shape of what was written -/

namespace Node

variable {style : QueryStyle} {plan : Plan} {values : List Bson}

/-- Equalities in one document have the shapes of the entries. -/
theorem ofEntries_ofEquality {tests : List (String × SlotId)} {doc : Document}
    (h : List.Forall₂
      (fun test entry => entry.1 = test.1 ∧ plan.value? values test.2 = some entry.2) tests doc) :
    Shape.ofEntries doc = allShapesWith (plan.equalityShape values) (tests.map ofEquality) := by
  induction h with
  | nil => rw [List.map_nil, allShapesWith, Shape.ofEntries]
  | @cons test entry _ _ head _ ih =>
    obtain ⟨hfield, hvalue⟩ := head
    have first : (ofEquality test).shapeWith (plan.equalityShape values) =
        Shape.ofEntry entry.1 entry.2 := by
      unfold ofEquality Plan.equalityShape
      rw [shapeWith, if_pos rfl, hvalue, hfield]
    rw [List.map_cons, allShapesWith, first, ← ih]
    rfl

mutual

/-- The document of a node has the shape of the node, but for what became of its equalities. -/
theorem ofDocument_toDocument : ∀ (n : Node) {doc : Document}, n.Normal →
    (∀ field ∈ n.fields, isOperatorKey field = false) →
    n.toDocument style (SlotId.value plan.slots values) = .ok doc →
      Shape.ofDocument doc = n.shapeWith (plan.equalityShape values)
  | .comparison field op slot, doc, normal, plain, h => by
    obtain ⟨v, hv, rfl⟩ := toDocument_comparison_eq_ok_iff.mp h
    rw [SlotId.value_eq_ok_iff] at hv
    have hfield : isOperatorKey field = false := plain field (List.mem_singleton_self field)
    unfold comparisonDocument
    rw [shapeWith]
    by_cases hop : op = .eq
    · rw [if_pos hop, if_pos hop, Shape.ofDocument_single, Plan.equalityShape, hv]
    · rw [if_neg hop, if_neg hop, Shape.ofDocument_operation hfield op.isOperatorKey_key,
        Shape.ofOperator_key (Operator.ne_elemMatch (.inl normal))]
  | .negated field op slot, doc, normal, plain, h => by
    obtain ⟨v, -, rfl⟩ := toDocument_negated_eq_ok_iff.mp h
    have hfield : isOperatorKey field = false := plain field (List.mem_singleton_self field)
    unfold negatedDocument
    rw [shapeWith, Shape.ofDocument_operation hfield rfl,
      Shape.ofOperator_not (Operator.ne_elemMatch (.inr (.inl normal)))]
  | .membership field op slot, doc, normal, plain, h => by
    obtain ⟨elements, -, rfl⟩ := toDocument_membership_eq_ok_iff.mp h
    have hfield : isOperatorKey field = false := plain field (List.mem_singleton_self field)
    rw [shapeWith, Shape.ofDocument_operation hfield op.isOperatorKey_key,
      Shape.ofOperator_key (Operator.ne_elemMatch (.inr (.inr normal)))]
  | .size field slot, doc, _, plain, h => by
    obtain ⟨v, n, -, -, -, rfl⟩ := toDocument_size_eq_ok_iff.mp h
    have hfield : isOperatorKey field = false := plain field (List.mem_singleton_self field)
    rw [shapeWith, Shape.ofDocument_operation hfield rfl, Shape.ofOperator_key (by decide)]
  | .element field criteria, doc, normal, plain, h => by
    obtain ⟨inner, hinner, rfl⟩ := toDocument_element_eq_ok_iff.mp h
    have hfield : isOperatorKey field = false := plain field List.mem_cons_self
    have hcriteria := ofDocument_toDocument criteria normal
      (fun f hf => plain f (List.mem_cons_of_mem field hf)) hinner
    rw [shapeWith, Shape.ofDocument_operation hfield rfl, Shape.ofOperator_element, hcriteria]
  | .group c members, doc, normal, plain, h => by
    rcases toDocument_group_eq_ok h with ⟨rfl, tests, rfl, entries⟩ | ⟨docs, hdocs, rfl⟩
    · simp only [SlotId.value_eq_ok_iff] at entries
      -- one entry would stand for itself, and not for a conjunction
      have several :
          2 ≤ (allShapesWith (plan.equalityShape values) (tests.map ofEquality)).length := by
        rw [length_allShapesWith]
        exact normal.1
      rw [shapeWith, Shape.ofDocument, ofEntries_ofEquality entries, Shape.join_of_two_le several]
    · rw [shapeWith, Shape.ofDocument_single, Shape.ofEntry_group,
        ofElements_toDocuments members normal.2 plain hdocs]

/-- The members of a group keep their shapes, up to the equalities among them. -/
theorem ofElements_toDocuments : ∀ (ns : List Node) {c : Connective} {docs : List Bson},
    AllNormalApart c ns → (∀ field ∈ allFields ns, isOperatorKey field = false) →
    toDocuments style (SlotId.value plan.slots values) ns = .ok docs →
      Shape.ofElements docs = allShapesWith (plan.equalityShape values) ns
  | [], _, _, _, _, h => by
    rw [toDocuments_nil_eq_ok_iff.mp h, Shape.ofElements, allShapesWith]
  | n :: ns, _, _, normal, plain, h => by
    obtain ⟨first, others, hfirst, hothers, rfl⟩ := toDocuments_cons_eq_ok_iff.mp h
    obtain ⟨hn, -, hns⟩ := normal
    rw [allFields] at plain
    have head := ofDocument_toDocument n hn (fun f hf => plain f (List.mem_append_left _ hf)) hfirst
    have tail := ofElements_toDocuments ns hns (fun f hf => plain f (List.mem_append_right _ hf))
      hothers
    rw [Shape.ofElements, allShapesWith, ← head, ← tail]
    rfl

end

end Node

/-- **Captured values show in the shape of a query through equalities alone.** Two queries of one
plan have the same shape exactly if every equality became the same in both, and a query has the
shape of the plan exactly if no value of an equality looks like an operation. -/
theorem Plan.shape_render_iff {definition : DefinitionId} {schema : Schema}
    {predicate : Predicate} {plan : Plan} {style : QueryStyle} {values values' : List Bson}
    {doc doc' : Document} (prepared : Plan.prepare definition schema predicate = .ok plan)
    (plain : ∀ field ∈ predicate.fields, isOperatorKey field = false)
    (h : plan.render style values = .ok doc) (h' : plan.render style values' = .ok doc') :
    (Shape.ofDocument doc = Shape.ofDocument doc' ↔
      ∀ leaf ∈ plan.root.equalityLeaves,
        plan.equalityShape values leaf.1 leaf.2 = plan.equalityShape values' leaf.1 leaf.2) ∧
    (Shape.ofDocument doc = plan.root.shape ↔
      ∀ leaf ∈ plan.root.equalityLeaves, ∀ v, plan.value? values leaf.2 = some v →
        v.isOperation = false) := by
  rw [← Plan.fields_root prepared] at plain
  have normal := Plan.normal_root prepared
  have shape := Node.ofDocument_toDocument plan.root normal plain (Plan.render_eq_ok_iff.mp h)
  have shape' := Node.ofDocument_toDocument plan.root normal plain (Plan.render_eq_ok_iff.mp h')
  constructor
  · rw [shape, shape', Node.shapeWith_eq_iff]
  · rw [shape, Node.shape, Node.shapeWith_eq_iff]
    refine forall₂_congr fun leaf hleaf => ?_
    have hfield := plain leaf.1 (Node.mem_fields_of_mem_equalityLeaves plan.root hleaf)
    exact Plan.equalityShape_eq_equality_iff hfield leaf.2

/-- The plan that compares a text with its only value. -/
def textPlan : Plan := ⟨.named 0 "text", .comparison "stringField" .eq ⟨0⟩, [0]⟩

/-- A text and a number in the place of one equality, and what decides that the shapes agree. -/
theorem Plan.shape_render_iff_text :
    Plan.prepare (.named 0 "text") Gallery.foo (.test "stringField" .eq 0) = .ok textPlan ∧
      textPlan.render .standard [.string "Ann"] = .ok [("stringField", .string "Ann")] ∧
      textPlan.render .standard [.int32 5] = .ok [("stringField", .int32 5)] ∧
      (Shape.ofDocument [("stringField", .string "Ann")] =
          Shape.ofDocument [("stringField", .int32 5)] ↔
        ∀ leaf ∈ textPlan.root.equalityLeaves,
          textPlan.equalityShape [.string "Ann"] leaf.1 leaf.2 =
            textPlan.equalityShape [.int32 5] leaf.1 leaf.2) ∧
      (Shape.ofDocument [("stringField", .string "Ann")] = textPlan.root.shape ↔
        ∀ leaf ∈ textPlan.root.equalityLeaves, ∀ v,
          textPlan.value? [.string "Ann"] leaf.2 = some v → v.isOperation = false) := by
  have prepared : Plan.prepare (.named 0 "text") Gallery.foo (.test "stringField" .eq 0) =
      .ok textPlan := rfl
  have ann : textPlan.render .standard [.string "Ann"] = .ok [("stringField", .string "Ann")] := rfl
  have five : textPlan.render .standard [.int32 5] = .ok [("stringField", .int32 5)] := rfl
  exact ⟨prepared, ann, five, Plan.shape_render_iff prepared (by decide) ann five⟩

/-- An equality with a text and an equality with the document `{$ne: null}` are queries of different
shapes, though they are queries of one plan over plain names. -/
theorem Plan.shape_render_ne :
    isOperatorKey "stringField" = false ∧
      Plan.prepare (.named 0 "text") Gallery.foo (.test "stringField" .eq 0) = .ok textPlan ∧
      ∃ doc doc', textPlan.render .standard [.string "Ann"] = .ok doc ∧
        textPlan.render .standard [.document [("$ne", .null)]] = .ok doc' ∧
        Shape.ofDocument doc ≠ Shape.ofDocument doc' := by
  refine ⟨by decide, rfl, _, _, rfl, rfl, ?_⟩
  show Shape.equality "stringField" ≠ Shape.operator "stringField" "$ne"
  exact Shape.noConfusion

end PreparedFilter

import PreparedFilter.Plan.Query
import PreparedFilter.Proofs.Outcome

/-!
# The steps of a successful query

What a query document looks like when it was written, once for each form of a node
(`toDocument_comparison_eq_ok_iff` and its like). A group is written as its connective over an array
of documents, unless the style and the members allow one document with an entry for each; then the
members are equalities on distinct fields (`equalities?_eq_some_iff`), and the entries are their
fields and values in order (`equalitiesDocument_eq_ok_iff`).
-/

namespace PreparedFilter

/-- The captured value of a slot, if it has one. -/
def Plan.value? (plan : Plan) (values : List Bson) (slot : SlotId) : Option Bson :=
  (plan.position? slot).bind fun position => values[position]?

/-- A slot without a value is a defect. -/
theorem SlotId.value_eq (plan : Plan) (values : List Bson) (slot : SlotId) :
    slot.value plan.slots values =
      match plan.value? values slot with
      | some v => .ok v
      | none => .error (.unresolvedSlot slot values.length) := rfl

/-- A slot has a value exactly if one was captured at its position. -/
theorem SlotId.value_eq_ok_iff {plan : Plan} {values : List Bson} {slot : SlotId} {v : Bson} :
    slot.value plan.slots values = .ok v ↔ plan.value? values slot = some v := by
  rw [SlotId.value_eq]
  cases plan.value? values slot with
  | none => exact iff_of_false nofun nofun
  | some found => rw [Except.ok.injEq, Option.some.injEq]

theorem Plan.render_eq_ok_iff {plan : Plan} {style : QueryStyle} {values : List Bson}
    {doc : Document} :
    plan.render style values = .ok doc ↔
      plan.root.toDocument style (SlotId.value plan.slots values) = .ok doc :=
  mapError_eq_ok_iff

/-- A count that is not negative is itself. -/
theorem naturalCount_eq_ok_iff {what : String} {n : Int} {m : Nat} :
    naturalCount what n = .ok m ↔ 0 ≤ n ∧ m = n.toNat := by
  rw [naturalCount]
  split
  · next h => simp [Int.not_le.mpr h]
  · next h => simp [Int.not_lt.mp h, eq_comm]

namespace Node

variable {style : QueryStyle} {value : SlotId → Except Defect Bson} {field : String} {op : Operator}
  {slot : SlotId} {doc : Document}

/-! ## Leaves -/

theorem toDocument_comparison_eq_ok_iff :
    (comparison field op slot).toDocument style value = .ok doc ↔
      ∃ v, value slot = .ok v ∧ doc = comparisonDocument field op v := by
  rw [toDocument, bind_eq_ok_iff]
  simp only [pure, Except.pure, Except.ok.injEq, eq_comm]

theorem toDocument_negated_eq_ok_iff :
    (negated field op slot).toDocument style value = .ok doc ↔
      ∃ v, value slot = .ok v ∧ doc = negatedDocument field op v := by
  rw [toDocument, bind_eq_ok_iff]
  simp only [pure, Except.pure, Except.ok.injEq, eq_comm]

/-- A membership test is written for arrays only. -/
theorem membershipDocument_eq_ok_iff {v : Bson} :
    membershipDocument field op v = .ok doc ↔
      ∃ elements, v = .array elements ∧ doc = operation field op.key (.array elements) := by
  cases v <;> simp [membershipDocument, eq_comm]

theorem toDocument_membership_eq_ok_iff :
    (membership field op slot).toDocument style value = .ok doc ↔
      ∃ elements, value slot = .ok (.array elements) ∧
        doc = operation field op.key (.array elements) := by
  rw [toDocument, bind_eq_ok_iff]
  simp only [membershipDocument_eq_ok_iff]
  constructor
  · rintro ⟨v, hv, elements, rfl, rfl⟩
    exact ⟨elements, hv, rfl⟩
  · rintro ⟨elements, hv, rfl⟩
    exact ⟨_, hv, elements, rfl, rfl⟩

theorem sizeDocument_eq_ok_iff {v : Bson} :
    sizeDocument field v = .ok doc ↔
      ∃ n, v.toInt64? = some n ∧ 0 ≤ n.toInt ∧
        doc = operation field Operator.size.key (.int64 n) := by
  rw [sizeDocument]
  split
  · next h => simp [h]
  · next n h =>
    simp only [bind_eq_ok_iff, naturalCount_eq_ok_iff, pure, Except.pure, Except.ok.injEq, h,
      Option.some.injEq]
    constructor
    · rintro ⟨m, ⟨hn, -⟩, rfl⟩
      exact ⟨n, rfl, hn, rfl⟩
    · rintro ⟨_, rfl, hn, rfl⟩
      exact ⟨_, ⟨hn, rfl⟩, rfl⟩

/-- A count of elements is written for integers that are not negative, and always as a wide one. -/
theorem toDocument_size_eq_ok_iff :
    (size field slot).toDocument style value = .ok doc ↔
      ∃ v n, value slot = .ok v ∧ v.toInt64? = some n ∧ 0 ≤ n.toInt ∧
        doc = operation field Operator.size.key (.int64 n) := by
  rw [toDocument, bind_eq_ok_iff]
  simp only [sizeDocument_eq_ok_iff, exists_and_left]

theorem toDocument_element_eq_ok_iff {criteria : Node} :
    (element field criteria).toDocument style value = .ok doc ↔
      ∃ inner, criteria.toDocument style value = .ok inner ∧
        doc = operation field Operator.elemMatch.key (.document inner) := by
  rw [toDocument, bind_eq_ok_iff]
  simp only [pure, Except.pure, Except.ok.injEq, eq_comm]

/-! ## Groups -/

theorem toDocuments_nil_eq_ok_iff {docs : List Bson} :
    toDocuments style value [] = .ok docs ↔ docs = [] := by
  rw [toDocuments]
  simp [eq_comm]

theorem toDocuments_cons_eq_ok_iff {node : Node} {nodes : List Node} {docs : List Bson} :
    toDocuments style value (node :: nodes) = .ok docs ↔
      ∃ first others, node.toDocument style value = .ok first ∧
        toDocuments style value nodes = .ok others ∧ docs = .document first :: others := by
  rw [toDocuments]
  simp only [bind_eq_ok_iff, pure, Except.pure, Except.ok.injEq]
  constructor
  · rintro ⟨first, hf, others, ho, rfl⟩
    exact ⟨first, others, hf, ho, rfl⟩
  · rintro ⟨first, others, hf, ho, rfl⟩
    exact ⟨first, hf, others, ho, rfl⟩

/-- The test of a field for equality with the value of a slot. -/
def ofEquality (test : String × SlotId) : Node := .comparison test.1 .eq test.2

theorem allSlots_ofEquality (tests : List (String × SlotId)) :
    allSlots (tests.map ofEquality) = tests.map Prod.snd := by
  induction tests with
  | nil => rfl
  | cons test tests ih =>
    rw [List.map_cons, allSlots, ih]
    rfl

theorem equality?_eq_some_iff {node : Node} {test : String × SlotId} :
    equality? node = some test ↔ node = ofEquality test := by
  rw [equality?.eq_def]
  split
  · next field op slot =>
    split
    · next h => simp [h, ofEquality, Prod.ext_iff]
    · next h => simp [ofEquality, h]
  · next other =>
    simp only [reduceCtorEq, false_iff]
    exact fun h => other _ _ _ h

/-- Nodes are all equalities exactly if they were made of tests for equality. -/
theorem mapM_equality?_eq_some_iff : ∀ {nodes : List Node} {tests : List (String × SlotId)},
    nodes.mapM equality? = some tests ↔ nodes = tests.map ofEquality
  | [], tests => by
    rw [List.mapM_nil]
    cases tests <;> simp
  | node :: nodes, tests => by
    rw [List.mapM_cons]
    simp only [Option.bind_eq_bind, Option.bind_eq_some_iff, equality?_eq_some_iff,
      mapM_equality?_eq_some_iff]
    constructor
    · rintro ⟨test, rfl, rest, rfl, h⟩
      cases h
      rfl
    · intro h
      cases tests with
      | nil => cases h
      | cons test rest =>
        rw [List.map_cons, List.cons.injEq] at h
        exact ⟨test, h.1, rest, h.2, rfl⟩

/-- A group is written as one flat document exactly if it consists of equalities on distinct
fields. -/
theorem equalities?_eq_some_iff {nodes : List Node} {tests : List (String × SlotId)} :
    equalities? nodes = some tests ↔
      nodes = tests.map ofEquality ∧ (tests.map Prod.fst).Nodup := by
  rw [equalities?]
  simp only [Option.bind_eq_bind, Option.bind_eq_some_iff, mapM_equality?_eq_some_iff]
  constructor
  · rintro ⟨found, hf, h⟩
    split at h
    · next distinct =>
      cases h
      exact ⟨hf, distinct⟩
    · cases h
  · rintro ⟨hf, distinct⟩
    exact ⟨tests, hf, if_pos distinct⟩

theorem keys_of_entries {tests : List (String × SlotId)}
    (h : List.Forall₂ (fun test entry => entry.1 = test.1 ∧ value test.2 = .ok entry.2) tests doc) :
    Document.keys doc = tests.map Prod.fst := by
  induction h with
  | nil => rfl
  | cons head _ ih =>
    obtain ⟨hfield, -⟩ := head
    unfold Document.keys at ih ⊢
    rw [List.map_cons, List.map_cons, hfield, ih]

/-- The entries of one document are the fields of the tests with the values of their slots. -/
theorem equalitiesDocument_eq_ok {tests : List (String × SlotId)}
    (distinct : (tests.map Prod.fst).Nodup) (h : equalitiesDocument value tests = .ok doc) :
    List.Forall₂ (fun test entry => entry.1 = test.1 ∧ value test.2 = .ok entry.2) tests doc := by
  rw [equalitiesDocument] at h
  obtain ⟨entries, he, hdoc⟩ := bind_eq_ok_iff.mp h
  cases hdoc
  have pairs : List.Forall₂ (fun test entry => entry.1 = test.1 ∧ value test.2 = .ok entry.2)
      tests entries := by
    refine (mapM_eq_ok_iff.mp he).imp fun test entry hentry => ?_
    obtain ⟨v, hv, hpair⟩ := bind_eq_ok_iff.mp hentry
    cases hpair
    exact ⟨rfl, hv⟩
  -- with distinct keys, no entry replaces or moves another
  rw [Document.ofList_of_nodup (keys_of_entries pairs ▸ distinct)]
  exact pairs

/-- A group becomes one document with an entry for each member, which is a test for equality, or an
array of documents. -/
theorem toDocument_group_eq_ok {c : Connective} {members : List Node}
    (h : (group c members).toDocument style value = .ok doc) :
    (c = .conjunction ∧ ∃ tests, members = tests.map ofEquality ∧
      List.Forall₂ (fun test entry => entry.1 = test.1 ∧ value test.2 = .ok entry.2) tests doc) ∨
    (∃ docs, toDocuments style value members = .ok docs ∧
      doc = Document.single c.key (.array docs)) := by
  rw [toDocument] at h
  split at h
  · next tests ht =>
    split at ht
    · next flat =>
      simp only [Bool.and_eq_true, beq_iff_eq] at flat
      obtain ⟨hmembers, distinct⟩ := equalities?_eq_some_iff.mp ht
      exact .inl ⟨flat.2, tests, hmembers, equalitiesDocument_eq_ok distinct h⟩
    · cases ht
  · obtain ⟨docs, hd, hdoc⟩ := bind_eq_ok_iff.mp h
    cases hdoc
    exact .inr ⟨docs, hd, rfl⟩

end Node

end PreparedFilter

import PreparedFilter.Proofs.Query.Steps

/-!
# The values in a query document

A query document shows the value of each leaf at the place of the leaf (`Node.Shows`): an equality
next to its field, another test under its operator, and a count of elements as a wide integer.
-/

namespace PreparedFilter

namespace Node

mutual

/-- A document shows the tests of a node with values that the slots hold. -/
inductive Shows (holds : SlotId → Bson → Prop) : Node → Document → Prop where
  | equality {field : String} {slot : SlotId} {value : Bson} (held : holds slot value) :
      Shows holds (.comparison field .eq slot) [(field, value)]
  | comparison {field : String} {op : Operator} {slot : SlotId} {value : Bson} (other : op ≠ .eq)
      (held : holds slot value) :
      Shows holds (.comparison field op slot) [(field, .document [(op.key, value)])]
  | negated {field : String} {op : Operator} {slot : SlotId} {value : Bson}
      (held : holds slot value) :
      Shows holds (.negated field op slot)
        [(field, .document [("$not", .document [(op.key, value)])])]
  | membership {field : String} {op : Operator} {slot : SlotId} {elements : List Bson}
      (held : holds slot (.array elements)) :
      Shows holds (.membership field op slot) [(field, .document [(op.key, .array elements)])]
  | size {field : String} {slot : SlotId} {value : Bson} {n : Int64} (held : holds slot value)
      (count : value.toInt64? = some n) :
      Shows holds (.size field slot) [(field, .document [("$size", .int64 n)])]
  | element {field : String} {criteria : Node} {inner : Document}
      (shown : Shows holds criteria inner) :
      Shows holds (.element field criteria) [(field, .document [("$elemMatch", .document inner)])]
  | group {c : Connective} {members : List Node} {docs : List Bson}
      (shown : ShowsAll holds members docs) :
      Shows holds (.group c members) [(c.key, .array docs)]
  /-- A conjunction of equalities as one document. -/
  | flat {tests : List (String × SlotId)} {doc : Document}
      (shown : List.Forall₂ (fun test entry => entry.1 = test.1 ∧ holds test.2 entry.2) tests doc) :
      Shows holds (.group .conjunction (tests.map ofEquality)) doc

/-- Documents show the tests of nodes, one by one. -/
inductive ShowsAll (holds : SlotId → Bson → Prop) : List Node → List Bson → Prop where
  | nil : ShowsAll holds [] []
  | cons {node : Node} {nodes : List Node} {doc : Document} {docs : List Bson}
      (first : Shows holds node doc) (rest : ShowsAll holds nodes docs) :
      ShowsAll holds (node :: nodes) (.document doc :: docs)

end

section

variable {style : QueryStyle} {value : SlotId → Except Defect Bson} {holds : SlotId → Bson → Prop}

mutual

/-- A query document shows the values that were looked up. -/
theorem shows_toDocument (known : ∀ slot v, value slot = .ok v → holds slot v) :
    ∀ (node : Node) {doc : Document}, node.toDocument style value = .ok doc → node.Shows holds doc
  | .comparison field op slot, doc, h => by
    obtain ⟨v, hv, rfl⟩ := toDocument_comparison_eq_ok_iff.mp h
    unfold comparisonDocument
    by_cases equality : op = .eq
    · subst equality
      exact .equality (known slot v hv)
    · -- every other comparison stands under its operator
      rw [if_neg equality]
      exact .comparison equality (known slot v hv)
  | .negated field op slot, doc, h => by
    obtain ⟨v, hv, rfl⟩ := toDocument_negated_eq_ok_iff.mp h
    exact .negated (known slot v hv)
  | .membership field op slot, doc, h => by
    obtain ⟨elements, hv, rfl⟩ := toDocument_membership_eq_ok_iff.mp h
    exact .membership (known slot _ hv)
  | .size field slot, doc, h => by
    obtain ⟨v, n, hv, count, -, rfl⟩ := toDocument_size_eq_ok_iff.mp h
    exact .size (known slot v hv) count
  | .element field criteria, doc, h => by
    obtain ⟨inner, hinner, rfl⟩ := toDocument_element_eq_ok_iff.mp h
    exact .element (shows_toDocument known criteria hinner)
  | .group c members, doc, h => by
    rcases toDocument_group_eq_ok h with ⟨rfl, tests, rfl, entries⟩ | ⟨docs, hdocs, rfl⟩
    · exact .flat (entries.imp fun test entry same => ⟨same.1, known _ _ same.2⟩)
    · exact .group (showsAll_toDocuments known members hdocs)

theorem showsAll_toDocuments (known : ∀ slot v, value slot = .ok v → holds slot v) :
    ∀ (nodes : List Node) {docs : List Bson},
      toDocuments style value nodes = .ok docs → ShowsAll holds nodes docs
  | [], docs, h => by
    rw [toDocuments_nil_eq_ok_iff.mp h]
    exact .nil
  | node :: nodes, docs, h => by
    obtain ⟨first, others, hfirst, hothers, rfl⟩ := toDocuments_cons_eq_ok_iff.mp h
    exact .cons (shows_toDocument known node hfirst) (showsAll_toDocuments known nodes hothers)

end

end

end Node

end PreparedFilter

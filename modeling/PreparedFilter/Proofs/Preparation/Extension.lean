import PreparedFilter.Plan.Query
import PreparedFilter.Proofs.Preparation.Typing

/-!
# Schemas may be extended

A schema grows with the documents that it describes: fields are added, their order changes, a field
may hold further types. A schema that knows all of the fields, and allows all of the types that they
had, extends the earlier one (`Schema.Extends`). What could be prepared over a schema is prepared
over every extension of it, with the same root and the same table (`Plan.prepare_extended`), also if
the fields of elements are extended along with it, for each element test in its own way.

Nothing but the look-up of fields sees the schema. It takes the first descriptor of a name, and
asks only for types that an extension has, too: for some type with an order or for arrays
(`Operator.appliesTo_of_contains`).
-/

namespace PreparedFilter

/-! ## More types -/

namespace TypeSet

theorem contains_iff {a b : TypeSet} : a.contains b = true ↔ a.inter b = b := beq_iff_eq

theorem intersects_iff {a b : TypeSet} : a.intersects b = true ↔ a.inter b ≠ none := by
  rw [intersects, isEmpty, Bool.not_eq_true', beq_eq_false_iff_ne]

theorem inter_assoc (a b c : TypeSet) : (a.inter b).inter c = a.inter (b.inter c) :=
  congrArg mk (UInt16.and_assoc a.bits b.bits c.bits)

theorem inter_comm (a b : TypeSet) : a.inter b = b.inter a :=
  congrArg mk (UInt16.and_comm a.bits b.bits)

@[simp] theorem inter_none (a : TypeSet) : a.inter none = none := congrArg mk UInt16.and_zero

theorem contains_trans {a b c : TypeSet} (hab : a.contains b = true) (hbc : b.contains c = true) :
    a.contains c = true := by
  rw [contains_iff] at hab hbc ⊢
  rw [← hbc, ← inter_assoc, hab]

/-- A set with further types shares what the smaller one shares. -/
theorem intersects_of_contains {a b c : TypeSet} (hab : a.contains b = true)
    (hbc : b.intersects c = true) : a.intersects c = true := by
  rw [contains_iff] at hab
  rw [intersects_iff] at hbc ⊢
  intro apart
  apply hbc
  rw [← hab, inter_comm a b, inter_assoc, apart, inter_none]

end TypeSet

/-- An operator that applies to a field still does when the field may hold further types. -/
theorem Operator.appliesTo_of_contains {op : Operator} {types wider : TypeSet}
    (further : wider.contains types = true) (applies : op.appliesTo types = true) :
    op.appliesTo wider = true := by
  cases op with
  | eq | ne | isIn | notIn => rfl
  | gt | gte | lt | lte => exact TypeSet.intersects_of_contains further applies
  | all | elemMatch | size => exact TypeSet.contains_trans further applies

/-! ## Extensions -/

namespace Schema

/-- Every field of the second schema is found in the first one, with its types at least. -/
def Extends (wide schema : Schema) : Prop :=
  ∀ name descriptor, schema.descriptor? name = some descriptor →
    ∃ wider, wide.descriptor? name = some wider ∧ wider.types.contains descriptor.types = true

theorem name_of_descriptor? {schema : Schema} {name : String} {descriptor : FieldDescriptor}
    (found : schema.descriptor? name = some descriptor) : descriptor.name = name := by
  have matching := List.find?_some found
  exact beq_iff_eq.mp matching

/-- Only the descriptors that are found need to be compared. -/
theorem extends_iff {wide schema : Schema} :
    wide.Extends schema ↔
      ∀ descriptor ∈ schema.fields, schema.descriptor? descriptor.name = some descriptor →
        (wide.descriptor? descriptor.name).any fun wider =>
          wider.types.contains descriptor.types := by
  simp only [Option.any_eq_true]
  constructor
  · intro h descriptor _ found
    exact h descriptor.name descriptor found
  · intro h name descriptor found
    obtain rfl := name_of_descriptor? found
    exact h descriptor (List.mem_of_find?_eq_some found) found

instance (wide schema : Schema) : Decidable (wide.Extends schema) :=
  decidable_of_iff _ extends_iff.symm

/-- An operator that suits a field suits it in an extension, too. -/
theorem Extends.resolve {wide schema : Schema} (wider : wide.Extends schema) {field : String}
    {op : Operator} (resolved : ∃ descriptor, schema.resolve field op = .ok descriptor) :
    ∃ descriptor, wide.resolve field op = .ok descriptor := by
  obtain ⟨descriptor, h⟩ := resolved
  obtain ⟨found, supported⟩ := resolve_eq_ok_iff.mp h
  obtain ⟨descriptor', found', further⟩ := wider field descriptor found
  have supported' : descriptor'.supports op = true :=
    Operator.appliesTo_of_contains further supported
  exact ⟨descriptor', resolve_eq_ok_iff.mpr ⟨found', supported'⟩⟩

end Schema

namespace Predicate

mutual

/-- The second predicate is the first one, but for the fields of elements, which are extended. -/
inductive Extended : Predicate → Predicate → Prop where
  | test (field : String) (op : Operator) (position : Nat) :
      Extended (.test field op position) (.test field op position)
  | element {field : String} {fields fields' : List FieldDescriptor} {p p' : Predicate}
      (wider : Schema.Extends ⟨field, fields'⟩ ⟨field, fields⟩) (criteria : Extended p p') :
      Extended (.element field fields p) (.element field fields' p')
  | group {c : Connective} {ps ps' : List Predicate} (members : AllExtended ps ps') :
      Extended (.group c ps) (.group c ps')
  | not {p p' : Predicate} (inner : Extended p p') : Extended (.not p) (.not p')

/-- Lists of predicates that are extended one by one. -/
inductive AllExtended : List Predicate → List Predicate → Prop where
  | nil : AllExtended [] []
  | cons {p p' : Predicate} {ps ps' : List Predicate} (first : Extended p p')
      (rest : AllExtended ps ps') : AllExtended (p :: ps) (p' :: ps')

end

theorem AllExtended.ne_nil {ps ps' : List Predicate} (h : AllExtended ps ps') (nonempty : ps ≠ []) :
    ps' ≠ [] := by
  cases h with
  | nil => exact absurd rfl nonempty
  | cons first rest => exact List.cons_ne_nil _ _

end Predicate

/-! ## Preparation -/

namespace Node

/-- A leaf does not show the name of the schema, which is for messages only. -/
theorem leafUnder_eq_ok_of_eq_ok {negated : Bool} {scope field : String} (scope' : String)
    {op : Operator} {slot : SlotId} {node : Node}
    (h : leafUnder negated scope field op slot = .ok node) :
    leafUnder negated scope' field op slot = .ok node := by
  cases negated with
  | false =>
    rw [leafUnder_false, leaf_eq_ok_iff] at h ⊢
    exact h
  | true =>
    simp only [leafUnder_true_eq_ok_iff, leaf_eq_ok_iff] at h ⊢
    exact h

end Node

namespace Predicate

mutual

/-- What is prepared over a schema is prepared to the same node and table over an extension. -/
theorem Extended.toNode_eq_ok : ∀ {p p' : Predicate}, p.Extended p' →
    ∀ {schema wide : Schema} {negated : Bool} {table table' : List Nat} {node : Node},
      wide.Extends schema → p.toNode schema negated table = .ok (node, table') →
        p'.toNode wide negated table = .ok (node, table')
  | _, _, .test _ _ _, _, wide, _, _, _, _, wider, h => by
    obtain ⟨resolved, hl, htable⟩ := toNode_test_eq_ok_iff.mp h
    exact toNode_test_eq_ok_iff.mpr
      ⟨wider.resolve resolved, Node.leafUnder_eq_ok_of_eq_ok wide.name hl, htable⟩
  | _, _, .element fields criteria, _, _, _, _, _, _, wider, h => by
    -- the criteria are under the extension of their own scope
    obtain ⟨resolved, positive, inner, hc, rfl⟩ := toNode_element_eq_ok_iff.mp h
    exact toNode_element_eq_ok_iff.mpr
      ⟨wider.resolve resolved, positive, inner, criteria.toNode_eq_ok fields hc, rfl⟩
  | _, _, .group members, _, _, _, _, _, _, wider, h => by
    obtain ⟨nonempty, nodes, hn, rfl⟩ := toNode_group_eq_ok_iff.mp h
    exact toNode_group_eq_ok_iff.mpr
      ⟨members.ne_nil nonempty, nodes, members.toOperands_eq_ok wider hn, rfl⟩
  | _, _, .not inner, _, _, _, _, _, _, wider, h => by
    rw [toNode_not] at h ⊢
    exact inner.toNode_eq_ok wider h

/-- Members that are extended one by one are prepared one by one to the same operands. -/
theorem AllExtended.toOperands_eq_ok : ∀ {ps ps' : List Predicate}, AllExtended ps ps' →
    ∀ {schema wide : Schema} {negated : Bool} {joined : Connective} {table table' : List Nat}
      {nodes : List Node},
      wide.Extends schema → toOperands schema negated joined ps table = .ok (nodes, table') →
        toOperands wide negated joined ps' table = .ok (nodes, table')
  | _, _, .nil, _, _, _, _, _, _, _, _, h => by
    rw [toOperands_nil_eq_ok_iff] at h ⊢
    exact h
  | _, _, .cons first rest, _, _, _, _, _, _, _, wider, h => by
    obtain ⟨node, between, others, hp, hps, rfl⟩ := toOperands_cons_eq_ok_iff.mp h
    exact toOperands_cons_eq_ok_iff.mpr
      ⟨node, between, others, first.toNode_eq_ok wider hp, rest.toOperands_eq_ok wider hps, rfl⟩

end

end Predicate

/-! ## Plans -/

namespace Plan

/-- The documents of a plan do not depend on the definition, which only its faults name. -/
theorem render_redefined (plan : Plan) (definition' : DefinitionId) (style : QueryStyle)
    (values : List Bson) :
    ({ plan with definition := definition' } : Plan).render style values =
      (plan.render style values).mapError fun fault => fault.withDefinition definition' := by
  rw [render, render]
  show (plan.query style values).mapError _ = ((plan.query style values).mapError _).mapError _
  cases plan.query style values with
  | error defect => rfl
  | ok document => rfl

/-- **An extended schema prepares what the earlier one did.** A predicate that is prepared over a
schema is prepared over every extension of it, also with extended fields of elements, and for any
definition: to the same root and the same table. So with any values it is rendered as before; where
that fails, the fault is the same, and names the definition at hand. -/
theorem prepare_extended {schema wide : Schema} {predicate predicate' : Predicate}
    {definition : DefinitionId} {plan : Plan} (wider : wide.Extends schema)
    (extended : predicate.Extended predicate')
    (prepared : prepare definition schema predicate = .ok plan) (definition' : DefinitionId) :
    ∃ plan', prepare definition' wide predicate' = .ok plan' ∧
      plan'.root = plan.root ∧ plan'.slots = plan.slots ∧
      (definition' = definition → plan' = plan) ∧
      ∀ (style : QueryStyle) (values : List Bson),
        plan'.render style values =
          (plan.render style values).mapError fun fault => fault.withDefinition definition' := by
  obtain ⟨node, rfl⟩ := prepare_eq_ok_iff.mp prepared
  refine ⟨{ plan with definition := definition' }, ?_, rfl, rfl, ?_, ?_⟩
  · exact prepare_eq_ok_iff.mpr ⟨extended.toNode_eq_ok wider node, rfl⟩
  · rintro rfl
    rfl
  · exact render_redefined plan definition'

/-- More fields in another order, wider types and more fields of elements leave a plan as it is. -/
theorem prepare_extended_foo :
    let wide : Schema := ⟨"Foo 2",
      [⟨"locations", TypeSet.array.union .null⟩, ⟨"tags", .any⟩, ⟨"nickname", .string⟩,
        ⟨"rating", TypeSet.number.union .bool⟩, ⟨"stringField", .string⟩, ⟨"flag", .bool⟩,
        ⟨"enumFoo", .string⟩, ⟨"primitiveIntField", .number⟩, ⟨"rating", .none⟩]⟩
    let located : Schema := ⟨"Location 2",
      [⟨"country", .string⟩, ⟨"zip", TypeSet.string.union .int⟩, ⟨"city", .string⟩]⟩
    let predicate (elements : Schema) := Predicate.all
      [Gallery.stringField.ne ⟨0⟩, .not (.any [Gallery.flag.eq ⟨1⟩, Gallery.rating.gt ⟨2⟩]),
        .any [Gallery.locations.elemMatch elements
            (.not (.all [Gallery.city.lte ⟨3⟩, Gallery.zip.eq ⟨3⟩])), Gallery.tags.size ⟨4⟩]]
    let root := Node.group .conjunction
      [.comparison "stringField" .ne ⟨0⟩, .comparison "flag" .ne ⟨1⟩, .negated "rating" .gt ⟨2⟩,
        .group .disjunction
          [.element "locations" (.group .disjunction
            [.negated "city" .lte ⟨3⟩, .comparison "zip" .ne ⟨4⟩]), .size "tags" ⟨5⟩]]
    let definition := Gallery.dangling.definition
    wide.Extends Gallery.foo ∧ located.Extends Gallery.location ∧
      (predicate Gallery.location).Extended (predicate located) ∧
      prepare definition Gallery.foo (predicate Gallery.location) =
        .ok ⟨definition, root, [0, 1, 2, 3, 3, 4]⟩ ∧
      prepare definition wide (predicate located) = .ok ⟨definition, root, [0, 1, 2, 3, 3, 4]⟩ := by
  intro wide located predicate root definition
  have wider : wide.Extends Gallery.foo := by decide
  have elements : located.Extends Gallery.location := by decide
  have extended : (predicate Gallery.location).Extended (predicate located) :=
    .group (.cons (.test _ _ _) (.cons (.not (.group (.cons (.test _ _ _) (.cons (.test _ _ _)
      .nil)))) (.cons (.group (.cons (.element elements (.not (.group (.cons (.test _ _ _)
        (.cons (.test _ _ _) .nil))))) (.cons (.test _ _ _) .nil))) .nil)))
  have prepared : prepare definition Gallery.foo (predicate Gallery.location) =
      .ok ⟨definition, root, [0, 1, 2, 3, 3, 4]⟩ := by decide
  obtain ⟨plan', prepared', -, -, same, -⟩ := prepare_extended wider extended prepared definition
  rw [same rfl] at prepared'
  exact ⟨wider, elements, extended, prepared, prepared'⟩

end Plan

end PreparedFilter

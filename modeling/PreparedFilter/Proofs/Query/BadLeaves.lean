import PreparedFilter.Gallery.Filters
import PreparedFilter.Proofs.Preparation.Leaves
import PreparedFilter.Proofs.Query.Steps

/-!
# Bad leaves

Whether a plan can be written for an instance is decided at its leaves: a slot may have no value, or
one that does not suit the test (`Node.badness?`). Writing fails by the first bad leaf from left to
right, and in no other way (`Plan.render_badness`). The two styles of conjunctions look the values
up in different places, but in the same order, so they fail alike.
-/

namespace PreparedFilter

namespace Node

/-! ## Leaves -/

mutual

/-- The leaves of a node as nodes, from left to right. -/
def leafNodes : Node → List Node
  | .comparison field op slot => [.comparison field op slot]
  | .negated field op slot => [.negated field op slot]
  | .membership field op slot => [.membership field op slot]
  | .size field slot => [.size field slot]
  | .element _ criteria => criteria.leafNodes
  | .group _ members => allLeafNodes members

/-- The leaves of a list of nodes. -/
def allLeafNodes : List Node → List Node
  | [] => []
  | n :: ns => n.leafNodes ++ allLeafNodes ns

end

/-- The slot of a leaf. -/
def slot? : Node → Option SlotId
  | .comparison _ _ slot => some slot
  | .negated _ _ slot => some slot
  | .membership _ _ slot => some slot
  | .size _ slot => some slot
  | _ => none

mutual

theorem filterMap_slot?_leafNodes : ∀ node : Node, node.leafNodes.filterMap slot? = node.slots
  | .comparison _ _ _ | .negated _ _ _ | .membership _ _ _ | .size _ _ => rfl
  | .element _ criteria => filterMap_slot?_leafNodes criteria
  | .group _ members => filterMap_slot?_allLeafNodes members

theorem filterMap_slot?_allLeafNodes : ∀ nodes : List Node,
    (allLeafNodes nodes).filterMap slot? = allSlots nodes
  | [] => rfl
  | n :: ns => by
    rw [allLeafNodes, List.filterMap_append, filterMap_slot?_leafNodes n,
      filterMap_slot?_allLeafNodes ns, allSlots]

end

/-! ## Badness -/

/-- The kind of fault by which a value does not suit a leaf, if it does not. -/
def unsuited? : Node → Bson → Option FaultKind
  | .membership _ _ _, .array _ => none
  | .membership _ _ _, _ => some .malformedPredicate
  | .size _ _, .int32 n => if n < 0 then some .integerUnderflow else none
  | .size _ _, .int64 n => if n < 0 then some .integerUnderflow else none
  | .size _ _, _ => some .malformedPredicate
  | _, _ => none

/-- The kind of fault by which a leaf is bad for captured values, if it is: its slot is not in the
table of the plan, or has a position beyond the values, or the value does not suit the leaf. -/
def badness? (plan : Plan) (values : List Bson) (leaf : Node) : Option FaultKind :=
  leaf.slot?.bind fun slot =>
    match plan.value? values slot with
    | none => some .unresolvedSlot
    | some value => leaf.unsuited? value

/-! ## What is refused at a leaf -/

section

variable {style : QueryStyle} {value : SlotId → Except Defect Bson}

/-- The defect of a leaf, if it cannot be written. -/
def refusals (value : SlotId → Except Defect Bson) : Node → List Defect
  | .comparison _ _ slot => errorsOf (value slot)
  | .negated _ _ slot => errorsOf (value slot)
  | .membership field op slot => errorsOf (value slot >>= membershipDocument field op)
  | .size field slot => errorsOf (value slot >>= sizeDocument field)
  | _ => []

theorem allLeafNodes_ofEquality (tests : List (String × SlotId)) :
    allLeafNodes (tests.map ofEquality) = tests.map ofEquality := by
  induction tests with
  | nil => rfl
  | cons test tests ih =>
    rw [List.map_cons, allLeafNodes, ih]
    rfl

/-- One document of equalities is refused where the leaf of one of them is. -/
theorem equalitiesDocument_endsAt (tests : List (String × SlotId)) :
    EndsAt ((tests.map ofEquality).flatMap (refusals value)) (equalitiesDocument value tests) := by
  rw [equalitiesDocument, List.flatMap_map]
  refine (EndsAt.mapM (fun test => ?_) tests).bind_ok fun _ _ => ⟨_, rfl⟩
  exact (endsAt_errorsOf (value test.2)).bind_ok fun _ _ => ⟨_, rfl⟩

mutual

/-- A node is refused at the first of its leaves that is, in any style. -/
theorem toDocument_endsAt : ∀ node : Node,
    EndsAt (node.leafNodes.flatMap (refusals value)) (node.toDocument style value)
  | .comparison field op slot => by
    rw [leafNodes, List.flatMap_singleton, refusals, toDocument]
    exact (endsAt_errorsOf (value slot)).bind_ok fun _ _ => ⟨_, rfl⟩
  | .negated field op slot => by
    rw [leafNodes, List.flatMap_singleton, refusals, toDocument]
    exact (endsAt_errorsOf (value slot)).bind_ok fun _ _ => ⟨_, rfl⟩
  | .membership field op slot => by
    rw [leafNodes, List.flatMap_singleton, refusals, toDocument]
    exact endsAt_errorsOf (value slot >>= membershipDocument field op)
  | .size field slot => by
    rw [leafNodes, List.flatMap_singleton, refusals, toDocument]
    exact endsAt_errorsOf (value slot >>= sizeDocument field)
  | .element field criteria => by
    rw [leafNodes, toDocument]
    exact (toDocument_endsAt criteria).bind_ok fun _ _ => ⟨_, rfl⟩
  | .group c members => by
    rw [leafNodes, toDocument]
    split
    · next tests found =>
      split at found
      · rw [(equalities?_eq_some_iff.mp found).1, allLeafNodes_ofEquality]
        exact equalitiesDocument_endsAt tests
      · cases found
    · exact (toDocuments_endsAt members).bind_ok fun _ _ => ⟨_, rfl⟩

/-- The members of a group are written in order, and the first bad leaf among them counts. -/
theorem toDocuments_endsAt : ∀ nodes : List Node,
    EndsAt ((allLeafNodes nodes).flatMap (refusals value)) (toDocuments style value nodes)
  | [] => ⟨[], rfl⟩
  | n :: ns => by
    rw [allLeafNodes, List.flatMap_append, toDocuments]
    refine (toDocument_endsAt n).bind fun _ _ => ?_
    exact (toDocuments_endsAt ns).bind_ok fun _ _ => ⟨_, rfl⟩

end

end

/-! ## The kinds of defects -/

section

variable {field : String} {op : Operator} {plan : Plan} {values : List Bson}

theorem kinds_membershipDocument (slot : SlotId) (v : Bson) :
    (errorsOf (membershipDocument field op v)).map Defect.kind =
      ((membership field op slot).unsuited? v).toList := by
  cases v <;> rfl

/-- A count of elements that is an integer is refused if it is negative. -/
theorem kinds_sizeDocument_of_toInt64? {v : Bson} {n : Int64} (count : v.toInt64? = some n) :
    (errorsOf (sizeDocument field v)).map Defect.kind =
      (if n < 0 then some FaultKind.integerUnderflow else none).toList := by
  have sign : n < 0 ↔ n.toInt < 0 := Int64.lt_iff_toInt_lt
  simp only [sizeDocument, count, naturalCount, sign]
  by_cases negative : n.toInt < 0
  · rw [if_pos negative, if_pos negative]
    rfl
  · rw [if_neg negative, if_neg negative]
    rfl

/-- A count of elements refuses what is no integer, and what is negative. -/
theorem kinds_sizeDocument (slot : SlotId) (v : Bson) :
    (errorsOf (sizeDocument field v)).map Defect.kind = ((size field slot).unsuited? v).toList := by
  cases v with
  | int32 n =>
    have sign : n.toInt64 < 0 ↔ n < 0 := by
      rw [Int64.lt_iff_toInt_lt, Int32.lt_iff_toInt_lt, Int32.toInt_toInt64]
      rfl
    rw [kinds_sizeDocument_of_toInt64? rfl, unsuited?]
    simp only [sign]
  | int64 n => exact kinds_sizeDocument_of_toInt64? rfl
  | _ => rfl

/-- A leaf is refused by a defect of the kind by which it is bad. -/
theorem kinds_refusals (leaf : Node) :
    (refusals (SlotId.value plan.slots values) leaf).map Defect.kind =
      (leaf.badness? plan values).toList := by
  cases leaf with
  | comparison field op slot | negated field op slot =>
    rw [refusals, badness?, slot?, Option.bind_some, SlotId.value_eq]
    cases plan.value? values slot with
    | none => rfl
    | some v => rfl
  | membership field op slot =>
    rw [refusals, badness?, slot?, Option.bind_some, SlotId.value_eq]
    cases plan.value? values slot with
    | none => rfl
    | some v => exact kinds_membershipDocument slot v
  | size field slot =>
    rw [refusals, badness?, slot?, Option.bind_some, SlotId.value_eq]
    cases plan.value? values slot with
    | none => rfl
    | some v => exact kinds_sizeDocument slot v
  | element field criteria => rfl
  | group c members => rfl

/-- The kind of the first refusal among some leaves is that of the first bad leaf. -/
theorem head?_refusals (leaves : List Node) :
    (leaves.flatMap (refusals (SlotId.value plan.slots values))).head?.map Defect.kind =
      leaves.findSome? (badness? plan values) := by
  rw [← List.head?_map, List.map_flatMap, List.head?_flatMap]
  congr 1
  funext leaf
  rw [kinds_refusals]
  exact Option.head?_toList

/-! ## Slots without values -/

/-- A value that is there is never reported as missing. -/
theorem unsuited?_ne_unresolvedSlot (leaf : Node) (v : Bson) :
    leaf.unsuited? v ≠ some .unresolvedSlot := by
  cases leaf with
  | membership field op slot => cases v <;> simp [unsuited?]
  | size field slot =>
    cases v with
    | int32 n | int64 n =>
      rw [unsuited?]
      split
      · simp
      · simp
    | _ => simp [unsuited?]
  | _ => simp [unsuited?]

/-- A leaf is bad by its slot exactly if the slot has no value. -/
theorem badness?_eq_unresolvedSlot_iff {leaf : Node} :
    leaf.badness? plan values = some .unresolvedSlot ↔
      ∃ slot, leaf.slot? = some slot ∧ plan.value? values slot = none := by
  rw [badness?, Option.bind_eq_some_iff]
  refine exists_congr fun slot => and_congr_right fun _ => ?_
  cases plan.value? values slot with
  | none => exact iff_of_true rfl rfl
  | some v => exact iff_of_false (unsuited?_ne_unresolvedSlot leaf v) nofun

/-- Some leaf lacks a value exactly if some slot does. -/
theorem exists_badness?_unresolvedSlot_iff (node : Node) :
    (∃ leaf ∈ node.leafNodes, leaf.badness? plan values = some .unresolvedSlot) ↔
      ∃ slot ∈ node.slots, plan.value? values slot = none := by
  simp only [badness?_eq_unresolvedSlot_iff, ← filterMap_slot?_leafNodes node, List.mem_filterMap]
  constructor
  · rintro ⟨leaf, mem, slot, hslot, without⟩
    exact ⟨slot, ⟨leaf, mem, hslot⟩, without⟩
  · rintro ⟨slot, ⟨leaf, mem, hslot⟩, without⟩
    exact ⟨leaf, mem, slot, hslot, without⟩

end

end Node

/-! ## Plans -/

namespace Plan

variable {definition : DefinitionId} {schema : Schema} {predicate : Predicate} {plan : Plan}
  {values : List Bson}

/-- The kind of the first bad leaf of a plan, from left to right. -/
def badness? (plan : Plan) (values : List Bson) : Option FaultKind :=
  plan.root.leafNodes.findSome? (Node.badness? plan values)

/-- The defects of the leaves of a plan, from left to right. -/
def refusals (plan : Plan) (values : List Bson) : List Defect :=
  plan.root.leafNodes.flatMap (Node.refusals (SlotId.value plan.slots values))

/-- Both styles fail by the same refusals, in the same order. -/
theorem query_endsAt (plan : Plan) (style : QueryStyle) (values : List Bson) :
    EndsAt (plan.refusals values) (plan.query style values) :=
  Node.toDocument_endsAt plan.root

theorem head?_refusals (plan : Plan) (values : List Bson) :
    (plan.refusals values).head?.map Defect.kind = plan.badness? values :=
  Node.head?_refusals plan.root.leafNodes

theorem exists_render_iff {style : QueryStyle} :
    (∃ doc, plan.render style values = .ok doc) ↔ plan.badness? values = none := by
  rw [← head?_refusals, Option.map_eq_none_iff, List.head?_eq_none_iff,
    ← (plan.query_endsAt style values).ok_iff]
  exact exists_congr fun doc => mapError_eq_ok_iff

/-- The fault of a query is the first refusal, with the definition named on it. -/
theorem render_eq_error_iff {style : QueryStyle} {fault : Fault} :
    plan.render style values = .error fault ↔
      ∃ defect, (plan.refusals values).head? = some defect ∧
        (Fault.ofDefect defect).withDefinition plan.definition = fault := by
  rw [render, mapError_eq_error_iff]
  exact exists_congr fun defect => and_congr_left fun _ =>
    (plan.query_endsAt style values).error_iff

/-- A plan that cannot be written has a bad leaf, of the kind of the defect. -/
theorem badness?_of_query {style : QueryStyle} {defect : Defect}
    (refused : plan.query style values = .error defect) :
    plan.badness? values = some defect.kind := by
  rw [← head?_refusals, (plan.query_endsAt style values).error_iff.mp refused, Option.map_some]

/-- Some slot of a prepared plan has no value exactly if a position of the predicate has none. -/
theorem exists_leaf_without_value_iff
    (prepared : prepare definition schema predicate = .ok plan) :
    (∃ leaf ∈ plan.root.leafNodes, leaf.badness? plan values = some .unresolvedSlot) ↔
      ∃ position ∈ predicate.positions, values.length ≤ position := by
  rw [Node.exists_badness?_unresolvedSlot_iff, slots_root prepared, ← slots_eq prepared]
  constructor
  · rintro ⟨slot, mem, without⟩
    obtain ⟨i, hi, rfl⟩ := List.mem_map.mp mem
    have bound : i < plan.slots.length := List.mem_range.mp hi
    rw [value?, position?, List.getElem?_eq_getElem bound] at without
    exact ⟨plan.slots[i], List.getElem_mem bound, List.getElem?_eq_none_iff.mp without⟩
  · rintro ⟨position, mem, beyond⟩
    obtain ⟨i, bound, rfl⟩ := List.getElem_of_mem mem
    refine ⟨⟨i⟩, List.mem_map_of_mem (List.mem_range.mpr bound), ?_⟩
    rw [value?, position?, List.getElem?_eq_getElem bound]
    exact List.getElem?_eq_none_iff.mpr beyond

/-- The first bad leaf of a prepared plan lacks a value only if some position has none. -/
theorem exists_position_of_badness?
    (prepared : prepare definition schema predicate = .ok plan)
    (bad : plan.badness? values = some .unresolvedSlot) :
    ∃ position ∈ predicate.positions, values.length ≤ position := by
  obtain ⟨leaf, mem, hleaf⟩ := List.exists_of_findSome?_eq_some bad
  exact (exists_leaf_without_value_iff prepared).mp ⟨leaf, mem, hleaf⟩

/-- **Writing a plan fails exactly by its first bad leaf**, whatever the plan, and both styles fail
alike. A prepared plan has a value for every slot if and only if the captured values reach beyond
every position of the predicate: then it never fails by a slot without a value, and otherwise it is
never written. -/
theorem render_badness (plan : Plan) (values : List Bson) :
    (∀ style,
      ((∃ doc, plan.render style values = .ok doc) ↔ plan.badness? values = none) ∧
      ∀ kind, plan.badness? values = some kind →
        ∃ fault, plan.render style values = .error fault ∧ fault.kind = kind) ∧
    (∀ fault, plan.render ⟨true⟩ values = .error fault ↔
      plan.render ⟨false⟩ values = .error fault) ∧
    ∀ definition schema predicate, prepare definition schema predicate = .ok plan →
      ((∀ position ∈ predicate.positions, position < values.length) →
        ∀ style fault, plan.render style values = .error fault → fault.kind ≠ .unresolvedSlot) ∧
      ((∃ position ∈ predicate.positions, values.length ≤ position) →
        ∀ style doc, plan.render style values ≠ .ok doc) := by
  refine ⟨fun style => ⟨exists_render_iff, ?_⟩, ?_, ?_⟩
  · intro kind bad
    rw [← head?_refusals] at bad
    obtain ⟨defect, first, hkind⟩ := Option.map_eq_some_iff.mp bad
    exact ⟨_, render_eq_error_iff.mpr ⟨defect, first, rfl⟩, hkind⟩
  · intro fault
    rw [render_eq_error_iff, render_eq_error_iff]
  · intro definition schema predicate prepared
    constructor
    · intro within style fault fails unresolved
      obtain ⟨defect, refused, rfl⟩ := mapError_eq_error_iff.mp fails
      have bad : plan.badness? values = some .unresolvedSlot :=
        (badness?_of_query refused).trans (congrArg some unresolved)
      obtain ⟨position, mem, beyond⟩ := exists_position_of_badness? prepared bad
      exact absurd (within position mem) (Nat.not_lt.mpr beyond)
    · intro beyond style doc written
      obtain ⟨leaf, mem, bad⟩ := (exists_leaf_without_value_iff prepared).mpr beyond
      have good : plan.badness? values = none := exists_render_iff.mp ⟨doc, written⟩
      rw [List.findSome?_eq_none_iff.mp good leaf mem] at bad
      cases bad

/-- A negative count is reported in either style; without a value for it, nothing is written. -/
theorem render_badness_foo :
    let predicate := Predicate.any
      [Gallery.stringField.eq ⟨0⟩ &&& Gallery.intField.eq ⟨1⟩, Gallery.tags.size ⟨2⟩,
        Gallery.stringField.isIn ⟨0⟩]
    let plan : Plan :=
      ⟨Gallery.dangling.definition,
        .group .disjunction
          [.group .conjunction [.comparison "stringField" .eq ⟨0⟩,
            .comparison "primitiveIntField" .eq ⟨1⟩],
            .size "tags" ⟨2⟩, .membership "stringField" .isIn ⟨3⟩],
        [0, 1, 2, 0]⟩
    let values := [Bson.string "Ann", .int32 3, .int32 (-1)]
    prepare Gallery.dangling.definition Gallery.foo predicate = .ok plan ∧
      (∀ position ∈ predicate.positions, position < values.length) ∧
      plan.badness? values = some .integerUnderflow ∧
      (∀ style, ∃ fault, plan.render style values = .error fault ∧
        fault.kind = .integerUnderflow ∧ fault.kind ≠ .unresolvedSlot) ∧
      (∃ position ∈ predicate.positions, (values.take 2).length ≤ position) ∧
      ∀ style doc, plan.render style (values.take 2) ≠ .ok doc := by
  intro predicate plan values
  have prepared : prepare Gallery.dangling.definition Gallery.foo predicate = .ok plan := by decide
  have within : ∀ position ∈ predicate.positions, position < values.length := by decide
  have beyond : ∃ position ∈ predicate.positions, (values.take 2).length ≤ position := by decide
  have bad : plan.badness? values = some .integerUnderflow := by decide
  obtain ⟨kinds, -, prepares⟩ := render_badness plan values
  obtain ⟨-, -, short⟩ := render_badness plan (values.take 2)
  refine ⟨prepared, within, bad, fun style => ?_, beyond, (short _ _ _ prepared).2 beyond⟩
  obtain ⟨fault, fails, kind⟩ := (kinds style).2 _ bad
  exact ⟨fault, fails, kind, (prepares _ _ _ prepared).1 within style fault fails⟩

end Plan

end PreparedFilter

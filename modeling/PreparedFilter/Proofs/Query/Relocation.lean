import PreparedFilter.Gallery.Filters
import PreparedFilter.Proofs.Preparation.Leaves
import PreparedFilter.Proofs.Query.Steps

/-!
# Where values were captured does not matter

A predicate may be written for values at other positions (`Predicate.relocate`): positions may be
exchanged, and one position may stand for several. As long as every test finds the same value, the
query document is the same, and whatever fails, fails at the same stage by a fault of the same kind
(`Plan.render_relocate`). Only the messages may differ, by the number of captured values.

The two runs are compared step by step (`Alike`). Preparation carries the new positions into the
table and leaves the node as it is, and writing looks at nothing but the values of the slots.
-/

namespace PreparedFilter

namespace Predicate

mutual

/-- The predicate for values at other positions. -/
def relocate (r : Nat → Nat) : Predicate → Predicate
  | .test field op position => .test field op (r position)
  | .element field fields criteria => .element field fields (criteria.relocate r)
  | .group c members => .group c (relocateAll r members)
  | .not inner => .not (inner.relocate r)

/-- The predicates of a list for values at other positions. -/
def relocateAll (r : Nat → Nat) : List Predicate → List Predicate
  | [] => []
  | p :: ps => p.relocate r :: relocateAll r ps

end

/-! ## Preparation -/

/-- The same node or nodes, and the table for the other positions. -/
def Relocated {α : Type} (r : Nat → Nat) (result result' : α × List Nat) : Prop :=
  result'.1 = result.1 ∧ result'.2 = result.2.map r

variable (r : Nat → Nat)

mutual

/-- Preparation does not look at positions: it fails alike, or gives the same node and a table of
the new positions. -/
theorem toNode_relocate : ∀ (p : Predicate) (scope : Schema) (negated : Bool)
    {table table' : List Nat}, table' = table.map r →
      Alike Eq (Relocated r) (p.toNode scope negated table)
        ((p.relocate r).toNode scope negated table')
  | .test field op position, scope, negated, table, _, rfl => by
    rw [relocate, toNode, toNode, List.length_map]
    refine (Alike.refl Eq.refl (scope.resolve field op)).bind fun _ _ _ => ?_
    refine (Alike.refl Eq.refl (Node.leafUnder negated scope.name field op _)).bind ?_
    rintro leaf _ rfl
    refine .ok ⟨rfl, ?_⟩
    rw [List.map_append, List.map_singleton]
  | .element field fields criteria, scope, negated, table, _, htable => by
    rw [relocate, toNode, toNode]
    refine (Alike.refl Eq.refl (scope.resolve field .elemMatch)).bind fun _ _ _ => ?_
    cases negated with
    | true => exact .error rfl
    | false =>
      have below := toNode_relocate criteria ⟨field, fields⟩ false htable
      refine below.bind fun inner inner' same => ?_
      exact .ok ⟨congrArg (Node.element field) same.1, same.2⟩
  | .group c [], scope, negated, table, _, htable => by
    rw [relocate, relocateAll, toNode, toNode]
    exact .error rfl
  | .group c (p :: ps), scope, negated, table, _, htable => by
    rw [relocate, relocateAll, toNode_group (List.cons_ne_nil p ps),
      toNode_group (List.cons_ne_nil _ _)]
    refine (toOperands_relocate (p :: ps) scope negated (c.under negated) htable).bind ?_
    intro nodes nodes' same
    exact .ok ⟨congrArg (Node.join _) same.1, same.2⟩
  | .not inner, scope, negated, table, _, htable => by
    rw [relocate, toNode, toNode]
    exact toNode_relocate inner scope (!negated) htable

theorem toOperands_relocate : ∀ (ps : List Predicate) (scope : Schema) (negated : Bool)
    (joined : Connective) {table table' : List Nat}, table' = table.map r →
      Alike Eq (Relocated r) (toOperands scope negated joined ps table)
        (toOperands scope negated joined (relocateAll r ps) table')
  | [], _, _, _, _, _, htable => by
    rw [relocateAll, toOperands, toOperands]
    exact .ok ⟨rfl, htable⟩
  | p :: ps, scope, negated, joined, table, _, htable => by
    rw [relocateAll, toOperands_cons, toOperands_cons]
    refine (toNode_relocate p scope negated htable).bind fun first first' sameFirst => ?_
    refine (toOperands_relocate ps scope negated joined sameFirst.2).bind fun rest rest' same => ?_
    refine .ok ⟨?_, same.2⟩
    rw [sameFirst.1, same.1]

end

end Predicate

/-! ## Writing -/

/-- Defects that are reported by the same kind. -/
def Defect.SameKind (d d' : Defect) : Prop := d.kind = d'.kind

theorem Defect.SameKind.refl (d : Defect) : d.SameKind d := rfl

/-- Faults of the same kind. -/
def Fault.SameKind (f f' : Fault) : Prop := f.kind = f'.kind

/-- Slots that find the same value, or none, are looked up alike. -/
theorem SlotId.value_alike {plan plan' : Plan} {vs ws : List Bson} {slot : SlotId}
    (same : plan.value? vs slot = plan'.value? ws slot) :
    Alike Defect.SameKind Eq (slot.value plan.slots vs) (slot.value plan'.slots ws) := by
  rw [value_eq, value_eq, same]
  cases plan'.value? ws slot with
  | none => exact .error rfl
  | some v => exact .ok rfl

namespace Node

variable {style : QueryStyle} {value value' : SlotId → Except Defect Bson}

mutual

/-- A node is written alike if its slots are looked up alike. -/
theorem toDocument_alike : ∀ node : Node,
    (∀ slot ∈ node.slots, Alike Defect.SameKind Eq (value slot) (value' slot)) →
      Alike Defect.SameKind Eq (node.toDocument style value) (node.toDocument style value')
  | .comparison field op slot, h => by
    rw [toDocument, toDocument]
    refine (h slot (List.mem_singleton_self slot)).bind ?_
    rintro v _ rfl
    exact .ok rfl
  | .negated field op slot, h => by
    rw [toDocument, toDocument]
    refine (h slot (List.mem_singleton_self slot)).bind ?_
    rintro v _ rfl
    exact .ok rfl
  | .membership field op slot, h => by
    rw [toDocument, toDocument]
    refine (h slot (List.mem_singleton_self slot)).bind ?_
    rintro v _ rfl
    exact .refl Defect.SameKind.refl (membershipDocument field op v)
  | .size field slot, h => by
    rw [toDocument, toDocument]
    refine (h slot (List.mem_singleton_self slot)).bind ?_
    rintro v _ rfl
    exact .refl Defect.SameKind.refl (sizeDocument field v)
  | .element field criteria, h => by
    rw [toDocument, toDocument]
    refine (toDocument_alike criteria h).bind ?_
    rintro inner _ rfl
    exact .ok rfl
  | .group c members, h => by
    rw [toDocument, toDocument]
    -- the choice of the form does not look at values
    split
    · next tests found =>
      split at found
      · obtain ⟨rfl, -⟩ := equalities?_eq_some_iff.mp found
        rw [equalitiesDocument, equalitiesDocument]
        rw [slots, allSlots_ofEquality] at h
        refine (Alike.mapM fun test mem => ?_).bind ?_
        · refine (h test.2 (List.mem_map_of_mem mem)).bind ?_
          rintro v _ rfl
          exact .ok rfl
        · rintro entries _ rfl
          exact .ok rfl
      · cases found
    · refine (toDocuments_alike members h).bind ?_
      rintro docs _ rfl
      exact .ok rfl

theorem toDocuments_alike : ∀ nodes : List Node,
    (∀ slot ∈ allSlots nodes, Alike Defect.SameKind Eq (value slot) (value' slot)) →
      Alike Defect.SameKind Eq (toDocuments style value nodes) (toDocuments style value' nodes)
  | [], _ => by
    rw [toDocuments, toDocuments]
    exact .ok rfl
  | n :: ns, h => by
    rw [allSlots] at h
    rw [toDocuments, toDocuments]
    refine (toDocument_alike n fun slot mem => h slot (List.mem_append_left _ mem)).bind ?_
    rintro first _ rfl
    refine (toDocuments_alike ns fun slot mem => h slot (List.mem_append_right _ mem)).bind ?_
    rintro others _ rfl
    exact .ok rfl

end

end Node

/-! ## Plans -/

namespace Plan

variable {definition definition' : DefinitionId} {schema : Schema} {predicate : Predicate}
  {plan plan' : Plan} {vs ws : List Bson}

/-- Plans of a relocated predicate have the same tree and the relocated slots. -/
theorem prepare_relocate (r : Nat → Nat) (definition definition' : DefinitionId) (schema : Schema)
    (predicate : Predicate) :
    Alike Eq (fun plan plan' : Plan => plan'.root = plan.root ∧ plan'.slots = plan.slots.map r)
      (prepare definition schema predicate)
      (prepare definition' schema (predicate.relocate r)) := by
  refine (Predicate.toNode_relocate r predicate schema false rfl).bind fun result result' same => ?_
  exact .ok same

/-- Plans with the same root are written alike if their slots find the same values. -/
theorem render_alike (root : plan'.root = plan.root)
    (same : ∀ slot ∈ plan.root.slots, plan.value? vs slot = plan'.value? ws slot)
    (style : QueryStyle) :
    Alike Fault.SameKind Eq (plan.render style vs) (plan'.render style ws) := by
  have written : Alike Defect.SameKind Eq (plan.query style vs) (plan'.query style ws) := by
    rw [query, query, root]
    exact Node.toDocument_alike plan.root fun slot mem => SlotId.value_alike (same slot mem)
  exact written.mapError fun _ _ same => same

/-- The slots of a plan find the same values if the written positions do. -/
theorem value?_eq_of_agree (r : Nat → Nat)
    (agree : ∀ position ∈ predicate.positions, vs[position]? = ws[r position]?)
    (prepared : prepare definition schema predicate = .ok plan)
    (slots : plan'.slots = plan.slots.map r) :
    ∀ slot ∈ plan.root.slots, plan.value? vs slot = plan'.value? ws slot := by
  intro slot mem
  rw [slots_root prepared] at mem
  obtain ⟨i, hi, rfl⟩ := List.mem_map.mp mem
  have bound : i < plan.slots.length := List.mem_range.mp hi
  have written : plan.slots[i] ∈ predicate.positions := by
    rw [← slots_eq prepared]
    exact List.getElem_mem bound
  rw [value?, value?, position?, position?, slots, List.getElem?_map,
    List.getElem?_eq_getElem bound]
  exact agree _ written

/-- **Only the values at the leaves matter, not where they were captured.** A predicate with values
and the same predicate for values at other positions are both prepared, or both fail by a defect of
one kind; then both plans are written, as the same document, or both fail by faults of one kind. So
values at positions that are not written change nothing. -/
theorem render_relocate (r : Nat → Nat)
    (agree : ∀ position ∈ predicate.positions, vs[position]? = ws[r position]?)
    (definition definition' : DefinitionId) (schema : Schema) (style : QueryStyle) :
    Alike Defect.SameKind
      (fun plan plan' => Alike Fault.SameKind Eq (plan.render style vs) (plan'.render style ws))
      (prepare definition schema predicate)
      (prepare definition' schema (predicate.relocate r)) ∧
    ∀ (us : List Bson), (∀ position ∈ predicate.positions, us[position]? = vs[position]?) →
      ∀ plan, prepare definition schema predicate = .ok plan →
        Alike Fault.SameKind Eq (plan.render style us) (plan.render style vs) := by
  constructor
  · have prepares := prepare_relocate r definition definition' schema predicate
    generalize hplan : prepare definition schema predicate = result at prepares ⊢
    generalize prepare definition' schema (predicate.relocate r) = result' at prepares ⊢
    cases prepares with
    | error same => exact .error (congrArg Defect.kind same)
    | ok same => exact .ok (render_alike same.1 (value?_eq_of_agree r agree hplan same.2) style)
  · intro us others plan prepared
    have slots : plan.slots = plan.slots.map id := (List.map_id _).symm
    exact render_alike rfl (value?_eq_of_agree id others prepared slots) style

/-- Two positions with equal values move to one that they share, and values that are not written may
change. -/
theorem render_relocate_shared :
    let r := fun position : Nat => if position = 0 then 1 else 0
    let predicate := Predicate.all
      [Gallery.stringField.eq ⟨1⟩, Gallery.enumField.eq ⟨3⟩, Gallery.intField.gt ⟨0⟩]
    let vs := [Bson.int32 3, .string "Ann", .null, .string "Ann"]
    let ws := [Bson.string "Ann", .int32 3]
    let us := [Bson.int32 3, .string "Ann", .bool true, .string "Ann", .null]
    let definition := Gallery.dangling.definition
    (∀ position ∈ predicate.positions, vs[position]? = ws[r position]?) ∧
      (∀ position ∈ predicate.positions, us[position]? = vs[position]?) ∧
      ∃ plan plan' doc, prepare definition Gallery.foo predicate = .ok plan ∧
        prepare definition Gallery.foo (predicate.relocate r) = .ok plan' ∧
        plan.slots = [1, 3, 0] ∧ plan'.slots = [0, 0, 1] ∧
        plan.render .standard vs = .ok doc ∧ plan'.render .standard ws = .ok doc ∧
        plan.render .standard us = .ok doc := by
  intro r predicate vs ws us definition
  have agree : ∀ position ∈ predicate.positions, vs[position]? = ws[r position]? := by decide
  have others : ∀ position ∈ predicate.positions, us[position]? = vs[position]? := by decide
  let root := Node.group .conjunction [.comparison "stringField" .eq ⟨0⟩,
    .comparison "enumFoo" .eq ⟨1⟩, .comparison "primitiveIntField" .gt ⟨2⟩]
  have prepared : prepare definition Gallery.foo predicate = .ok ⟨definition, root, [1, 3, 0]⟩ := by
    decide
  have prepared' : prepare definition Gallery.foo (predicate.relocate r) =
      .ok ⟨definition, root, [0, 0, 1]⟩ := by decide
  obtain ⟨doc, written⟩ : ∃ doc, render ⟨definition, root, [1, 3, 0]⟩ .standard vs = .ok doc :=
    ⟨_, rfl⟩
  obtain ⟨alike, unwritten⟩ :=
    render_relocate r agree definition definition Gallery.foo .standard
  rw [prepared, prepared'] at alike
  cases alike with
  | ok both =>
    have same := (unwritten us others _ prepared).ok_iff.mpr written
    exact ⟨agree, others, _, _, doc, prepared, prepared', rfl, rfl, written, both.ok_iff.mp written,
      same⟩

end Plan

end PreparedFilter

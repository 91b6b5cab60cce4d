import PreparedFilter.Proofs.Planner.Attribution
import PreparedFilter.Proofs.Preparation.FirstFlaw
import PreparedFilter.Proofs.Query.BadLeaves
import PreparedFilter.Proofs.Query.Values

/-!
# Captured values reach their tests

A value goes from its captured position through the table of a plan to a leaf, and the plan may have
been prepared for another instance of the definition. As long as the predicate refers only to the
slots that were handed out (`CapturingFilter.IsClosed`), no slot is left without a value, and every
leaf shows the captured value that its test was written for (`Planner.Reached.encode_toFilter`).
-/

namespace PreparedFilter

namespace Captures

variable {captured : List Datum} {values : List Bson}

theorem length_values (encoded : Captures.values captured = .ok values) :
    values.length = captured.length :=
  (mapM_eq_ok_iff.mp encoded).length_eq.symm

/-- The value at an index is the encoded captured value at this index. -/
theorem exists_of_getElem?_values (encoded : Captures.values captured = .ok values) {i : Nat}
    {v : Bson} (h : values[i]? = some v) :
    ∃ datum, captured[i]? = some datum ∧ datum.encodeValue = .ok v := by
  have each := mapM_eq_ok_iff.mp encoded
  obtain ⟨bound, rfl⟩ := List.getElem?_eq_some_iff.mp h
  have bound' : i < captured.length := each.length_eq ▸ bound
  have same := (List.forall₂_iff_get.mp each).2 i bound' bound
  exact ⟨captured[i], List.getElem?_eq_getElem bound', same⟩

/-- A captured value that cannot be encoded is a fault of encoding. -/
theorem kind_of_values {fault : Fault} (h : Captures.values captured = .error (.fault fault)) :
    fault.kind = .bsonEncoding := by
  obtain ⟨datum, -, fails⟩ := exists_mem_of_mapM_eq_error h
  obtain ⟨failure, -, reported⟩ := mapError_eq_error_iff.mp fails
  cases failure with
  | refused refusal =>
    cases reported
    rfl
  | abort => cases reported

end Captures

namespace CapturingFilter

/-- Whether the predicate refers only to the slots of the captured values. -/
def IsClosed (f : CapturingFilter) : Prop :=
  ∀ position ∈ f.predicate.positions, Slot.mk position ∈ Captures.slots f.captures.length

instance (f : CapturingFilter) : Decidable f.IsClosed :=
  inferInstanceAs (Decidable (∀ position ∈ f.predicate.positions, _))

/-- A slot of a plan stands for a captured value, which has the given encoding. -/
def Holds (f : CapturingFilter) (plan : Plan) (slot : SlotId) (v : Bson) : Prop :=
  ∃ (position : Nat) (capture : Capture), plan.position? slot = some position ∧
    f.captures[position]? = some capture ∧ capture.datum.encodeValue = .ok v

/-- Filters that the same function makes from as many captured values agree. -/
theorem agree_toFilter {f g : CapturingFilter} (schema : f.schema = g.schema)
    (build : f.build = g.build) (arity : f.captures.length = g.captures.length) :
    f.toFilter.Agree g.toFilter := by
  intro _
  refine ⟨schema, ?_⟩
  show f.build (Captures.slots f.captures.length) = g.build (Captures.slots g.captures.length)
  rw [build, arity]

variable {f : CapturingFilter} {plan : Plan} {values : List Bson}

/-- A closed filter captures a value for every position that its predicate writes. -/
theorem lt_length_of_isClosed (closed : f.IsClosed) {position : Nat}
    (mem : position ∈ f.predicate.positions) : position < f.captures.length := by
  obtain ⟨i, hi, same⟩ := List.mem_map.mp (closed position mem)
  cases same
  exact List.mem_range.mp hi

/-- The value of a slot is the captured one that it stands for. -/
theorem holds_of_value (captured : f.values = .ok values) {slot : SlotId} {v : Bson}
    (h : slot.value plan.slots values = .ok v) : f.Holds plan slot v := by
  rw [SlotId.value_eq_ok_iff, Plan.value?] at h
  obtain ⟨position, hposition, found⟩ := Option.bind_eq_some_iff.mp h
  obtain ⟨datum, hdatum, encoded⟩ := Captures.exists_of_getElem?_values captured found
  rw [List.getElem?_map] at hdatum
  obtain ⟨capture, hcapture, rfl⟩ := Option.map_eq_some_iff.mp hdatum
  exact ⟨position, capture, hposition, hcapture, encoded⟩

/-- Whatever a closed filter fails by, it is not a slot without a value. -/
theorem kind_ne_of_failsBy (closed : f.IsClosed) {style : QueryStyle} {cause : Fault}
    (fails : f.toFilter.FailsBy style cause) : cause.kind ≠ .unresolvedSlot := by
  cases fails with
  | definition defect refused =>
    intro unresolved
    rcases Plan.kind_of_prepare refused with kind | kind
    · exact absurd (kind.symm.trans unresolved) (by decide)
    · exact absurd (kind.symm.trans unresolved) (by decide)
  | values plan _ prepared refused =>
    rw [Captures.kind_of_values refused]
    decide
  | query plan values defect prepared captured refused =>
    intro unresolved
    have bad : plan.badness? values = some .unresolvedSlot :=
      (Plan.badness?_of_query refused).trans (congrArg some unresolved)
    obtain ⟨position, mem, beyond⟩ := Plan.exists_position_of_badness? prepared bad
    -- a closed predicate writes no position beyond the captured values
    have length : values.length = f.captures.length :=
      (Captures.length_values captured).trans (List.length_map _)
    have within : position < values.length := length ▸ lt_length_of_isClosed closed mem
    exact absurd within (Nat.not_lt.mpr beyond)

end CapturingFilter

namespace Planner

variable {filters : List Filter} {p : Planner}

/-- **Captured values reach their tests.** A closed filter never fails by a slot without a value,
whatever the planner was asked before. If it is encoded, then by a plan whose leaves are the tests
of the predicate, in order, each with a slot that stands for the written position, and the document
shows the values that this very filter captured at these positions. -/
theorem Reached.encode_toFilter (reached : Reached filters p) (f : CapturingFilter)
    (agree : ∀ g ∈ filters, g.Agree f.toFilter) (closed : f.IsClosed) (codec : FilterCodec) :
    (∀ fault, (codec.encode p f.toFilter).2 = .error (.fault fault) →
      fault.kind ≠ .unresolvedSlot) ∧
    ∀ doc, (codec.encode p f.toFilter).2 = .ok doc →
      ∃ plan, f.toFilter.prepare = .ok plan ∧
        plan.root.leaves [] = Leaf.numbered 0 (f.predicate.leaves [] false) ∧
        plan.slots = (f.predicate.leaves [] false).map Leaf.slot ∧
        plan.root.Shows (f.Holds plan) doc := by
  constructor
  · intro fault fails
    obtain ⟨cause, hcause, named⟩ := (reached.encode_eq_fault_iff agree codec).mp fails
    rw [named.kind]
    exact CapturingFilter.kind_ne_of_failsBy closed hcause
  · intro doc encoded
    rw [reached.encode_eq agree] at encoded
    obtain ⟨plan, lifted, rendered⟩ := bind_eq_ok_iff.mp encoded
    have hprepare := mapError_eq_ok_iff.mp lifted
    have prepared := Filter.prepare_eq_ok_iff.mp hprepare
    obtain ⟨values, hvalues, hrender⟩ := bind_eq_ok_iff.mp rendered
    have captured : f.values = .ok values := mapError_eq_ok_iff.mp hvalues
    have written := Plan.render_eq_ok_iff.mp (mapError_eq_ok_iff.mp hrender)
    refine ⟨plan, hprepare, Plan.leaves_root prepared, ?_, ?_⟩
    · exact (Plan.slots_eq prepared).trans (Predicate.map_slot_leaves _ [] false).symm
    · exact Node.shows_toDocument (fun _ _ => CapturingFilter.holds_of_value captured) _ written

/-- A filter whose plan was kept for one with other values, and a filter that fails by its negative
count. -/
theorem encode_toFilter_complex :
    let asked := Gallery.complex "Ann" true ⟨0x3ff8000000000000⟩ "Rome" 2
    let f := Gallery.complex "Bob" false ⟨0xc000000000000000⟩ "Oslo" 5
    let refused := Gallery.complex "Cid" true ⟨0x3ff8000000000000⟩ "Bonn" (-1)
    let p := (new .standard).run [.analyze asked.toFilter]
    let codec : FilterCodec := ⟨Gallery.foo, .standard⟩
    Reached [asked.toFilter] p ∧ p.cache.contains f.definition ∧ f.IsClosed ∧ refused.IsClosed ∧
      (∃ doc plan, (codec.encode p f.toFilter).2 = .ok doc ∧ f.toFilter.prepare = .ok plan ∧
        plan.slots = [0, 1, 2, 3, 3, 4] ∧ plan.root.Shows (f.Holds plan) doc) ∧
      ∃ fault, (codec.encode p refused.toFilter).2 = .error (.fault fault) ∧
        fault.kind ≠ .unresolvedSlot := by
  intro asked f refused p codec
  have reached : Reached [asked.toFilter] p :=
    (Reached.new .standard).run [.analyze asked.toFilter]
  have agree : ∀ g ∈ [asked.toFilter], g.Agree f.toFilter :=
    List.forall_mem_singleton.mpr (CapturingFilter.agree_toFilter rfl rfl rfl)
  have agreeRefused : ∀ g ∈ [asked.toFilter], g.Agree refused.toFilter :=
    List.forall_mem_singleton.mpr (CapturingFilter.agree_toFilter rfl rfl rfl)
  have closed : f.IsClosed := by decide
  have closedRefused : refused.IsClosed := by decide
  obtain ⟨doc, hdoc⟩ : ∃ doc, (codec.encode p f.toFilter).2 = .ok doc := ⟨_, rfl⟩
  obtain ⟨fault, hfault⟩ :
      ∃ fault, (codec.encode p refused.toFilter).2 = .error (.fault fault) := ⟨_, rfl⟩
  obtain ⟨plan, prepared, -, slots, shows⟩ :=
    (reached.encode_toFilter f agree closed codec).2 doc hdoc
  have resolved := (reached.encode_toFilter refused agreeRefused closedRefused codec).1 fault hfault
  exact ⟨reached, rfl, closed, closedRefused, ⟨doc, plan, hdoc, prepared, slots, shows⟩,
    fault, hfault, resolved⟩

end Planner

end PreparedFilter

import PreparedFilter.Collection
import PreparedFilter.Proofs.Planner.Reached
import PreparedFilter.Proofs.Preparation.Steps

/-!
# Attributed faults

A filter may fail by its definition, by its captured values or in writing its query document, and
the first of these counts (`Filter.FailsBy`). Whoever prepared the plan, and whether it was kept or
not, the fault that the caller sees is this one with the definition of the filter named on it
(`Fault.Attributes`), and a request to a server puts one level in front of that (`Fault.Wraps`).
`Planner.Reached.encode_fault` has all of it, together with what a refused definition leaves of the
planner.
-/

namespace PreparedFilter

/-! ## Faults -/

namespace Fault

/-- The fault that names a definition on its outermost level, and is the given one otherwise. -/
structure Attributes (fault : Fault) (id : DefinitionId) (cause : Fault) : Prop where
  definition : fault.definition = some id
  kind : fault.kind = cause.kind
  message : fault.message = cause.message
  trace : fault.outer.ownsTrace = cause.outer.ownsTrace
  causes : fault.causes = cause.causes
  origin : fault.origin = cause.origin

/-- The fault that has one more level than the given one. It names no definition itself. -/
structure Wraps (fault : Fault) (message : String) (inner : Fault) : Prop where
  kind : fault.kind = inner.kind
  message : fault.message = message
  definition : fault.definition = none
  causes : fault.causes = inner.levels
  origin : fault.origin = inner.origin

variable {fault cause : Fault} {id : DefinitionId}

/-- Naming a definition on the outermost level, and nothing else, makes the attributed fault. -/
theorem attributes_iff : fault.Attributes id cause ↔ fault = cause.withDefinition id := by
  constructor
  · intro h
    obtain ⟨⟨kind, message, definition, ownsTrace⟩, causes, origin⟩ := fault
    obtain ⟨hdefinition, hkind, hmessage, htrace, hcauses, horigin⟩ := h
    cases hdefinition
    cases hkind
    cases hmessage
    cases htrace
    cases hcauses
    cases horigin
    rfl
  · rintro rfl
    exact ⟨rfl, rfl, rfl, rfl, rfl, rfl⟩

theorem chain_wraps (fault : Fault) (message : String) :
    (fault.chain message).Wraps message fault := ⟨rfl, rfl, rfl, rfl, rfl⟩

end Fault

/-! ## What a filter fails by -/

namespace Filter

/-- A filter fails by a fault: by a defect of its definition, by a fault of its captured values, or
by a defect of the query document, each only if nothing before it fails. -/
inductive FailsBy (style : QueryStyle) (filter : Filter) : Fault → Prop where
  | definition (defect : Defect)
      (refused : Plan.prepare filter.definition filter.schema filter.predicate = .error defect) :
      FailsBy style filter (.ofDefect defect)
  | values (plan : Plan) (cause : Fault)
      (prepared : Plan.prepare filter.definition filter.schema filter.predicate = .ok plan)
      (refused : filter.values = .error (.fault cause)) : FailsBy style filter cause
  | query (plan : Plan) (values : List Bson) (defect : Defect)
      (prepared : Plan.prepare filter.definition filter.schema filter.predicate = .ok plan)
      (captured : filter.values = .ok values)
      (refused : plan.query style values = .error defect) : FailsBy style filter (.ofDefect defect)

variable {filter : Filter} {style : QueryStyle} {plan : Plan} {fault : Fault}

/-- A filter whose preparation meets a defect reports it with its own definition. -/
theorem prepare_eq_error_iff :
    filter.prepare = .error fault ↔
      ∃ defect, Plan.prepare filter.definition filter.schema filter.predicate = .error defect ∧
        fault.Attributes filter.definition (.ofDefect defect) := by
  rw [prepare, mapError_eq_error_iff]
  simp only [Fault.attributes_iff, eq_comm]

theorem prepare_eq_ok_iff :
    filter.prepare = .ok plan ↔
      Plan.prepare filter.definition filter.schema filter.predicate = .ok plan :=
  mapError_eq_ok_iff

end Filter

/-- A plan fails by the captured values, or in writing the query document, and its definition is
named. -/
theorem Plan.renderFilter_eq_fault_iff {plan : Plan} {style : QueryStyle} {filter : Filter}
    {fault : Fault} :
    plan.renderFilter style filter = .error (.fault fault) ↔
      (∃ cause, filter.values = .error (.fault cause) ∧ fault.Attributes plan.definition cause) ∨
      (∃ values defect, filter.values = .ok values ∧ plan.query style values = .error defect ∧
        fault.Attributes plan.definition (.ofDefect defect)) := by
  rw [renderFilter, bind_eq_error_iff]
  simp only [mapError_eq_error_iff, mapError_eq_ok_iff, Fault.attributes_iff]
  constructor
  · rintro (⟨failure, hvalues, named⟩ | ⟨values, hvalues, fails⟩)
    · cases failure with
      | fault cause =>
        cases named
        exact .inl ⟨cause, hvalues, rfl⟩
      | abort => cases named
    · obtain ⟨_, hrender, lifted⟩ := mapError_eq_error_iff.mp fails
      obtain ⟨defect, hquery, named⟩ := mapError_eq_error_iff.mp hrender
      cases lifted
      exact .inr ⟨values, defect, hvalues, hquery, named.symm⟩
  · rintro (⟨cause, hvalues, rfl⟩ | ⟨values, defect, hvalues, hquery, rfl⟩)
    · exact .inl ⟨.fault cause, hvalues, rfl⟩
    · refine .inr ⟨values, hvalues, ?_⟩
      rw [render, hquery]
      rfl

namespace Planner

variable {filters : List Filter} {p : Planner}

/-- The answer of a codec is a fault exactly if the filter fails by one, which then has the
definition of the filter named on it. -/
theorem Reached.encode_eq_fault_iff (reached : Reached filters p) {filter : Filter}
    (agree : ∀ g ∈ filters, g.Agree filter) (codec : FilterCodec) {fault : Fault} :
    (codec.encode p filter).2 = .error (.fault fault) ↔
      ∃ cause, filter.FailsBy codec.style cause ∧ fault.Attributes filter.definition cause := by
  rw [reached.encode_eq agree, bind_eq_error_iff]
  constructor
  · rintro (refused | ⟨plan, prepared, fails⟩)
    · obtain ⟨_, hprepare, lifted⟩ := mapError_eq_error_iff.mp refused
      cases lifted
      obtain ⟨defect, hdefect, named⟩ := Filter.prepare_eq_error_iff.mp hprepare
      exact ⟨.ofDefect defect, .definition defect hdefect, named⟩
    · have hplan := Filter.prepare_eq_ok_iff.mp (mapError_eq_ok_iff.mp prepared)
      -- the plan is named for the filter, whoever it was prepared for
      have same := (Plan.prepare_eq_ok_iff.mp hplan).2
      rw [Plan.renderFilter_eq_fault_iff, same] at fails
      rcases fails with ⟨cause, hvalues, named⟩ | ⟨values, defect, hvalues, hquery, named⟩
      · exact ⟨cause, .values plan cause hplan hvalues, named⟩
      · exact ⟨.ofDefect defect, .query plan values defect hplan hvalues hquery, named⟩
  · rintro ⟨cause, fails, named⟩
    have lift {plan : Plan} (h : Plan.prepare filter.definition filter.schema filter.predicate =
        .ok plan) : Failure.lift filter.prepare = .ok plan ∧ plan.definition = filter.definition :=
      ⟨mapError_eq_ok_iff.mpr (Filter.prepare_eq_ok_iff.mpr h), (Plan.prepare_eq_ok_iff.mp h).2⟩
    cases fails with
    | definition defect refused =>
      have hprepare := Filter.prepare_eq_error_iff.mpr ⟨defect, refused, named⟩
      exact .inl (mapError_eq_error_iff.mpr ⟨fault, hprepare, rfl⟩)
    | values plan _ prepared refused =>
      obtain ⟨hplan, same⟩ := lift prepared
      rw [← same] at named
      exact .inr ⟨plan, hplan,
        Plan.renderFilter_eq_fault_iff.mpr (.inl ⟨cause, refused, named⟩)⟩
    | query plan values defect prepared captured refused =>
      obtain ⟨hplan, same⟩ := lift prepared
      rw [← same] at named
      exact .inr ⟨plan, hplan,
        Plan.renderFilter_eq_fault_iff.mpr (.inr ⟨values, defect, captured, refused, named⟩)⟩

/-- A refused definition costs one miss, and changes nothing else. -/
theorem planFor_fst_of_error {filter : Filter} {fault : Fault}
    (refused : (p.planFor filter).2 = .error fault) :
    (p.planFor filter).1 = { p with misses := p.misses + 1 } := by
  have outcome := planFor_planFor p filter
  generalize p.planFor filter = result at outcome refused
  cases outcome with
  | kept => cases refused
  | defect => rfl
  | full => cases refused
  | room => cases refused

end Planner

/-- A request whose filter cannot be encoded sends nothing, and wraps the fault once. -/
theorem CollectionRequest.exists_send_eq {cursor : Type} (request : CollectionRequest)
    (server : Document → Except Origin (request.Reply cursor)) {codec : FilterCodec} {p : Planner}
    {filter : Filter} {fault : Fault} (fails : (codec.encode p filter).2 = .error (.fault fault))
    (shown : String) :
    ∃ outer, request.send server codec p filter shown =
        ((codec.encode p filter).1, .error (.fault outer)) ∧
      outer.Wraps ("can't encode filter for " ++ codec.schema.name ++ "::" ++ request.text)
        fault := by
  refine ⟨_, ?_, fault.chain_wraps _⟩
  unfold send queryDocument
  generalize codec.encode p filter = encoded at fails ⊢
  obtain ⟨p', answer⟩ := encoded
  cases fails
  rfl

namespace Planner

variable {filters : List Filter} {p : Planner}

/-- **Faults are attributed, and a refused definition leaves nothing but a miss.** In every reached
planner, the answer is a fault exactly if the filter fails by its definition, its values or its
query document, in this order, and the fault names the definition of this filter on the outermost
level. A refused definition leaves the cache and the hits as they are. A request to a server wraps
the fault exactly once, names the schema and itself, and names no definition on that level. -/
theorem Reached.encode_fault (reached : Reached filters p) (filter : Filter)
    (agree : ∀ g ∈ filters, g.Agree filter) (codec : FilterCodec) :
    (∀ fault, (codec.encode p filter).2 = .error (.fault fault) ↔
      ∃ cause, filter.FailsBy codec.style cause ∧ fault.Attributes filter.definition cause) ∧
    (∀ fault, (p.planFor filter).2 = .error fault →
      (p.planFor filter).1 = { p with misses := p.misses + 1 } ∧
        codec.encode p filter = ({ p with misses := p.misses + 1 }, .error (.fault fault))) ∧
    ∀ (cursor : Type) (request : CollectionRequest)
      (server : Document → Except Origin (request.Reply cursor)) (shown : String) (fault : Fault),
      (codec.encode p filter).2 = .error (.fault fault) →
        ∃ outer, request.send server codec p filter shown =
            ((codec.encode p filter).1, .error (.fault outer)) ∧
          outer.Wraps ("can't encode filter for " ++ codec.schema.name ++ "::" ++ request.text)
            fault := by
  refine ⟨fun fault => reached.encode_eq_fault_iff agree codec, ?_, ?_⟩
  · intro fault refused
    have missed := planFor_fst_of_error refused
    refine ⟨missed, Prod.ext ((encode_fst p codec.style filter).trans missed) ?_⟩
    show (p.encode codec.style filter).2 = _
    rw [encode_snd, refused]
    rfl
  · intro cursor request server shown fault fails
    exact request.exists_send_eq server fails shown

/-- A filter whose values fail while its plan is kept, and one whose definition is refused. -/
theorem encode_fault_both :
    let asked := (Gallery.both "Ann" 3).toFilter
    let cause := (Fault.new .bsonEncoding "no value").withDefinition Gallery.dangling.definition
    let filter : Filter := { (Gallery.both "Bob" 4).toFilter with values := .error (.fault cause) }
    let refused := (Gallery.flagGt true).toFilter
    let p := (new .standard).run [.analyze asked]
    let codec : FilterCodec := ⟨Gallery.foo, .standard⟩
    Reached [asked] p ∧ p.cache.contains filter.definition ∧
      (∃ fault, (codec.encode p filter).2 = .error (.fault fault) ∧
        fault.Attributes filter.definition cause ∧
        ∃ outer, CollectionRequest.findMatching.send (fun _ => .ok ()) codec p filter "both" =
            ((codec.encode p filter).1, .error (.fault outer)) ∧
          outer.Wraps "can't encode filter for Foo::find_matching" fault) ∧
      ∃ fault, (p.planFor refused).2 = .error fault ∧
        (p.planFor refused).1 = { p with misses := p.misses + 1 } := by
  intro asked cause filter refused p codec
  have reached : Reached [asked] p := (Reached.new .standard).run [.analyze asked]
  have agree : ∀ g ∈ [asked], g.Agree filter := by decide
  have fails : filter.FailsBy codec.style cause :=
    .values ⟨filter.definition, .group .conjunction
      [.comparison "stringField" .eq ⟨0⟩, .comparison "primitiveIntField" .eq ⟨1⟩], [0, 1]⟩
      cause rfl rfl
  obtain ⟨answers, -, wraps⟩ := reached.encode_fault filter agree codec
  have answer := (answers (cause.withDefinition filter.definition)).mpr
    ⟨cause, fails, Fault.attributes_iff.mpr rfl⟩
  have agreeRefused : ∀ g ∈ [asked], g.Agree refused := by decide
  obtain ⟨fault, hfault⟩ : ∃ fault, (p.planFor refused).2 = .error fault := ⟨_, rfl⟩
  exact ⟨reached, rfl,
    ⟨_, answer, Fault.attributes_iff.mpr rfl, wraps Unit .findMatching _ "both" _ answer⟩,
    fault, hfault, ((reached.encode_fault refused agreeRefused codec).2.1 fault hfault).1⟩

end Planner

end PreparedFilter

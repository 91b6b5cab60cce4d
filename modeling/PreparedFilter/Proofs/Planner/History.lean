import PreparedFilter.Codec

/-!
# Histories of a planner

A planner is used by any number of codecs, and by callers that only want a plan. `Request` lists
what it may be asked, and `Planner.run` answers a history of requests, one after the other.

What a request for a plan does depends on the cache, on the preparation and on the limit. There are
four cases (`PlanFor`), and no later proof opens the request itself.
-/

namespace PreparedFilter

/-! ## The cache -/

namespace PlanCache

variable {c : PlanCache} {id id' : DefinitionId} {issued : Issued}

/-- Looking up in a longer cache. -/
theorem get?_append :
    (PlanCache.mk (c.entries ++ [(id, issued)])).get? id' =
      (c.get? id').or (if id' = id then some issued else none) := by
  unfold get?
  rw [List.lookup_append]
  by_cases h : id' = id
  · rw [h, if_pos rfl, List.lookup_cons_self]
  · rw [if_neg h, List.lookup_cons, beq_eq_false_iff_ne.mpr h]
    rfl

theorem get?_eq_none_iff : c.get? id = none ↔ id ∉ c.ids := by
  rw [get?, List.lookup_eq_none_iff, ids, List.mem_map]
  constructor
  · rintro absent ⟨entry, hmem, rfl⟩
    exact bne_iff_ne.mp (absent entry hmem) rfl
  · intro absent entry hmem
    exact bne_iff_ne.mpr fun same => absent ⟨entry, hmem, same.symm⟩

theorem mem_ids_iff : id ∈ c.ids ↔ ∃ issued, c.get? id = some issued := by
  rw [← Option.ne_none_iff_exists', ne_eq, get?_eq_none_iff, Classical.not_not]

theorem contains_iff : c.contains id = true ↔ id ∈ c.ids := by
  rw [contains, Option.isSome_iff_exists, mem_ids_iff]

theorem contains_of_absent (absent : c.get? id = none) : c.contains id = false := by
  rw [contains, absent]
  rfl

theorem ids_append (c : PlanCache) (id : DefinitionId) (issued : Issued) :
    (PlanCache.mk (c.entries ++ [(id, issued)])).ids = c.ids ++ [id] := List.map_append

theorem size_eq_length_ids (c : PlanCache) : c.size = c.ids.length :=
  (List.length_map Prod.fst).symm

end PlanCache

/-! ## One request for a plan -/

namespace Planner

variable {p : Planner} {filter : Filter}

theorem isFull_eq_true_iff {limit : UInt64} (limited : p.options.limit = some limit) :
    p.isFull = true ↔ limit.toNat ≤ p.cache.size := by
  rw [isFull, limited, decide_eq_true_iff]

theorem isFull_eq_false_iff {limit : UInt64} (limited : p.options.limit = some limit) :
    p.isFull = false ↔ p.cache.size < limit.toNat := by
  rw [← Bool.not_eq_true, isFull_eq_true_iff limited, Nat.not_le]

/-- A plan for a definition that has none is put behind the others. -/
theorem keep_of_absent {id : DefinitionId} (h : p.cache.get? id = none) (issued : Issued) :
    p.keep id issued = ({ p with cache := ⟨p.cache.entries ++ [(id, issued)]⟩ }, issued) := by
  unfold keep PlanCache.getOrInsert
  rw [h]

theorem planFor_of_kept {kept : Issued} (h : p.cache.get? filter.definition = some kept) :
    p.planFor filter = (p.countHit, .ok kept) := by
  unfold planFor
  rw [h]

/-- A definition that cannot be prepared costs a miss, and leaves nothing in the cache. -/
theorem planFor_of_defect {fault : Fault} (h : p.cache.get? filter.definition = none)
    (defect : filter.prepare = .error fault) : p.planFor filter = (p.countMiss, .error fault) := by
  unfold planFor
  rw [h, defect]

/-- Behind a full cache, a plan is handed out without being kept. -/
theorem planFor_of_full {plan : Plan} (h : p.cache.get? filter.definition = none)
    (prepared : filter.prepare = .ok plan) (full : p.isFull = true) :
    p.planFor filter = ((p.countMiss.issue plan).1, .ok ⟨p.prepared, plan⟩) := by
  unfold planFor
  rw [h, prepared]
  exact if_pos full

/-- With room in the cache, a new plan is kept and handed out. -/
theorem planFor_of_room {plan : Plan} (h : p.cache.get? filter.definition = none)
    (prepared : filter.prepare = .ok plan) (room : p.isFull = false) :
    p.planFor filter =
      ({ (p.countMiss.issue plan).1 with
          cache := ⟨p.cache.entries ++ [(filter.definition, ⟨p.prepared, plan⟩)]⟩ },
        .ok ⟨p.prepared, plan⟩) := by
  -- to count and to number a plan touches neither the limit nor the cache
  have hroom : ¬ (p.countMiss.issue plan).1.isFull = true := fun full => by
    rw [show (p.countMiss.issue plan).1.isFull = p.isFull from rfl, room] at full
    cases full
  have hkeep := keep_of_absent (p := (p.countMiss.issue plan).1) h ⟨p.prepared, plan⟩
  unfold planFor
  rw [h, prepared]
  exact (if_neg hroom).trans (congrArg (fun kept => (kept.1, Except.ok kept.2)) hkeep)

/-- What a request for a plan can come to. -/
inductive PlanFor (p : Planner) (filter : Filter) : Planner × Except Fault Issued → Prop where
  /-- It finds a plan. -/
  | kept (kept : Issued) (present : p.cache.get? filter.definition = some kept) :
      PlanFor p filter (p.countHit, .ok kept)
  /-- It finds none, and the definition has a defect. -/
  | defect (fault : Fault) (absent : p.cache.get? filter.definition = none)
      (prepared : filter.prepare = .error fault) : PlanFor p filter (p.countMiss, .error fault)
  /-- It finds none, and there is no room for the new one. -/
  | full (plan : Plan) (absent : p.cache.get? filter.definition = none)
      (prepared : filter.prepare = .ok plan) (full : p.isFull = true) :
      PlanFor p filter ((p.countMiss.issue plan).1, .ok ⟨p.prepared, plan⟩)
  /-- It finds none, and the new one is kept. -/
  | room (plan : Plan) (absent : p.cache.get? filter.definition = none)
      (prepared : filter.prepare = .ok plan) (room : p.isFull = false) :
      PlanFor p filter
        ({ (p.countMiss.issue plan).1 with
            cache := ⟨p.cache.entries ++ [(filter.definition, ⟨p.prepared, plan⟩)]⟩ },
          .ok ⟨p.prepared, plan⟩)

/-- What a request does is one of the four outcomes. -/
theorem planFor_planFor (p : Planner) (filter : Filter) : PlanFor p filter (p.planFor filter) := by
  cases hget : p.cache.get? filter.definition with
  | some kept =>
    rw [planFor_of_kept hget]
    exact .kept kept hget
  | none =>
    cases hprepare : filter.prepare with
    | error fault =>
      rw [planFor_of_defect hget hprepare]
      exact .defect fault hget hprepare
    | ok plan =>
      cases hfull : p.isFull with
      | true =>
        rw [planFor_of_full hget hprepare hfull]
        exact .full plan hget hprepare hfull
      | false =>
        rw [planFor_of_room hget hprepare hfull]
        exact .room plan hget hprepare hfull

/-- The plan that a request obtains: the kept one if there is one, else what preparation gives. -/
theorem planFor_plan (p : Planner) (filter : Filter) :
    (p.planFor filter).2.map Issued.plan =
      match p.cache.get? filter.definition with
      | some kept => .ok kept.plan
      | none => filter.prepare := by
  have outcome := planFor_planFor p filter
  generalize p.planFor filter = result at outcome
  cases outcome with
  | kept kept present =>
    rw [present]
    rfl
  | defect fault absent prepared =>
    rw [absent, prepared]
    rfl
  | full plan absent prepared _ =>
    rw [absent, prepared]
    rfl
  | room plan absent prepared _ =>
    rw [absent, prepared]
    rfl

/-- What a request leaves in the cache: what was there, or its own plan behind that. -/
theorem planFor_cache (p : Planner) (filter : Filter) :
    (p.planFor filter).1.cache = p.cache ∨
      ∃ plan, filter.prepare = .ok plan ∧ (p.planFor filter).1.cache =
        ⟨p.cache.entries ++ [(filter.definition, ⟨p.prepared, plan⟩)]⟩ := by
  have outcome := planFor_planFor p filter
  generalize p.planFor filter = result at outcome
  cases outcome with
  | kept => exact .inl rfl
  | defect => exact .inl rfl
  | full => exact .inl rfl
  | room plan _ prepared _ => exact .inr ⟨plan, prepared, rfl⟩

/-- A request for a query document asks for a plan, and leaves the planner as that does. -/
theorem encode_fst (p : Planner) (style : QueryStyle) (filter : Filter) :
    (p.encode style filter).1 = (p.planFor filter).1 := by
  unfold encode
  rcases p.planFor filter with ⟨p', fault | issued⟩
  · rfl
  · rfl

/-- The answer of a request for a query document depends on the planner through the plan alone. -/
theorem encode_snd (p : Planner) (style : QueryStyle) (filter : Filter) :
    (p.encode style filter).2 = (do
      let plan ← Failure.lift ((p.planFor filter).2.map Issued.plan)
      plan.renderFilter style filter) := by
  unfold encode
  rcases p.planFor filter with ⟨p', fault | issued⟩
  · rfl
  · rfl

end Planner

/-! ## Histories -/

/-- What a planner may be asked. -/
inductive Request where
  /-- The plan for a filter. -/
  | analyze (filter : Filter)
  /-- The query document of a filter, by one of the codecs that share the planner. -/
  | encode (codec : FilterCodec) (filter : Filter)
  | clear
  | resetCounters

/-- The filter that a request is about, if it is about one. -/
def Request.filter? : Request → Option Filter
  | analyze filter => some filter
  | encode _ filter => some filter
  | clear => none
  | resetCounters => none

namespace Planner

/-- The planner after a request. -/
def after (p : Planner) : Request → Planner
  | .analyze filter => (p.planFor filter).1
  | .encode codec filter => (codec.encode p filter).1
  | .clear => p.clear
  | .resetCounters => p.resetCounters

/-- The planner after a history of requests. -/
def run (p : Planner) (history : List Request) : Planner := history.foldl after p

theorem run_cons (p : Planner) (request : Request) (history : List Request) :
    p.run (request :: history) = (p.after request).run history := rfl

theorem run_append (p : Planner) (before since : List Request) :
    p.run (before ++ since) = (p.run before).run since := List.foldl_append

/-- What every request keeps, for the filters asked about so far, a history keeps. -/
theorem run_induction {P : List Filter → Planner → Prop}
    (kept : ∀ filters p request, P filters p →
      P (filters ++ request.filter?.toList) (p.after request))
    {filters : List Filter} {p : Planner} (h : P filters p) (history : List Request) :
    P (filters ++ history.filterMap Request.filter?) (p.run history) := by
  induction history generalizing p filters with
  | nil =>
    rw [List.filterMap_nil, List.append_nil]
    exact h
  | cons request history ih =>
    have rest := ih (kept filters p request h)
    rw [List.append_assoc] at rest
    rw [run_cons]
    cases hfilter : request.filter? with
    | none =>
      rw [hfilter] at rest
      rw [List.filterMap_cons_none hfilter]
      exact rest
    | some filter =>
      rw [hfilter] at rest
      rw [List.filterMap_cons_some hfilter]
      exact rest

/-- A request about a filter leaves the planner as the request for its plan does. -/
theorem after_of_filter? {p : Planner} {request : Request} {filter : Filter}
    (h : request.filter? = some filter) : p.after request = (p.planFor filter).1 := by
  cases request with
  | analyze _ =>
    cases h
    rfl
  | encode codec _ =>
    cases h
    exact encode_fst p codec.style filter
  | clear => cases h
  | resetCounters => cases h

end Planner

end PreparedFilter

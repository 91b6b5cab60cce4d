import Mathlib.Data.List.Nodup
import PreparedFilter.Planner.Crew
import PreparedFilter.Proofs.Planner.History

/-!
# Steps and moves of a crew

What one step of a call can do (`Call.Step`), what one move of a crew can do (`Crew.Moved`), and the
two ways of reasoning about schedules that rest on them.

* What every move of a schedule keeps, the schedule keeps (`Crew.run_induction`).
* What is known of each call may depend on the planner, which the steps of the other calls change.
  It holds along a schedule if the steps of a call establish it and the steps of all calls respect
  it (`Crew.Serving.run`).

No later proof opens a step or a move.
-/

namespace PreparedFilter

/-! ## Keeping a plan -/

namespace Planner

variable {p : Planner} {id : DefinitionId}

/-- A plan for a definition that has one is dropped. -/
theorem keep_of_present {kept : Issued} (h : p.cache.get? id = some kept) (issued : Issued) :
    p.keep id issued = (p, kept) := by
  unfold keep PlanCache.getOrInsert
  rw [h]

end Planner

/-! ## One step of a call -/

namespace Call

/-- What a step of a call can come to. -/
inductive Step (p : Planner) : Call → Planner × Call → Prop where
  | found (filter : Filter) (kept : Issued) (present : p.cache.get? filter.definition = some kept) :
      Step p (.start filter) (p, .found kept)
  | missed (filter : Filter) (absent : p.cache.get? filter.definition = none) :
      Step p (.start filter) (p, .missed filter)
  | hit (kept : Issued) : Step p (.found kept) (p.countHit, .done (.ok kept))
  | defect (filter : Filter) (fault : Fault) (prepared : filter.prepare = .error fault) :
      Step p (.missed filter) (p.countMiss, .done (.error fault))
  | limited (filter : Filter) (plan : Plan) (prepared : filter.prepare = .ok plan)
      (limited : p.options.limit.isSome = true) :
      Step p (.missed filter)
        ((p.countMiss.issue plan).1, .checking filter.definition ⟨p.prepared, plan⟩)
  | unlimited (filter : Filter) (plan : Plan) (prepared : filter.prepare = .ok plan)
      (unlimited : p.options.limit = none) :
      Step p (.missed filter)
        ((p.countMiss.issue plan).1, .keeping filter.definition ⟨p.prepared, plan⟩)
  | full (id : DefinitionId) (issued : Issued) (full : p.isFull = true) :
      Step p (.checking id issued) (p, .done (.ok issued))
  | room (id : DefinitionId) (issued : Issued) (room : p.isFull = false) :
      Step p (.checking id issued) (p, .keeping id issued)
  | raced (id : DefinitionId) (issued kept : Issued) (present : p.cache.get? id = some kept) :
      Step p (.keeping id issued) (p, .done (.ok kept))
  | kept (id : DefinitionId) (issued : Issued) (absent : p.cache.get? id = none) :
      Step p (.keeping id issued)
        ({ p with cache := ⟨p.cache.entries ++ [(id, issued)]⟩ }, .done (.ok issued))
  | ended (result : Except Fault Issued) : Step p (.done result) (p, .done result)

theorem step_step (p : Planner) (call : Call) : Step p call (call.step p) := by
  cases call with
  | start filter =>
    rw [step]
    cases hget : p.cache.get? filter.definition with
    | some kept => exact .found filter kept hget
    | none => exact .missed filter hget
  | found kept => exact .hit kept
  | missed filter =>
    rw [step]
    cases hprepare : filter.prepare with
    | error fault => exact .defect filter fault hprepare
    | ok plan =>
      show Step p (.missed filter) (if p.options.limit.isSome then _ else _)
      cases hlimit : p.options.limit with
      | none => exact .unlimited filter plan hprepare hlimit
      | some limit => exact .limited filter plan hprepare (by rw [hlimit]; rfl)
  | checking id issued =>
    rw [step]
    cases hfull : p.isFull with
    | true => exact .full id issued hfull
    | false => exact .room id issued hfull
  | keeping id issued =>
    rw [step]
    cases hget : p.cache.get? id with
    | some kept =>
      rw [Planner.keep_of_present hget]
      exact .raced id issued kept hget
    | none =>
      rw [Planner.keep_of_absent hget]
      exact .kept id issued hget
  | done result => exact .ended result

variable {p : Planner} {call : Call}

theorem options_step (p : Planner) (call : Call) : (call.step p).1.options = p.options := by
  have step := step_step p call
  generalize call.step p = result at step ⊢
  cases step <;> rfl

/-- A step leaves the cache as it is, or keeps the plan of the call. -/
theorem cache_step (p : Planner) (call : Call) :
    (call.step p).1.cache = p.cache ∨
      ∃ id issued, call = .keeping id issued ∧ p.cache.get? id = none ∧
        (call.step p).1.cache = ⟨p.cache.entries ++ [(id, issued)]⟩ := by
  have step := step_step p call
  generalize call.step p = result at step ⊢
  cases step with
  | kept id issued absent => exact .inr ⟨id, issued, rfl, absent, rfl⟩
  | _ => exact .inl rfl

/-- A step replaces no kept plan. -/
theorem get?_step {id : DefinitionId} {issued : Issued} (kept : p.cache.get? id = some issued)
    (call : Call) : (call.step p).1.cache.get? id = some issued := by
  rcases cache_step p call with same | ⟨id', issued', -, -, longer⟩
  · rw [same, kept]
  · rw [longer, PlanCache.get?_append, kept]
    rfl

/-- A step forgets no definition that is kept. -/
theorem mem_ids_step {id : DefinitionId} (kept : id ∈ p.cache.ids) (call : Call) :
    id ∈ (call.step p).1.cache.ids := by
  obtain ⟨issued, hget⟩ := PlanCache.mem_ids_iff.mp kept
  exact PlanCache.mem_ids_iff.mpr ⟨issued, get?_step hget call⟩

/-- A step keeps one entry for each definition at most. -/
theorem nodup_ids_step (distinct : p.cache.ids.Nodup) (call : Call) :
    (call.step p).1.cache.ids.Nodup := by
  rcases cache_step p call with same | ⟨id, issued, -, absent, longer⟩
  · rw [same]
    exact distinct
  · rw [longer, PlanCache.ids_append]
    refine List.nodup_append.mpr ⟨distinct, List.nodup_singleton id, ?_⟩
    intro old hold new hnew same
    rw [same, List.mem_singleton.mp hnew] at hold
    exact PlanCache.get?_eq_none_iff.mp absent hold

end Call

/-! ## One move of a crew -/

namespace Crew

variable {crew : Crew}

/-- What a move of a crew can come to. -/
inductive Moved (crew : Crew) : Move → Crew → Prop where
  | step (index : Nat) (call : Call) (present : crew.calls[index]? = some call) :
      Moved crew (.step index)
        ⟨(call.step crew.planner).1, crew.calls.set index (call.step crew.planner).2⟩
  | idle (index : Nat) (absent : crew.calls[index]? = none) : Moved crew (.step index) crew
  | clear : Moved crew .clear { crew with planner := crew.planner.clear }
  | resetHits : Moved crew .resetHits { crew with planner := { crew.planner with hits := 0 } }
  | resetMisses :
      Moved crew .resetMisses { crew with planner := { crew.planner with misses := 0 } }

theorem move_step {index : Nat} {call : Call} (h : crew.calls[index]? = some call) :
    crew.move (.step index) =
      ⟨(call.step crew.planner).1, crew.calls.set index (call.step crew.planner).2⟩ := by
  rw [move, h]

theorem moved_move (crew : Crew) (move : Move) : Moved crew move (crew.move move) := by
  cases move with
  | step index =>
    cases hcall : crew.calls[index]? with
    | some call =>
      rw [move_step hcall]
      exact .step index call hcall
    | none =>
      rw [Crew.move, hcall]
      exact .idle index hcall
  | clear => exact .clear
  | resetHits => exact .resetHits
  | resetMisses => exact .resetMisses

theorem run_cons (crew : Crew) (move : Move) (schedule : List Move) :
    crew.run (move :: schedule) = (crew.move move).run schedule := rfl

theorem run_append (crew : Crew) (before since : List Move) :
    crew.run (before ++ since) = (crew.run before).run since := List.foldl_append

/-- What every move keeps, a schedule keeps. -/
theorem run_induction {P : Crew → Prop} {schedule : List Move}
    (kept : ∀ move ∈ schedule, ∀ crew, P crew → P (crew.move move)) (h : P crew) :
    P (crew.run schedule) := by
  induction schedule generalizing crew with
  | nil => exact h
  | cons move schedule ih =>
    rw [run_cons]
    exact ih (fun later hlater => kept later (List.mem_cons_of_mem move hlater))
      (kept move List.mem_cons_self crew h)

theorem length_move (crew : Crew) (move : Move) :
    (crew.move move).calls.length = crew.calls.length := by
  have moved := moved_move crew move
  generalize crew.move move = after at moved ⊢
  cases moved with
  | step => exact List.length_set ..
  | _ => rfl

theorem length_run (crew : Crew) (schedule : List Move) :
    (crew.run schedule).calls.length = crew.calls.length :=
  run_induction (P := fun later => later.calls.length = crew.calls.length)
    (fun move _ later same => (length_move later move).trans same) rfl

/-- Of calls that are about to start, none counts that has to be further on. -/
theorem countP_new (p : Planner) (filters : List Filter) {f : Call → Bool}
    (h : ∀ filter, f (.start filter) = false) : (Crew.new p filters).calls.countP f = 0 := by
  refine List.countP_eq_zero.mpr fun call mem => ?_
  obtain ⟨filter, -, rfl⟩ := List.mem_map.mp mem
  exact Bool.eq_false_iff.mp (h filter)

/-- When a call takes the place of another, a count of calls changes by these two. -/
theorem countP_set_add {calls : List Call} {index : Nat} {old : Call} (h : calls[index]? = some old)
    (new : Call) (f : Call → Bool) :
    (calls.set index new).countP f + (if f old then 1 else 0) =
      calls.countP f + if f new then 1 else 0 := by
  obtain ⟨hindex, hold⟩ := List.getElem?_eq_some_iff.mp h
  rw [List.countP_set hindex, hold]
  cases hf : f old with
  | false => simp
  | true =>
    have counted : 0 < calls.countP f := List.countP_pos_iff.mpr ⟨old, List.mem_of_getElem? h, hf⟩
    simp only [if_true]
    omega

/-! ## What is known of each call -/

/-- The planner is as required, and every call stands in a relation to the filter that it is about,
which may depend on the planner. -/
structure Serving (filters : List Filter) (Inv : Planner → Prop)
    (R : Planner → Filter → Call → Prop) (crew : Crew) : Prop where
  planner : Inv crew.planner
  length : crew.calls.length = filters.length
  calls : ∀ (index : Nat) (filter : Filter) (call : Call), filters[index]? = some filter →
    crew.calls[index]? = some call → R crew.planner filter call

/-- What the steps of calls establish and respect. -/
structure Respected (filters : List Filter) (Inv : Planner → Prop)
    (R : Planner → Filter → Call → Prop) : Prop where
  /-- A step of a call establishes what is required of the planner and of the call. -/
  own : ∀ p filter call, filter ∈ filters → Inv p → R p filter call →
    Inv (call.step p).1 ∧ R (call.step p).1 filter (call.step p).2
  /-- It respects what is known of any other call. -/
  others : ∀ p filter call other otherCall, Inv p → R p filter call → R p other otherCall →
    R (call.step p).1 other otherCall
  /-- The counters do not matter. -/
  counters : ∀ p hits misses, Inv p → Inv { p with hits, misses } ∧
    ∀ filter call, R p filter call → R { p with hits, misses } filter call

section

variable {filters : List Filter} {Inv : Planner → Prop} {R : Planner → Filter → Call → Prop}

/-- Before the first move, all that is known of a call is that it is about to start. -/
theorem serving_new {p : Planner} (h : Inv p) (start : ∀ filter, R p filter (.start filter)) :
    (Crew.new p filters).Serving filters Inv R := by
  refine ⟨h, List.length_map Call.start, fun index filter call hfilter hcall => ?_⟩
  rw [new, List.getElem?_map, hfilter] at hcall
  cases hcall
  exact start filter

theorem Serving.exists_filter (h : crew.Serving filters Inv R) {index : Nat} {call : Call}
    (hcall : crew.calls[index]? = some call) : ∃ filter, filters[index]? = some filter := by
  obtain ⟨hindex, -⟩ := List.getElem?_eq_some_iff.mp hcall
  have bound : index < filters.length := h.length ▸ hindex
  exact ⟨filters[index], List.getElem?_eq_getElem bound⟩

theorem Serving.exists_call (h : crew.Serving filters Inv R) {index : Nat} {filter : Filter}
    (hfilter : filters[index]? = some filter) : ∃ call, crew.calls[index]? = some call := by
  obtain ⟨hindex, -⟩ := List.getElem?_eq_some_iff.mp hfilter
  have bound : index < crew.calls.length := h.length.symm ▸ hindex
  exact ⟨crew.calls[index], List.getElem?_eq_getElem bound⟩

/-- One move keeps what the steps of calls establish and respect. Clearing is a condition of its
own. -/
theorem Serving.move (h : crew.Serving filters Inv R) (respected : Respected filters Inv R)
    (move : Move) (clear : move = .clear → ∀ p, Inv p → Inv p.clear ∧
      ∀ filter call, R p filter call → R p.clear filter call) :
    (crew.move move).Serving filters Inv R := by
  have moved := moved_move crew move
  generalize crew.move move = after at moved ⊢
  cases moved with
  | step index call hcall =>
    obtain ⟨filter, hfilter⟩ := h.exists_filter hcall
    have known := h.calls index filter call hfilter hcall
    obtain ⟨hplanner, hown⟩ :=
      respected.own crew.planner filter call (List.mem_of_getElem? hfilter) h.planner known
    refine ⟨hplanner, (List.length_set ..).trans h.length, ?_⟩
    intro index' filter' call' hfilter' hcall'
    rw [List.getElem?_set] at hcall'
    split at hcall'
    · next same =>
      subst same
      rw [if_pos (List.getElem?_eq_some_iff.mp hcall).1] at hcall'
      rw [hfilter] at hfilter'
      cases hcall'
      cases hfilter'
      exact hown
    · exact respected.others crew.planner filter call filter' call' h.planner known
        (h.calls index' filter' call' hfilter' hcall')
  | idle index absent => exact h
  | clear =>
    obtain ⟨hplanner, hcalls⟩ := clear rfl crew.planner h.planner
    exact ⟨hplanner, h.length, fun index filter call hfilter hcall =>
      hcalls filter call (h.calls index filter call hfilter hcall)⟩
  | resetHits =>
    obtain ⟨hplanner, hcalls⟩ := respected.counters crew.planner 0 crew.planner.misses h.planner
    exact ⟨hplanner, h.length, fun index filter call hfilter hcall =>
      hcalls filter call (h.calls index filter call hfilter hcall)⟩
  | resetMisses =>
    obtain ⟨hplanner, hcalls⟩ := respected.counters crew.planner crew.planner.hits 0 h.planner
    exact ⟨hplanner, h.length, fun index filter call hfilter hcall =>
      hcalls filter call (h.calls index filter call hfilter hcall)⟩

/-- What the steps of calls establish and respect holds along every schedule. -/
theorem Serving.run (h : crew.Serving filters Inv R) (respected : Respected filters Inv R)
    {schedule : List Move} (clear : .clear ∈ schedule → ∀ p, Inv p → Inv p.clear ∧
      ∀ filter call, R p filter call → R p.clear filter call) :
    (crew.run schedule).Serving filters Inv R :=
  run_induction (fun move hmove _ hcrew =>
    hcrew.move respected move fun same => clear (same ▸ hmove)) h

end

end Crew

end PreparedFilter

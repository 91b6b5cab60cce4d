import PreparedFilter.Proofs.Planner.Crew
import PreparedFilter.Proofs.Planner.Transparency

/-!
# Calls under any interleaving

Several calls that share a planner come to the right end under every schedule (`calls_run`), if
their filters agree: a call that is over has what the preparation of its own filter gives; a kept
plan stays until the cache is cleared; every call was counted once; and without a limit the plans of
all definitions are kept in the end, each once.

The schedule may let two calls prepare the same definition, may let one of them lose the race to
keep its plan, and may clear the cache between a look-up and the keeping. The invariant that carries
this through is `Call.Serves`: whatever a call holds is the preparation of a filter of its
definition, be it its own plan or one that it found.
-/

namespace PreparedFilter

namespace Call

/-! ## What a call holds -/

/-- A call is about a filter, and what it holds is the preparation of a filter of that
definition. -/
def Serves (filters : List Filter) (filter : Filter) : Call → Prop
  | start own => own = filter
  | found kept =>
    ∃ g ∈ filters, g.definition = filter.definition ∧ g.prepare = .ok kept.plan
  | missed own => own = filter
  | checking id issued => id = filter.definition ∧ filter.prepare = .ok issued.plan
  | keeping id issued => id = filter.definition ∧ filter.prepare = .ok issued.plan
  | done result =>
    ∃ g ∈ filters, g.definition = filter.definition ∧ result.map Issued.plan = g.prepare

variable {p : Planner} {filters : List Filter} {filter : Filter} {call : Call}

/-- A step of a call gives it what its filter prepares to, or what a call of the same definition has
kept. -/
theorem Serves.step (h : call.Serves filters filter) (kept : p.Faithful filters)
    (mem : filter ∈ filters) :
    (call.step p).1.Faithful filters ∧ (call.step p).2.Serves filters filter := by
  have step := step_step p call
  generalize call.step p = result at step ⊢
  cases step with
  | found own issued present =>
    cases h
    obtain ⟨g, hg, hid, hprepare⟩ := kept _ issued present
    exact ⟨kept, g, hg, hid, hprepare⟩
  | missed own absent => exact ⟨kept, h⟩
  | hit issued =>
    obtain ⟨g, hg, hid, hprepare⟩ := h
    exact ⟨kept, g, hg, hid, hprepare.symm⟩
  | defect own fault prepared =>
    cases h
    exact ⟨kept, filter, mem, rfl, prepared.symm⟩
  | limited own plan prepared _ =>
    cases h
    exact ⟨kept, rfl, prepared⟩
  | unlimited own plan prepared _ =>
    cases h
    exact ⟨kept, rfl, prepared⟩
  | full id issued _ => exact ⟨kept, filter, mem, rfl, h.2.symm⟩
  | room id issued _ => exact ⟨kept, h⟩
  | raced id issued other present =>
    -- the plan of a faster call of the same definition
    obtain ⟨g, hg, hid, hprepare⟩ := kept id other present
    exact ⟨kept, g, hg, hid.trans h.1, hprepare.symm⟩
  | kept id issued absent =>
    obtain ⟨rfl, prepared⟩ := h
    exact ⟨kept.append mem prepared rfl, filter, mem, rfl, prepared.symm⟩
  | ended result => exact ⟨kept, h⟩

/-- A call that is over has what the preparation of its own filter gives. -/
theorem Serves.result_eq {result : Except Fault Issued}
    (h : (Call.done result).Serves filters filter) (agree : ∀ g ∈ filters, g.Agree filter) :
    result.map Issued.plan = filter.prepare := by
  obtain ⟨g, hg, hid, hprepare⟩ := h
  rw [hprepare, (agree g hg).prepare_eq hid]

/-! ## How far a call is -/

/-- Whether a call has counted its hit or its miss. -/
def counted : Call → Bool
  | start _ => false
  | found _ => false
  | missed _ => false
  | _ => true

/-- A step counts once, and in the step with which the call leaves the uncounted stages. -/
theorem counters_step (p : Planner) (call : Call) :
    (call.step p).1.hits + (call.step p).1.misses + (if call.counted then 1 else 0) =
      p.hits + p.misses + if (call.step p).2.counted then 1 else 0 := by
  have step := step_step p call
  generalize call.step p = result at step ⊢
  cases step <;> simp [counted, Planner.countHit, Planner.countMiss, Planner.issue] <;> omega

/-- How many steps a call may still take. -/
def remaining : Call → Nat
  | start _ => 4
  | found _ => 1
  | missed _ => 3
  | checking _ _ => 2
  | keeping _ _ => 1
  | done _ => 0

theorem remaining_step (p : Planner) (call : Call) :
    (call.step p).2.remaining ≤ call.remaining - 1 := by
  have step := step_step p call
  generalize call.step p = result at step ⊢
  cases step <;> simp [remaining]

theorem eq_done_of_remaining {call : Call} (h : call.remaining = 0) :
    ∃ result, call = .done result := by
  cases call with
  | done result => exact ⟨result, rfl⟩
  | _ => cases h

/-! ## Calls without a limit -/

/-- Without a limit, a call that found a plan or is over with one has a kept definition. -/
def Settled (p : Planner) (filter : Filter) : Call → Prop
  | found _ => filter.definition ∈ p.cache.ids
  | checking _ _ => False
  | done (.ok _) => filter.definition ∈ p.cache.ids
  | _ => True

theorem Settled.mono {p' : Planner} (h : call.Settled p filter)
    (grown : filter.definition ∈ p.cache.ids → filter.definition ∈ p'.cache.ids) :
    call.Settled p' filter := by
  cases call with
  | found kept => exact grown h
  | done result =>
    cases result with
    | ok issued => exact grown h
    | error fault => trivial
  | checking id issued => exact h
  | _ => trivial

/-- Without a limit, a call only ends with a plan once its definition is kept. -/
theorem Settled.step (h : call.Settled p filter) (serves : call.Serves filters filter)
    (unlimited : p.options.limit = none) : (call.step p).2.Settled (call.step p).1 filter := by
  have step := step_step p call
  generalize call.step p = result at step ⊢
  cases step with
  | found own kept present =>
    cases serves
    exact PlanCache.mem_ids_iff.mpr ⟨kept, present⟩
  | missed => trivial
  | hit kept => exact h
  | defect => trivial
  | limited own plan _ limited =>
    rw [unlimited] at limited
    cases limited
  | unlimited => trivial
  | full => exact absurd h id
  | room => exact absurd h id
  | raced id issued kept present =>
    rw [serves.1] at present
    exact PlanCache.mem_ids_iff.mpr ⟨kept, present⟩
  | kept id issued absent =>
    show filter.definition ∈ (PlanCache.mk (p.cache.entries ++ [(id, issued)])).ids
    rw [PlanCache.ids_append, serves.1]
    exact List.mem_append_right _ List.mem_cons_self
  | ended result => exact h

end Call

namespace Crew

variable {crew : Crew} {schedule : List Move} {filters : List Filter}

/-! ## Along a schedule -/

/-- A step of one call does not touch what another one holds. -/
theorem respected_serves {all : List Filter} (among : filters ⊆ all) :
    Respected filters (fun p => p.Faithful all) fun _ filter call => call.Serves all filter where
  own _ _ _ mem kept serves := serves.step kept (among mem)
  others _ _ _ _ _ _ _ known := known
  counters _ _ _ kept := ⟨kept, fun _ _ known => known⟩

/-- Whatever calls hold, and whatever is kept, is a preparation of one of the filters. -/
theorem serves_run (options : PlannerOptions) (filters : List Filter) (schedule : List Move) :
    ((Crew.new (.new options) filters).run schedule).Serving filters
      (fun p => p.Faithful filters) fun _ filter call => call.Serves filters filter := by
  have kept : (Planner.new options).Faithful filters :=
    (Planner.faithful_new options).mono (List.nil_subset filters)
  exact (serving_new kept fun _ => rfl).run (respected_serves (List.Subset.refl filters))
    fun _ p _ => ⟨p.faithful_clear filters, fun _ _ known => known⟩

/-- Definitions that are kept stay so, and thus what is settled stays settled. -/
theorem respected_settled (filters : List Filter) :
    Respected filters (fun p => p.options.limit = none ∧ p.Faithful filters)
      fun p filter call => call.Serves filters filter ∧ call.Settled p filter where
  own p filter call mem known serves := by
    obtain ⟨hkept, hserves⟩ := serves.1.step known.2 mem
    rw [Call.options_step]
    exact ⟨⟨known.1, hkept⟩, hserves, serves.2.step serves.1 known.1⟩
  others p _ call _ _ _ _ known :=
    ⟨known.1, known.2.mono fun old => Call.mem_ids_step old call⟩
  counters _ _ _ kept := ⟨kept, fun _ _ known => known⟩

/-- Without a limit and without clearing, every call that is over with a plan has its definition in
the cache. -/
theorem settled_run {options : PlannerOptions} (unlimited : options.limit = none)
    (filters : List Filter) (uncleared : .clear ∉ schedule) :
    ((Crew.new (.new options) filters).run schedule).Serving filters
      (fun p => p.options.limit = none ∧ p.Faithful filters)
      fun p filter call => call.Serves filters filter ∧ call.Settled p filter := by
  have kept : (Planner.new options).Faithful filters :=
    (Planner.faithful_new options).mono (List.nil_subset filters)
  exact (serving_new ⟨unlimited, kept⟩ fun _ => ⟨rfl, trivial⟩).run (respected_settled filters)
    fun cleared => absurd cleared uncleared

/-- A kept plan is not replaced until the cache is cleared. -/
theorem get?_run {id : DefinitionId} {issued : Issued}
    (kept : crew.planner.cache.get? id = some issued) (uncleared : .clear ∉ schedule) :
    (crew.run schedule).planner.cache.get? id = some issued := by
  refine run_induction (P := fun crew => crew.planner.cache.get? id = some issued) ?_ kept
  intro move hmove crew kept
  have moved := moved_move crew move
  generalize crew.move move = after at moved ⊢
  cases moved with
  | step index call _ => exact Call.get?_step kept call
  | clear => exact absurd hmove uncleared
  | idle => exact kept
  | resetHits => exact kept
  | resetMisses => exact kept

/-- Each definition is kept once at most. -/
theorem nodup_ids_run (distinct : crew.planner.cache.ids.Nodup) :
    (crew.run schedule).planner.cache.ids.Nodup := by
  refine run_induction (P := fun crew => crew.planner.cache.ids.Nodup) ?_ distinct
  intro move _ crew distinct
  have moved := moved_move crew move
  generalize crew.move move = after at moved ⊢
  cases moved with
  | step index call _ => exact Call.nodup_ids_step distinct call
  | clear => exact List.nodup_nil
  | idle => exact distinct
  | resetHits => exact distinct
  | resetMisses => exact distinct

/-- The counters say how many calls have counted. -/
theorem counters_run
    (counted : crew.planner.hits + crew.planner.misses = crew.calls.countP Call.counted)
    (hits : .resetHits ∉ schedule) (misses : .resetMisses ∉ schedule) :
    (crew.run schedule).planner.hits + (crew.run schedule).planner.misses =
      (crew.run schedule).calls.countP Call.counted := by
  refine run_induction (P := fun crew =>
    crew.planner.hits + crew.planner.misses = crew.calls.countP Call.counted) ?_ counted
  intro move hmove crew counted
  have moved := moved_move crew move
  generalize crew.move move = after at moved ⊢
  cases moved with
  | step index call present =>
    have counters := Call.counters_step crew.planner call
    have calls := countP_set_add present (call.step crew.planner).2 Call.counted
    show (call.step crew.planner).1.hits + (call.step crew.planner).1.misses =
      (crew.calls.set index (call.step crew.planner).2).countP Call.counted
    omega
  | idle => exact counted
  | clear => exact counted
  | resetHits => exact absurd hmove hits
  | resetMisses => exact absurd hmove misses

/-- Every step of a call brings it nearer to its end, and no other move takes it back. -/
theorem remaining_run {index : Nat} {call : Call} (hcall : crew.calls[index]? = some call)
    (schedule : List Move) :
    ∃ after, (crew.run schedule).calls[index]? = some after ∧
      after.remaining ≤ call.remaining - schedule.count (.step index) := by
  induction schedule generalizing crew call with
  | nil => exact ⟨call, hcall, Nat.le_refl _⟩
  | cons move schedule ih =>
    rw [run_cons]
    have moved := moved_move crew move
    generalize crew.move move = next at moved ⊢
    cases moved with
    | step index' call' hcall' =>
      by_cases same : index' = index
      · subst same
        rw [hcall] at hcall'
        cases hcall'
        have taken : (crew.calls.set index' (call.step crew.planner).2)[index']? =
            some (call.step crew.planner).2 :=
          List.getElem?_set_self (List.getElem?_eq_some_iff.mp hcall).1
        obtain ⟨after, hafter, hremaining⟩ := @ih ⟨(call.step crew.planner).1, _⟩ _ taken
        have step := Call.remaining_step crew.planner call
        refine ⟨after, hafter, ?_⟩
        rw [List.count_cons_self]
        omega
      · rw [List.count_cons_of_ne fun h => same (Move.step.inj h)]
        exact ih ((List.getElem?_set_ne same).trans hcall)
    | idle index' absent =>
      have other : Move.step index' ≠ Move.step index := by
        rintro ⟨⟩
        rw [hcall] at absent
        cases absent
      rw [List.count_cons_of_ne other]
      exact ih hcall
    | clear => exact ih hcall
    | resetHits => exact ih hcall
    | resetMisses => exact ih hcall

/-! ## Once all calls are over -/

/-- All calls are over. -/
def Over (crew : Crew) : Prop := ∀ call ∈ crew.calls, call.result?.isSome

instance : Decidable crew.Over :=
  inferInstanceAs (Decidable (∀ call ∈ crew.calls, call.result?.isSome = true))

theorem Over.eq_done (h : crew.Over) {call : Call} (mem : call ∈ crew.calls) :
    ∃ result, call = .done result := by
  have ended := h call mem
  cases call with
  | done result => exact ⟨result, rfl⟩
  | _ => cases ended

/-- Four steps bring a call to its end, whatever comes between them. -/
theorem exists_result_run (p : Planner) {index : Nat} (bound : index < filters.length)
    (steps : 4 ≤ schedule.count (.step index)) :
    ∃ result, ((Crew.new p filters).run schedule).calls[index]? = some (.done result) := by
  have started : (Crew.new p filters).calls[index]? = some (.start filters[index]) := by
    rw [new, List.getElem?_map, List.getElem?_eq_getElem bound]
    rfl
  obtain ⟨call, hcall, hremaining⟩ := remaining_run started schedule
  have ended : call.remaining = 0 := by
    have full : (Call.start filters[index]).remaining = 4 := rfl
    omega
  obtain ⟨result, rfl⟩ := Call.eq_done_of_remaining ended
  exact ⟨result, hcall⟩

theorem Over.countP_counted (h : crew.Over) :
    crew.calls.countP Call.counted = crew.calls.length := by
  refine List.countP_eq_length.mpr fun call mem => ?_
  obtain ⟨result, rfl⟩ := h.eq_done mem
  rfl

/-- Without a limit and a clearing, exactly the definitions that can be prepared are kept. -/
theorem mem_ids_run_iff {options : PlannerOptions} (unlimited : options.limit = none)
    (agree : ∀ f ∈ filters, ∀ g ∈ filters, f.Agree g) (uncleared : .clear ∉ schedule)
    (ended : ((Crew.new (.new options) filters).run schedule).Over) (id : DefinitionId) :
    id ∈ ((Crew.new (.new options) filters).run schedule).planner.cache.ids ↔
      ∃ f ∈ filters, f.definition = id ∧ f.prepare.isOk := by
  have settled := settled_run unlimited filters uncleared
  constructor
  · intro mem
    obtain ⟨issued, hget⟩ := PlanCache.mem_ids_iff.mp mem
    obtain ⟨f, hf, hid, hprepare⟩ := settled.planner.2 id issued hget
    exact ⟨f, hf, hid, by rw [hprepare]; rfl⟩
  · rintro ⟨f, hf, rfl, accepted⟩
    obtain ⟨index, hindex⟩ := List.getElem?_of_mem hf
    obtain ⟨call, hcall⟩ := settled.exists_call hindex
    obtain ⟨result, rfl⟩ := ended.eq_done (List.mem_of_getElem? hcall)
    obtain ⟨serves, kept⟩ := settled.calls index f _ hindex hcall
    have outcome := serves.result_eq fun g hg => agree g hg f hf
    cases result with
    | ok issued => exact kept
    | error fault =>
      rw [← outcome] at accepted
      cases accepted

/-- **Calls that share a planner come to the right end under every schedule.** A call that is over
has the plan, or the fault, that the preparation of its own filter gives, and four steps bring any
call to its end. A kept plan stays until the cache is cleared. Once all calls are over, and if no
counter was reset, each call was counted once. Without a limit and a clearing, the kept definitions
are those that can be prepared, each kept once. -/
theorem calls_run (options : PlannerOptions) (filters : List Filter)
    (agree : ∀ f ∈ filters, ∀ g ∈ filters, f.Agree g) (schedule : List Move) :
    let crew := (Crew.new (.new options) filters).run schedule
    (∀ (index : Nat) (filter : Filter) (result : Except Fault Issued),
        filters[index]? = some filter → crew.calls[index]? = some (.done result) →
          result.map Issued.plan = filter.prepare) ∧
      (∀ index < filters.length, 4 ≤ schedule.count (.step index) →
        ∃ result, crew.calls[index]? = some (.done result)) ∧
      (∀ (later : List Move) (id : DefinitionId) (issued : Issued), .clear ∉ later →
        crew.planner.cache.get? id = some issued →
          (crew.run later).planner.cache.get? id = some issued) ∧
      (crew.Over → .resetHits ∉ schedule → .resetMisses ∉ schedule →
        crew.planner.hits + crew.planner.misses = filters.length) ∧
      (crew.Over → options.limit = none → .clear ∉ schedule →
        crew.planner.cache.ids.Nodup ∧
          ∀ id, id ∈ crew.planner.cache.ids ↔
            ∃ f ∈ filters, f.definition = id ∧ f.prepare.isOk) := by
  intro crew
  have serving := serves_run options filters schedule
  refine ⟨?_, fun index bound steps => exists_result_run _ bound steps,
    fun later id issued uncleared kept => get?_run kept uncleared, ?_, ?_⟩
  · intro index filter result hfilter hcall
    have mem := List.mem_of_getElem? hfilter
    exact (serving.calls index filter _ hfilter hcall).result_eq fun g hg => agree g hg filter mem
  · intro ended hits misses
    have start := countP_new (.new options) filters (f := Call.counted) fun _ => rfl
    refine Eq.trans (counters_run start.symm hits misses) ?_
    rw [ended.countP_counted, serving.length]
  · intro ended unlimited uncleared
    exact ⟨nodup_ids_run List.nodup_nil, mem_ids_run_iff unlimited agree uncleared ended⟩

/-- Two calls for filters of one definition and one for a refused definition, in lockstep. -/
theorem calls_run_lockstep :
    let both := (Gallery.both "Ann" 3).toFilter
    let other := (Gallery.both "Bob" 4).toFilter
    let refused := (Gallery.flagGt true).toFilter
    let crew := (Crew.new (.new ⟨none⟩) [both, other, refused]).run (lockstep 3)
    (∃ result, crew.calls[1]? = some (.done result) ∧
        result.map Issued.plan = other.prepare) ∧
      (∃ issued, crew.planner.cache.get? both.definition = some issued ∧
        (crew.run [.step 2, .resetHits]).planner.cache.get? both.definition = some issued) ∧
      crew.planner.hits + crew.planner.misses = 3 ∧ crew.planner.cache.ids.Nodup ∧
      ∀ id, id ∈ crew.planner.cache.ids ↔
        ∃ f ∈ [both, other, refused], f.definition = id ∧ f.prepare.isOk := by
  intro both other refused
  have agree : ∀ f ∈ [both, other, refused], ∀ g ∈ [both, other, refused], f.Agree g := by
    decide
  have ended : ((Crew.new (.new ⟨none⟩) [both, other, refused]).run (lockstep 3)).Over := by
    decide
  obtain ⟨hresult, hover, hkept, hcount, hids⟩ :=
    calls_run ⟨none⟩ [both, other, refused] agree (lockstep 3)
  obtain ⟨result, hcall⟩ := hover 1 (by decide) (by decide)
  obtain ⟨distinct, kept_iff⟩ := hids ended rfl (by decide)
  obtain ⟨issued, hget⟩ := PlanCache.mem_ids_iff.mp
    ((kept_iff both.definition).mpr ⟨both, List.mem_cons_self, rfl, rfl⟩)
  exact ⟨⟨result, hcall, hresult 1 other result rfl hcall⟩,
    ⟨issued, hget, hkept [.step 2, .resetHits] both.definition issued (by decide) hget⟩,
    hcount ended (by decide) (by decide), distinct, kept_iff⟩

end Crew

end PreparedFilter

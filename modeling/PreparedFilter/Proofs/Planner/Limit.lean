import Mathlib.Data.List.Dedup
import Mathlib.Data.List.Perm.Subperm
import PreparedFilter.Proofs.Planner.Interleaving

/-!
# The limit under concurrent calls

A call compares the size of the cache with the limit in one step and keeps its plan in a later one.
Between the two, other calls may keep theirs, and calls for different definitions may all find room
before any of them has kept its plan. Two results say what that comes to.

* The cache outgrows its limit by less than the number of calls (`size_run_le`).
* From a new planner, calls in lockstep keep the plans of all definitions that can be prepared,
  whatever the limit, unless it is zero (`mem_ids_lockstep`). So a limit is respected under all
  schedules exactly if it is zero or not less than the number of these definitions
  (`size_run_le_limit_iff`).
-/

namespace PreparedFilter

namespace Call

/-! ## Calls that have found room -/

/-- Whether a call has found room and has not yet kept its plan. -/
def isKeeping : Call → Bool
  | keeping _ _ => true
  | _ => false

variable {p : Planner} {limit : UInt64}

/-- The plans that are kept and those that are about to be do not get more in a step, unless the
step is the one that compares the size with the limit and finds room. -/
theorem kept_step (limited : p.options.limit = some limit) (call : Call) :
    (call.step p).1.cache.size + (if (call.step p).2.isKeeping then 1 else 0) ≤
        p.cache.size + (if call.isKeeping then 1 else 0) ∨
      p.cache.size < limit.toNat ∧ (call.step p).1.cache.size = p.cache.size := by
  have step := step_step p call
  generalize call.step p = result at step ⊢
  cases step with
  | unlimited own plan _ unlimited =>
    rw [unlimited] at limited
    cases limited
  | room id issued room =>
    exact .inr ⟨(Planner.isFull_eq_false_iff limited).mp room, rfl⟩
  | kept id issued _ =>
    refine .inl (Nat.le_of_eq ?_)
    show (p.cache.entries ++ [(id, issued)]).length + 0 = p.cache.entries.length + 1
    rw [List.length_append, List.length_singleton]
  | raced id issued kept _ => exact .inl (Nat.le_add_right _ _)
  | _ => exact .inl (Nat.le_refl _)

end Call

namespace Crew

variable {crew : Crew} {filters : List Filter} {limit : UInt64}

/-! ## How far the cache outgrows its limit -/

/-- The size to which a number of calls can bring a cache that respects its limit. -/
def reach (limit calls : Nat) : Nat := if limit = 0 then 0 else limit + (calls - 1)

/-- The plans that are kept and those that are about to be are within reach. -/
structure WithinReach (limit : UInt64) (crew : Crew) : Prop where
  limited : crew.planner.options.limit = some limit
  kept : crew.planner.cache.size + crew.calls.countP Call.isKeeping ≤
    reach limit.toNat crew.calls.length

/-- A move finds room only below the limit, so what is kept and about to be kept stays within
reach. -/
theorem WithinReach.move (h : crew.WithinReach limit) (move : Move) :
    (crew.move move).WithinReach limit := by
  obtain ⟨limited, kept⟩ := h
  have length := length_move crew move
  have moved := moved_move crew move
  generalize crew.move move = after at moved length ⊢
  cases moved with
  | step index call present =>
    refine ⟨(congrArg _ (Call.options_step crew.planner call)).trans limited, ?_⟩
    have count := countP_set_add present (call.step crew.planner).2 Call.isKeeping
    rw [length]
    show (call.step crew.planner).1.cache.size +
      (crew.calls.set index (call.step crew.planner).2).countP Call.isKeeping ≤ _
    rcases Call.kept_step limited call with fewer | ⟨room, same⟩
    · omega
    · -- at most all calls are about to keep their plans, and the cache is not full
      have all := List.countP_le_length (p := Call.isKeeping)
        (l := crew.calls.set index (call.step crew.planner).2)
      have index_lt := (List.getElem?_eq_some_iff.mp present).1
      rw [show (crew.calls.set index _).length = crew.calls.length from length] at all
      rw [reach, if_neg (Nat.ne_of_gt (Nat.zero_lt_of_lt room)), same]
      omega
  | clear =>
    have fewer : PlanCache.empty.size ≤ crew.planner.cache.size := Nat.zero_le _
    exact ⟨limited, Nat.le_trans (Nat.add_le_add_right fewer _) kept⟩
  | idle => exact ⟨limited, kept⟩
  | resetHits => exact ⟨limited, kept⟩
  | resetMisses => exact ⟨limited, kept⟩

/-- Calls that share a planner within its limit outgrow it by less than their number. A limit of
zero is respected. -/
theorem size_run_le {p : Planner} (limited : p.options.limit = some limit)
    (within : p.cache.size ≤ limit.toNat) (filters : List Filter) (schedule : List Move) :
    ((Crew.new p filters).run schedule).planner.cache.size ≤ reach limit.toNat filters.length := by
  have start : (Crew.new p filters).WithinReach limit := by
    refine ⟨limited, ?_⟩
    rw [countP_new p filters fun _ => rfl, reach]
    show p.cache.size + 0 ≤ _
    split <;> omega
  have kept : ((Crew.new p filters).run schedule).WithinReach limit :=
    run_induction (fun move _ _ h => h.move move) start
  have length : ((Crew.new p filters).run schedule).calls.length = filters.length :=
    (length_run _ schedule).trans (List.length_map Call.start)
  have bound := kept.kept
  rw [length] at bound
  exact Nat.le_trans (Nat.le_add_right _ _) bound

/-! ## Calls in lockstep -/

/-- What a round of steps, one of each call, establishes. Every step leads its call from one stage
to the next, and no step of another call takes it back. -/
structure Round (Inv : Planner → Prop) (A B : Planner → Filter → Call → Prop) : Prop where
  own : ∀ p filter call, Inv p → A p filter call →
    Inv (call.step p).1 ∧ B (call.step p).1 filter (call.step p).2
  others : ∀ p filter call other otherCall, Inv p → A p filter call →
    (A p other otherCall → A (call.step p).1 other otherCall) ∧
      (B p other otherCall → B (call.step p).1 other otherCall)

theorem run_range_succ (crew : Crew) (steps : Nat) :
    crew.run ((List.range (steps + 1)).map Move.step) =
      (crew.run ((List.range steps).map Move.step)).move (.step steps) := by
  rw [List.range_succ, List.map_append, run_append]
  rfl

section

variable {Inv : Planner → Prop} {A B : Planner → Filter → Call → Prop}

/-- After the first steps of a round, the calls that took one are at the next stage. -/
theorem Round.run_range (round : Round Inv A B) (h : crew.Serving filters Inv A) (steps : Nat)
    (bound : steps ≤ filters.length) :
    let after := crew.run ((List.range steps).map Move.step)
    Inv after.planner ∧ after.calls.length = filters.length ∧
      ∀ (index : Nat) (filter : Filter) (call : Call), filters[index]? = some filter →
        after.calls[index]? = some call →
          if index < steps then B after.planner filter call else A after.planner filter call := by
  induction steps with
  | zero => exact ⟨h.planner, h.length, h.calls⟩
  | succ steps ih =>
    obtain ⟨planner, length, calls⟩ := ih (Nat.le_of_lt bound)
    rw [run_range_succ]
    generalize crew.run ((List.range steps).map Move.step) = before at planner length calls ⊢
    have hcall := List.getElem?_eq_getElem (length.symm ▸ bound : steps < before.calls.length)
    have hfilter := List.getElem?_eq_getElem bound
    have turn := calls steps _ _ hfilter hcall
    rw [if_neg (Nat.lt_irrefl steps)] at turn
    obtain ⟨hplanner, hnext⟩ := round.own before.planner _ _ planner turn
    rw [move_step hcall]
    refine ⟨hplanner, (List.length_set ..).trans length, ?_⟩
    intro index filter call hindex hget
    by_cases same : steps = index
    · subst same
      rw [List.getElem?_set_self (length.symm ▸ bound : steps < before.calls.length)] at hget
      rw [hfilter] at hindex
      cases hget
      cases hindex
      rw [if_pos (Nat.lt_succ_self steps)]
      exact hnext
    · rw [List.getElem?_set_ne same] at hget
      have known := calls index filter call hindex hget
      obtain ⟨hA, hB⟩ := round.others before.planner _ _ filter call planner turn
      split at known
      · next earlier =>
        rw [if_pos (Nat.lt_succ_of_lt earlier)]
        exact hB known
      · next later =>
        rw [if_neg (by omega)]
        exact hA known

/-- A round leads every call to the next stage. -/
theorem Round.run (round : Round Inv A B) (h : crew.Serving filters Inv A) :
    (crew.run ((List.range filters.length).map Move.step)).Serving filters Inv B := by
  obtain ⟨planner, length, calls⟩ := round.run_range h filters.length (Nat.le_refl _)
  refine ⟨planner, length, fun index filter call hfilter hcall => ?_⟩
  have known := calls index filter call hfilter hcall
  rwa [if_pos (List.getElem?_eq_some_iff.mp hfilter).1] at known

theorem run_lockstep (crew : Crew) (calls : Nat) :
    let round := (List.range calls).map Move.step
    crew.run (lockstep calls) = (((crew.run round).run round).run round).run round := by
  have rounds : List.range 4 = [0, 1, 2, 3] := rfl
  simp only [lockstep, rounds, List.flatMap_cons, List.flatMap_nil, List.append_nil, run_append]

end

/-- All calls have found no plan, and either have come to a stage with a plan of their own or are
over with the fault of their filter. -/
def Through (stage : DefinitionId → Issued → Call) (_ : Planner) (filter : Filter) (call : Call) :
    Prop :=
  match filter.prepare with
  | .ok _ => ∃ issued, call = stage filter.definition issued
  | .error fault => call = .done (.error fault)

/-- The cache has a limit, and no plan is kept. -/
structure Vacant (limit : UInt64) (p : Planner) : Prop where
  limited : p.options.limit = some limit
  empty : p.cache = .empty

/-- With an empty cache, every call finds no plan. -/
theorem round_start (limit : UInt64) :
    Round (Vacant limit) (fun _ filter call => call = .start filter)
      fun _ filter call => call = .missed filter where
  own := by
    rintro p filter call vacant rfl
    have step := Call.step_step p (.start filter)
    generalize (Call.start filter).step p = result at step ⊢
    cases step with
    | found _ kept present =>
      rw [vacant.empty] at present
      cases present
    | missed => exact ⟨vacant, rfl⟩
  others _ _ _ _ _ _ _ := ⟨id, id⟩

/-- Every call prepares its own plan, or is over with the fault of its filter. -/
theorem round_missed (limit : UInt64) :
    Round (Vacant limit) (fun _ filter call => call = .missed filter) (Through .checking) where
  own := by
    rintro p filter call vacant rfl
    have step := Call.step_step p (.missed filter)
    generalize (Call.missed filter).step p = result at step ⊢
    rw [Through]
    cases step with
    | defect _ fault prepared =>
      rw [prepared]
      exact ⟨⟨vacant.limited, vacant.empty⟩, rfl⟩
    | limited _ plan prepared _ =>
      rw [prepared]
      exact ⟨⟨vacant.limited, vacant.empty⟩, _, rfl⟩
    | unlimited _ plan _ unlimited =>
      rw [vacant.limited] at unlimited
      cases unlimited
  others _ _ _ _ _ _ _ := ⟨id, id⟩

/-- Nothing is kept yet, so every call with a plan finds room, however many there are. -/
theorem round_checking (positive : limit ≠ 0) :
    Round (Vacant limit) (Through .checking) (Through .keeping) where
  own := by
    intro p filter call vacant through
    rw [Through] at through ⊢
    cases hprepare : filter.prepare with
    | error fault =>
      rw [hprepare] at through
      cases through
      exact ⟨vacant, rfl⟩
    | ok plan =>
      rw [hprepare] at through
      obtain ⟨issued, rfl⟩ := through
      have step := Call.step_step p (.checking filter.definition issued)
      generalize (Call.checking filter.definition issued).step p = result at step ⊢
      cases step with
      | full _ _ full =>
        have zero := (Planner.isFull_eq_true_iff vacant.limited).mp full
        rw [vacant.empty] at zero
        exact absurd (UInt64.toNat_inj.mp (Nat.le_zero.mp zero)) positive
      | room => exact ⟨vacant, issued, rfl⟩
  others _ _ _ _ _ _ _ := ⟨id, id⟩

/-- Every call with a plan keeps it, or finds one of its definition kept. -/
theorem round_keeping :
    Round (fun _ => True) (Through .keeping)
      fun p filter _ => filter.prepare.isOk → filter.definition ∈ p.cache.ids where
  own := by
    intro p filter call _ through
    refine ⟨trivial, fun accepted => ?_⟩
    rw [Through] at through
    cases hprepare : filter.prepare with
    | error fault =>
      rw [hprepare] at accepted
      cases accepted
    | ok plan =>
      rw [hprepare] at through
      obtain ⟨issued, rfl⟩ := through
      have step := Call.step_step p (.keeping filter.definition issued)
      generalize (Call.keeping filter.definition issued).step p = result at step ⊢
      cases step with
      | raced _ _ kept present => exact PlanCache.mem_ids_iff.mpr ⟨kept, present⟩
      | kept _ _ absent =>
        rw [PlanCache.ids_append]
        exact List.mem_append_right _ List.mem_cons_self
  others p _ call _ _ _ _ := ⟨id, fun kept accepted => Call.mem_ids_step (kept accepted) call⟩

/-- In lockstep, the plans of all definitions that can be prepared are kept, whatever the limit. -/
theorem mem_ids_lockstep (positive : limit ≠ 0) {filter : Filter} (mem : filter ∈ filters)
    (accepted : filter.prepare.isOk) :
    filter.definition ∈ ((Crew.new (.new ⟨some limit⟩) filters).run
      (lockstep filters.length)).planner.cache.ids := by
  have started : (Crew.new (.new ⟨some limit⟩) filters).Serving filters (Vacant limit)
      fun _ filter call => call = .start filter := serving_new ⟨rfl, rfl⟩ fun _ => rfl
  have missed := (round_start limit).run started
  have checking := (round_missed limit).run missed
  have keeping := (round_checking positive).run checking
  have kept := round_keeping.run ⟨trivial, keeping.length, keeping.calls⟩
  rw [run_lockstep]
  obtain ⟨index, hindex⟩ := List.getElem?_of_mem mem
  obtain ⟨call, hcall⟩ := kept.exists_call hindex
  exact kept.calls index filter call hindex hcall accepted

/-! ## When the limit is respected -/

/-- The definitions that can be prepared, each once. -/
def accepted (filters : List Filter) : List DefinitionId :=
  ((filters.filter fun filter => filter.prepare.isOk).map Filter.definition).dedup

theorem mem_accepted_iff {id : DefinitionId} :
    id ∈ accepted filters ↔ ∃ f ∈ filters, f.prepare.isOk ∧ f.definition = id := by
  simp only [accepted, List.mem_dedup, List.mem_map, List.mem_filter, and_assoc]

/-- There are never more plans than definitions that can be prepared. -/
theorem size_run_le_accepted (options : PlannerOptions) (filters : List Filter)
    (schedule : List Move) :
    ((Crew.new (.new options) filters).run schedule).planner.cache.size ≤
      (accepted filters).length := by
  have distinct : ((Crew.new (.new options) filters).run schedule).planner.cache.ids.Nodup :=
    nodup_ids_run List.nodup_nil
  rw [PlanCache.size_eq_length_ids]
  refine (List.subperm_of_subset distinct fun id mem => ?_).length_le
  obtain ⟨issued, hget⟩ := PlanCache.mem_ids_iff.mp mem
  obtain ⟨f, hf, hid, hprepare⟩ := (serves_run options filters schedule).planner id issued hget
  exact mem_accepted_iff.mpr ⟨f, hf, by rw [hprepare]; rfl, hid⟩

/-- **When a limit is respected under all schedules**: if it is zero, or if there are no more
definitions that can be prepared. -/
theorem size_run_le_limit_iff (limit : UInt64) (filters : List Filter) :
    (∀ schedule, ((Crew.new (.new ⟨some limit⟩) filters).run schedule).planner.cache.size ≤
      limit.toNat) ↔ limit = 0 ∨ (accepted filters).length ≤ limit.toNat := by
  constructor
  · intro respected
    by_cases positive : limit = 0
    · exact .inl positive
    · have all : accepted filters ⊆ ((Crew.new (.new ⟨some limit⟩) filters).run
          (lockstep filters.length)).planner.cache.ids := by
        intro id mem
        obtain ⟨f, hf, ok, rfl⟩ := mem_accepted_iff.mp mem
        exact mem_ids_lockstep positive hf ok
      have kept := (List.subperm_of_subset (List.nodup_dedup _) all).length_le
      rw [← PlanCache.size_eq_length_ids] at kept
      exact .inr (Nat.le_trans kept (respected (lockstep filters.length)))
  · rintro (rfl | few) schedule
    · exact size_run_le (p := .new ⟨some 0⟩) rfl (Nat.le_refl _) filters schedule
    · exact Nat.le_trans (size_run_le_accepted _ filters schedule) few

/-- Two calls for different definitions outgrow a limit of one. -/
theorem not_size_run_le_one :
    ¬ ∀ schedule, ((Crew.new (.new ⟨some 1⟩) [(Gallery.both "Ann" 3).toFilter,
      (Gallery.intRange 0 9).toFilter]).run schedule).planner.cache.size ≤ 1 :=
  fun respected => absurd (respected (lockstep 2)) (by decide)

end Crew

end PreparedFilter

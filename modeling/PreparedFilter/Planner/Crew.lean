import PreparedFilter.Planner

/-!
# Concurrent requests

Several requests to one planner at a time. A request is a `Call` that goes through stages, and
touches the planner once in every step: it looks the definition up, counts the hit or the miss,
reads the size of the cache if there is a limit, and keeps its plan. Between two steps of a call,
any steps of other calls may come, the cache may be cleared, and either counter may be reset.

A `Crew` is a planner with its calls. A schedule is a list of moves; `Crew.run` plays it. A call
that ran alone to its end leaves the planner as `Planner.planFor` does.
-/

namespace PreparedFilter

/-- The stages of a request. -/
inductive Call where
  /-- About to look the definition up. -/
  | start (filter : Filter)
  /-- Found a plan and is about to count the hit. -/
  | found (kept : Issued)
  /-- Found no plan and is about to count the miss and prepare one. -/
  | missed (filter : Filter)
  /-- Has a plan and is about to compare the size of the cache with the limit. -/
  | checking (id : DefinitionId) (issued : Issued)
  /-- Is about to keep its plan. -/
  | keeping (id : DefinitionId) (issued : Issued)
  /-- Is over. -/
  | done (result : Except Fault Issued)

namespace Call

/-- One step of a call. -/
def step (p : Planner) : Call → Planner × Call
  | start filter =>
    match p.cache.get? filter.definition with
    | some kept => (p, found kept)
    | none => (p, missed filter)
  | found kept => (p.countHit, done (.ok kept))
  | missed filter =>
    match filter.prepare with
    | .error fault => (p.countMiss, done (.error fault))
    | .ok plan =>
      let (p, issued) := p.countMiss.issue plan
      if p.options.limit.isSome then (p, checking filter.definition issued)
      else (p, keeping filter.definition issued)
  | checking id issued => if p.isFull then (p, done (.ok issued)) else (p, keeping id issued)
  | keeping id issued =>
    let (p, kept) := p.keep id issued
    (p, done (.ok kept))
  | done result => (p, done result)

/-- The outcome of a call that is over. -/
def result? : Call → Option (Except Fault Issued)
  | done result => some result
  | _ => none

/-- Whether two outcomes are equal plans or equal faults. -/
def sameOutcome : Except Fault Issued → Except Fault Issued → Bool
  | .ok a, .ok b => a.plan == b.plan
  | .error e, .error f => e == f
  | _, _ => false

end Call

/-- A planner and the calls that share it. -/
structure Crew where
  planner : Planner
  calls : List Call

/-- What may happen next. -/
inductive Move where
  /-- The call of an index takes a step. -/
  | step (index : Nat)
  /-- The cache is cleared. -/
  | clear
  /-- The count of hits is set to zero. -/
  | resetHits
  /-- The count of misses is set to zero. -/
  | resetMisses
  deriving DecidableEq

namespace Crew

/-- A crew whose calls are about to start. -/
def new (planner : Planner) (filters : List Filter) : Crew := ⟨planner, filters.map Call.start⟩

/-- Plays one move. A step of a call that is over or does not exist changes nothing. -/
def move (crew : Crew) : Move → Crew
  | .step index =>
    match crew.calls[index]? with
    | none => crew
    | some call =>
      let (planner, call) := call.step crew.planner
      ⟨planner, crew.calls.set index call⟩
  | .clear => { crew with planner := crew.planner.clear }
  | .resetHits => { crew with planner := { crew.planner with hits := 0 } }
  | .resetMisses => { crew with planner := { crew.planner with misses := 0 } }

/-- Plays a schedule. -/
def run (crew : Crew) (schedule : List Move) : Crew := schedule.foldl move crew

/-- The schedule in which all calls take their first step, then all their second, and so on. Four
steps bring every call to its end. -/
def lockstep (calls : Nat) : List Move :=
  (List.range 4).flatMap fun _ => (List.range calls).map Move.step

/-- The outcomes of the calls that are over, in the order of the calls. -/
def results (crew : Crew) : List (Except Fault Issued) := crew.calls.filterMap Call.result?

end Crew

end PreparedFilter

import PreparedFilter.Filter

/-!
# The planner

A planner prepares each definition once and keeps the plans by the identity of the definition. It
counts the requests that found a plan and those that did not. With a limit, a plan that finds the
cache full is still handed out, but not kept. A kept plan is never replaced until the cache is
cleared.

The counters are idealized: they are natural numbers and never overflow. A counter of one machine
word would start anew after as many requests as the word has values.

Every plan that is handed out for the first time gets a number (`Issued.serial`), so two requests
got the same plan, and not just an equal one, exactly when the numbers are equal.
-/

namespace PreparedFilter

/-- A plan as it was handed out, with a number of its own. -/
structure Issued where
  serial : Nat
  plan : Plan
  deriving DecidableEq

/-! ## The cache -/

/-- The kept plans, oldest first. -/
structure PlanCache where
  entries : List (DefinitionId × Issued)
  deriving DecidableEq

namespace PlanCache

/-- A cache without plans. -/
def empty : PlanCache := ⟨[]⟩

/-- The plan kept for a definition. -/
def get? (c : PlanCache) (id : DefinitionId) : Option Issued := c.entries.lookup id

/-- Whether a plan is kept for a definition. -/
def contains (c : PlanCache) (id : DefinitionId) : Bool := (c.get? id).isSome

/-- The definitions whose plans are kept, oldest first. -/
def ids (c : PlanCache) : List DefinitionId := c.entries.map Prod.fst

/-- The number of kept plans. -/
def size (c : PlanCache) : Nat := c.entries.length

/-- Keeps a plan for a definition, unless one is kept already. Returns the kept plan. -/
def getOrInsert (c : PlanCache) (id : DefinitionId) (issued : Issued) : PlanCache × Issued :=
  match c.get? id with
  | some kept => (c, kept)
  | none => (⟨c.entries ++ [(id, issued)]⟩, issued)

end PlanCache

/-! ## The planner -/

/-- The choices in keeping plans. -/
structure PlannerOptions where
  /-- How many plans are kept at most. -/
  limit : Option UInt64
  deriving DecidableEq

/-- The usual planner keeps every plan. -/
def PlannerOptions.standard : PlannerOptions := ⟨none⟩

/-- A cache of plans with its counters. -/
structure Planner where
  options : PlannerOptions
  cache : PlanCache
  /-- How many requests found a plan, counted without a bound. -/
  hits : Nat
  /-- How many requests found none, counted without a bound. -/
  misses : Nat
  /-- How many plans were prepared, which is the next number to give out. -/
  prepared : Nat
  deriving DecidableEq

namespace Planner

/-- A planner that keeps no plan yet. -/
def new (options : PlannerOptions) : Planner := ⟨options, .empty, 0, 0, 0⟩

/-- Whether the limit is reached. -/
def isFull (p : Planner) : Bool :=
  match p.options.limit with
  | none => false
  | some limit => decide (limit.toNat ≤ p.cache.size)

/-- Counts a request that found a plan. -/
def countHit (p : Planner) : Planner := { p with hits := p.hits + 1 }

/-- Counts a request that found no plan. -/
def countMiss (p : Planner) : Planner := { p with misses := p.misses + 1 }

/-- Gives a number to a plan. -/
def issue (p : Planner) (plan : Plan) : Planner × Issued :=
  ({ p with prepared := p.prepared + 1 }, ⟨p.prepared, plan⟩)

/-- Keeps a plan, unless one is kept already. Returns the kept plan. -/
def keep (p : Planner) (id : DefinitionId) (issued : Issued) : Planner × Issued :=
  let (cache, kept) := p.cache.getOrInsert id issued
  ({ p with cache }, kept)

/-- The plan for a filter: the kept one if there is one, else a new one, which is kept unless the
cache is full. -/
def planFor (p : Planner) (filter : Filter) : Planner × Except Fault Issued :=
  match p.cache.get? filter.definition with
  | some kept => (p.countHit, .ok kept)
  | none =>
    match filter.prepare with
    | .error fault => (p.countMiss, .error fault)
    | .ok plan =>
      let (p, issued) := p.countMiss.issue plan
      if p.isFull then (p, .ok issued)
      else
        let (p, kept) := p.keep filter.definition issued
        (p, .ok kept)

/-- The query document of a filter. -/
def encode (p : Planner) (style : QueryStyle) (filter : Filter) :
    Planner × Except Failure Document :=
  match p.planFor filter with
  | (p, .error fault) => (p, .error (.fault fault))
  | (p, .ok issued) => (p, issued.plan.renderFilter style filter)

/-- Drops all kept plans. The counters stay. -/
def clear (p : Planner) : Planner := { p with cache := .empty }

/-- Sets the counters to zero. The kept plans stay. -/
def resetCounters (p : Planner) : Planner := { p with hits := 0, misses := 0 }

end Planner

end PreparedFilter

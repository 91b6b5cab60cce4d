import Mathlib.Data.List.DropRight
import PreparedFilter.Gallery.Filters
import PreparedFilter.Proofs.Planner.History

/-!
# The books of a planner

What a planner keeps and counts can be read off its history (`books_run`). The kept definitions are
the first distinct ones whose plans were obtained since the cache was cleared, as many as the limit
admits. The hits are the requests since the counters were reset that asked for a kept plan, and the
misses are the other requests for plans, whatever came of them.

A history is read as a log: every request with the planner that it was put to. The invariant
`Planner.Balanced` relates a planner to the log that led to it, and one more request keeps it
(`Balanced.after`).
-/

namespace PreparedFilter

/-! ## Logs -/

/-- A request with the planner that it was put to. -/
structure Entry where
  planner : Planner
  request : Request

namespace Entry

/-- The definition whose plan is asked for. -/
def definition? (e : Entry) : Option DefinitionId := e.request.filter?.map Filter.definition

/-- Whether a plan is asked for. -/
def asks (e : Entry) : Bool := e.definition?.isSome

/-- Whether the plan that is asked for is kept already. -/
def finds (e : Entry) : Bool := e.definition?.any e.planner.cache.contains

/-- The definition whose plan is asked for, if the planner has one to give. -/
def obtained? (e : Entry) : Option DefinitionId :=
  match e.request.filter? with
  | none => none
  | some filter => if (e.planner.planFor filter).2.isOk then some filter.definition else none

/-- Whether the cache is cleared. -/
def clears (e : Entry) : Bool :=
  match e.request with
  | .clear => true
  | _ => false

/-- Whether the counters are reset. -/
def resets (e : Entry) : Bool :=
  match e.request with
  | .resetCounters => true
  | _ => false

variable {e : Entry} {filter : Filter}

theorem clears_of_filter? (h : e.request.filter? = some filter) : e.clears = false := by
  unfold clears
  split
  · next same =>
    rw [same] at h
    cases h
  · rfl

theorem resets_of_filter? (h : e.request.filter? = some filter) : e.resets = false := by
  unfold resets
  split
  · next same =>
    rw [same] at h
    cases h
  · rfl

theorem asks_of_filter? (h : e.request.filter? = some filter) : e.asks = true := by
  rw [asks, definition?, h]
  rfl

theorem asks_of_finds (h : e.finds = true) : e.asks = true := by
  unfold finds at h
  unfold asks
  cases hdefinition : e.definition? with
  | none =>
    rw [hdefinition] at h
    cases h
  | some id => rfl

theorem finds_of_filter? (h : e.request.filter? = some filter) :
    e.finds = e.planner.cache.contains filter.definition := by
  rw [finds, definition?, h]
  rfl

/-- A request about a filter obtains a plan exactly if the planner has one for it. -/
theorem obtained?_of_filter? (h : e.request.filter? = some filter) :
    e.obtained? =
      if (e.planner.planFor filter).2.isOk then some filter.definition else none := by
  rw [obtained?, h]

end Entry

/-- The entries after the last one at which something happened. -/
def since (event : Entry → Bool) (log : List Entry) : List Entry :=
  log.rtakeWhile fun e => !event e

/-- The log of a history. -/
def Planner.log (p : Planner) : List Request → List Entry
  | [] => []
  | request :: history => ⟨p, request⟩ :: (p.after request).log history

/-- The log of one more request has one more entry, with the planner after all earlier requests. -/
theorem Planner.log_append_singleton (p : Planner) (history : List Request) (request : Request) :
    p.log (history ++ [request]) = p.log history ++ [⟨p.run history, request⟩] := by
  induction history generalizing p with
  | nil => rfl
  | cons first history ih =>
    rw [List.cons_append, log, ih, log, List.cons_append, run_cons]

section

variable {log : List Entry} {e : Entry}

theorem since_append_of_event {event : Entry → Bool} (h : event e = true) :
    since event (log ++ [e]) = [] := by
  rw [since, List.rtakeWhile_concat, h]
  rfl

theorem since_append {event : Entry → Bool} (h : event e = false) :
    since event (log ++ [e]) = since event log ++ [e] := by
  rw [since, List.rtakeWhile_concat, h]
  rfl

end

/-! ## What a limit admits -/

/-- The definitions that are kept if plans are obtained in a given order: the distinct ones, up to
the limit. -/
def PlannerOptions.admitted (options : PlannerOptions) (ids : List DefinitionId) :
    List DefinitionId :=
  match options.limit with
  | none => ids.eraseDups
  | some limit => ids.eraseDups.take limit.toNat

theorem eraseDups_append_singleton_of_mem {ids : List DefinitionId} {id : DefinitionId}
    (h : id ∈ ids) : (ids ++ [id]).eraseDups = ids.eraseDups := by
  have old : [id].removeAll ids = [] := by simp [List.removeAll, h]
  rw [List.eraseDups_append, old, List.eraseDups_nil, List.append_nil]

theorem eraseDups_append_singleton_of_not_mem {ids : List DefinitionId} {id : DefinitionId}
    (h : id ∉ ids) : (ids ++ [id]).eraseDups = ids.eraseDups ++ [id] := by
  have new : [id].removeAll ids = [id] := by simp [List.removeAll, h]
  rw [List.eraseDups_append, new]
  rfl

namespace Planner

section

variable {p : Planner} {ids : List DefinitionId} {id : DefinitionId}

theorem mem_of_mem_admitted {options : PlannerOptions} (h : id ∈ options.admitted ids) :
    id ∈ ids := by
  unfold PlannerOptions.admitted at h
  split at h
  · exact List.mem_eraseDups.mp h
  · exact List.mem_eraseDups.mp (List.mem_of_mem_take h)

/-- A definition that is kept already changes nothing. -/
theorem admitted_append_of_mem (same : p.cache.ids = p.options.admitted ids)
    (present : id ∈ p.cache.ids) : p.options.admitted (ids ++ [id]) = p.cache.ids := by
  rw [same] at present ⊢
  unfold PlannerOptions.admitted
  rw [eraseDups_append_singleton_of_mem (mem_of_mem_admitted present)]

/-- Behind a limit that is reached, nothing is admitted. -/
theorem admitted_append_of_full (same : p.cache.ids = p.options.admitted ids)
    (full : p.isFull = true) : p.options.admitted (ids ++ [id]) = p.cache.ids := by
  by_cases old : id ∈ ids
  · rw [same]
    unfold PlannerOptions.admitted
    rw [eraseDups_append_singleton_of_mem old]
  · cases hlimit : p.options.limit with
    | none =>
      rw [isFull, hlimit] at full
      cases full
    | some limit =>
      have hids : p.cache.ids = ids.eraseDups.take limit.toNat := by
        rw [same, PlannerOptions.admitted, hlimit]
      have hsize : limit.toNat ≤ p.cache.ids.length := by
        rw [← PlanCache.size_eq_length_ids]
        exact (isFull_eq_true_iff hlimit).mp full
      rw [hids, List.length_take] at hsize
      rw [PlannerOptions.admitted, hlimit, hids]
      show (ids ++ [id]).eraseDups.take limit.toNat = _
      rw [eraseDups_append_singleton_of_not_mem old, List.take_append_of_le_length (by omega)]

/-- Below the limit, a new definition is admitted. -/
theorem admitted_append_of_room (same : p.cache.ids = p.options.admitted ids)
    (absent : id ∉ p.cache.ids) (room : p.isFull = false) :
    p.options.admitted (ids ++ [id]) = p.cache.ids ++ [id] := by
  cases hlimit : p.options.limit with
  | none =>
    have hids : p.cache.ids = ids.eraseDups := by rw [same, PlannerOptions.admitted, hlimit]
    have new : id ∉ ids := fun old => absent (by rw [hids]; exact List.mem_eraseDups.mpr old)
    rw [PlannerOptions.admitted, hlimit, hids]
    exact eraseDups_append_singleton_of_not_mem new
  | some limit =>
    have hids : p.cache.ids = ids.eraseDups.take limit.toNat := by
      rw [same, PlannerOptions.admitted, hlimit]
    have hsize : p.cache.ids.length < limit.toNat := by
      rw [← PlanCache.size_eq_length_ids]
      exact (isFull_eq_false_iff hlimit).mp room
    -- fewer definitions than the limit were obtained, so all of them are kept
    have hall : p.cache.ids = ids.eraseDups := by
      rw [hids, List.length_take] at hsize
      rw [hids, List.take_of_length_le (by omega)]
    have new : id ∉ ids := fun old => absent (by rw [hall]; exact List.mem_eraseDups.mpr old)
    rw [PlannerOptions.admitted, hlimit]
    show (ids ++ [id]).eraseDups.take limit.toNat = _
    rw [eraseDups_append_singleton_of_not_mem new, ← hall]
    exact List.take_of_length_le (by rw [List.length_append, List.length_singleton]; omega)

end

/-! ## The invariant -/

/-- What a planner keeps and counts is what the log says that led to it. -/
structure Balanced (p : Planner) (log : List Entry) : Prop where
  /-- The kept definitions are those admitted since the cache was cleared. -/
  ids : p.cache.ids = p.options.admitted ((since Entry.clears log).filterMap Entry.obtained?)
  /-- The hits are the requests since the counters were reset that asked for a kept plan. -/
  hits : p.hits = (since Entry.resets log).countP Entry.finds
  /-- The misses are the other requests for plans since then. -/
  misses : p.misses = (since Entry.resets log).countP fun e => e.asks && !e.finds

theorem balanced_new (options : PlannerOptions) : (new options).Balanced [] := by
  refine ⟨?_, rfl, rfl⟩
  show [] = options.admitted []
  unfold PlannerOptions.admitted
  split
  · rfl
  · rw [List.eraseDups_nil, List.take_nil]

variable {p p' : Planner} {log : List Entry}

/-- One more entry that neither clears nor resets. -/
theorem Balanced.append (h : p.Balanced log) {e : Entry} (hclears : e.clears = false)
    (hresets : e.resets = false) (hoptions : p'.options = p.options)
    (hids : p'.cache.ids =
      p.options.admitted ((since Entry.clears log).filterMap Entry.obtained? ++ e.obtained?.toList))
    (hhits : p'.hits = p.hits + if e.finds then 1 else 0)
    (hmisses : p'.misses = p.misses + if e.asks && !e.finds then 1 else 0) :
    p'.Balanced (log ++ [e]) := by
  refine ⟨?_, ?_, ?_⟩
  · rw [hids, hoptions, since_append hclears, List.filterMap_append]
    cases hobtained : e.obtained? with
    | none => rw [List.filterMap_cons_none hobtained]; rfl
    | some id => rw [List.filterMap_cons_some hobtained]; rfl
  · rw [hhits, h.hits, since_append hresets, List.countP_append, List.countP_singleton]
  · rw [hmisses, h.misses, since_append hresets, List.countP_append, List.countP_singleton]

/-- A request for a plan keeps the books. -/
theorem Balanced.planFor (h : p.Balanced log) {request : Request} {filter : Filter}
    (hfilter : request.filter? = some filter) :
    (p.planFor filter).1.Balanced (log ++ [⟨p, request⟩]) := by
  have append := @Balanced.append _ (p.planFor filter).1 _ h ⟨p, request⟩
    (Entry.clears_of_filter? hfilter) (Entry.resets_of_filter? hfilter)
  rw [Entry.asks_of_filter? hfilter, Entry.finds_of_filter? hfilter,
    Entry.obtained?_of_filter? hfilter] at append
  have outcome := planFor_planFor p filter
  generalize p.planFor filter = result at outcome append ⊢
  cases outcome with
  | kept kept present =>
    have hmem : filter.definition ∈ p.cache.ids := PlanCache.mem_ids_iff.mpr ⟨kept, present⟩
    rw [PlanCache.contains_iff.mpr hmem] at append
    exact append rfl (admitted_append_of_mem h.ids hmem).symm rfl rfl
  | defect fault absent _ =>
    rw [PlanCache.contains_of_absent absent] at append
    refine append rfl ?_ rfl rfl
    show p.cache.ids = p.options.admitted (_ ++ [])
    rw [List.append_nil, h.ids]
  | full plan absent _ full =>
    rw [PlanCache.contains_of_absent absent] at append
    exact append rfl (admitted_append_of_full h.ids full).symm rfl rfl
  | room plan absent _ room =>
    rw [PlanCache.contains_of_absent absent] at append
    refine append rfl ?_ rfl rfl
    refine (PlanCache.ids_append p.cache filter.definition _).trans ?_
    exact (admitted_append_of_room h.ids (PlanCache.get?_eq_none_iff.mp absent) room).symm

/-- **One more request keeps the books.** -/
theorem Balanced.after (h : p.Balanced log) (request : Request) :
    (p.after request).Balanced (log ++ [⟨p, request⟩]) := by
  cases hfilter : request.filter? with
  | some filter =>
    rw [after_of_filter? hfilter]
    exact h.planFor hfilter
  | none =>
    cases request with
    | analyze filter => cases hfilter
    | encode codec filter => cases hfilter
    | clear =>
      refine ⟨?_, ?_, ?_⟩
      · rw [since_append_of_event rfl]
        exact (balanced_new p.options).ids
      · rw [since_append rfl, List.countP_append]
        exact h.hits
      · rw [since_append rfl, List.countP_append]
        exact h.misses
    | resetCounters =>
      refine ⟨?_, ?_, ?_⟩
      · rw [since_append rfl, List.filterMap_append]
        show p.cache.ids = p.options.admitted (_ ++ [])
        rw [List.append_nil, h.ids]
      · rw [since_append_of_event rfl]
        rfl
      · rw [since_append_of_event rfl]
        rfl

/-- The invariant holds after any history, by one request after the other. -/
theorem balanced_run (options : PlannerOptions) (history : List Request) :
    ((new options).run history).Balanced ((new options).log history) := by
  induction history using List.reverseRecOn with
  | nil => exact balanced_new options
  | append_singleton history request ih =>
    rw [log_append_singleton, run_append]
    exact ih.after request

/-! ## What stays -/

theorem options_planFor (p : Planner) (filter : Filter) :
    (p.planFor filter).1.options = p.options := by
  have outcome := planFor_planFor p filter
  generalize p.planFor filter = result at outcome ⊢
  cases outcome <;> rfl

theorem options_run (p : Planner) (history : List Request) :
    (p.run history).options = p.options := by
  induction history using List.reverseRecOn with
  | nil => rfl
  | append_singleton history request ih =>
    rw [run_append, ← ih]
    show ((p.run history).after request).options = _
    cases hfilter : request.filter? with
    | some filter => rw [after_of_filter? hfilter, options_planFor]
    | none =>
      cases request with
      | analyze filter => cases hfilter
      | encode codec filter => cases hfilter
      | clear => rfl
      | resetCounters => rfl

/-- A request for a plan replaces no kept plan. -/
theorem get?_planFor {id : DefinitionId} {issued : Issued} (kept : p.cache.get? id = some issued)
    (filter : Filter) : (p.planFor filter).1.cache.get? id = some issued := by
  rcases planFor_cache p filter with same | ⟨plan, -, longer⟩
  · rw [same, kept]
  · rw [longer, PlanCache.get?_append, kept]
    rfl

/-- A kept plan is not replaced until the cache is cleared. -/
theorem get?_run {id : DefinitionId} {issued : Issued} (kept : p.cache.get? id = some issued)
    {history : List Request} (uncleared : .clear ∉ history) :
    (p.run history).cache.get? id = some issued := by
  induction history generalizing p with
  | nil => exact kept
  | cons request history ih =>
    rw [run_cons]
    refine ih ?_ fun later => uncleared (List.mem_cons_of_mem request later)
    cases hfilter : request.filter? with
    | some filter =>
      rw [after_of_filter? hfilter]
      exact get?_planFor kept filter
    | none =>
      cases request with
      | analyze filter => cases hfilter
      | encode codec filter => cases hfilter
      | clear => exact absurd List.mem_cons_self uncleared
      | resetCounters => exact kept

/-! ## The books -/

/-- A limit admits no more definitions than it says. -/
theorem length_admitted_le {options : PlannerOptions} {limit : UInt64}
    (h : options.limit = some limit) (ids : List DefinitionId) :
    (options.admitted ids).length ≤ limit.toNat := by
  rw [PlannerOptions.admitted, h]
  exact List.length_take_le limit.toNat ids.eraseDups

/-- A request for a plan is a hit or a miss, and no other request is. -/
theorem countP_finds_add (log : List Entry) :
    log.countP Entry.finds + log.countP (fun e => e.asks && !e.finds) = log.countP Entry.asks := by
  induction log with
  | nil => rfl
  | cons e log ih =>
    rw [List.countP_cons, List.countP_cons, List.countP_cons]
    cases hfinds : e.finds with
    | true =>
      rw [Entry.asks_of_finds hfinds]
      simp only [Bool.not_true, Bool.and_false, if_true, Bool.false_eq_true, if_false]
      omega
    | false =>
      simp only [Bool.not_false, Bool.and_true, Bool.false_eq_true, if_false]
      omega

/-- **The books of a planner**, after any history. The first part says which definitions are kept,
and the next two that the limit is respected and that a kept plan stays as it is until the cache is
cleared. Then the counters follow: what they count, what they add up to, and that clearing the cache
does not touch them, nor resetting them the cache. -/
theorem books_run (options : PlannerOptions) (history : List Request) :
    let p := (new options).run history
    let log := (new options).log history
    p.cache.ids = options.admitted ((since Entry.clears log).filterMap Entry.obtained?) ∧
      (∀ limit, options.limit = some limit → p.cache.size ≤ limit.toNat) ∧
      (∀ before since id issued, history = before ++ since → .clear ∉ since →
        ((new options).run before).cache.get? id = some issued →
          p.cache.get? id = some issued) ∧
      p.hits = (since Entry.resets log).countP Entry.finds ∧
      p.misses = (since Entry.resets log).countP (fun e => e.asks && !e.finds) ∧
      p.hits + p.misses = (since Entry.resets log).countP Entry.asks ∧
      p.clear.hits = p.hits ∧ p.clear.misses = p.misses ∧ p.resetCounters.cache = p.cache := by
  intro p log
  obtain ⟨hids, hhits, hmisses⟩ := balanced_run options history
  rw [options_run] at hids
  refine ⟨hids, ?_, ?_, hhits, hmisses, ?_, rfl, rfl, rfl⟩
  · intro limit hlimit
    rw [PlanCache.size_eq_length_ids, hids]
    exact length_admitted_le hlimit _
  · rintro before since id issued hhistory uncleared kept
    show ((new options).run history).cache.get? id = some issued
    rw [hhistory, run_append]
    exact get?_run kept uncleared
  · rw [hhits, hmisses]
    exact countP_finds_add _

/-- With room for one plan, the one kept after clearing stays and is found again; another definition
misses, and so does a refused one. -/
theorem books_run_one :
    let kept := (Gallery.intRange 0 9).toFilter
    let before : List Request :=
      [.analyze (Gallery.both "Ann" 3).toFilter, .analyze (Gallery.flagGt true).toFilter,
        .encode ⟨Gallery.foo, .standard⟩ (Gallery.both "Bob" 4).toFilter, .clear, .analyze kept]
    let since : List Request :=
      [.resetCounters, .analyze (Gallery.both "Cid" 5).toFilter,
        .analyze (Gallery.intRange 1 8).toFilter, .analyze (Gallery.flagGt false).toFilter]
    let p := (new ⟨some 1⟩).run (before ++ since)
    p.cache.ids = [kept.definition] ∧ p.cache.size ≤ 1 ∧
      (p.cache.get? kept.definition).map Issued.serial = some 1 ∧
      p.hits = 1 ∧ p.misses = 2 ∧ p.hits + p.misses = 3 := by
  intro kept before since p
  obtain ⟨hids, hsize, hkept, hhits, hmisses, hsum, -⟩ := books_run ⟨some 1⟩ (before ++ since)
  have uncleared : Request.clear ∉ since := by simp [since]
  have hget := hkept before since kept.definition
    (((new ⟨some 1⟩).run before).cache.get? kept.definition |>.get rfl) rfl uncleared rfl
  exact ⟨hids, hsize 1 rfl, congrArg (Option.map Issued.serial) hget, hhits, hmisses, hsum⟩

end Planner

end PreparedFilter

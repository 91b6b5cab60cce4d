import PreparedFilter.Gallery.Filters
import PreparedFilter.Proofs.Planner.History

/-!
# Transparency of the cache

A planner answers as a new one does, whatever it was asked before (`encode_run`). The limit, the
order of the requests, the values of the filters in them and the faults they ended with cannot be
seen in the answer.

What carries this is that a kept plan is the preparation of a filter that was asked about, and kept
for the identity of that filter (`Planner.Faithful`). A later filter of this identity has the same
preparation, since filters of equal identity agree.
-/

namespace PreparedFilter

/-- Filters of one definition that agree have the same preparation, or the same fault. -/
theorem Filter.Agree.prepare_eq {f g : Filter} (agree : f.Agree g)
    (same : f.definition = g.definition) : f.prepare = g.prepare := by
  obtain ⟨hschema, hpredicate⟩ := agree same
  unfold Filter.prepare
  rw [same, hschema, hpredicate]

namespace Planner

/-- Every kept plan is the preparation of one of the filters, kept for its identity. -/
def Faithful (p : Planner) (filters : List Filter) : Prop :=
  ∀ id issued, p.cache.get? id = some issued →
    ∃ f ∈ filters, f.definition = id ∧ f.prepare = .ok issued.plan

variable {p : Planner} {filters : List Filter}

theorem faithful_new (options : PlannerOptions) : (new options).Faithful [] := by
  intro id issued h
  cases h

/-- A cleared planner keeps nothing. -/
theorem faithful_clear (p : Planner) (filters : List Filter) : p.clear.Faithful filters := by
  intro id issued h
  cases h

theorem Faithful.mono {more : List Filter} (h : p.Faithful filters) (sub : filters ⊆ more) :
    p.Faithful more := by
  intro id issued hget
  obtain ⟨f, hf, hid, hprepare⟩ := h id issued hget
  exact ⟨f, sub hf, hid, hprepare⟩

/-! ## What requests preserve -/

/-- The preparation of one of the filters may be put behind the others. -/
theorem Faithful.append (h : p.Faithful filters) {p' : Planner} {filter : Filter} {issued : Issued}
    (mem : filter ∈ filters) (prepared : filter.prepare = .ok issued.plan)
    (longer : p'.cache = ⟨p.cache.entries ++ [(filter.definition, issued)]⟩) :
    p'.Faithful filters := by
  -- a plan found in the longer cache is an old one, or the one that `filter` put there
  intro id found hget
  rw [longer, PlanCache.get?_append, Option.or_eq_some_iff] at hget
  rcases hget with old | ⟨-, own⟩
  · exact h id found old
  · split at own
    · next same =>
      cases own
      exact ⟨filter, mem, same.symm, prepared⟩
    · cases own

/-- A request about a filter adds at most the preparation of this filter. -/
theorem Faithful.planFor (h : p.Faithful filters) (filter : Filter) :
    (p.planFor filter).1.Faithful (filters ++ [filter]) := by
  have before := h.mono (List.subset_append_left filters [filter])
  rcases planFor_cache p filter with same | ⟨plan, hprepare, longer⟩
  · intro id issued hget
    rw [same] at hget
    exact before id issued hget
  · exact before.append (List.mem_append_right filters (List.mem_singleton_self filter)) hprepare
      longer

/-- Whatever a request asks, only the preparation of its own filter can be added. -/
theorem Faithful.after (h : p.Faithful filters) (request : Request) :
    (p.after request).Faithful (filters ++ request.filter?.toList) := by
  cases request with
  | analyze filter => exact h.planFor filter
  | encode codec filter =>
    show (p.encode codec.style filter).1.Faithful (filters ++ [filter])
    rw [encode_fst]
    exact h.planFor filter
  | clear => exact p.faithful_clear _
  | resetCounters => exact h.mono (List.subset_append_left filters _)

/-- After a history, the kept plans are those of filters in it. -/
theorem Faithful.run (h : p.Faithful filters) (history : List Request) :
    (p.run history).Faithful (filters ++ history.filterMap Request.filter?) :=
  run_induction (P := fun filters p => p.Faithful filters)
    (fun _ _ request before => before.after request) h history

/-! ## Answers -/

/-- A request obtains what preparation gives, whether the plan was kept or not. -/
theorem Faithful.planFor_plan_eq (h : p.Faithful filters) {filter : Filter}
    (agree : ∀ g ∈ filters, g.Agree filter) :
    (p.planFor filter).2.map Issued.plan = filter.prepare := by
  rw [planFor_plan]
  cases hget : p.cache.get? filter.definition with
  | none => rfl
  | some kept =>
    obtain ⟨f, hf, hid, hprepare⟩ := h filter.definition kept hget
    rw [← (agree f hf).prepare_eq hid, hprepare]

/-- Encoding gives what a preparation of its own would give the filter. -/
theorem Faithful.encode_eq (h : p.Faithful filters) (style : QueryStyle) (filter : Filter)
    (agree : ∀ g ∈ filters, g.Agree filter) :
    (p.encode style filter).2 = (do
      let plan ← Failure.lift filter.prepare
      plan.renderFilter style filter) := by
  rw [encode_snd, h.planFor_plan_eq agree]

/-- **After any history, a codec answers as it does with a new planner**: with the query document
that the preparation of the filter itself makes of the values of the filter itself, or with the
fault of either. -/
theorem encode_run (options : PlannerOptions) (history : List Request) (codec : FilterCodec)
    (filter : Filter) (agree : ∀ g ∈ history.filterMap Request.filter?, g.Agree filter) :
    (codec.encode ((new options).run history) filter).2 = (codec.encode (new options) filter).2 ∧
      (codec.encode (new options) filter).2 = (do
        let plan ← Failure.lift filter.prepare
        plan.renderFilter codec.style filter) := by
  have used := ((faithful_new options).run history).encode_eq codec.style filter agree
  have fresh := (faithful_new options).encode_eq codec.style filter
    fun _ none => absurd none List.not_mem_nil
  exact ⟨used.trans fresh.symm, fresh⟩

theorem encode_run_both :
    let history : List Request :=
      [.encode ⟨Gallery.foo, .standard⟩ (Gallery.both "Ann" 3).toFilter,
        .analyze Gallery.dangling.toFilter, .clear,
        .encode ⟨Gallery.foo, ⟨false⟩⟩ (Gallery.both "Bob" 4).toFilter, .resetCounters]
    let filter := (Gallery.both "Cid" 5).toFilter
    (FilterCodec.encode ⟨Gallery.foo, .standard⟩ ((new ⟨some 1⟩).run history) filter).2 =
        (FilterCodec.encode ⟨Gallery.foo, .standard⟩ (new ⟨some 1⟩) filter).2 ∧
      (FilterCodec.encode ⟨Gallery.foo, .standard⟩ (new ⟨some 1⟩) filter).2 = (do
        let plan ← Failure.lift filter.prepare
        plan.renderFilter .standard filter) := by
  intro history filter
  refine encode_run ⟨some 1⟩ history ⟨Gallery.foo, .standard⟩ filter ?_
  intro g hg
  have hmem : g ∈ [(Gallery.both "Ann" 3).toFilter, Gallery.dangling.toFilter,
      (Gallery.both "Bob" 4).toFilter] := hg
  simp only [List.mem_cons, List.not_mem_nil, or_false] at hmem
  rcases hmem with rfl | rfl | rfl
  · exact fun _ => ⟨rfl, rfl⟩
  · intro same
    exact absurd same (by decide)
  · exact fun _ => ⟨rfl, rfl⟩

end Planner

end PreparedFilter

import PreparedFilter.Proofs.Planner.Interleaving

/-!
# Reached planners

The planners that come from a new one by requests one after the other and by calls that share it
under any schedule, also by calls that are not over yet (`Planner.Reached`). A reached planner keeps
preparations of the filters that it was asked about, so a codec answers from the filter alone
(`Reached.encode_eq`).
-/

namespace PreparedFilter

namespace Planner

/-- A planner that was reached from a new one, after it was asked about the filters. -/
inductive Reached : List Filter → Planner → Prop where
  | new (options : PlannerOptions) : Reached [] (new options)
  /-- A request is answered. -/
  | after {filters : List Filter} {p : Planner} (before : Reached filters p) (request : Request) :
      Reached (filters ++ request.filter?.toList) (p.after request)
  /-- Calls about further filters take some of their steps. -/
  | crew {filters : List Filter} {p : Planner} (before : Reached filters p) (further : List Filter)
      (schedule : List Move) :
      Reached (filters ++ further) ((Crew.new p further).run schedule).planner

variable {filters : List Filter} {p : Planner}

/-- Every kept plan is the preparation of a filter that was asked about. -/
theorem Reached.faithful (reached : Reached filters p) : p.Faithful filters := by
  induction reached with
  | new options => exact faithful_new options
  | after _ request ih => exact ih.after request
  | @crew filters p _ further schedule ih =>
    have kept := ih.mono (List.subset_append_left filters further)
    have serving : ((Crew.new p further).run schedule).Serving further
        (fun p => p.Faithful (filters ++ further))
        fun _ filter call => call.Serves (filters ++ further) filter :=
      (Crew.serving_new kept fun _ => rfl).run
        (Crew.respected_serves (List.subset_append_right filters further))
        fun _ p _ => ⟨p.faithful_clear _, fun _ _ known => known⟩
    exact serving.planner

/-- A history of requests leads from a reached planner to a reached one. -/
theorem Reached.run (reached : Reached filters p) (history : List Request) :
    Reached (filters ++ history.filterMap Request.filter?) (p.run history) :=
  run_induction (fun _ _ request before => before.after request) reached history

/-- A codec answers with what the preparation of the filter makes of its values. -/
theorem Reached.encode_eq (reached : Reached filters p) {filter : Filter}
    (agree : ∀ g ∈ filters, g.Agree filter) (codec : FilterCodec) :
    (codec.encode p filter).2 = (do
      let plan ← Failure.lift filter.prepare
      plan.renderFilter codec.style filter) :=
  reached.faithful.encode_eq codec.style filter agree

end Planner

end PreparedFilter

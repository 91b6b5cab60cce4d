import PreparedFilter.Datum.Encoding
import PreparedFilter.Plan.Preparation
import PreparedFilter.Plan.Query

/-!
# Filters

A filter is an instance of a definition: the identity of the definition, the schema of the
documents, the predicate, and the values that the instance captured, or the failure to capture them.
Filters of equal identity are meant to have equal schemas and predicates (`Filter.Agree`); only the
values differ.
-/

namespace PreparedFilter

/-- An instance of a filter definition. -/
structure Filter where
  definition : DefinitionId
  schema : Schema
  predicate : Predicate
  values : Except Failure (List Bson)

namespace Filter

/-- Filters of equal identity are over one schema and have one predicate. -/
def Agree (f g : Filter) : Prop :=
  f.definition = g.definition → f.schema = g.schema ∧ f.predicate = g.predicate

instance (f g : Filter) : Decidable (f.Agree g) :=
  inferInstanceAs (Decidable (_ = _ → _ = _ ∧ _ = _))

/-- The plan of the definition of a filter; a fault names the definition. -/
def prepare (filter : Filter) : Except Fault Plan :=
  (Plan.prepare filter.definition filter.schema filter.predicate).mapError fun defect =>
    (Fault.ofDefect defect).withDefinition filter.definition

end Filter

/-- The query document of a filter from the plan of its definition. A fault in the captured values
names the definition of the plan, too. -/
def Plan.renderFilter (plan : Plan) (style : QueryStyle) (filter : Filter) :
    Except Failure Document := do
  let values ← filter.values.mapError
    (Failure.mapFault fun fault => fault.withDefinition plan.definition)
  Failure.lift (plan.render style values)

end PreparedFilter

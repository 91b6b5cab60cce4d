/-!
# Definitions

The identity of a filter definition: of the fixed shape of a predicate, apart from the values that
its instances capture. Two instances share one prepared plan exactly when their identities are
equal, and identities are equal only if all components are.
-/

namespace PreparedFilter

/-- A place that creates filters: a position in a source text, or a label that stands for one. -/
inductive Site where
  | position (file : String) (line column : Nat)
  | label (name : String)
  deriving DecidableEq

/-- The text of a place. -/
def Site.text : Site → String
  | .position file line column => file ++ ":" ++ toString line ++ ":" ++ toString column
  | .label name => "<" ++ name ++ ">"

/-- The identity of a definition. The types of documents, of captured values and of definitions are
told apart by numbers and names. -/
inductive DefinitionId where
  /-- A function that builds the predicate, given at a site. The site is not enough: a helper that
  passes on different functions creates all its filters at one site. -/
  | located (site : Site) (function documents : Nat) (captures : String)
  /-- A type of filters of its own. -/
  | named (type : Nat) (name : String)
  deriving DecidableEq

/-- The text that messages show for a definition. -/
def DefinitionId.text : DefinitionId → String
  | .located site _ _ _ => site.text
  | .named _ name => name

end PreparedFilter

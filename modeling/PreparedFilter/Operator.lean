import PreparedFilter.TypeSet

/-!
# Operators

The tests that a predicate may make of a field. An operator applies to a field by the types that the
field may hold: the order tests need a type with an order, the array tests need an array, and the
tests for equality and membership always apply.
-/

namespace PreparedFilter

/-- A test of a field against a value. -/
inductive Operator where
  | eq
  | ne
  | gt
  | gte
  | lt
  | lte
  | isIn
  | notIn
  | all
  | elemMatch
  | size
  deriving DecidableEq

namespace Operator

/-- All operators, in increasing order. -/
def list : List Operator := [eq, ne, gt, gte, lt, lte, isIn, notIn, all, elemMatch, size]

/-- The key of an operator in a query document. -/
def key : Operator → String
  | eq => "$eq"
  | ne => "$ne"
  | gt => "$gt"
  | gte => "$gte"
  | lt => "$lt"
  | lte => "$lte"
  | isIn => "$in"
  | notIn => "$nin"
  | all => "$all"
  | elemMatch => "$elemMatch"
  | size => "$size"

/-- The place of an operator in the order of operators. -/
def rank (op : Operator) : Nat := list.idxOf op

/-- Compares operators by their place. -/
def compare (a b : Operator) : Ordering := Ord.compare a.rank b.rank

/-- The operator that holds exactly where the given one does not, for any value. An order test has
none: its negation also holds of documents that lack the field. -/
def negation? : Operator → Option Operator
  | eq => some ne
  | ne => some eq
  | isIn => some notIn
  | notIn => some isIn
  | _ => none

/-- Whether an operator compares by order. -/
def isOrdering : Operator → Bool
  | gt | gte | lt | lte => true
  | _ => false

/-- Whether an operator compares a field with one value. -/
def isComparison : Operator → Bool
  | eq | ne => true
  | op => op.isOrdering

/-- Whether an operator takes an array of values. -/
def isMembership : Operator → Bool
  | isIn | notIn | all => true
  | _ => false

/-- Whether an operator applies to a field that may hold the given types. -/
def appliesTo (op : Operator) (types : TypeSet) : Bool :=
  match op with
  | eq | ne | isIn | notIn => true
  | gt | gte | lt | lte => types.intersects .ordered
  | all | elemMatch | size => types.contains .array

end Operator

end PreparedFilter

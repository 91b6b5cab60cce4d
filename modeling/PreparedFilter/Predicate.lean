import PreparedFilter.Schema
import PreparedFilter.Text.Diagnostic

/-!
# Predicates

What a filter asks of a document, with slots where the values will be. A slot is the position of a
value among the captured ones. A predicate tests fields, groups predicates under "all of" and "any
of", negates, and states criteria for some element of an array field; the criteria speak of the
fields of the elements, so they bring descriptors of their own.

Predicates are compared by structure: two spellings of the same condition are different predicates.
-/

namespace PreparedFilter

/-- How the members of a group are joined. -/
inductive Connective where
  | conjunction
  | disjunction
  deriving DecidableEq

namespace Connective

/-- The other connective. -/
def dual : Connective → Connective
  | conjunction => disjunction
  | disjunction => conjunction

/-- The connective that joins the negated members of a negated group. -/
def under (negated : Bool) (c : Connective) : Connective := if negated then c.dual else c

/-- The noun of a group in messages. -/
def text : Connective → String
  | conjunction => "conjunction"
  | disjunction => "disjunction"

@[simp] theorem dual_dual (c : Connective) : c.dual.dual = c := by cases c <;> rfl

end Connective

/-- A predicate over the fields of a document. -/
inductive Predicate where
  /-- A field tested against the value of a slot. -/
  | test (field : String) (operator : Operator) (position : Nat)
  /-- Some element of an array field, with the given fields, satisfies the criteria. -/
  | element (field : String) (fields : List FieldDescriptor) (criteria : Predicate)
  /-- All members hold, or at least one does. -/
  | group (connective : Connective) (members : List Predicate)
  /-- The inner predicate does not hold. -/
  | not (inner : Predicate)

namespace Predicate

/-- All of the predicates hold. -/
def all (members : List Predicate) : Predicate := .group .conjunction members

/-- At least one of the predicates holds. -/
def any (members : List Predicate) : Predicate := .group .disjunction members

/-- Both predicates hold. -/
instance : AndOp Predicate := ⟨fun p q => .all [p, q]⟩

/-- One of the predicates holds. -/
instance : OrOp Predicate := ⟨fun p q => .any [p, q]⟩

/-- The predicate does not hold. -/
instance : Complement Predicate := ⟨.not⟩

/-! ## Equality -/

mutual

/-- Whether two predicates have the same structure. -/
def same : Predicate → Predicate → Bool
  | .test f op p, .test f' op' p' => f == f' && op == op' && p == p'
  | .element f fs c, .element f' fs' c' => f == f' && fs == fs' && c.same c'
  | .group c ms, .group c' ms' => c == c' && sameAll ms ms'
  | .not p, .not p' => p.same p'
  | _, _ => false

/-- Whether two lists of predicates have the same structure. -/
def sameAll : List Predicate → List Predicate → Bool
  | [], [] => true
  | p :: ps, q :: qs => p.same q && sameAll ps qs
  | _, _ => false

end

mutual

theorem same_iff (p q : Predicate) : p.same q = true ↔ p = q := by
  match p with
  | .test _ _ _ => cases q <;> simp [same, and_assoc]
  | .element _ _ c => cases q <;> simp [same, and_assoc, same_iff c]
  | .group _ ms => cases q <;> simp [same, sameAll_iff ms]
  | .not p => cases q <;> simp [same, same_iff p]

theorem sameAll_iff (ps qs : List Predicate) : sameAll ps qs = true ↔ ps = qs := by
  match ps with
  | [] => cases qs <;> simp [sameAll]
  | p :: ps => cases qs <;> simp [sameAll, same_iff p, sameAll_iff ps]

end

instance : DecidableEq Predicate := fun p q => decidable_of_iff _ (same_iff p q)

/-! ## Positions -/

mutual

/-- The positions of the slots of a predicate, in the order of writing. -/
def positions : Predicate → List Nat
  | .test _ _ position => [position]
  | .element _ _ criteria => criteria.positions
  | .group _ members => allPositions members
  | .not inner => inner.positions

/-- The positions of the slots of a list of predicates. -/
def allPositions : List Predicate → List Nat
  | [] => []
  | p :: ps => p.positions ++ allPositions ps

end

end Predicate

/-! ## Handles -/

/-- Stands for a captured value when a predicate is written. -/
structure Slot where
  position : Nat
  deriving DecidableEq

/-- A field of a single value, by name. -/
structure FieldRef where
  name : String
  deriving DecidableEq

namespace FieldRef

/-- The field is equal to the value. -/
def eq (f : FieldRef) (slot : Slot) : Predicate := .test f.name .eq slot.position

/-- The field is not equal to the value, or missing. -/
def ne (f : FieldRef) (slot : Slot) : Predicate := .test f.name .ne slot.position

/-- The field is greater than the value. -/
def gt (f : FieldRef) (slot : Slot) : Predicate := .test f.name .gt slot.position

/-- The field is at least the value. -/
def gte (f : FieldRef) (slot : Slot) : Predicate := .test f.name .gte slot.position

/-- The field is less than the value. -/
def lt (f : FieldRef) (slot : Slot) : Predicate := .test f.name .lt slot.position

/-- The field is at most the value. -/
def lte (f : FieldRef) (slot : Slot) : Predicate := .test f.name .lte slot.position

/-- The field is equal to one of the values. -/
def isIn (f : FieldRef) (slot : Slot) : Predicate := .test f.name .isIn slot.position

/-- The field is equal to none of the values, or missing. -/
def notIn (f : FieldRef) (slot : Slot) : Predicate := .test f.name .notIn slot.position

end FieldRef

/-- An array field, by name. -/
structure ArrayFieldRef where
  name : String
  deriving DecidableEq

namespace ArrayFieldRef

/-- The array contains all of the values. -/
def all (f : ArrayFieldRef) (slot : Slot) : Predicate := .test f.name .all slot.position

/-- The array has as many elements as the value says. -/
def size (f : ArrayFieldRef) (slot : Slot) : Predicate := .test f.name .size slot.position

/-- Some element, a document of the given schema, satisfies the criteria. -/
def elemMatch (f : ArrayFieldRef) (elements : Schema) (criteria : Predicate) : Predicate :=
  .element f.name elements.fields criteria

end ArrayFieldRef

/-! ## Diagnostic texts -/

/-- The diagnostic text of a slot. -/
def Slot.diagnostic (slot : Slot) : String := Diagnostic.applied "Slot" (toString slot.position)

/-- The diagnostic text of a field. -/
def FieldRef.diagnostic (f : FieldRef) : String := Diagnostic.applied "QueryField" f.name

/-- The diagnostic text of an array field. -/
def ArrayFieldRef.diagnostic (f : ArrayFieldRef) : String :=
  Diagnostic.applied "QueryArrayField" f.name

end PreparedFilter

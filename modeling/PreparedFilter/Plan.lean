import PreparedFilter.Predicate
import PreparedFilter.Definition

/-!
# Plans

A plan is the prepared form of a filter definition, shared by all its instances. It holds no value:
its leaves refer to slots, and a table gives the position of each slot among the captured values.
Negations are gone from a plan, but for the negated order tests, which have no operator of their
own.
-/

namespace PreparedFilter

/-- A slot of a plan, by its index in the table of the plan. -/
structure SlotId where
  index : Nat
  deriving DecidableEq

/-- The text of a slot in messages. -/
def SlotId.text (slot : SlotId) : String := "$" ++ toString slot.index

/-- A node of a plan. -/
inductive Node where
  /-- A field compared with a value. -/
  | comparison (field : String) (operator : Operator) (slot : SlotId)
  /-- The negation of an order test. It also holds of documents that lack the field. -/
  | negated (field : String) (operator : Operator) (slot : SlotId)
  /-- A field tested against an array of values. -/
  | membership (field : String) (operator : Operator) (slot : SlotId)
  /-- An array field with a given number of elements. -/
  | size (field : String) (slot : SlotId)
  /-- An array field some element of which satisfies the criteria. -/
  | element (field : String) (criteria : Node)
  /-- All members hold, or at least one does. -/
  | group (connective : Connective) (members : List Node)

namespace Node

/-! ## Measures and views -/

mutual

/-- The number of nodes. -/
def count : Node → Nat
  | .element _ criteria => criteria.count + 1
  | .group _ members => countAll members + 1
  | _ => 1

/-- The number of nodes of a list. -/
def countAll : List Node → Nat
  | [] => 0
  | node :: rest => node.count + countAll rest

end

/-- The field that the node itself speaks of. A group speaks of none. -/
def field? : Node → Option String
  | .comparison field _ _ => some field
  | .negated field _ _ => some field
  | .membership field _ _ => some field
  | .size field _ => some field
  | .element field _ => some field
  | .group _ _ => none

mutual

/-- The slots of the leaves, from left to right. -/
def slots : Node → List SlotId
  | .comparison _ _ slot => [slot]
  | .negated _ _ slot => [slot]
  | .membership _ _ slot => [slot]
  | .size _ slot => [slot]
  | .element _ criteria => criteria.slots
  | .group _ members => allSlots members

/-- The slots of the leaves of a list, from left to right. -/
def allSlots : List Node → List SlotId
  | [] => []
  | node :: rest => node.slots ++ allSlots rest

end

/-- The members that a node contributes to a group: those of a group with the same connective, else
the node itself. -/
def operands (connective : Connective) : Node → List Node
  | .group c members => if c = connective then members else [.group c members]
  | node => [node]

/-- Joins nodes by a connective. One node stands for itself. -/
def join (connective : Connective) : List Node → Node
  | [node] => node
  | nodes => .group connective nodes

/-! ## Equality -/

mutual

/-- Whether two nodes have the same structure. -/
def same : Node → Node → Bool
  | .comparison f op s, .comparison f' op' s' => f == f' && op == op' && s == s'
  | .negated f op s, .negated f' op' s' => f == f' && op == op' && s == s'
  | .membership f op s, .membership f' op' s' => f == f' && op == op' && s == s'
  | .size f s, .size f' s' => f == f' && s == s'
  | .element f c, .element f' c' => f == f' && c.same c'
  | .group c ms, .group c' ms' => c == c' && sameAll ms ms'
  | _, _ => false

/-- Whether two lists of nodes have the same structure. -/
def sameAll : List Node → List Node → Bool
  | [], [] => true
  | m :: ms, n :: ns => m.same n && sameAll ms ns
  | _, _ => false

end

mutual

theorem same_iff (m n : Node) : m.same n = true ↔ m = n := by
  match m with
  | .comparison _ _ _ => cases n <;> simp [same, and_assoc]
  | .negated _ _ _ => cases n <;> simp [same, and_assoc]
  | .membership _ _ _ => cases n <;> simp [same, and_assoc]
  | .size _ _ => cases n <;> simp [same]
  | .element _ c => cases n <;> simp [same, same_iff c]
  | .group _ ms => cases n <;> simp [same, sameAll_iff ms]

theorem sameAll_iff (ms ns : List Node) : sameAll ms ns = true ↔ ms = ns := by
  match ms with
  | [] => cases ns <;> simp [sameAll]
  | m :: ms => cases ns <;> simp [sameAll, same_iff m, sameAll_iff ms]

end

instance : DecidableEq Node := fun m n => decidable_of_iff _ (same_iff m n)

end Node

/-- The prepared form of a definition: a root, and for each slot the position of its value. -/
structure Plan where
  definition : DefinitionId
  root : Node
  slots : List Nat
  deriving DecidableEq

namespace Plan

/-- The number of slots. -/
def slotCount (plan : Plan) : Nat := plan.slots.length

/-- The position of the value of a slot. A slot outside the table has none. -/
def position? (plan : Plan) (slot : SlotId) : Option Nat := plan.slots[slot.index]?

/-- The number of nodes. -/
def nodeCount (plan : Plan) : Nat := plan.root.count

end Plan

end PreparedFilter

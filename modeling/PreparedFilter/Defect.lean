import PreparedFilter.Fault
import PreparedFilter.Bson
import PreparedFilter.Plan

/-!
# Defects

What can be wrong with a definition, with the captured values or with a conversion, one constructor
for each. `Defect.kind` and `Defect.message` say how a defect is reported, and `Fault.ofDefect`
reports it.
-/

namespace PreparedFilter

/-- A reason for a fault. -/
inductive Defect where
  /-- A predicate tests a field that the documents in scope do not have. -/
  | unknownField (scope field : String)
  /-- A predicate applies an operator to a field whose types it does not suit. -/
  | unsuitedOperator (operator : Operator) (scope field : String) (types : TypeSet)
  /-- A predicate negates a test whose negation is no test. -/
  | negatedOperator (operator : Operator) (field : String)
  /-- A predicate gives an element test a value where it needs criteria. -/
  | missingCriteria (operator : Operator) (scope field : String)
  /-- A group has no members. -/
  | emptyGroup (connective : Connective) (scope : String)
  /-- A slot has no value among those captured. -/
  | unresolvedSlot (slot : SlotId) (captured : Nat)
  /-- A membership test needs an array of values. -/
  | notAnArray (operator : Operator) (field : String) (found : ElementType)
  /-- A count of elements needs an integer. -/
  | sizeNotInteger (field : String) (found : ElementType)
  /-- A count is negative. -/
  | negativeCount (what : String) (n : Int)
  /-- Filters cannot be read from documents. -/
  | undecodableFilter (schema : String)
  /-- An integer is beyond 64 signed bits. -/
  | unsignedNumber (n : Int)
  deriving DecidableEq

namespace Defect

/-- The kind of fault by which a defect is reported. -/
def kind : Defect → FaultKind
  | unknownField _ _ => .malformedPredicate
  | unsuitedOperator _ _ _ _ => .malformedPredicate
  | negatedOperator _ _ => .unsupportedExpression
  | missingCriteria _ _ _ => .malformedPredicate
  | emptyGroup _ _ => .malformedPredicate
  | unresolvedSlot _ _ => .unresolvedSlot
  | notAnArray _ _ _ => .malformedPredicate
  | sizeNotInteger _ _ => .malformedPredicate
  | negativeCount _ _ => .integerUnderflow
  | undecodableFilter _ => .unsupportedOperation
  | unsignedNumber _ => .numberRange

/-- A word set apart in a message. -/
def ticked (s : String) : String := "`" ++ s ++ "`"

/-- The message by which a defect is reported. -/
def message : Defect → String
  | unknownField scope field => ticked scope ++ " has no field named " ++ ticked field
  | unsuitedOperator op scope field types =>
    ticked op.key ++ " can't be applied to " ++ ticked (scope ++ "." ++ field) ++ " of type "
      ++ ticked types.text
  | negatedOperator op field =>
    "negated " ++ ticked op.key ++ " on " ++ ticked field ++ " is not supported"
  | missingCriteria op scope field =>
    ticked op.key ++ " on " ++ ticked (scope ++ "." ++ field)
      ++ " needs element criteria, not a value"
  | emptyGroup connective scope => "empty " ++ connective.text ++ " in filter on " ++ ticked scope
  | unresolvedSlot slot captured =>
    "slot " ++ slot.text ++ " of the filter has no captured value (" ++ toString captured
      ++ " captured)"
  | notAnArray op field found =>
    ticked op.key ++ " on " ++ ticked field ++ " needs an array of values, got " ++ found.text
  | sizeNotInteger field found =>
    "`$size` of " ++ ticked field ++ " must be an integer, got " ++ found.text
  | negativeCount what n => what ++ " (" ++ toString n ++ ") is negative"
  | undecodableFilter schema =>
    "filter expressions over " ++ ticked schema ++ " can't be decoded from BSON"
  | unsignedNumber n => "Value " ++ ticked (toString n) ++ " can't be represented in BSON"

end Defect

/-- Reports a defect. -/
def Fault.ofDefect (d : Defect) : Fault := .new d.kind d.message

/-- A computation that fails by a defect, as one that may abort. -/
def Failure.liftDefect {α : Type} (result : Except Defect α) : Except Failure α :=
  result.mapError fun defect => .fault (.ofDefect defect)

/-- A count as a natural number, unless it is negative. A machine word is taken to have sixty-four
bits, so that no count is too large for it. -/
def naturalCount (what : String) (n : Int) : Except Defect Nat :=
  if n < 0 then .error (.negativeCount what n) else .ok n.toNat

end PreparedFilter

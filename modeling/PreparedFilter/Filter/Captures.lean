import PreparedFilter.Filter

/-!
# Captured values

A filter may be written as a function from slots to a predicate, together with the values that the
slots stand for: the slot at an index stands for the captured value at that index (`Captures.slots`,
`Captures.values`). The site, the function and the types identify the definition.
-/

namespace PreparedFilter

/-- A captured value: what it gives to an encoder, and its diagnostic text. -/
structure Capture where
  datum : Datum
  diagnostic : String

namespace Capture

/-- A captured text. -/
def string (s : String) : Capture := ⟨.string s, Quoted.diagnostic s⟩

/-- A captured integer. -/
def int (n : FixedInt) : Capture := ⟨.int n, toString n.toInt⟩

/-- A captured truth value. -/
def bool (b : Bool) : Capture := ⟨.bool b, toString b⟩

/-- A captured number. -/
def double (x : Binary64) : Capture := ⟨.double x, x.diagnostic⟩

/-- A captured variant, which has one name for encoders and one for diagnostics. -/
def variant (name diagnostic : String) : Capture := ⟨.variant name, diagnostic⟩

/-- A captured list. -/
def list (elements : List Capture) : Capture :=
  ⟨.seq (elements.map Capture.datum), Diagnostic.list (elements.map Capture.diagnostic)⟩

end Capture

namespace Captures

/-- The slots of a number of captured values. -/
def slots (arity : Nat) : List Slot := (List.range arity).map Slot.mk

/-- The captured values as BSON values, in order. The first failure counts. -/
def values (captured : List Datum) : Except Failure (List Bson) := captured.mapM Datum.encodeValue

/-- The diagnostic text of several captured values. -/
def diagnostic (captured : List Capture) : String :=
  Diagnostic.tuple (captured.map Capture.diagnostic)

end Captures

/-- A filter written as a function from slots to a predicate. -/
structure CapturingFilter where
  site : Site
  /-- Tells functions at one site apart. -/
  function : Nat
  schema : Schema
  /-- The number of the type of documents. -/
  documents : Nat
  /-- The name of the type of the captured values. -/
  captureType : String
  captures : List Capture
  build : List Slot → Predicate

namespace CapturingFilter

/-- The identity of the definition. -/
def definition (f : CapturingFilter) : DefinitionId :=
  .located f.site f.function f.documents f.captureType

/-- The captured values as BSON values. -/
def values (f : CapturingFilter) : Except Failure (List Bson) :=
  Captures.values (f.captures.map Capture.datum)

/-- The predicate, built from the slots of the captured values. -/
def predicate (f : CapturingFilter) : Predicate := f.build (Captures.slots f.captures.length)

/-- The filter. -/
def toFilter (f : CapturingFilter) : Filter := ⟨f.definition, f.schema, f.predicate, f.values⟩

/-- The diagnostic text of a filter. -/
def diagnostic (f : CapturingFilter) : String :=
  Diagnostic.record "Filter"
    [("metadata", Quoted.diagnostic f.schema.name), ("location", f.site.text),
      ("captures", Captures.diagnostic f.captures)]

end CapturingFilter

end PreparedFilter

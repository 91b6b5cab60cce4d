import PreparedFilter.Options
import PreparedFilter.Record

/-!
# Codecs

A codec turns values of one type into documents and back. There are two kinds. A record codec goes
through the serializable form of a record (`Record`), and reads it back field by field; what it says
of a document that cannot be read is the reader's own, and a parameter here. A filter codec encodes
filters over one schema by a planner that it shares with others; since an encoded filter has lost
its definition, it decodes nothing.
-/

namespace PreparedFilter

/-- Turns values into documents and back. -/
structure Codec (α : Type) where
  encode : α → Except Failure Document
  decode : Document → Except Fault α

/-! ## Records -/

/-- The codec of a type of records. `objection` is the text by which the reader of records refuses
a document. -/
def Codec.ofRecord (α : Type) [Record α] (objection : Document → String) : Codec α where
  encode record := (Record.toDatum record).encodeDocument
  decode document :=
    match Record.ofDocument? document with
    | some record => .ok record
    | none => .error (.ofOrigin "can't decode document" ⟨.bsonDecoding, objection document⟩)

/-- The diagnostic text of a record codec. -/
def Codec.recordDiagnostic : String := "DocumentCodec"

/-- Decodes a document and encodes what it holds. -/
def Codec.transcode {α : Type} (codec : Codec α) (document : Document) :
    Except Failure Document := do
  let value ← Failure.lift (codec.decode document)
  codec.encode value

/-! ## Filters -/

/-- Encodes filters over a schema in a given style. -/
structure FilterCodec where
  schema : Schema
  style : QueryStyle
  deriving DecidableEq

namespace FilterCodec

/-- Encodes a filter by the shared planner. -/
def encode (codec : FilterCodec) (planner : Planner) (filter : Filter) :
    Planner × Except Failure Document :=
  planner.encode codec.style filter

/-- No filter is read from a document. -/
def decode (codec : FilterCodec) (_document : Document) : Except Fault Filter :=
  .error (.ofDefect (.undecodableFilter codec.schema.name))

/-- The diagnostic text of a limit. -/
def limitDiagnostic : Option UInt64 → String
  | none => "None"
  | some n => Diagnostic.applied "Some" (toString n.toNat)

/-- The diagnostic text of a cache: the definitions of the kept plans. -/
def cacheDiagnostic (cache : PlanCache) : String :=
  Diagnostic.map (cache.ids.map DefinitionId.text)

/-- The diagnostic text of a planner. -/
def plannerDiagnostic (planner : Planner) : String :=
  Diagnostic.record "Analyzer"
    [("cache", cacheDiagnostic planner.cache), ("hits", toString planner.hits),
      ("misses", toString planner.misses),
      ("options",
        Diagnostic.record "AnalyzerOptions"
          [("max_entries", limitDiagnostic planner.options.limit)])]

/-- The diagnostic text of a style. -/
def styleDiagnostic (style : QueryStyle) : String :=
  Diagnostic.record "Renderer"
    [("options", Diagnostic.record "RenderOptions" [("flatten_conjunctions", toString style.flat)])]

/-- The diagnostic text of a filter codec. -/
def diagnostic (codec : FilterCodec) (planner : Planner) : String :=
  Diagnostic.record "FilterCodec"
    [("metadata", Quoted.diagnostic codec.schema.name), ("analyzer", plannerDiagnostic planner),
      ("renderer", styleDiagnostic codec.style)]

end FilterCodec

/-! ## Writing -/

/-- Writes an encoded document as JSON, or passes the fault on. -/
def writeEncoded (write : Json → String) (encoded : Except Failure Document) :
    Except Failure String := do
  let document ← encoded
  return write document.toJson

end PreparedFilter

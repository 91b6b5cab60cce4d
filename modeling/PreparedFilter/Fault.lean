import PreparedFilter.Definition

/-!
# Faults

What goes wrong is a `Fault`: a chain of levels, outermost first. Every level has a kind, a message
of its own and, if it is known, the filter definition that was at work. Below the levels there may
be an `Origin`, the failure of a neighbouring component, known by its kind and its text.

* `Fault.new` starts a chain and `Fault.ofOrigin` starts one over a neighbour's failure.
* `Fault.chain` puts a level in front; it takes its kind from the chain below, so all levels of a
  chain have one kind.
* `Fault.withDefinition` names the definition, on the outermost level only.

A level owns a trace of the calls that led to it if no level below has one.
-/

namespace PreparedFilter

/-- The kinds of faults. -/
inductive FaultKind where
  | unsupportedExpression
  | malformedPredicate
  | unresolvedSlot
  | unsupportedOperation
  | jsonTranscoding
  | bsonEncoding
  | bsonDecoding
  | numberRange
  | missingField
  | illTypedField
  | server
  | serverWrite
  | integerUnderflow
  | integerOverflow
  deriving DecidableEq

namespace FaultKind

/-- The description of a kind, which opens every message. -/
def text : FaultKind → String
  | unsupportedExpression => "unsupported filter expression"
  | malformedPredicate => "malformed predicate"
  | unresolvedSlot => "unresolved value slot"
  | unsupportedOperation => "unsupported operation"
  | jsonTranscoding => "JSON transcoding error"
  | bsonEncoding => "BSON encoding error"
  | bsonDecoding => "BSON decoding error"
  | numberRange => "number not i64 nor f64"
  | missingField => "document field not found"
  | illTypedField => "document field of unexpected type"
  | server => "MongoDB error"
  | serverWrite => "MongoDB write exception"
  | integerUnderflow => "integer conversion underflowed"
  | integerOverflow => "integer conversion overflowed"

/-- The name of a kind in serialized form. -/
def name : FaultKind → String
  | unsupportedExpression => "UnsupportedExpression"
  | malformedPredicate => "MalformedPredicate"
  | unresolvedSlot => "UnresolvedSlot"
  | unsupportedOperation => "UnsupportedOperation"
  | jsonTranscoding => "JsonTranscoding"
  | bsonEncoding => "BsonEncoding"
  | bsonDecoding => "BsonDecoding"
  | numberRange => "BsonNumberRepr"
  | missingField => "MissingDocumentField"
  | illTypedField => "IllTypedDocumentField"
  | server => "MongoDbError"
  | serverWrite => "MongoDbWriteException"
  | integerUnderflow => "IntConversionUnderflow"
  | integerOverflow => "IntConversionOverflow"

/-- All kinds. -/
def all : List FaultKind :=
  [unsupportedExpression, malformedPredicate, unresolvedSlot, unsupportedOperation, jsonTranscoding,
    bsonEncoding, bsonDecoding, numberRange, missingField, illTypedField, server, serverWrite,
    integerUnderflow, integerOverflow]

/-- The kind of a given name. -/
def ofName? (name : String) : Option FaultKind := all.find? fun kind => kind.name == name

end FaultKind

/-! ## Origins -/

/-- The failure of a neighbouring component. It has no trace and no cause of its own. -/
structure Origin where
  kind : FaultKind
  text : String
  deriving DecidableEq

namespace Origin

/-- A document was asked for a key that it lacks. -/
def notPresent : Origin := ⟨.missingField, "field is not present"⟩

/-- A document holds a value of another type than was asked for. -/
def unexpectedType : Origin := ⟨.illTypedField, "field does not have the expected type"⟩

/-- The server refused a single write, for a reason given by a number and a text. -/
def writeRefused (code : Int) (quotedReason : String) : Origin :=
  ⟨.serverWrite,
    "WriteException:\nWriteError \x7b code: " ++ toString code ++ ", message: " ++ quotedReason
      ++ " \x7d"⟩

end Origin

/-! ## Chains -/

/-- One level of a chain. -/
structure Level where
  kind : FaultKind
  message : String
  definition : Option DefinitionId
  ownsTrace : Bool
  deriving DecidableEq

/-- A chain of levels, the outermost one apart, with the origin if there is one. -/
structure Fault where
  outer : Level
  causes : List Level
  origin : Option Origin
  deriving DecidableEq

namespace Fault

/-- A fault with no cause. -/
def new (kind : FaultKind) (message : String) : Fault := ⟨⟨kind, message, none, true⟩, [], none⟩

/-- A fault caused by a neighbour's failure, of the same kind. The neighbour has no trace, so the
new level owns one. -/
def ofOrigin (message : String) (origin : Origin) : Fault :=
  ⟨⟨origin.kind, message, none, true⟩, [], some origin⟩

/-- The message that stands for a neighbour's failure when the caller gives none. -/
def defaultMessage (kind : FaultKind) : String :=
  match kind with
  | .missingField => "missing value for key in Document"
  | .illTypedField => "ill-typed value for key in Document"
  | _ => kind.text

/-- A neighbour's failure as a fault. -/
def lift (origin : Origin) : Fault := ofOrigin (defaultMessage origin.kind) origin

/-- All levels, outermost first. -/
def levels (f : Fault) : List Level := f.outer :: f.causes

/-- The kind of the outermost level. -/
def kind (f : Fault) : FaultKind := f.outer.kind

/-- The message of the outermost level. -/
def message (f : Fault) : String := f.outer.message

/-- The definition that the outermost level names. -/
def definition (f : Fault) : Option DefinitionId := f.outer.definition

/-- Whether any level owns a trace. -/
def hasTrace (f : Fault) : Bool := f.levels.any Level.ownsTrace

/-- Puts a level with the given message in front. -/
def chain (f : Fault) (message : String) : Fault :=
  ⟨⟨f.kind, message, none, !f.hasTrace⟩, f.levels, f.origin⟩

/-- Names the definition on the outermost level. Also returns the one that it named before. -/
def setDefinition (f : Fault) (id : DefinitionId) : Option DefinitionId × Fault :=
  (f.definition, { f with outer := { f.outer with definition := some id } })

/-- Names the definition on the outermost level. -/
def withDefinition (f : Fault) (id : DefinitionId) : Fault := (f.setDefinition id).2

/-! ## Texts -/

/-- The closing words of a level that names a definition. -/
def definitionText : Option DefinitionId → String
  | none => ""
  | some id => " (in filter defined at " ++ id.text ++ ")"

/-- The text of a level and all that lies below it: the kind, the message, the cause and the
definition. -/
def levelText (origin : Option Origin) : Level → List Level → String
  | level, [] =>
    level.kind.text ++ ": " ++ level.message
      ++ (match origin with
          | none => ""
          | some origin => ", caused by: " ++ origin.text)
      ++ definitionText level.definition
  | level, cause :: causes =>
    level.kind.text ++ ": " ++ level.message
      ++ ", caused by: " ++ levelText origin cause causes
      ++ definitionText level.definition

/-- The text of a fault. -/
def text (f : Fault) : String := levelText f.origin f.outer f.causes

/-- The kinds and texts of what lies below a list of levels, nearest first. -/
def reasonsBelow (origin : Option Origin) : List Level → List (FaultKind × String)
  | [] =>
    match origin with
    | none => []
    | some origin => [(origin.kind, origin.text)]
  | level :: causes => (level.kind, levelText origin level causes) :: reasonsBelow origin causes

/-- The kinds and texts of the causes, nearest first. -/
def reasons (f : Fault) : List (FaultKind × String) := reasonsBelow f.origin f.causes

/-- Puts a level in front of the fault of a computation that failed; a value stays as it is. -/
def chainResult {α : Type} (message : String) (result : Except Fault α) : Except Fault α :=
  result.mapError fun fault => fault.chain message

end Fault

/-! ## Failures -/

/-- A computation either ends with a value or fails. A fault is reported to the caller; a
computation that aborts leaves nothing to report. -/
inductive Failure where
  | fault (fault : Fault)
  | abort
  deriving DecidableEq

namespace Failure

/-- Applies a function to the fault, if there is one to report. -/
def mapFault (f : Fault → Fault) : Failure → Failure
  | fault e => fault (f e)
  | abort => abort

/-- A computation that does not abort, as one that may. -/
def lift {α : Type} (result : Except Fault α) : Except Failure α := result.mapError fault

end Failure

end PreparedFilter

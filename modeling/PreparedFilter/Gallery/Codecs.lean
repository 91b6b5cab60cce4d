import PreparedFilter.Registry
import PreparedFilter.Gallery.Schemas
import PreparedFilter.Gallery.Records

/-!
# Example codecs

Keys for a registry of codecs of the example records, of texts and of filters over a schema, with
the type of codec that goes under each key.
-/

namespace PreparedFilter

namespace Gallery

/-- What a registered codec encodes. -/
inductive CodecKey where
  | point
  | foo
  | note
  /-- Borrowed texts. -/
  | text
  /-- Owned texts. -/
  | ownedText
  /-- Filters over the schema of a name. -/
  | filters (schema : String)
  deriving DecidableEq

/-- The type of codec that goes under a key. -/
def CodecOf : CodecKey → Type
  | .point => Codec Point
  | .foo => Codec Foo
  | .note => Codec Note
  | .text => Codec String
  | .ownedText => Codec String
  | .filters _ => FilterCodec

/-- The key of a name. -/
def CodecKey.ofName? (name : String) : Option CodecKey :=
  match name with
  | "Point" => some .point
  | "Foo" => some .foo
  | "Note" => some .note
  | "str" => some .text
  | "String" => some .ownedText
  | "filters:Foo" => some (.filters "Foo")
  | "filters:Location" => some (.filters "Location")
  | "filters:Wide" => some (.filters "Wide")
  | _ => none

/-- The codec that encodes every text as one document and reads every document as the empty text. -/
def constantCodec (document : Document) : Codec String := ⟨fun _ => .ok document, fun _ => .ok ""⟩

/-- The codecs of a registry with these keys. -/
abbrev Codecs := Registry CodecOf

namespace Codecs

/-- Decodes a document by the codec of a key and encodes what it holds. There is none for filters.
-/
def transcode (codecs : Codecs) (key : CodecKey) (document : Document) :
    Option (Except Failure Document) :=
  match key with
  | .point => (codecs.get? CodecKey.point).map fun (codec : Codec Point) => codec.transcode document
  | .foo => (codecs.get? CodecKey.foo).map fun (codec : Codec Foo) => codec.transcode document
  | .note => (codecs.get? CodecKey.note).map fun (codec : Codec Note) => codec.transcode document
  | .text => (codecs.get? CodecKey.text).map fun (codec : Codec String) => codec.transcode document
  | .ownedText =>
    (codecs.get? CodecKey.ownedText).map fun (codec : Codec String) => codec.transcode document
  | .filters _ => none

/-- The filter codec of a schema. -/
def filterCodec? (codecs : Codecs) (schema : String) : Option FilterCodec :=
  codecs.get? (CodecKey.filters schema)

end Codecs

end Gallery

end PreparedFilter

import PreparedFilter.Codec
import PreparedFilter.Gallery.Filters
import PreparedFilter.Proofs.Encoding.Conversion
import PreparedFilter.Proofs.Planner.History

/-!
# When encoding aborts

What encoding a serializable value as BSON comes to is said here without the encoder, as it is for
the conversion of JSON: the parts of a value in the order in which they are encoded (`Datum.parts`),
what fails at a part by itself (`Datum.Part.ownFailures`), and what the value becomes otherwise
(`Datum.image`).

An encoder aborts exactly if the first failure that it meets is an ill-formed extended document
(`encode_eq_abort_iff`). Keys and texts decide this, so a captured value can bring it about
(`encode_eq_abort_objectId`).
-/

namespace PreparedFilter

/-! ## Integers -/

namespace FixedInt

/-- What fails in encoding an integer. -/
def failures : FixedInt → List EncodingFailure
  | i128 _ => [.refused (.unsupported "i128")]
  | u64 n => if n.toNat < 0x8000000000000000 then [] else [.refused (.unsigned n.toNat)]
  | u128 _ => [.refused (.unsupported "u128")]
  | _ => []

/-- An integer as a BSON value, as far as there is one. -/
def image : FixedInt → Bson
  | i8 n => .int32 n.toInt32
  | i16 n => .int32 n.toInt32
  | i32 n => .int32 n
  | i64 n => .int64 n
  | u8 n => .int32 (Int32.ofNat n.toNat)
  | u16 n => .int32 (Int32.ofNat n.toNat)
  | u32 n => .int64 (Int64.ofNat n.toNat)
  | u64 n => if n.toNat < 0x8000000000000000 then .int64 (Int64.ofNat n.toNat) else .null
  | i128 _ => .null
  | u128 _ => .null

theorem toBson_eq (n : FixedInt) : n.toBson = firstOr n.failures n.image := by
  cases n with
  | u64 n =>
    simp only [toBson, failures, image]
    by_cases h : n.toNat < 0x8000000000000000
    · simp only [if_pos h, firstOr_nil]
    · simp only [if_neg h]
      rfl
  | _ => rfl

end FixedInt

namespace Datum

/-! ## Parts -/

/-- What is encoded at one moment: a value, or a value that has to be the key of a map. -/
inductive Part where
  | value (v : Datum)
  | key (v : Datum)

mutual

/-- What is encoded of a value, each after its own parts, in order. -/
def parts : Datum → List Part
  | present v => v.parts ++ [.value (present v)]
  | wrapped v => v.parts ++ [.value (wrapped v)]
  | seq elements => elementParts elements ++ [.value (seq elements)]
  | map entries => entryParts entries ++ [.value (map entries)]
  | record fields => fieldParts fields ++ [.value (record fields)]
  | variantOf name v => v.parts ++ [.value (variantOf name v)]
  | variantSeq name elements => elementParts elements ++ [.value (variantSeq name elements)]
  | variantRecord name fields => fieldParts fields ++ [.value (variantRecord name fields)]
  | other => [.value other]

/-- What is encoded of the elements of a sequence. -/
def elementParts : List Datum → List Part
  | [] => []
  | v :: rest => v.parts ++ elementParts rest

/-- What is encoded of the entries of a map. -/
def entryParts : List (Datum × Datum) → List Part
  | [] => []
  | (k, v) :: rest => k.parts ++ .key k :: (v.parts ++ entryParts rest)

/-- What is encoded of the fields of a record. -/
def fieldParts : List (String × Datum) → List Part
  | [] => []
  | (_, v) :: rest => v.parts ++ fieldParts rest

end

/-! ## What encoding comes to -/

/-- The text of a key, as far as it is one. -/
def keyImage : Bson → String
  | .string s => s
  | _ => ""

mutual

/-- What a value becomes, once its parts have. -/
def image : Datum → Bson
  | bool b => .bool b
  | int n => n.image
  | single bits => .double (.ofBinary32 bits)
  | double x => .double x
  | char c => .string (String.singleton c)
  | string s => .string s
  | bytes bs => .binary 0 bs
  | absent => .null
  | present v => v.image
  | unit => .null
  | wrapped v => v.image
  | seq elements => .array (elementImages elements)
  | map entries => Extended.image (Document.ofList (entryImages entries))
  | record fields => Extended.image (Document.ofList (fieldImages fields))
  | variant name => .string name
  | variantOf name v => .document [(name, v.image)]
  | variantSeq name elements => .document [(name, .array (elementImages elements))]
  | variantRecord name fields =>
    .document [(name, Extended.image (Document.ofList (fieldImages fields)))]
  | failing _ => .null

/-- What the elements of a sequence become. -/
def elementImages : List Datum → List Bson
  | [] => []
  | v :: rest => v.image :: elementImages rest

/-- What the entries of a map become. -/
def entryImages : List (Datum × Datum) → List (String × Bson)
  | [] => []
  | (k, v) :: rest => (keyImage k.image, v.image) :: entryImages rest

/-- What the fields of a record become. -/
def fieldImages : List (String × Datum) → List (String × Bson)
  | [] => []
  | (name, v) :: rest => (name, v.image) :: fieldImages rest

end

/-- What fails at the key of a map. -/
def keyFailures : Bson → List EncodingFailure
  | .string _ => []
  | other => [.refused (.invalidKey other)]

/-- What fails at a part, when its own parts have not failed. -/
def Part.ownFailures : Part → List EncodingFailure
  | .key k => keyFailures k.image
  | .value (int n) => n.failures
  | .value (map entries) => Extended.objections .abort (Document.ofList (entryImages entries))
  | .value (record fields) => Extended.objections .abort (Document.ofList (fieldImages fields))
  | .value (variantRecord _ fields) =>
    Extended.objections .abort (Document.ofList (fieldImages fields))
  | .value (failing message) => [.refused (.stated message)]
  | .value _ => []

/-- All that fails in encoding a value, in order. -/
def failures (v : Datum) : List EncodingFailure := v.parts.flatMap Part.ownFailures

theorem keyText_eq (key : Bson) : keyText key = firstOr (keyFailures key) (keyImage key) := by
  cases key <;> rfl

theorem readEntries_eq (entries : List (String × Bson)) :
    readEntries entries = firstOr (Extended.objections .abort (Document.ofList entries))
      (Extended.image (Document.ofList entries)) :=
  Extended.reading_eq EncodingFailure.abort (Document.ofList entries)

theorem failures_int (n : FixedInt) : (int n).failures = n.failures := List.flatMap_singleton _ _

/-- What fails at a value by itself comes after all that fails inside it. -/
theorem failures_last (parts : List Part) (v : Datum) :
    (parts ++ [Part.value v]).flatMap Part.ownFailures =
      parts.flatMap Part.ownFailures ++ (Part.value v).ownFailures := by
  rw [List.flatMap_append, List.flatMap_singleton]

mutual

/-- Encoding fails by the first of the failures of a value, and gives the image of the value if
there are none. There is one case for each form of value: its parts come first, then the value
itself. -/
theorem toBson_eq : ∀ v : Datum, v.toBson = firstOr v.failures v.image
  | bool _ | single _ | double _ | char _ | string _ | bytes _ | absent | unit | variant _ => rfl
  | failing _ => rfl
  | int n => by
    rw [toBson, n.toBson_eq, failures_int, image]
  | present v => by
    rw [toBson, toBson_eq v, failures, failures, parts, flatMap_append_of_eq_nil _ rfl, image]
  | wrapped v => by
    rw [toBson, toBson_eq v, failures, failures, parts, flatMap_append_of_eq_nil _ rfl, image]
  | seq elements => by
    rw [toBson, elementsToBson_eq elements, failures, parts, flatMap_append_of_eq_nil _ rfl]
    exact firstOr_bind_ok rfl
  | map entries => by
    rw [toBson, entriesToBson_eq entries, failures, parts, failures_last]
    exact firstOr_bind (readEntries_eq _)
  | record fields => by
    rw [toBson, fieldsToBson_eq fields, failures, parts, failures_last]
    exact firstOr_bind (readEntries_eq _)
  | variantOf name v => by
    rw [toBson, toBson_eq v, failures, failures, parts, flatMap_append_of_eq_nil _ rfl]
    exact firstOr_bind_ok rfl
  | variantSeq name elements => by
    rw [toBson, elementsToBson_eq elements, failures, parts, flatMap_append_of_eq_nil _ rfl]
    exact firstOr_bind_ok rfl
  | variantRecord name fields => by
    rw [toBson, fieldsToBson_eq fields, failures, parts, failures_last]
    refine firstOr_bind ?_
    rw [readEntries_eq]
    exact firstOr_bind_ok rfl

theorem elementsToBson_eq : ∀ elements : List Datum,
    elementsToBson elements =
      firstOr ((elementParts elements).flatMap Part.ownFailures) (elementImages elements)
  | [] => rfl
  | v :: rest => by
    rw [elementsToBson, toBson_eq v, elementsToBson_eq rest, elementParts, List.flatMap_append]
    exact firstOr_bind (firstOr_bind_ok rfl)

theorem entriesToBson_eq : ∀ entries : List (Datum × Datum),
    entriesToBson entries =
      firstOr ((entryParts entries).flatMap Part.ownFailures) (entryImages entries)
  | [] => rfl
  | (k, v) :: rest => by
    rw [entriesToBson, toBson_eq k, toBson_eq v, entriesToBson_eq rest, entryParts,
      List.flatMap_append, List.flatMap_cons, List.flatMap_append]
    refine firstOr_bind ?_
    rw [keyText_eq]
    exact firstOr_bind (firstOr_bind (firstOr_bind_ok rfl))

theorem fieldsToBson_eq : ∀ fields : List (String × Datum),
    fieldsToBson fields =
      firstOr ((fieldParts fields).flatMap Part.ownFailures) (fieldImages fields)
  | [] => rfl
  | (_, v) :: rest => by
    rw [fieldsToBson, toBson_eq v, fieldsToBson_eq rest, fieldParts, List.flatMap_append]
    exact firstOr_bind (firstOr_bind_ok rfl)

end

/-! ## Aborting -/

theorem encodeValue_eq (v : Datum) :
    v.encodeValue = firstOr (v.failures.map EncodingFailure.toFailure) v.image := by
  rw [encodeValue, toBson_eq, mapError_firstOr]

end Datum

/-- A step that reports its failure does not abort. -/
theorem Failure.lift_ne_abort {α : Type} (result : Except Fault α) :
    Failure.lift result ≠ .error .abort := by
  cases result <;> exact nofun

theorem EncodingFailure.toFailure_eq_abort_iff (failure : EncodingFailure) :
    failure.toFailure = .abort ↔ failure = .abort := by
  cases failure <;> simp [toFailure]

/-- Aborting comes first among the failures exactly if it does among their reports. -/
theorem head?_map_toFailure {failures : List EncodingFailure} :
    (failures.map EncodingFailure.toFailure).head? = some .abort ↔
      failures.head? = some .abort := by
  rw [List.head?_map, Option.map_eq_some_iff]
  simp only [EncodingFailure.toFailure_eq_abort_iff, exists_eq_right]

/-- Captured values are encoded one after another, so that the first failure of all counts. -/
theorem Captures.values_eq (captured : List Datum) :
    values captured = firstOr ((captured.flatMap Datum.failures).map EncodingFailure.toFailure)
      (captured.map Datum.image) := by
  rw [values, mapM_eq_firstOr Datum.encodeValue_eq, List.map_flatMap]

theorem Captures.values_eq_abort_iff (captured : List Datum) :
    values captured = .error .abort ↔ (captured.flatMap Datum.failures).head? = some .abort := by
  rw [values_eq, firstOr_eq_error_iff, head?_map_toFailure]

theorem Json.toBson_eq_abort_iff (v : Json) :
    v.toBson = .error .abort ↔ v.failures.head? = some .abort := by
  rw [toBson_eq, firstOr_eq_error_iff]

theorem Datum.encodeValue_eq_abort_iff (v : Datum) :
    v.encodeValue = .error .abort ↔ v.failures.head? = some .abort := by
  rw [encodeValue_eq, firstOr_eq_error_iff, head?_map_toFailure]

/-- The steps before and after the conversion of JSON report what fails. -/
theorem Datum.encodeDocument_eq_abort_iff (v : Datum) :
    v.encodeDocument = .error .abort ↔
      ∃ json, v.toJson = .ok json ∧ json.failures.head? = some .abort := by
  unfold encodeDocument
  rw [bind_eq_error_iff, or_iff_right (Failure.lift_ne_abort _)]
  refine exists_congr fun json => and_congr ?_ ?_
  · rw [Failure.lift, mapError_eq_ok_iff, transcode, mapError_eq_ok_iff]
  · rw [bind_eq_error_iff, Json.toBson_eq_abort_iff, or_iff_left]
    rintro ⟨bson, -, aborts⟩
    exact Failure.lift_ne_abort _ aborts

/-- Writing a query document never aborts; only the captured values can. -/
theorem Plan.renderFilter_eq_abort_iff (plan : Plan) (style : QueryStyle) (filter : Filter) :
    plan.renderFilter style filter = .error .abort ↔ filter.values = .error .abort := by
  unfold renderFilter
  rw [bind_eq_error_iff, or_iff_left]
  · cases filter.values with
    | error failure => cases failure <;> simp [Except.mapError, Failure.mapFault]
    | ok values => exact iff_of_false nofun nofun
  · rintro ⟨values, -, aborts⟩
    exact Failure.lift_ne_abort _ aborts

/-- A filter whose definition has a plan aborts with its values. -/
theorem Planner.encode_aborts_iff (p : Planner) (style : QueryStyle) (filter : Filter) :
    (p.encode style filter).2 = .error .abort ↔
      (∃ issued, (p.planFor filter).2 = .ok issued) ∧ filter.values = .error .abort := by
  rw [encode_snd, bind_eq_error_iff, or_iff_right (Failure.lift_ne_abort _)]
  simp only [Plan.renderFilter_eq_abort_iff, Failure.lift, mapError_eq_ok_iff,
    exists_and_right]
  refine and_congr_left fun _ => ?_
  cases (p.planFor filter).2 with
  | error fault => exact iff_of_false (fun ⟨_, h⟩ => nomatch h) (fun ⟨_, h⟩ => nomatch h)
  | ok issued => exact iff_of_true ⟨_, rfl⟩ ⟨_, rfl⟩

/-- **An encoder aborts exactly if the first failure that it meets is an ill-formed extended
document**, whether it encodes a captured value, a JSON value, a record, all captured values, or a
filter that has a plan. -/
theorem encode_eq_abort_iff (v : Datum) (j : Json) (captured : List Datum) (codec : FilterCodec)
    (p : Planner) (f : CapturingFilter) (α : Type) [Record α] (objection : Document → String)
    (record : α) :
    (v.encodeValue = .error .abort ↔ v.failures.head? = some .abort) ∧
    (j.toBson = .error .abort ↔ j.failures.head? = some .abort) ∧
    (v.encodeDocument = .error .abort ↔
      ∃ json, v.toJson = .ok json ∧ json.failures.head? = some .abort) ∧
    (Captures.values captured = .error .abort ↔
      (captured.flatMap Datum.failures).head? = some .abort) ∧
    ((codec.encode p f.toFilter).2 = .error .abort ↔
      (∃ issued, (p.planFor f.toFilter).2 = .ok issued) ∧
        ((f.captures.map Capture.datum).flatMap Datum.failures).head? = some .abort) ∧
    ((Codec.ofRecord α objection).encode record = .error .abort ↔
      ∃ json, (Record.toDatum record).toJson = .ok json ∧
        json.failures.head? = some .abort) := by
  refine ⟨v.encodeValue_eq_abort_iff, j.toBson_eq_abort_iff, v.encodeDocument_eq_abort_iff,
    Captures.values_eq_abort_iff captured, ?_, ?_⟩
  · refine (p.encode_aborts_iff codec.style f.toFilter).trans (and_congr_right fun _ => ?_)
    exact Captures.values_eq_abort_iff _
  · exact (Record.toDatum record).encodeDocument_eq_abort_iff

/-- Two letters are no identity, wherever they stand. -/
theorem encode_eq_abort_objectId :
    let v := Datum.map [(.string "$oid", .string "no")]
    v.encodeValue = .error .abort ∧ v.encodeDocument = .error .abort ∧
      (Json.single "$oid" (.string "no")).toBson = .error .abort ∧
      Captures.values [v] = .error .abort ∧
      (FilterCodec.encode ⟨Gallery.foo, .standard⟩ (.new .standard)
        (Gallery.forwarded 0 "(map)" ⟨v, "no"⟩ Gallery.stringField.eq).toFilter).2 = .error .abort ∧
      (@Codec.ofRecord Datum ⟨id, fun _ => none⟩ fun _ => "no datum").encode v = .error .abort :=
  ⟨rfl, rfl, rfl, rfl, rfl, rfl⟩

end PreparedFilter

import PreparedFilter.Proofs.Encoding.Agreement

/-!
# Plain data comes back

JSON and BSON have null, truth values, finite numbers, texts, integers, arrays and objects in
common. On data made of these, with no object that looks like an extended document, encoding and
writing undo each other (`writeEncoded_roundtrip`): a JSON object is written as it was, and a
document that is written and read again is the same with wide integers.
-/

namespace PreparedFilter

/-! ## JSON as a serializable value -/

/-- A number as it shows itself: only a negative integer is a signed one. -/
def JsonNumber.toDatum : JsonNumber → Datum
  | int n _ _ =>
    if 0 ≤ n then .int (.u64 (UInt64.ofNat n.toNat)) else .int (.i64 (Int64.ofInt n))
  | double x _ => .double x

/-- A number shows itself as an integer of 64 bits or a double, and each is written as the
number. -/
theorem JsonNumber.toJson_toDatum (n : JsonNumber) : n.toDatum.toJson = .ok (.number n) := by
  cases n with
  | int n least most =>
    have known : ofInt? n = some (.int n least most) := dif_pos ⟨least, most⟩
    -- every natural number of 64 bits is an unsigned one, every other integer a signed one
    by_cases natural : 0 ≤ n
    · have same : ((UInt64.ofNat n.toNat).toNat : Int) = n := by
        rw [UInt64.toNat_ofNat_of_lt' (by simp only [UInt64.size]; omega),
          Int.toNat_of_nonneg natural]
      rw [toDatum, if_pos natural, Datum.toJson, FixedInt.toJson, FixedInt.toInt, same, known]
    · have same : (Int64.ofInt n).toInt = n := Int64.toInt_ofInt_of_le least (by omega)
      rw [toDatum, if_neg natural, Datum.toJson, FixedInt.toJson, FixedInt.toInt, same, known]
  | double x finite =>
    rw [toDatum, Datum.toJson, Json.ofDouble, dif_pos finite]

namespace Json

mutual

/-- A JSON value as it shows itself to an encoder. -/
def toDatum : Json → Datum
  | null => .unit
  | bool b => .bool b
  | number n => n.toDatum
  | string s => .string s
  | array elements => .seq (elementsToDatum elements)
  | object members => .map (membersToDatum members)

/-- The elements of an array as they show themselves. -/
def elementsToDatum : List Json → List Datum
  | [] => []
  | value :: rest => value.toDatum :: elementsToDatum rest

/-- The members of an object as they show themselves. -/
def membersToDatum : List (String × Json) → List (Datum × Datum)
  | [] => []
  | (key, value) :: rest => (.string key, value.toDatum) :: membersToDatum rest

end

mutual

/-- A JSON value is its own JSON form. -/
theorem toJson_toDatum : ∀ v : Json, v.parts.all keysDistinct → v.toDatum.toJson = .ok v
  | null, _ | bool _, _ | string _, _ => rfl
  | number n, _ => n.toJson_toDatum
  | array elements, distinct => by
    rw [parts, List.all_append, Bool.and_eq_true] at distinct
    rw [toDatum, Datum.toJson, elementsToJson_toDatum elements distinct.1]
    rfl
  | object members, distinct => by
    rw [parts, List.all_append, Bool.and_eq_true] at distinct
    obtain ⟨inside, own⟩ := distinct
    have nodup : (Members.keys members).Nodup := by simpa [keysDistinct] using own
    rw [toDatum, Datum.toJson, membersToJson_toDatum members inside]
    exact congrArg (fun m => Except.ok (object m)) (Members.ofList_of_nodup nodup)

theorem elementsToJson_toDatum : ∀ elements : List Json, (elementParts elements).all keysDistinct →
    Datum.elementsToJson (elementsToDatum elements) = .ok elements
  | [], _ => rfl
  | value :: rest, distinct => by
    rw [elementParts, List.all_append, Bool.and_eq_true] at distinct
    rw [elementsToDatum, Datum.elementsToJson, toJson_toDatum value distinct.1,
      elementsToJson_toDatum rest distinct.2]
    rfl

theorem membersToJson_toDatum : ∀ members : List (String × Json),
    (memberParts members).all keysDistinct →
      Datum.entriesToJson (membersToDatum members) = .ok members
  | [], _ => rfl
  | (key, value) :: rest, distinct => by
    rw [memberParts, List.all_append, Bool.and_eq_true] at distinct
    rw [membersToDatum, Datum.entriesToJson, toJson_toDatum value distinct.1,
      membersToJson_toDatum rest distinct.2]
    rfl

end

/-- Of an object that repeats a key, the value that comes last is left. -/
example : (object [("a", .null), ("b", .null), ("a", .bool true)]).toDatum.toJson =
    .ok (object [("a", .bool true), ("b", .null)]) := by decide

/-! ## Plain JSON -/

/-- Whether a part, if it is an object, becomes an ordinary document. -/
def isOrdinary : Json → Bool
  | object members => Document.isOrdinary (memberImages members)
  | _ => true

theorem keysDistinct_of_isOrdinary {v : Json} (plain : v.isOrdinary) : v.keysDistinct := by
  cases v with
  | object members =>
    obtain ⟨distinct, -⟩ := Document.isOrdinary_iff.mp plain
    rw [keys_memberImages] at distinct
    exact decide_eq_true distinct
  | _ => rfl

theorem payloadWellFormed_of_isOrdinary {v : Json} (plain : v.isOrdinary) :
    v.payloadWellFormed := by
  cases v with
  | object members =>
    rw [payloadWellFormed, Bool.not_eq_true', decide_eq_false_iff_not]
    exact Extended.not_illFormed_ofList plain
  | _ => rfl

theorem oversized_number (n : JsonNumber) : (number n).oversized = n.oversized :=
  List.flatMap_singleton _ _

/-- A number that is not oversized is written as itself after conversion. -/
theorem toJson_image_number {n : JsonNumber} (fits : n.oversized = []) :
    n.image.toJson = .number n := by
  cases n with
  | int n least most =>
    by_cases small : n < 0x8000000000000000
    · have same : (Int64.ofInt n).toInt = n := Int64.toInt_ofInt_of_le least small
      simp only [JsonNumber.image, if_pos small, Bson.toJson, ofInt64, JsonNumber.ofInt64, same]
    · simp only [JsonNumber.oversized, if_neg small] at fits
      cases fits
  | double x finite => exact dif_pos finite

mutual

/-- What becomes of a plain value is written as the value. -/
theorem toJson_image : ∀ v : Json, v.parts.all isOrdinary → v.oversized = [] → v.image.toJson = v
  | null, _, _ | bool _, _, _ | string _, _, _ => rfl
  | number n, _, fits => by
    rw [oversized_number] at fits
    exact toJson_image_number fits
  | array elements, plain, fits => by
    rw [oversized, parts, List.flatMap_append, List.append_eq_nil_iff] at fits
    rw [parts, List.all_append, Bool.and_eq_true] at plain
    rw [image, Bson.toJson, elementsToJson_images elements plain.1 fits.1]
  | object members, plain, fits => by
    rw [oversized, parts, List.flatMap_append, List.append_eq_nil_iff] at fits
    rw [parts, List.all_append, List.all_cons, Bool.and_eq_true, Bool.and_eq_true] at plain
    obtain ⟨inside, ordinary, -⟩ := plain
    rw [image, Extended.image_ofList ordinary, Bson.toJson,
      entriesToJson_images members inside fits.1]

theorem elementsToJson_images : ∀ elements : List Json, (elementParts elements).all isOrdinary →
    (elementParts elements).flatMap ownOversized = [] →
      Bson.elementsToJson (elementImages elements) = elements
  | [], _, _ => rfl
  | value :: rest, plain, fits => by
    rw [elementParts, List.flatMap_append, List.append_eq_nil_iff] at fits
    rw [elementParts, List.all_append, Bool.and_eq_true] at plain
    rw [elementImages, Bson.elementsToJson, toJson_image value plain.1 fits.1,
      elementsToJson_images rest plain.2 fits.2]

theorem entriesToJson_images : ∀ members : List (String × Json),
    (memberParts members).all isOrdinary → (memberParts members).flatMap ownOversized = [] →
      Bson.entriesToJson (memberImages members) = members
  | [], _, _ => rfl
  | (key, value) :: rest, plain, fits => by
    rw [memberParts, List.flatMap_append, List.append_eq_nil_iff] at fits
    rw [memberParts, List.all_append, Bool.and_eq_true] at plain
    rw [memberImages, Bson.entriesToJson, toJson_image value plain.1 fits.1,
      entriesToJson_images rest plain.2 fits.2]

end

/-- A plain object is stored as a document that is written as the object. -/
theorem exists_encodeDocument {m : Members} (plain : (object m).parts.all isOrdinary)
    (fits : (object m).oversized = []) :
    ∃ d, (object m).toDatum.encodeDocument = .ok d ∧ d.toJson = .object m := by
  have each := List.all_eq_true.mp plain
  have image : (object m).image = .document (memberImages m) :=
    Extended.image_ofList (each (object m) (by simp [parts]))
  have distinct : (object m).parts.all keysDistinct :=
    List.all_eq_true.mpr fun part mem => keysDistinct_of_isOrdinary (each part mem)
  have wellFormed : (object m).parts.all payloadWellFormed :=
    List.all_eq_true.mpr fun part mem => payloadWellFormed_of_isOrdinary (each part mem)
  refine ⟨memberImages m, ?_, ?_⟩
  · rw [Datum.encodeDocument_of_toJson (toJson_toDatum _ distinct), toBson_eq,
      failures_of_payloadWellFormed wellFormed, fits, image]
    rfl
  · have written := toJson_image (object m) plain fits
    rw [image] at written
    exact written

end Json

/-! ## Plain BSON -/

namespace Bson

mutual

/-- Whether a value consists of what JSON has, too, and of ordinary documents. -/
def isPlain : Bson → Bool
  | double x => x.isFinite
  | array elements => allPlain elements
  | document entries => Document.isOrdinary entries && entriesPlain entries
  | string _ | bool _ | null | int32 _ | int64 _ => true
  | _ => false

/-- Whether every value of a list is plain. -/
def allPlain : List Bson → Bool
  | [] => true
  | value :: rest => value.isPlain && allPlain rest

/-- Whether every value of a list of entries is plain. -/
def entriesPlain : List (String × Bson) → Bool
  | [] => true
  | (_, value) :: rest => value.isPlain && entriesPlain rest

end

mutual

/-- Plain numbers are finite. -/
theorem normalize_eq_widen : ∀ b : Bson, b.isPlain → b.normalize = b.widen
  | double x, plain => by
    rw [isPlain] at plain
    rw [normalize_double, if_pos plain]
    rfl
  | array elements, plain => congrArg array (elementsNormalize_eq_widen elements plain)
  | document entries, plain => by
    rw [isPlain, Bool.and_eq_true] at plain
    exact congrArg document (entriesNormalize_eq_widen entries plain.2)
  | string _, _ | bool _, _ | null, _ | int32 _, _ | int64 _, _ => rfl

theorem elementsNormalize_eq_widen : ∀ elements : List Bson, allPlain elements →
    elementsMapScalars normalizeScalar elements = elementsMapScalars widenScalar elements
  | [], _ => rfl
  | value :: rest, plain => by
    rw [allPlain, Bool.and_eq_true] at plain
    exact congrArg₂ List.cons (normalize_eq_widen value plain.1)
      (elementsNormalize_eq_widen rest plain.2)

theorem entriesNormalize_eq_widen : ∀ d : Document, entriesPlain d → d.normalize = d.widen
  | [], _ => rfl
  | (key, value) :: rest, plain => by
    rw [entriesPlain, Bool.and_eq_true] at plain
    exact congrArg₂ (fun v d => (key, v) :: d) (normalize_eq_widen value plain.1)
      (entriesNormalize_eq_widen rest plain.2)

end

theorem keys_entriesToJson (d : Document) : Members.keys (entriesToJson d) = d.keys := by
  induction d with
  | nil => rfl
  | cons entry rest ih =>
    obtain ⟨key, value⟩ := entry
    exact congrArg (key :: ·) ih

/-- An integer of either width is written as a number that reads as the wide integer. -/
theorem mirrors_ofInt64 (n : Int64) {b : Bson} (same : b.normalize = .int64 n) :
    Datum.Mirrors [] b (.ofInt64 n) := by
  refine ⟨?_, ?_⟩
  · rw [Json.ofInt64, Json.failures_number, JsonNumber.oversized_ofInt64]
    rfl
  · rw [same, Json.ofInt64, Json.image, JsonNumber.image_ofInt64]

mutual

/-- The JSON form of a plain value has no oversized integers, and becomes the value with normalized
numbers. -/
theorem mirrors_toJson : ∀ b : Bson, b.isPlain → Datum.Mirrors [] b b.toJson
  | double x, _ => Datum.mirrors_ofDouble [] rfl x
  | array elements, plain => (mirrors_elementsToJson elements plain).array
  | document entries, plain => by
    rw [isPlain, Bool.and_eq_true] at plain
    obtain ⟨ordinary, inside⟩ := plain
    have object := (mirrors_entriesToJson entries inside).object ordinary
    -- the members have the keys of the document, so inserting them one by one changes nothing
    rwa [Members.ofList_of_nodup] at object
    rw [keys_entriesToJson]
    exact (Document.isOrdinary_iff.mp ordinary).1
  | int32 n, _ => mirrors_ofInt64 n.toInt64 rfl
  | int64 n, _ => mirrors_ofInt64 n rfl
  | string _, _ | bool _, _ | null, _ => ⟨rfl, rfl⟩

theorem mirrors_elementsToJson : ∀ elements : List Bson, allPlain elements →
    Datum.MirrorsElements [] elements (elementsToJson elements)
  | [], _ => .nil
  | value :: rest, plain => by
    rw [allPlain, Bool.and_eq_true] at plain
    exact (mirrors_elementsToJson rest plain.2).cons (mirrors_toJson value plain.1)

theorem mirrors_entriesToJson : ∀ d : Document, entriesPlain d →
    Datum.MirrorsMembers [] d (entriesToJson d)
  | [], _ => .nil
  | (_, value) :: rest, plain => by
    rw [entriesPlain, Bool.and_eq_true] at plain
    exact (mirrors_entriesToJson rest plain.2).cons (mirrors_toJson value plain.1)

end

/-- A plain value that is read from its JSON form is the same with wide integers. -/
theorem toBson_toJson {b : Bson} (plain : b.isPlain) : b.toJson.toBson = .ok b.widen := by
  obtain ⟨failures, image⟩ := mirrors_toJson b plain
  rw [Json.toBson_eq, failures, image, normalize_eq_widen b plain]
  rfl

end Bson

/-- **Writing and encoding undo each other on plain data.** A plain JSON object without oversized
integers is written as it is. A plain document that is written and read again is the same with wide
integers. -/
theorem writeEncoded_roundtrip :
    (∀ m : Members, (Json.object m).parts.all Json.isOrdinary → (Json.object m).oversized = [] →
      ∀ write, writeEncoded write (Json.object m).toDatum.encodeDocument =
        .ok (write (.object m))) ∧
    ∀ d : Document, (Bson.document d).isPlain →
      ∃ json : Json, (∀ write, writeEncoded write (.ok d) = .ok (write json)) ∧
        (do Failure.lift (← json.toBson).toDocument) = .ok d.widen := by
  constructor
  · intro m plain fits write
    obtain ⟨doc, encoded, written⟩ := Json.exists_encodeDocument plain fits
    rw [encoded, writeEncoded]
    exact congrArg (fun json => Except.ok (write json)) written
  · intro d plain
    refine ⟨d.toJson, fun write => rfl, ?_⟩
    rw [Document.toJson, Bson.toBson_toJson plain]
    rfl

/-- Keys out of order, nested objects and keys that occur in extended documents come back as they
were. -/
theorem writeEncoded_roundtrip_order :
    let m : Members :=
      [("z", .array [.number (.ofInt64 (-3)), .null, .object []]), ("t", .number (.ofInt64 1)),
        ("i", .object [("$date", .string "soon"), ("b", .bool true), ("a", .string "x")])]
    let d : Document :=
      [("z", .array [.int32 (-3), .int64 5, .double ⟨0x3ff8000000000000⟩]), ("t", .int32 1),
        ("i", .document [("t", .null), ("i", .int32 7)])]
    (Json.object m).parts.all Json.isOrdinary ∧ (Json.object m).oversized = [] ∧
      (Bson.document d).isPlain ∧
      writeEncoded Json.compact (Json.object m).toDatum.encodeDocument =
        .ok (Json.object m).compact ∧
      ∃ json : Json, (∀ write, writeEncoded write (.ok d) = .ok (write json)) ∧
        (do Failure.lift (← json.toBson).toDocument) = .ok
          [("z", .array [.int64 (-3), .int64 5, .double ⟨0x3ff8000000000000⟩]), ("t", .int64 1),
            ("i", .document [("t", .null), ("i", .int64 7)])] := by
  intro m d
  have plain : (Json.object m).parts.all Json.isOrdinary := by decide
  have fits : (Json.object m).oversized = [] := by decide
  have plainDocument : (Bson.document d).isPlain := by decide
  exact ⟨plain, fits, plainDocument, writeEncoded_roundtrip.1 m plain fits Json.compact,
    writeEncoded_roundtrip.2 d plainDocument⟩

end PreparedFilter

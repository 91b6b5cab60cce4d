import PreparedFilter.Gallery.Records
import PreparedFilter.Proofs.Encoding.Agreement

/-!
# Records come back

A record is encoded by way of JSON and decoded from BSON directly, so the two ways share no code.
What a record is stored as follows from its fields (`Datum.StoredAs`).

Notes, which reach to any depth, come back as far as JSON can hold their numbers
(`Gallery.Note.decode_encode`): a number that is not finite is stored as `null`, and a `null` is not
read as a number.
-/

namespace PreparedFilter

namespace Datum

/-! ## Stored values -/

/-- A value of common data without oversized integers, and what it is stored as. -/
structure StoredAs (v : Datum) (b : Bson) : Prop where
  common : v.parts.all Part.isCommon
  fits : v.oversized = []
  image : v.image.normalize = b

/-- The elements of a sequence, and what they are stored as. -/
structure StoredElements (elements : List Datum) (bs : List Bson) : Prop where
  common : (elementParts elements).all Part.isCommon
  fits : (elementParts elements).flatMap Part.ownOversized = []
  images : Bson.elementsMapScalars Bson.normalizeScalar (elementImages elements) = bs

/-- The fields of a record, and what they are stored as. -/
structure StoredFields (fields : List (String × Datum)) (d : Document) : Prop where
  common : (fieldParts fields).all Part.isCommon
  fits : (fieldParts fields).flatMap Part.ownOversized = []
  images : Document.normalize (fieldImages fields) = d

variable {v : Datum} {b : Bson} {elements : List Datum} {bs : List Bson}
  {fields : List (String × Datum)} {d : Document}

theorem storedAs_bool (b : Bool) : StoredAs (.bool b) (.bool b) := ⟨rfl, rfl, rfl⟩

theorem storedAs_i64 (n : Int64) : StoredAs (.int (.i64 n)) (.int64 n) := ⟨rfl, rfl, rfl⟩

/-- A number that is not finite is stored as `null`. -/
theorem storedAs_double (x : Binary64) :
    StoredAs (.double x) (if x.isFinite then .double x else .null) := ⟨rfl, rfl, rfl⟩

theorem storedAs_string (s : String) : StoredAs (.string s) (.string s) := ⟨rfl, rfl, rfl⟩

theorem storedAs_absent : StoredAs .absent .null := ⟨rfl, rfl, rfl⟩

/-- A value that is present is stored like the value alone. -/
theorem StoredAs.present (h : v.StoredAs b) : StoredAs (.present v) b where
  common := by
    rw [parts, all_append_value_iff]
    exact ⟨h.common, rfl, nofun⟩
  fits := by
    rw [oversized, parts, flatMap_append_of_eq_nil _ rfl]
    exact h.fits
  image := h.image

theorem StoredElements.nil : StoredElements [] [] := ⟨rfl, rfl, rfl⟩

theorem StoredElements.cons (hs : StoredElements elements bs) (h : v.StoredAs b) :
    StoredElements (v :: elements) (b :: bs) where
  common := by
    rw [elementParts, List.all_append, h.common, hs.common]
    rfl
  fits := by
    rw [elementParts, List.flatMap_append, hs.fits, List.append_nil]
    exact h.fits
  images := by
    rw [← h.image, ← hs.images]
    rfl

theorem StoredElements.seq (h : StoredElements elements bs) :
    StoredAs (.seq elements) (.array bs) where
  common := by
    rw [parts, all_append_value_iff]
    exact ⟨h.common, rfl, nofun⟩
  fits := by
    rw [oversized, parts, flatMap_append_of_eq_nil _ rfl]
    exact h.fits
  image := congrArg Bson.array h.images

theorem storedElements_strings (texts : List String) :
    StoredElements (texts.map .string) (texts.map .string) := by
  induction texts with
  | nil => exact .nil
  | cons s texts ih => exact ih.cons (storedAs_string s)

theorem StoredFields.nil : StoredFields [] [] := ⟨rfl, rfl, rfl⟩

theorem StoredFields.cons (hs : StoredFields fields d) (name : String) (h : v.StoredAs b) :
    StoredFields ((name, v) :: fields) ((name, b) :: d) where
  common := by
    rw [fieldParts, List.all_append, h.common, hs.common]
    rfl
  fits := by
    rw [fieldParts, List.flatMap_append, hs.fits, List.append_nil]
    exact h.fits
  images := by
    rw [← h.image, ← hs.images]
    rfl

/-- A record is stored as the document of its fields, unless that looks like an extended one. -/
theorem StoredFields.record (h : StoredFields fields d)
    (ordinary : Document.isOrdinary (fieldImages fields)) :
    StoredAs (.record fields) (.document d) where
  common := by
    rw [parts, all_append_value_iff]
    exact ⟨h.common, rfl, List.forall_mem_singleton.mpr ordinary⟩
  fits := by
    rw [oversized, parts, flatMap_append_of_eq_nil _ rfl]
    exact h.fits
  image := by
    rw [Datum.image, Extended.image_ofList ordinary, ← h.images]
    rfl

/-- A record that is stored as a document is encoded as this document. -/
theorem StoredAs.encodeDocument (h : v.StoredAs (.document d)) : v.encodeDocument = .ok d := by
  rw [encodeDocument_of_common h.common, h.fits, h.image]
  rfl

end Datum

theorem Bson.asStrings?_strings (texts : List String) :
    (array (texts.map .string)).asStrings? = some texts := by
  show (texts.map .string).mapM asString? = some texts
  induction texts with
  | nil => rfl
  | cons s texts ih =>
    rw [List.map_cons, List.mapM_cons, ih]
    rfl

namespace Gallery.Note

/-! ## Notes -/

/-- The numbers of a note and of all notes above it. -/
def scores : Note → List Binary64
  | mk _ _ score _ parent =>
    score :: match parent with
      | none => []
      | some note => note.scores

/-- The document that a note is stored as. -/
def stored : Note → Document
  | mk id done score tags parent =>
    [("id", .int64 id), ("done", .bool done),
      ("score", if score.isFinite then .double score else .null),
      ("tags", .array (tags.map .string)),
      ("parent", match parent with
        | none => .null
        | some note => .document note.stored)]

/-- A document with the fields of a note is no extended one. -/
theorem isOrdinary_fields (id done score tags parent : Bson) :
    Document.isOrdinary [("id", id), ("done", done), ("score", score), ("tags", tags),
      ("parent", parent)] := by
  refine Document.isOrdinary_iff.mpr ⟨?_, rfl⟩
  show ["id", "done", "score", "tags", "parent"].Nodup
  decide

/-- The fields of a note are stored one by one, whatever its parent is stored as. -/
theorem storedAs_fields (id : Int64) (done : Bool) (score : Binary64) (tags : List String)
    {parent : Datum} {b : Bson} (h : parent.StoredAs b) :
    Datum.StoredAs
      (.record [("id", .int (.i64 id)), ("done", .bool done), ("score", .double score),
        ("tags", .seq (tags.map .string)), ("parent", parent)])
      (.document [("id", .int64 id), ("done", .bool done),
        ("score", if score.isFinite then .double score else .null),
        ("tags", .array (tags.map .string)), ("parent", b)]) := by
  have fields := Datum.StoredFields.nil.cons "parent" h
  have fields := fields.cons "tags" (Datum.storedElements_strings tags).seq
  have fields := fields.cons "score" (Datum.storedAs_double score)
  have fields := fields.cons "done" (Datum.storedAs_bool done)
  have fields := fields.cons "id" (Datum.storedAs_i64 id)
  exact fields.record (isOrdinary_fields _ _ _ _ _)

/-- A note is stored as its document, and so is every note above it. -/
theorem storedAs_toDatum : ∀ n : Note, n.toDatum.StoredAs (.document n.stored)
  | mk id done score tags none => by
    rw [toDatum, stored]
    exact storedAs_fields id done score tags Datum.storedAs_absent
  | mk id done score tags (some parent) => by
    rw [toDatum, stored]
    exact storedAs_fields id done score tags (storedAs_toDatum parent).present

/-- Every note is stored. -/
theorem encode_eq (objection : Document → String) (n : Note) :
    (Codec.ofRecord Note objection).encode n = .ok n.stored :=
  (storedAs_toDatum n).encodeDocument

/-! ## Reading notes -/

theorem parentOf?_cons_ne {key : String} (other : key ≠ "parent") (value : Bson) (d : Document) :
    parentOf? ((key, value) :: d) = parentOf? d := by
  rw [parentOf?.eq_def]
  exact if_neg other

/-- The fields of a note are read in their order, the parent last. -/
theorem ofBson?_fields (id done score tags parent : Bson) :
    ofBson? (.document [("id", id), ("done", done), ("score", score), ("tags", tags),
        ("parent", parent)]) = (do
      let id ← id.toInt64?
      let done ← done.asBool?
      let score ← score.asDouble?
      let tags ← tags.asStrings?
      let parent ← parentOf? [("parent", parent)]
      return mk id done score tags parent) := by
  rw [ofBson?, parentOf?_cons_ne (by decide), parentOf?_cons_ne (by decide),
    parentOf?_cons_ne (by decide), parentOf?_cons_ne (by decide)]
  rfl

/-- What was stored of a note is read if its number is finite and its parent is read. -/
theorem ofBson?_stored_fields (id : Int64) (done : Bool) (score : Binary64) (tags : List String)
    {value : Bson} {parent : Option Note} {read : Bool}
    (h : parentOf? [("parent", value)] = if read then some parent else none) :
    ofBson? (.document [("id", .int64 id), ("done", .bool done),
        ("score", if score.isFinite then .double score else .null),
        ("tags", .array (tags.map .string)), ("parent", value)]) =
      if score.isFinite && read then some (mk id done score tags parent) else none := by
  rw [ofBson?_fields, Bson.asStrings?_strings, h]
  cases score.isFinite with
  | true => cases read <;> rfl
  | false => rfl

/-- A note is read from its document if all its numbers are finite. -/
theorem ofBson?_stored : ∀ n : Note,
    ofBson? (.document n.stored) = if n.scores.all Binary64.isFinite then some n else none
  | mk id done score tags none => by
    rw [stored, scores, List.all_cons]
    exact ofBson?_stored_fields id done score tags rfl
  | mk id done score tags (some parent) => by
    have above : parentOf? [("parent", .document parent.stored)] =
        if parent.scores.all Binary64.isFinite then some (some parent) else none := by
      show (ofBson? (.document parent.stored)).map some = _
      rw [ofBson?_stored parent]
      split <;> rfl
    rw [stored, scores, List.all_cons]
    exact ofBson?_stored_fields id done score tags above

/-! ## There and back -/

variable (objection : Document → String) {n : Note}

/-- The document of a note is decoded to the note or refused, depending on its numbers alone. -/
theorem decode_stored (n : Note) :
    (Codec.ofRecord Note objection).decode n.stored =
      if n.scores.all Binary64.isFinite then .ok n
      else .error (.ofOrigin "can't decode document" ⟨.bsonDecoding, objection n.stored⟩) := by
  have read : Record.ofDocument? n.stored =
      if n.scores.all Binary64.isFinite then some n else none := ofBson?_stored n
  simp only [Codec.ofRecord, read]
  by_cases finite : n.scores.all Binary64.isFinite
  · rw [if_pos finite, if_pos finite]
  · rw [if_neg finite, if_neg finite]

theorem decode_stored_of_finite (finite : ∀ score ∈ n.scores, score.isFinite) :
    (Codec.ofRecord Note objection).decode n.stored = .ok n := by
  rw [decode_stored, if_pos (List.all_eq_true.mpr finite)]

theorem decode_stored_of_not_finite (infinite : ¬ ∀ score ∈ n.scores, score.isFinite) :
    (Codec.ofRecord Note objection).decode n.stored =
      .error (.ofOrigin "can't decode document" ⟨.bsonDecoding, objection n.stored⟩) := by
  rw [decode_stored, if_neg fun finite => infinite (List.all_eq_true.mp finite)]

/-- **Decoding undoes encoding on notes of any depth.** Every note is encoded. What it is encoded as
is decoded exactly if all numbers of the note and of those above it are finite, and then gives the
note; otherwise decoding fails. Hence a document that is decoded to such a note and encoded again is
decoded to the same note. -/
theorem decode_encode (n : Note) :
    let codec := Codec.ofRecord Note objection
    ∃ d, codec.encode n = .ok d ∧
      ((∃ m, codec.decode d = .ok m) ↔ ∀ score ∈ n.scores, score.isFinite) ∧
      ((∀ score ∈ n.scores, score.isFinite) → codec.decode d = .ok n) ∧
      ((∃ score ∈ n.scores, score.isFinite = false) →
        ∃ fault, codec.decode d = .error fault ∧ fault.kind = .bsonDecoding) ∧
      ((∀ score ∈ n.scores, score.isFinite) → ∀ written, codec.decode written = .ok n →
        ∃ again, codec.transcode written = .ok again ∧ codec.decode again = .ok n) := by
  intro codec
  refine ⟨n.stored, encode_eq objection n, ?_, decode_stored_of_finite objection, ?_, ?_⟩
  · by_cases finite : ∀ score ∈ n.scores, score.isFinite
    · exact iff_of_true ⟨n, decode_stored_of_finite objection finite⟩ finite
    · refine iff_of_false ?_ finite
      rintro ⟨m, hm⟩
      rw [decode_stored_of_not_finite objection finite] at hm
      cases hm
  · rintro ⟨score, mem, infinite⟩
    refine ⟨_, decode_stored_of_not_finite objection fun finite => ?_, rfl⟩
    exact absurd (finite score mem) (Bool.eq_false_iff.mp infinite)
  · intro finite written decoded
    refine ⟨n.stored, ?_, decode_stored_of_finite objection finite⟩
    rw [Codec.transcode, decoded]
    exact encode_eq objection n

/-- A note with extreme numbers comes back with the note above it; a note is refused for the number
of the note above it. -/
theorem decode_encode_answers :
    let above : Note :=
      mk (Int64.ofInt (-0x8000000000000000)) false ⟨0x8000000000000000⟩ ["", "b", "a"] none
    let note : Note := mk 0x7fffffffffffffff true ⟨0x3ff8000000000000⟩ [] (some above)
    let unread : Note := mk 1 true ⟨0x3ff8000000000000⟩ []
      (some (mk 2 false ⟨0x7ff8000000000000⟩ ["x"] none))
    let objection := fun _ => "not a note"
    let codec := Codec.ofRecord Note objection
    (∃ d, codec.encode note = .ok d ∧ codec.decode d = .ok note ∧
      ∃ again, codec.transcode d = .ok again ∧ codec.decode again = .ok note) ∧
    ∃ d, codec.encode unread = .ok d ∧
      ∃ fault, codec.decode d = .error fault ∧ fault.kind = .bsonDecoding := by
  intro above note unread objection codec
  have finite : ∀ score ∈ note.scores, score.isFinite := by decide
  have infinite : ∃ score ∈ unread.scores, score.isFinite = false := by decide
  obtain ⟨d, encoded, -, back, -, again⟩ := decode_encode objection note
  obtain ⟨d', encoded', -, -, fails, -⟩ := decode_encode objection unread
  exact ⟨⟨d, encoded, back finite, again finite d (back finite)⟩,
    d', encoded', fails infinite⟩

end Gallery.Note

end PreparedFilter

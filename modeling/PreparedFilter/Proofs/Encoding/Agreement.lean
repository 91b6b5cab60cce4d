import PreparedFilter.Codec
import PreparedFilter.Filter.Captures
import PreparedFilter.Proofs.Encoding.Aborting
import PreparedFilter.Proofs.Encoding.Widening

/-!
# The two encoders agree

Captured values are encoded directly, stored records by way of JSON. On *common* data
(`Datum.Part.isCommon`) both have a form for everything but an oversized integer, which both refuse.
Otherwise the detour leaves its mark on numbers only: the document is the captured value with
normalized numbers (`Datum.encoders_agree`).

What carries this is a relation between the parts of a value, what it becomes directly and its JSON
form (`Datum.Mirrors`), kept by every way of building values.
-/

namespace PreparedFilter

/-! ## Integers -/

namespace JsonNumber

theorem ofInt?_toInt (a : Int64) : ofInt? a.toInt = some (ofInt64 a) := by
  have least := Int64.le_toInt a
  have most := Int64.toInt_lt a
  exact dif_pos ⟨by omega, by omega⟩

theorem ofInt?_toNat (n : UInt64) : ofInt? n.toNat = some (ofUInt64 n) := by
  have most := n.toNat_lt
  exact dif_pos ⟨by omega, by omega⟩

theorem oversized_ofInt64 (a : Int64) : (ofInt64 a).oversized = [] :=
  if_pos (Int64.toInt_lt a)

theorem image_ofInt64 (a : Int64) : (ofInt64 a).image = .int64 a := by
  refine (if_pos (Int64.toInt_lt a)).trans ?_
  rw [Int64.ofInt_toInt]

theorem oversized_ofUInt64 {n : UInt64} (big : ¬ n.toNat < 0x8000000000000000) :
    (ofUInt64 n).oversized = [(n.toNat : Int)] := by
  have beyond : ¬ (n.toNat : Int) < 0x8000000000000000 := by omega
  simp only [ofUInt64, oversized, if_neg beyond]

theorem image_ofUInt64 {n : UInt64} (big : ¬ n.toNat < 0x8000000000000000) :
    (ofUInt64 n).image = .null := by
  have beyond : ¬ (n.toNat : Int) < 0x8000000000000000 := by omega
  simp only [ofUInt64, image, if_neg beyond]

end JsonNumber

namespace FixedInt

/-- The integer, if it is beyond the wide ones. -/
def oversized : FixedInt → List Nat
  | u64 n => if n.toNat < 0x8000000000000000 then [] else [n.toNat]
  | _ => []

/-- Whether an integer is of a type of 128 bits. -/
def hasWideType : FixedInt → Bool
  | i128 _ | u128 _ => true
  | _ => false

/-- An integer that is neither oversized nor of 128 bits has a wide form of the same value. -/
theorem exists_int64 {n : FixedInt} (narrow : n.hasWideType = false) (fits : n.oversized = []) :
    ∃ a : Int64, n.toInt = a.toInt ∧ n.image.normalize = .int64 a := by
  cases n with
  | i8 n => exact ⟨n.toInt32.toInt64, by simp [toInt], rfl⟩
  | i16 n => exact ⟨n.toInt32.toInt64, by simp [toInt], rfl⟩
  | i32 n => exact ⟨n.toInt64, by simp [toInt], rfl⟩
  | i64 n => exact ⟨n, rfl, rfl⟩
  | i128 n => cases narrow
  | u8 n =>
    have small : n.toNat < 2 ^ 31 := Nat.lt_trans n.toNat_lt (by decide)
    refine ⟨(Int32.ofNat n.toNat).toInt64, ?_, rfl⟩
    rw [Int32.toInt_toInt64, Int32.toInt_ofNat_of_lt small, toInt]
  | u16 n =>
    have small : n.toNat < 2 ^ 31 := Nat.lt_trans n.toNat_lt (by decide)
    refine ⟨(Int32.ofNat n.toNat).toInt64, ?_, rfl⟩
    rw [Int32.toInt_toInt64, Int32.toInt_ofNat_of_lt small, toInt]
  | u32 n =>
    have small : n.toNat < 2 ^ 63 := Nat.lt_trans n.toNat_lt (by decide)
    exact ⟨Int64.ofNat n.toNat, (Int64.toInt_ofNat_of_lt small).symm, rfl⟩
  | u64 n =>
    simp only [oversized] at fits
    by_cases small : n.toNat < 0x8000000000000000
    · simp only [image, if_pos small]
      exact ⟨Int64.ofNat n.toNat, (Int64.toInt_ofNat_of_lt small).symm, rfl⟩
    · rw [if_neg small] at fits
      cases fits
  | u128 n => cases narrow

/-- An integer of up to 64 bits is oversized by way of JSON exactly if it is so directly, and
otherwise becomes the same up to its width. -/
theorem mirrors {n : FixedInt} (narrow : n.hasWideType = false) :
    ∃ number, n.toJson = .ok (.number number) ∧ number.oversized = n.oversized.map Int.ofNat ∧
      number.image = n.image.normalize := by
  cases big : n.oversized with
  | nil =>
    obtain ⟨a, same, image⟩ := exists_int64 narrow big
    refine ⟨.ofInt64 a, ?_, JsonNumber.oversized_ofInt64 a, ?_⟩
    · rw [toJson, same, JsonNumber.ofInt?_toInt]
    · rw [image, JsonNumber.image_ofInt64]
  | cons k rest =>
    -- only an unsigned integer of 64 bits is oversized
    cases n with
    | u64 n =>
      simp only [oversized] at big
      by_cases small : n.toNat < 0x8000000000000000
      · rw [if_pos small] at big
        cases big
      · rw [if_neg small] at big
        cases big
        refine ⟨.ofUInt64 n, ?_, ?_, ?_⟩
        · rw [toJson, toInt, JsonNumber.ofInt?_toNat]
        · exact JsonNumber.oversized_ofUInt64 small
        · simp only [image, if_neg small]
          exact JsonNumber.image_ofUInt64 small
    | _ => cases big

/-- An integer of up to 64 bits fails only by being oversized. -/
theorem failures_eq {n : FixedInt} (narrow : n.hasWideType = false) :
    n.failures = n.oversized.map fun k => .refused (.unsigned k) := by
  cases n with
  | i128 n => cases narrow
  | u128 n => cases narrow
  | u64 n =>
    simp only [failures, oversized]
    split <;> rfl
  | _ => rfl

end FixedInt

/-! ## Ordinary documents -/

/-- Whether the keys of a document are distinct and it has not the shape of an extended one. -/
def Document.isOrdinary (d : Document) : Bool := decide d.keys.Nodup && !Extended.isShape d

/-- An ordinary document repeats no key, and has not the shape of an extended one. -/
theorem Document.isOrdinary_iff {d : Document} :
    d.isOrdinary ↔ d.keys.Nodup ∧ Extended.isShape d = false := by
  rw [isOrdinary, Bool.and_eq_true, decide_eq_true_iff, Bool.not_eq_true']

namespace Extended

variable {d : Document}

theorem not_illFormed (plain : Form.ofDocument? d = none) : ¬ IllFormed d := by
  intro bad
  obtain ⟨form, recognised, -⟩ := bad.exists_form
  rw [plain] at recognised
  cases recognised

theorem image_eq (plain : Form.ofDocument? d = none) : image d = .document d := by
  rw [image, read?, plain]
  rfl

theorem not_illFormed_ofList (ordinary : d.isOrdinary) : ¬ IllFormed (Document.ofList d) := by
  obtain ⟨distinct, plain⟩ := Document.isOrdinary_iff.mp ordinary
  rw [Document.ofList_of_nodup distinct]
  exact not_illFormed (ofDocument?_eq_none plain)

/-- Inserting the entries of an ordinary document one by one gives the document itself. -/
theorem image_ofList (ordinary : d.isOrdinary) : image (Document.ofList d) = .document d := by
  obtain ⟨distinct, plain⟩ := Document.isOrdinary_iff.mp ordinary
  rw [Document.ofList_of_nodup distinct]
  exact image_eq (ofDocument?_eq_none plain)

end Extended

namespace Datum

/-- The text of a key. -/
def keyName? : Datum → Option String
  | string s => some s
  | char c => some (String.singleton c)
  | variant name => some name
  | wrapped v => v.keyName?
  | _ => none

/-- The documents that a value is made into. -/
def objects : Datum → List Document
  | map entries => [entryImages entries]
  | record fields => [fieldImages fields]
  | variantOf name v => [[(name, v.image)]]
  | variantSeq name elements => [[(name, .array (elementImages elements))]]
  | variantRecord name fields =>
    [fieldImages fields, [(name, Extended.image (Document.ofList (fieldImages fields)))]]
  | _ => []

/-- Whether a value is of a kind that both formats have. -/
def isShared : Datum → Bool
  | bytes _ => false
  | failing _ => false
  | int n => !n.hasWideType
  | _ => true

/-- Whether a part is of a kind that both formats have, and makes ordinary documents. -/
def Part.isCommon : Part → Bool
  | .key k => k.keyName?.isSome
  | .value v => v.isShared && v.objects.all Document.isOrdinary

/-- The oversized integer that a part is. -/
def Part.ownOversized : Part → List Nat
  | .value (int n) => n.oversized
  | _ => []

/-- The oversized integers in a value, in order. -/
def oversized (v : Datum) : List Nat := v.parts.flatMap Part.ownOversized

theorem oversized_int (n : FixedInt) : (int n).oversized = n.oversized := List.flatMap_singleton _ _

theorem all_append_value_iff {inside : List Part} {v : Datum} :
    (inside ++ [Part.value v]).all Part.isCommon ↔
      inside.all Part.isCommon ∧ v.isShared ∧ ∀ d ∈ v.objects, d.isOrdinary := by
  rw [← List.all_eq_true, List.all_append, List.all_cons, List.all_nil, Bool.and_true,
    Bool.and_eq_true, Part.isCommon, Bool.and_eq_true]

/-- A key with a name is the same text for both encoders, and nothing of it is oversized. -/
theorem keyName?_eq_some {name : String} : ∀ {k : Datum}, k.keyName? = some name →
    k.image = .string name ∧ k.toJsonKey = .ok name ∧ k.oversized = []
  | string s, h => by cases h; exact ⟨rfl, rfl, rfl⟩
  | char c, h => by cases h; exact ⟨rfl, rfl, rfl⟩
  | variant n, h => by cases h; exact ⟨rfl, rfl, rfl⟩
  | wrapped v, h => by
    obtain ⟨image, key, fits⟩ := keyName?_eq_some (k := v) h
    refine ⟨image, key, ?_⟩
    rw [oversized, parts, flatMap_append_of_eq_nil _ rfl]
    exact fits

/-! ## Direct encoding -/

/-- A part of common data fails only by being oversized. -/
theorem Part.ownFailures_eq {part : Part} (common : part.isCommon) :
    part.ownFailures = part.ownOversized.map fun n => .refused (.unsigned n) := by
  cases part with
  | key k =>
    obtain ⟨name, hname⟩ := Option.isSome_iff_exists.mp common
    obtain ⟨image, -, -⟩ := keyName?_eq_some hname
    rw [ownFailures, image]
    rfl
  | value v =>
    rw [isCommon, Bool.and_eq_true, List.all_eq_true] at common
    obtain ⟨shared, ordinary⟩ := common
    cases v with
    | int n =>
      rw [isShared, Bool.not_eq_true'] at shared
      exact n.failures_eq shared
    | map entries => exact if_neg (Extended.not_illFormed_ofList (ordinary _ List.mem_cons_self))
    | record fields => exact if_neg (Extended.not_illFormed_ofList (ordinary _ List.mem_cons_self))
    | variantRecord name fields =>
      exact if_neg (Extended.not_illFormed_ofList (ordinary _ List.mem_cons_self))
    | failing message => cases shared
    | _ => rfl

/-- Common data fails only by its oversized integers, in their order. -/
theorem failures_eq {v : Datum} (common : v.parts.all Part.isCommon) :
    v.failures = v.oversized.map fun n => .refused (.unsigned n) := by
  rw [failures, oversized, List.map_flatMap]
  rw [List.all_eq_true] at common
  exact List.flatMap_congr fun part mem => Part.ownFailures_eq (common part mem)

/-! ## By way of JSON -/

/-- The reports of the oversized integers among some parts. -/
def oversizedFailures (parts : List Part) : List Failure :=
  (parts.flatMap Part.ownOversized).map fun n : Nat => Json.oversizedFailure n

theorem oversizedFailures_append (parts more : List Part) :
    oversizedFailures (parts ++ more) = oversizedFailures parts ++ oversizedFailures more := by
  rw [oversizedFailures, List.flatMap_append, List.map_append]
  rfl

/-- A JSON value fails by the oversized integers among some parts, and otherwise becomes a value
with normalized numbers. -/
structure Mirrors (parts : List Part) (image : Bson) (j : Json) : Prop where
  failures : j.failures = oversizedFailures parts
  image : j.image = image.normalize

/-- JSON values fail by the oversized integers among some parts, and otherwise become the elements
of an array with normalized numbers. -/
structure MirrorsElements (parts : List Part) (images : List Bson) (js : List Json) : Prop where
  failures : (Json.elementParts js).flatMap Json.ownFailures = oversizedFailures parts
  images : Json.elementImages js = Bson.elementsMapScalars Bson.normalizeScalar images

/-- The members of an object fail by the oversized integers among some parts, and otherwise become
the entries of a document with normalized numbers. -/
structure MirrorsMembers (parts : List Part) (d : Document) (m : Members) : Prop where
  failures : (Json.memberParts m).flatMap Json.ownFailures = oversizedFailures parts
  images : Json.memberImages m = d.normalize

section

variable {parts more : List Part} {image : Bson} {images : List Bson} {d : Document} {j : Json}
  {js : List Json} {m : Members} {name : String}

/-- A value that is not oversized itself adds nothing to what its parts mirror. -/
theorem Mirrors.last (h : Mirrors parts image j) {v : Datum}
    (quiet : (Part.value v).ownOversized = []) : Mirrors (parts ++ [.value v]) image j := by
  refine ⟨?_, h.image⟩
  rw [oversizedFailures, flatMap_append_of_eq_nil parts quiet]
  exact h.failures

theorem MirrorsElements.nil : MirrorsElements [] [] [] := ⟨rfl, rfl⟩

/-- Elements are encoded from left to right, so that the failures of the first one come first. -/
theorem MirrorsElements.cons (hs : MirrorsElements more images js) (h : Mirrors parts image j) :
    MirrorsElements (parts ++ more) (image :: images) (j :: js) := by
  refine ⟨?_, ?_⟩
  · rw [Json.elementParts, List.flatMap_append, hs.failures, oversizedFailures_append]
    exact congrArg (· ++ oversizedFailures more) h.failures
  · rw [Json.elementImages, h.image, hs.images, Bson.elementsMapScalars, Bson.normalize]

theorem MirrorsElements.array (h : MirrorsElements parts images js) :
    Mirrors parts (.array images) (.array js) := by
  refine ⟨?_, ?_⟩
  · rw [Json.failures_array, h.failures]
  · rw [Json.image, h.images, Bson.normalize, Bson.mapScalars]

theorem MirrorsMembers.nil : MirrorsMembers [] [] [] := ⟨rfl, rfl⟩

theorem MirrorsMembers.cons (hs : MirrorsMembers more d m) (h : Mirrors parts image j) :
    MirrorsMembers (parts ++ more) ((name, image) :: d) ((name, j) :: m) := by
  refine ⟨?_, ?_⟩
  · rw [Json.memberParts, List.flatMap_append, hs.failures, oversizedFailures_append]
    exact congrArg (· ++ oversizedFailures more) h.failures
  · rw [Json.memberImages, h.image, hs.images]
    rfl

/-- An object without repeated keys and without an extended shape stays what it is. -/
theorem MirrorsMembers.object (h : MirrorsMembers parts d m) (ordinary : d.isOrdinary) :
    Mirrors parts (.document d) (.object (Members.ofList m)) := by
  obtain ⟨distinct, plain⟩ := Document.isOrdinary_iff.mp ordinary
  -- by way of JSON the document is read after its numbers have been normalized
  have unread := Extended.ofDocument?_normalize_eq_none plain
  have keys : Document.keys d.normalize = d.keys := by
    rw [Document.normalize, Bson.entriesMapScalars_eq, Document.keys_mapValues]
  have same : Document.ofList (Json.memberImages m) = d.normalize := by
    rw [h.images]
    exact Document.ofList_of_nodup (keys ▸ distinct)
  have distinctMembers : (Members.keys m).Nodup := by
    rw [← Json.keys_memberImages, h.images, keys]
    exact distinct
  rw [Members.ofList_of_nodup distinctMembers]
  refine ⟨?_, ?_⟩
  · rw [Json.failures_object, h.failures, same, Extended.objections,
      if_neg (Extended.not_illFormed unread), List.append_nil]
  · rw [Json.image, same, Extended.image_eq unread]
    rfl

/-- Keys are texts, so none of their parts is oversized. -/
theorem MirrorsMembers.key (hs : MirrorsMembers parts d m) {k : Datum} (fits : k.oversized = []) :
    MirrorsMembers (k.parts ++ .key k :: parts) d m := by
  refine ⟨?_, hs.images⟩
  rw [oversizedFailures, List.flatMap_append, List.flatMap_cons]
  rw [oversized] at fits
  rw [fits]
  exact hs.failures

/-- An object of one member mirrors an ordinary document if the member does. -/
theorem Mirrors.single (h : Mirrors parts image j)
    (ordinary : Document.isOrdinary [(name, image)]) :
    Mirrors parts (.document [(name, image)]) (.single name j) := by
  have only : MirrorsMembers (parts ++ []) [(name, image)] [(name, j)] := MirrorsMembers.nil.cons h
  rw [List.append_nil] at only
  exact only.object ordinary

end

/-- A number that is not finite is `null` by way of JSON, as normalization has it. -/
theorem mirrors_ofDouble (parts : List Part) (fits : parts.flatMap Part.ownOversized = [])
    (x : Binary64) : Mirrors parts (.double x) (.ofDouble x) := by
  have quiet : oversizedFailures parts = [] := by rw [oversizedFailures, fits, List.map_nil]
  unfold Json.ofDouble
  by_cases finite : x.isFinite
  · rw [dif_pos finite]
    refine ⟨quiet.symm, ?_⟩
    rw [Bson.normalize_double, if_pos finite]
    rfl
  · rw [dif_neg finite]
    refine ⟨quiet.symm, ?_⟩
    rw [Bson.normalize_double, if_neg finite]
    rfl

mutual

/-- The JSON value of common data fails where direct encoding does, and otherwise becomes the same
with normalized numbers. -/
theorem mirrors : ∀ v : Datum, v.parts.all Part.isCommon →
    ∃ j, v.toJson = .ok j ∧ Mirrors v.parts v.image j
  | bool b, _ => ⟨.bool b, rfl, rfl, rfl⟩
  | int n, common => by
    have own := List.all_eq_true.mp common (.value (int n)) List.mem_cons_self
    rw [Part.isCommon, Bool.and_eq_true, isShared, Bool.not_eq_true'] at own
    obtain ⟨number, hnumber, oversized, image⟩ := FixedInt.mirrors own.1
    refine ⟨.number number, hnumber, ?_, image⟩
    rw [Json.failures_number, oversized, List.map_map, oversizedFailures, ← Datum.oversized,
      oversized_int]
    rfl
  | single bits, _ => ⟨.ofDouble (.ofBinary32 bits), rfl, mirrors_ofDouble _ rfl _⟩
  | double x, _ => ⟨.ofDouble x, rfl, mirrors_ofDouble _ rfl x⟩
  | char c, _ => ⟨.string (String.singleton c), rfl, rfl, rfl⟩
  | string s, _ => ⟨.string s, rfl, rfl, rfl⟩
  | bytes bs, common => by cases common
  | absent, _ => ⟨.null, rfl, rfl, rfl⟩
  | present v, common => by
    rw [parts, all_append_value_iff] at common
    obtain ⟨j, hj, h⟩ := mirrors v common.1
    exact ⟨j, hj, h.last rfl⟩
  | unit, _ => ⟨.null, rfl, rfl, rfl⟩
  | wrapped v, common => by
    rw [parts, all_append_value_iff] at common
    obtain ⟨j, hj, h⟩ := mirrors v common.1
    exact ⟨j, hj, h.last rfl⟩
  | seq elements, common => by
    rw [parts, all_append_value_iff] at common
    obtain ⟨js, hjs, h⟩ := mirrorsElements elements common.1
    refine ⟨.array js, ?_, h.array.last rfl⟩
    rw [toJson, hjs]
    rfl
  | map entries, common => by
    rw [parts, all_append_value_iff] at common
    obtain ⟨inside, -, objects⟩ := common
    have ordinary := objects _ List.mem_cons_self
    obtain ⟨m, hm, h⟩ := mirrorsEntries entries inside
    refine ⟨.object (Members.ofList m), ?_, ?_⟩
    · rw [toJson, hm]
      rfl
    · rw [image, Extended.image_ofList ordinary]
      exact (h.object ordinary).last rfl
  | record fields, common => by
    rw [parts, all_append_value_iff] at common
    obtain ⟨inside, -, objects⟩ := common
    have ordinary := objects _ List.mem_cons_self
    obtain ⟨m, hm, h⟩ := mirrorsFields fields inside
    refine ⟨.object (Members.ofList m), ?_, ?_⟩
    · rw [toJson, hm]
      rfl
    · rw [image, Extended.image_ofList ordinary]
      exact (h.object ordinary).last rfl
  | variant name, _ => ⟨.string name, rfl, rfl, rfl⟩
  | variantOf name v, common => by
    rw [parts, all_append_value_iff] at common
    obtain ⟨inside, -, objects⟩ := common
    obtain ⟨j, hj, h⟩ := mirrors v inside
    refine ⟨.single name j, ?_, (h.single (objects _ List.mem_cons_self)).last rfl⟩
    rw [toJson, hj]
    rfl
  | variantSeq name elements, common => by
    rw [parts, all_append_value_iff] at common
    obtain ⟨inside, -, objects⟩ := common
    obtain ⟨js, hjs, h⟩ := mirrorsElements elements inside
    refine ⟨.single name (.array js), ?_, (h.array.single (objects _ List.mem_cons_self)).last rfl⟩
    rw [toJson, hjs]
    rfl
  | variantRecord name fields, common => by
    rw [parts, all_append_value_iff] at common
    obtain ⟨inside, -, objects⟩ := common
    -- two documents: that of the fields, and that of the variant around it
    have inner := objects _ List.mem_cons_self
    have outer := objects _ (List.mem_cons_of_mem _ List.mem_cons_self)
    obtain ⟨m, hm, h⟩ := mirrorsFields fields inside
    refine ⟨.single name (.object (Members.ofList m)), ?_, ?_⟩
    · rw [toJson, hm]
      rfl
    · rw [Extended.image_ofList inner] at outer
      rw [image, Extended.image_ofList inner]
      exact ((h.object inner).single outer).last rfl
  | failing message, common => by cases common

theorem mirrorsElements : ∀ elements : List Datum, (elementParts elements).all Part.isCommon →
    ∃ js, elementsToJson elements = .ok js ∧
      MirrorsElements (elementParts elements) (elementImages elements) js
  | [], _ => ⟨[], rfl, .nil⟩
  | v :: rest, common => by
    rw [elementParts, List.all_append, Bool.and_eq_true] at common
    obtain ⟨j, hj, h⟩ := mirrors v common.1
    obtain ⟨js, hjs, hs⟩ := mirrorsElements rest common.2
    refine ⟨j :: js, ?_, hs.cons h⟩
    rw [elementsToJson, hj, hjs]
    rfl

theorem mirrorsEntries : ∀ entries : List (Datum × Datum), (entryParts entries).all Part.isCommon →
    ∃ m, entriesToJson entries = .ok m ∧
      MirrorsMembers (entryParts entries) (entryImages entries) m
  | [], _ => ⟨[], rfl, .nil⟩
  | (k, v) :: rest, common => by
    rw [entryParts, List.all_append, List.all_cons, List.all_append] at common
    simp only [Bool.and_eq_true] at common
    obtain ⟨-, key, value, others⟩ := common
    obtain ⟨name, hname⟩ := Option.isSome_iff_exists.mp key
    obtain ⟨image, hkey, fits⟩ := keyName?_eq_some hname
    -- direct encoding takes the key as a value first, JSON takes it as a text at once
    obtain ⟨j, hj, h⟩ := mirrors v value
    obtain ⟨m, hm, hs⟩ := mirrorsEntries rest others
    refine ⟨(name, j) :: m, ?_, ?_⟩
    · rw [entriesToJson, hkey, hj, hm]
      rfl
    · rw [entryImages, image]
      exact (hs.cons h).key fits

theorem mirrorsFields : ∀ fields : List (String × Datum), (fieldParts fields).all Part.isCommon →
    ∃ m, fieldsToJson fields = .ok m ∧ MirrorsMembers (fieldParts fields) (fieldImages fields) m
  | [], _ => ⟨[], rfl, .nil⟩
  | (name, v) :: rest, common => by
    rw [fieldParts, List.all_append, Bool.and_eq_true] at common
    obtain ⟨j, hj, h⟩ := mirrors v common.1
    obtain ⟨m, hm, hs⟩ := mirrorsFields rest common.2
    refine ⟨(name, j) :: m, ?_, hs.cons h⟩
    rw [fieldsToJson, hj, hm]
    rfl

end

/-- Encoding common data directly fails by the first oversized integer, and gives the image
otherwise. -/
theorem encodeValue_of_common {v : Datum} (common : v.parts.all Part.isCommon) :
    v.encodeValue =
      firstOr (v.oversized.map fun n => EncodingFailure.toFailure (.refused (.unsigned n)))
        v.image := by
  rw [encodeValue_eq, failures_eq common, List.map_map]
  rfl

theorem encodeDocument_of_toJson {v : Datum} {j : Json} (h : v.toJson = .ok j) :
    v.encodeDocument = (do Failure.lift (← j.toBson).toDocument) := by
  rw [encodeDocument, transcode, h]
  rfl

/-- Encoding common data by way of JSON fails by the first oversized integer, too, and gives the
image with normalized numbers otherwise. -/
theorem encodeDocument_of_common {v : Datum} (common : v.parts.all Part.isCommon) :
    v.encodeDocument = (do
      let b ← firstOr (v.oversized.map fun n : Nat => Json.oversizedFailure n) v.image.normalize
      Failure.lift b.toDocument) := by
  obtain ⟨j, hj, h⟩ := mirrors v common
  rw [encodeDocument_of_toJson hj, j.toBson_eq, h.failures, h.image]
  rfl

/-- Common data that can be captured can be stored, up to the normalization of numbers. -/
theorem encodeDocument_of_encodeValue {v : Datum} (common : v.parts.all Part.isCommon) {b : Bson}
    (encoded : v.encodeValue = .ok b) : v.encodeDocument = Failure.lift b.normalize.toDocument := by
  rw [encodeValue_of_common common, firstOr_eq_ok_iff, List.map_eq_nil_iff] at encoded
  obtain ⟨fits, rfl⟩ := encoded
  rw [encodeDocument_of_common common, fits]
  rfl

/-- A value among captured ones is encoded like by itself. -/
theorem encodeValue_of_values {captured : List Datum} {values : List Bson}
    (encoded : Captures.values captured = .ok values) {v : Datum} (mem : v ∈ captured) :
    ∃ b ∈ values, v.encodeValue = .ok b := by
  obtain ⟨i, hi, rfl⟩ := List.getElem_of_mem mem
  have each := mapM_eq_ok_iff.mp encoded
  have same := each.length_eq
  exact ⟨values[i], List.getElem_mem _, (List.forall₂_iff_get.mp each).2 i hi (same ▸ hi)⟩

/-- **The two encoders agree on common data.** Both fail exactly if there is an oversized integer.
Otherwise the document is the captured value with normalized numbers, also for a record among the
captured values of a filter. -/
theorem encoders_agree (v : Datum) (common : v.parts.all Part.isCommon) :
    ((∃ failure, v.encodeValue = .error failure) ↔ v.oversized ≠ []) ∧
      (v.oversized ≠ [] →
        (∃ fault, v.encodeValue = .error (.fault fault) ∧ fault.kind = .bsonEncoding) ∧
          ∃ fault, v.encodeDocument = .error (.fault fault) ∧ fault.kind = .numberRange) ∧
      (∀ b, v.encodeValue = .ok b → v.encodeDocument = Failure.lift b.normalize.toDocument) ∧
      ∀ (α : Type) [Record α] (objection : Document → String) (record : α) (captured : List Datum)
        (values : List Bson), Record.toDatum record = v → v ∈ captured →
          Captures.values captured = .ok values →
            ∃ b ∈ values, (Codec.ofRecord α objection).encode record =
              Failure.lift b.normalize.toDocument := by
  have direct := encodeValue_of_common common
  have stored := encodeDocument_of_common common
  refine ⟨?_, ?_, fun b => encodeDocument_of_encodeValue common, ?_⟩
  · constructor
    · rintro ⟨failure, fails⟩ fits
      rw [direct, fits] at fails
      cases fails
    · intro big
      obtain ⟨n, rest, first⟩ := List.exists_cons_of_ne_nil big
      rw [first] at direct
      exact ⟨_, direct⟩
  · intro big
    obtain ⟨n, rest, first⟩ := List.exists_cons_of_ne_nil big
    rw [first] at direct stored
    exact ⟨⟨_, direct, rfl⟩, _, stored, rfl⟩
  · rintro α _ objection record captured values rfl mem encoded
    obtain ⟨b, hb, hv⟩ := encodeValue_of_values encoded mem
    exact ⟨b, hb, encodeDocument_of_encodeValue common hv⟩

/-- Keys of several kinds, a number that is not finite and a variant with fields; and an oversized
integer inside a variant. -/
theorem encoders_agree_shapes :
    let v := Datum.record
      [("ratio", .double ⟨0x7ff8000000000000⟩),
        ("sizes", .map
          [(.variant "small", .int (.i32 (-7))), (.char 'x', .present (.int (.u8 200)))]),
        ("shape", .variantRecord "Box" [("edge", .int (.u32 4000000000)), ("tag", .absent)])]
    let b := Bson.document
      [("ratio", .double ⟨0x7ff8000000000000⟩),
        ("sizes", .document [("small", .int32 (-7)), ("x", .int32 200)]),
        ("shape", .document [("Box", .document [("edge", .int64 4000000000), ("tag", .null)])])]
    let large := Datum.variantSeq "Large" [.unit, .int (.u64 0x8000000000000000)]
    v.parts.all Part.isCommon ∧ v.encodeValue = .ok b ∧
      v.encodeDocument = .ok
        [("ratio", .null), ("sizes", .document [("small", .int64 (-7)), ("x", .int64 200)]),
          ("shape", .document [("Box", .document [("edge", .int64 4000000000), ("tag", .null)])])] ∧
      large.parts.all Part.isCommon ∧ large.oversized ≠ [] ∧
      ∃ fault, large.encodeDocument = .error (.fault fault) ∧ fault.kind = .numberRange := by
  intro v b large
  have common : v.parts.all Part.isCommon := by decide
  have encoded : v.encodeValue = .ok b := by decide
  have commonLarge : large.parts.all Part.isCommon := by decide
  have oversized : large.oversized ≠ [] := by decide
  refine ⟨common, encoded, ?_, commonLarge, oversized, ?_⟩
  · exact ((encoders_agree v common).2.2.1 b encoded).trans (by decide)
  · exact ((encoders_agree large commonLarge).2.1 oversized).2

end Datum

end PreparedFilter

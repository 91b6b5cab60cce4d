import PreparedFilter.Proofs.Encoding.Extended

/-!
# JSON as BSON

What the conversion of a JSON value comes to is said here without the pass. `Json.parts` lists the
values inside a value, each after its own parts and from left to right, and `Json.ownFailures` says
what fails at a part by itself. The conversion fails with the first of these failures; if there are
none, it gives the `Json.image` of the value (`Json.toBson_eq`).

Two things can fail: an integer may be *oversized*, or an object may be an ill-formed extended
document. Without the latter, conversion succeeds exactly if no integer is oversized, at any depth,
and then nothing but extended documents changes its form (`Json.toBson_oversized`, `Json.Reads`).
-/

namespace PreparedFilter

theorem Defect.message_unsignedNumber (n : Int) :
    (unsignedNumber n).message = "Value `" ++ toString n ++ "` can't be represented in BSON" := by
  have opening : "Value `" = "Value " ++ "`" := rfl
  have closing : "` can't be represented in BSON" = "`" ++ " can't be represented in BSON" := rfl
  rw [opening, closing]
  show "Value " ++ ticked (toString n) ++ " can't be represented in BSON" = _
  simp only [ticked, String.append_assoc]

namespace JsonNumber

/-- The integer, if it is beyond the wide ones. -/
def oversized : JsonNumber → List Int
  | int n _ _ => if n < 0x8000000000000000 then [] else [n]
  | double _ _ => []

/-- A number as a BSON value. There is none for an oversized integer. -/
def image : JsonNumber → Bson
  | int n _ _ => if n < 0x8000000000000000 then .int64 (Int64.ofInt n) else .null
  | double x _ => .double x

/-- A number fails to convert exactly if it is oversized. -/
theorem toBson_eq (n : JsonNumber) :
    n.toBson = firstOr (n.oversized.map Defect.unsignedNumber) n.image := by
  cases n with
  | int n least most =>
    unfold toBson oversized image
    by_cases h : n < 0x8000000000000000
    · simp only [if_pos h, List.map_nil, firstOr_nil]
    · simp only [if_neg h, List.map_cons]
      rfl
  | double x finite => rfl

end JsonNumber

namespace Json

/-! ## The parts of a value -/

mutual

/-- The values inside a value, each after its own parts, from left to right. -/
def parts : Json → List Json
  | array elements => elementParts elements ++ [array elements]
  | object members => memberParts members ++ [object members]
  | other => [other]

/-- The values inside the elements of an array. -/
def elementParts : List Json → List Json
  | [] => []
  | value :: rest => value.parts ++ elementParts rest

/-- The values inside the members of an object. -/
def memberParts : List (String × Json) → List Json
  | [] => []
  | (_, value) :: rest => value.parts ++ memberParts rest

end

/-! ## What conversion comes to -/

mutual

/-- What a value becomes, once its parts have. -/
def image : Json → Bson
  | null => .null
  | bool b => .bool b
  | number n => n.image
  | string s => .string s
  | array elements => .array (elementImages elements)
  | object members => Extended.image (Document.ofList (memberImages members))

/-- What the elements of an array become. -/
def elementImages : List Json → List Bson
  | [] => []
  | value :: rest => value.image :: elementImages rest

/-- What the members of an object become. -/
def memberImages : List (String × Json) → List (String × Bson)
  | [] => []
  | (key, value) :: rest => (key, value.image) :: memberImages rest

end

/-- The oversized integer that a part is. -/
def ownOversized : Json → List Int
  | number n => n.oversized
  | _ => []

/-- The oversized integers in a value, in order. -/
def oversized (v : Json) : List Int := v.parts.flatMap ownOversized

/-- The report of an oversized integer. -/
def oversizedFailure (n : Int) : Failure := .fault (.ofDefect (.unsignedNumber n))

/-- What fails at a part, when its own parts have not failed. -/
def ownFailures : Json → List Failure
  | number n => n.oversized.map oversizedFailure
  | object members => Extended.objections .abort (Document.ofList (memberImages members))
  | _ => []

/-- All that fails in converting a value, in order. -/
def failures (v : Json) : List Failure := v.parts.flatMap ownFailures

theorem failures_number (n : JsonNumber) :
    (number n).failures = n.oversized.map oversizedFailure := List.flatMap_singleton _ _

theorem failures_array (elements : List Json) :
    (array elements).failures = (elementParts elements).flatMap ownFailures := by
  rw [failures, parts]
  exact flatMap_append_of_eq_nil _ rfl

/-- An object is read as an extended document after its members, so that this failure comes last. -/
theorem failures_object (members : List (String × Json)) :
    (object members).failures = (memberParts members).flatMap ownFailures ++
      Extended.objections .abort (Document.ofList (memberImages members)) := by
  rw [failures, parts, List.flatMap_append, List.flatMap_singleton, ownFailures]

mutual

/-- Conversion fails by the first of the failures of a value, and gives the image of the value if
there are none. -/
theorem toBson_eq : ∀ v : Json, v.toBson = firstOr v.failures v.image
  | null => rfl
  | bool _ => rfl
  | string _ => rfl
  | number n => by
    rw [toBson, n.toBson_eq, Failure.liftDefect, mapError_firstOr, List.map_map, failures_number]
    rfl
  | array elements => by
    rw [toBson, elementsToBson_eq elements, failures_array, image]
    exact firstOr_bind_ok rfl
  | object members => by
    rw [toBson, membersToBson_eq members, failures_object, image]
    exact firstOr_bind (Extended.read_eq _)

theorem elementsToBson_eq : ∀ elements : List Json,
    elementsToBson elements =
      firstOr ((elementParts elements).flatMap ownFailures) (elementImages elements)
  | [] => rfl
  | value :: rest => by
    rw [elementsToBson, toBson_eq value, elementsToBson_eq rest, elementParts, List.flatMap_append]
    exact firstOr_bind (firstOr_bind_ok rfl)

theorem membersToBson_eq : ∀ members : List (String × Json),
    membersToBson members =
      firstOr ((memberParts members).flatMap ownFailures) (memberImages members)
  | [] => rfl
  | (_, value) :: rest => by
    rw [membersToBson, toBson_eq value, membersToBson_eq rest, memberParts, List.flatMap_append]
    exact firstOr_bind (firstOr_bind_ok rfl)

end

/-! ## The values read -/

mutual

/-- What a value may become. Nothing is lost, and integers keep their value and objects their keys,
all in order. An object that is recognised becomes what it stands for. -/
inductive Reads : Json → Bson → Prop where
  | null : Reads .null .null
  | bool (b : Bool) : Reads (.bool b) (.bool b)
  | integer {n : Int} {least most} {m : Int64} (same : m.toInt = n) :
    Reads (.number (.int n least most)) (.int64 m)
  | double (x : Binary64) {finite} : Reads (.number (.double x finite)) (.double x)
  | string (s : String) : Reads (.string s) (.string s)
  | array {elements values} (each : ReadsElements elements values) :
    Reads (.array elements) (.array values)
  | document {members d} (each : ReadsMembers members d)
    (plain : Extended.Form.ofDocument? d = none) : Reads (.object members) (.document d)
  | extended {members d form value} (each : ReadsMembers members d)
    (recognised : Extended.Form.ofDocument? d = some form) (stands : form.value? = some value) :
    Reads (.object members) value

/-- What the elements of an array may become, one by one. -/
inductive ReadsElements : List Json → List Bson → Prop where
  | nil : ReadsElements [] []
  | cons {element elements value values} (first : Reads element value)
    (others : ReadsElements elements values) :
    ReadsElements (element :: elements) (value :: values)

/-- What the members of an object may become, one by one and under the same keys. -/
inductive ReadsMembers : List (String × Json) → Document → Prop where
  | nil : ReadsMembers [] []
  | cons {key member members value d} (first : Reads member value)
    (others : ReadsMembers members d) :
    ReadsMembers ((key, member) :: members) ((key, value) :: d)

end

/-- Whether a part, if it is an object, does not repeat a key. -/
def keysDistinct : Json → Bool
  | object members => decide (Members.keys members).Nodup
  | _ => true

/-- Whether a part, if it is an object, is not ill-formed as an extended document. -/
def payloadWellFormed : Json → Bool
  | object members => !decide (Extended.IllFormed (Document.ofList (memberImages members)))
  | _ => true

/-- A part that is not ill-formed fails only by being oversized. -/
theorem ownFailures_of_payloadWellFormed {v : Json} (h : v.payloadWellFormed) :
    v.ownFailures = v.ownOversized.map oversizedFailure := by
  cases v with
  | object members =>
    rw [payloadWellFormed, Bool.not_eq_true', decide_eq_false_iff_not] at h
    exact if_neg h
  | _ => rfl

/-- Without ill-formed extended documents, all that fails are the oversized integers, in their
order. -/
theorem failures_of_payloadWellFormed {v : Json} (h : v.parts.all payloadWellFormed) :
    v.failures = v.oversized.map oversizedFailure := by
  rw [failures, oversized, List.map_flatMap]
  rw [List.all_eq_true] at h
  exact List.flatMap_congr fun part mem => ownFailures_of_payloadWellFormed (h part mem)

theorem keys_memberImages (members : List (String × Json)) :
    Document.keys (memberImages members) = Members.keys members := by
  induction members with
  | nil => rfl
  | cons member rest ih =>
    obtain ⟨key, value⟩ := member
    exact congrArg (key :: ·) ih

theorem ofList_memberImages {members : List (String × Json)} (h : (Members.keys members).Nodup) :
    Document.ofList (memberImages members) = memberImages members :=
  Document.ofList_of_nodup (keys_memberImages members ▸ h)

theorem reads_number {n : JsonNumber} (h : n.oversized = []) : Reads (.number n) n.image := by
  cases n with
  | int n least most =>
    simp only [JsonNumber.oversized] at h
    by_cases fits : n < 0x8000000000000000
    · simp only [JsonNumber.image, if_pos fits]
      exact .integer (Int64.toInt_ofInt_of_le least fits)
    · rw [if_neg fits] at h
      cases h
  | double x finite => exact .double x

/-- An object whose members are read is read as what the document of them stands for. -/
theorem ReadsMembers.reads_object {members : List (String × Json)} {d : Document}
    (each : ReadsMembers members d) (fine : Extended.objections Failure.abort d = []) :
    Reads (.object members) (Extended.image d) := by
  unfold Extended.objections at fine
  unfold Extended.image Extended.read?
  cases hform : Extended.Form.ofDocument? d with
  | none => exact .document each hform
  | some form =>
    cases hvalue : form.value? with
    | some value =>
      simp only [hvalue, Option.getD_some]
      exact .extended each hform hvalue
    | none =>
      have bad : Extended.IllFormed d := Extended.read?_eq_none_iff.mp (by
        rw [Extended.read?, hform]
        exact hvalue)
      rw [if_pos bad] at fine
      cases fine

mutual

/-- What a value becomes is one of its readings, unless something fails. -/
theorem reads_image : ∀ v : Json, v.parts.all keysDistinct → v.failures = [] → Reads v v.image
  | null, _, _ => .null
  | bool b, _, _ => .bool b
  | string s, _, _ => .string s
  | number n, _, clean => by
    rw [failures_number, List.map_eq_nil_iff] at clean
    exact reads_number clean
  | array elements, distinct, clean => by
    rw [failures_array] at clean
    rw [parts, List.all_append, Bool.and_eq_true] at distinct
    exact .array (readsElements_images elements distinct.1 clean)
  | object members, distinct, clean => by
    rw [failures_object, List.append_eq_nil_iff] at clean
    rw [parts, List.all_append, Bool.and_eq_true] at distinct
    have each := readsMembers_images members distinct.1 clean.1
    rw [ofList_memberImages (by simpa [keysDistinct] using distinct.2)] at clean
    rw [image, ofList_memberImages (by simpa [keysDistinct] using distinct.2)]
    exact each.reads_object clean.2

theorem readsElements_images : ∀ elements : List Json, (elementParts elements).all keysDistinct →
    (elementParts elements).flatMap ownFailures = [] →
      ReadsElements elements (elementImages elements)
  | [], _, _ => .nil
  | value :: rest, distinct, clean => by
    rw [elementParts, List.all_append, Bool.and_eq_true] at distinct
    rw [elementParts, List.flatMap_append, List.append_eq_nil_iff] at clean
    exact .cons (reads_image value distinct.1 clean.1)
      (readsElements_images rest distinct.2 clean.2)

theorem readsMembers_images : ∀ members : List (String × Json),
    (memberParts members).all keysDistinct → (memberParts members).flatMap ownFailures = [] →
      ReadsMembers members (memberImages members)
  | [], _, _ => .nil
  | (_, value) :: rest, distinct, clean => by
    rw [memberParts, List.all_append, Bool.and_eq_true] at distinct
    rw [memberParts, List.flatMap_append, List.append_eq_nil_iff] at clean
    exact .cons (reads_image value distinct.1 clean.1)
      (readsMembers_images rest distinct.2 clean.2)

end

/-- **The range check reaches every depth.** If the extended documents among the objects are
well-formed, conversion fails exactly if there is an oversized integer, and then names the first
one. -/
theorem toBson_oversized (v : Json) (distinct : v.parts.all keysDistinct)
    (payloads : v.parts.all payloadWellFormed) :
    ((∃ b, v.toBson = .ok b) ↔ v.oversized = []) ∧
      (∀ b, v.toBson = .ok b → Reads v b) ∧
      ∀ n rest, v.oversized = n :: rest → ∃ fault, v.toBson = .error (.fault fault) ∧
        fault.kind = .numberRange ∧
        fault.message = "Value `" ++ toString n ++ "` can't be represented in BSON" := by
  have result := v.toBson_eq
  have failures := failures_of_payloadWellFormed payloads
  refine ⟨?_, ?_, ?_⟩
  · rw [result, failures]
    simp only [firstOr_eq_ok_iff, List.map_eq_nil_iff, exists_and_left, exists_eq, and_true]
  · intro b h
    rw [result, firstOr_eq_ok_iff] at h
    obtain ⟨clean, rfl⟩ := h
    exact reads_image v distinct clean
  · intro n rest first
    rw [result, failures, first]
    exact ⟨_, rfl, rfl, Defect.message_unsignedNumber n⟩

/-- The first of two oversized integers is named, however deep in an object it lies. -/
theorem toBson_oversized_nested :
    let id := Json.single "$oid" (.string "0123456789abcdef01234567")
    let v := Json.object [("ids", .array [.number (.ofInt64 5), id]),
      ("sizes", .array
        [.number (.ofUInt64 0x8000000000000000), .number (.ofUInt64 0x9000000000000000)])]
    v.parts.all keysDistinct ∧ v.parts.all payloadWellFormed ∧
      v.oversized = [0x8000000000000000, 0x9000000000000000] ∧
      ∃ fault, v.toBson = .error (.fault fault) ∧ fault.kind = .numberRange ∧
        fault.message =
          "Value `" ++ toString (0x8000000000000000 : Int) ++ "` can't be represented in BSON" := by
  intro id v
  have distinct : v.parts.all keysDistinct := by decide
  have payloads : v.parts.all payloadWellFormed := by decide
  have oversized : v.oversized = [0x8000000000000000, 0x9000000000000000] := by decide
  exact ⟨distinct, payloads, oversized,
    (toBson_oversized v distinct payloads).2.2 _ _ oversized⟩

end Json

end PreparedFilter

import PreparedFilter.Proofs.Encoding.Extended

/-!
# Widening

Two changes that a value undergoes on its way through JSON. Integers become wide (`Bson.widen`), and
numbers that are not finite become `null`, too (`Bson.normalize`).

A document may be recognised as an extended one because of the width of its integers: `t` and `i`
have to have the same. It has the *shape* of one (`Extended.isShape`) if it is recognised once all
integers are wide. A document without such a shape is taken as it is, before
(`Extended.ofDocument?_eq_none`) and after its numbers are normalized
(`Extended.ofDocument?_normalize_eq_none`).
-/

namespace PreparedFilter

namespace Document

/-- Applies a function to every value. -/
def mapValues (f : Bson → Bson) (d : Document) : Document := d.map fun entry => (entry.1, f entry.2)

variable (f : Bson → Bson) (d : Document)

@[simp] theorem keys_mapValues : (d.mapValues f).keys = d.keys := by
  simp [keys, mapValues, Function.comp_def]

theorem get?_mapValues (key : String) : (d.mapValues f).get? key = (d.get? key).map f := by
  induction d with
  | nil => rfl
  | cons entry rest ih =>
    obtain ⟨k, v⟩ := entry
    show get? ((k, f v) :: mapValues f rest) key = (get? ((k, v) :: rest) key).map f
    rw [get?_cons, get?_cons]
    by_cases h : key = k
    · rw [if_pos h, if_pos h, Option.map_some]
    · rw [if_neg h, if_neg h, ih]

end Document

namespace Bson

mutual

/-- Applies a function to every value inside that holds no other values. -/
def mapScalars (f : Bson → Bson) : Bson → Bson
  | array elements => .array (elementsMapScalars f elements)
  | document entries => .document (entriesMapScalars f entries)
  | scopedCode source scope => .scopedCode source (entriesMapScalars f scope)
  | other => f other

/-- `mapScalars` for the elements of an array. -/
def elementsMapScalars (f : Bson → Bson) : List Bson → List Bson
  | [] => []
  | value :: rest => value.mapScalars f :: elementsMapScalars f rest

/-- `mapScalars` for the entries of a document. -/
def entriesMapScalars (f : Bson → Bson) : List (String × Bson) → List (String × Bson)
  | [] => []
  | (key, value) :: rest => (key, value.mapScalars f) :: entriesMapScalars f rest

end

theorem entriesMapScalars_eq (f : Bson → Bson) (d : Document) :
    entriesMapScalars f d = d.mapValues (mapScalars f) := by
  induction d with
  | nil => rfl
  | cons entry rest ih =>
    obtain ⟨key, value⟩ := entry
    rw [entriesMapScalars, ih]
    rfl

/-- A narrow integer as the wide one of the same value. -/
def widenScalar : Bson → Bson
  | int32 n => .int64 n.toInt64
  | other => other

/-- A narrow integer as the wide one of the same value, and a number that is not finite as
`null`. -/
def normalizeScalar : Bson → Bson
  | int32 n => .int64 n.toInt64
  | double x => if x.isFinite then .double x else .null
  | other => other

/-- A value with wide integers only. -/
def widen (value : Bson) : Bson := value.mapScalars widenScalar

/-- A value with wide integers and finite numbers only. -/
def normalize (value : Bson) : Bson := value.mapScalars normalizeScalar

theorem normalize_double (x : Binary64) :
    (double x).normalize = if x.isFinite then .double x else .null := rfl

end Bson

/-- A document with wide integers only. -/
def Document.widen (d : Document) : Document := Bson.entriesMapScalars Bson.widenScalar d

/-- A document with wide integers and finite numbers only. -/
def Document.normalize (d : Document) : Document := Bson.entriesMapScalars Bson.normalizeScalar d

namespace Extended

/-- Whether a document has the shape of an extended one, whatever the width of its integers. -/
def isShape (d : Document) : Bool := (Form.ofDocument? d.widen).isSome

/-- A document of two entries is recognised if one of its four forms fits. -/
theorem isSome_ofDocument?_iff {d : Document} (two : d.length = 2) :
    (Form.ofDocument? d).isSome ↔
      (regex? d).isSome ∨ (scopedCode? d).isSome ∨ (timestamp? d).isSome ∨ (binary? d).isSome := by
  match d, two with
  | [first, second], _ =>
    unfold Form.ofDocument?
    simp only [Option.orElse_eq_orElse, Option.orElse_eq_or, Option.isSome_or, Bool.or_eq_true]

/-- Wherever the first value lets a document be recognised, the second one does. -/
structure Passes (v w : Bson) : Prop where
  text : ∀ s, v = .string s → w = .string s
  narrow : ∀ n, v = .int32 n → ∃ m, w = .int64 m
  wide : ∀ n, v = .int64 n → ∃ m, w = .int64 m
  document : ∀ inner : Document, v = .document inner → ∃ inner' : Document, w = .document inner' ∧
    ∀ n, inner.get? "$numberLong" = some (.int64 n) →
      ∃ m, inner'.get? "$numberLong" = some (.int64 m)

variable {f g : Bson → Bson} {d : Document}

/-- Recognition of one entry asks nothing of its value that does not pass. -/
theorem Passes.isSome_single {v w : Bson} (passes : Passes v w) {key : String}
    (h : (Form.ofDocument? [(key, v)]).isSome) : (Form.ofDocument? [(key, w)]).isSome := by
  unfold Form.ofDocument? at h ⊢
  cases v with
  | string s => rwa [passes.text s rfl]
  | document inner =>
    obtain ⟨inner', hw, hfound⟩ := passes.document inner rfl
    rw [hw]
    unfold ofEntry? at h ⊢
    by_cases date : key = "$date"
    · simp only [if_pos date] at h ⊢
      split at h
      · next n found =>
        obtain ⟨m, found'⟩ := hfound n found
        simp [found']
      · cases h
    · simp [date] at h
  | _ => simp [ ofEntry?] at h

/-- What is found under a key comes from a value that another map over the document finds there,
too. -/
theorem exists_get?_of_mapValues {key : String} {w : Bson}
    (h : (d.mapValues f).get? key = some w) :
    ∃ v, f v = w ∧ (d.mapValues g).get? key = some (g v) := by
  rw [Document.get?_mapValues, Option.map_eq_some_iff] at h
  obtain ⟨v, hv, hw⟩ := h
  exact ⟨v, hw, by rw [Document.get?_mapValues, hv, Option.map_some]⟩

section

variable (passes : ∀ v, Passes (f v) (g v))
include passes

theorem text_get?_mapValues {key s : String} (h : (d.mapValues f).get? key = some (.string s)) :
    (d.mapValues g).get? key = some (.string s) := by
  obtain ⟨v, hv, hg⟩ := exists_get?_of_mapValues h
  rw [hg, (passes v).text s hv]

theorem narrow_get?_mapValues {key : String} {n : Int32}
    (h : (d.mapValues f).get? key = some (.int32 n)) :
    ∃ m, (d.mapValues g).get? key = some (.int64 m) := by
  obtain ⟨v, hv, hg⟩ := exists_get?_of_mapValues h
  obtain ⟨m, hm⟩ := (passes v).narrow n hv
  exact ⟨m, by rw [hg, hm]⟩

theorem wide_get?_mapValues {key : String} {n : Int64}
    (h : (d.mapValues f).get? key = some (.int64 n)) :
    ∃ m, (d.mapValues g).get? key = some (.int64 m) := by
  obtain ⟨v, hv, hg⟩ := exists_get?_of_mapValues h
  obtain ⟨m, hm⟩ := (passes v).wide n hv
  exact ⟨m, by rw [hg, hm]⟩

theorem document_get?_mapValues {key : String} {inner : Document}
    (h : (d.mapValues f).get? key = some (.document inner)) :
    ∃ inner', (d.mapValues g).get? key = some (.document inner') := by
  obtain ⟨v, hv, hg⟩ := exists_get?_of_mapValues h
  obtain ⟨inner', hw, -⟩ := (passes v).document inner hv
  exact ⟨inner', by rw [hg, hw]⟩

theorem isSome_regex?_mapValues (h : (regex? (d.mapValues f)).isSome) :
    (regex? (d.mapValues g)).isSome := by
  obtain ⟨form, h⟩ := Option.isSome_iff_exists.mp h
  obtain ⟨pattern, options, hp, ho, -⟩ := regex?_eq_some_iff.mp h
  rw [regex?_eq_some_iff.mpr ⟨pattern, options, text_get?_mapValues passes hp,
    text_get?_mapValues passes ho, rfl⟩]
  rfl

theorem isSome_scopedCode?_mapValues (h : (scopedCode? (d.mapValues f)).isSome) :
    (scopedCode? (d.mapValues g)).isSome := by
  obtain ⟨form, h⟩ := Option.isSome_iff_exists.mp h
  obtain ⟨source, scope, hc, hs, -⟩ := scopedCode?_eq_some_iff.mp h
  obtain ⟨scope', hs'⟩ := document_get?_mapValues passes hs
  rw [scopedCode?_eq_some_iff.mpr ⟨source, scope', text_get?_mapValues passes hc, hs', rfl⟩]
  rfl

/-- Two integers of one width pass as two wide ones, so that a timestamp is still recognised. -/
theorem isSome_timestamp?_mapValues (h : (timestamp? (d.mapValues f)).isSome) :
    (timestamp? (d.mapValues g)).isSome := by
  obtain ⟨form, h⟩ := Option.isSome_iff_exists.mp h
  have both : ∃ seconds increment, (d.mapValues g).get? "t" = some (.int64 seconds) ∧
      (d.mapValues g).get? "i" = some (.int64 increment) := by
    rcases timestamp?_eq_some_iff.mp h with ⟨_, _, ht, hi, -⟩ | ⟨_, _, ht, hi, -⟩
    · obtain ⟨seconds, ht'⟩ := narrow_get?_mapValues passes ht
      obtain ⟨increment, hi'⟩ := narrow_get?_mapValues passes hi
      exact ⟨seconds, increment, ht', hi'⟩
    · obtain ⟨seconds, ht'⟩ := wide_get?_mapValues passes ht
      obtain ⟨increment, hi'⟩ := wide_get?_mapValues passes hi
      exact ⟨seconds, increment, ht', hi'⟩
  obtain ⟨seconds, increment, ht, hi⟩ := both
  rw [timestamp?_eq_some_iff.mpr (.inr ⟨seconds, increment, ht, hi, rfl⟩)]
  rfl

theorem isSome_binary?_mapValues (h : (binary? (d.mapValues f)).isSome) :
    (binary? (d.mapValues g)).isSome := by
  obtain ⟨form, h⟩ := Option.isSome_iff_exists.mp h
  obtain ⟨digits, subtype, hd, ht, -⟩ := binary?_eq_some_iff.mp h
  obtain ⟨subtype', ht'⟩ := wide_get?_mapValues passes ht
  rw [binary?_eq_some_iff.mpr ⟨digits, subtype', text_get?_mapValues passes hd, ht', rfl⟩]
  rfl

/-- A document that is recognised is so with its values passed, too. -/
theorem isSome_ofDocument?_mapValues (h : (Form.ofDocument? (d.mapValues f)).isSome) :
    (Form.ofDocument? (d.mapValues g)).isSome := by
  match d with
  | [] => cases h
  | [(key, v)] => exact (passes v).isSome_single h
  | [first, second] =>
    have two (f : Bson → Bson) : (Document.mapValues f [first, second]).length = 2 := rfl
    rw [isSome_ofDocument?_iff (two g)]
    rcases (isSome_ofDocument?_iff (two f)).mp h with h | h | h | h
    · exact .inl (isSome_regex?_mapValues passes h)
    · exact .inr (.inl (isSome_scopedCode?_mapValues passes h))
    · exact .inr (.inr (.inl (isSome_timestamp?_mapValues passes h)))
    · exact .inr (.inr (.inr (isSome_binary?_mapValues passes h)))
  | _ :: _ :: _ :: _ => cases h

end

/-- Widening keeps all that recognition asks for. -/
theorem passes_widen (v : Bson) : Passes (id v) v.widen where
  text := by
    rintro s rfl
    rfl
  narrow := by
    rintro n rfl
    exact ⟨n.toInt64, rfl⟩
  wide := by
    rintro n rfl
    exact ⟨n, rfl⟩
  document := by
    rintro inner rfl
    refine ⟨Document.widen inner, rfl, fun n found => ⟨n, ?_⟩⟩
    rw [Document.widen, Bson.entriesMapScalars_eq, Document.get?_mapValues, found]
    rfl

/-- What normalizes to a wide integer is an integer. -/
theorem exists_widen_of_normalize {v : Bson} {n : Int64} (h : v.normalize = .int64 n) :
    ∃ m, v.widen = .int64 m := by
  cases v with
  | int32 k => exact ⟨k.toInt64, rfl⟩
  | int64 k => exact ⟨k, rfl⟩
  | double x =>
    rw [Bson.normalize_double] at h
    split at h <;> cases h
  | _ => cases h

/-- What lets a document with normalized numbers be recognised is there when its integers are only
widened. -/
theorem passes_normalize (v : Bson) : Passes v.normalize v.widen := by
  cases v with
  | string s => exact ⟨fun _ h => h, nofun, nofun, nofun⟩
  | int32 n => exact ⟨nofun, nofun, fun _ _ => ⟨n.toInt64, rfl⟩, nofun⟩
  | int64 n => exact ⟨nofun, nofun, fun _ _ => ⟨n, rfl⟩, nofun⟩
  | document inner =>
    refine ⟨nofun, nofun, nofun, ?_⟩
    rintro _ ⟨⟩
    refine ⟨Document.widen inner, rfl, fun n found => ?_⟩
    rw [Bson.entriesMapScalars_eq] at found
    rw [Document.widen, Bson.entriesMapScalars_eq]
    obtain ⟨v, hv, hg⟩ := exists_get?_of_mapValues (g := Bson.mapScalars Bson.widenScalar) found
    obtain ⟨m, hm⟩ := exists_widen_of_normalize hv
    exact ⟨m, by rw [hg, ← hm]; rfl⟩
  | double x =>
    rw [Bson.normalize_double]
    split <;> exact ⟨nofun, nofun, nofun, nofun⟩
  | _ => exact ⟨nofun, nofun, nofun, nofun⟩

/-- A document without the shape of an extended one is not recognised. -/
theorem ofDocument?_eq_none (h : isShape d = false) : Form.ofDocument? d = none := by
  by_contra recognised
  have some : (Form.ofDocument? (d.mapValues id)).isSome := by
    rw [show d.mapValues id = d from List.map_id d]
    exact Option.isSome_iff_ne_none.mpr recognised
  have wide := isSome_ofDocument?_mapValues passes_widen some
  rw [isShape, Document.widen, Bson.entriesMapScalars_eq] at h
  exact Bool.false_ne_true (h.symm.trans wide)

/-- Nor is it recognised when its numbers have been normalized. -/
theorem ofDocument?_normalize_eq_none (h : isShape d = false) :
    Form.ofDocument? d.normalize = none := by
  by_contra recognised
  have some : (Form.ofDocument? d.normalize).isSome := Option.isSome_iff_ne_none.mpr recognised
  rw [Document.normalize, Bson.entriesMapScalars_eq] at some
  have wide := isSome_ofDocument?_mapValues passes_normalize some
  rw [isShape, Document.widen, Bson.entriesMapScalars_eq] at h
  exact Bool.false_ne_true (h.symm.trans wide)

end Extended

end PreparedFilter

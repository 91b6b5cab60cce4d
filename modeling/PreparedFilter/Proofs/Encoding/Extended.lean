import PreparedFilter.Bson.Json
import PreparedFilter.Datum.Encoding
import PreparedFilter.Proofs.Outcome

/-!
# Documents that cannot be read

Both encoders hand every object to the reader of extended documents, after its values have been
converted. There are three kinds of documents that this reader has no answer for
(`Extended.IllFormed`, `Extended.read?_eq_none_iff`), and an encoder that comes upon one aborts.
-/

namespace PreparedFilter

/-- The first entry of a key counts. -/
theorem Document.get?_cons (d : Document) (k key : String) (v : Bson) :
    Document.get? ((k, v) :: d) key = if key = k then some v else Document.get? d key := by
  unfold Document.get?
  rw [List.lookup_cons]
  by_cases h : key = k
  · rw [if_pos h, beq_iff_eq.mpr h]
  · rw [if_neg h, beq_eq_false_iff_ne.mpr h]

namespace Extended

/-- A document that is recognised, but whose payload is ill-formed. -/
inductive IllFormed : Document → Prop where
  | objectId {digits : String} (payload : ObjectId.ofHex? digits = none) :
    IllFormed [("$oid", .string digits)]
  | date {inner : Document} {milliseconds : Int64}
    (found : inner.get? "$numberLong" = some (.int64 milliseconds))
    (payload : readsAsDate milliseconds = false) : IllFormed [("$date", .document inner)]
  | binary {first second : String × Bson} {digits : String} {subtype : Int64}
    (digitsFound : Document.get? [first, second] "$binary" = some (.string digits))
    (subtypeFound : Document.get? [first, second] "type" = some (.int64 subtype))
    (payload : Hex.decode? digits.toList = none) : IllFormed [first, second]

/-! ## Recognition -/

variable {d : Document} {first second : String × Bson} {form : Form}

theorem regex?_eq_some_iff :
    regex? d = some form ↔ ∃ pattern options, d.get? "$regex" = some (.string pattern) ∧
      d.get? "$options" = some (.string options) ∧ form = .regex pattern options := by
  unfold regex?
  split
  · next pattern options hp ho => simp [hp, ho, eq_comm]
  · next none =>
    refine ⟨nofun, ?_⟩
    rintro ⟨pattern, options, hp, ho, -⟩
    exact absurd ho (none pattern options hp)

theorem scopedCode?_eq_some_iff :
    scopedCode? d = some form ↔ ∃ source scope, d.get? "$code" = some (.string source) ∧
      d.get? "$scope" = some (.document scope) ∧ form = .scopedCode source scope := by
  unfold scopedCode?
  split
  · next source scope hc hs => simp [hc, hs, eq_comm]
  · next none =>
    refine ⟨nofun, ?_⟩
    rintro ⟨source, scope, hc, hs, -⟩
    exact absurd hs (none source scope hc)

theorem timestamp?_eq_some_iff :
    timestamp? d = some form ↔
      (∃ seconds increment, d.get? "t" = some (.int32 seconds) ∧
        d.get? "i" = some (.int32 increment) ∧
        form = .timestamp seconds.toInt64 increment.toInt64) ∨
      (∃ seconds increment, d.get? "t" = some (.int64 seconds) ∧
        d.get? "i" = some (.int64 increment) ∧ form = .timestamp seconds increment) := by
  unfold timestamp?
  split
  · next seconds increment ht hi => simp [ht, hi, eq_comm]
  · next seconds increment ht hi => simp [ht, hi, eq_comm]
  · next narrow wide =>
    refine ⟨nofun, ?_⟩
    rintro (⟨seconds, increment, ht, hi, -⟩ | ⟨seconds, increment, ht, hi, -⟩)
    · exact absurd hi (narrow seconds increment ht)
    · exact absurd hi (wide seconds increment ht)

theorem binary?_eq_some_iff :
    binary? d = some form ↔ ∃ digits subtype, d.get? "$binary" = some (.string digits) ∧
      d.get? "type" = some (.int64 subtype) ∧ form = .binary digits subtype := by
  unfold binary?
  split
  · next digits subtype hd ht => simp [hd, ht, eq_comm]
  · next none =>
    refine ⟨nofun, ?_⟩
    rintro ⟨digits, subtype, hd, ht, -⟩
    exact absurd ht (none digits subtype hd)

/-- The two keys of a document of two entries are its only ones. -/
theorem get?_pair_eq_none {k l key : String} {v w : Bson}
    (hk : Document.get? [first, second] k = some v)
    (hl : Document.get? [first, second] l = some w) (ne : k ≠ l) (hkey : key ≠ k ∧ key ≠ l) :
    Document.get? [first, second] key = none := by
  obtain ⟨a, x⟩ := first
  obtain ⟨b, y⟩ := second
  have nothing (key : String) : Document.get? [] key = none := rfl
  simp only [Document.get?_cons, nothing] at hk hl ⊢
  grind

/-- The forms of two entries are tried in a fixed order, and the first that fits is taken. -/
theorem ofDocument?_pair_eq_some_iff :
    Form.ofDocument? [first, second] = some form ↔
      regex? [first, second] = some form ∨
      regex? [first, second] = none ∧ (scopedCode? [first, second] = some form ∨
      scopedCode? [first, second] = none ∧ (timestamp? [first, second] = some form ∨
      timestamp? [first, second] = none ∧ binary? [first, second] = some form)) := by
  unfold Form.ofDocument?
  simp only [Option.orElse_eq_orElse, Option.orElse_eq_or, Option.or_eq_some_iff]

theorem ofEntry?_illFormed {key : String} {value : Bson} (h : ofEntry? key value = some form)
    (payload : form.value? = none) : IllFormed [(key, value)] := by
  unfold ofEntry? at h
  split at h
  · next s =>
    split at h
    · cases h
      cases payload
    · split at h
      · next oid =>
        cases h
        subst oid
        exact .objectId (Option.map_eq_none_iff.mp payload)
      · split at h
        · cases h
          cases payload
        · cases h
  · next inner =>
    split at h
    · next date =>
      split at h
      · next milliseconds found =>
        cases h
        subst date
        refine .date found ?_
        by_contra reads
        rw [Bool.not_eq_false] at reads
        rw [Form.value?, if_pos reads] at payload
        cases payload
      · cases h
    · cases h
  · cases h

/-- A recognised document without a value is ill-formed. Only three forms can lack a value. -/
theorem ofDocument?_illFormed (h : Form.ofDocument? d = some form) (payload : form.value? = none) :
    IllFormed d := by
  match d with
  | [] => cases h
  | [(key, value)] => exact ofEntry?_illFormed h payload
  | [first, second] =>
    rcases ofDocument?_pair_eq_some_iff.mp h with h | ⟨-, h | ⟨-, h | ⟨-, h⟩⟩⟩
    · obtain ⟨pattern, options, -, -, rfl⟩ := regex?_eq_some_iff.mp h
      cases payload
    · obtain ⟨source, scope, -, -, rfl⟩ := scopedCode?_eq_some_iff.mp h
      cases payload
    · rcases timestamp?_eq_some_iff.mp h with ⟨_, _, -, -, rfl⟩ | ⟨_, _, -, -, rfl⟩
      · cases payload
      · cases payload
    · obtain ⟨digits, subtype, hdigits, hsubtype, rfl⟩ := binary?_eq_some_iff.mp h
      exact .binary hdigits hsubtype (Option.map_eq_none_iff.mp payload)
  | _ :: _ :: _ :: _ => cases h

/-- An ill-formed document is recognised, and has no value. -/
theorem IllFormed.exists_form (h : IllFormed d) :
    ∃ form, Form.ofDocument? d = some form ∧ form.value? = none := by
  cases h with
  | @objectId digits payload =>
    exact ⟨.objectId digits, rfl, Option.map_eq_none_iff.mpr payload⟩
  | @date inner milliseconds found payload =>
    refine ⟨.date milliseconds, ?_, ?_⟩
    · simp [Form.ofDocument?, ofEntry?, found]
    · simp [Form.value?, payload]
  | @binary first second digits subtype digitsFound subtypeFound payload =>
    have other (key : String) (hkey : key ≠ "$binary" ∧ key ≠ "type") :
        Document.get? [first, second] key = none :=
      get?_pair_eq_none digitsFound subtypeFound (by decide) hkey
    refine ⟨.binary digits subtype, ?_, Option.map_eq_none_iff.mpr payload⟩
    have noRegex : regex? [first, second] = none := by
      rw [regex?, other "$regex" (by decide)]
    have noScopedCode : scopedCode? [first, second] = none := by
      rw [scopedCode?, other "$code" (by decide)]
    have noTimestamp : timestamp? [first, second] = none := by
      rw [timestamp?, other "t" (by decide)]
    refine ofDocument?_pair_eq_some_iff.mpr
      (.inr ⟨noRegex, .inr ⟨noScopedCode, .inr ⟨noTimestamp, ?_⟩⟩⟩)
    exact binary?_eq_some_iff.mpr ⟨digits, subtype, digitsFound, subtypeFound, rfl⟩

/-- The documents without a reading are exactly the ill-formed ones. -/
theorem read?_eq_none_iff : read? d = none ↔ IllFormed d := by
  constructor
  · intro h
    unfold read? at h
    split at h
    · next form hform => exact ofDocument?_illFormed hform h
    · cases h
  · intro h
    obtain ⟨form, hform, payload⟩ := h.exists_form
    rw [read?, hform]
    exact payload

instance (d : Document) : Decidable (IllFormed d) :=
  decidable_of_iff ((read? d).isNone = true) (Option.isNone_iff_eq_none.trans read?_eq_none_iff)

/-! ## Reading -/

/-- What a document stands for. An ill-formed one stays as it is. -/
def image (d : Document) : Bson := (read? d).getD (.document d)

/-- Aborting, if a document is ill-formed. -/
def objections {ε : Type} (abort : ε) (d : Document) : List ε := if IllFormed d then [abort] else []

/-- A reader that has no answer for an ill-formed document. -/
theorem reading_eq {ε : Type} (abort : ε) (d : Document) :
    (match read? d with
      | some value => .ok value
      | none => .error abort) = firstOr (objections abort d) (image d) := by
  unfold objections image
  cases h : read? d with
  | none => rw [if_pos (read?_eq_none_iff.mp h)]; rfl
  | some value =>
    have fine : ¬ IllFormed d := by
      rw [← read?_eq_none_iff, h]
      exact nofun
    rw [if_neg fine]
    rfl

/-- Reading fails exactly on ill-formed documents, and then aborts. -/
theorem read_eq (d : Document) : read d = firstOr (objections .abort d) (image d) :=
  reading_eq Failure.abort d

end Extended

end PreparedFilter

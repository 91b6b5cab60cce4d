import PreparedFilter.Filter.Captures
import PreparedFilter.Gallery.Schemas
import PreparedFilter.Gallery.Records

/-!
# Example filters

Filters written as functions from slots to predicates, each at a site of its own that its label
stands for. Three of them are passed on by one helper, so they share a site and differ in the
function.
-/

namespace PreparedFilter

namespace Gallery

/-! ## Fields -/

/-- The text field of `foo`. -/
def stringField : FieldRef := ⟨"stringField"⟩

/-- The integer field of `foo`. -/
def intField : FieldRef := ⟨"primitiveIntField"⟩

/-- The field of `foo` that holds a name. -/
def enumField : FieldRef := ⟨"enumFoo"⟩

/-- The number field of `foo`. -/
def rating : FieldRef := ⟨"rating"⟩

/-- The truth value of `foo`. -/
def flag : FieldRef := ⟨"flag"⟩

/-- The array of texts of `foo`. -/
def tags : ArrayFieldRef := ⟨"tags"⟩

/-- The array of locations of `foo`. -/
def locations : ArrayFieldRef := ⟨"locations"⟩

/-- The city of a location. -/
def city : FieldRef := ⟨"city"⟩

/-- The postal code of a location. -/
def zip : FieldRef := ⟨"zip"⟩

/-- A field of `wide`, by its number. -/
def wideField (n : Nat) : FieldRef := ⟨"f" ++ toString n⟩

/-! ## Definitions -/

/-- The slot at an index; an index beyond the slots gives the next one after them. -/
def slotAt (slots : List Slot) (index : Nat) : Slot := slots.getD index ⟨slots.length⟩

/-- A filter over `foo` at a site with the given label. -/
def overFoo (label captureType : String) (captures : List Capture)
    (build : (Nat → Slot) → Predicate) : CapturingFilter where
  site := .label label
  function := 0
  schema := foo
  documents := 8
  captureType
  captures
  build slots := build (slotAt slots)

/-- One of three fields has its value. -/
def anyOf (s : String) (n : Int32) (e : Light) : CapturingFilter :=
  overFoo "any_of" "(text, int32, light)" [.string s, .int (.i32 n), .variant e.text e.diagnostic]
    fun slot => stringField.eq (slot 0) ||| intField.eq (slot 1) ||| enumField.eq (slot 2)

/-- Both fields have their values. -/
def both (s : String) (n : Int32) : CapturingFilter :=
  overFoo "both" "(text, int32)" [.string s, .int (.i32 n)]
    fun slot => stringField.eq (slot 0) &&& intField.eq (slot 1)

/-- An integer is in a half-open range. -/
def intRange (low high : Int32) : CapturingFilter :=
  overFoo "int_range" "(int32, int32)" [.int (.i32 low), .int (.i32 high)]
    fun slot => intField.gte (slot 0) &&& intField.lt (slot 1)

/-- An integer is not in a closed range. -/
def outside (low high : Int32) : CapturingFilter :=
  overFoo "outside" "(int32, int32)" [.int (.i32 low), .int (.i32 high)]
    fun slot => ~~~(intField.gte (slot 0) &&& intField.lte (slot 1))

/-- A text is one of several. -/
def namesIn (names : List String) : CapturingFilter :=
  overFoo "names_in" "(texts)" [.list (names.map .string)]
    fun slot => stringField.isIn (slot 0)

/-- An integer is one of several, and a flag is not as given. -/
def intsNotIn (ints : List Int32) (b : Bool) : CapturingFilter :=
  overFoo "ints_not_in" "(int32s, bool)" [.list (ints.map fun n => .int (.i32 n)), .bool b]
    fun slot => ~~~(intField.notIn (slot 0)) &&& flag.ne (slot 1)

/-- An array has all the given texts. -/
def tagsAll (names : List String) : CapturingFilter :=
  overFoo "tags_all" "(texts)" [.list (names.map .string)] fun slot => tags.all (slot 0)

/-- An array has a number of elements, given as an integer of some width. -/
def tagsSize (label captureType : String) (n : FixedInt) : CapturingFilter :=
  overFoo label captureType [.int n] fun slot => tags.size (slot 0)

/-- An array does not have a number of elements. This cannot be expressed. -/
def negatedSize (n : Int32) : CapturingFilter :=
  overFoo "negated_size" "(int32)" [.int (.i32 n)] fun slot => ~~~(tags.size (slot 0))

/-- Some location has a city and a postal code. -/
def cityZip (c z : String) : CapturingFilter :=
  overFoo "city_zip" "(text, text)" [.string c, .string z]
    fun slot => locations.elemMatch location (city.eq (slot 0) &&& zip.eq (slot 1))

/-- A nest of all kinds of tests. The value of one slot is used twice. -/
def complex (s : String) (b : Bool) (r : Binary64) (c : String) (size : Int32) : CapturingFilter :=
  overFoo "complex" "(text, bool, double, text, int32)"
    [.string s, .bool b, .double r, .string c, .int (.i32 size)]
    fun slot =>
      stringField.ne (slot 0) &&& ~~~(flag.eq (slot 1) ||| rating.gt (slot 2))
        &&& (locations.elemMatch location (~~~(city.lte (slot 3) &&& zip.eq (slot 3)))
          ||| tags.size (slot 4))

/-- Refers to a slot although nothing is captured. -/
def dangling : CapturingFilter := overFoo "dangling" "()" [] fun _ => stringField.eq ⟨0⟩

/-- Compares a field without an order. -/
def flagGt (b : Bool) : CapturingFilter :=
  overFoo "flag_gt" "(bool)" [.bool b] fun slot => flag.gt (slot 0)

/-- Tests a field that the schema does not have. -/
def unknownField (s : String) : CapturingFilter :=
  overFoo "unknown_field" "(text)" [.string s] fun slot => FieldRef.eq ⟨"nickname"⟩ (slot 0)

/-- Eight values, in the opposite order of the fields. -/
def eight (values : List Int32) : CapturingFilter where
  site := .label "eight"
  function := 0
  schema := wide
  documents := 9
  captureType := "eight int32"
  captures := values.map fun n => .int (.i32 n)
  build slots :=
    let test (field index : Nat) := (wideField field).eq (slotAt slots index)
    (test 0 7 &&& test 1 6 &&& test 2 5 &&& test 3 4)
      &&& (test 4 3 &&& (test 5 2 &&& test 6 1) &&& test 7 0)

/-! ## Definitions passed on by a helper -/

/-- A filter over `foo` of one captured value, passed on by a helper at one site. -/
def forwarded (function : Nat) (captureType : String) (capture : Capture)
    (build : Slot → Predicate) : CapturingFilter where
  site := .label "forward"
  function
  schema := foo
  documents := 8
  captureType
  captures := [capture]
  build slots := build (slotAt slots 0)

/-- An integer is as given. -/
def forwardEq (n : Int32) : CapturingFilter := forwarded 0 "(int32)" (.int (.i32 n)) intField.eq

/-- An integer is greater than given. -/
def forwardGt (n : Int32) : CapturingFilter := forwarded 1 "(int32)" (.int (.i32 n)) intField.gt

/-- A text is less than given. -/
def forwardStr (s : String) : CapturingFilter := forwarded 2 "(text)" (.string s) stringField.lt

end Gallery

end PreparedFilter

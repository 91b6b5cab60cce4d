import PreparedFilter.Binary64
import PreparedFilter.Text.Hex

/-!
# BSON values

The values of a document database. A document is a list of entries in the order of insertion.
Inserting a key that is there already replaces the value and moves the key to the end, so inserting
entries with distinct keys one by one changes nothing (`Document.ofList_of_nodup`).

Functions over all values are mutual recursions on a value, a list of values and a list of entries.
-/

namespace PreparedFilter

/-- The identity of a stored document: twelve bytes. -/
structure ObjectId where
  bytes : List UInt8
  length_eq : bytes.length = 12
  deriving DecidableEq

/-- Twelve bytes as an identity. -/
def ObjectId.ofBytes? (bytes : List UInt8) : Option ObjectId :=
  if h : bytes.length = 12 then some ⟨bytes, h⟩ else none

/-- Reads the twenty-four hexadecimal digits of an identity. -/
def ObjectId.ofHex? (hex : String) : Option ObjectId := do
  let bytes ← Hex.decode? hex.toList
  ObjectId.ofBytes? bytes

/-- The hexadecimal digits of an identity. -/
def ObjectId.text (id : ObjectId) : String := Hex.text id.bytes

/-- A BSON value. -/
inductive Bson where
  | double (x : Binary64)
  | string (s : String)
  | array (elements : List Bson)
  | document (entries : List (String × Bson))
  | bool (b : Bool)
  | null
  | regex (pattern options : String)
  | code (source : String)
  | scopedCode (source : String) (scope : List (String × Bson))
  | int32 (n : Int32)
  | int64 (n : Int64)
  | timestamp (raw : Int64)
  | binary (subtype : UInt8) (bytes : List UInt8)
  | objectId (id : ObjectId)
  | date (milliseconds : Int64)
  | symbol (name : String)
  deriving Inhabited

/-- The entries of a document, in order. -/
abbrev Document := List (String × Bson)

/-! ## Documents -/

namespace Document

/-- The keys of a document, in order. -/
def keys (d : Document) : List String := d.map Prod.fst

/-- The first value of a key. -/
def get? (d : Document) (key : String) : Option Bson := d.lookup key

/-- Puts an entry at the end. An entry of the same key is dropped first. -/
def insert (d : Document) (key : String) (value : Bson) : Document :=
  d.filter (fun entry => entry.1 != key) ++ [(key, value)]

/-- Inserts the entries of a list one by one. -/
def ofList (entries : List (String × Bson)) : Document :=
  entries.foldl (fun d entry => d.insert entry.1 entry.2) []

/-- A document with one entry. -/
def single (key : String) (value : Bson) : Document := [(key, value)]

theorem insert_eq_append {d : Document} {key : String} (value : Bson) (h : key ∉ d.keys) :
    d.insert key value = d ++ [(key, value)] := by
  have kept : d.filter (fun entry => entry.1 != key) = d := by
    refine List.filter_eq_self.mpr fun entry mem => ?_
    have ne : entry.1 ≠ key := fun eq => h (eq ▸ List.mem_map_of_mem mem)
    simpa using ne
  simp [insert, kept]

/-- A list of entries with distinct keys is the document built from it. -/
theorem ofList_of_nodup {entries : List (String × Bson)} (h : (keys entries).Nodup) :
    ofList entries = entries := by
  have run : ∀ (es : List (String × Bson)) (d : Document), (keys (d ++ es)).Nodup →
      es.foldl (fun d entry => d.insert entry.1 entry.2) d = d ++ es := by
    intro es
    induction es with
    | nil => intro d _; simp
    | cons e es ih =>
      intro d nodup
      have fresh : e.1 ∉ d.keys := by
        intro mem
        simp only [keys, List.map_append, List.map_cons] at nodup
        exact (List.nodup_append.mp nodup).2.2 e.1 mem e.1 (by simp) rfl
      rw [List.foldl_cons, insert_eq_append e.2 fresh, ih _ (by simpa using nodup)]
      simp
  exact run entries [] h

end Document

/-! ## Types of values -/

/-- The types of BSON values. -/
inductive ElementType where
  | double
  | string
  | array
  | document
  | bool
  | null
  | regex
  | code
  | scopedCode
  | int32
  | int64
  | timestamp
  | binary
  | objectId
  | date
  | symbol
  deriving DecidableEq

/-- The name of a type in messages. -/
def ElementType.text : ElementType → String
  | double => "FloatingPoint"
  | string => "Utf8String"
  | array => "Array"
  | document => "EmbeddedDocument"
  | bool => "Boolean"
  | null => "NullValue"
  | regex => "RegularExpression"
  | code => "JavaScriptCode"
  | scopedCode => "JavaScriptCodeWithScope"
  | int32 => "Integer32Bit"
  | int64 => "Integer64Bit"
  | timestamp => "TimeStamp"
  | binary => "Binary"
  | objectId => "ObjectId"
  | date => "UtcDatetime"
  | symbol => "Symbol"

namespace Bson

/-- The type of a value. -/
def elementType : Bson → ElementType
  | double _ => .double
  | string _ => .string
  | array _ => .array
  | document _ => .document
  | bool _ => .bool
  | null => .null
  | regex _ _ => .regex
  | code _ => .code
  | scopedCode _ _ => .scopedCode
  | int32 _ => .int32
  | int64 _ => .int64
  | timestamp _ => .timestamp
  | binary _ _ => .binary
  | objectId _ => .objectId
  | date _ => .date
  | symbol _ => .symbol

/-- The integer that a value holds, in either width. -/
def toInt64? : Bson → Option Int64
  | int32 n => some n.toInt64
  | int64 n => some n
  | _ => none

/-! ## Equality -/

mutual

/-- Whether two values are equal. Numbers are compared by their bits. -/
def same : Bson → Bson → Bool
  | double x, double y => x == y
  | string s, string t => s == t
  | array xs, array ys => sameElements xs ys
  | document xs, document ys => sameEntries xs ys
  | bool a, bool b => a == b
  | null, null => true
  | regex p o, regex q r => p == q && o == r
  | code s, code t => s == t
  | scopedCode s xs, scopedCode t ys => s == t && sameEntries xs ys
  | int32 m, int32 n => m == n
  | int64 m, int64 n => m == n
  | timestamp m, timestamp n => m == n
  | binary a xs, binary b ys => a == b && xs == ys
  | objectId a, objectId b => a == b
  | date m, date n => m == n
  | symbol s, symbol t => s == t
  | _, _ => false

/-- Whether two lists of values are equal. -/
def sameElements : List Bson → List Bson → Bool
  | [], [] => true
  | x :: xs, y :: ys => x.same y && sameElements xs ys
  | _, _ => false

/-- Whether two lists of entries are equal. -/
def sameEntries : List (String × Bson) → List (String × Bson) → Bool
  | [], [] => true
  | (k, x) :: xs, (l, y) :: ys => k == l && x.same y && sameEntries xs ys
  | _, _ => false

end

mutual

theorem same_iff (v w : Bson) : v.same w = true ↔ v = w := by
  match v with
  | double _ => cases w <;> simp [same]
  | string _ => cases w <;> simp [same]
  | array xs => cases w <;> simp [same, sameElements_iff xs]
  | document xs => cases w <;> simp [same, sameEntries_iff xs]
  | bool _ => cases w <;> simp [same]
  | null => cases w <;> simp [same]
  | regex _ _ => cases w <;> simp [same]
  | code _ => cases w <;> simp [same]
  | scopedCode _ xs => cases w <;> simp [same, sameEntries_iff xs]
  | int32 _ => cases w <;> simp [same]
  | int64 _ => cases w <;> simp [same]
  | timestamp _ => cases w <;> simp [same]
  | binary _ _ => cases w <;> simp [same]
  | objectId _ => cases w <;> simp [same]
  | date _ => cases w <;> simp [same]
  | symbol _ => cases w <;> simp [same]

theorem sameElements_iff (xs ys : List Bson) : sameElements xs ys = true ↔ xs = ys := by
  match xs with
  | [] => cases ys <;> simp [sameElements]
  | x :: xs => cases ys <;> simp [sameElements, same_iff x, sameElements_iff xs]

theorem sameEntries_iff (xs ys : List (String × Bson)) : sameEntries xs ys = true ↔ xs = ys := by
  match xs with
  | [] => cases ys <;> simp [sameEntries]
  | (k, x) :: xs =>
    rcases ys with _ | ⟨⟨l, y⟩, ys⟩ <;>
      simp [sameEntries, same_iff x, sameEntries_iff xs, and_assoc]

end

instance : DecidableEq Bson := fun v w => decidable_of_iff _ (same_iff v w)

end Bson

end PreparedFilter

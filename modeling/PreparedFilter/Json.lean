import PreparedFilter.Binary64

/-!
# JSON values

A JSON value as it is read and written here. A number is an integer of sixty-four bits, signed or
unsigned, or a finite double; a number that is not finite becomes `null`. The members of an object
keep the order of insertion: inserting a key that is there already replaces the value in its place.
-/

namespace PreparedFilter

/-- A JSON number. -/
inductive JsonNumber where
  | int (n : Int) (least : -0x8000000000000000 ≤ n) (most : n < 0x10000000000000000)
  | double (x : Binary64) (finite : x.isFinite = true)
  deriving DecidableEq

/-- An integer as a number, if it has sixty-four bits. -/
def JsonNumber.ofInt? (n : Int) : Option JsonNumber :=
  if h : -0x8000000000000000 ≤ n ∧ n < 0x10000000000000000 then some (.int n h.1 h.2) else none

/-- A signed integer as a number. -/
def JsonNumber.ofInt64 (n : Int64) : JsonNumber :=
  .int n.toInt (by have := Int64.le_toInt n; omega) (by have := Int64.toInt_lt n; omega)

/-- A byte as a number. -/
def JsonNumber.ofByte (n : UInt8) : JsonNumber :=
  .int n.toNat (by omega) (by have := n.toNat_lt; omega)

/-- An unsigned integer as a number. -/
def JsonNumber.ofUInt64 (n : UInt64) : JsonNumber :=
  .int n.toNat (by omega) (by have := n.toNat_lt; omega)

/-- A JSON value. -/
inductive Json where
  | null
  | bool (b : Bool)
  | number (n : JsonNumber)
  | string (s : String)
  | array (elements : List Json)
  | object (members : List (String × Json))
  deriving Inhabited

/-- The members of an object, in order. -/
abbrev Members := List (String × Json)

namespace Members

/-- The keys of the members, in order. -/
def keys (m : Members) : List String := m.map Prod.fst

/-- The first value of a key. -/
def get? (m : Members) (key : String) : Option Json := m.lookup key

/-- Puts a member at the end, or its value in the place of a member of the same key. -/
def insert : Members → String → Json → Members
  | [], key, value => [(key, value)]
  | (k, v) :: rest, key, value =>
    if k = key then (key, value) :: rest else (k, v) :: insert rest key value

/-- Inserts the members of a list one by one. -/
def ofList (members : List (String × Json)) : Members :=
  members.foldl (fun m member => m.insert member.1 member.2) []

/-- A fresh key goes to the end. -/
theorem insert_eq_append {m : Members} {key : String} (value : Json) (h : key ∉ m.keys) :
    m.insert key value = m ++ [(key, value)] := by
  induction m with
  | nil => rfl
  | cons member rest ih =>
    obtain ⟨name, v⟩ := member
    have ne : name ≠ key := fun eq => h (by simp [keys, eq])
    have fresh : key ∉ keys rest := fun mem => h (List.mem_cons_of_mem _ mem)
    simp [insert, ne, ih fresh]

/-- A list of members with distinct keys is the object built from it. -/
theorem ofList_of_nodup {members : List (String × Json)} (h : (keys members).Nodup) :
    ofList members = members := by
  have run : ∀ (ms : List (String × Json)) (m : Members), (keys (m ++ ms)).Nodup →
      ms.foldl (fun m member => m.insert member.1 member.2) m = m ++ ms := by
    intro ms
    induction ms with
    | nil => intro m _; simp
    | cons member ms ih =>
      intro m nodup
      have fresh : member.1 ∉ m.keys := by
        intro mem
        simp only [keys, List.map_append, List.map_cons] at nodup
        exact (List.nodup_append.mp nodup).2.2 member.1 mem member.1 (by simp) rfl
      rw [List.foldl_cons, insert_eq_append member.2 fresh, ih _ (by simpa using nodup)]
      simp
  exact run members [] h

end Members

namespace Json

/-! ## Equality -/

mutual

/-- Whether two values are equal. -/
def same : Json → Json → Bool
  | null, null => true
  | bool a, bool b => a == b
  | number m, number n => m == n
  | string s, string t => s == t
  | array xs, array ys => sameElements xs ys
  | object xs, object ys => sameMembers xs ys
  | _, _ => false

/-- Whether two lists of values are equal. -/
def sameElements : List Json → List Json → Bool
  | [], [] => true
  | x :: xs, y :: ys => x.same y && sameElements xs ys
  | _, _ => false

/-- Whether two lists of members are equal. -/
def sameMembers : List (String × Json) → List (String × Json) → Bool
  | [], [] => true
  | (k, x) :: xs, (l, y) :: ys => k == l && x.same y && sameMembers xs ys
  | _, _ => false

end

mutual

theorem same_iff (v w : Json) : v.same w = true ↔ v = w := by
  match v with
  | null => cases w <;> simp [same]
  | bool _ => cases w <;> simp [same]
  | number _ => cases w <;> simp [same]
  | string _ => cases w <;> simp [same]
  | array xs => cases w <;> simp [same, sameElements_iff xs]
  | object xs => cases w <;> simp [same, sameMembers_iff xs]

theorem sameElements_iff (xs ys : List Json) : sameElements xs ys = true ↔ xs = ys := by
  match xs with
  | [] => cases ys <;> simp [sameElements]
  | x :: xs => cases ys <;> simp [sameElements, same_iff x, sameElements_iff xs]

theorem sameMembers_iff (xs ys : List (String × Json)) : sameMembers xs ys = true ↔ xs = ys := by
  match xs with
  | [] => cases ys <;> simp [sameMembers]
  | (k, x) :: xs =>
    rcases ys with _ | ⟨⟨l, y⟩, ys⟩ <;>
      simp [sameMembers, same_iff x, sameMembers_iff xs, and_assoc]

end

instance : DecidableEq Json := fun v w => decidable_of_iff _ (same_iff v w)

/-! ## Simple values -/

/-- A double as a JSON value: `null` unless it is finite. -/
def ofDouble (x : Binary64) : Json := if h : x.isFinite then .number (.double x h) else .null

/-- A signed integer as a JSON value. -/
def ofInt64 (n : Int64) : Json := .number (.ofInt64 n)

/-- An object with one member. -/
def single (key : String) (value : Json) : Json := .object [(key, value)]

end Json

end PreparedFilter

/-!
# Sets of field types

A descriptor says which types a document field may hold, as a set of sixteen types. A set is a word
with a bit for each type, so the set operations are those of words.
-/

namespace PreparedFilter

/-- A set of field types. -/
structure TypeSet where
  bits : UInt16
  deriving DecidableEq, Inhabited

namespace TypeSet

/-! ## Types -/

/-- The `null` value. -/
def null : TypeSet := ⟨0x0001⟩

/-- `true` or `false`. -/
def bool : TypeSet := ⟨0x0002⟩

/-- Double-precision numbers. -/
def double : TypeSet := ⟨0x0004⟩

/-- Integers of 32 bits. -/
def int : TypeSet := ⟨0x0008⟩

/-- Integers of 64 bits. -/
def long : TypeSet := ⟨0x0010⟩

/-- Decimal numbers of 128 bits. -/
def decimal : TypeSet := ⟨0x0020⟩

/-- Document identities. -/
def objectId : TypeSet := ⟨0x0040⟩

/-- Timestamps. -/
def timestamp : TypeSet := ⟨0x0080⟩

/-- Instants. -/
def date : TypeSet := ⟨0x0100⟩

/-- Texts. -/
def string : TypeSet := ⟨0x0200⟩

/-- Regular expressions. -/
def regex : TypeSet := ⟨0x0400⟩

/-- Binary data. -/
def binary : TypeSet := ⟨0x0800⟩

/-- Arrays. -/
def array : TypeSet := ⟨0x1000⟩

/-- Documents. -/
def document : TypeSet := ⟨0x2000⟩

/-- Code. -/
def code : TypeSet := ⟨0x4000⟩

/-- Code with a scope. -/
def scopedCode : TypeSet := ⟨0x8000⟩

/-- The four types of numbers. -/
def number : TypeSet := ⟨0x003c⟩

/-- The types with a meaningful order: numbers, identities, timestamps, instants and texts. -/
def ordered : TypeSet := ⟨0x03fc⟩

/-- The single types with their aliases, in canonical order. -/
def aliases : List (TypeSet × String) :=
  [(null, "null"), (bool, "bool"), (double, "double"), (int, "int"), (long, "long"),
    (decimal, "decimal"), (objectId, "objectId"), (timestamp, "timestamp"), (date, "date"),
    (string, "string"), (regex, "regex"), (binary, "binData"), (array, "array"),
    (document, "object"), (code, "javascript"), (scopedCode, "javascriptWithScope")]

/-- No type. -/
def none : TypeSet := ⟨0⟩

/-- Every type. -/
def any : TypeSet := ⟨0xffff⟩

/-- The set of a descriptor that names none: only `null`. -/
def standard : TypeSet := null

/-! ## Operations -/

/-- The types of either set. -/
def union (a b : TypeSet) : TypeSet := ⟨a.bits ||| b.bits⟩

/-- The types of both sets. -/
def inter (a b : TypeSet) : TypeSet := ⟨a.bits &&& b.bits⟩

/-- The types of exactly one set. -/
def symmDiff (a b : TypeSet) : TypeSet := ⟨a.bits ^^^ b.bits⟩

/-- The types outside a set. -/
def compl (a : TypeSet) : TypeSet := ⟨~~~a.bits⟩

/-- The types of the first set only. -/
def diff (a b : TypeSet) : TypeSet := a.inter b.compl

/-- Whether no type is in the set. -/
def isEmpty (a : TypeSet) : Bool := a == none

/-- Whether every type is in the set. -/
def isAny (a : TypeSet) : Bool := a == any

/-- Whether the first set has all types of the second. -/
def contains (a b : TypeSet) : Bool := a.inter b == b

/-- Whether the sets share a type. -/
def intersects (a b : TypeSet) : Bool := !(a.inter b).isEmpty

/-- The aliases of the types of a set, in canonical order. -/
def names (a : TypeSet) : List String :=
  (aliases.filter fun entry => a.contains entry.1).map Prod.snd

/-- The text of a set in messages. -/
def text (a : TypeSet) : String :=
  match a.names with
  | [] => "<no type>"
  | names => "|".intercalate names

/-- The message for an empty set where a type is needed. -/
def emptyMessage : String := "at least one type must be specified"

end TypeSet

end PreparedFilter

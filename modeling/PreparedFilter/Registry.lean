import PreparedFilter.Codec

/-!
# The registry of codecs

Codecs by the type of the values that they encode. Types are told apart by keys, and a key fixes the
type of codec that is registered under it. Registering under a key again replaces the codec there.
-/

namespace PreparedFilter

/-- Codecs by key. -/
structure Registry {κ : Type} (codecOf : κ → Type) where
  entries : List ((key : κ) × codecOf key)

namespace Registry

variable {κ : Type} {codecOf : κ → Type}

/-- A registry without codecs. -/
def empty : Registry codecOf := ⟨[]⟩

/-- The first codec of a key in a list. -/
def find? [DecidableEq κ] (key : κ) : List ((key : κ) × codecOf key) → Option (codecOf key)
  | [] => none
  | ⟨other, codec⟩ :: rest => if h : other = key then some (h ▸ codec) else find? key rest

/-- The codec that is registered under a key. -/
def get? [DecidableEq κ] (r : Registry codecOf) (key : κ) : Option (codecOf key) :=
  find? key r.entries

/-- Whether a codec is registered under a key. -/
def contains [DecidableEq κ] (r : Registry codecOf) (key : κ) : Bool := (r.get? key).isSome

/-- The number of registered codecs. -/
def size (r : Registry codecOf) : Nat := r.entries.length

/-- Whether no codec is registered. -/
def isEmpty (r : Registry codecOf) : Bool := r.entries.isEmpty

/-- Registers a codec under a key. Also returns the codec that it replaces. -/
def register [DecidableEq κ] (r : Registry codecOf) (key : κ) (codec : codecOf key) :
    Registry codecOf × Option (codecOf key) :=
  (⟨r.entries.filter (fun entry => entry.1 != key) ++ [⟨key, codec⟩]⟩, r.get? key)

/-- The diagnostic text of a registry. -/
def diagnostic (r : Registry codecOf) : String :=
  Diagnostic.record "CodecRegistry" [("len", toString r.size)]

end Registry

end PreparedFilter

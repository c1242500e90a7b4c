import Tokenomics.SortedMap

/-!
# Stores

A store keeps one value of bytes under each of its keys. Single keys can be closed for writing,
each with the error that a write then gives; a refused write leaves the value as it was.
-/

namespace Tokenomics

/-- Why a record could not be read or written. -/
inductive StoreError where
  | database
  /-- The bytes are no record of the type asked for. -/
  | undecodable
  | unsupportedVersion (key : String) (found expected : Nat)
deriving DecidableEq, Inhabited

/-- The wording of a store error. The first two come without details. -/
def StoreError.message : StoreError → String
  | .database => "Database error"
  | .undecodable => "Serialization error"
  | .unsupportedVersion key found expected =>
    "record " ++ key ++ " has unsupported version " ++ toString found ++ " (expected "
      ++ toString expected ++ ")"

/-- A store of bytes under keys. -/
structure Store where
  values : SortedMap String ByteArray
  /-- The keys that are closed for writing. -/
  closed : SortedMap String StoreError
  /-- How often the store has been asked to make its values durable. -/
  flushes : Nat
deriving Inhabited

namespace Store

/-- A store without values, open for every key. -/
def empty : Store := ⟨∅, ∅, 0⟩

/-- The bytes under a key. -/
def get? (s : Store) (key : String) : Option ByteArray := s.values.get? key

/-- Put bytes under a key, in place of what was there. -/
def put (s : Store) (key : String) (value : ByteArray) : Except StoreError Store :=
  match s.closed.get? key with
  | some e => .error e
  | none => .ok { s with values := s.values.insert key value }

/-- Remove what stands under a key. -/
def delete (s : Store) (key : String) : Store := { s with values := s.values.erase key }

/-- Make the values durable. -/
def flush (s : Store) : Store := { s with flushes := s.flushes + 1 }

/-- How many keys have a value. -/
def size (s : Store) : Nat := s.values.size

/-- Close a key for writing. -/
def close (s : Store) (key : String) (e : StoreError) : Store :=
  { s with closed := s.closed.insert key e }

/-- Open a key for writing. -/
def reopen (s : Store) (key : String) : Store := { s with closed := s.closed.erase key }

end Store

end Tokenomics

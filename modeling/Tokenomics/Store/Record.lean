import Tokenomics.Json.Bytes
import Tokenomics.Json.Printer
import Tokenomics.Store.Basic

/-!
# Versioned records

A record is a JSON text with two fields, the version of its layout and the data. The whole text is
read before the version is looked at.
-/

namespace Tokenomics.Store

/-- The version of the layouts that are written and read here. -/
def recordVersion : Nat := 1

/-- A version and the data under it. -/
structure Envelope (α : Type) where
  version : Nat
  data : α

instance {α : Type} [Codec α] : Codec (Envelope α) where
  encode e := .record [("version", .nat e.version), ("data", Codec.encode e.data)]
  decode? d := do
    let [some version, some data] ← d.fields? ["version", "data"] | none
    return ⟨← version.asNat? (1 <<< 16), ← Codec.decode? data⟩

/-- The bytes of a record. -/
def recordBytes {α : Type} [Codec α] (a : α) : ByteArray :=
  (Json.compact (Codec.encode (⟨recordVersion, a⟩ : Envelope α))).toUTF8

/-- Write a record. -/
def putRecord {α : Type} [Codec α] (s : Store) (key : String) (a : α) : Except StoreError Store :=
  s.put key (recordBytes a)

/-- Read a record, if there is one. -/
def getRecord {α : Type} [Codec α] (s : Store) (key : String) : Except StoreError (Option α) :=
  match s.get? key with
  | none => .ok none
  | some bytes =>
    match (Json.decodeBytes? bytes : Option (Envelope α)) with
    | none => .error .undecodable
    | some e =>
      if e.version = recordVersion then .ok (some e.data)
      else .error (.unsupportedVersion key e.version recordVersion)

end Tokenomics.Store

import Tokenomics.Json.Printer
import Tokenomics.Json.Reader
import Tokenomics.Store.Basic

/-!
# Saved stores

The text in which the values of a store outlast a run: a JSON record that has the bytes of every
value, as a list of numbers, under its key. Closed keys and flushes are not saved.
-/

namespace Tokenomics.Store

/-- Bytes as data. -/
def bytesData (bytes : ByteArray) : Datum := .listOf (fun b ↦ .nat b.toNat) bytes.toList

/-- The bytes that data stand for. -/
def bytesOf? (d : Datum) : Option ByteArray :=
  (d.asListOf? (Datum.asNat? (1 <<< 8))).map fun l ↦ ⟨(l.map UInt8.ofNat).toArray⟩

/-- The text of a store. -/
def saved (s : Store) : String :=
  Json.compact (.record (s.values.entries.map fun (k, bytes) ↦ (k, bytesData bytes)))

/-- The store that a text stands for. -/
def ofSaved? (s : String) : Option Store := do
  let .record fields ← Json.parse? s | none
  let values ← fields.mapM fun (e : String × Datum) ↦ (bytesOf? e.2).map (e.1, ·)
  return { empty with values := .ofList values }

end Tokenomics.Store

import Tokenomics.Proofs.Datum.Codec
import Tokenomics.Proofs.SortedMap
import Tokenomics.Store.Record

/-!
# Records survive being written

A record that could be written is read back as what its data are restored to, and the records
under the other keys are left as they are.
-/

namespace Tokenomics.Store

variable {α : Type} [Codec α] {s s' : Store} {key : String} {a b : α}

theorem restores_envelope {e : Envelope α} (hversion : e.version < 1 <<< 16)
    (h : Codec.Restores e.data b) : Codec.Restores e (⟨e.version, b⟩ : Envelope α) where
  plain := ⟨Nat.lt_of_lt_of_le (Nat.lt_trans hversion (by decide : 1 <<< 16 < tenPow 20))
    (tenPow_le_tenPow (by decide)), h.plain, trivial⟩
  decode?_eq := by
    refine (Datum.fields?_bind ["version", "data"] [.nat e.version, Codec.encode e.data]
      (by decide) rfl _).trans ?_
    show (do
      return ⟨← (Datum.nat e.version).asNat? (1 <<< 16), ← Codec.decode? (Codec.encode e.data)⟩ :
      Option (Envelope α)) = _
    rw [h.decode?_eq, Datum.asNat?_nat hversion]
    rfl

theorem decodeBytes?_recordBytes (h : Codec.Restores a b) :
    Json.decodeBytes? (recordBytes a) = some (⟨recordVersion, b⟩ : Envelope α) := by
  have hrestores : Codec.Restores (⟨recordVersion, a⟩ : Envelope α) ⟨recordVersion, b⟩ :=
    restores_envelope (show recordVersion < 1 <<< 16 by decide) h
  rw [Json.decodeBytes?, recordBytes, Json.parseBytes?_compact hrestores.plain, Option.bind_some,
    hrestores.decode?_eq]

theorem put_eq_ok {value : ByteArray} : s.put key value = .ok s' ↔
    s.closed.get? key = none ∧ s' = { s with values := s.values.insert key value } := by
  rw [put]
  split
  · rename_i e he
    exact ⟨fun h ↦ (nomatch h), fun h ↦ nomatch he.symm.trans h.1⟩
  · rename_i hopen
    exact ⟨fun h ↦ ⟨hopen, (Except.ok.inj h).symm⟩, fun h ↦ congrArg _ h.2.symm⟩

/-- A write fails when the store is closed for the key. -/
theorem put_eq_error {value : ByteArray} {e : StoreError} :
    s.put key value = .error e ↔ s.closed.get? key = some e := by
  rw [put]
  cases s.closed.get? key with
  | none => simp
  | some e' => simp

theorem putRecord_eq_ok : s.putRecord key a = .ok s' ↔
    s.closed.get? key = none ∧ s' = { s with values := s.values.insert key (recordBytes a) } :=
  put_eq_ok

theorem putRecord_eq_error {e : StoreError} :
    s.putRecord key a = .error e ↔ s.closed.get? key = some e :=
  put_eq_error

/-- The bytes of a record are read as what its data are restored to. -/
theorem getRecord_of_get? (hget : s.get? key = some (recordBytes a)) (h : Codec.Restores a b) :
    s.getRecord key = .ok (some b) := by
  rw [getRecord, hget]
  dsimp only
  rw [decodeBytes?_recordBytes h]
  exact if_pos rfl

/-- A written record is read back. -/
theorem getRecord_putRecord (hput : s.putRecord key a = .ok s') (h : Codec.Restores a b) :
    s'.getRecord key = .ok (some b) := by
  obtain ⟨-, rfl⟩ := putRecord_eq_ok.mp hput
  refine getRecord_of_get? ?_ h
  show (s.values.insert key (recordBytes a)).get? key = some (recordBytes a)
  rw [SortedMap.get?_insert, if_pos rfl]

/-- A record is not touched by writing under another key. -/
theorem getRecord_putRecord_of_ne {β : Type} [Codec β] {key' : String}
    (hput : s.putRecord key a = .ok s') (hne : key' ≠ key) :
    (s'.getRecord key' : Except StoreError (Option β)) = s.getRecord key' := by
  obtain ⟨-, rfl⟩ := putRecord_eq_ok.mp hput
  have hget : (s.values.insert key (recordBytes a)).get? key' = s.values.get? key' := by
    rw [SortedMap.get?_insert, if_neg hne]
  rw [getRecord, getRecord, get?, get?, hget]

end Tokenomics.Store

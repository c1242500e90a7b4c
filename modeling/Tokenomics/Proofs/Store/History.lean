import Tokenomics.Proofs.Decimal.Shrinking
import Tokenomics.Proofs.Fees.Data
import Tokenomics.Proofs.Mint.Data
import Tokenomics.Proofs.Store.Record

/-!
# What a store remembers

A store that is open takes every write, and what stands under a key is what the last write to that
key has left there, whatever was written before it or to other keys (`stands_writeAll`).

For a record that means more than its bytes: it is read back as an equal value. Equality is that of
the program, where decimals are compared by value. They keep their digits and their scale all the
same, and only a zero loses its sign (`RecordKind.restored`).
-/

namespace Tokenomics

/-! ## Equal values -/

theorem Decimal.sameValue_unsignedZero (a : Decimal) : a.unsignedZero.SameValue a :=
  sameValue_iff.mpr (value_unsignedZero a)

/-- Equal parameters: the decimals in value, and all else is the same. -/
structure Params.SameValue (p q : Params) : Prop where
  genesisProvisions : p.genesisProvisions.SameValue q.genesisProvisions
  reductionFactor : p.reductionFactor.SameValue q.reductionFactor
  shares : ∀ pool, (p.shares.of pool).SameValue (q.shares.of pool)
  rest : { p with
    genesisProvisions := q.genesisProvisions
    reductionFactor := q.reductionFactor
    shares := q.shares } = q

theorem Params.sameValue_unsigned (p : Params) : p.unsigned.SameValue p where
  genesisProvisions := p.genesisProvisions.sameValue_unsignedZero
  reductionFactor := p.reductionFactor.sameValue_unsignedZero
  shares pool := by
    show (p.shares.unsigned.of pool).SameValue (p.shares.of pool)
    rw [Shares.of_unsigned]
    exact (p.shares.of pool).sameValue_unsignedZero
  rest := rfl

/-- Equal states: the provisions in value, and all else is the same. -/
structure EmissionState.SameValue (s t : EmissionState) : Prop where
  provisions : s.provisions.SameValue t.provisions
  rest : { s with provisions := t.provisions } = t

theorem EmissionState.sameValue_unsigned (s : EmissionState) : s.unsigned.SameValue s :=
  ⟨s.provisions.sameValue_unsignedZero, rfl⟩

/-! ## Kinds of records -/

/-- The types of which there are records. -/
inductive RecordKind where
  | params
  | state
  | months
  | account
  | coins
  | word
  | text
deriving DecidableEq, Inhabited

theorem Codec.restores_account (a : Account) : Restores a a where
  plain := ⟨(restores_address a.address).plain, (restores_uint64 a.sequence).plain, trivial⟩
  decode?_eq := by
    refine (Datum.fields?_bind ["address", "sequence"] [encode a.address, encode a.sequence]
      (by decide) rfl _).trans ?_
    show (do
      return ⟨← decode? (encode a.address), ← decode? (encode a.sequence)⟩ : Option Account)
      = some a
    rw [(restores_address a.address).decode?_eq, (restores_uint64 a.sequence).decode?_eq]
    rfl

namespace RecordKind

/-- The values of a kind. -/
abbrev Value : RecordKind → Type
  | params => Params
  | state => EmissionState
  | months => MonthCursor
  | account => Account
  | coins => Coins
  | word => UInt64
  | text => String

instance : (kind : RecordKind) → Codec kind.Value
  | params => inferInstanceAs (Codec Params)
  | state => inferInstanceAs (Codec EmissionState)
  | months => inferInstanceAs (Codec MonthCursor)
  | account => inferInstanceAs (Codec Account)
  | coins => inferInstanceAs (Codec Coins)
  | word => inferInstanceAs (Codec UInt64)
  | text => inferInstanceAs (Codec String)

/-- What a value is read back as: itself, but for the signs of zeros. -/
def restored : (kind : RecordKind) → kind.Value → kind.Value
  | params, p => Params.unsigned p
  | state, s => EmissionState.unsigned s
  | months, c => c
  | account, a => a
  | coins, cs => cs
  | word, n => n
  | text, s => s

/-- Equality of values. -/
def SameValue : (kind : RecordKind) → kind.Value → kind.Value → Prop
  | params, p, q => Params.SameValue p q
  | state, s, t => EmissionState.SameValue s t
  | months, c, d => c = d
  | account, a, b => a = b
  | coins, cs, ds => cs = ds
  | word, n, m => n = m
  | text, s, t => s = t

theorem restores (kind : RecordKind) (a : kind.Value) : Codec.Restores a (kind.restored a) := by
  cases kind with
  | params => exact Codec.restores_params a
  | state => exact Codec.restores_emissionState a
  | months => exact Codec.restores_monthCursor a
  | account => exact Codec.restores_account a
  | coins => exact Codec.restores_coins a
  | word => exact Codec.restores_uint64 a
  | text => exact Codec.restores_text a

theorem sameValue_restored (kind : RecordKind) (a : kind.Value) :
    kind.SameValue (kind.restored a) a := by
  cases kind with
  | params => exact Params.sameValue_unsigned a
  | state => exact EmissionState.sameValue_unsigned a
  | months => exact rfl
  | account => exact rfl
  | coins => exact rfl
  | word => exact rfl
  | text => exact rfl

end RecordKind

namespace Store

/-! ## Writes -/

/-- What can be done to the value under a key. -/
inductive Write where
  | record (kind : RecordKind) (key : String) (a : kind.Value)
  | bytes (key : String) (value : ByteArray)
  | delete (key : String)

/-- The key that is written to. -/
def Write.key : Write → String
  | record _ key _ => key
  | bytes key _ => key
  | delete key => key

/-- The bytes that a write leaves under its key. -/
def Write.value? : Write → Option ByteArray
  | record _ _ a => some (recordBytes a)
  | bytes _ value => some value
  | delete _ => none

/-- The store after a write. -/
def write (s : Store) : Write → Except StoreError Store
  | .record _ key a => s.putRecord key a
  | .bytes key value => s.put key value
  | .delete key => .ok (s.delete key)

/-- The store after some writes. -/
def writeAll (s : Store) (ws : List Write) : Except StoreError Store := ws.foldlM write s

/-- What a write says about its key is the case: a record is read as an equal value, raw bytes as
they are, and after a deletion there is no record of any kind. -/
def Write.Stands (s : Store) : Write → Prop
  | record kind key a => s.get? key = some (recordBytes a) ∧
    s.getRecord key = .ok (some (kind.restored a)) ∧ kind.SameValue (kind.restored a) a
  | bytes key value => s.get? key = some value
  | delete key => s.get? key = none ∧
    ∀ kind : RecordKind, (s.getRecord key : Except StoreError (Option kind.Value)) = .ok none

variable {s s' : Store} {w : Write} {ws : List Write} {key : String}

theorem getRecord_of_get?_none {α : Type} [Codec α] (h : s.get? key = none) :
    (s.getRecord key : Except StoreError (Option α)) = .ok none := by
  rw [getRecord, h]

/-- What the bytes under its key say about a write. -/
theorem Write.stands_of_get? (h : s.get? w.key = w.value?) : w.Stands s := by
  cases w with
  | record kind key a =>
    exact ⟨h, getRecord_of_get? h (kind.restores a), kind.sameValue_restored a⟩
  | bytes key value => exact h
  | delete key => exact ⟨h, fun kind ↦ getRecord_of_get?_none h⟩

/-! ## One write -/

/-- The store with what a write leaves. -/
def written (s : Store) (w : Write) : Store :=
  { s with values := s.values.assign w.key w.value? }

theorem get?_written (s : Store) (w : Write) (key : String) :
    (s.written w).get? key = if key = w.key then w.value? else s.get? key :=
  SortedMap.get?_assign s.values w.key key w.value?

/-- An open store takes any write. -/
theorem write_eq (hopen : s.closed = ∅) (w : Write) : s.write w = .ok (s.written w) := by
  have hkey (key : String) : s.closed.get? key = none := by
    rw [hopen]
    exact SortedMap.get?_empty key
  cases w with
  | record kind key a => exact putRecord_eq_ok.mpr ⟨hkey key, rfl⟩
  | bytes key value => exact put_eq_ok.mpr ⟨hkey key, rfl⟩
  | delete key => rfl

/-! ## All writes -/

theorem writeAll_cons (hopen : s.closed = ∅) (w : Write) (ws : List Write) :
    s.writeAll (w :: ws) = (s.written w).writeAll ws := by
  rw [writeAll, List.foldlM_cons, write_eq hopen]
  rfl

/-- An open store takes any writes and stays open. -/
theorem exists_writeAll (hopen : s.closed = ∅) (ws : List Write) :
    ∃ s', s.writeAll ws = .ok s' ∧ s'.closed = ∅ := by
  induction ws generalizing s with
  | nil => exact ⟨s, rfl, hopen⟩
  | cons w ws ih =>
    rw [writeAll_cons hopen]
    exact ih (s := s.written w) hopen

/-- Nothing changes under a key that is not written to. -/
theorem get?_writeAll (hopen : s.closed = ∅) (h : s.writeAll ws = .ok s')
    (hother : ∀ w ∈ ws, w.key ≠ key) : s'.get? key = s.get? key := by
  induction ws generalizing s with
  | nil =>
    obtain rfl : s = s' := Except.ok.inj h
    rfl
  | cons w ws ih =>
    obtain ⟨hw, hws⟩ := List.forall_mem_cons.mp hother
    rw [writeAll_cons hopen] at h
    rw [ih (s := s.written w) hopen h hws, get?_written, if_neg (Ne.symm hw)]

theorem writeAll_append_eq_ok {early late : List Write} :
    s.writeAll (early ++ late) = .ok s' ↔
      ∃ s₁, s.writeAll early = .ok s₁ ∧ s₁.writeAll late = .ok s' := by
  rw [writeAll, List.foldlM_append, bind_eq_ok]
  rfl

/-- **A store keeps the last write to each key.** An open store, whatever is in it, takes any
records, bytes and deletions. After them, each key has what it had before if none of them was to
that key, and otherwise what the last one to it has left: a record of the same kind and of equal
value, the same bytes, or nothing. -/
theorem stands_writeAll (hopen : s.closed = ∅) (ws : List Write) : ∃ s',
    s.writeAll ws = .ok s' ∧
    (∀ key, (∀ w ∈ ws, w.key ≠ key) → s'.get? key = s.get? key) ∧
    ∀ early w late, ws = early ++ w :: late → (∀ w' ∈ late, w'.key ≠ w.key) → w.Stands s' := by
  obtain ⟨s', hws, -⟩ := exists_writeAll hopen ws
  refine ⟨s', hws, fun key ↦ get?_writeAll hopen hws, ?_⟩
  rintro early w late rfl hlate
  obtain ⟨s₁, hearly, hrest⟩ := writeAll_append_eq_ok.mp hws
  obtain ⟨s₁', hearly', hopen₁⟩ := exists_writeAll hopen early
  obtain rfl : s₁' = s₁ := Except.ok.inj (hearly'.symm.trans hearly)
  rw [writeAll_cons hopen₁] at hrest
  refine Write.stands_of_get? ?_
  rw [get?_writeAll (s := s₁'.written w) hopen₁ hrest hlate, get?_written, if_pos rfl]

/-- A store with some bytes under a key. -/
def occupied : Store := { empty with values := .ofList [("first", "old".toUTF8)] }

/-- Writes by which a key gets a text, bytes, nothing and parameters in turn, and another key a
number in between. -/
def overwrites : List Write :=
  [.record .text "second" "text", .bytes "second" "bytes".toUTF8, .delete "second",
    .record .word "third" (7 : UInt64), .record .params "second" Params.standard]

theorem stands_writeAll_overwrites : ∃ s, occupied.writeAll overwrites = .ok s ∧
    s.get? "first" = some "old".toUTF8 ∧
    (Write.record .params "second" Params.standard).Stands s ∧
    (Write.record .word "third" (7 : UInt64)).Stands s := by
  obtain ⟨s, hs, hother, hlast⟩ := stands_writeAll (s := occupied) rfl overwrites
  refine ⟨s, hs, hother "first" ?_, hlast (overwrites.take 4) _ [] rfl ?_,
    hlast (overwrites.take 3) _ _ rfl ?_⟩
  · simp [overwrites, Write.key]
  · exact fun w hw ↦ absurd hw List.not_mem_nil
  · simp [Write.key]

end Store

end Tokenomics

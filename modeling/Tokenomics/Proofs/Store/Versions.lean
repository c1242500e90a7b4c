import Tokenomics.Proofs.Store.History

/-!
# Records of other versions

A record carries the version of its layout, and one of another version than the present is never
given out. That it is turned down for its version is not certain, though: its data are read as
being of the present layout before the version is looked at. `reportsVersion_iff` says when the
version is reported, for every type of records: when the data happen to be of the present layout
too.

Whether they are can be told from the fields, since a record of any kind is read by its fields
(`RecordKind.readsFields`). A layout with more fields can still be read, as those are passed over
(`ReadsFields.decode?_append`), and its version is reported. One in which a field has gone, or has
another name, cannot be read (`ReadsFields.decode?_eq_none`) and is taken for a broken record.
-/

namespace Tokenomics

namespace Datum

/-- A word is a number that its text determines. -/
theorem plain_nat {n : Nat} (h : n < 1 <<< 64) : (nat n).Plain :=
  Nat.lt_of_lt_of_le (Nat.lt_trans h (by decide : 1 <<< 64 < tenPow 20))
    (tenPow_le_tenPow (by decide))

variable {fields : List (String × Datum)} {name : String} {names : List String}

/-! ## Fields that are added or missing -/

/-- Fields of other names are passed over. -/
theorem fields?_append {extra : List (String × Datum)} (h : ∀ f ∈ extra, f.1 ∉ names) :
    (Datum.record (fields ++ extra)).fields? names = (Datum.record fields).fields? names := by
  rw [fields?, fields?]
  induction names with
  | nil => rfl
  | cons name names ih =>
    have hfresh : extra.filter (·.1 == name) = [] := by
      rw [List.filter_eq_nil_iff]
      intro f hf heq
      exact h f hf (List.mem_cons.mpr (.inl (beq_iff_eq.mp heq)))
    have hfield : fieldOf? (fields ++ extra) name = fieldOf? fields name := by
      rw [fieldOf?, fieldOf?, valuesOf, valuesOf, List.filter_append, hfresh, List.append_nil]
    rw [List.mapM_cons, List.mapM_cons, hfield,
      ih fun f hf hmem ↦ h f hf (List.mem_cons_of_mem name hmem)]

/-- What is found for each name is among what is found for all. -/
theorem mem_of_mapM {α β : Type} {f : α → Option β} {l : List α} {bs : List β} {a : α} {b : β}
    (h : l.mapM f = some bs) (ha : a ∈ l) (hb : f a = some b) : b ∈ bs := by
  induction l generalizing bs with
  | nil => exact absurd ha List.not_mem_nil
  | cons first l ih =>
    rw [List.mapM_cons] at h
    obtain ⟨value, hvalue, h⟩ := Option.bind_eq_some_iff.mp h
    obtain ⟨rest, hrest, h⟩ := Option.bind_eq_some_iff.mp h
    obtain rfl : value :: rest = bs := Option.some.inj h
    rcases List.mem_cons.mp ha with rfl | ha
    · obtain rfl : b = value := Option.some.inj (hb.symm.trans hvalue)
      exact List.mem_cons_self
    · exact List.mem_cons_of_mem value (ih hrest ha)

/-- A field that is missing is among the fields as one without a value. -/
theorem none_mem_of_fields? {values : List (Option Datum)} (hname : name ∈ names)
    (hmissing : ∀ f ∈ fields, f.1 ≠ name)
    (h : (Datum.record fields).fields? names = some values) : none ∈ values := by
  have hnone : valuesOf fields name = [] := by
    rw [valuesOf, List.map_eq_nil_iff, List.filter_eq_nil_iff]
    intro f hf heq
    exact hmissing f hf (beq_iff_eq.mp heq)
  have hfield : fieldOf? fields name = some none := by
    rw [fieldOf?, hnone]
  exact mem_of_mapM h hname hfield

end Datum

namespace Store

/-- Records of a type are read by the values of some fields, and need all of them. -/
def ReadsFields (α : Type) [Codec α] (names : List String) : Prop :=
  ∃ f : List (Option Datum) → Option α,
    (∀ fields, Codec.decode? (.record fields) = (Datum.record fields).fields? names >>= f) ∧
    ∀ values, none ∈ values → f values = none

namespace ReadsFields

variable {α : Type} [Codec α] {fields extra : List (String × Datum)} {names : List String}
  {name : String}

/-- Fields of other names make no difference to what is read. -/
theorem decode?_append (h : ReadsFields α names) (hextra : ∀ f ∈ extra, f.1 ∉ names) :
    (Codec.decode? (.record (fields ++ extra)) : Option α) = Codec.decode? (.record fields) := by
  obtain ⟨f, hf, -⟩ := h
  rw [hf, hf, Datum.fields?_append hextra]

/-- Without one of its fields a record cannot be read. -/
theorem decode?_eq_none (h : ReadsFields α names) (hname : name ∈ names)
    (hmissing : ∀ f ∈ fields, f.1 ≠ name) : (Codec.decode? (.record fields) : Option α) = none := by
  obtain ⟨f, hf, hneeded⟩ := h
  rw [hf]
  cases hfields : (Datum.record fields).fields? names with
  | none => rfl
  | some values => exact hneeded values (Datum.none_mem_of_fields? hname hmissing hfields)

end ReadsFields

end Store

namespace RecordKind

/-- The names of the fields in the data of a kind; none where the data are no record. -/
def fieldNames : RecordKind → List String
  | params => Params.fieldNames
  | state => ["block_provisions", "last_reduction_block_num", "vesting_month_info"]
  | months => ["months_since_genesis", "month_started_block", "one_month_period_in_blocks"]
  | account => ["address", "sequence"]
  | coins | word | text => []

/-- All kinds of records are read by their fields. -/
theorem readsFields (kind : RecordKind) : Store.ReadsFields kind.Value kind.fieldNames := by
  cases kind with
  | params | state | months | account =>
    refine ⟨_, fun _ ↦ rfl, fun values hnone ↦ ?_⟩
    split
    · exact absurd hnone (by simp)
    · rfl
  | coins | word | text => exact ⟨fun _ ↦ none, fun _ ↦ rfl, fun _ _ ↦ rfl⟩

end RecordKind

namespace Store

variable {α : Type} [Codec α] {s : Store} {key : String} {v : Nat} {d : Datum}

/-! ## What is under a key -/

/-- Under a key there is a text with a version and some data, whatever else. -/
def HoldsEnvelope (s : Store) (key : String) (v : Nat) (d : Datum) : Prop :=
  ∃ bytes x, s.get? key = some bytes ∧ Json.parseBytes? bytes = some x ∧
    x.fields? ["version", "data"] = some [some (.nat v), some d]

/-- The compact text of a version and some data is such a text. -/
theorem holdsEnvelope_compact (hv : v < 1 <<< 16) (hd : d.Plain)
    (h : s.get? key = some (Json.compact (.record [("version", .nat v), ("data", d)])).toUTF8) :
    s.HoldsEnvelope key v d := by
  have hplain : (Datum.record [("version", .nat v), ("data", d)]).Plain :=
    ⟨Datum.plain_nat (Nat.lt_trans hv (by decide)), hd, trivial⟩
  exact ⟨_, _, h, Json.parseBytes?_compact hplain,
    Datum.fields?_zip ["version", "data"] [.nat v, d] (by decide) rfl⟩

/-! ## What is read -/

/-- Reading a record of a type is refused with the version that the record has. -/
def ReportsVersion (α : Type) [Codec α] (s : Store) (key : String) (v : Nat) : Prop :=
  (s.getRecord key : Except StoreError (Option α)) =
    .error (.unsupportedVersion key v recordVersion)

/-- A record of any version is read by its data first. -/
theorem getRecord_of_holdsEnvelope (h : s.HoldsEnvelope key v d) (hv : v < 1 <<< 16) :
    (s.getRecord key : Except StoreError (Option α)) =
      match (Codec.decode? d : Option α) with
      | none => .error .undecodable
      | some a =>
        if v = recordVersion then .ok (some a)
        else .error (.unsupportedVersion key v recordVersion) := by
  obtain ⟨bytes, x, hget, hparse, hfields⟩ := h
  have hdecode : (Json.decodeBytes? bytes : Option (Envelope α)) =
      (Codec.decode? d).map (Envelope.mk v) := by
    rw [Json.decodeBytes?, hparse, Option.bind_some]
    show (x.fields? ["version", "data"] >>= _) = _
    rw [hfields, Option.bind_eq_bind, Option.bind_some]
    dsimp only
    rw [Datum.asNat?_nat hv]
    cases (Codec.decode? d : Option α) with
    | none => rfl
    | some a => rfl
  rw [getRecord, hget]
  dsimp only
  rw [hdecode]
  cases (Codec.decode? d : Option α) with
  | none => rfl
  | some a => rfl

/-- The version is reported of data that are of the present layout. -/
theorem reportsVersion_of_decode? (h : s.HoldsEnvelope key v d) (hv : v < 1 <<< 16)
    (hforeign : v ≠ recordVersion) {a : α} (ha : Codec.decode? d = some a) :
    ReportsVersion α s key v := by
  rw [ReportsVersion, getRecord_of_holdsEnvelope h hv, ha]
  exact if_neg hforeign

/-- Of other data it is not. -/
theorem getRecord_of_decode?_eq_none (h : s.HoldsEnvelope key v d) (hv : v < 1 <<< 16)
    (hnone : (Codec.decode? d : Option α) = none) :
    (s.getRecord key : Except StoreError (Option α)) = .error .undecodable := by
  rw [getRecord_of_holdsEnvelope h hv, hnone]

/-- **A foreign version is reported exactly when the data are of the present layout.** For every
type of records and every text with another version than the present: the version is reported if
and only if the data can be read as of that type now. In all other cases the record is refused as
one that cannot be read, and it is never given out. -/
theorem reportsVersion_iff (h : s.HoldsEnvelope key v d) (hv : v < 1 <<< 16)
    (hforeign : v ≠ recordVersion) :
    (ReportsVersion α s key v ↔ ∃ a : α, Codec.decode? d = some a) ∧
    (¬ ReportsVersion α s key v →
      (s.getRecord key : Except StoreError (Option α)) = .error .undecodable) := by
  cases hdecode : (Codec.decode? d : Option α) with
  | none =>
    have hbroken := getRecord_of_decode?_eq_none h hv hdecode
    refine ⟨iff_of_false ?_ nofun, fun _ ↦ hbroken⟩
    intro hreported
    exact nomatch hbroken.symm.trans hreported
  | some a =>
    have hreported := reportsVersion_of_decode? h hv hforeign hdecode
    exact ⟨iff_of_true hreported ⟨a, rfl⟩, fun hnot ↦ absurd hreported hnot⟩

/-- A store with nothing but a version and some data under a key. -/
def single (key : String) (v : Nat) (d : Datum) : Store :=
  let text := Json.compact (.record [("version", .nat v), ("data", d)])
  { empty with values := SortedMap.insert ∅ key text.toUTF8 }

theorem holdsEnvelope_single (key : String) (hv : v < 1 <<< 16) (hd : d.Plain) :
    (single key v d).HoldsEnvelope key v d := by
  refine holdsEnvelope_compact hv hd ?_
  rw [single, get?, SortedMap.get?_insert, if_pos rfl]

/-- Months of a layout to come, in which a month has a name as well. -/
def namedMonths : Datum := .record [("months_since_genesis", .nat 3),
  ("month_started_block", .nat 10), ("one_month_period_in_blocks", .nat 100),
  ("name", .text "March")]

theorem reportsVersion_iff_namedMonths :
    (single "mint/months" 2 namedMonths).HoldsEnvelope "mint/months" 2 namedMonths ∧
    2 < 1 <<< 16 ∧ 2 ≠ recordVersion ∧
    ReportsVersion MonthCursor (single "mint/months" 2 namedMonths) "mint/months" 2 := by
  have hplain : namedMonths.Plain := ⟨Datum.plain_nat (by decide), Datum.plain_nat (by decide),
    Datum.plain_nat (by decide), trivial, trivial⟩
  have h := holdsEnvelope_single "mint/months" (by decide : 2 < 1 <<< 16) hplain
  have hforeign : 2 ≠ recordVersion := by decide
  -- the name of the month is passed over
  have hextra : ∀ f ∈ [("name", Datum.text "March")], f.1 ∉ RecordKind.months.fieldNames :=
    List.forall_mem_singleton.mpr (by decide)
  have hdecode : Codec.decode? namedMonths = some (⟨3, 10, 100⟩ : MonthCursor) :=
    (RecordKind.months.readsFields.decode?_append hextra).trans
      (Codec.restores_monthCursor ⟨3, 10, 100⟩).decode?_eq
  exact ⟨h, by decide, hforeign, (reportsVersion_iff h (by decide) hforeign).1.mpr ⟨_, hdecode⟩⟩

/-- Months of a layout to come, in which all months have the same number of blocks. -/
def evenMonths : Datum := .record [("months_since_genesis", .nat 3),
  ("month_started_block", .nat 10)]

/-- **A version that is not reported.** Months of version 2, in which a field has gone, are refused
as a broken record. -/
theorem not_reportsVersion_evenMonths :
    (single "mint/months" 2 evenMonths).HoldsEnvelope "mint/months" 2 evenMonths ∧
    2 ≠ recordVersion ∧
    ¬ ReportsVersion MonthCursor (single "mint/months" 2 evenMonths) "mint/months" 2 ∧
    ((single "mint/months" 2 evenMonths).getRecord "mint/months" :
      Except StoreError (Option MonthCursor)) = .error .undecodable := by
  have hplain : evenMonths.Plain :=
    ⟨Datum.plain_nat (by decide), Datum.plain_nat (by decide), trivial⟩
  have h := holdsEnvelope_single "mint/months" (by decide : 2 < 1 <<< 16) hplain
  have hmissing : ∀ f ∈ [("months_since_genesis", Datum.nat 3), ("month_started_block", .nat 10)],
      f.1 ≠ "one_month_period_in_blocks" := by simp
  have hnone : (Codec.decode? evenMonths : Option MonthCursor) = none :=
    RecordKind.months.readsFields.decode?_eq_none (by decide) hmissing
  have hbroken := getRecord_of_decode?_eq_none h (by decide) hnone
  refine ⟨h, by decide, ?_, hbroken⟩
  intro hreported
  exact nomatch hbroken.symm.trans hreported

end Store

end Tokenomics

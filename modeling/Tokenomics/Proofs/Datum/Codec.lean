import Tokenomics.Proofs.Json.Bytes
import Tokenomics.Proofs.Powers

/-!
# Values that survive being written

`Codec.Restores a b` says that the data of `a` have a text that determines them, and that they are
read as `b`. For most types `b` is `a` itself; where a value loses something on the way, such as
the sign of a zero, `b` is what is left of it. Records are restored field by field
(`fields?_zip`), lists item by item (`plain_listOf`, `asListOf?_listOf`).
-/

namespace Tokenomics

namespace Datum

/-! ## Fields of a record -/

theorem valuesOf_eq_singleton {fields : List (String × Datum)} {name : String} {d : Datum}
    (hnames : (fields.map (·.1)).Nodup) (h : (name, d) ∈ fields) :
    valuesOf fields name = [d] := by
  induction fields with
  | nil => exact absurd h List.not_mem_nil
  | cons f fields ih =>
    obtain ⟨hfresh, htail⟩ := List.nodup_cons.mp hnames
    rw [valuesOf, List.filter_cons]
    rcases List.mem_cons.mp h with rfl | h
    · have hrest : fields.filter (·.1 == name) = [] := by
        rw [List.filter_eq_nil_iff]
        intro e he heq
        exact hfresh (List.mem_map.mpr ⟨e, he, beq_iff_eq.mp heq⟩)
      rw [if_pos (beq_self_eq_true name), hrest]
      rfl
    · have hne : ¬ (f.1 == name) = true := by
        intro heq
        exact hfresh (List.mem_map.mpr ⟨(name, d), h, (beq_iff_eq.mp heq).symm⟩)
      rw [if_neg hne]
      exact ih htail h

/-- The fields of a record are found under their names. -/
theorem fields?_zip (names : List String) (ds : List Datum) (hnames : names.Nodup)
    (hlength : names.length = ds.length) :
    (Datum.record (names.zip ds)).fields? names = some (ds.map some) := by
  have hkeys : ((names.zip ds).map (·.1)).Nodup := by
    rw [List.map_fst_zip (Nat.le_of_eq hlength)]
    exact hnames
  have hfield : ∀ e ∈ names.zip ds, fieldOf? (names.zip ds) e.1 = some (some e.2) := by
    intro e he
    rw [fieldOf?, valuesOf_eq_singleton hkeys he]
  rw [fields?]
  -- the look-up stays that in the whole record while the names are gone through
  generalize fieldOf? (names.zip ds) = find at hfield
  induction names generalizing ds with
  | nil =>
    rw [List.eq_nil_of_length_eq_zero hlength.symm]
    rfl
  | cons name names ih =>
    obtain ⟨d, ds, rfl⟩ := List.exists_cons_of_length_eq_add_one hlength.symm
    obtain ⟨hhead, htail⟩ := List.forall_mem_cons.mp hfield
    obtain ⟨-, hkeys⟩ := List.nodup_cons.mp hkeys
    rw [List.mapM_cons, hhead,
      ih ds (List.nodup_cons.mp hnames).2 (Nat.succ.inj hlength) hkeys htail]
    rfl

/-- Reading the fields of a record goes on with their values. -/
theorem fields?_bind {β : Type} (names : List String) (ds : List Datum) (hnames : names.Nodup)
    (hlength : names.length = ds.length) (f : List (Option Datum) → Option β) :
    ((Datum.record (names.zip ds)).fields? names >>= f) = f (ds.map some) := by
  rw [fields?_zip names ds hnames hlength]
  rfl

/-! ## Numbers and lists -/

theorem asNat?_nat {n bound : Nat} (h : n < bound) : (nat n).asNat? bound = some n := by
  have hbound : (decide (0 ≤ (n : Int)) && decide ((n : Int) < bound)) = true := by
    rw [Bool.and_eq_true, decide_eq_true_eq, decide_eq_true_eq]
    omega
  rw [nat, asNat?, if_pos hbound, Int.toNat_natCast]

theorem itemsPlain_map {α : Type} {f : α → Datum} {l : List α} (h : ∀ a ∈ l, (f a).Plain) :
    ItemsPlain (l.map f) := by
  induction l with
  | nil => trivial
  | cons a l ih =>
    obtain ⟨ha, hl⟩ := List.forall_mem_cons.mp h
    exact ⟨ha, ih hl⟩

end Datum

namespace Codec

variable {α : Type} [Codec α]

/-- Written and read back, `a` is `b`. -/
structure Restores (a b : α) : Prop where
  plain : (encode a).Plain
  decode?_eq : decode? (encode a) = some b

/-- A list is restored item by item. -/
theorem plain_listOf {l : List α} (h : ∀ a ∈ l, ∃ b, Restores a b) :
    (Datum.listOf encode l).Plain :=
  Datum.itemsPlain_map fun a ha ↦ (h a ha).choose_spec.plain

theorem asListOf?_listOf {l : List α} {f : α → α} (h : ∀ a ∈ l, Restores a (f a)) :
    (Datum.listOf encode l).asListOf? decode? = some (l.map f) := by
  rw [Datum.listOf, Datum.asListOf?, List.mapM_map]
  induction l with
  | nil => rfl
  | cons a l ih =>
    obtain ⟨ha, hl⟩ := List.forall_mem_cons.mp h
    rw [List.mapM_cons, Function.comp_apply, ha.decode?_eq, ih hl]
    rfl

theorem asListOf?_self (h : ∀ a : α, Restores a a) (l : List α) :
    (Datum.listOf encode l).asListOf? decode? = some l := by
  rw [asListOf?_listOf (f := id) fun a _ ↦ h a, List.map_id]

theorem plain_self (h : ∀ a : α, Restores a a) (l : List α) :
    (Datum.listOf encode l).Plain := plain_listOf fun a _ ↦ ⟨a, h a⟩

/-! ## Scalars -/

theorem restores_uint64 (n : UInt64) : Restores n n where
  plain := Nat.lt_of_lt_of_le (Nat.lt_trans n.toNat_lt (by decide : 2 ^ 64 < tenPow 20))
    (tenPow_le_tenPow (by decide))
  decode?_eq := by
    have hlt : n.toNat < 1 <<< 64 := n.toNat_lt
    show ((Datum.nat n.toNat).asNat? (1 <<< 64)).map UInt64.ofNat = some n
    rw [Datum.asNat?_nat hlt, Option.map_some, UInt64.ofNat_toNat]

theorem restores_text (s : String) : Restores s s := ⟨trivial, rfl⟩

/-! ## Values that may be missing -/

theorem plain_optional (h : ∀ a : α, Restores a a) (o : Option α) :
    (Datum.optional encode o).Plain := by
  cases o with
  | none => trivial
  | some a => exact (h a).plain

/-- A value that may be missing is restored, unless it is written like one that is missing. -/
theorem asOptional?_optional (h : ∀ a : α, Restores a a) (hnull : ∀ a : α, encode a ≠ .null)
    (o : Option α) : Datum.asOptional? decode? (some (Datum.optional encode o)) = some o := by
  cases o with
  | none => rfl
  | some a =>
    rw [Datum.optional, Datum.asOptional?.eq_3 _ _ (hnull a), (h a).decode?_eq, Option.map_some]

end Codec

end Tokenomics

import Tokenomics.Proofs.Mint.MonthLoop

/-!
# Vesting beyond the table

A range of months may end at the greatest word, so the payments for it are looked for up to the end
of the table only. Nothing is lost by that: whatever the table and the range are, the payments are
those of all months of the range (`vestingPayments_complete`). The months left out pay nothing, and
neither does month zero, with which a range may begin. So both ways come to what `vestingDue` has
for the months of the range (`flatMap_upTo`), and a range may be cut anywhere.
-/

namespace Tokenomics

/-! ## The months of a range -/

namespace MonthRange

variable {r : MonthRange} {months months' : List UInt64}

/-- The list of all months of a range, in ascending order. -/
structure Lists (r : MonthRange) (months : List UInt64) : Prop where
  ascending : months.Pairwise (· < ·)
  mem_iff : ∀ month, month ∈ months ↔ r.first ≤ month ∧ month ≤ r.last

theorem Lists.unique (h : r.Lists months) (h' : r.Lists months') : months = months' := by
  apply h.ascending.eq_of_mem_iff h'.ascending
  intro month
  rw [h.mem_iff, h'.mem_iff]

theorem lists_toList (r : MonthRange) : r.Lists r.toList := by
  have htoNat : ∀ k ∈ List.range' r.first.toNat (r.last.toNat + 1 - r.first.toNat),
      (UInt64.ofNat k).toNat = k ∧ r.first.toNat ≤ k ∧ k ≤ r.last.toNat := by
    intro k hk
    have hrange := List.mem_range'_1.mp hk
    have hlast := r.last.toNat_lt
    exact ⟨UInt64.toNat_ofNat_of_lt (show k < 2 ^ 64 by omega), by omega⟩
  rw [toList, upTo, Nat.min_self]
  constructor
  case ascending =>
    rw [List.pairwise_map]
    apply List.Pairwise.imp_of_mem _ (List.pairwise_lt_range' 1)
    intro k n hk hn hlt
    rw [UInt64.lt_iff_toNat_lt, (htoNat k hk).1, (htoNat n hn).1]
    exact hlt
  case mem_iff =>
    intro month
    rw [List.mem_map, UInt64.le_iff_toNat_le, UInt64.le_iff_toNat_le]
    constructor
    · rintro ⟨k, hk, rfl⟩
      obtain ⟨hk, hrange⟩ := htoNat k hk
      rw [hk]
      exact hrange
    · rintro ⟨hfirst, hlast⟩
      exact ⟨month.toNat, List.mem_range'_1.mpr (by omega), UInt64.ofNat_toNat⟩

end MonthRange

/-! ## Payments -/

/-- What is owed for a month: to every receiver, in the order of the table, the amount for that
month, unless it is zero. -/
def owedFor (p : Params) (month : UInt64) : List Payment :=
  (p.receivers.filter fun r ↦ !(r.amountFor month).isZero).map fun r ↦
    ⟨.developerVesting month, .account r.address, ⟨p.denom, r.amountFor month⟩⟩

theorem owedFor_eq (p : Params) (month : UInt64) :
    owedFor p month = p.receivers.filterMap (vestingPayment p month) := by
  rw [owedFor]
  induction p.receivers with
  | nil => rfl
  | cons r receivers ih =>
    rw [List.filterMap_cons, vestingPayment, List.filter_cons]
    cases hzero : (r.amountFor month).isZero with
    | true => exact ih
    | false => exact congrArg _ ih

/-- No table has an amount for month zero. -/
theorem owedFor_zero (p : Params) : owedFor p 0 = [] := by
  rw [owedFor_eq, List.filterMap_eq_nil_iff]
  intro r _
  rfl

theorem owedFor_ofNat (p : Params) {k : Nat} (hpos : 0 < k) (hk : k < 1 <<< 64) :
    owedFor p (.ofNat k) = p.receivers.filterMap (vestingRow? p k) := by
  rw [owedFor_eq]
  apply List.filterMap_congr
  intro r _
  exact vestingPayment_eq_vestingRow? p hpos hk r

/-- What the months of a range pay, as far as a bound, is what is due for them. -/
theorem flatMap_upTo (p : Params) (r : MonthRange) (bound : Nat) :
    (r.upTo bound).flatMap (owedFor p)
      = vestingDue p (r.first.toNat - 1) (min r.last.toNat bound) := by
  have hlast := r.last.toNat_lt
  generalize hend : min r.last.toNat bound = n
  have hmonths : ∀ k ∈ List.range' (r.first.toNat - 1 + 1) (n - (r.first.toNat - 1)),
      owedFor p (.ofNat k) = p.receivers.filterMap (vestingRow? p k) := by
    intro k hk
    have hrange := List.mem_range'_1.mp hk
    exact owedFor_ofNat p (by omega) (by omega)
  rw [MonthRange.upTo, hend, List.flatMap_map, vestingDue, ← List.flatMap_congr hmonths]
  cases hfirst : r.first.toNat with
  | zero =>
    -- month zero comes first and pays nothing
    rw [Nat.sub_zero, List.range'_succ, List.flatMap_cons]
    exact congrArg (· ++ _) (owedFor_zero p)
  | succ o =>
    rw [Nat.add_sub_cancel, Nat.add_sub_add_right]

theorem vestingPayments_eq_vestingDue (p : Params) (r : MonthRange) :
    vestingPayments p r = vestingDue p (r.first.toNat - 1) r.last.toNat := by
  rw [← vestingDue_min, ← flatMap_upTo, vestingPayments]
  apply List.flatMap_congr
  intro month _
  exact (owedFor_eq p month).symm

/-- What is promised of the payments for a range of months. -/
structure PaysEveryMonth (p : Params) (r : MonthRange) : Prop where
  /-- All months of the range can be listed, and in ascending order there is one way to do it. -/
  listed : ∃! months, r.Lists months
  /-- They are paid in this order, be they in the table or not. -/
  complete : ∀ months, r.Lists months → vestingPayments p r = months.flatMap (owedFor p)
  /-- Two parts of the range that meet are paid as the whole of it. -/
  cut : ∀ k, r.first ≤ k → k < r.last →
    vestingPayments p ⟨r.first, k⟩ ++ vestingPayments p ⟨k + 1, r.last⟩ = vestingPayments p r

/-- **The end of the table is no loss.** Whatever the table and the range of months are, all months
of the range are paid, each to its receivers in the order of the table. -/
theorem vestingPayments_complete (p : Params) (r : MonthRange) : PaysEveryMonth p r := by
  constructor
  case listed => exact ⟨r.toList, r.lists_toList, fun months h ↦ h.unique r.lists_toList⟩
  case complete =>
    intro months h
    rw [h.unique r.lists_toList, MonthRange.toList, flatMap_upTo, Nat.min_self]
    exact vestingPayments_eq_vestingDue p r
  case cut =>
    intro k hfirst hlast
    have hbefore : r.first.toNat - 1 ≤ k.toNat :=
      Nat.le_trans (Nat.sub_le _ 1) (UInt64.le_iff_toNat_le.mp hfirst)
    have hbehind : k.toNat ≤ r.last.toNat := Nat.le_of_lt (UInt64.lt_iff_toNat_lt.mp hlast)
    rw [vestingPayments_eq_vestingDue, vestingPayments_eq_vestingDue,
      vestingPayments_eq_vestingDue, Word.toNat_succ hlast, Nat.add_sub_cancel]
    exact vestingDue_append p hbefore hbehind

/-- Two receivers with the same address, one of them paid in the third month only. -/
example : (vestingPayments { Params.standard with receivers :=
    [⟨.ofModule mintModule, [5]⟩, ⟨.ofModule mintModule, [7, 0, 9]⟩] }
      ⟨0, Word.greatest⟩).map (fun x ↦ (x.allocation, x.amount.amount.toNat))
    = [(.developerVesting 1, 5), (.developerVesting 1, 7), (.developerVesting 3, 9)] := by
  decide +kernel

end Tokenomics

import Mathlib.Algebra.BigOperators.Group.List.Basic
import Mathlib.Algebra.Ring.Nat
import Tokenomics.Mint.Emission

/-!
# What vests when

The cursor never moves back, and moved to a height it enters the months right behind the one it
was in, up to the one it is in now (`upTo_advance`); at the greatest month, where counting stops,
it enters none that a table could hold. So what a block pays to the developers is the table read
from month to month: `vestingDue p o n` is what is owed for the months after `o` up to `n`, written
without cursors and ranges, and `vestingPayments_advance` says that it is what is paid.
-/

namespace Tokenomics

/-! ## The cursor -/

namespace MonthCursor

theorem months_le_moveTo (c : MonthCursor) (height : UInt64) :
    c.months.toNat ≤ (c.moveTo height).months.toNat := by
  rw [moveTo]
  split
  · rename_i hzero
    rw [hzero]
    exact Nat.zero_le _
  · have hlt := c.months.toNat_lt
    show c.months.toNat ≤ (Word.add c.months (c.elapsed height)).toNat
    rw [Word.toNat_add]
    omega

/-- The first month that is entered comes right behind the last one, unless counting has
stopped. -/
theorem toNat_first_advance (c : MonthCursor) (height : UInt64) :
    (c.advance height).2.first.toNat = min (c.months.toNat + 1) (1 <<< 64 - 1) := by
  show (if c.months = 0 then 1 else Word.add c.months 1).toNat = _
  split
  · rename_i hzero
    rw [hzero]
    rfl
  · exact Word.toNat_add c.months 1

/-- The months that are entered, up to a month that is not the greatest. -/
theorem upTo_advance (c : MonthCursor) (height : UInt64) {bound : Nat}
    (hbound : bound < 1 <<< 64 - 1) :
    (c.advance height).2.upTo bound = (List.range' (c.months.toNat + 1)
      (min (c.moveTo height).months.toNat bound - c.months.toNat)).map UInt64.ofNat := by
  have hfirst := toNat_first_advance c height
  have hlast : (c.advance height).2.last = (c.moveTo height).months := rfl
  rw [MonthRange.upTo, hfirst, hlast]
  by_cases hstopped : c.months.toNat + 1 ≤ 1 <<< 64 - 1
  · rw [Nat.min_eq_left hstopped, Nat.add_sub_add_right]
  · -- counting has stopped, beyond all months that are asked for
    have hnone : min (c.moveTo height).months.toNat bound + 1
        - min (c.months.toNat + 1) (1 <<< 64 - 1) = 0 := by omega
    have hnone' : min (c.moveTo height).months.toNat bound - c.months.toNat = 0 := by omega
    rw [hnone, hnone', List.range'_zero, List.range'_zero]

end MonthCursor

/-! ## The table -/

theorem le_foldl_max (l : List Nat) (n : Nat) :
    n ≤ l.foldl max n ∧ ∀ m ∈ l, m ≤ l.foldl max n := by
  induction l generalizing n with
  | nil => exact ⟨Nat.le_refl n, fun m hm ↦ absurd hm List.not_mem_nil⟩
  | cons k l ih =>
    obtain ⟨hstart, hall⟩ := ih (max n k)
    refine ⟨Nat.le_trans (Nat.le_max_left n k) hstart, List.forall_mem_cons.mpr ⟨?_, hall⟩⟩
    exact Nat.le_trans (Nat.le_max_right n k) hstart

theorem length_le_scheduleLength {receivers : List Receiver} {r : Receiver} (h : r ∈ receivers) :
    r.monthlyAmounts.length ≤ scheduleLength receivers :=
  (le_foldl_max _ 0).2 _ (List.mem_map_of_mem h)

/-- What is owed to a receiver for month `k`, as a payment: nothing when the table has no entry or
a zero. -/
def vestingRow? (p : Params) (k : Nat) (r : Receiver) : Option Payment :=
  r.monthlyAmounts[k - 1]?.bind fun n ↦
    if n = 0 then none
    else some ⟨.developerVesting (.ofNat k), .account r.address, ⟨p.denom, .ofUInt64 n⟩⟩

/-- What is owed for the months after `o` up to `n`: month by month, and within a month to the
receivers in their order. -/
def vestingDue (p : Params) (o n : Nat) : List Payment :=
  (List.range' (o + 1) (n - o)).flatMap fun k ↦ p.receivers.filterMap (vestingRow? p k)

theorem vestingPayment_eq_vestingRow? (p : Params) {k : Nat} (hpos : 0 < k) (hk : k < 1 <<< 64)
    (r : Receiver) : vestingPayment p (.ofNat k) r = vestingRow? p k r := by
  have htoNat : (UInt64.ofNat k).toNat = k := UInt64.toNat_ofNat_of_lt hk
  have hzero : UInt64.ofNat k ≠ 0 := by
    intro h
    rw [h] at htoNat
    exact Nat.ne_of_lt hpos htoNat
  -- the month is not zero and is not cut off as a word, so both read the same place of the table
  rw [vestingPayment, Receiver.amountFor, if_neg hzero, htoNat, vestingRow?]
  cases r.monthlyAmounts[k - 1]? with
  | none => rfl
  | some n =>
    by_cases hn : n = 0
    · subst hn
      rfl
    · have hamount : (Amount.ofUInt64 n).isZero = false := by
        rw [Amount.isZero, beq_eq_false_iff_ne]
        exact fun h ↦ hn (UInt64.toNat_inj.mp h)
      show (if (Amount.ofUInt64 n).isZero then none else some _) = if n = 0 then none else some _
      rw [hamount, if_neg Bool.false_ne_true, if_neg hn]

/-- Beyond the table nothing is owed. -/
theorem filterMap_vestingRow?_eq_nil {p : Params} {k : Nat} (h : scheduleLength p.receivers < k) :
    p.receivers.filterMap (vestingRow? p k) = [] := by
  rw [List.filterMap_eq_nil_iff]
  intro r hr
  have hlength := length_le_scheduleLength hr
  rw [vestingRow?, List.getElem?_eq_none (by omega)]
  rfl

/-- The end of the table may be left out of account. -/
theorem vestingDue_min (p : Params) (o n : Nat) :
    vestingDue p o (min n (scheduleLength p.receivers)) = vestingDue p o n := by
  have hsplit := List.range'_append_1 (s := o + 1)
    (m := min n (scheduleLength p.receivers) - o)
    (n := n - o - (min n (scheduleLength p.receivers) - o))
  have hbeyond : (List.range' (o + 1 + (min n (scheduleLength p.receivers) - o))
      (n - o - (min n (scheduleLength p.receivers) - o))).flatMap
        (fun k ↦ p.receivers.filterMap (vestingRow? p k)) = [] := by
    rw [List.flatMap_eq_nil_iff]
    intro k hk
    have hrange := List.mem_range'_1.mp hk
    exact filterMap_vestingRow?_eq_nil (by omega)
  have hlength : min n (scheduleLength p.receivers) - o
      + (n - o - (min n (scheduleLength p.receivers) - o)) = n - o := by omega
  rw [hlength] at hsplit
  rw [vestingDue, vestingDue, ← hsplit, List.flatMap_append, hbeyond, List.append_nil]

/-- What is owed is owed to receivers in the table, and is never nothing. -/
theorem eq_of_mem_vestingDue {p : Params} {o n : Nat} {x : Payment} (hx : x ∈ vestingDue p o n) :
    ∃ k, ∃ r ∈ p.receivers, ∃ m : UInt64, m ≠ 0 ∧
      x = ⟨.developerVesting (.ofNat k), .account r.address, ⟨p.denom, .ofUInt64 m⟩⟩ := by
  obtain ⟨k, -, hx⟩ := List.mem_flatMap.mp hx
  obtain ⟨r, hr, hx⟩ := List.mem_filterMap.mp hx
  obtain ⟨m, -, hm⟩ := Option.bind_eq_some_iff.mp hx
  split at hm
  · exact nomatch hm
  · rename_i hne
    exact ⟨k, r, hr, m, hne, (Option.some.inj hm).symm⟩

/-- What a block pays to the developers is what is owed for the months it enters. -/
theorem vestingPayments_advance (p : Params) (hp : scheduleLength p.receivers < 1 <<< 64 - 1)
    (c : MonthCursor) (height : UInt64) :
    vestingPayments p (c.advance height).2
      = vestingDue p c.months.toNat (c.moveTo height).months.toNat := by
  rw [vestingPayments, MonthCursor.upTo_advance c height hp, ← vestingDue_min, vestingDue,
    List.flatMap_map]
  refine List.flatMap_congr fun k hk ↦ List.filterMap_congr fun r _ ↦ ?_
  have hrange := List.mem_range'_1.mp hk
  have hlt := (c.moveTo height).months.toNat_lt
  exact vestingPayment_eq_vestingRow? p (by omega) (by omega) r

/-- What is owed month by month may be cut anywhere. -/
theorem vestingDue_append (p : Params) {o n m : Nat} (hon : o ≤ n) (hnm : n ≤ m) :
    vestingDue p o n ++ vestingDue p n m = vestingDue p o m := by
  have hrange := List.range'_append_1 (s := o + 1) (m := n - o) (n := m - n)
  rw [show o + 1 + (n - o) = n + 1 by omega, show n - o + (m - n) = m - o by omega] at hrange
  rw [vestingDue, vestingDue, vestingDue, ← List.flatMap_append, hrange]

/-! ## Sums over the table -/

/-- What a payment pays to accounts that satisfy `q`. -/
def Payment.unitsTo (q : Address → Bool) (x : Payment) : Nat :=
  match x.recipient with
  | .account a => if q a then x.amount.amount.toNat else 0
  | .moduleAccount _ => 0

/-- The amounts of a receiver for the months after `o` up to `n`. -/
def Receiver.unitsDue (r : Receiver) (o n : Nat) : Nat :=
  (((r.monthlyAmounts.drop o).take (n - o)).map UInt64.toNat).sum

theorem sum_range'_getElem? (l : List UInt64) (o k : Nat) :
    ((List.range' (o + 1) k).map fun i ↦ (l[i - 1]?.map UInt64.toNat).getD 0).sum
      = (((l.drop o).take k).map UInt64.toNat).sum := by
  induction k generalizing o with
  | zero => rfl
  | succ k ih =>
    rw [List.range'_succ, List.map_cons, List.sum_cons, ih, Nat.add_sub_cancel]
    cases h : l.drop o with
    | nil =>
      have hlength : l.length ≤ o := List.drop_eq_nil_iff.mp h
      rw [List.getElem?_eq_none hlength, List.drop_eq_nil_iff.mpr (by omega), List.take_nil,
        List.take_nil]
      rfl
    | cons a rest =>
      have hhead : l[o]? = some a := by
        rw [← List.head?_drop, h, List.head?_cons]
      have htail : l.drop (o + 1) = rest := by
        rw [← List.tail_drop, h, List.tail_cons]
      rw [hhead, htail, List.take_succ_cons, List.map_cons, List.sum_cons]
      rfl

theorem sum_map_swap {α β : Type} (l : List α) (m : List β) (f : α → β → Nat) :
    (l.map fun a ↦ (m.map (f a)).sum).sum = (m.map fun b ↦ (l.map (f · b)).sum).sum := by
  induction m with
  | nil => simp
  | cons b m ih => simp only [List.map_cons, List.sum_cons, List.sum_map_add, ih]

theorem unitsTo_vestingRow? (p : Params) (q : Address → Bool) (k : Nat) (r : Receiver) :
    ((vestingRow? p k r).map (Payment.unitsTo q)).getD 0
      = if q r.address then (r.monthlyAmounts[k - 1]?.map UInt64.toNat).getD 0 else 0 := by
  rw [vestingRow?]
  cases r.monthlyAmounts[k - 1]? with
  | none => exact (ite_self 0).symm
  | some n =>
    by_cases hn : n = 0
    · subst hn
      exact (ite_self 0).symm
    · rw [Option.bind_some, if_neg hn]
      rfl

theorem sum_filterMap_vestingRow? (p : Params) (q : Address → Bool) (k : Nat)
    (receivers : List Receiver) :
    ((receivers.filterMap (vestingRow? p k)).map (Payment.unitsTo q)).sum
      = (receivers.map fun r ↦
          if q r.address then (r.monthlyAmounts[k - 1]?.map UInt64.toNat).getD 0 else 0).sum := by
  induction receivers with
  | nil => rfl
  | cons r receivers ih =>
    rw [List.map_cons, List.sum_cons, ← ih, ← unitsTo_vestingRow? p q k r, List.filterMap_cons]
    cases vestingRow? p k r with
    | none => exact (Nat.zero_add _).symm
    | some x => rfl

/-- What is owed to some accounts for a run of months is what their entries in the table have for
these months. -/
theorem sum_vestingDue (p : Params) (q : Address → Bool) (o n : Nat) :
    ((vestingDue p o n).map (Payment.unitsTo q)).sum
      = (p.receivers.map fun r ↦ if q r.address then r.unitsDue o n else 0).sum := by
  have hmonths : ((vestingDue p o n).map (Payment.unitsTo q)).sum
      = ((List.range' (o + 1) (n - o)).map fun k ↦
          (p.receivers.map fun r ↦
            if q r.address then (r.monthlyAmounts[k - 1]?.map UInt64.toNat).getD 0
            else 0).sum).sum := by
    rw [vestingDue, List.map_flatMap, List.flatMap_def, List.sum_flatten, List.map_map]
    refine congrArg List.sum (List.map_congr_left fun k _ ↦ ?_)
    exact sum_filterMap_vestingRow? p q k p.receivers
  -- what is due month by month is summed up receiver by receiver
  rw [hmonths, sum_map_swap]
  refine congrArg List.sum (List.map_congr_left fun r _ ↦ ?_)
  by_cases hq : q r.address
  · simp only [hq, if_true]
    exact sum_range'_getElem? r.monthlyAmounts o (n - o)
  · simp [hq]

end Tokenomics

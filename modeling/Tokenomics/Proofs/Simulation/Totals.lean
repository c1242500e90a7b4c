import Tokenomics.Proofs.Mint.Emission
import Tokenomics.Proofs.SortedMap
import Tokenomics.Simulation.Report

/-!
# What the totals of a report say

A report adds payments up as they come: all of them, those with the same label, and the vesting to
the same address. Its sums are amounts that stop at the greatest one. As long as all payments
together are an amount they never get there, and then each sum is what its payments come to
(`Report.Accounts`).

The two maps of sums are the same thing twice, with another name for a payment, so their law is
proved once: `SumsUp name? xs m` says that the map has exactly the names that occur, each with the
units paid under it, and altogether the units of all payments with a name. One more payment changes
one entry (`SumsUp.append_of_some`).
-/

namespace Tokenomics

/-! ## Maps of sums -/

/-- How much a map of sums has under a name; nothing where there is no entry. -/
def sumUnder (m : SortedMap String Amount) (name : String) : Nat :=
  ((m.get? name).map Amount.toNat).getD 0

/-- How much a map of sums has in all its entries. -/
def sumOfEntries (m : SortedMap String Amount) : Nat := (m.entries.map fun e ↦ e.2.toNat).sum

namespace Report

variable {m : SortedMap String Amount} {name : String} {n : Amount}

theorem toNat_getD_get? (m : SortedMap String Amount) (name : String) :
    ((m.get? name).getD .zero).toNat = sumUnder m name := by
  rw [sumUnder]
  cases m.get? name with
  | none => rfl
  | some n => rfl

/-- The new sum under a name, as long as it is an amount. -/
theorem toNat_addedTo (hfits : sumUnder m name + n.toNat < 1 <<< 128) :
    (((m.get? name).getD .zero).addSaturating n).toNat = sumUnder m name + n.toNat := by
  rw [Amount.toNat_addSaturating, toNat_getD_get?]
  omega

theorem sumUnder_addTo (hfits : sumUnder m name + n.toNat < 1 <<< 128) (k : String) :
    sumUnder (addTo m name n) k = sumUnder m k + if name = k then n.toNat else 0 := by
  have hadded := toNat_addedTo hfits
  rw [sumUnder, addTo, SortedMap.modify, SortedMap.get?_insert]
  by_cases hk : name = k
  · rw [if_pos hk.symm, if_pos hk, ← hk]
    exact hadded
  · rw [if_neg (Ne.symm hk), if_neg hk]
    rfl

theorem sumOfEntries_addTo (hfits : sumUnder m name + n.toNat < 1 <<< 128) :
    sumOfEntries (addTo m name n) = sumOfEntries m + n.toNat := by
  have hadded := toNat_addedTo hfits
  have hsum := SortedMap.sum_insertEntry Amount.toNat name
    (((m.get? name).getD .zero).addSaturating n) m.sorted
  rw [hadded] at hsum
  -- what stood under the name is on both sides
  have hreplaced : sumOfEntries (addTo m name n) + sumUnder m name
      = sumOfEntries m + (sumUnder m name + n.toNat) := hsum
  omega

theorem contains_addTo (m : SortedMap String Amount) (name : String) (n : Amount) (k : String) :
    (addTo m name n).contains k = (m.contains k || decide (name = k)) := by
  rw [SortedMap.contains, addTo, SortedMap.modify, SortedMap.get?_insert]
  by_cases hk : name = k
  · rw [if_pos hk.symm, decide_eq_true hk, Bool.or_true]
    rfl
  · rw [if_neg (Ne.symm hk), decide_eq_false hk, Bool.or_false]
    rfl

end Report

/-! ## Payments added up by name -/

variable {name? : Payment → Option String} {xs : List Payment} {x : Payment}
  {m : SortedMap String Amount} {name : String}

theorem unitsOf_filter_le (q : Payment → Bool) (xs : List Payment) :
    unitsOf (xs.filter q) ≤ unitsOf xs :=
  (List.filter_sublist.map _).sum_le_sum fun _ _ ↦ Nat.zero_le _

theorem unitsOf_singleton (x : Payment) : unitsOf [x] = x.amount.amount.toNat := Nat.add_zero _

/-- A map has the sums of some payments, each counted under its name if it has one. -/
structure SumsUp (name? : Payment → Option String) (xs : List Payment)
    (m : SortedMap String Amount) : Prop where
  contains : ∀ k, m.contains k = xs.any (name? · = some k)
  sumUnder : ∀ k, sumUnder m k = unitsOf (xs.filter (name? · = some k))
  sumOfEntries : sumOfEntries m = unitsOf (xs.filter fun x ↦ (name? x).isSome)

theorem sumsUp_nil (name? : Payment → Option String) : SumsUp name? [] ∅ :=
  ⟨fun _ ↦ rfl, fun _ ↦ rfl, rfl⟩

/-- A payment without a name leaves the sums as they are. -/
theorem SumsUp.append_of_none (h : SumsUp name? xs m) (hx : name? x = none) :
    SumsUp name? (xs ++ [x]) m where
  contains k := by
    rw [h.contains, List.any_append, List.any_cons, List.any_nil, hx]
    simp
  sumUnder k := by
    rw [h.sumUnder, List.filter_append, List.filter_cons_of_neg (by simp [hx]), List.filter_nil,
      List.append_nil]
  sumOfEntries := by
    rw [h.sumOfEntries, List.filter_append, List.filter_cons_of_neg (by simp [hx]),
      List.filter_nil, List.append_nil]

/-- A payment with a name is added to the sum under it. -/
theorem SumsUp.append_of_some (h : SumsUp name? xs m) (hx : name? x = some name)
    (hfits : unitsOf (xs ++ [x]) < 1 <<< 128) :
    SumsUp name? (xs ++ [x]) (Report.addTo m name x.amount.amount) := by
  have hroom : Tokenomics.sumUnder m name + x.amount.amount.toNat < 1 <<< 128 := by
    have hle := unitsOf_filter_le (name? · = some name) xs
    rw [unitsOf_append, unitsOf_singleton] at hfits
    rw [h.sumUnder]
    omega
  refine ⟨fun k ↦ ?_, fun k ↦ ?_, ?_⟩
  · rw [Report.contains_addTo, h.contains, List.any_append, List.any_cons, List.any_nil, hx,
      Bool.or_false]
    simp
  · rw [Report.sumUnder_addTo hroom, h.sumUnder, List.filter_append, unitsOf_append]
    by_cases hk : name = k
    · rw [if_pos hk, List.filter_cons_of_pos (by simp [hx, hk]), List.filter_nil,
        unitsOf_singleton]
    · rw [if_neg hk, List.filter_cons_of_neg (by simp [hx, hk]), List.filter_nil]
      rfl
  · rw [Report.sumOfEntries_addTo hroom, h.sumOfEntries, List.filter_append, unitsOf_append,
      List.filter_cons_of_pos (by simp [hx]), List.filter_nil, unitsOf_singleton]

/-! ## Reports of payments -/

/-- The name under which a payment is summed up as vesting, if it is vesting to an account. -/
def Payment.vestedName? (x : Payment) : Option String :=
  match x.allocation, x.recipient with
  | .developerVesting _, .account a => some a.text
  | _, _ => none

/-- The name under which a payment is summed up by what it is for. -/
def Payment.labelName? (x : Payment) : Option String := some x.allocation.label

namespace Report

variable {r : Report}

theorem addVesting_of_some (h : x.vestedName? = some name) (m : SortedMap String Amount) :
    addVesting m x = addTo m name x.amount.amount := by
  obtain ⟨allocation, recipient, amount⟩ := x
  cases allocation with
  | pool p => exact nomatch h
  | developerVesting month =>
    cases recipient with
    | account a =>
      obtain rfl : a.text = name := Option.some.inj h
      rfl
    | moduleAccount name' => exact nomatch h

theorem addVesting_of_none (h : x.vestedName? = none) (m : SortedMap String Amount) :
    addVesting m x = m := by
  obtain ⟨allocation, recipient, amount⟩ := x
  cases allocation with
  | pool p => rfl
  | developerVesting month =>
    cases recipient with
    | account a => exact nomatch h
    | moduleAccount name' => rfl

/-- The totals of a report are those of some payments. -/
structure Accounts (r : Report) (xs : List Payment) : Prop where
  minted : r.minted.toNat = unitsOf xs
  byAllocation : SumsUp Payment.labelName? xs r.byAllocation
  vested : SumsUp Payment.vestedName? xs r.vested

theorem Accounts.addPayment (h : r.Accounts xs) (hfits : unitsOf (xs ++ [x]) < 1 <<< 128) :
    (r.addPayment x).Accounts (xs ++ [x]) where
  minted := by
    rw [Report.addPayment, Amount.toNat_addSaturating, h.minted]
    rw [unitsOf_append, unitsOf_singleton] at hfits ⊢
    omega
  byAllocation := h.byAllocation.append_of_some rfl hfits
  vested := by
    rw [Report.addPayment]
    cases hx : x.vestedName? with
    | none =>
      rw [addVesting_of_none hx]
      exact h.vested.append_of_none hx
    | some name =>
      rw [addVesting_of_some hx]
      exact h.vested.append_of_some hx hfits

/-- Adding payments that are an amount altogether makes the totals theirs. -/
theorem Accounts.foldl_addPayment {ys : List Payment} (h : r.Accounts xs)
    (hfits : unitsOf (xs ++ ys) < 1 <<< 128) :
    (ys.foldl Report.addPayment r).Accounts (xs ++ ys) := by
  induction ys generalizing r xs with
  | nil => rwa [List.append_nil]
  | cons y ys ih =>
    rw [List.append_cons xs y ys] at hfits ⊢
    have hfirst : unitsOf (xs ++ [y]) < 1 <<< 128 := by
      rw [unitsOf_append] at hfits
      omega
    exact ih (h.addPayment hfirst) hfits

/-- A payment is added to the totals only. -/
theorem blocks_foldl_addPayment (r : Report) (xs : List Payment) :
    (xs.foldl Report.addPayment r).blocks = r.blocks := by
  induction xs generalizing r with
  | nil => rfl
  | cons x xs ih => exact ih (r.addPayment x)

theorem reductions_foldl_addPayment (r : Report) (xs : List Payment) :
    (xs.foldl Report.addPayment r).reductions = r.reductions := by
  induction xs generalizing r with
  | nil => rfl
  | cons x xs ih => exact ih (r.addPayment x)

/-! ## Reports of blocks -/

/-- What a report says of some blocks: their payments, how many there are, and the heights of those
that reduced the provisions. -/
structure Covers (r : Report) (es : List Emission) : Prop where
  accounts : r.Accounts (es.flatMap (·.payments))
  blocks : r.blocks = es.length
  reductions : r.reductions = (es.filter (·.reduced)).map (·.height)

theorem covers_start (startHeight endHeight : UInt64) :
    (start startHeight endHeight).Covers [] :=
  ⟨⟨rfl, sumsUp_nil _, sumsUp_nil _⟩, rfl, rfl⟩

theorem Covers.addBlock {es : List Emission} {e : Emission} (h : r.Covers es)
    (hfits : unitsOf ((es ++ [e]).flatMap (·.payments)) < 1 <<< 128) :
    (r.addBlock e).Covers (es ++ [e]) := by
  have hpayments : (es ++ [e]).flatMap (·.payments) = es.flatMap (·.payments) ++ e.payments := by
    rw [List.flatMap_append, List.flatMap_singleton]
  rw [hpayments] at hfits
  rw [Report.addBlock]
  refine ⟨?_, ?_, ?_⟩
  · rw [hpayments]
    have hcounted : Accounts { r with
        blocks := r.blocks + 1
        reductions := if e.reduced then r.reductions ++ [e.height] else r.reductions }
        (es.flatMap (·.payments)) :=
      ⟨h.accounts.minted, h.accounts.byAllocation, h.accounts.vested⟩
    exact hcounted.foldl_addPayment hfits
  · rw [blocks_foldl_addPayment, List.length_append, List.length_singleton, h.blocks]
  · rw [reductions_foldl_addPayment, List.filter_append, List.map_append, ← h.reductions]
    cases hreduced : e.reduced with
    | true => simp [hreduced]
    | false => simp [hreduced]

/-- Adding blocks whose payments are an amount altogether. -/
theorem Covers.foldl_addBlock {es es' : List Emission} (h : r.Covers es)
    (hfits : unitsOf ((es ++ es').flatMap (·.payments)) < 1 <<< 128) :
    (es'.foldl Report.addBlock r).Covers (es ++ es') := by
  induction es' generalizing r es with
  | nil => rwa [List.append_nil]
  | cons e es' ih =>
    rw [List.append_cons es e es'] at hfits ⊢
    have hfirst : unitsOf ((es ++ [e]).flatMap (·.payments)) < 1 <<< 128 := by
      rw [List.flatMap_append, unitsOf_append] at hfits
      omega
    exact ih (h.addBlock hfirst) hfits

end Report

end Tokenomics

import Tokenomics.Proofs.Mint.Provisions

/-!
# Nothing goes wrong in a block

A block can go wrong in more ways than `processBlock` shows. The blocks that have passed are divided
by the length of a month, which is zero in some stored cursors; the months of a range are visited
one after the other, and a range can end at the greatest word, which has no next one; and nothing in
a stored cursor keeps such a range short. `Guarded.processBlock` takes these steps one at a time,
makes the fault of each an outcome, and has a budget of months to visit. The other steps have no
fault to begin with: the arithmetic of `Tokenomics.Word` stops at its limits, a month outside the
table reads as nothing, and no decimals are added in a block.

Of the faults only that of a decimal product is ever met, and the length of the vesting table is
budget enough (`Guarded.processBlock_eq`). With valid parameters no fault is met at all:
`faultless_processBlock`.
-/

namespace Tokenomics

/-- What can go wrong in a step of a block. -/
inductive Fault where
  /-- A product of decimals has no representation. -/
  | product (cause : ArithmeticOverflow)
  | divisionByZero
  /-- There is no word after the greatest one. -/
  | wordOverflow
  /-- A month is to be visited, but the budget is used up. -/
  | outOfSteps
deriving DecidableEq

/-! ## A block in steps -/

namespace Guarded

/-- The quotient of two words. -/
def quotient (a b : UInt64) : Except Fault UInt64 :=
  if b = 0 then .error .divisionByZero else .ok (a / b)

/-- The next word. -/
def successor (a : UInt64) : Except Fault UInt64 :=
  if a = Word.greatest then .error .wordOverflow else .ok (a + 1)

/-- How many full periods have passed since the current month began. -/
def elapsed (c : MonthCursor) (height : UInt64) : Except Fault UInt64 :=
  if c.period = 0 then .ok 0 else quotient (Word.sub height c.started) c.period

/-- The cursor moved to a height, and the months entered on the way. -/
def advance (c : MonthCursor) (height : UInt64) : Except Fault (MonthCursor × MonthRange) :=
  if c.months = 0 then return ({ c with months := 1, started := height }, ⟨1, 1⟩)
  else do
    let n ← elapsed c height
    let months := Word.add c.months n
    let started := Word.add c.started (Word.mul n c.period)
    return ({ c with months, started }, ⟨Word.add c.months 1, months⟩)

/-- What `f` gives for the months from one to the last one. The last one is the end, so that no
month is looked for after it. -/
def visit (f : UInt64 → List Payment) : Nat → UInt64 → UInt64 → Except Fault (List Payment)
  | 0, month, last => if last < month then .ok [] else .error .outOfSteps
  | steps + 1, month, last =>
    if last < month then .ok []
    else if month = last then .ok (f month)
    else do
      let next ← successor month
      return f month ++ (← visit f steps next last)

/-- The payments for the months of a range. -/
def vestingPayments (budget : Nat) (p : Params) (months : MonthRange) :
    Except Fault (List Payment) :=
  visit (fun month ↦ p.receivers.filterMap (vestingPayment p month)) budget months.first
    (.ofNat (min months.last.toNat (scheduleLength p.receivers)))

/-- What a block emits, with a budget of months to visit. -/
def processBlock (budget : Nat) (height : UInt64) (p : Params) (s : EmissionState) :
    Except Fault Emission :=
  if height < p.startBlock then return ⟨height, s, [], false⟩
  else do
    let (s, reduced) ← (applyReduction height p s).mapError .product
    let (cursor, months) ← advance s.cursor height
    let pools ← (poolPayments p s.provisions).mapError .product
    return ⟨height, { s with cursor }, pools ++ (← vestingPayments budget p months), reduced⟩

/-! ## The faults that are met -/

variable {height : UInt64} {p : Params} {st : EmissionState}

/-- Moving the cursor meets no fault: a month without blocks is not divided by. -/
theorem advance_eq (c : MonthCursor) (height : UInt64) :
    advance c height = .ok (c.advance height) := by
  have helapsed : elapsed c height = .ok (c.elapsed height) := by
    rw [elapsed, MonthCursor.elapsed]
    split
    · rfl
    · rename_i hperiod
      rw [quotient, if_neg hperiod]
  rw [advance, MonthCursor.advance, MonthCursor.moveTo, helapsed]
  split
  · rfl
  · rfl

theorem successor_eq {a b : UInt64} (h : a < b) : successor a = .ok (a + 1) := by
  have hlt := UInt64.lt_iff_toNat_lt.mp h
  have hb := b.toNat_lt
  have hgreatest : a ≠ Word.greatest := by
    rintro rfl
    have htoNat : Word.greatest.toNat = 1 <<< 64 - 1 := rfl
    omega
  rw [successor, if_neg hgreatest]

/-- Visiting months meets no fault within a budget for all of them, also where the last one is the
greatest word. -/
theorem visit_eq {f : UInt64 → List Payment} {steps : Nat} {month last : UInt64}
    (hsteps : last.toNat + 1 - month.toNat ≤ steps) :
    visit f steps month last = .ok (((List.range' month.toNat
      (last.toNat + 1 - month.toNat)).map UInt64.ofNat).flatMap f) := by
  induction steps generalizing month with
  | zero =>
    rw [visit, if_pos (UInt64.lt_iff_toNat_lt.mpr (by omega)), Nat.le_zero.mp hsteps]
    rfl
  | succ steps ih =>
    rw [visit]
    rcases Nat.lt_trichotomy last.toNat month.toNat with hlt | heq | hgt
    · rw [if_pos (UInt64.lt_iff_toNat_lt.mpr hlt), Nat.sub_eq_zero_of_le hlt]
      rfl
    · obtain rfl := UInt64.toNat_inj.mp heq
      rw [if_neg (UInt64.lt_irrefl last), if_pos rfl, Nat.add_sub_cancel_left, List.range'_one,
        List.map_singleton, UInt64.ofNat_toNat, List.flatMap_singleton]
    · have hmonth := UInt64.lt_iff_toNat_lt.mpr hgt
      have htoNat := Word.toNat_succ hmonth
      have hcount : last.toNat + 1 - month.toNat = last.toNat + 1 - (month + 1).toNat + 1 := by
        omega
      rw [if_neg (UInt64.lt_asymm hmonth), if_neg (UInt64.ne_of_lt hmonth), successor_eq hmonth,
        hcount, List.range'_succ, List.map_cons, List.flatMap_cons, UInt64.ofNat_toNat, ← htoNat]
      show (visit f steps (month + 1) last >>= _) = _
      rw [ih (by omega)]
      rfl

/-- Every month of the vesting table is visited once at most. -/
theorem vestingPayments_eq (p : Params) {months : MonthRange} (hfirst : 1 ≤ months.first.toNat) :
    vestingPayments (scheduleLength p.receivers) p months
      = .ok (Tokenomics.vestingPayments p months) := by
  have hlast := months.last.toNat_lt
  have htoNat : (UInt64.ofNat (min months.last.toNat (scheduleLength p.receivers))).toNat
      = min months.last.toNat (scheduleLength p.receivers) :=
    UInt64.toNat_ofNat_of_lt (Nat.lt_of_le_of_lt (Nat.min_le_left _ _) hlast)
  rw [vestingPayments, visit_eq (by omega), htoNat, Tokenomics.vestingPayments, MonthRange.upTo]

/-- The faults of a block, whatever the parameters and the state are, are those of its decimal
products. -/
theorem processBlock_eq (height : UInt64) (p : Params) (st : EmissionState) :
    processBlock (scheduleLength p.receivers) height p st
      = (Tokenomics.processBlock height p st).mapError .product := by
  rw [processBlock, Tokenomics.processBlock]
  split
  · rfl
  cases applyReduction height p st with
  | error cause => rfl
  | ok r =>
    obtain ⟨s, reduced⟩ := r
    have hfirst : 1 ≤ (s.cursor.advance height).2.first.toNat := by
      rw [MonthCursor.toNat_first_advance]
      omega
    show (advance s.cursor height >>= _) = _
    rw [advance_eq]
    show ((poolPayments p s.provisions).mapError .product >>= fun pools ↦
      vestingPayments (scheduleLength p.receivers) p (s.cursor.advance height).2 >>= _) = _
    rw [vestingPayments_eq p hfirst]
    show _ = Except.mapError Fault.product (poolPayments p s.provisions >>= _)
    cases poolPayments p s.provisions with
    | error cause => rfl
    | ok pools => rfl

end Guarded

/-- **Nothing goes wrong in a block.** With valid parameters, a block at any height and from any
state has its emission, whatever the provisions and the counters of the state are: no decimal
product is without a representation, nothing is divided by zero, no word comes after the greatest
one, and the months that are visited are those of the vesting table at most. -/
theorem faultless_processBlock (hp : p.validate = .ok ()) (height : UInt64) (st : EmissionState) :
    ∃ e, Guarded.processBlock (scheduleLength p.receivers) height p st = .ok e ∧
      processBlock height p st = .ok e := by
  obtain ⟨e, he⟩ := exists_processBlock hp height st
  refine ⟨e, ?_, he⟩
  rw [Guarded.processBlock_eq, he]
  rfl

/-- Parameters with a table of three months and a reduction in every block. -/
def threeMonthTable : Params :=
  { Params.standard with
    reductionPeriod := 1
    receivers := [⟨.ofModule mintModule, [1, 10, 100]⟩] }

/-- The negative provisions of the greatest magnitude, and months of one block. -/
def farBehind : EmissionState :=
  ⟨(Decimal.mk? (-79228162514264337593543950335) 0).getD .zero, 1, ⟨1, 0, 1⟩⟩

/-- The range of months ends at the greatest word, and two months of it are visited. -/
theorem faultless_processBlock_farBehind : ∃ e,
    Guarded.processBlock 3 Word.greatest threeMonthTable farBehind = .ok e ∧
    processBlock Word.greatest threeMonthTable farBehind = .ok e ∧
    e.state.cursor.months = Word.greatest ∧ e.payments.length = 2 := by
  have hvalid : threeMonthTable.validate = .ok () := by decide +kernel
  obtain ⟨e, hguarded, he⟩ := faultless_processBlock hvalid Word.greatest farBehind
  have houtcome : (processBlock Word.greatest threeMonthTable farBehind).toOption.all
      fun e ↦ e.state.cursor.months = Word.greatest ∧ e.payments.length = 2 := by
    decide +kernel
  rw [he] at houtcome
  exact ⟨e, hguarded, he, of_decide_eq_true houtcome⟩

end Tokenomics

import Tokenomics.Mint.Params
import Tokenomics.Word

/-!
# Monthly vesting

Developers are paid by a table that is read by the month. Months are counted from 1 by a cursor
that follows the height: it is set when vesting begins, and from then on every full period opens
another month, each at its exact boundary however late the cursor is moved.
-/

namespace Tokenomics

/-! ## The table -/

namespace Receiver

/-- What is owed for a month; nothing outside the table. -/
def amountFor (r : Receiver) (month : UInt64) : Amount :=
  if month = 0 then .zero
  else match r.monthlyAmounts[month.toNat - 1]? with
    | some n => .ofUInt64 n
    | none => .zero

/-- What is owed in all. -/
def total (r : Receiver) : Amount := .total (r.monthlyAmounts.map .ofUInt64)

end Receiver

/-- The last month for which the table holds anything. -/
def scheduleLength (receivers : List Receiver) : Nat :=
  (receivers.map (·.monthlyAmounts.length)).foldl max 0

/-! ## The cursor -/

/-- Where the chain stands in the vesting table. -/
structure MonthCursor where
  /-- The current month; zero before vesting has begun. -/
  months : UInt64
  /-- The height at which the current month began, once vesting has begun. -/
  started : UInt64
  /-- How many blocks a month has. -/
  period : UInt64
deriving DecidableEq, Inhabited

/-- The months from `first` to `last`; none when `last` is the smaller. -/
structure MonthRange where
  first : UInt64
  last : UInt64
deriving DecidableEq, Inhabited

namespace MonthRange

/-- Whether there is no month in the range. -/
def isEmpty (r : MonthRange) : Bool := r.last < r.first

/-- The months of the range up to month `bound`, in ascending order. -/
def upTo (r : MonthRange) (bound : Nat) : List UInt64 :=
  (List.range' r.first.toNat (min r.last.toNat bound + 1 - r.first.toNat)).map UInt64.ofNat

end MonthRange

namespace MonthCursor

/-- The cursor before vesting has begun, a month having a twelfth of a year of blocks. -/
def standard : MonthCursor := ⟨0, 0, 525600⟩

/-- Accept a cursor whose months have blocks. -/
def validate (c : MonthCursor) : Except ParamsError Unit :=
  if c.period = 0 then .error .zeroMonthPeriod else .ok ()

/-- How many full periods have passed since the current month began. -/
def elapsed (c : MonthCursor) (height : UInt64) : UInt64 :=
  if c.period = 0 then 0 else Word.sub height c.started / c.period

/-- The cursor moved to a height. -/
def moveTo (c : MonthCursor) (height : UInt64) : MonthCursor :=
  if c.months = 0 then { c with months := 1, started := height }
  else
    let n := c.elapsed height
    { c with months := Word.add c.months n, started := Word.add c.started (Word.mul n c.period) }

/-- The cursor moved to a height, and the months entered on the way. Setting the cursor enters
month 1. At the greatest month the range still holds that month. -/
def advance (c : MonthCursor) (height : UInt64) : MonthCursor × MonthRange :=
  let next := c.moveTo height
  (next, ⟨if c.months = 0 then 1 else Word.add c.months 1, next.months⟩)

end MonthCursor

instance : Codec MonthCursor where
  encode c := .record [("months_since_genesis", Codec.encode c.months),
    ("month_started_block", Codec.encode c.started),
    ("one_month_period_in_blocks", Codec.encode c.period)]
  decode? d := do
    let [some months, some started, some period] ← d.fields?
      ["months_since_genesis", "month_started_block", "one_month_period_in_blocks"] | none
    return ⟨← Codec.decode? months, ← Codec.decode? started, ← Codec.decode? period⟩

end Tokenomics

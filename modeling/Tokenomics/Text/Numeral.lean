/-!
# Decimal numerals

Natural numbers written with the ten ASCII digits. `digits` writes a number without leading
zeros, `value` reads any run of digits, and `value_digits` says that reading undoes writing.
`unsigned?` is the form that settings, flags and exponents use: an optional plus sign, then at
least one digit, the number below a bound.
-/

namespace Tokenomics.Numeral

/-- The number that a digit character stands for. -/
def digitValue (c : Char) : Nat := c.toNat - '0'.toNat

/-- The digits of `n`, most significant first; zero is written `0`. -/
def digits (n : Nat) : List Char := Nat.toDigits 10 n

/-- The number that a run of digits stands for when `n` has been read before it. -/
def valueFrom (n : Nat) : List Char → Nat
  | [] => n
  | c :: cs => valueFrom (10 * n + digitValue c) cs

/-- The number that a run of digits stands for. -/
def value (cs : List Char) : Nat := valueFrom 0 cs

/-- A nonempty run of digits as a number. -/
def natural? (cs : List Char) : Option Nat :=
  if !cs.isEmpty && cs.all Char.isDigit then some (value cs) else none

/-- A nonempty run of digits after an optional plus sign, as a number below `bound`. -/
def unsigned? (bound : Nat) (cs : List Char) : Option Nat :=
  let body := match cs with
    | '+' :: rest => rest
    | _ => cs
  (natural? body).filter (· < bound)

/-- The numeral of `n` as a string. -/
def text (n : Nat) : String := String.ofList (digits n)

theorem digitValue_digitChar {d : Nat} (h : d < 10) : digitValue (Nat.digitChar d) = d := by
  match d, h with
  | 0, _ | 1, _ | 2, _ | 3, _ | 4, _ | 5, _ | 6, _ | 7, _ | 8, _ | 9, _ => rfl

theorem valueFrom_append (n : Nat) (cs ds : List Char) :
    valueFrom n (cs ++ ds) = valueFrom (valueFrom n cs) ds := by
  induction cs generalizing n with
  | nil => rfl
  | cons c cs ih => exact ih _

theorem digits_of_lt {n : Nat} (h : n < 10) : digits n = [Nat.digitChar n] :=
  Nat.toDigits_of_lt_base h

theorem digits_of_le {n : Nat} (h : 10 ≤ n) :
    digits n = digits (n / 10) ++ [Nat.digitChar (n % 10)] :=
  Nat.toDigits_of_base_le (by omega) h

theorem value_append_singleton (cs : List Char) (c : Char) :
    value (cs ++ [c]) = 10 * value cs + digitValue c :=
  valueFrom_append 0 cs [c]

/-- Reading undoes writing. -/
theorem value_digits (n : Nat) : value (digits n) = n := by
  induction n using Nat.strongRecOn with
  | _ n ih =>
    rcases Nat.lt_or_ge n 10 with h | h
    · have hc := value_append_singleton [] (Nat.digitChar n)
      rw [digitValue_digitChar h] at hc
      rw [digits_of_lt h]
      exact hc.trans (Nat.zero_add n)
    · have hq := ih (n / 10) (by omega)
      have hr := digitValue_digitChar (d := n % 10) (by omega)
      rw [digits_of_le h, value_append_singleton, hq, hr]
      omega

end Tokenomics.Numeral

import Tokenomics.Powers
import Tokenomics.Text.Numeral

/-!
# What a numeral looks like

Beside reading it back (`Numeral.value_digits`), what readers of numerals rely on: only digits, at
least one, no zero in front of others, and a length that follows the number.
-/

namespace Tokenomics.Numeral

theorem valueFrom_nil (n : Nat) : valueFrom n [] = n := rfl

theorem valueFrom_cons (n : Nat) (c : Char) (cs : List Char) :
    valueFrom n (c :: cs) = valueFrom (10 * n + digitValue c) cs :=
  valueFrom_append n [c] cs

/-- More digits never make less of a number. -/
theorem le_valueFrom (n : Nat) (cs : List Char) : n ≤ valueFrom n cs := by
  induction cs generalizing n with
  | nil => exact Nat.le_refl n
  | cons c cs ih =>
    have h := ih (10 * n + digitValue c)
    rw [valueFrom_cons]
    omega

theorem valueFrom_replicate_zero (k : Nat) (cs : List Char) :
    valueFrom 0 (List.replicate k '0' ++ cs) = valueFrom 0 cs := by
  induction k with
  | zero => rfl
  | succ k ih => exact ih

theorem isDigit_of_mem_digits {n : Nat} {c : Char} (h : c ∈ digits n) : c.isDigit = true :=
  Nat.isDigit_of_mem_toDigits (by decide) (by decide) h

theorem digits_ne_nil (n : Nat) : digits n ≠ [] := Nat.toDigits_ne_nil

theorem length_digits_le {n k : Nat} (hk : 0 < k) : (digits n).length ≤ k ↔ n < tenPow k :=
  Nat.length_toDigits_le_iff (by decide) hk

/-- Only zero itself starts with a zero. -/
theorem length_digits_of_head?_eq_zero {n : Nat} (h : (digits n).head? = some '0') :
    (digits n).length = 1 := by
  -- the first digit of a number is the first digit of its tenth
  induction n using Nat.strongRecOn with
  | _ n ih =>
    rcases Nat.lt_or_ge n 10 with hn | hn
    · rw [digits_of_lt hn]
      rfl
    · have hhead : (digits (n / 10)).head? = some '0' := by
        obtain ⟨c, cs, hcs⟩ := List.exists_cons_of_ne_nil (digits_ne_nil (n / 10))
        rw [digits_of_le hn, hcs] at h
        rw [hcs]
        exact h
      have hone := ih (n / 10) (by omega) hhead
      have hzero : n / 10 < 10 := (length_digits_le (k := 1) (by decide)).mp (Nat.le_of_eq hone)
      rw [digits_of_lt hzero, List.head?_cons, Option.some.injEq, Nat.digitChar_eq_zero] at hhead
      omega

section Runs

variable {ds cs : List Char}

/-- A run of digits ends where something else begins. -/
theorem takeWhile_isDigit_append (hds : ∀ c ∈ ds, c.isDigit = true)
    (hcs : ∀ c, cs.head? = some c → c.isDigit = false) :
    (ds ++ cs).takeWhile Char.isDigit = ds := by
  rw [List.takeWhile_append_of_pos hds]
  cases cs with
  | nil => rw [List.takeWhile_nil, List.append_nil]
  | cons c cs =>
    rw [List.takeWhile_cons_of_neg (by rw [hcs c rfl]; exact Bool.false_ne_true), List.append_nil]

theorem dropWhile_isDigit_append (hds : ∀ c ∈ ds, c.isDigit = true)
    (hcs : ∀ c, cs.head? = some c → c.isDigit = false) :
    (ds ++ cs).dropWhile Char.isDigit = cs := by
  rw [List.dropWhile_append_of_pos hds]
  cases cs with
  | nil => rfl
  | cons c cs =>
    exact List.dropWhile_cons_of_neg (by rw [hcs c rfl]; exact Bool.false_ne_true)

theorem natural?_eq_some {n : Nat} :
    natural? ds = some n ↔ ds ≠ [] ∧ (∀ c ∈ ds, c.isDigit = true) ∧ value ds = n := by
  rw [natural?]
  split
  · rename_i h
    rw [Bool.and_eq_true, Bool.not_eq_true', List.isEmpty_eq_false_iff, List.all_eq_true] at h
    rw [Option.some.injEq]
    exact ⟨fun hvalue ↦ ⟨h.1, h.2, hvalue⟩, fun hread ↦ hread.2.2⟩
  · rename_i h
    refine iff_of_false nofun fun ⟨hne, hall, _⟩ ↦ h ?_
    rw [Bool.and_eq_true, Bool.not_eq_true', List.isEmpty_eq_false_iff, List.all_eq_true]
    exact ⟨hne, hall⟩

end Runs

theorem takeWhile_digits_append {n : Nat} {cs : List Char}
    (h : ∀ c, cs.head? = some c → c.isDigit = false) :
    (digits n ++ cs).takeWhile Char.isDigit = digits n :=
  takeWhile_isDigit_append (fun _ hc ↦ isDigit_of_mem_digits hc) h

theorem dropWhile_digits_append {n : Nat} {cs : List Char}
    (h : ∀ c, cs.head? = some c → c.isDigit = false) :
    (digits n ++ cs).dropWhile Char.isDigit = cs :=
  dropWhile_isDigit_append (fun _ hc ↦ isDigit_of_mem_digits hc) h

end Tokenomics.Numeral

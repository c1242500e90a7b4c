import Tokenomics.Proofs.Mint.CatchUp

/-!
# Months entered one by one

A cursor that is late divides once to find out how many months have passed. The rule that it
follows is a loop: as long as a whole month has passed since the current one began, the next month
is entered, and it begins exactly where the current one ends. `CatchesUp` is that loop, as the
relation between the cursor before it, the months it enters and the cursor after it. Its additions
are those of numbers: a run of the loop in which a counter would not fit into a word is none.

The loop goes one way only (`CatchesUp.unique`), and there is a run of it as long as the months can
be counted (`exists_catchesUp`), by induction on the number of months that have passed: entering
one leaves one less. No boundary lies past the height, so none of them is too large for a word. The
cursor that divides ends where the loop ends and gives the months that the loop enters
(`advance_catchesUp`).
-/

namespace Tokenomics

/-- All months of a range, in ascending order. -/
def MonthRange.toList (r : MonthRange) : List UInt64 := r.upTo r.last.toNat

namespace MonthCursor

variable {c c₁ c₂ d d' : MonthCursor} {height : UInt64} {months months' : List UInt64}

/-! ## The loop -/

/-- The cursor in the next month, which is one more and begins a whole month later. -/
structure Follows (c c₁ : MonthCursor) : Prop where
  months : c₁.months.toNat = c.months.toNat + 1
  started : c₁.started.toNat = c.started.toNat + c.period.toNat
  period_eq : c₁.period = c.period

/-- The loop at a height: from one cursor it enters some months in turn and stops at another. -/
inductive CatchesUp (height : UInt64) : MonthCursor → List UInt64 → MonthCursor → Prop
  | stop {c : MonthCursor} (h : Word.sub height c.started < c.period) : CatchesUp height c [] c
  | enter {c c₁ d : MonthCursor} {months : List UInt64}
      (h : c.period ≤ Word.sub height c.started) (hnext : Follows c c₁)
      (hrest : CatchesUp height c₁ months d) : CatchesUp height c (c₁.months :: months) d

theorem Follows.unique (h₁ : Follows c c₁) (h₂ : Follows c c₂) : c₁ = c₂ :=
  ext_toNat (h₁.months.trans h₂.months.symm) (h₁.started.trans h₂.started.symm)
    (h₁.period_eq.trans h₂.period_eq.symm)

/-- The loop goes one way only. -/
theorem CatchesUp.unique (h : CatchesUp height c months d) (h' : CatchesUp height c months' d') :
    months = months' ∧ d = d' := by
  induction h generalizing months' with
  | stop hstop =>
    cases h' with
    | stop => exact ⟨rfl, rfl⟩
    | enter henter => exact absurd hstop (UInt64.not_lt.mpr henter)
  | enter henter hnext _ ih =>
    cases h' with
    | stop hstop => exact absurd hstop (UInt64.not_lt.mpr henter)
    | enter _ hnext' hrest' =>
      obtain rfl := hnext.unique hnext'
      obtain ⟨rfl, rfl⟩ := ih hrest'
      exact ⟨rfl, rfl⟩

/-- The loop stops in a month that has not passed. -/
theorem CatchesUp.lt_period (h : CatchesUp height c months d) :
    Word.sub height d.started < d.period := by
  induction h with
  | stop hstop => exact hstop
  | enter _ _ _ ih => exact ih

/-- The loop enters no month exactly when none has passed. -/
theorem CatchesUp.eq_nil_iff (h : CatchesUp height c months d) :
    months = [] ↔ Word.sub height c.started < c.period := by
  cases h with
  | stop hstop => exact iff_of_true rfl hstop
  | enter henter => exact iff_of_false (List.cons_ne_nil _ _) (UInt64.not_lt.mpr henter)

/-- Every month that is entered moves the boundary by a whole month. -/
theorem CatchesUp.started_eq (h : CatchesUp height c months d) :
    d.started.toNat = c.started.toNat + months.length * c.period.toNat := by
  induction h with
  | stop => rw [List.length_nil, Nat.zero_mul, Nat.add_zero]
  | enter _ hnext _ ih =>
    rw [ih, hnext.started, hnext.period_eq, List.length_cons, Nat.succ_mul]
    omega

/-- The month after one that has passed begins at the height at the latest. -/
theorem exists_follows (hcount : c.months.toNat + 1 < 1 <<< 64)
    (hpassed : c.period.toNat ≤ height.toNat - c.started.toNat) : ∃ c₁, Follows c c₁ := by
  have hstarted : c.started.toNat + c.period.toNat < 1 <<< 64 := by
    have hbefore := c.started.toNat_lt
    have hheight := height.toNat_lt
    omega
  exact ⟨⟨.ofNat (c.months.toNat + 1), .ofNat (c.started.toNat + c.period.toNat), c.period⟩,
    UInt64.toNat_ofNat_of_lt hcount, UInt64.toNat_ofNat_of_lt hstarted, rfl⟩

/-- Entering a month leaves one less to be entered. -/
theorem Follows.passed (h : Follows c c₁) :
    (height.toNat - c₁.started.toNat) / c₁.period.toNat
      = (height.toNat - c.started.toNat) / c.period.toNat - 1 := by
  have hcounted := periods_eq c.started.toNat 1 height.toNat c.period.toNat
  rw [Nat.one_mul] at hcounted
  rw [h.started, h.period_eq]
  exact hcounted

/-- The loop runs to its end as long as the months it enters can be counted: as many as have
passed. -/
theorem exists_catchesUp {n : Nat} (hperiod : c.period ≠ 0)
    (hn : (height.toNat - c.started.toNat) / c.period.toNat = n)
    (hcount : c.months.toNat + n < 1 <<< 64) : ∃ d,
      CatchesUp height c ((List.range' (c.months.toNat + 1) n).map UInt64.ofNat) d ∧
      d.months.toNat = c.months.toNat + n ∧
      d.started.toNat = c.started.toNat + n * c.period.toNat ∧ d.period = c.period := by
  have hpos : 0 < c.period.toNat :=
    Nat.pos_of_ne_zero fun hzero ↦ hperiod (UInt64.toNat_inj.mp hzero)
  induction n generalizing c with
  | zero =>
    have hlt : Word.sub height c.started < c.period := by
      rw [UInt64.lt_iff_toNat_lt, Word.toNat_sub]
      exact Nat.lt_of_div_eq_zero hpos hn
    exact ⟨c, .stop hlt, rfl, by rw [Nat.zero_mul, Nat.add_zero], rfl⟩
  | succ n ih =>
    have hpassed : c.period.toNat ≤ height.toNat - c.started.toNat := by
      by_contra hlt
      rw [Nat.div_eq_of_lt (Nat.lt_of_not_le hlt)] at hn
      exact nomatch hn
    have hentered : c.period ≤ Word.sub height c.started := by
      rw [UInt64.le_iff_toNat_le, Word.toNat_sub]
      exact hpassed
    obtain ⟨c₁, hnext⟩ := exists_follows (by omega) hpassed
    have hleft : (height.toNat - c₁.started.toNat) / c₁.period.toNat = n := by
      rw [hnext.passed, hn, Nat.add_sub_cancel]
    have hmonths := hnext.months
    have hstarted := hnext.started
    have hperiod₁ := hnext.period_eq
    obtain ⟨d, hrest, hmonths', hstarted', hperiod'⟩ :=
      ih (c := c₁) (hperiod₁ ▸ hperiod) hleft (by omega) (hperiod₁ ▸ hpos)
    refine ⟨d, ?_, by omega, ?_, hperiod'.trans hperiod₁⟩
    · rw [List.range'_succ, List.map_cons, ← hmonths, UInt64.ofNat_toNat]
      exact .enter hentered hnext hrest
    · rw [hstarted', hstarted, hperiod₁, Nat.succ_mul]
      omega

/-! ## The division -/

/-- What is promised of a cursor that is moved to a height and of the months that are given with
it. -/
structure AdvancesByLoop (c : MonthCursor) (height : UInt64) (d : MonthCursor) (r : MonthRange) :
    Prop where
  /-- The loop enters the months of the range and stops at the cursor. -/
  loop : CatchesUp height c r.toList d
  /-- It does nothing else. -/
  only : ∀ months d', CatchesUp height c months d' → months = r.toList ∧ d' = d
  isEmpty_iff : r.isEmpty = true ↔ Word.sub height c.started < c.period
  /-- The month that the cursor is in has not passed. -/
  current : Word.sub height d.started < d.period
  started_le : c.started ≤ d.started
  started_eq : d.started.toNat = c.started.toNat + r.toList.length * c.period.toNat
  /-- There is nothing to be entered a second time. -/
  again : (d.advance height).1 = d ∧ (d.advance height).2.isEmpty = true

/-- A range holds no month exactly when it is empty. -/
theorem toList_eq_nil_iff (r : MonthRange) : r.toList = [] ↔ r.isEmpty = true := by
  rw [MonthRange.toList, MonthRange.upTo, Nat.min_self, List.map_eq_nil_iff,
    List.range'_eq_nil_iff, MonthRange.isEmpty, decide_eq_true_eq, UInt64.lt_iff_toNat_lt]
  omega

/-- A cursor that is set and does not count up to the greatest month enters the months of the
loop. -/
theorem catchesUp_advance (hset : c.months ≠ 0) (hperiod : c.period ≠ 0)
    (hbelow : (c.advance height).1.months < Word.greatest) :
    CatchesUp height c (c.advance height).2.toList (c.advance height).1 := by
  have hmoved : (c.moveTo height).months.toNat < 1 <<< 64 - 1 := UInt64.lt_iff_toNat_lt.mp hbelow
  obtain ⟨hmonths, hstarted⟩ := toNat_moveTo hset hperiod height
  have hrange := upTo_advance c height hmoved
  generalize hn : (height.toNat - c.started.toNat) / c.period.toNat = n at hmonths hstarted
  obtain ⟨d, hloop, hmonths', hstarted', hperiod'⟩ := exists_catchesUp hperiod hn (by omega)
  have hcursor : d = c.moveTo height := by
    refine ext_toNat ?_ (hstarted'.trans hstarted.symm) (hperiod'.trans (period_moveTo c _).symm)
    omega
  have hcount : (c.moveTo height).months.toNat - c.months.toNat = n := by omega
  have hentered : (c.advance height).2.toList
      = (List.range' (c.months.toNat + 1) n).map UInt64.ofNat :=
    hrange.trans (by rw [Nat.min_self, hcount])
  have hreached : (c.advance height).1 = d := hcursor.symm
  rw [hentered, hreached]
  exact hloop

/-- **Dividing once comes to entering the months one by one**, for a cursor that is set, has months
with blocks and does not count up to the greatest month. -/
theorem advance_catchesUp (hset : c.months ≠ 0) (hperiod : c.period ≠ 0)
    (hbelow : (c.advance height).1.months < Word.greatest) :
    AdvancesByLoop c height (c.advance height).1 (c.advance height).2 := by
  have hloop := catchesUp_advance hset hperiod hbelow
  constructor
  case loop => exact hloop
  case only =>
    intro months d' h
    exact h.unique hloop
  case isEmpty_iff =>
    rw [← toList_eq_nil_iff]
    exact hloop.eq_nil_iff
  case current => exact hloop.lt_period
  case started_le =>
    rw [UInt64.le_iff_toNat_le, hloop.started_eq]
    exact Nat.le_add_right _ _
  case started_eq => exact hloop.started_eq
  case again =>
    refine ⟨moveTo_self hperiod height, ?_⟩
    have hfirst := toNat_first_advance (c.advance height).1 height
    have hlast : ((c.advance height).1.advance height).2.last = (c.advance height).1.months :=
      congrArg MonthCursor.months (moveTo_self hperiod height)
    have hlt : (c.advance height).1.months.toNat < 1 <<< 64 - 1 :=
      UInt64.lt_iff_toNat_lt.mp hbelow
    rw [MonthRange.isEmpty, decide_eq_true_eq, UInt64.lt_iff_toNat_lt, hlast, hfirst]
    omega

/-- A cursor a few months and blocks before the greatest words. -/
def nearTheEnd : MonthCursor := ⟨Word.greatest - 3, Word.greatest - 250, 100⟩

/-- Two months are entered before the greatest height, the last but one of all months among them. -/
theorem advance_catchesUp_nearTheEnd : nearTheEnd.months ≠ 0 ∧ nearTheEnd.period ≠ 0 ∧
    (nearTheEnd.advance Word.greatest).1.months < Word.greatest ∧
    CatchesUp Word.greatest nearTheEnd [Word.greatest - 2, Word.greatest - 1]
      ⟨Word.greatest - 1, Word.greatest - 50, 100⟩ := by
  have hset : nearTheEnd.months ≠ 0 := by decide
  have hperiod : nearTheEnd.period ≠ 0 := by decide
  have hbelow : (nearTheEnd.advance Word.greatest).1.months < Word.greatest := by decide +kernel
  have hentered : (nearTheEnd.advance Word.greatest).2.toList
      = [Word.greatest - 2, Word.greatest - 1] := by decide +kernel
  have hcursor : (nearTheEnd.advance Word.greatest).1
      = ⟨Word.greatest - 1, Word.greatest - 50, 100⟩ := by decide +kernel
  have hloop := (advance_catchesUp hset hperiod hbelow).loop
  rw [hentered, hcursor] at hloop
  exact ⟨hset, hperiod, hbelow, hloop⟩

end MonthCursor

end Tokenomics

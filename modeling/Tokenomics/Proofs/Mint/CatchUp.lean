import Tokenomics.Proofs.Mint.Provisions

/-!
# Months that catch up

A cursor that is moved late enters all months that have passed, and each begins at its exact
boundary. So on the way to a height it does not matter at which lower heights the cursor has been
before (`MonthCursor.moveTo_moveTo`): the next boundary is the same, and counting stops at the
greatest month either way. Only the height at which the cursor is set leaves a trace. Along
heights that do not decrease, what is left of them are the first and the last one
(`MonthCursor.foldl_moveTo_cons`).

The blocks in between pay for the months they enter. What they pay together is the table read from
the first month to the last (`exists_emissions`), so it does not depend on them either:
`vesting_of_sameEnds`.
-/

namespace Tokenomics

/-! ## Heights in order -/

variable {heights : List UInt64} {height last : UInt64}

theorem le_of_getLast? (hsorted : heights.Pairwise (· ≤ ·)) (hlast : heights.getLast? = some last)
    (h : height ∈ heights) : height ≤ last := by
  obtain ⟨heights, rfl⟩ := List.getLast?_eq_some_iff.mp hlast
  rcases List.mem_append.mp h with h | h
  · exact (List.pairwise_append.mp hsorted).2.2 height h last (List.mem_singleton_self last)
  · rw [List.mem_singleton.mp h]
    exact UInt64.le_refl last

/-- Of the heights from a start on, the last one is the last of all. -/
theorem getLast?_filter_le (hsorted : heights.Pairwise (· ≤ ·)) (start : UInt64) :
    (heights.filter (start ≤ ·)).getLast? = heights.getLast?.filter (start ≤ ·) := by
  cases hlast : heights.getLast? with
  | none =>
    rw [List.getLast?_eq_none_iff.mp hlast]
    rfl
  | some last =>
    by_cases hstart : start ≤ last
    · obtain ⟨heights, rfl⟩ := List.getLast?_eq_some_iff.mp hlast
      simp [Option.filter, hstart]
    · have hnone : heights.filter (start ≤ ·) = [] := by
        rw [List.filter_eq_nil_iff]
        intro height hheight hle
        have hlast' := le_of_getLast? hsorted hlast hheight
        exact hstart (UInt64.le_trans (of_decide_eq_true hle) hlast')
      simp [Option.filter, hnone, hstart]

/-! ## The cursor -/

namespace MonthCursor

variable {c : MonthCursor} {height' : UInt64}

/-- A cursor that is set moves by full periods, from boundary to boundary; only counting stops. -/
theorem toNat_moveTo (hset : c.months ≠ 0) (hperiod : c.period ≠ 0) (height : UInt64) :
    (c.moveTo height).months.toNat = min (c.months.toNat
        + (height.toNat - c.started.toNat) / c.period.toNat) (1 <<< 64 - 1) ∧
      (c.moveTo height).started.toNat = c.started.toNat
        + (height.toNat - c.started.toNat) / c.period.toNat * c.period.toNat := by
  have helapsed : (c.elapsed height).toNat
      = (height.toNat - c.started.toNat) / c.period.toNat := by
    rw [elapsed, if_neg hperiod, UInt64.toNat_div, Word.toNat_sub]
  have hpassed := Nat.div_mul_le_self (height.toNat - c.started.toNat) c.period.toNat
  have hstarted := c.started.toNat_lt
  have hheight := height.toNat_lt
  rw [moveTo, if_neg hset]
  constructor
  · rw [Word.toNat_add, helapsed]
  · -- the boundary is not past the height, so it is a word
    rw [Word.toNat_add, Word.toNat_mul, helapsed]
    omega

theorem moveTo_of_months_eq_zero (hzero : c.months = 0) (height : UInt64) :
    c.moveTo height = ⟨1, height, c.period⟩ := by
  rw [moveTo, if_pos hzero]

@[simp] theorem period_moveTo (c : MonthCursor) (height : UInt64) :
    (c.moveTo height).period = c.period := by
  rw [moveTo]
  split
  · rfl
  · rfl

theorem months_moveTo_ne_zero (c : MonthCursor) (height : UInt64) :
    (c.moveTo height).months ≠ 0 := by
  by_cases hset : c.months = 0
  · rw [moveTo_of_months_eq_zero hset]
    exact (by decide : (1 : UInt64) ≠ 0)
  · intro hzero
    have hle := months_le_moveTo c height
    rw [hzero] at hle
    exact hset (UInt64.toNat_inj.mp (Nat.le_zero.mp hle))

theorem ext_toNat {c d : MonthCursor} (hmonths : c.months.toNat = d.months.toNat)
    (hstarted : c.started.toNat = d.started.toNat) (hperiod : c.period = d.period) : c = d := by
  cases c
  cases d
  rw [mk.injEq]
  exact ⟨UInt64.toNat_inj.mp hmonths, UInt64.toNat_inj.mp hstarted, hperiod⟩

/-- The periods that have passed at a height, some of them counted before. -/
theorem periods_eq (s n h P : Nat) : (h - (s + n * P)) / P = (h - s) / P - n := by
  rw [Nat.sub_add_eq, Nat.mul_comm, Nat.sub_mul_div]

/-- A cursor that is set goes to a height as well by way of a lower one. -/
theorem moveTo_moveTo (hset : c.months ≠ 0) (hperiod : c.period ≠ 0) (hle : height ≤ height') :
    (c.moveTo height).moveTo height' = c.moveTo height' := by
  obtain ⟨hmonths, hstarted⟩ := toNat_moveTo hset hperiod height
  obtain ⟨hmonths', hstarted'⟩ := toNat_moveTo hset hperiod height'
  have hperiod₁ : (c.moveTo height).period ≠ 0 := by rwa [period_moveTo]
  obtain ⟨hmonths₂, hstarted₂⟩ :=
    toNat_moveTo (months_moveTo_ne_zero c height) hperiod₁ height'
  have hpassed : (height.toNat - c.started.toNat) / c.period.toNat
      ≤ (height'.toNat - c.started.toNat) / c.period.toNat :=
    Nat.div_le_div_right (Nat.sub_le_sub_right (UInt64.le_iff_toNat_le.mp hle) _)
  rw [period_moveTo, hstarted, periods_eq] at hmonths₂ hstarted₂
  refine ext_toNat ?_ ?_ ?_
  · rw [hmonths₂, hmonths, hmonths']
    omega
  · rw [hstarted₂, hstarted', Nat.add_assoc, ← Nat.add_mul, Nat.add_sub_cancel' hpassed]
  · rw [period_moveTo, period_moveTo, period_moveTo]

/-- A cursor stays where it is at the same height. -/
theorem moveTo_self (hperiod : c.period ≠ 0) (height : UInt64) :
    (c.moveTo height).moveTo height = c.moveTo height := by
  by_cases hset : c.months = 0
  · rw [moveTo_of_months_eq_zero hset]
    have hone : (1 : UInt64) ≠ 0 := by decide
    obtain ⟨hmonths, hstarted⟩ := toNat_moveTo (c := ⟨1, height, c.period⟩) hone hperiod height
    rw [Nat.sub_self, Nat.zero_div] at hmonths hstarted
    exact ext_toNat hmonths (hstarted.trans (by rw [Nat.zero_mul]; rfl)) (period_moveTo _ _)
  · exact moveTo_moveTo hset hperiod (UInt64.le_refl height)

/-- Of heights that do not decrease, the first and the last one matter. -/
theorem foldl_moveTo_cons {first : UInt64} (hperiod : c.period ≠ 0)
    (hsorted : (first :: heights).Pairwise (· ≤ ·))
    (hlast : (first :: heights).getLast? = some last) :
    (first :: heights).foldl moveTo c = (c.moveTo first).moveTo last := by
  induction heights generalizing c first with
  | nil =>
    obtain rfl : first = last := Option.some.inj hlast
    exact (moveTo_self hperiod first).symm
  | cons second heights ih =>
    obtain ⟨hle, hsorted'⟩ := List.pairwise_cons.mp hsorted
    have hperiod' : (c.moveTo first).period ≠ 0 := by rwa [period_moveTo]
    rw [List.getLast?_cons_cons] at hlast
    have hsecond : second ≤ last := le_of_getLast? hsorted' hlast List.mem_cons_self
    rw [List.foldl_cons, ih hperiod' hsorted' hlast,
      moveTo_moveTo (months_moveTo_ne_zero c first) hperiod' hsecond]

/-- Of heights that do not decrease the last one matters, and the first one to a cursor that has
not been set. -/
theorem foldl_moveTo_congr {heights' : List UInt64} (hperiod : c.period ≠ 0)
    (hsorted : heights.Pairwise (· ≤ ·)) (hsorted' : heights'.Pairwise (· ≤ ·))
    (hlast : heights.getLast? = heights'.getLast?)
    (hhead : c.months = 0 → heights.head? = heights'.head?) :
    heights.foldl moveTo c = heights'.foldl moveTo c := by
  cases heights with
  | nil => rw [List.getLast?_eq_none_iff.mp hlast.symm]
  | cons first heights =>
    cases heights' with
    | nil => exact absurd (List.getLast?_eq_none_iff.mp hlast) (List.cons_ne_nil _ _)
    | cons first' heights' =>
      obtain ⟨last, hend⟩ : ∃ last, (first :: heights).getLast? = some last := ⟨_, rfl⟩
      have hend' := hlast.symm.trans hend
      rw [foldl_moveTo_cons hperiod hsorted hend, foldl_moveTo_cons hperiod hsorted' hend']
      by_cases hset : c.months = 0
      · rw [Option.some.inj (hhead hset)]
      · rw [moveTo_moveTo hset hperiod (le_of_getLast? hsorted hend List.mem_cons_self),
          moveTo_moveTo hset hperiod (le_of_getLast? hsorted' hend' List.mem_cons_self)]

/-- A cursor that has been set at a height, as it stands at a later one. -/
structure StandsSince (c : MonthCursor) (first last period : UInt64) : Prop where
  months : c.months.toNat
    = min (1 <<< 64 - 1) (1 + (last.toNat - first.toNat) / period.toNat)
  started : c.started.toNat
    = first.toNat + (last.toNat - first.toNat) / period.toNat * period.toNat
  period_eq : c.period = period

theorem standsSince_moveTo (hzero : c.months = 0) (hperiod : c.period ≠ 0) (first last : UInt64) :
    ((c.moveTo first).moveTo last).StandsSince first last c.period := by
  have hone : (1 : UInt64) ≠ 0 := by decide
  rw [moveTo_of_months_eq_zero hzero]
  obtain ⟨hmonths, hstarted⟩ := toNat_moveTo (c := ⟨1, first, c.period⟩) hone hperiod last
  exact ⟨hmonths.trans (Nat.min_comm _ _), hstarted, period_moveTo _ _⟩

end MonthCursor

/-! ## The blocks -/

variable {p : Params} {st : EmissionState} {e : Emission}

theorem cursor_processBlock (h : processBlock height p st = .ok e) : e.state.cursor
    = if p.startBlock ≤ height then st.cursor.moveTo height else st.cursor := by
  obtain ⟨hstart, rfl⟩ | ⟨hstart, st₁, reduced, pools, hst₁, -, rfl⟩ := processBlock_eq_ok.mp h
  · rw [if_neg (UInt64.not_le.mpr hstart)]
  · rw [if_pos (UInt64.not_lt.mp hstart), ← cursor_applyReduction hst₁]

/-- What blocks at any heights come to: all of them can be processed, the cursor follows the heights
from the start block on, and the blocks pay for the months it enters. -/
theorem exists_emissions (hp : p.validate = .ok ())
    (hschedule : scheduleLength p.receivers < 1 <<< 64 - 1) (st : EmissionState)
    (heights : List UInt64) : ∃ es final, emissions p st heights = .ok (es, final) ∧
      final.cursor = (heights.filter (p.startBlock ≤ ·)).foldl MonthCursor.moveTo st.cursor ∧
      st.cursor.months.toNat ≤ final.cursor.months.toNat ∧
      es.flatMap Emission.vesting
        = vestingDue p st.cursor.months.toNat final.cursor.months.toNat := by
  induction heights generalizing st with
  | nil => exact ⟨[], st, rfl, rfl, Nat.le_refl _, (vestingDue_self p _).symm⟩
  | cons height heights ih =>
    obtain ⟨e, he⟩ := exists_processBlock hp height st
    obtain ⟨hle, hvesting⟩ := vesting_processBlock hschedule he
    obtain ⟨es, final, hes, hcursor, hle', hvesting'⟩ := ih e.state
    refine ⟨e :: es, final, Keeper.emissions_cons_eq_ok.mpr ⟨e, es, rfl, he, hes⟩, ?_,
      Nat.le_trans hle hle', ?_⟩
    · rw [hcursor, cursor_processBlock he, List.filter_cons]
      by_cases hstart : p.startBlock ≤ height
      · rw [if_pos hstart, if_pos (decide_eq_true hstart), List.foldl_cons]
      · rw [if_neg hstart, if_neg (by rwa [decide_eq_true_eq])]
    · rw [List.flatMap_cons, hvesting, hvesting', vestingDue_append p hle hle']

/-- **Vesting does not depend on which blocks are processed.** Along any two lists of heights that
do not decrease, end alike and, as long as the cursor has not been set, have the same first height
at which it is set, the cursor ends alike and the developers get the same payments in the same
order. Where the cursor was set on the way, it stands where the periods since then have taken
it. -/
theorem vesting_of_sameEnds {heights heights' : List UInt64} (hp : p.validate = .ok ())
    (hschedule : scheduleLength p.receivers < 1 <<< 64 - 1) (hperiod : st.cursor.period ≠ 0)
    (hsorted : heights.Pairwise (· ≤ ·)) (hsorted' : heights'.Pairwise (· ≤ ·))
    (hlast : heights.getLast? = heights'.getLast?)
    (hfirst : st.cursor.months = 0 →
      heights.find? (p.startBlock ≤ ·) = heights'.find? (p.startBlock ≤ ·)) :
    ∃ es final es' final', emissions p st heights = .ok (es, final) ∧
      emissions p st heights' = .ok (es', final') ∧
      final.cursor = final'.cursor ∧
      es.flatMap Emission.vesting = es'.flatMap Emission.vesting ∧
      ∀ first last, st.cursor.months = 0 → heights.find? (p.startBlock ≤ ·) = some first →
        heights.getLast? = some last →
        final.cursor.StandsSince first last st.cursor.period := by
  obtain ⟨es, final, hes, hcursor, -, hvesting⟩ := exists_emissions hp hschedule st heights
  obtain ⟨es', final', hes', hcursor', -, hvesting'⟩ := exists_emissions hp hschedule st heights'
  have hsorted₁ := hsorted.filter (p.startBlock ≤ ·)
  have heq : final.cursor = final'.cursor := by
    rw [hcursor, hcursor']
    refine MonthCursor.foldl_moveTo_congr hperiod hsorted₁ (hsorted'.filter _) ?_ fun hzero ↦ ?_
    · rw [getLast?_filter_le hsorted, getLast?_filter_le hsorted', hlast]
    · rw [List.head?_filter, List.head?_filter, hfirst hzero]
  refine ⟨es, final, es', final', hes, hes', heq, by rw [hvesting, hvesting', heq],
    fun first last hzero hhead hend ↦ ?_⟩
  have hfound := List.find?_some hhead
  have hstart : p.startBlock ≤ last := UInt64.le_trans (of_decide_eq_true hfound)
    (le_of_getLast? hsorted hend (List.mem_of_find?_eq_some hhead))
  have hend₁ : (heights.filter (p.startBlock ≤ ·)).getLast? = some last := by
    rw [getLast?_filter_le hsorted, hend]
    simp [Option.filter, hstart]
  rw [← List.head?_filter] at hhead
  obtain ⟨rest, hfilter⟩ := List.head?_eq_some_iff.mp hhead
  rw [hfilter] at hsorted₁ hend₁
  rw [hcursor, hfilter, MonthCursor.foldl_moveTo_cons hperiod hsorted₁ hend₁]
  exact MonthCursor.standsSince_moveTo hzero hperiod first last

/-- Parameters with a table of four months. -/
def fourMonths : Params :=
  { Params.standard with receivers := [⟨.ofModule mintModule, [1, 10, 100, 1000]⟩] }

/-- A state before vesting, with months of a hundred blocks. -/
def hundredBlocks : EmissionState := ⟨.zero, 0, ⟨0, 0, 100⟩⟩

/-- Two blocks pay for four months, and so do five. -/
theorem vesting_of_sameEnds_skipped : ∃ es final es' final',
    emissions fourMonths hundredBlocks [5, 350] = .ok (es, final) ∧
    emissions fourMonths hundredBlocks [5, 104, 105, 105, 350] = .ok (es', final') ∧
    es.flatMap Emission.vesting = es'.flatMap Emission.vesting ∧
    final.cursor.months.toNat = 4 ∧ final.cursor.started.toNat = 305 := by
  have hvalid : fourMonths.validate = .ok () := by decide +kernel
  have hschedule : scheduleLength fourMonths.receivers < 1 <<< 64 - 1 := by decide +kernel
  have hperiod : hundredBlocks.cursor.period ≠ 0 := by decide
  have hlast : [5, 350].getLast? = ([5, 104, 105, 105, 350] : List UInt64).getLast? := rfl
  obtain ⟨es, final, es', final', hes, hes', -, hvesting, hstands⟩ :=
    vesting_of_sameEnds hvalid hschedule hperiod (by decide) (by decide) hlast fun _ ↦ rfl
  obtain ⟨hmonths, hstarted, -⟩ := hstands 5 350 rfl rfl rfl
  exact ⟨es, final, es', final', hes, hes', hvesting, hmonths, hstarted⟩

end Tokenomics

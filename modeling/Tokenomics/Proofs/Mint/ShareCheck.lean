import Tokenomics.Proofs.Mint.Validation

/-!
# The check of the shares is exact

The shares are added up in decimals, and a sum of decimals that has too many digits is rounded. Yet
whether the sum is one is found out exactly, at whatever scales the shares are given. A sum gives up
a place only when it is seven or more, and then it stays there, whatever is added to it: so a sum
that is found to be one has not been rounded on the way, and shares that come to one exactly are
never rounded either (`Decimal.sum_sameValue_one_iff`).

`Shares.check_exact` says what a check that has an answer gives: which shares are accepted, which
pool is named otherwise, and which sum when there is no pool to be named.
-/

namespace Tokenomics

namespace Decimal

variable {l : List Decimal} {c : Decimal}

/-- A sum is exact, or large. -/
theorem value_sum (hl : ∀ b ∈ l, 0 ≤ b.value) (h : sum l = .ok c) :
    c.value = (l.map value).sum ∨ 7 ≤ c.value := by
  have hadded := value_foldlM_add hl value_zero.ge h
  rwa [value_zero, zero_add] at hadded

/-- **Whether a sum is one is found out exactly**, for as many decimals as could not be rounded up
to seven from one. -/
theorem sum_sameValue_one_iff (hl : ∀ b ∈ l, 0 ≤ b.value) (hlength : l.length < 12) :
    (∃ c, sum l = .ok c ∧ c.SameValue one) ↔ (l.map value).sum = 1 := by
  constructor
  · rintro ⟨c, hc, hone⟩
    exact value_sum_of_sameValue_one hl hc hone
  · intro hexact
    have hlength' : (l.length : ℚ) < 12 := by exact_mod_cast hlength
    have hlimit : (7 : ℚ) ≤ limit := by
      have hlarge : (8 : ℚ) ≤ (1 <<< 96 : Nat) := by exact_mod_cast (by decide : 8 ≤ 1 <<< 96)
      rw [limit]
      linarith
    obtain ⟨c, hc⟩ := exists_sum hl (by linarith)
    have hle := (value_foldlM_add_le hl value_zero.ge hc).2
    rw [value_zero] at hle
    refine ⟨c, hc, sameValue_iff.mpr ?_⟩
    rcases value_sum hl hc with heq | hlarge
    · rw [heq, hexact, value_one]
    · -- rounding adds half a unit for each item at most
      linarith

end Decimal

namespace Shares

variable {x : Shares} {pool : Pool} {e : ParamsError} {total : Decimal}

/-! ## What shares may be like -/

/-- No share is negative. -/
def NonNegative (x : Shares) : Prop := ∀ pool, 0 ≤ (x.of pool).value

/-- The sum of the values of all shares. -/
def exactTotal (x : Shares) : ℚ := (x.toList.map Decimal.value).sum

/-- The share of a pool is negative, and none before it, in the order of payment, is. -/
def FirstNegative (x : Shares) (pool : Pool) : Prop :=
  (x.of pool).value < 0 ∧
    ∃ early late, Pool.all = early ++ pool :: late ∧ ∀ other ∈ early, 0 ≤ (x.of other).value

theorem nonNegative_iff : x.NonNegative ↔ ∀ share ∈ x.toList, 0 ≤ share.value := by
  rw [toList, List.forall_mem_map]
  exact ⟨fun h pool _ ↦ h pool, fun h pool ↦ h pool pool.mem_all⟩

theorem checkSign_eq_error :
    x.checkSign pool = .error e ↔ e = .negativeShare pool ∧ (x.of pool).value < 0 := by
  rw [← not_le, ← Decimal.not_lt_zero_iff, not_not, checkSign]
  split
  · rename_i hnegative
    exact ⟨fun h ↦ ⟨(Except.error.inj h).symm, hnegative⟩, fun h ↦ congrArg _ h.1.symm⟩
  · rename_i hnonneg
    exact iff_of_false (by rintro ⟨⟩) fun h ↦ hnonneg h.2

theorem forall_not_lt_zero_iff : (∀ pool ∈ Pool.all, ¬ x.of pool < .zero) ↔ x.NonNegative :=
  (forall₂_congr fun _ _ ↦ Decimal.not_lt_zero_iff).trans
    ⟨fun h pool ↦ h pool pool.mem_all, fun h pool _ ↦ h pool⟩

theorem forM_checkSign_eq_ok : Pool.all.forM x.checkSign = .ok () ↔ x.NonNegative := by
  rw [forM_eq_ok, ← forall_not_lt_zero_iff]
  exact forall₂_congr fun _ _ ↦ checkSign_eq_ok

/-- The signs are looked at in the order of payment. -/
theorem forM_checkSign_eq_error : Pool.all.forM x.checkSign = .error e ↔
    ∃ pool, e = .negativeShare pool ∧ x.FirstNegative pool := by
  have hsign (pool : Pool) : x.checkSign pool = .ok () ↔ 0 ≤ (x.of pool).value :=
    checkSign_eq_ok.trans Decimal.not_lt_zero_iff
  rw [forM_eq_error]
  constructor
  · rintro ⟨early, pool, late, hsplit, hearly, h⟩
    obtain ⟨rfl, hnegative⟩ := checkSign_eq_error.mp h
    exact ⟨pool, rfl, hnegative, early, late, hsplit,
      fun other hother ↦ (hsign other).mp (hearly other hother)⟩
  · rintro ⟨pool, rfl, hnegative, early, late, hsplit, hearly⟩
    exact ⟨early, pool, late, hsplit, fun other hother ↦ (hsign other).mpr (hearly other hother),
      checkSign_eq_error.mpr ⟨rfl, hnegative⟩⟩

/-- Either no share is negative or there is a first one that is. -/
theorem nonNegative_or_firstNegative (x : Shares) :
    x.NonNegative ∨ ∃ pool, x.FirstNegative pool := by
  cases hsigns : Pool.all.forM x.checkSign with
  | ok _ => exact .inl (forM_checkSign_eq_ok.mp hsigns)
  | error e =>
    obtain ⟨pool, -, hfirst⟩ := forM_checkSign_eq_error.mp hsigns
    exact .inr ⟨pool, hfirst⟩

/-! ## What the check gives -/

/-- All that the check of shares turns down. -/
theorem validate_eq_error : x.validate = .error e ↔
    (∃ pool, e = .negativeShare pool ∧ x.FirstNegative pool) ∨
    x.NonNegative ∧ ((∃ cause, e = .arithmetic cause ∧ x.total = .error cause) ∨
      ∃ total, e = .shareSum total ∧ x.total = .ok total ∧ ¬ total.SameValue .one) := by
  rw [validate, check_bind_eq_error, forM_checkSign_eq_error, forM_checkSign_eq_ok]
  refine or_congr Iff.rfl (and_congr_right fun _ ↦ ?_)
  cases x.total with
  | error cause =>
    show (Except.error (.arithmetic cause) : Except ParamsError Unit) = .error e ↔ _
    constructor
    · intro h
      exact .inl ⟨cause, (Except.error.inj h).symm, rfl⟩
    · rintro (⟨cause', rfl, h⟩ | ⟨total, -, h, -⟩)
      · rw [Except.error.inj h]
      · cases h
  | ok total =>
    dsimp only
    split
    · rename_i hone
      refine iff_of_false (by rintro ⟨⟩) ?_
      rintro (⟨cause, -, h⟩ | ⟨total', -, h, hother⟩)
      · cases h
      · exact hother (Except.ok.inj h ▸ hone)
    · rename_i hother
      constructor
      · intro h
        exact .inr ⟨total, (Except.error.inj h).symm, rfl, hother⟩
      · rintro (⟨cause, -, h⟩ | ⟨total', rfl, h, -⟩)
        · cases h
        · rw [Except.ok.inj h]
          rfl

theorem validate_eq_negativeShare :
    x.validate = .error (.negativeShare pool) ↔ x.FirstNegative pool := by
  rw [validate_eq_error]
  constructor
  · rintro (⟨pool', h, hfirst⟩ | ⟨-, ⟨cause, h, -⟩ | ⟨total, h, -⟩⟩)
    · obtain rfl := ParamsError.negativeShare.inj h
      exact hfirst
    · exact nomatch h
    · exact nomatch h
  · intro hfirst
    exact .inl ⟨pool, rfl, hfirst⟩

theorem validate_eq_shareSum : x.validate = .error (.shareSum total) ↔
    x.NonNegative ∧ x.total = .ok total ∧ ¬ total.SameValue .one := by
  rw [validate_eq_error]
  constructor
  · rintro (⟨pool, h, -⟩ | ⟨hnonneg, ⟨cause, h, -⟩ | ⟨total', h, htotal, hother⟩⟩)
    · exact nomatch h
    · exact nomatch h
    · obtain rfl := ParamsError.shareSum.inj h
      exact ⟨hnonneg, htotal, hother⟩
  · rintro ⟨hnonneg, htotal, hother⟩
    exact .inr ⟨hnonneg, .inr ⟨total, rfl, htotal, hother⟩⟩

theorem validate_eq_ok_iff_exactTotal :
    x.validate = .ok () ↔ x.NonNegative ∧ x.exactTotal = 1 := by
  have hlength : x.toList.length < 12 := by
    rw [toList, List.length_map]
    decide
  rw [validate_eq_ok, forall_not_lt_zero_iff]
  refine and_congr_right fun hnonneg ↦ ?_
  exact Decimal.sum_sameValue_one_iff (nonNegative_iff.mp hnonneg) hlength

/-- What is promised of a check of shares. -/
structure CheckedExactly (x : Shares) : Prop where
  accepted : x.validate = .ok () ↔ x.NonNegative ∧ x.exactTotal = 1
  negative : ∀ pool, x.validate = .error (.negativeShare pool) ↔ x.FirstNegative pool
  /-- There is a pool to be named whenever there is a negative share. -/
  exists_first : ¬ x.NonNegative → ∃ pool, x.FirstNegative pool
  otherwise : (∃ total, x.validate = .error (.shareSum total)) ↔ x.NonNegative ∧ x.exactTotal ≠ 1
  /-- The sum that is named is not one, and it is the exact sum unless it is large. -/
  named : ∀ total, x.validate = .error (.shareSum total) → x.total = .ok total ∧
    total.value ≠ 1 ∧ (total.value = x.exactTotal ∨ 7 ≤ total.value)

/-- **The check of shares is exact**, whenever it has an answer: shares are accepted if and only if
none is negative and their exact sum is one. The first negative share is named if there is one, and
a sum that is not one otherwise. -/
theorem check_exact (h : Answers x.validate) : x.CheckedExactly := by
  constructor
  case accepted => exact validate_eq_ok_iff_exactTotal
  case negative => exact fun pool ↦ validate_eq_negativeShare
  case exists_first => exact x.nonNegative_or_firstNegative.resolve_left
  case otherwise =>
    constructor
    · rintro ⟨total, hsum⟩
      refine ⟨(validate_eq_shareSum.mp hsum).1, fun hexact ↦ ?_⟩
      exact nomatch hsum.symm.trans
        (validate_eq_ok_iff_exactTotal.mpr ⟨(validate_eq_shareSum.mp hsum).1, hexact⟩)
    · rintro ⟨hnonneg, hexact⟩
      cases htotal : x.total with
      | error cause =>
        exact absurd (validate_eq_arithmetic.mpr ⟨fun pool _ ↦ hnonneg pool, htotal⟩) (h cause)
      | ok total =>
        refine ⟨total, validate_eq_shareSum.mpr ⟨hnonneg, htotal, fun hone ↦ hexact ?_⟩⟩
        exact Decimal.value_sum_of_sameValue_one (nonNegative_iff.mp hnonneg) htotal hone
  case named =>
    intro total hsum
    obtain ⟨hnonneg, htotal, hother⟩ := validate_eq_shareSum.mp hsum
    refine ⟨htotal, fun hone ↦ hother ?_, Decimal.value_sum (nonNegative_iff.mp hnonneg) htotal⟩
    exact Decimal.sameValue_iff.mpr (hone.trans Decimal.value_one.symm)

/-- A share with as many places as there are. -/
def finest (magnitude : Nat) (h : magnitude < 1 <<< 96 := by decide) : Decimal :=
  ⟨false, magnitude, 28, h, by decide⟩

/-- Three thirds, the last one rounded up, and two zeros, one of which has places and the other a
sign. -/
def thirds : Shares :=
  ⟨finest 3333333333333333333333333333, finest 3333333333333333333333333333,
    finest 3333333333333333333333333334, ⟨false, 0, 5, Decimal.zero.magnitude_lt, by decide⟩,
    ⟨true, 0, 0, Decimal.zero.magnitude_lt, Decimal.zero.scale_le⟩⟩

theorem check_exact_thirds :
    Answers thirds.validate ∧ thirds.NonNegative ∧ thirds.exactTotal = 1 := by
  have hvalid : thirds.validate = .ok () := by decide +kernel
  have hanswers : Answers thirds.validate := fun _ h ↦ nomatch hvalid.symm.trans h
  exact ⟨hanswers, (check_exact hanswers).accepted.mp hvalid⟩

end Shares

end Tokenomics

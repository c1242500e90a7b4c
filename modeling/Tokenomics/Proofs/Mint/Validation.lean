import Tokenomics.Proofs.Decimal.Overflow
import Tokenomics.Proofs.Mint.Export

/-!
# Whether a check of parameters has an answer

Parameters are turned down for the first rule they break. The last rule is that their shares sum to
one, and to find that out the shares are added up, after a look at their signs only. So shares that
are too large to be added up are not turned down: the check breaks off, whether the parameters come
alone or in a genesis. `checks_answer_iff` says that this is the only way in which a check is left
without an answer, and that the store is as before then, as it is when parameters are turned down;
`not_checksAnswer_tooLarge` has two shares that do it. Shares that come to less than the limit
by as much as rounding can add are never too large (`Params.not_overflows`).
-/

namespace Tokenomics

variable {p : Params} {g : Genesis} {cause : ArithmeticOverflow}

/-! ## Checks -/

/-- A check answers when it accepts or gives a rule that is broken, rather than break off. -/
def Answers (r : Except ParamsError Unit) : Prop := ∀ cause, r ≠ .error (.arithmetic cause)

theorem Answers.bind_eq_arithmetic {x : Except ParamsError Unit}
    {f : Unit → Except ParamsError Unit} (hx : Answers x) :
    (x >>= f) = .error (.arithmetic cause) ↔ x = .ok () ∧ f () = .error (.arithmetic cause) :=
  check_bind_eq_error.trans (or_iff_right (hx cause))

theorem throw_if_eq_arithmetic {c : Prop} [Decidable c] {e : ParamsError}
    {f : Unit → Except ParamsError Unit} (he : ∀ cause, e ≠ .arithmetic cause) :
    (if c then throw e >>= f else f ()) = .error (.arithmetic cause) ↔
      ¬ c ∧ f () = .error (.arithmetic cause) :=
  throw_if_eq_error.trans (or_iff_right fun h ↦ he cause h.2)

theorem answers_checkMintDenom (denom : String) : Answers (Params.checkMintDenom denom) := by
  intro cause h
  rw [Params.checkMintDenom] at h
  split at h
  · cases h
  · split at h <;> cases h

theorem answers_checkPrecision (v : Decimal) : Answers (checkPrecision v) := by
  intro cause h
  rw [checkPrecision] at h
  split at h <;> cases h

theorem answers_cursor (c : MonthCursor) : Answers c.validate := by
  intro cause h
  rw [MonthCursor.validate] at h
  split at h <;> cases h

/-- Shares are added up when none is negative. -/
theorem Shares.validate_eq_arithmetic {x : Shares} : x.validate = .error (.arithmetic cause) ↔
    (∀ pool ∈ Pool.all, 0 ≤ (x.of pool).value) ∧ x.total = .error cause := by
  have hanswers : Answers (Pool.all.forM x.checkSign) := by
    intro cause h
    obtain ⟨-, pool, -, -, -, h⟩ := forM_eq_error.mp h
    rw [checkSign] at h
    split at h <;> cases h
  rw [validate, hanswers.bind_eq_arithmetic, forM_eq_ok]
  refine and_congr
    (forall₂_congr fun pool _ ↦ checkSign_eq_ok.trans Decimal.not_lt_zero_iff) ?_
  cases x.total with
  | error e =>
    constructor
    · intro h
      cases h
      rfl
    · intro h
      cases h
      rfl
  | ok total =>
    refine iff_of_false (fun h ↦ ?_) (by simp)
    dsimp only at h
    split at h <;> cases h

/-- The shares, added up one by one, come to what no sum may come to. -/
def Shares.ReachLimit (x : Shares) : Prop :=
  ∃ early b late c, x.toList = early ++ b :: late ∧
    Decimal.sum early = .ok c ∧ Decimal.limit ≤ c.value + b.value

/-- Parameters that keep every rule but the one on the sum of their shares, which are too large to
be added up. -/
structure Params.Overflows (p : Params) : Prop where
  /-- With other shares they would be valid. -/
  others : Params.validate { p with shares := .standard } = .ok ()
  nonneg : ∀ pool ∈ Pool.all, 0 ≤ (p.shares.of pool).value
  reachLimit : p.shares.ReachLimit

/-- The check of parameters breaks off at shares that are too large to be added up. -/
theorem Params.validate_eq_arithmetic :
    p.validate = .error (.arithmetic cause) ↔ cause = .addition ∧ p.Overflows := by
  have hsplit : p.validate = .error (.arithmetic cause) ↔
      Params.validate { p with shares := .standard } = .ok () ∧
        p.shares.validate = .error (.arithmetic cause) := by
    have hstandard : Shares.standard.validate = .ok () := by decide +kernel
    rw [validate_eq_ok, validate, (answers_checkMintDenom _).bind_eq_arithmetic]
    simp only [hstandard, and_true, and_assoc]
    refine and_congr_right fun _ ↦ ?_
    refine (throw_if_eq_arithmetic (by simp)).trans (and_congr_right fun _ ↦ ?_)
    refine (answers_checkPrecision _).bind_eq_arithmetic.trans (and_congr_right fun _ ↦ ?_)
    refine (throw_if_eq_arithmetic (by simp)).trans (and_congr_right fun _ ↦ ?_)
    exact throw_if_eq_arithmetic (by simp)
  have htotal (hnonneg : ∀ pool ∈ Pool.all, 0 ≤ (p.shares.of pool).value) :
      p.shares.total = .error cause ↔ cause = .addition ∧ p.shares.ReachLimit :=
    Decimal.sum_eq_error_iff (List.forall_mem_map.mpr hnonneg)
  rw [hsplit, Shares.validate_eq_arithmetic]
  constructor
  · rintro ⟨hothers, hnonneg, hsum⟩
    obtain ⟨rfl, hreach⟩ := (htotal hnonneg).mp hsum
    exact ⟨rfl, hothers, hnonneg, hreach⟩
  · rintro ⟨rfl, hothers, hnonneg, hreach⟩
    exact ⟨hothers, hnonneg, (htotal hnonneg).mpr ⟨rfl, hreach⟩⟩

/-- Five shares can be added up when their exact sum stays below the limit by what rounding can
add. -/
theorem Params.not_overflows
    (h : (p.shares.toList.map Decimal.value).sum + 5 / 2 < Decimal.limit) : ¬ p.Overflows := by
  rintro ⟨-, hnonneg, hreach⟩
  have hnonneg' : ∀ b ∈ p.shares.toList, 0 ≤ b.value := List.forall_mem_map.mpr hnonneg
  obtain ⟨c, hc⟩ := Decimal.exists_sum hnonneg' h
  cases hc.symm.trans ((Decimal.sum_eq_error_iff hnonneg').mpr ⟨rfl, hreach⟩)

/-- The check of a genesis breaks off where that of its parameters does. -/
theorem Genesis.validate_eq_arithmetic (g : Genesis) :
    g.validate = .error (.arithmetic cause) ↔ g.params.validate = .error (.arithmetic cause) := by
  rw [validate, check_bind_eq_error]
  refine or_iff_left ?_
  rintro ⟨-, h⟩
  obtain ⟨-, h⟩ := (throw_if_eq_arithmetic (by simp)).mp h
  obtain ⟨-, h⟩ := (answers_checkPrecision _).bind_eq_arithmetic.mp h
  exact answers_cursor _ cause h

/-! ## Calls -/

namespace Keeper

theorem checked_eq_arithmetic {r : Except ParamsError Unit} :
    checked r = .error (.arithmetic cause) ↔ r = .error (.arithmetic cause) := by
  rw [checked.eq_def]
  split
  · simp
  · simp
  · rename_i e hne
    simpa using hne cause

/-- A check that answers is passed on as it is. -/
theorem checked_eq_of_answers {r : Except ParamsError Unit} (h : Answers r) :
    checked r = r.mapError .params := by
  rw [checked.eq_def]
  split
  · rfl
  · rename_i cause
    exact absurd rfl (h cause)
  · rfl

/-- Write valid parameters in place: the store that the call leaves, and whether they were
written. -/
def update (s : Store) (p : Params) : Store × Except MintError Unit :=
  match checked p.validate with
  | .error e => (s, .error e)
  | .ok () =>
    match put s paramsKey p with
    | .error e => (s, .error e)
    | .ok s => (s.flush, .ok ())

/-- The store after parameters have been set is what the update leaves. -/
theorem setParams_eq_update (s : Store) (p : Params) :
    setParams s p = (update s p).2.map fun _ ↦ (update s p).1 := by
  rw [Keeper.setParams, update]
  cases checked p.validate with
  | error e => rfl
  | ok u =>
    show (put s paramsKey p >>= fun s ↦ pure s.flush) = _
    cases put s paramsKey p <;> rfl

/-- How a call that checks first may end: it is carried out, or turned down for a rule that is
broken, or it is not carried out to the end by a store that is closed. Whoever is turned down finds
the store as it was. -/
inductive Answered (s : Store) : Store × Except MintError Unit → Prop where
  | carriedOut (s' : Store) : Answered s (s', .ok ())
  | turnedDown (e : ParamsError) (h : ∀ cause, e ≠ .arithmetic cause) :
      Answered s (s, .error (.params e))
  | refused (s' : Store) {key : String} {e : StoreError} (h : s.closed.get? key = some e) :
      Answered s (s', .error (.store e))

/-- Parameters whose check answers are answered. -/
theorem answered_update (h : Answers p.validate) (s : Store) : Answered s (update s p) := by
  rw [update, checked_eq_of_answers h]
  cases hvalid : p.validate with
  | error e => exact .turnedDown e fun cause heq ↦ h cause (hvalid.trans (congrArg _ heq))
  | ok u =>
    show Answered s (match put s paramsKey p with | .error e => _ | .ok s => _)
    cases hput : put s paramsKey p with
    | error err =>
      obtain ⟨e, hclosed, rfl⟩ := put_eq_error.mp hput
      exact .refused s hclosed
    | ok s₁ => exact .carriedOut s₁.flush

theorem answered_initGenesis (h : Answers g.validate) (s : Store) :
    Answered s (initGenesis s g) := by
  rw [initGenesis, checked_eq_of_answers h]
  cases hvalid : g.validate with
  | error e => exact .turnedDown e fun cause heq ↦ h cause (hvalid.trans (congrArg _ heq))
  | ok u =>
    show Answered s (match put s paramsKey g.params with | .error e => _ | .ok s => _)
    cases hput : put s paramsKey g.params with
    | error err =>
      obtain ⟨e, hclosed, rfl⟩ := put_eq_error.mp hput
      exact .refused s hclosed
    | ok s₁ =>
      show Answered s (match put s₁ stateKey g.state with | .error e => _ | .ok s => _)
      cases hput' : put s₁ stateKey g.state with
      | error err =>
        obtain ⟨e, hclosed, rfl⟩ := put_eq_error.mp hput'
        rw [closed_put hput] at hclosed
        exact .refused s₁ hclosed
      | ok s₂ => exact .carriedOut s₂.flush

/-- What is promised of parameters: whether they come alone or in a genesis, to be checked or to be
written, there is an answer. -/
structure ChecksAnswer (p : Params) (st : EmissionState) (s : Store) : Prop where
  params : Answers p.validate
  genesis : Answers (Genesis.validate ⟨p, st⟩)
  setParams : Answered s (update s p)
  initGenesis : Answered s (initGenesis s ⟨p, st⟩)

/-- The opposite: every check breaks off while the shares are added up. The store is as it was. -/
structure ChecksBreakOff (p : Params) (st : EmissionState) (s : Store) : Prop where
  params : p.validate = .error (.arithmetic .addition)
  genesis : Genesis.validate ⟨p, st⟩ = .error (.arithmetic .addition)
  setParams : update s p = (s, .error (.arithmetic .addition))
  initGenesis : Keeper.initGenesis s ⟨p, st⟩ = (s, .error (.arithmetic .addition))

theorem checksAnswer (h : ¬ p.Overflows) (st : EmissionState) (s : Store) :
    ChecksAnswer p st s := by
  have hparams : Answers p.validate := fun cause hcause ↦
    h (Params.validate_eq_arithmetic.mp hcause).2
  have hgenesis : Answers (Genesis.validate ⟨p, st⟩) := fun cause hcause ↦
    hparams cause ((Genesis.validate_eq_arithmetic ⟨p, st⟩).mp hcause)
  exact ⟨hparams, hgenesis, answered_update hparams s, answered_initGenesis hgenesis s⟩

theorem checksBreakOff (h : p.Overflows) (st : EmissionState) (s : Store) :
    ChecksBreakOff p st s := by
  have hparams : p.validate = .error (.arithmetic .addition) :=
    Params.validate_eq_arithmetic.mpr ⟨rfl, h⟩
  have hgenesis : Genesis.validate ⟨p, st⟩ = .error (.arithmetic .addition) :=
    (Genesis.validate_eq_arithmetic ⟨p, st⟩).mpr hparams
  refine ⟨hparams, hgenesis, ?_, ?_⟩
  · simp only [update, checked_eq_arithmetic.mpr hparams]
  · simp only [Keeper.initGenesis, checked_eq_arithmetic.mpr hgenesis]

/-- **A check of parameters has an answer**, unless the parameters keep all other rules and their
shares are too large to be added up. What setting them does to the store is told by the update. -/
theorem checks_answer_iff (p : Params) (st : EmissionState) (s : Store) :
    Keeper.setParams s p = ((update s p).2.map fun _ ↦ (update s p).1) ∧
      (ChecksAnswer p st s ↔ ¬ p.Overflows) ∧ (ChecksBreakOff p st s ↔ p.Overflows) := by
  refine ⟨setParams_eq_update s p, ⟨fun h hover ↦ ?_, fun h ↦ checksAnswer h st s⟩,
    fun h ↦ ?_, fun h ↦ checksBreakOff h st s⟩
  · exact h.params .addition (checksBreakOff hover st s).params
  · exact (Params.validate_eq_arithmetic.mp h.params).2

/-- Standard parameters with two shares of which the first is the largest decimal. -/
def tooLarge : Params :=
  { Params.standard with
    shares := ⟨.ofNat (1 <<< 96 - 1), .one, .zero, .zero, .zero⟩ }

/-- The two shares are not negative, and there is no sum to be turned down for. -/
theorem not_checksAnswer_tooLarge : tooLarge.validate = .error (.arithmetic .addition) ∧
    ¬ ChecksAnswer tooLarge (.genesis .standard .standard) .empty := by
  have hbreaks : tooLarge.validate = .error (.arithmetic .addition) := by decide +kernel
  exact ⟨hbreaks, fun h ↦ h.params .addition hbreaks⟩

end Keeper

end Tokenomics

import Tokenomics.Proofs.Mint.PaidMonths

/-!
# A genesis that is half written

A genesis is checked before anything is written, so one that is not valid leaves the records alone,
and so does a store that refuses the parameters. But the parameters are written before the state,
and there is no way back: a store that takes the parameters and refuses the state is left with the
parameters of a genesis that has failed (`initGenesis_of_halved`). `initGenesis_allOrNothing_iff`
says that this is the only way in which the records can change under a failure. A failed genesis
can therefore leave parameters without a state (`not_allOrNothing_closedState`), or new parameters
with the state of the genesis before it. A block does not have that weakness, as it writes one
record.
-/

namespace Tokenomics.Keeper

variable {s s' : Store} {g : Genesis} {err : MintError}

/-- What is promised of a genesis: both records are written, or both read as before. -/
structure AllOrNothing (s : Store) (g : Genesis) : Prop where
  all : ∀ s', initGenesis s g = (s', .ok ()) →
    params s' = .ok g.params.unsigned ∧ state s' = .ok g.state.unsigned
  nothing : ∀ s' err, initGenesis s g = (s', .error err) →
    params s' = params s ∧ state s' = state s

/-- A valid genesis of which the store takes the parameters and refuses the state. -/
structure Halved (s : Store) (g : Genesis) : Prop where
  valid : g.validate = .ok ()
  takes_params : s.closed.get? paramsKey = none
  refuses_state : ∃ e, s.closed.get? stateKey = some e

/-- A genesis that fails has written nothing, or it is halved and has written its parameters. -/
theorem initGenesis_eq_error (h : initGenesis s g = (s', .error err)) :
    s' = s ∨ Halved s g ∧ put s paramsKey g.params = .ok s' := by
  rw [initGenesis] at h
  split at h
  · exact .inl (Prod.ext_iff.mp h).1.symm
  rename_i hvalid
  split at h
  · exact .inl (Prod.ext_iff.mp h).1.symm
  rename_i s₁ hs₁
  split at h
  · rename_i err' hrefused
    obtain rfl : s₁ = s' := (Prod.ext_iff.mp h).1
    obtain ⟨hopen, hs₁'⟩ := Store.putRecord_eq_ok.mp (put_eq_ok.mp hs₁)
    obtain ⟨e, hclosed, -⟩ := put_eq_error.mp hrefused
    rw [hs₁'] at hclosed
    exact .inr ⟨⟨checked_eq_ok.mp hvalid, hopen, e, hclosed⟩, hs₁⟩
  · cases h

/-- A halved genesis fails, and what it leaves are its parameters and the state from before it. -/
theorem initGenesis_of_halved (h : Halved s g) : ∃ s' e,
    initGenesis s g = (s', .error (.store e)) ∧ params s' = .ok g.params.unsigned ∧
      state s' = state s := by
  obtain ⟨hvalid, hopen, e, hclosed⟩ := h
  obtain ⟨s₁, hs₁⟩ : ∃ s₁, put s paramsKey g.params = .ok s₁ :=
    ⟨_, put_eq_ok.mpr (Store.putRecord_eq_ok.mpr ⟨hopen, rfl⟩)⟩
  have hrefused : put s₁ stateKey g.state = .error (.store e) := by
    obtain ⟨-, rfl⟩ := Store.putRecord_eq_ok.mp (put_eq_ok.mp hs₁)
    exact put_eq_error.mpr ⟨e, hclosed, rfl⟩
  refine ⟨s₁, e, ?_, required_put hs₁ (Codec.restores_params g.params), ?_⟩
  · simp only [initGenesis, checked_eq_ok.mpr hvalid, hs₁, hrefused]
  · exact required_put_of_ne hs₁ (by decide)

/-- **A genesis is all or nothing**, unless it is halved and its parameters are others than those
on record. -/
theorem initGenesis_allOrNothing_iff (s : Store) (g : Genesis) :
    AllOrNothing s g ↔ ¬ (Halved s g ∧ params s ≠ .ok g.params.unsigned) := by
  constructor
  · rintro ⟨-, hnothing⟩ ⟨hhalved, hne⟩
    obtain ⟨s', e, hfails, hparams, -⟩ := initGenesis_of_halved hhalved
    exact hne ((hnothing s' _ hfails).1.symm.trans hparams)
  · intro h
    refine ⟨fun s' hg ↦ ?_, fun s' err hfails ↦ ?_⟩
    · obtain ⟨hparams, hstate⟩ := reads_initGenesis hg
      exact ⟨hparams, hstate⟩
    · rcases initGenesis_eq_error hfails with rfl | ⟨hhalved, hput⟩
      · exact ⟨rfl, rfl⟩
      -- the parameters have been written, but they are those that were there
      have hparams : params s = .ok g.params.unsigned :=
        not_not.mp fun hne ↦ h ⟨hhalved, hne⟩
      exact ⟨(required_put hput (Codec.restores_params g.params)).trans hparams.symm,
        required_put_of_ne hput (by decide)⟩

/-- A store without records that refuses the state. -/
def closedState : Store := Store.empty.close stateKey .database

/-- The genesis fails, and there are parameters afterwards where there were none. -/
theorem not_allOrNothing_closedState : ∃ s' e,
    initGenesis closedState .standard = (s', .error (.store e)) ∧
      params closedState = .error (.missingRecord paramsKey) ∧
      params s' = .ok Params.standard.unsigned ∧ ¬ AllOrNothing closedState .standard := by
  have hhalved : Halved closedState .standard :=
    ⟨by decide +kernel, by decide, .database, by decide⟩
  obtain ⟨s', e, hfails, hparams, -⟩ := initGenesis_of_halved hhalved
  have hmissing : params closedState = .error (.missingRecord paramsKey) := rfl
  refine ⟨s', e, hfails, hmissing, hparams, fun h ↦ ?_⟩
  cases hmissing.symm.trans ((h.nothing s' _ hfails).1.symm.trans hparams)

end Tokenomics.Keeper

import Tokenomics.Proofs.Mint.CatchUp

/-!
# Going on from an export

A genesis can be taken out of a keeper at any time, and another keeper can start from it. Three
things have to come together for that to make no difference. What is taken out must be a valid
genesis: parameters and provisions have lost the signs of zeros on their way through the store,
which no rule looks at (`Params.validate_unsigned`), and blocks keep provisions and cursor valid
(`Point.Continues`). It must come back from its JSON text, which by now is exactly as it was. And
two keepers with the same records must do the same from there on, failures included
(`SameRecords.outcomes`).
-/

namespace Tokenomics

/-! ## The sign of a zero in a sum -/

namespace Decimal

variable {a a' b c : Decimal} {l : List Decimal}

/-- The sign of a zero has no effect on a sum but on the sign of a zero. -/
theorem exists_add?_unsignedZero (ha : a'.unsignedZero = a.unsignedZero) (h : a.add? b = some c) :
    ∃ c', a'.add? b.unsignedZero = some c' ∧ c'.unsignedZero = c.unsignedZero := by
  have hzero : a'.isZero = a.isZero := by
    rw [← isZero_unsignedZero, ha, isZero_unsignedZero]
  rw [add?] at h
  rw [add?, hzero, isZero_unsignedZero]
  cases haz : a.isZero with
  | true =>
    rw [haz] at h
    obtain rfl : b = c := Option.some.inj h
    exact ⟨_, rfl, unsignedZero_unsignedZero b⟩
  | false =>
    have hsame : a' = a := by
      rw [← unsignedZero_of_isZero_eq_false haz, ← ha,
        unsignedZero_of_isZero_eq_false (hzero.trans haz)]
    subst hsame
    rw [haz] at h
    cases hbz : b.isZero with
    | true =>
      rw [hbz] at h
      exact ⟨_, h, rfl⟩
    | false =>
      rw [hbz] at h
      rw [unsignedZero_of_isZero_eq_false hbz]
      exact ⟨_, h, rfl⟩

theorem exists_foldlM_add_unsignedZero (ha : a'.unsignedZero = a.unsignedZero)
    (h : l.foldlM add a = .ok c) :
    ∃ c', (l.map unsignedZero).foldlM add a' = .ok c' ∧ c'.unsignedZero = c.unsignedZero := by
  induction l generalizing a a' with
  | nil =>
    obtain rfl : a = c := Except.ok.inj h
    exact ⟨a', rfl, ha⟩
  | cons b l ih =>
    rw [List.foldlM_cons, bind_eq_ok] at h
    obtain ⟨d, hd, h⟩ := h
    obtain ⟨d', hd', hdd'⟩ := exists_add?_unsignedZero ha (add_eq_ok.mp hd)
    obtain ⟨c', hc', hcc'⟩ := ih hdd' h
    refine ⟨c', ?_, hcc'⟩
    rw [List.map_cons, List.foldlM_cons, bind_eq_ok]
    exact ⟨d', add_eq_ok.mpr hd', hc'⟩

end Decimal

/-! ## Parameters without the signs of zeros -/

theorem Shares.validate_unsigned {s : Shares} (h : s.validate = .ok ()) :
    s.unsigned.validate = .ok () := by
  obtain ⟨hsign, total, htotal, hone⟩ := validate_eq_ok.mp h
  have hstart : Decimal.zero.unsignedZero = Decimal.zero.unsignedZero := rfl
  obtain ⟨total', htotal', hsame⟩ := Decimal.exists_foldlM_add_unsignedZero hstart htotal
  refine validate_eq_ok.mpr ⟨fun pool hpool ↦ ?_, total', htotal', ?_⟩
  · rw [of_unsigned, Decimal.not_lt_zero_iff, Decimal.value_unsignedZero]
    exact Decimal.not_lt_zero_iff.mp (hsign pool hpool)
  · rw [Decimal.sameValue_iff] at hone ⊢
    rw [← Decimal.value_unsignedZero total', hsame, Decimal.value_unsignedZero, hone]

/-- Valid parameters stay valid without the signs of zeros. -/
theorem Params.validate_unsigned {p : Params} (h : p.validate = .ok ()) :
    p.unsigned.validate = .ok () := by
  obtain ⟨hdenom, hsign, hprecision, hperiod, hfactor, hshares⟩ := validate_eq_ok.mp h
  refine validate_eq_ok.mpr
    ⟨hdenom, ?_, ?_, hperiod, ?_, Shares.validate_unsigned hshares⟩
  · rw [Decimal.not_lt_zero_iff] at hsign ⊢
    exact hsign.trans_eq (Decimal.value_unsignedZero _).symm
  · rw [checkPrecision_eq_ok] at hprecision ⊢
    exact hprecision
  · rw [Decimal.lt_iff, Decimal.lt_iff] at hfactor ⊢
    show ¬ ((p.reductionFactor.unsignedZero).value < _ ∨ _ < (p.reductionFactor.unsignedZero).value)
    rwa [Decimal.value_unsignedZero]

namespace Keeper

variable {s s' t : Store} {c : Point} {st : EmissionState} {g : Genesis}

/-! ## What is taken out -/

theorem exportGenesis_eq_ok : exportGenesis s = .ok g ↔
    params s = .ok g.params ∧ state s = .ok g.state := by
  rw [exportGenesis, bind_eq_ok]
  constructor
  · rintro ⟨p, hp, h⟩
    obtain ⟨st, hst, h⟩ := bind_eq_ok.mp h
    obtain rfl : ⟨p, st⟩ = g := Except.ok.inj h
    exact ⟨hp, hst⟩
  · rintro ⟨hp, hst⟩
    exact ⟨g.params, hp, bind_eq_ok.mpr ⟨g.state, hst, rfl⟩⟩

/-- The keeper could be continued from what is taken out of it: its records are readable, they make
a valid genesis, and no sign of a zero is left in them. -/
structure Point.Continues (c : Point) (st : EmissionState) : Prop where
  reads : c.Reads st
  valid : Genesis.validate ⟨c.params.unsigned, st⟩ = .ok ()
  unsigned : st.unsigned = st

theorem Point.Continues.exportGenesis_eq (h : c.Continues st) :
    exportGenesis c.store = .ok ⟨c.params.unsigned, st⟩ :=
  exportGenesis_eq_ok.mpr ⟨h.reads.params, h.reads.state⟩

theorem Point.Continues.unsigned_eq (h : c.Continues st) :
    Genesis.unsigned ⟨c.params.unsigned, st⟩ = ⟨c.params.unsigned, st⟩ := by
  rw [Genesis.unsigned, Params.unsigned_unsigned, h.unsigned]

theorem continues_initGenesis (hg : initGenesis s g = (s', .ok ())) :
    Point.Continues ⟨g.params, s'⟩ g.state.unsigned := by
  obtain ⟨hvalid, -⟩ := initGenesis_eq_ok.mp hg
  obtain ⟨hp, hprovisions, hperiod⟩ := Genesis.validate_eq_ok.mp hvalid
  exact ⟨reads_initGenesis hg, Genesis.validate_eq_ok.mpr
    ⟨Params.validate_unsigned hp, hprovisions.unsignedZero, hperiod⟩, g.state.unsigned_unsigned⟩

/-- After a call the keeper could still be continued. -/
theorem Point.Continues.step (h : c.Continues st) (call : Call) :
    ∃ st', (Keeper.step c call).2.Continues st' := by
  obtain ⟨hp, hprovisions, hperiod⟩ := Genesis.validate_eq_ok.mp h.valid
  obtain ⟨height, e, s', he, hstep, hreads⟩ | ⟨p, s', rfl, hvalid, hstep, hreads⟩ |
    ⟨s', hstep, hreads⟩ := h.reads.step_cases call
  · have hlowered := lowered_processBlock (factor_mem_Icc hp) hprovisions he
    have hperiod' : e.state.cursor.period ≠ 0 := by
      rw [cursor_processBlock he]
      split
      · rwa [MonthCursor.period_moveTo]
      · exact hperiod
    rw [hstep]
    exact ⟨e.state.unsigned, hreads, Genesis.validate_eq_ok.mpr
      ⟨hp, hlowered.valid.unsignedZero, hperiod'⟩, e.state.unsigned_unsigned⟩
  · rw [hstep]
    exact ⟨st, hreads, Genesis.validate_eq_ok.mpr
      ⟨Params.validate_unsigned hvalid, hprovisions, hperiod⟩, h.unsigned⟩
  · rw [hstep]
    exact ⟨st, hreads, h.valid, h.unsigned⟩

theorem Point.Continues.run (h : c.Continues st) (calls : List Call) :
    ∃ st', (Keeper.run c calls).2.Continues st' := by
  induction calls generalizing c st with
  | nil => exact ⟨st, h⟩
  | cons call calls ih =>
    obtain ⟨st', hstep⟩ := h.step call
    exact ih hstep

/-! ## Stores that can be written -/

/-- As long as the store is not closed for the state, it stays open for it. -/
theorem writable_step {call : Call} (hcall : ∀ e, call ≠ .close stateKey e)
    (h : c.store.closed.get? stateKey = none) :
    (Keeper.step c call).2.store.closed.get? stateKey = none := by
  cases call with
  | endBlock l height =>
    rw [Keeper.step]
    split
    · rename_i e s' l' hblock
      show s'.closed.get? stateKey = none
      rw [(closed_endBlock hblock).2]
      exact h
    · exact h
  | setParams p =>
    rw [Keeper.step]
    split
    · rename_i s' hset
      obtain ⟨-, s₁, hs₁, rfl⟩ := setParams_eq_ok.mp hset
      show s₁.closed.get? stateKey = none
      rw [closed_put hs₁]
      exact h
    · exact h
  | close key e =>
    have hne : stateKey ≠ key := by
      rintro rfl
      exact hcall e rfl
    exact (SortedMap.get?_insert _ _ _ _).trans ((if_neg hne).trans h)
  | reopen key =>
    show (c.store.closed.erase key).get? stateKey = none
    by_cases hkey : stateKey = key
    · rw [← hkey]
      exact SortedMap.get?_erase_self _ _
    · rw [SortedMap.get?_erase_of_ne _ hkey]
      exact h

theorem writable_run {calls : List Call} (hcalls : ∀ e, .close stateKey e ∉ calls)
    (h : c.store.closed.get? stateKey = none) :
    (Keeper.run c calls).2.store.closed.get? stateKey = none := by
  induction calls generalizing c with
  | nil => exact h
  | cons call calls ih =>
    refine ih (fun e he ↦ hcalls e (List.mem_cons_of_mem call he)) (writable_step ?_ h)
    rintro e rfl
    exact hcalls e List.mem_cons_self

/-! ## Two keepers -/

/-- Two stores with the same records of the keeper, both open for the next state. -/
structure SameRecords (s t : Store) : Prop where
  params : Keeper.params s = Keeper.params t
  state : Keeper.state s = Keeper.state t
  writable : s.closed.get? stateKey = none
  writable' : t.closed.get? stateKey = none

/-- Write a state to both stores. -/
theorem SameRecords.setState (h : SameRecords s t) (st : EmissionState) :
    ∃ s' t', Keeper.setState s st = .ok s' ∧ Keeper.setState t st = .ok t' ∧
      SameRecords s' t' := by
  obtain ⟨s', hs'⟩ := exists_setState h.writable st
  obtain ⟨t', ht'⟩ := exists_setState h.writable' st
  refine ⟨s', t', hs', ht', ?_, ?_, ?_, ?_⟩
  · rw [params_setState hs', params_setState ht', h.params]
  · rw [state_setState hs', state_setState ht']
  · rw [closed_put hs']
    exact h.writable
  · rw [closed_put ht']
    exact h.writable'

/-- A block before its state is written: the emission, and the view of the ledger on which it is
settled. -/
def prepare (s : Store) (l : Ledger) (height : UInt64) : Except MintError (Emission × Ledger) := do
  let p ← params s
  let st ← state s
  let e ← (processBlock height p st).mapError .arithmetic
  let view ← (settle l p.denom e).mapError .ledger
  return (e, view)

theorem endBlock_eq_prepare (s : Store) (l : Ledger) (height : UInt64) : endBlock s l height =
    prepare s l height >>= fun r ↦ setState s r.1.state >>= fun s ↦ .ok (r.1, s, r.2.commit) := by
  simp only [endBlock, prepare, bind_assoc, pure_bind]
  rfl

/-- A block is the same from both stores: either it comes to the same in both, or it fails in the
same way. -/
theorem SameRecords.endBlock (h : SameRecords s t) (l : Ledger) (height : UInt64) :
    (∃ e s' t' l', Keeper.endBlock s l height = .ok (e, s', l') ∧
      Keeper.endBlock t l height = .ok (e, t', l') ∧ SameRecords s' t') ∨
    ∃ err, Keeper.endBlock s l height = .error err ∧ Keeper.endBlock t l height = .error err := by
  have hprepare : prepare s l height = prepare t l height := by
    rw [prepare, prepare, h.params, h.state]
  rw [endBlock_eq_prepare, endBlock_eq_prepare, hprepare]
  cases prepare t l height with
  | error err => exact .inr ⟨err, rfl, rfl⟩
  | ok r =>
    obtain ⟨s', t', hs', ht', hsame⟩ := h.setState r.1.state
    refine .inl ⟨r.1, s', t', r.2.commit, ?_, ?_, hsame⟩
    · exact bind_eq_ok.mpr ⟨r, rfl, bind_eq_ok.mpr ⟨s', hs', rfl⟩⟩
    · exact bind_eq_ok.mpr ⟨r, rfl, bind_eq_ok.mpr ⟨t', ht', rfl⟩⟩

/-- What blocks one after the other come to: the emission or the error of each, and the store and
the ledger after them. A block that fails changes neither. -/
def outcomes (s : Store) (l : Ledger) :
    List UInt64 → List (Except MintError Emission) × Store × Ledger
  | [] => ([], s, l)
  | height :: heights =>
    match endBlock s l height with
    | .ok (e, s, l) =>
      let (rs, s, l) := outcomes s l heights
      (.ok e :: rs, s, l)
    | .error err =>
      let (rs, s, l) := outcomes s l heights
      (.error err :: rs, s, l)

/-- The outcomes are the same, errors included, and so is what they leave: the ledger, and what can
be taken out of the keeper. -/
structure SameOutcomes (r r' : List (Except MintError Emission) × Store × Ledger) : Prop where
  results : r.1 = r'.1
  ledger : r.2.2 = r'.2.2
  state : Keeper.state r.2.1 = Keeper.state r'.2.1
  exportGenesis : Keeper.exportGenesis r.2.1 = Keeper.exportGenesis r'.2.1

/-- Two keepers with the same records do the same from there on. -/
theorem SameRecords.outcomes (h : SameRecords s t) (l : Ledger) (heights : List UInt64) :
    SameOutcomes (Keeper.outcomes s l heights) (Keeper.outcomes t l heights) := by
  induction heights generalizing s t l with
  | nil =>
    refine ⟨rfl, rfl, h.state, ?_⟩
    show Keeper.exportGenesis s = Keeper.exportGenesis t
    rw [exportGenesis, exportGenesis, h.params, h.state]
  | cons height heights ih =>
    rw [Keeper.outcomes, Keeper.outcomes]
    obtain ⟨e, s', t', l', hs, ht, hsame⟩ | ⟨err, hs, ht⟩ := h.endBlock l height
    · obtain ⟨hresults, hledger, hstate, hexport⟩ := ih hsame l'
      rw [hs, ht]
      exact ⟨congrArg (.ok e :: ·) hresults, hledger, hstate, hexport⟩
    · obtain ⟨hresults, hledger, hstate, hexport⟩ := ih h l
      rw [hs, ht]
      exact ⟨congrArg (.error err :: ·) hresults, hledger, hstate, hexport⟩

/-! ## Going on -/

/-- **An export goes on as the keeper would have.** After a run of calls from an accepted genesis,
in which the store is not closed for the state, a genesis can be taken out of the keeper. It is
valid, comes back from its JSON text as it was and is accepted by a fresh store. And from there on,
on any ledger and at any heights, the keeper of the fresh store has the same emissions and the same
errors, and leaves the same ledger and the same state. -/
theorem exportGenesis_resumes (hg : initGenesis s g = (s', .ok ())) {calls : List Call}
    (hcalls : ∀ e, .close stateKey e ∉ calls) : ∃ exported fresh,
      exportGenesis (run ⟨g.params, s'⟩ calls).2.store = .ok exported ∧
      exported.validate = .ok () ∧
      Genesis.ofJson? exported.toJson = some exported ∧
      initGenesis .empty exported = (fresh, .ok ()) ∧
      ∀ l heights, SameOutcomes (outcomes (run ⟨g.params, s'⟩ calls).2.store l heights)
        (outcomes fresh l heights) := by
  obtain ⟨st, hcontinues⟩ := (continues_initGenesis hg).run calls
  obtain ⟨hopen, hclosed⟩ := closed_initGenesis hg
  rw [← hclosed] at hopen
  have hwritable := writable_run (c := ⟨g.params, s'⟩) hcalls hopen
  generalize run ⟨g.params, s'⟩ calls = r at hcontinues hwritable ⊢
  obtain ⟨fresh, hfresh⟩ : ∃ fresh,
      initGenesis .empty ⟨r.2.params.unsigned, st⟩ = (fresh, .ok ()) :=
    ⟨_, initGenesis_eq_ok.mpr ⟨hcontinues.valid, _, _, rfl, rfl, rfl⟩⟩
  obtain ⟨hparams, hstate⟩ := reads_initGenesis hfresh
  have hwritable' : fresh.closed.get? stateKey = none := by
    rw [(closed_initGenesis hfresh).2]
    exact SortedMap.get?_empty _
  have hsame : SameRecords r.2.store fresh := by
    refine ⟨?_, ?_, hwritable, hwritable'⟩
    · rw [hcontinues.reads.params, hparams, Params.unsigned_unsigned]
    · rw [hcontinues.reads.state, hstate, hcontinues.unsigned]
  refine ⟨⟨r.2.params.unsigned, st⟩, fresh, hcontinues.exportGenesis_eq, hcontinues.valid, ?_,
    hfresh, hsame.outcomes⟩
  rw [Genesis.ofJson?_toJson, hcontinues.unsigned_eq]

/-- Calls by which the parameters change between two blocks, and other parameters are refused. -/
def changedParams : List Call :=
  [.endBlock (.book .standard) 10, .setParams .standard, .endBlock (.book .standard) 7000000,
    .setParams { Params.standard with reductionPeriod := 0 }]

theorem exportGenesis_resumes_changedParams : ∃ s exported fresh,
    initGenesis .empty threeMonths = (s, .ok ()) ∧
    exportGenesis (run ⟨threeMonths.params, s⟩ changedParams).2.store = .ok exported ∧
    exported.validate = .ok () ∧
    Genesis.ofJson? exported.toJson = some exported ∧
    initGenesis .empty exported = (fresh, .ok ()) ∧
    SameOutcomes (outcomes (run ⟨threeMonths.params, s⟩ changedParams).2.store (.book .standard)
      [7000001, 20, 9000000]) (outcomes fresh (.book .standard) [7000001, 20, 9000000]) := by
  have hvalid : threeMonths.validate = .ok () := by decide +kernel
  have hinit : initGenesis .empty threeMonths = (_, .ok ()) :=
    initGenesis_eq_ok.mpr ⟨hvalid, _, _, rfl, rfl, rfl⟩
  have hcalls : ∀ e, .close stateKey e ∉ changedParams := by simp [changedParams]
  obtain ⟨exported, fresh, hexported, hvalid', hjson, hfresh, houtcomes⟩ :=
    exportGenesis_resumes hinit hcalls
  exact ⟨_, exported, fresh, hinit, hexported, hvalid', hjson, hfresh, houtcomes _ _⟩

end Keeper

end Tokenomics

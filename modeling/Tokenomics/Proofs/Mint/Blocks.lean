import Tokenomics.Proofs.Ledger.Accounts
import Tokenomics.Proofs.Mint.Emission
import Tokenomics.Proofs.Mint.Settlement
import Tokenomics.Proofs.Store.Record

/-!
# Blocks, one after the other

The keeper reads the parameters and the state from the store, has the emission computed, settles it
on the ledger and writes the new state back. Over a run of blocks that comes to two things, each by
induction over the blocks. The state goes through the JSON text of a record between one block and
the next and loses nothing by it that an emission depends on, so the emissions are those of
`emissions`, which computes them without a store or a ledger (`emissions_of_runBlocks`). And the
ledger is left with exactly these emissions minted and paid out (`settled_runBlocks`).
-/

namespace Tokenomics

open Ledger

/-- The emissions of blocks, each from the state after the one before it, and the state after the
last. -/
def emissions (p : Params) (st : EmissionState) :
    List UInt64 → Except ArithmeticOverflow (List Emission × EmissionState)
  | [] => .ok ([], st)
  | height :: rest => do
    let e ← processBlock height p st
    let (es, final) ← emissions p e.state rest
    return (e :: es, final)

namespace Keeper

/-- Process blocks in turn, keeping all emissions. -/
def runBlocks (s : Store) (l : Ledger) :
    List UInt64 → Except MintError (List Emission × Store × Ledger)
  | [] => .ok ([], s, l)
  | height :: rest => do
    let (e, s, l) ← endBlock s l height
    let (es, s, l) ← runBlocks s l rest
    return (e :: es, s, l)

variable {s s' : Store} {l l' : Ledger} {height : UInt64} {e : Emission} {p : Params}
  {st : EmissionState} {heights : List UInt64} {es : List Emission}

/-! ## The records -/

section Records

variable {α β : Type} [Codec α] [Codec β] {a b : α} {key : String}

theorem required_eq_ok : (required s key : Except MintError α) = .ok a ↔
    s.getRecord key = .ok (some a) := by
  rw [required]
  split
  · rename_i b hb
    rw [hb]
    exact ⟨fun h ↦ by rw [Except.ok.inj h], fun h ↦ by rw [Option.some.inj (Except.ok.inj h)]⟩
  · rename_i hnone
    exact ⟨fun h ↦ (nomatch h), fun h ↦ nomatch hnone.symm.trans h⟩
  · rename_i err herr
    exact ⟨fun h ↦ (nomatch h), fun h ↦ nomatch herr.symm.trans h⟩

theorem put_eq_ok : put s key a = .ok s' ↔ s.putRecord key a = .ok s' := by
  rw [put]
  split
  · rename_i hput
    rw [hput]
    exact ⟨fun h ↦ congrArg _ (Except.ok.inj h), fun h ↦ congrArg _ (Except.ok.inj h)⟩
  · rename_i hput
    rw [hput]
    exact ⟨fun h ↦ (nomatch h), fun h ↦ (nomatch h)⟩

/-- A write fails when the store is closed for the key. -/
theorem put_eq_error {err : MintError} : put s key a = .error err ↔
    ∃ e, s.closed.get? key = some e ∧ err = .store e := by
  simp only [← Store.putRecord_eq_error (a := a)]
  rw [put]
  cases s.putRecord key a with
  | ok s' => simp
  | error e => simp [eq_comm]

/-- A store that is open for a key takes what is written under it. -/
theorem exists_put (hopen : s.closed.get? key = none) (a : α) : ∃ s', put s key a = .ok s' :=
  ⟨_, put_eq_ok.mpr (Store.putRecord_eq_ok.mpr ⟨hopen, rfl⟩)⟩

/-- Writing opens and closes nothing. -/
theorem closed_put (h : put s key a = .ok s') : s'.closed = s.closed := by
  obtain ⟨-, rfl⟩ := Store.putRecord_eq_ok.mp (put_eq_ok.mp h)
  rfl

theorem required_put (h : put s key a = .ok s') (hab : Codec.Restores a b) :
    required s' key = .ok b :=
  required_eq_ok.mpr (Store.getRecord_putRecord (put_eq_ok.mp h) hab)

theorem required_put_of_ne {key' : String} (h : put s key a = .ok s') (hne : key' ≠ key) :
    (required s' key' : Except MintError β) = required s key' := by
  rw [required, required, Store.getRecord_putRecord_of_ne (put_eq_ok.mp h) hne]

/-- What a record reads as depends on the values in the store alone. -/
theorem required_congr (h : s'.values = s.values) (key : String) :
    (required s' key : Except MintError α) = required s key := by
  rw [required, required, Store.getRecord, Store.getRecord, Store.get?, Store.get?, h]

end Records

theorem state_setState (h : setState s st = .ok s') : state s' = .ok st.unsigned :=
  required_put h (Codec.restores_emissionState st)

theorem params_setState (h : setState s st = .ok s') : params s' = params s :=
  required_put_of_ne h (by decide)

/-- A store that is open for it takes any state. -/
theorem exists_setState (hopen : s.closed.get? stateKey = none) (st : EmissionState) :
    ∃ s', setState s st = .ok s' := exists_put hopen st

/-- Any parameters and any state can be on record, up to the signs of zeros. -/
theorem exists_recorded (p : Params) (st : EmissionState) : ∃ s,
    s.closed.get? stateKey = none ∧ params s = .ok p.unsigned ∧ state s = .ok st.unsigned := by
  obtain ⟨s₁, hs₁⟩ : ∃ s₁, put .empty paramsKey p = .ok s₁ := ⟨_, rfl⟩
  have hopen : s₁.closed.get? stateKey = none := by
    rw [closed_put hs₁]
    rfl
  obtain ⟨s₂, hs₂⟩ := exists_setState hopen st
  have hopen₂ : s₂.closed.get? stateKey = none := by rwa [closed_put hs₂]
  exact ⟨s₂, hopen₂, (params_setState hs₂).trans (required_put hs₁ (Codec.restores_params p)),
    state_setState hs₂⟩

/-! ## One block -/

/-- What a block that could be processed is. -/
theorem endBlock_eq_ok : endBlock s l height = .ok (e, s', l') ↔
    ∃ p st view, params s = .ok p ∧ state s = .ok st ∧ processBlock height p st = .ok e ∧
      settle l p.denom e = .ok view ∧ setState s e.state = .ok s' ∧ l' = view.commit := by
  rw [endBlock, bind_eq_ok]
  refine exists_congr fun p ↦ ?_
  rw [bind_eq_ok]
  constructor
  · rintro ⟨hp, st, hst, h⟩
    obtain ⟨e₁, he₁, h⟩ := bind_eq_ok.mp h
    obtain ⟨view, hview, h⟩ := bind_eq_ok.mp h
    obtain ⟨s₁, hs₁, h⟩ := bind_eq_ok.mp h
    obtain ⟨rfl, rfl, rfl⟩ : e₁ = e ∧ s₁ = s' ∧ view.commit = l' := by
      simpa only [Prod.mk.injEq] using Except.ok.inj h
    exact ⟨st, view, hp, hst, mapError_eq_ok.mp he₁, mapError_eq_ok.mp hview, hs₁, rfl⟩
  · rintro ⟨st, view, hp, hst, he, hview, hs, rfl⟩
    refine ⟨hp, st, hst, bind_eq_ok.mpr ⟨e, mapError_eq_ok.mpr he, ?_⟩⟩
    exact bind_eq_ok.mpr ⟨view, mapError_eq_ok.mpr hview, bind_eq_ok.mpr ⟨s', hs, rfl⟩⟩

/-- A block goes through only in a store that is open for the state. It opens and closes nothing. -/
theorem closed_endBlock (h : endBlock s l height = .ok (e, s', l')) :
    s.closed.get? stateKey = none ∧ s'.closed = s.closed := by
  obtain ⟨-, -, -, -, -, -, -, hput, -⟩ := endBlock_eq_ok.mp h
  obtain ⟨hopen, -⟩ := Store.putRecord_eq_ok.mp (put_eq_ok.mp hput)
  exact ⟨hopen, closed_put hput⟩

/-- Once the records have been read and the emission is computed, a block is its settlement and
the write of the state. -/
theorem endBlock_eq_bind (hp : params s = .ok p) (hst : state s = .ok st)
    (he : processBlock height p st = .ok e) (l : Ledger) : endBlock s l height =
      (settle l p.denom e).mapError .ledger >>= fun view ↦
        setState s e.state >>= fun s ↦ .ok (e, s, view.commit) := by
  rw [endBlock, hp]
  show (state s >>= _) = _
  rw [hst]
  show ((processBlock height p st).mapError MintError.arithmetic >>= _) = _
  rw [he]
  rfl

/-- A block between reading the records and writing the state: the emission, and the view of the
ledger on which it is settled. -/
def emit (p : Params) (st : EmissionState) (l : Ledger) (height : UInt64) :
    Except MintError (Emission × Ledger) := do
  let e ← (processBlock height p st).mapError .arithmetic
  let view ← (settle l p.denom e).mapError .ledger
  return (e, view)

theorem emit_eq_ok {view : Ledger} : emit p st l height = .ok (e, view) ↔
    processBlock height p st = .ok e ∧ settle l p.denom e = .ok view := by
  rw [emit, bind_eq_ok]
  constructor
  · rintro ⟨e₁, he₁, h⟩
    obtain ⟨view₁, hview₁, h⟩ := bind_eq_ok.mp h
    obtain ⟨rfl, rfl⟩ : e₁ = e ∧ view₁ = view := Prod.mk.injEq .. ▸ Except.ok.inj h
    exact ⟨mapError_eq_ok.mp he₁, mapError_eq_ok.mp hview₁⟩
  · rintro ⟨he, hview⟩
    exact ⟨e, mapError_eq_ok.mpr he, bind_eq_ok.mpr ⟨view, mapError_eq_ok.mpr hview, rfl⟩⟩

/-- A block goes through when its emission can be computed and settled and the store is open for the
state. -/
theorem exists_endBlock_of_emit {view : Ledger} (hp : params s = .ok p) (hst : state s = .ok st)
    (hopen : s.closed.get? stateKey = none) (h : emit p st l height = .ok (e, view)) :
    ∃ s', endBlock s l height = .ok (e, s', view.commit) ∧ params s' = .ok p ∧
      state s' = .ok e.state.unsigned ∧ s'.closed = s.closed := by
  obtain ⟨he, hview⟩ := emit_eq_ok.mp h
  obtain ⟨s', hs'⟩ := exists_setState hopen e.state
  exact ⟨s', endBlock_eq_ok.mpr ⟨p, st, view, hp, hst, he, hview, hs', rfl⟩,
    (params_setState hs').trans hp, state_setState hs', closed_put hs'⟩

/-- A block that could be processed, with what is on record before and after it: the same
parameters, and its own state without the sign of a zero. -/
theorem recorded_endBlock (hp : params s = .ok p) (hst : state s = .ok st)
    (h : endBlock s l height = .ok (e, s', l')) : processBlock height p st = .ok e ∧
      (∃ view, settle l p.denom e = .ok view ∧ l' = view.commit) ∧
      params s' = .ok p ∧ state s' = .ok e.state.unsigned := by
  obtain ⟨p', st', view, hp', hst', he, hview, hput, rfl⟩ := endBlock_eq_ok.mp h
  obtain rfl : p = p' := Except.ok.inj (hp.symm.trans hp')
  obtain rfl : st = st' := Except.ok.inj (hst.symm.trans hst')
  exact ⟨he, ⟨view, hview, rfl⟩, (params_setState hput).trans hp, state_setState hput⟩

theorem runBlocks_cons_eq_ok : runBlocks s l (height :: heights) = .ok (es, s', l') ↔
    ∃ e es₁ s₁ l₁, es = e :: es₁ ∧ endBlock s l height = .ok (e, s₁, l₁) ∧
      runBlocks s₁ l₁ heights = .ok (es₁, s', l') := by
  rw [runBlocks, bind_eq_ok]
  constructor
  · rintro ⟨⟨e, s₁, l₁⟩, hblock, h⟩
    obtain ⟨⟨es₁, s₂, l₂⟩, hrest, h⟩ := bind_eq_ok.mp h
    obtain ⟨rfl, rfl, rfl⟩ : e :: es₁ = es ∧ s₂ = s' ∧ l₂ = l' := by
      simpa only [Prod.mk.injEq] using Except.ok.inj h
    exact ⟨e, es₁, s₁, l₁, rfl, hblock, hrest⟩
  · rintro ⟨e, es₁, s₁, l₁, rfl, hblock, hrest⟩
    exact ⟨(e, s₁, l₁), hblock, bind_eq_ok.mpr ⟨(es₁, s', l'), hrest, rfl⟩⟩

theorem runBlocks_nil_eq_ok :
    runBlocks s l [] = .ok (es, s', l') ↔ es = [] ∧ s' = s ∧ l' = l := by
  constructor
  · intro h
    obtain ⟨rfl, rfl, rfl⟩ : [] = es ∧ s = s' ∧ l = l' := by
      simpa only [Prod.mk.injEq] using Except.ok.inj h
    exact ⟨rfl, rfl, rfl⟩
  · rintro ⟨rfl, rfl, rfl⟩
    rfl

/-- The first block of a run, and what it leaves for the others: the same parameters, and its own
state without the sign of a zero. -/
theorem first_of_runBlocks (hp : params s = .ok p)
    (h : runBlocks s l (height :: heights) = .ok (es, s', l')) :
    ∃ e es₁ s₁ st view, es = e :: es₁ ∧ state s = .ok st ∧ processBlock height p st = .ok e ∧
      settle l p.denom e = .ok view ∧ params s₁ = .ok p ∧ state s₁ = .ok e.state.unsigned ∧
      runBlocks s₁ view.commit heights = .ok (es₁, s', l') := by
  obtain ⟨e, es₁, s₁, l₁, rfl, hblock, hrest⟩ := runBlocks_cons_eq_ok.mp h
  obtain ⟨-, st, -, -, hst, -⟩ := endBlock_eq_ok.mp hblock
  obtain ⟨he, ⟨view, hview, rfl⟩, hp₁, hst₁⟩ := recorded_endBlock hp hst hblock
  exact ⟨e, es₁, s₁, st, view, rfl, hst, he, hview, hp₁, hst₁, hrest⟩

/-! ## The state from block to block -/

theorem emissions_cons_eq_ok {final : EmissionState} :
    emissions p st (height :: heights) = .ok (es, final) ↔ ∃ e es₁, es = e :: es₁ ∧
      processBlock height p st = .ok e ∧ emissions p e.state heights = .ok (es₁, final) := by
  rw [emissions, bind_eq_ok]
  constructor
  · rintro ⟨e, he, h⟩
    obtain ⟨⟨es₁, final₁⟩, hrest, h⟩ := bind_eq_ok.mp h
    obtain ⟨rfl, rfl⟩ : e :: es₁ = es ∧ final₁ = final := by
      simpa only [Prod.mk.injEq] using Except.ok.inj h
    exact ⟨e, es₁, rfl, he, hrest⟩
  · rintro ⟨e, es₁, rfl, he, hrest⟩
    exact ⟨e, he, bind_eq_ok.mpr ⟨(es₁, final), hrest, rfl⟩⟩

theorem params_runBlocks (hp : params s = .ok p)
    (h : runBlocks s l heights = .ok (es, s', l')) : params s' = .ok p := by
  induction heights generalizing s l es with
  | nil =>
    obtain ⟨-, rfl, -⟩ := runBlocks_nil_eq_ok.mp h
    exact hp
  | cons height heights ih =>
    obtain ⟨e, es₁, s₁, st, view, -, -, -, -, hp₁, -, hrest⟩ := first_of_runBlocks hp h
    exact ih hp₁ hrest

/-- The emissions that were settled and the state that is left in the store are those computed
from the stored state, up to the sign of a zero, which no comparison of decimals sees. -/
theorem emissions_of_runBlocks {st₀ : EmissionState} (hp : params s = .ok p)
    (hst : state s = .ok st) (hst₀ : st.unsigned = st₀.unsigned)
    (h : runBlocks s l heights = .ok (es, s', l')) :
    ∃ es₀ final stored, emissions p st₀ heights = .ok (es₀, final) ∧
      es.map Emission.unsigned = es₀.map Emission.unsigned ∧
      state s' = .ok stored ∧ stored.unsigned = final.unsigned := by
  -- the stored and the computed state may part at the sign of a zero, so they are told apart
  induction heights generalizing s l es st st₀ with
  | nil =>
    obtain ⟨rfl, rfl, -⟩ := runBlocks_nil_eq_ok.mp h
    exact ⟨[], st₀, st, rfl, rfl, hst, hst₀⟩
  | cons height heights ih =>
    obtain ⟨e, es₁, s₁, st', view, rfl, hst', he, -, hp₁, hst₁, hrest⟩ := first_of_runBlocks hp h
    obtain rfl : st = st' := Except.ok.inj (hst.symm.trans hst')
    obtain ⟨e₀, he₀, hunsigned⟩ := processBlock_congr hst₀ he
    have hnext : e.state.unsigned.unsigned = e₀.state.unsigned := by
      rw [EmissionState.unsigned_unsigned]
      exact congrArg Emission.state hunsigned
    obtain ⟨es₀, final, stored, hes₀, hes, hstored, hfinal⟩ :=
      ih hp₁ hst₁ hnext hrest
    refine ⟨e₀ :: es₀, final, stored, emissions_cons_eq_ok.mpr ⟨e₀, es₀, rfl, he₀, hes₀⟩, ?_,
      hstored, hfinal⟩
    rw [List.map_cons, List.map_cons, hunsigned, hes]

/-! ## The ledger from block to block -/

variable {mint : Address}

/-- A book is left with the totals of the blocks minted and their payments made. -/
theorem settled_runBlocks (hl : l.under? = none) (hp : params s = .ok p)
    (hmint : l.moduleAddress? mintModule = some mint) (hhas : (l.account? mint).isSome)
    (h : runBlocks s l heights = .ok (es, s', l')) :
    Settled mint l (fun d ↦ if p.denom = d then (es.map (·.total.toNat)).sum else 0)
      (es.flatMap (·.payments)) l' := by
  induction heights generalizing s l es with
  | nil =>
    obtain ⟨rfl, -, rfl⟩ := runBlocks_nil_eq_ok.mp h
    have hnone : (fun d ↦ if p.denom = d then 0 else 0) = fun _ : String ↦ 0 := by
      funext d
      exact ite_self 0
    show Settled mint _ (fun d ↦ if p.denom = d then 0 else 0) [] _
    rw [hnone]
    exact settled_nil mint _
  | cons height heights ih =>
    obtain ⟨e, es₁, s₁, st, view, rfl, -, -, hview, hp₁, -, hrest⟩ := first_of_runBlocks hp h
    have hkeyed : l.Keyed := by
      obtain ⟨b, rfl⟩ := exists_eq_book hl
      trivial
    have hfirst := settled_settle hkeyed hview hmint hhas
    have hhas₁ : (view.commit.account? mint).isSome := by
      rw [hfirst.account, Option.or_of_isSome hhas]
      exact hhas
    have hrest' := ih (hfirst.under.trans hl) hp₁
      ((hfirst.moduleAddress mintModule).trans hmint) hhas₁ hrest
    have hsum : (fun d ↦ if p.denom = d then ((e :: es₁).map (·.total.toNat)).sum else 0)
        = fun d ↦ (if p.denom = d then e.total.toNat else 0)
          + if p.denom = d then (es₁.map (·.total.toNat)).sum else 0 := by
      funext d
      split
      · rw [List.map_cons, List.sum_cons]
      · rfl
    rw [hsum, List.flatMap_cons]
    exact hfirst.trans hrest'

/-! ## Runs on a book -/

theorem processBlock_of_mem_runBlocks (hp : params s = .ok p)
    (h : runBlocks s l heights = .ok (es, s', l')) :
    ∀ e ∈ es, ∃ height st, processBlock height p st = .ok e := by
  induction heights generalizing s l es with
  | nil =>
    obtain ⟨rfl, -, -⟩ := runBlocks_nil_eq_ok.mp h
    exact fun e he ↦ absurd he List.not_mem_nil
  | cons height heights ih =>
    obtain ⟨e, es₁, s₁, st, view, rfl, -, he, -, hp₁, -, hrest⟩ := first_of_runBlocks hp h
    exact List.forall_mem_cons.mpr ⟨⟨height, st, he⟩, ih hp₁ hrest⟩

theorem paidIn_of_denom {xs : List Payment} {denom : String}
    (h : ∀ x ∈ xs, x.amount.denom = denom) (d : String) :
    paidIn xs d = if denom = d then unitsOf xs else 0 := by
  induction xs with
  | nil => exact (ite_self 0).symm
  | cons x xs ih =>
    obtain ⟨hx, hxs⟩ := List.forall_mem_cons.mp h
    rw [paidIn, List.map_cons, Coins.unitsIn_cons, hx]
    have hrest := ih hxs
    rw [paidIn] at hrest
    rw [hrest, unitsOf, unitsOf, List.map_cons, List.sum_cons]
    split
    · rfl
    · rfl

/-- The payments of some blocks come to the sum of their totals. -/
theorem unitsOf_flatMap_payments (hp : p.entryCount < 1 <<< 62)
    (h : ∀ e ∈ es, ∃ height st, processBlock height p st = .ok e) :
    unitsOf (es.flatMap (·.payments)) = (es.map (·.total.toNat)).sum := by
  induction es with
  | nil => rfl
  | cons e es ih =>
    obtain ⟨⟨height, st, he⟩, hes⟩ := List.forall_mem_cons.mp h
    rw [List.flatMap_cons, unitsOf_append, ih hes, List.map_cons, List.sum_cons, toNat_total hp he]

theorem paidIn_flatMap_payments (hp : p.entryCount < 1 <<< 62)
    (h : ∀ e ∈ es, ∃ height st, processBlock height p st = .ok e) (d : String) :
    paidIn (es.flatMap (·.payments)) d
      = if p.denom = d then (es.map (·.total.toNat)).sum else 0 := by
  have hdenom : ∀ x ∈ es.flatMap (·.payments), x.amount.denom = p.denom := by
    intro x hx
    obtain ⟨e, he, hx⟩ := List.mem_flatMap.mp hx
    obtain ⟨height, st, hblock⟩ := h e he
    exact denom_of_mem_payments (scheduleLength_lt hp) hblock hx
  rw [paidIn_of_denom hdenom, unitsOf_flatMap_payments hp h]

/-- A book after the emissions of some blocks, exactly: the totals minted, every payment with its
recipient, an account for everyone who was paid, and the rest as it was. -/
structure PaidOut (p : Params) (b : Book) (es : List Emission) (b' : Book) : Prop where
  supply : ∀ d, (b'.supply d).toNat
    = (b.supply d).toNat + if d = p.denom then (es.map (·.total.toNat)).sum else 0
  balance : ∀ a d, (b'.balance ⟨a, d⟩).toNat
    = (b.balance ⟨a, d⟩).toNat + paidTo (.book b) (es.flatMap (·.payments)) a d
  supplyEntry : ∀ d, d ≠ p.denom → b'.supplies.get? d = b.supplies.get? d
  account : ∀ a, b'.account? a = (b.account? a).or
    (if (es.flatMap (·.payments)).any (paysTo (.book b) a) then some (.fresh a) else none)
  modules : b'.modules = b.modules

/-- A module is registered, under whatever address, and has its account. -/
def HasModule (b : Book) (name : String) : Prop :=
  ∃ a, b.modules.get? name = some a ∧ (b.account? a).isSome

theorem hasModule_register (b : Book) (name : String) : HasModule (b.register name) name := by
  have haddress := moduleAddress?_register b name name
  rw [if_pos rfl] at haddress
  exact ⟨.ofModule name, haddress, isSome_account?_register b name⟩

/-- Registering another module keeps the ones that are there. -/
theorem HasModule.register {b : Book} {name : String} (h : HasModule b name) (name' : String) :
    HasModule (b.register name') name := by
  by_cases hname : name = name'
  · rw [← hname]
    exact hasModule_register b name
  · obtain ⟨a, ha, haccount⟩ := h
    have haddress := moduleAddress?_register b name' name
    rw [if_neg hname] at haddress
    exact ⟨a, haddress.trans ha, (develops_register b name').isSome_account? haccount⟩

theorem hasModule_standard {name : String}
    (h : name ∈ [mintModule, feeCollector, communityPool]) : HasModule .standard name := by
  rw [Book.standard_eq]
  simp only [List.mem_cons, List.not_mem_nil, or_false] at h
  obtain rfl | rfl | rfl := h
  · exact (hasModule_register _ _).register _
  · exact ((hasModule_register _ _).register _).register _
  · exact hasModule_register _ _

/-- **The keeper settles what is computed.** Over every run of blocks that the keeper can process,
the emissions and the stored state are those computed from block to block, and the book is left
with these emissions paid out, to the unit and whoever the recipients are. -/
theorem runBlocks_paidOut {b : Book} (hmint : HasModule b mintModule) (hp : params s = .ok p)
    (hst : state s = .ok st) (hentries : p.entryCount < 1 <<< 62)
    (h : runBlocks s (.book b) heights = .ok (es, s', l')) :
    (∃ es₀ final stored, emissions p st heights = .ok (es₀, final) ∧
      es.map Emission.unsigned = es₀.map Emission.unsigned ∧
      state s' = .ok stored ∧ stored.unsigned = final.unsigned ∧ params s' = .ok p) ∧
    ∃ b', l' = .book b' ∧ PaidOut p b es b' := by
  constructor
  · obtain ⟨es₀, final, stored, hes₀, hes, hstored, hfinal⟩ :=
      emissions_of_runBlocks hp hst rfl h
    exact ⟨es₀, final, stored, hes₀, hes, hstored, hfinal, params_runBlocks hp h⟩
  · obtain ⟨mint, hmodule, hhas⟩ := hmint
    have hsettled := settled_runBlocks (l := .book b) rfl hp hmodule hhas h
    have hpaid := paidIn_flatMap_payments hentries (processBlock_of_mem_runBlocks hp h)
    obtain ⟨b', rfl⟩ := exists_eq_book hsettled.under
    refine ⟨b', rfl, ⟨fun d ↦ ?_, fun a d ↦ ?_, fun d hd ↦ ?_, hsettled.account, ?_⟩⟩
    · rw [ite_congr (propext eq_comm) (fun _ ↦ rfl) fun _ ↦ rfl]
      exact hsettled.supply d
    · -- what was minted to the mint's own account is what was paid out of it
      have hbalance := hsettled.balance a d
      rw [hpaid d] at hbalance
      exact Nat.add_right_cancel (hbalance.trans (Nat.add_right_comm _ _ _))
    · exact hsettled.supplyEntry d (if_neg (Ne.symm hd))
    · exact SortedMap.ext_get? hsettled.moduleAddress

/-- The standard parameters with recipients that coincide: with each other, with module accounts
and with the mint itself, which also has seven units to vest in the first month. -/
def selfVesting : Params :=
  { Params.standard with
    receivers := [⟨.ofModule mintModule, [7]⟩]
    usageIncentiveAddress := .ofModule mintModule
    grantsProgramAddress := .ofModule feeCollector
    teamReserveAddress := .ofModule mintModule }

/-- Two blocks, of which the first also pays the mint's own account. -/
theorem runBlocks_paidOut_selfVesting :
    ∃ s es s' b', params s = .ok selfVesting ∧
      runBlocks s (.book .standard) [1, 2] = .ok (es, s', .book b') ∧
      es.map (·.total.toNat) = [47000007, 47000000] ∧ PaidOut selfVesting .standard es b' := by
  obtain ⟨s, hopen, hp, hst⟩ := exists_recorded selfVesting (.genesis selfVesting .standard)
  have hp : params s = .ok selfVesting := hp
  have hcomputes : (do
      let (e₁, v₁) ← emit selfVesting (.genesis selfVesting .standard) (.book .standard) 1
      let (e₂, _) ← emit selfVesting e₁.state.unsigned v₁.commit 2
      return [e₁.total.toNat, e₂.total.toNat]) = .ok [47000007, 47000000] := by
    decide +kernel
  simp only [bind_eq_ok, Prod.exists] at hcomputes
  obtain ⟨e₁, v₁, h₁, e₂, v₂, h₂, htotals⟩ := hcomputes
  obtain ⟨s₁, hblock₁, hp₁, hst₁, hclosed⟩ := exists_endBlock_of_emit hp hst hopen h₁
  rw [← hclosed] at hopen
  obtain ⟨s₂, hblock₂, -⟩ := exists_endBlock_of_emit hp₁ hst₁ hopen h₂
  have hrun : runBlocks s (.book .standard) [1, 2] = .ok ([e₁, e₂], s₂, v₂.commit) :=
    runBlocks_cons_eq_ok.mpr ⟨e₁, [e₂], s₁, v₁.commit, rfl, hblock₁,
      runBlocks_cons_eq_ok.mpr ⟨e₂, [], s₂, v₂.commit, rfl, hblock₂, rfl⟩⟩
  have hmint : HasModule .standard mintModule := hasModule_standard List.mem_cons_self
  obtain ⟨b', hb', hpaid⟩ := (runBlocks_paidOut hmint hp hst (by decide) hrun).2
  rw [hb'] at hrun
  exact ⟨s, [e₁, e₂], s₂, b', hp, hrun, Except.ok.inj htotals, hpaid⟩

end Keeper

end Tokenomics

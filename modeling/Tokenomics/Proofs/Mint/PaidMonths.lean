import Tokenomics.Proofs.Mint.Blocks

/-!
# Every month is paid once

The keeper may be called with heights in any order, its parameters may change between two blocks,
and any of the calls may fail. None of that matters to vesting. A block that succeeds pays for
exactly the months from the stored one before it to the stored one after it
(`vesting_processBlock`), and no other call changes the stored month. So along a run the blocks
divide the months among themselves (`inTurn_run`): put together, what they pay for is one run of
consecutive months, `InTurn.months_eq`, and with the same receivers throughout it is what the table
has for these months, `InTurn.sum_unitsTo`.

What a call can do to the records is said once (`Point.Reads.step_cases`): both stay readable, and
the parameters are those last accepted. The invariant of the induction, `Point.Stands`, adds the
month.

Where the records are known, a run can be followed on them alone, without the texts by which they
stand in the store (`Point.Keeps.run`).
-/

namespace Tokenomics

/-- Whether a payment is monthly vesting. -/
def Payment.vests (x : Payment) : Bool :=
  match x.allocation with
  | .developerVesting _ => true
  | .pool _ => false

/-- The monthly vesting that a block pays. -/
def Emission.vesting (e : Emission) : List Payment := e.payments.filter Payment.vests

/-! ## One block -/

theorem vests_of_mem_vestingDue {p : Params} {o n : Nat} {x : Payment}
    (hx : x ∈ vestingDue p o n) : x.vests = true := by
  obtain ⟨k, r, -, m, -, rfl⟩ := eq_of_mem_vestingDue hx
  rfl

theorem vestingDue_self (p : Params) (o : Nat) : vestingDue p o o = [] := by
  rw [vestingDue, Nat.sub_self]
  rfl

/-- What a block pays to the developers, and that the month does not move back. -/
theorem vesting_processBlock {height : UInt64} {p : Params} {st : EmissionState} {e : Emission}
    (hp : scheduleLength p.receivers < 1 <<< 64 - 1) (h : processBlock height p st = .ok e) :
    st.cursor.months.toNat ≤ e.state.cursor.months.toNat ∧
      e.vesting = vestingDue p st.cursor.months.toNat e.state.cursor.months.toNat := by
  obtain ⟨-, rfl⟩ | ⟨-, st₁, reduced, pools, hst₁, hpools, rfl⟩ := processBlock_eq_ok.mp h
  · -- before the start block the state stays
    exact ⟨Nat.le_refl _, (vestingDue_self p _).symm⟩
  · have hpool : pools.filter Payment.vests = [] := by
      rw [List.filter_eq_nil_iff]
      intro x hx
      obtain ⟨pool, product, -, -, rfl⟩ := eq_of_mem_poolPayments hpools hx
      exact Bool.false_ne_true
    rw [← cursor_applyReduction hst₁]
    refine ⟨MonthCursor.months_le_moveTo _ _, ?_⟩
    rw [Emission.vesting, List.filter_append, hpool, List.nil_append,
      vestingPayments_advance p hp, List.filter_eq_self.mpr fun x hx ↦ vests_of_mem_vestingDue hx]

namespace Keeper

/-! ## Runs -/

/-- A call to the keeper, or the store being closed or opened for writing under a key. A block is
settled on whatever the ledger is at that time. -/
inductive Call where
  | endBlock (l : Ledger) (height : UInt64)
  | setParams (p : Params)
  | close (key : String) (e : StoreError)
  | reopen (key : String)

/-- The keeper in the middle of a run: the parameters last accepted, and its store. -/
structure Point where
  params : Params
  store : Store

/-- A block that succeeded, with the parameters in force and the store before and after it. -/
structure Block where
  params : Params
  before : Store
  emission : Emission
  after : Store

/-- What a call leads to, and the block if it is one that succeeds. A call that fails changes
nothing. -/
def step (c : Point) : Call → List Block × Point
  | .endBlock l height =>
    match endBlock c.store l height with
    | .ok (e, s, _) => ([⟨c.params, c.store, e, s⟩], { c with store := s })
    | .error _ => ([], c)
  | .setParams p =>
    match Keeper.setParams c.store p with
    | .ok s => ([], ⟨p, s⟩)
    | .error _ => ([], c)
  | .close key e => ([], { c with store := c.store.close key e })
  | .reopen key => ([], { c with store := c.store.reopen key })

/-- The blocks that succeed along a run of calls, and where it leads. -/
def run (c : Point) : List Call → List Block × Point
  | [] => ([], c)
  | call :: calls =>
    let (blocks, c) := step c call
    let (rest, c) := run c calls
    (blocks ++ rest, c)

/-- The stored month. -/
def monthOf (s : Store) : Option Nat := (state s).toOption.map (·.cursor.months.toNat)

/-- The months that a block enters: those after the stored one before it, up to the stored one
after it. -/
def Block.months (b : Block) : List Nat :=
  match monthOf b.before, monthOf b.after with
  | some o, some n => List.range' (o + 1) (n - o)
  | _, _ => []

/-- A block that takes the stored month from `o` to `n` and pays for the months in between. -/
structure Block.Pays (b : Block) (o n : Nat) : Prop where
  monthOf_before : monthOf b.before = some o
  monthOf_after : monthOf b.after = some n
  le : o ≤ n
  vesting_eq : b.emission.vesting = vestingDue b.params o n

/-- Blocks that take the stored month from `o` to `m`, each paying from where the one before it has
stopped. -/
inductive InTurn : Nat → List Block → Nat → Prop
  | nil (m : Nat) : InTurn m [] m
  | cons {o n m : Nat} {b : Block} {bs : List Block} (hb : b.Pays o n) (hbs : InTurn n bs m) :
      InTurn o (b :: bs) m

/-- The records of the keeper are readable: the parameters are those last accepted, and the state
is `st`. -/
structure Point.Reads (c : Point) (st : EmissionState) : Prop where
  params : Keeper.params c.store = .ok c.params.unsigned
  state : Keeper.state c.store = .ok st

/-- The keeper stands in month `m`: its records are readable, and the parameters are those last
accepted. -/
structure Point.Stands (c : Point) (m : Nat) : Prop where
  schedule : scheduleLength c.params.receivers < 1 <<< 64 - 1
  params : Keeper.params c.store = .ok c.params.unsigned
  state : ∃ st, Keeper.state c.store = .ok st ∧ st.cursor.months.toNat = m

theorem Point.Reads.monthOf_eq {c : Point} {st : EmissionState} (h : c.Reads st) :
    monthOf c.store = some st.cursor.months.toNat := by
  rw [monthOf, h.state]
  rfl

theorem Point.Stands.monthOf_eq {c : Point} {m : Nat} (h : c.Stands m) :
    monthOf c.store = some m := by
  obtain ⟨st, hst, rfl⟩ := h.state
  exact Point.Reads.monthOf_eq ⟨h.params, hst⟩

theorem Block.months_of_monthOf {b : Block} {o n : Nat} (h : monthOf b.before = some o)
    (h' : monthOf b.after = some n) : b.months = List.range' (o + 1) (n - o) := by
  rw [months, h, h']

/-! ## One call -/

variable {s s' : Store} {c : Point} {m : Nat}

theorem checked_eq_ok {r : Except ParamsError Unit} : checked r = .ok () ↔ r = .ok () := by
  rw [checked.eq_def]
  split
  · exact iff_of_true rfl rfl
  · exact ⟨fun h ↦ (nomatch h), fun h ↦ (nomatch h)⟩
  · exact ⟨fun h ↦ (nomatch h), fun h ↦ (nomatch h)⟩

theorem setParams_eq_ok {p : Params} : Keeper.setParams s p = .ok s' ↔
    p.validate = .ok () ∧ ∃ s₁, put s paramsKey p = .ok s₁ ∧ s' = s₁.flush := by
  rw [Keeper.setParams, check_bind_eq_ok, checked_eq_ok, bind_eq_ok]
  refine and_congr_right fun _ ↦ exists_congr fun s₁ ↦ and_congr_right fun _ ↦ ?_
  exact ⟨fun h ↦ (Except.ok.inj h).symm, fun h ↦ congrArg _ h.symm⟩

theorem initGenesis_eq_ok {g : Genesis} : initGenesis s g = (s', .ok ()) ↔
    g.validate = .ok () ∧ ∃ s₁ s₂, put s paramsKey g.params = .ok s₁ ∧
      setState s₁ g.state = .ok s₂ ∧ s' = s₂.flush := by
  rw [initGenesis]
  constructor
  · intro h
    split at h
    · exact nomatch (Prod.ext_iff.mp h).2
    rename_i hvalid
    split at h
    · exact nomatch (Prod.ext_iff.mp h).2
    rename_i s₁ hs₁
    split at h
    · exact nomatch (Prod.ext_iff.mp h).2
    rename_i s₂ hs₂
    exact ⟨checked_eq_ok.mp hvalid, s₁, s₂, hs₁, hs₂, (Prod.ext_iff.mp h).1.symm⟩
  · rintro ⟨hvalid, s₁, s₂, hs₁, hs₂, rfl⟩
    rw [setState] at hs₂
    simp only [checked_eq_ok.mpr hvalid, hs₁, hs₂]

/-- A genesis that was written is on record. -/
theorem reads_initGenesis {g : Genesis} (hg : initGenesis s g = (s', .ok ())) :
    Point.Reads ⟨g.params, s'⟩ g.state.unsigned := by
  obtain ⟨-, s₁, s₂, hs₁, hs₂, rfl⟩ := initGenesis_eq_ok.mp hg
  have hparams : Keeper.params s₂ = .ok g.params.unsigned :=
    (params_setState hs₂).trans (required_put hs₁ (Codec.restores_params g.params))
  have hstate : Keeper.state s₂ = .ok g.state.unsigned := state_setState hs₂
  exact ⟨hparams, hstate⟩

/-- A genesis is written to a store that is open for the state, and opens and closes nothing. -/
theorem closed_initGenesis {g : Genesis} (hg : initGenesis s g = (s', .ok ())) :
    s.closed.get? stateKey = none ∧ s'.closed = s.closed := by
  obtain ⟨-, s₁, s₂, hs₁, hs₂, rfl⟩ := initGenesis_eq_ok.mp hg
  obtain ⟨hopen, -⟩ := Store.putRecord_eq_ok.mp (put_eq_ok.mp hs₂)
  rw [closed_put hs₁] at hopen
  exact ⟨hopen, (closed_put hs₂).trans (closed_put hs₁)⟩

/-- A store with the same values has the same records. -/
theorem Point.Reads.of_values_eq {st : EmissionState} (h : c.Reads st)
    (hvalues : s'.values = c.store.values) : Point.Reads ⟨c.params, s'⟩ st :=
  ⟨(required_congr hvalues paramsKey).trans h.params,
    (required_congr hvalues stateKey).trans h.state⟩

/-- Parameters that were accepted are on record, and the state is as it was. -/
theorem Point.Reads.setParams {st : EmissionState} {p : Params} (h : c.Reads st)
    (hset : Keeper.setParams c.store p = .ok s') : Point.Reads ⟨p, s'⟩ st := by
  obtain ⟨-, s₁, hs₁, rfl⟩ := setParams_eq_ok.mp hset
  have hparams : Keeper.params s₁ = .ok p.unsigned := required_put hs₁ (Codec.restores_params p)
  have hstate : Keeper.state s₁ = .ok st := (required_put_of_ne hs₁ (by decide)).trans h.state
  exact ⟨hparams, hstate⟩

/-- What a call can do to the records: it is a block that succeeds and writes its state, or it sets
valid parameters, or it leaves both as they are. -/
theorem Point.Reads.step_cases {st : EmissionState} (h : c.Reads st) (call : Call) :
    (∃ height e s', processBlock height c.params.unsigned st = .ok e ∧
      Keeper.step c call = ([⟨c.params, c.store, e, s'⟩], ⟨c.params, s'⟩) ∧
      Point.Reads ⟨c.params, s'⟩ e.state.unsigned) ∨
    (∃ p s', call = .setParams p ∧ p.validate = .ok () ∧ Keeper.step c call = ([], ⟨p, s'⟩) ∧
      Point.Reads ⟨p, s'⟩ st) ∨
    ∃ s', Keeper.step c call = ([], ⟨c.params, s'⟩) ∧ Point.Reads ⟨c.params, s'⟩ st := by
  cases call with
  | endBlock l height =>
    rw [Keeper.step]
    split
    · rename_i e s' l' hblock
      obtain ⟨he, -, hparams, hstate⟩ := recorded_endBlock h.params h.state hblock
      exact .inl ⟨height, e, s', he, rfl, hparams, hstate⟩
    · exact .inr (.inr ⟨c.store, rfl, h⟩)
  | setParams p =>
    rw [Keeper.step]
    split
    · rename_i s' hset
      obtain ⟨hvalid, -⟩ := setParams_eq_ok.mp hset
      exact .inr (.inl ⟨p, s', rfl, hvalid, rfl, h.setParams hset⟩)
    · exact .inr (.inr ⟨c.store, rfl, h⟩)
  | close key e => exact .inr (.inr ⟨_, rfl, h.of_values_eq rfl⟩)
  | reopen key => exact .inr (.inr ⟨_, rfl, h.of_values_eq rfl⟩)

/-- A genesis that was written leaves the keeper in the month of the genesis. -/
theorem stands_initGenesis {g : Genesis} (hg : initGenesis s g = (s', .ok ()))
    (hp : scheduleLength g.params.receivers < 1 <<< 64 - 1) :
    Point.Stands ⟨g.params, s'⟩ g.state.cursor.months.toNat := by
  obtain ⟨hparams, hstate⟩ := reads_initGenesis hg
  exact ⟨hp, hparams, g.state.unsigned, hstate, rfl⟩

/-- One call leads from month to month, and a block among the calls pays for the way. -/
theorem Point.Stands.step {call : Call} (h : c.Stands m)
    (hcall : ∀ p, call = .setParams p → scheduleLength p.receivers < 1 <<< 64 - 1) :
    ∃ n, InTurn m (Keeper.step c call).1 n ∧ (Keeper.step c call).2.Stands n := by
  obtain ⟨st, hst, rfl⟩ := h.state
  have hreads : c.Reads st := ⟨h.params, hst⟩
  obtain ⟨height, e, s', he, hstep, hreads'⟩ | ⟨p, s', rfl, -, hstep, hreads'⟩ |
    ⟨s', hstep, hreads'⟩ := hreads.step_cases call
  · obtain ⟨hle, hvesting⟩ := vesting_processBlock (p := c.params.unsigned) h.schedule he
    have hstands : Point.Stands ⟨c.params, s'⟩ e.state.cursor.months.toNat :=
      ⟨h.schedule, hreads'.params, e.state.unsigned, hreads'.state, rfl⟩
    rw [hstep]
    exact ⟨_, .cons ⟨h.monthOf_eq, hstands.monthOf_eq, hle, hvesting⟩ (.nil _), hstands⟩
  · rw [hstep]
    exact ⟨_, .nil _, hcall p rfl, hreads'.params, st, hreads'.state, rfl⟩
  · rw [hstep]
    exact ⟨_, .nil _, h.schedule, hreads'.params, st, hreads'.state, rfl⟩

/-! ## Runs of calls -/

namespace InTurn

variable {o n : Nat} {bs cs : List Block}

theorem append (h : InTurn o bs n) (h' : InTurn n cs m) : InTurn o (bs ++ cs) m := by
  induction h with
  | nil => exact h'
  | cons hb _ ih => exact .cons hb (ih h')

theorem le (h : InTurn o bs m) : o ≤ m := by
  induction h with
  | nil => exact Nat.le_refl _
  | cons hb _ ih => exact Nat.le_trans hb.le ih

theorem exists_pays (h : InTurn o bs m) {b : Block} (hb : b ∈ bs) : ∃ i j, b.Pays i j := by
  induction h with
  | nil => exact absurd hb List.not_mem_nil
  | cons hpays _ ih =>
    rcases List.mem_cons.mp hb with rfl | hb
    · exact ⟨_, _, hpays⟩
    · exact ih hb

/-- The months that the blocks enter are the months in between, each once and in order. -/
theorem months_eq (h : InTurn o bs m) : bs.flatMap Block.months = List.range' (o + 1) (m - o) := by
  induction h with
  | nil m =>
    rw [Nat.sub_self]
    rfl
  | @cons o n m b bs hb hbs ih =>
    have hle := hb.le
    have hle' := hbs.le
    have hmonths := Block.months_of_monthOf hb.monthOf_before hb.monthOf_after
    have hrange := List.range'_append_1 (s := o + 1) (m := n - o) (n := m - n)
    rw [show o + 1 + (n - o) = n + 1 by omega, show n - o + (m - n) = m - o by omega] at hrange
    rw [List.flatMap_cons, hmonths, ih, hrange]

/-- As long as the table stays the same, what the blocks pay to some accounts is what their entries
in the table have for the months in between. -/
theorem sum_unitsTo (h : InTurn o bs m) {p : Params} (q : Address → Bool)
    (hp : ∀ b ∈ bs, b.params.receivers = p.receivers) :
    (bs.map fun b ↦ (b.emission.vesting.map (Payment.unitsTo q)).sum).sum
      = (p.receivers.map fun r ↦ if q r.address then r.unitsDue o m else 0).sum := by
  rw [← sum_vestingDue]
  -- along the blocks, the table being read from month `o` on by the first of them
  induction h with
  | nil m =>
    rw [vestingDue_self]
    rfl
  | @cons o n m b bs hb hbs ih =>
    obtain ⟨hreceivers, hp⟩ := List.forall_mem_cons.mp hp
    rw [List.map_cons, List.sum_cons, ih hp, hb.vesting_eq, sum_vestingDue, hreceivers,
      ← sum_vestingDue, ← vestingDue_append p hb.le hbs.le, List.map_append, List.sum_append]

end InTurn

theorem run_cons (c : Point) (call : Call) (calls : List Call) :
    run c (call :: calls) = ((step c call).1 ++ (run (step c call).2 calls).1,
      (run (step c call).2 calls).2) := rfl

theorem run_append (c : Point) (calls calls' : List Call) :
    run c (calls ++ calls')
      = ((run c calls).1 ++ (run (run c calls).2 calls').1, (run (run c calls).2 calls').2) := by
  induction calls generalizing c with
  | nil => rfl
  | cons call calls ih =>
    rw [List.cons_append, run_cons, ih, run_cons, List.append_assoc]

/-- Along a run the blocks that succeed pay for the months in turn. -/
theorem inTurn_run {calls : List Call} (h : c.Stands m)
    (hcalls : ∀ p, .setParams p ∈ calls → scheduleLength p.receivers < 1 <<< 64 - 1) :
    ∃ n, InTurn m (run c calls).1 n ∧ (run c calls).2.Stands n := by
  induction calls generalizing c m with
  | nil => exact ⟨m, .nil m, h⟩
  | cons call calls ih =>
    obtain ⟨n, hblocks, hstands⟩ := h.step fun p hp ↦ hcalls p (hp ▸ List.mem_cons_self)
    obtain ⟨k, hrest, hstands'⟩ := ih hstands fun p hp ↦ hcalls p (List.mem_cons_of_mem call hp)
    exact ⟨k, hblocks.append hrest, hstands'⟩

/-! ## Runs on the records -/

/-- What the calls to a keeper depend on: the parameters last accepted, the state, and the keys that
are closed for writing. -/
structure Records where
  params : Params
  state : EmissionState
  closed : SortedMap String StoreError

namespace Records

/-- A call on the records alone: the block that succeeds, if any, as the months it enters and its
emission, and the records after it. -/
def step (r : Records) : Call → Option (List Nat × Emission) × Records
  | .endBlock l height =>
    match r.closed.get? stateKey, emit r.params.unsigned r.state l height with
    | none, .ok (e, _) =>
      let o := r.state.cursor.months.toNat
      let n := e.state.cursor.months.toNat
      (some (List.range' (o + 1) (n - o), e), { r with state := e.state.unsigned })
    | _, _ => (none, r)
  | .setParams p =>
    match r.closed.get? paramsKey, p.validate with
    | none, .ok () => (none, { r with params := p })
    | _, _ => (none, r)
  | .close key e => (none, { r with closed := r.closed.insert key e })
  | .reopen key => (none, { r with closed := r.closed.erase key })

/-- The blocks that succeed along a run of calls, and the records after it. -/
def run (r : Records) : List Call → List (List Nat × Emission) × Records
  | [] => ([], r)
  | call :: calls =>
    let (block, r) := step r call
    let (blocks, r) := run r calls
    (block.toList ++ blocks, r)

end Records

/-- The records are those of the keeper. -/
structure Point.Keeps (c : Point) (r : Records) : Prop where
  params : c.params = r.params
  reads : c.Reads r.state
  closed : c.store.closed = r.closed

theorem keeps_initGenesis {g : Genesis} (hg : initGenesis s g = (s', .ok ())) :
    Point.Keeps ⟨g.params, s'⟩ ⟨g.params, g.state.unsigned, s.closed⟩ :=
  ⟨rfl, reads_initGenesis hg, (closed_initGenesis hg).2⟩

/-- A call does to a keeper what it does to its records: the same block succeeds, if any, and the
records are again those of the keeper. -/
def Point.InStep (c : Point) (r : Records) (call : Call) : Prop :=
  ((step c call).1.map fun b ↦ (b.months, b.emission)) = (r.step call).1.toList ∧
    (step c call).2.Keeps (r.step call).2

section InStep

variable {r : Records}

theorem Point.Keeps.inStep_endBlock (h : c.Keeps r) (l : Ledger) (height : UInt64) :
    c.InStep r (.endBlock l height) := by
  have ⟨hp, hreads, hclosed⟩ := h
  rw [Point.InStep, Keeper.step, Records.step, ← hclosed, ← hp]
  cases hblock : endBlock c.store l height with
  | ok result =>
    obtain ⟨e, s', l'⟩ := result
    obtain ⟨he, ⟨view, hview, -⟩, hparams, hstate⟩ :=
      recorded_endBlock hreads.params hreads.state hblock
    obtain ⟨hopen, hclosed'⟩ := closed_endBlock hblock
    have hreads' : Point.Reads ⟨c.params, s'⟩ e.state.unsigned := ⟨hparams, hstate⟩
    have hmonths := Block.months_of_monthOf (b := ⟨c.params, c.store, e, s'⟩)
      hreads.monthOf_eq hreads'.monthOf_eq
    rw [hopen, emit_eq_ok.mpr ⟨he, hview⟩]
    exact ⟨congrArg (fun months ↦ [(months, e)]) hmonths, rfl, hreads', hclosed'⟩
  | error err =>
    -- the store is closed, or there is nothing that could be settled
    cases hopen : c.store.closed.get? stateKey with
    | some _ => exact ⟨rfl, h⟩
    | none =>
      cases hemit : emit c.params.unsigned r.state l height with
      | error _ => exact ⟨rfl, h⟩
      | ok result =>
        obtain ⟨s', hblock', -⟩ := exists_endBlock_of_emit hreads.params hreads.state hopen hemit
        cases hblock.symm.trans hblock'

theorem Point.Keeps.inStep_setParams (h : c.Keeps r) (p : Params) :
    c.InStep r (.setParams p) := by
  have ⟨hp, hreads, hclosed⟩ := h
  rw [Point.InStep, Keeper.step, Records.step, ← hclosed]
  cases hset : Keeper.setParams c.store p with
  | ok s' =>
    obtain ⟨hvalid, s₁, hs₁, rfl⟩ := setParams_eq_ok.mp hset
    obtain ⟨hopen, -⟩ := Store.putRecord_eq_ok.mp (put_eq_ok.mp hs₁)
    have hclosed' : s₁.closed = c.store.closed := closed_put hs₁
    rw [hopen, hvalid]
    exact ⟨rfl, rfl, hreads.setParams hset, hclosed'⟩
  | error err =>
    cases hopen : c.store.closed.get? paramsKey with
    | some _ => exact ⟨rfl, h⟩
    | none =>
      cases hvalid : p.validate with
      | error _ => exact ⟨rfl, h⟩
      | ok _ =>
        obtain ⟨s₁, hs₁⟩ := exists_put hopen p
        cases hset.symm.trans (setParams_eq_ok.mpr ⟨hvalid, s₁, hs₁, rfl⟩)

theorem Point.Keeps.inStep (h : c.Keeps r) (call : Call) : c.InStep r call := by
  have hreads {s' : Store} (hvalues : s'.values = c.store.values) :=
    h.reads.of_values_eq hvalues
  cases call with
  | endBlock l height => exact h.inStep_endBlock l height
  | setParams p => exact h.inStep_setParams p
  | close key e => exact ⟨rfl, h.params, hreads rfl, congrArg (·.insert key e) h.closed⟩
  | reopen key => exact ⟨rfl, h.params, hreads rfl, congrArg (·.erase key) h.closed⟩

/-- A run of calls does to the keeper what it does to the records. -/
theorem Point.Keeps.run (h : c.Keeps r) (calls : List Call) :
    ((Keeper.run c calls).1.map fun b ↦ (b.months, b.emission)) = (r.run calls).1 ∧
      (Keeper.run c calls).2.Keeps (r.run calls).2 := by
  induction calls generalizing c r with
  | nil => exact ⟨rfl, h⟩
  | cons call calls ih =>
    obtain ⟨hblock, hkeeps⟩ := h.inStep call
    obtain ⟨hblocks, hkeeps'⟩ := ih hkeeps
    rw [run_cons, List.map_append, hblock, hblocks]
    exact ⟨rfl, hkeeps'⟩

end InStep

/-! ## Every month once -/

/-- What vesting comes to along a run of calls that takes the stored month from `o` to `m`. -/
structure PaidOnce (c : Point) (calls : List Call) (o m : Nat) : Prop where
  first : monthOf c.store = some o
  last : monthOf (run c calls).2.store = some m
  /-- The stored month never moves back. -/
  ascending : ∀ early calls' late, calls = early ++ calls' ++ late → ∃ i j,
    monthOf (run c early).2.store = some i ∧
      monthOf (run c (early ++ calls')).2.store = some j ∧ i ≤ j
  /-- Every block pays for the months it enters and for no others. -/
  pays : ∀ b ∈ (run c calls).1, ∃ i j, b.Pays i j
  /-- Every month in between is entered by one block, and no other month is. -/
  months_eq : (run c calls).1.flatMap Block.months = List.range' (o + 1) (m - o)
  /-- With the same receivers throughout, everyone gets what the table has for these months. -/
  sum_unitsTo : ∀ p : Params, (∀ b ∈ (run c calls).1, b.params.receivers = p.receivers) →
    ∀ a, ((run c calls).1.map fun b ↦ (b.emission.vesting.map (Payment.unitsTo (· = a))).sum).sum
      = (p.receivers.map fun r ↦ if r.address = a then r.unitsDue o m else 0).sum

/-- From a valid genesis on, whatever the heights and whatever is called in between, every month is
paid once. -/
theorem paidOnce_run {g : Genesis} {calls : List Call} (hg : initGenesis s g = (s', .ok ()))
    (hp : scheduleLength g.params.receivers < 1 <<< 64 - 1)
    (hcalls : ∀ p, .setParams p ∈ calls → scheduleLength p.receivers < 1 <<< 64 - 1) :
    ∃ m, PaidOnce ⟨g.params, s'⟩ calls g.state.cursor.months.toNat m := by
  have hstart := stands_initGenesis hg hp
  obtain ⟨m, hblocks, hend⟩ := inTurn_run hstart hcalls
  refine ⟨m, hstart.monthOf_eq, hend.monthOf_eq, ?_, fun b ↦ hblocks.exists_pays,
    hblocks.months_eq, fun p hreceivers a ↦ ?_⟩
  · rintro early calls' late rfl
    obtain ⟨i, -, hearly⟩ := inTurn_run hstart fun p hset ↦
      hcalls p (List.mem_append_left late (List.mem_append_left calls' hset))
    obtain ⟨j, hbetween, hlate⟩ := inTurn_run hearly fun p hset ↦
      hcalls p (List.mem_append_left late (List.mem_append_right early hset))
    rw [run_append]
    exact ⟨i, j, hearly.monthOf_eq, hlate.monthOf_eq, hbetween.le⟩
  · rw [hblocks.sum_unitsTo (· = a) hreceivers]
    simp only [decide_eq_true_eq]

/-- A receiver with three months, the second of them empty. -/
def threeMonths : Genesis where
  params := { Params.standard with receivers := [⟨.derive "developer", [5, 0, 7]⟩] }
  state := .genesis .standard .standard

/-- Calls by which a block comes late and again, the parameters change, and the state cannot be
written for a while. -/
def interruptedCalls : List Call :=
  [.endBlock (.book .standard) 10, .endBlock (.book .standard) 2000000,
    .endBlock (.book .standard) 10, .setParams .standard, .close stateKey .database,
    .endBlock (.book .standard) 3000000, .reopen stateKey, .endBlock (.book .standard) 3000000]

/-- Four blocks succeed. The third, which comes late, enters no month, and the last enters two in
which nobody is in the table any more. -/
theorem paidOnce_run_interruptedCalls : ∃ s, initGenesis .empty threeMonths = (s, .ok ()) ∧
    PaidOnce ⟨threeMonths.params, s⟩ interruptedCalls 0 6 ∧
    ((run ⟨threeMonths.params, s⟩ interruptedCalls).1.map fun b ↦
      (b.months, unitsOf b.emission.vesting)) = [([1], 5), ([2, 3, 4], 7), ([], 0), ([5, 6], 0)] := by
  have hvalid : threeMonths.validate = .ok () := by decide +kernel
  obtain ⟨s, hinit⟩ : ∃ s, initGenesis .empty threeMonths = (s, .ok ()) :=
    ⟨_, initGenesis_eq_ok.mpr ⟨hvalid, _, _, rfl, rfl, rfl⟩⟩
  have hcalls : ∀ p, .setParams p ∈ interruptedCalls →
      scheduleLength p.receivers < 1 <<< 64 - 1 := by
    intro p hp
    obtain rfl : p = .standard := by simpa [interruptedCalls] using hp
    decide
  obtain ⟨m, hpaid⟩ := paidOnce_run hinit (by decide +kernel) hcalls
  let r : Records := ⟨threeMonths.params, threeMonths.state.unsigned, ∅⟩
  have hkeeps : Point.Keeps ⟨threeMonths.params, s⟩ r := keeps_initGenesis hinit
  obtain ⟨hblocks, hkeeps'⟩ := hkeeps.run interruptedCalls
  have hcomputes : (r.run interruptedCalls).2.state.cursor.months.toNat = 6 ∧
      ((r.run interruptedCalls).1.map fun block ↦ (block.1, unitsOf block.2.vesting))
        = [([1], 5), ([2, 3, 4], 7), ([], 0), ([5, 6], 0)] := by
    decide +kernel
  have hlast := hkeeps'.reads.monthOf_eq
  rw [hcomputes.1, hpaid.last] at hlast
  obtain rfl : m = 6 := Option.some.inj hlast
  refine ⟨s, hinit, hpaid, ?_⟩
  rw [← hcomputes.2, ← hblocks, List.map_map, Function.comp_def]

end Keeper

end Tokenomics

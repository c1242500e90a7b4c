import Tokenomics.Proofs.Mint.Solvency

/-!
# Attempts at a block

A block touches two things, the store and the ledger, and it can fail at many places: between the
records it reads, after the mint, after any number of payments, and when the state is written.
`Keeper.endBlock` gives its result in one piece, so that nothing is left to be said about what a
failure leaves behind. Here a block is worked off step by step on a chain, where each step changes
what it changes and a failure undoes nothing (`Keeper.attempt`).

Two things make an attempt all or nothing. Minting and paying happen on a view, and whatever they
have done to it when they fail, the ledger under the view is still there (`Work.onView_eq`). And
the writes of the view are applied after the one write to the store, when nothing can fail any
more. So an attempt comes to what `endBlock` says (`comesTo_attempt`), and attempts that fail can
be struck out of everything that ever happens to a chain (`Event.runAll_effective`).
-/

namespace Tokenomics

namespace Ledger

/-- What is left of a ledger when a view is dropped: the ledger under it, in whatever state that
is. -/
def dropped : Ledger → Ledger
  | .book b => .book b
  | .view under _ => under

variable {l l' : Ledger}

theorem dropped_eq_of_under? (h : l'.under? = some l) : l'.dropped = l := by
  cases l' with
  | book b => exact nomatch h
  | view under w => exact Option.some.inj h

/-- A view over a ledger commits to that ledger with the view's writes applied. -/
theorem commit_eq_apply (h : l'.under? = some l) : l'.commit = l.apply l'.writes := by
  cases l' with
  | book b => exact nomatch h
  | view under w =>
    rw [← Option.some.inj h]
    rfl

end Ledger

namespace Keeper

open Ledger

/-! ## Work on a chain -/

/-- What a block is worked off on: the keeper's store, and the ledger. -/
structure Chain where
  store : Store
  ledger : Ledger

/-- Work on a chain. Work that fails leaves the chain as far changed as it had got. -/
abbrev Work := EStateM MintError Chain

namespace Work

variable {α β : Type}

/-- Look something up in the store. -/
def lookUp (get : Store → Except MintError α) : Work α := fun c ↦
  match get c.store with
  | .ok a => .ok a c
  | .error err => .error err c

/-- Have a result, or the error that there is none. -/
def result : Except MintError α → Work α
  | .ok a => pure a
  | .error err => throw err

/-- Mint into the mint's module account. A mint that stops midway has changed the ledger. -/
def mint (denom : String) (total : Amount) : Work Unit := fun c ↦
  if total.isZero then .ok () c
  else match c.ledger.mint mintModule (.single denom total) with
    | (l, .ok ()) => .ok () { c with ledger := l }
    | (l, .error cause) => .error (.ledger cause) { c with ledger := l }

/-- Make a payment out of the mint's module account. -/
def pay (x : Payment) : Work Unit := fun c ↦
  match Keeper.pay c.ledger x with
  | .ok l => .ok () { c with ledger := l }
  | .error cause => .error (.ledger cause) c

/-- Do some work on a view of the ledger, and have the writes of the view. The view is dropped in
the end, after a failure too. -/
def onView (w : Work Unit) : Work WriteSet := fun c ↦
  match w { c with ledger := c.ledger.fork } with
  | .ok () c => .ok c.ledger.writes { c with ledger := c.ledger.dropped }
  | .error err c => .error err { c with ledger := c.ledger.dropped }

/-- Write the state. A store that refuses it keeps what it has. -/
def writeState (st : EmissionState) : Work Unit := fun c ↦
  match setState c.store st with
  | .ok s => .ok () { c with store := s }
  | .error err => .error err c

/-- Apply writes to the ledger. -/
def apply (w : WriteSet) : Work Unit := modify fun c ↦ { c with ledger := c.ledger.apply w }

end Work

/-- Work off a block: settle the emission on a view, write the state, apply the writes of the
view. -/
def attempt (height : UInt64) : Work Emission := do
  let p ← Work.lookUp params
  let st ← Work.lookUp state
  let e ← Work.result ((processBlock height p st).mapError .arithmetic)
  let writes ← Work.onView do
    Work.mint p.denom e.total
    e.payments.forM Work.pay
  Work.writeState e.state
  Work.apply writes
  return e

/-! ## Work on a view -/

variable {c c' : Chain} {height : UInt64} {e : Emission} {err : MintError}

namespace Work

variable {α β : Type} {w w' : Work Unit} {f f' : Ledger → Except LedgerError Ledger}

theorem bind_of_ok {x : Work α} {a : α} (h : x c = .ok a c') (g : α → Work β) :
    (x >>= g) c = g a c' := by
  show EStateM.bind x g c = _
  rw [EStateM.bind, h]

theorem bind_of_error {x : Work α} (h : x c = .error err c') (g : α → Work β) :
    (x >>= g) c = .error err c' := by
  show EStateM.bind x g c = _
  rw [EStateM.bind, h]

/-- The work does to the ledger what `f` does. When `f` fails, some of the work has been done, but
a view is still over the ledger it was over. -/
structure Does (w : Work Unit) (f : Ledger → Except LedgerError Ledger) : Prop where
  ok : ∀ c l, f c.ledger = .ok l → w c = .ok () { c with ledger := l } ∧
    l.under? = c.ledger.under?
  error : ∀ c cause, f c.ledger = .error cause → ∃ l,
    w c = .error (.ledger cause) { c with ledger := l } ∧ l.under? = c.ledger.under?

theorem does_pay (x : Payment) : Does (pay x) (Keeper.pay · x) where
  ok c l h := by
    obtain ⟨recipient, mint, -, -, htransfer⟩ := pay_eq_ok.mp h
    refine ⟨?_, under?_transfer htransfer⟩
    simp only [pay, h]
  error c cause h := by
    refine ⟨c.ledger, ?_, rfl⟩
    simp only [pay, h]

theorem does_mint (denom : String) (total : Amount) :
    Does (mint denom total) (mintTotal · denom total) where
  ok c l h := by
    have hunder := under?_mint c.ledger mintModule (.single denom total)
    simp only [mint]
    obtain ⟨hzero, rfl⟩ | ⟨hzero, hmint⟩ := mintTotal_eq_ok.mp h
    · rw [if_pos hzero]
      exact ⟨rfl, rfl⟩
    · rw [hmint] at hunder
      rw [if_neg hzero, hmint]
      exact ⟨rfl, hunder⟩
  error c cause h := by
    have hunder := under?_mint c.ledger mintModule (.single denom total)
    simp only [mint]
    obtain ⟨hzero, l₁, hmint⟩ := mintTotal_eq_error.mp h
    rw [hmint] at hunder
    rw [if_neg hzero, hmint]
    exact ⟨l₁, rfl, hunder⟩

theorem Does.bind (h : Does w f) (h' : Does w' f') :
    Does (w >>= fun _ ↦ w') (fun l ↦ f l >>= f') where
  ok c l hl := by
    obtain ⟨l₁, hf, hf'⟩ := bind_eq_ok.mp hl
    obtain ⟨hw, hunder⟩ := h.ok c l₁ hf
    obtain ⟨hw', hunder'⟩ := h'.ok { c with ledger := l₁ } l hf'
    exact ⟨(bind_of_ok hw _).trans hw', hunder'.trans hunder⟩
  error c cause hc := by
    cases hf : f c.ledger with
    | error cause₁ =>
      rw [hf] at hc
      obtain rfl : cause₁ = cause := Except.error.inj hc
      obtain ⟨l, hw, hunder⟩ := h.error c cause₁ hf
      exact ⟨l, bind_of_error hw _, hunder⟩
    | ok l₁ =>
      rw [hf] at hc
      obtain ⟨hw, hunder⟩ := h.ok c l₁ hf
      obtain ⟨l, hw', hunder'⟩ := h'.error { c with ledger := l₁ } cause hc
      exact ⟨l, (bind_of_ok hw _).trans hw', hunder'.trans hunder⟩

/-- Payments made one after the other, of which any may be the one that fails. -/
theorem does_forM_pay (xs : List Payment) :
    Does (xs.forM pay) (fun l ↦ xs.foldlM Keeper.pay l) := by
  induction xs with
  | nil =>
    refine ⟨fun c l h ↦ ?_, fun c cause h ↦ nomatch h⟩
    obtain rfl : c.ledger = l := Except.ok.inj h
    exact ⟨rfl, rfl⟩
  | cons x xs ih =>
    have hforM : (x :: xs).forM pay = pay x >>= fun _ ↦ xs.forM pay := rfl
    simp only [List.foldlM_cons, hforM]
    exact (does_pay x).bind ih

/-- Whatever becomes of work on a view, the chain is as before. -/
theorem onView_eq (h : Does w f) (c : Chain) : onView w c = match f c.ledger.fork with
    | .ok l => .ok l.writes c
    | .error cause => .error (.ledger cause) c := by
  rw [onView]
  cases hf : f c.ledger.fork with
  | ok l =>
    obtain ⟨hw, hunder⟩ := h.ok { c with ledger := c.ledger.fork } l hf
    rw [hw]
    simp only [dropped_eq_of_under? hunder]
  | error cause =>
    obtain ⟨l, hw, hunder⟩ := h.error { c with ledger := c.ledger.fork } cause hf
    rw [hw]
    simp only [dropped_eq_of_under? hunder]

end Work

/-! ## Attempts -/

section Attempts

variable {α β γ : Type}

/-- The work leaves the chain alone and has what `φ` makes of the result `r`, or its error. -/
def Work.Reads (x : Work β) (c : Chain) (r : Except MintError α) (φ : α → β) : Prop :=
  x c = match r with
    | .ok a => .ok (φ a) c
    | .error err => .error err c

/-- The work is all or nothing: it has the result `r` and the chain that comes with it, or the
error with the chain as it was. -/
def Work.ComesTo (x : Work α) (c : Chain) (r : Except MintError (α × Store × Ledger)) : Prop :=
  x c = match r with
    | .ok (a, s, l) => .ok a ⟨s, l⟩
    | .error err => .error err c

/-- As long as the chain has been left alone, work may still fail. -/
theorem Work.Reads.bind {x : Work β} {r : Except MintError α} {φ : α → β} {g : β → Work γ}
    {k : α → Except MintError (γ × Store × Ledger)} (hx : x.Reads c r φ)
    (hg : ∀ a, r = .ok a → (g (φ a)).ComesTo c (k a)) : (x >>= g).ComesTo c (r >>= k) := by
  cases r with
  | ok a => exact (bind_of_ok hx g).trans (hg a rfl)
  | error err => exact bind_of_error hx g

theorem Work.reads_result (r : Except MintError α) (c : Chain) : (result r).Reads c r id := by
  cases r <;> rfl

theorem Work.does_settle (denom : String) (e : Emission) :
    Does (do mint denom e.total; e.payments.forM pay)
      (fun l ↦ mintTotal l denom e.total >>= fun l ↦ e.payments.foldlM Keeper.pay l) :=
  (does_mint denom e.total).bind (does_forM_pay e.payments)

/-- Settling an emission on a view leaves the chain alone. -/
theorem Work.reads_settle (c : Chain) (denom : String) (e : Emission) :
    (onView do mint denom e.total; e.payments.forM pay).Reads c
      ((settle c.ledger denom e).mapError .ledger) writes := by
  refine (onView_eq (does_settle denom e) c).trans ?_
  show (match settle c.ledger denom e with | .ok l => _ | .error cause => _) = _
  cases settle c.ledger denom e <;> rfl

/-- An attempt comes to what the block comes to, or to its error and nothing else. -/
theorem comesTo_attempt (height : UInt64) (c : Chain) :
    (attempt height).ComesTo c (endBlock c.store c.ledger height) := by
  refine Work.Reads.bind (φ := id) rfl fun p _ ↦ ?_
  refine Work.Reads.bind (φ := id) rfl fun st _ ↦ ?_
  refine (Work.reads_result _ c).bind fun e _ ↦ ?_
  refine (Work.reads_settle c p.denom e).bind fun l hl ↦ ?_
  have hunder : l.under? = some c.ledger :=
    ((Work.does_settle p.denom e).ok ⟨c.store, c.ledger.fork⟩ l (mapError_eq_ok.mp hl)).2
  rw [commit_eq_apply hunder]
  -- from here on nothing can fail but the write to the store, which comes first
  cases hput : setState c.store e.state with
  | error err =>
    have hrefused : Work.writeState e.state c = .error err c := by
      simp only [Work.writeState, hput]
    exact Work.bind_of_error hrefused _
  | ok s =>
    have hwrite : Work.writeState e.state c = .ok () ⟨s, c.ledger⟩ := by
      simp only [Work.writeState, hput]
    exact Work.bind_of_ok hwrite _

end Attempts

/-- An attempt that fails leaves the chain as it was. -/
theorem attempt_eq_error : attempt height c = .error err c' ↔
    endBlock c.store c.ledger height = .error err ∧ c' = c := by
  rw [comesTo_attempt height c]
  split
  · rename_i hblock
    rw [hblock]
    exact ⟨fun h ↦ (nomatch h), fun h ↦ (nomatch h.1)⟩
  · rename_i err' hblock
    rw [hblock]
    constructor
    · intro h
      cases h
      exact ⟨rfl, rfl⟩
    · rintro ⟨h, rfl⟩
      rw [Except.error.inj h]

/-- An attempt that succeeds does all that the block comes to. -/
theorem attempt_eq_ok : attempt height c = .ok e c' ↔
    endBlock c.store c.ledger height = .ok (e, c'.store, c'.ledger) := by
  rw [comesTo_attempt height c]
  split
  · rename_i e' s l hblock
    rw [hblock]
    constructor
    · intro h
      cases h
      rfl
    · intro h
      cases h
      rfl
  · rename_i err' hblock
    rw [hblock]
    exact ⟨fun h ↦ (nomatch h), fun h ↦ (nomatch h)⟩

/-! ## Attempts among everything else -/

/-- What happens to a chain: a block is attempted, or the chain changes in some other way, be it
that the cause of a failure is removed. -/
inductive Event where
  | attempt (height : UInt64)
  | change (f : Chain → Chain)

namespace Event

/-- The chain after an event, and the emission of a block that succeeds. -/
def run (c : Chain) : Event → Option Emission × Chain
  | .attempt height =>
    match Keeper.attempt height c with
    | .ok e c => (some e, c)
    | .error _ c => (none, c)
  | .change f => (none, f c)

/-- The chain after events one after the other, and the emissions of the blocks that succeed. -/
def runAll (c : Chain) : List Event → List Emission × Chain
  | [] => ([], c)
  | event :: events =>
    let (e, c) := event.run c
    let (es, c) := runAll c events
    (e.toList ++ es, c)

/-- Whether an event is an attempt that fails. -/
def fails (c : Chain) : Event → Bool
  | .attempt height =>
    match Keeper.attempt height c with
    | .ok _ _ => false
    | .error _ _ => true
  | .change _ => false

/-- The events without the attempts that fail. -/
def effective (c : Chain) : List Event → List Event
  | [] => []
  | event :: events =>
    let rest := effective (event.run c).2 events
    if event.fails c then rest else event :: rest

theorem runAll_cons (c : Chain) (event : Event) (events : List Event) :
    runAll c (event :: events) = ((event.run c).1.toList ++ (runAll (event.run c).2 events).1,
      (runAll (event.run c).2 events).2) := rfl

theorem run_of_fails {event : Event} (h : event.fails c = true) : event.run c = (none, c) := by
  cases event with
  | change f => exact nomatch h
  | attempt height =>
    rw [fails] at h
    cases hattempt : Keeper.attempt height c with
    | ok e c' =>
      rw [hattempt] at h
      exact nomatch h
    | error err c' =>
      obtain ⟨-, rfl⟩ := attempt_eq_error.mp hattempt
      simp only [run, hattempt]

/-- Attempts that fail can be struck out: the emissions and the chain are the same without them. -/
theorem runAll_effective (c : Chain) (events : List Event) :
    runAll c (effective c events) = runAll c events := by
  induction events generalizing c with
  | nil => rfl
  | cons event events ih =>
    rw [effective, runAll_cons]
    split
    · rename_i hfails
      rw [run_of_fails hfails]
      exact ih c
    · rw [runAll_cons, ih]

end Event

/-- **A block is all or nothing.** An attempt at it does all that the block comes to, or it fails
and the chain, ledger and records, is as before. So whatever happens to a chain, the attempts that
failed might as well not have been made: a block that is attempted again once the cause of its
failure is removed has the emission, ledger and state that it would have had at once. -/
theorem attempts_allOrNothing (c : Chain) (events : List Event) :
    (∀ height,
      (∃ e s l, endBlock c.store c.ledger height = .ok (e, s, l) ∧
        attempt height c = .ok e ⟨s, l⟩) ∨
      ∃ err, endBlock c.store c.ledger height = .error err ∧ attempt height c = .error err c) ∧
    Event.runAll c (Event.effective c events) = Event.runAll c events := by
  refine ⟨fun height ↦ ?_, Event.runAll_effective c events⟩
  cases hblock : endBlock c.store c.ledger height with
  | ok r => exact .inl ⟨r.1, r.2.1, r.2.2, rfl, attempt_eq_ok.mpr hblock⟩
  | error err => exact .inr ⟨err, rfl, attempt_eq_error.mpr ⟨hblock, rfl⟩⟩

/-- The state can be written again. -/
def Chain.reopened (c : Chain) : Chain := { c with store := c.store.reopen stateKey }

/-- A block that has been paid out in a view when the store refuses the state: attempted again, it
is the block that it would have been at once. -/
theorem attempts_allOrNothing_refusedState : ∃ c err e c', attempt 1 c = .error err c ∧
    Event.runAll c [.attempt 1, .change Chain.reopened, .attempt 1] = ([e], c') := by
  obtain ⟨s, -, hp, hst⟩ := exists_recorded selfVesting (.genesis selfVesting .standard)
  have hvalid : selfVesting.validate = .ok () := by decide +kernel
  obtain ⟨e, he⟩ := exists_processBlock hvalid 1 (.genesis selfVesting .standard)
  obtain ⟨view, hview⟩ : ∃ view, settle (.book .standard) selfVesting.denom e = .ok view := by
    refine exists_settle balanced_standard hasModules_standard hvalid (by decide) he ?_
    have hfits := e.total.toNat_lt
    rw [supply_standard]
    show 0 + e.total.toNat < 1 <<< 128
    omega
  let c : Chain := ⟨s.close stateKey .database, .book .standard⟩
  -- whether the records can be written says nothing about how they read
  have hpc : params c.store = .ok selfVesting := hp
  have hstc : state c.store = .ok (.genesis selfVesting .standard) := hst
  have hrefused : setState c.store e.state = .error (.store .database) := by
    have hclosed : c.store.closed.get? stateKey = some .database :=
      (SortedMap.get?_insert _ _ _ _).trans (if_pos rfl)
    simp only [setState, put, Store.putRecord, Store.put, hclosed]
  have hfails : attempt 1 c = .error (.store .database) c := by
    refine attempt_eq_error.mpr ⟨?_, rfl⟩
    have hsettled : settle c.ledger selfVesting.denom e = .ok view := hview
    rw [endBlock_eq_bind hpc hstc he, hsettled, hrefused]
    rfl
  obtain ⟨s', hs'⟩ : ∃ s', setState c.reopened.store e.state = .ok s' := by
    have hopen : c.reopened.store.closed.get? stateKey = none := SortedMap.get?_erase_self _ _
    exact exists_setState hopen e.state
  have hsucceeds : attempt 1 c.reopened = .ok e ⟨s', view.commit⟩ :=
    attempt_eq_ok.mpr (endBlock_eq_ok.mpr
      ⟨selfVesting, _, view, hp, hst, he, hview, hs', rfl⟩)
  refine ⟨c, _, e, ⟨s', view.commit⟩, hfails, ?_⟩
  rw [← (attempts_allOrNothing c _).2]
  simp [Event.effective, Event.fails, Event.run, Event.runAll, hfails, hsucceeds]

end Keeper

end Tokenomics

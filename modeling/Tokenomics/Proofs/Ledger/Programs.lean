import Tokenomics.Proofs.Ledger.Views

/-!
# Programs of ledger calls, run on nested forks

A program is a list of steps: a call on the ledger, or a fork with the steps that run on it, which
is then committed or dropped (`Step`). Running it gives the ledger at its end and a log of every
call with its answer, marked as kept when all the forks around it were committed (`Step.runAll`).

The main result is `runAll_eq_keptCalls`: on any book, forks do not show. The ledger at the end
and the answers of the kept calls are those of the kept calls run one after the other on the book
itself, without a single fork. That rests on two facts, by induction over the nesting: a call on a
view answers what it would answer on the ledger that the view commits to, and leaves a view that
commits to what the call would have left there (`commit_run`).
-/

namespace Tokenomics.Ledger

/-- A call on a ledger. -/
inductive Call where
  | transfer (sender recipient : Address) (coins : Coins)
  | sendFromModule (name : String) (recipient : Address) (coins : Coins)
  | sendToModule (sender : Address) (name : String) (coins : Coins)
  | mint (name : String) (coins : Coins)
  | createAccount (a : Address)
  | setAccount (x : Account)
  | setBalance (h : Holding) (n : Amount)
  | setSupply (denom : String) (n : Amount)
deriving DecidableEq

/-- What a call answers. -/
inductive Answer where
  | done
  | refused (e : LedgerError)
  | account (x : Account)
deriving DecidableEq

/-- The ledger after a change that may be refused: a refused one leaves it as it was. -/
def accept (l : Ledger) : Except LedgerError Ledger → Ledger × Answer
  | .ok l' => (l', .done)
  | .error e => (l, .refused e)

/-- The ledger after a call, and the answer to it. -/
def Call.run (l : Ledger) : Call → Ledger × Answer
  | .transfer sender recipient coins => l.accept (l.transfer sender recipient coins)
  | .sendFromModule name recipient coins => l.accept (l.sendFromModule name recipient coins)
  | .sendToModule sender name coins => l.accept (l.sendToModule sender name coins)
  | .mint name coins =>
    match l.mint name coins with
    | (l', .ok ()) => (l', .done)
    | (l', .error e) => (l', .refused e)
  | .createAccount a => (l.createAccount a, .account ((l.account? a).getD (.fresh a)))
  | .setAccount x => (l.setAccount x, .done)
  | .setBalance h n => (l.setBalance h n, .done)
  | .setSupply denom n => (l.setSupply denom n, .done)

/-- Run calls one after the other: the ledger after the last, and each call with its answer. -/
def Call.runAll (l : Ledger) : List Call → Ledger × List (Call × Answer)
  | [] => (l, [])
  | c :: cs =>
    let (l₁, answer) := c.run l
    let (l₂, log) := Call.runAll l₁ cs
    (l₂, (c, answer) :: log)

/-- A step of a program: a call, or the steps run on a fork, which is then committed or not. -/
inductive Step where
  | call (c : Call)
  | fork (committed : Bool) (steps : List Step)

/-- A call in the log of a program. -/
structure Entry where
  call : Call
  answer : Answer
  /-- Whether all forks around the call were committed. -/
  kept : Bool
deriving DecidableEq

/-- The entry of a call on a fork that is dropped. -/
def Entry.drop (e : Entry) : Entry := { e with kept := false }

/-- The calls of a log that were kept, with their answers. -/
def keptLog (log : List Entry) : List (Call × Answer) :=
  (log.filter (·.kept)).map fun e ↦ (e.call, e.answer)

namespace Step

mutual

/-- The ledger after a step, and the log of its calls. -/
def run (l : Ledger) : Step → Ledger × List Entry
  | .call c =>
    let (l', answer) := c.run l
    (l', [⟨c, answer, true⟩])
  | .fork committed steps =>
    let (forked, log) := runAll l.fork steps
    if committed then (forked.commit, log) else (l, log.map Entry.drop)

/-- The ledger after steps one after the other, and the log of their calls. -/
def runAll (l : Ledger) : List Step → Ledger × List Entry
  | [] => (l, [])
  | s :: steps =>
    let (l₁, log₁) := run l s
    let (l₂, log₂) := runAll l₁ steps
    (l₂, log₁ ++ log₂)

end

mutual

/-- The calls of a step that no dropped fork encloses. -/
def keptCalls : Step → List Call
  | .call c => [c]
  | .fork committed steps => if committed then keptCallsOf steps else []

/-- The calls of several steps that no dropped fork encloses, in order. -/
def keptCallsOf : List Step → List Call
  | [] => []
  | s :: steps => keptCalls s ++ keptCallsOf steps

end

end Step

/-! ## Calls on a view -/

theorem keyed_run {l : Ledger} (hl : l.Keyed) (c : Call) : (c.run l).1.Keyed := by
  have haccept : ∀ {r : Except LedgerError Ledger}, (∀ l', r = .ok l' → l'.Keyed) →
      (l.accept r).1.Keyed := by
    intro r hr
    cases r with
    | ok l' => exact hr l' rfl
    | error e => exact hl
  cases c with
  | transfer sender recipient coins => exact haccept fun _ h ↦ keyed_transfer hl h
  | sendFromModule name recipient coins => exact haccept fun _ h ↦ keyed_sendFromModule hl h
  | sendToModule sender name coins => exact haccept fun _ h ↦ keyed_sendToModule hl h
  | mint name coins =>
    have h := keyed_mint hl name coins
    rw [Call.run]
    split
    · rename_i hr
      rwa [hr] at h
    · rename_i hr
      rwa [hr] at h
  | createAccount a => exact keyed_createAccount hl a
  | setAccount x => exact keyed_setAccount hl x
  | setBalance h n => exact keyed_setBalance hl h n
  | setSupply denom n => exact keyed_setSupply hl denom n

theorem commit_accept (l : Ledger) (r : Except LedgerError Ledger) :
    l.commit.accept (r.map commit) = ((l.accept r).1.commit, (l.accept r).2) := by
  cases r with
  | ok l' => rfl
  | error e => rfl

/-- A call on a view and the same call on the ledger that the view commits to go alike. -/
theorem commit_run {l : Ledger} (hl : l.Keyed) (c : Call) :
    c.run l.commit = ((c.run l).1.commit, (c.run l).2) := by
  cases c with
  | transfer sender recipient coins =>
    rw [Call.run, Call.run, commit_transfer hl, commit_accept]
  | sendFromModule name recipient coins =>
    rw [Call.run, Call.run, commit_sendFromModule hl, commit_accept]
  | sendToModule sender name coins =>
    rw [Call.run, Call.run, commit_sendToModule hl, commit_accept]
  | mint name coins =>
    rw [Call.run, Call.run, commit_mint]
    rcases l.mint name coins with ⟨l', _ | _⟩
    · rfl
    · rfl
  | createAccount a => rw [Call.run, Call.run, commit_createAccount hl, commit_account? hl]
  | setAccount x => rw [Call.run, Call.run, commit_setAccount hl]
  | setBalance h n => rw [Call.run, Call.run, commit_setBalance]
  | setSupply denom n => rw [Call.run, Call.run, commit_setSupply]

/-! ## Runs of calls -/

theorem Call.runAll_cons (l : Ledger) (c : Call) (cs : List Call) :
    Call.runAll l (c :: cs) = ((Call.runAll (c.run l).1 cs).1,
      (c, (c.run l).2) :: (Call.runAll (c.run l).1 cs).2) := rfl

theorem Call.runAll_append (l : Ledger) (cs ds : List Call) :
    Call.runAll l (cs ++ ds) = ((Call.runAll (Call.runAll l cs).1 ds).1,
      (Call.runAll l cs).2 ++ (Call.runAll (Call.runAll l cs).1 ds).2) := by
  induction cs generalizing l with
  | nil => rfl
  | cons c cs ih => rw [List.cons_append, runAll_cons, runAll_cons, ih, List.cons_append]

theorem keyed_runAll {l : Ledger} (hl : l.Keyed) (cs : List Call) : (Call.runAll l cs).1.Keyed := by
  induction cs generalizing l with
  | nil => exact hl
  | cons c cs ih => exact ih (keyed_run hl c)

theorem commit_runAll {l : Ledger} (hl : l.Keyed) (cs : List Call) :
    Call.runAll l.commit cs = ((Call.runAll l cs).1.commit, (Call.runAll l cs).2) := by
  induction cs generalizing l with
  | nil => rfl
  | cons c cs ih => rw [Call.runAll_cons, Call.runAll_cons, commit_run hl, ih (keyed_run hl c)]

/-! ## Programs -/

@[simp] theorem keptLog_append (log₁ log₂ : List Entry) :
    keptLog (log₁ ++ log₂) = keptLog log₁ ++ keptLog log₂ := by
  rw [keptLog, List.filter_append, List.map_append]
  rfl

@[simp] theorem keptLog_drop (log : List Entry) : keptLog (log.map Entry.drop) = [] := by
  rw [keptLog, List.map_eq_nil_iff, List.filter_eq_nil_iff]
  intro e he
  obtain ⟨e', -, rfl⟩ := List.mem_map.mp he
  exact Bool.false_ne_true

mutual

theorem Step.run_eq {l : Ledger} (hl : l.Keyed) (s : Step) :
    ((s.run l).1, keptLog (s.run l).2) = Call.runAll l s.keptCalls := by
  cases s with
  | call c => rfl
  | fork committed steps =>
    cases committed with
    | false => exact Prod.ext rfl (keptLog_drop _)
    | true =>
      -- the fork ran its kept calls, and committing it repeats them on the ledger under it
      have hview := Step.runAll_eq (keyed_fork hl) steps
      have hdirect := commit_runAll (keyed_fork hl) (Step.keptCallsOf steps)
      rw [commit_fork, ← hview] at hdirect
      exact hdirect.symm

theorem Step.runAll_eq {l : Ledger} (hl : l.Keyed) (steps : List Step) :
    ((Step.runAll l steps).1, keptLog (Step.runAll l steps).2)
      = Call.runAll l (Step.keptCallsOf steps) := by
  cases steps with
  | nil => rfl
  | cons s steps =>
    have hs := Step.run_eq hl s
    have hkeyed : (Step.run l s).1.Keyed := by
      rw [Prod.ext_iff.mp hs |>.1]
      exact keyed_runAll hl _
    have hsteps := Step.runAll_eq hkeyed steps
    rw [Step.runAll, Step.keptCallsOf, Call.runAll_append, ← hs, ← hsteps, keptLog_append]

end

/-- Forks do not show: a program on a book ends with the ledger, and gives its kept calls the
answers, of its kept calls run directly on the book. -/
theorem runAll_eq_keptCalls (b : Book) (steps : List Step) :
    (Step.runAll (.book b) steps).1 = (Call.runAll (.book b) (Step.keptCallsOf steps)).1 ∧
      keptLog (Step.runAll (.book b) steps).2
        = (Call.runAll (.book b) (Step.keptCallsOf steps)).2 :=
  Prod.ext_iff.mp (Step.runAll_eq (l := .book b) trivial steps)

end Tokenomics.Ledger

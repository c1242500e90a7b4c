import Tokenomics.Proofs.Ledger.Conservation

/-!
# Transfers made in place

`Ledger.transfer` gives its result in one piece: the ledger afterwards, or an error, and with an
error there is no ledger that could be asked what has become of it. Here a transfer is made write
by write on a ledger that keeps every write, whatever comes after it (`transferInPlace`). A coin is
debited to what the sender holds when its turn has come, and a debit of more than that is a stop of
its own.

Such a transfer is all or nothing (`transfer_allOrNothing`) for two reasons. All that can be refused
is looked at before the first write, in a fixed order that decides on the error (`Refusal`). And
what was seen then still holds when the coins are written: the new balances of the recipient are
known by that time, and no write touches what the sender needs for a later coin, since valid coins
name no denomination twice and the recipient is somebody else (`run_moves`).
-/

namespace Tokenomics.Ledger

variable {l l' : Ledger} {sender recipient : Address} {coins : Coins} {e : LedgerError}

/-! ## Work on a ledger -/

/-- Why work on a ledger stops. -/
inductive Stop where
  | refused (e : LedgerError)
  /-- More is to be debited than is held. -/
  | underflow (h : Holding)
deriving DecidableEq

/-- Work on a ledger. Work that stops leaves the ledger as far changed as it had got. -/
abbrev Motion := EStateM Stop Ledger

namespace Motion

variable {α β γ : Type}

/-- What a look at the ledger comes to. The ledger is left alone. -/
def look (f : Ledger → Except LedgerError α) : Motion α := fun l ↦
  match f l with
  | .ok a => .ok a l
  | .error e => .error (.refused e) l

/-- Debit a coin to what an address holds by now. -/
def debit (a : Address) (c : Coin) : Motion Unit := fun l ↦
  let h : Holding := ⟨a, c.denom⟩
  if l.balance h < c.amount then .error (.underflow h) l
  else .ok () (l.setBalance h ((l.balance h).sub c.amount))

/-- Write a balance that has been computed beforehand. -/
def credit (a : Address) (x : Coin × Amount) : Motion Unit :=
  modify (·.setBalance ⟨a, x.1.denom⟩ x.2)

/-- Debit and credit coins one after the other. -/
def moves (sender recipient : Address) (xs : List (Coin × Amount)) : Motion Unit :=
  xs.forM fun x ↦ do
    debit sender x.1
    credit recipient x

end Motion

/-- Move coins from one address to another in place, creating the recipient's account if there is
none. -/
def transferInPlace (sender recipient : Address) (coins : Coins) : Motion Unit := do
  Motion.look fun _ ↦ checkAmount coins
  coins.toList.forM fun c ↦ Motion.look (·.checkFunds sender c)
  if sender = recipient then return
  let credits ← coins.toList.mapM fun c ↦ Motion.look (·.credited recipient c)
  modify (·.createAccount recipient)
  Motion.moves sender recipient credits

/-! ## Looking -/

namespace Motion

variable {α β γ : Type}

theorem run_look_bind (f : Ledger → Except LedgerError α) (k : α → Motion β) (l : Ledger) :
    (look f >>= k) l = match f l with
      | .ok a => k a l
      | .error e => .error (.refused e) l := by
  show EStateM.bind (look f) k l = _
  simp only [EStateM.bind, look]
  cases f l with
  | ok a => rfl
  | error e => rfl

/-- Two looks, one after the other, see the same ledger. -/
theorem look_bind_look (f : Ledger → Except LedgerError α)
    (g : α → Ledger → Except LedgerError β) :
    (look f >>= fun a ↦ look (g a)) = look fun l ↦ f l >>= fun a ↦ g a l := by
  funext l
  rw [run_look_bind, look]
  cases f l with
  | ok a => rfl
  | error e => rfl

theorem forM_look (f : γ → Ledger → Except LedgerError Unit) (cs : List γ) :
    (cs.forM fun c ↦ look (f c)) = look fun l ↦ cs.forM fun c ↦ f c l := by
  induction cs with
  | nil => rfl
  | cons c cs ih =>
    show (look (f c) >>= fun _ ↦ cs.forM fun c ↦ look (f c)) = _
    rw [ih, look_bind_look]
    rfl

theorem mapM_look (f : γ → Ledger → Except LedgerError β) (cs : List γ) :
    (cs.mapM fun c ↦ look (f c)) = look fun l ↦ cs.mapM fun c ↦ f c l := by
  induction cs with
  | nil => rfl
  | cons c cs ih =>
    have hlast (b : β) : (look (fun l ↦ cs.mapM fun c ↦ f c l) >>= fun bs ↦ pure (b :: bs))
        = look fun l ↦ (cs.mapM fun c ↦ f c l) >>= fun bs ↦ pure (b :: bs) :=
      look_bind_look _ fun bs _ ↦ .ok (b :: bs)
    simp only [List.mapM_cons, ih, hlast, look_bind_look]

end Motion

/-! ## What is refused -/

theorem exists_credited {c : Coin} : (∃ x, l.credited recipient c = .ok x) ↔
    (l.balance ⟨recipient, c.denom⟩).toNat + c.amount.toNat < 1 <<< 128 := by
  constructor
  · rintro ⟨x, hx⟩
    rw [← (credited_eq_ok.mp hx).2]
    exact x.2.toNat_lt
  · intro hroom
    exact ⟨(c, ⟨_, hroom⟩), credited_eq_ok.mpr ⟨rfl, rfl⟩⟩

theorem credited_eq_error {c : Coin} : l.credited recipient c = .error e ↔
    1 <<< 128 ≤ (l.balance ⟨recipient, c.denom⟩).toNat + c.amount.toNat ∧
      e = .overflow recipient c.denom := by
  rw [← Nat.not_lt, ← exists_credited, credited]
  split
  · simp
  · simp [eq_comm]

/-- The error about the first of some coins that an address has no room for. -/
def FullFor (l : Ledger) (a : Address) (coins : Coins) (e : LedgerError) : Prop :=
  ∃ early c late, coins.toList = early ++ c :: late ∧
    (∀ b ∈ early, (l.balance ⟨a, b.denom⟩).toNat + b.amount.toNat < 1 <<< 128) ∧
    1 <<< 128 ≤ (l.balance ⟨a, c.denom⟩).toNat + c.amount.toNat ∧ e = .overflow a c.denom

theorem mapM_credited_eq_error :
    coins.toList.mapM (l.credited recipient) = .error e ↔ l.FullFor recipient coins e := by
  rw [mapM_eq_error, FullFor]
  simp only [exists_credited, credited_eq_error]

/-- Why a transfer is refused: the coins are looked at first, then what the sender holds of them,
and last, unless that is the sender, what the recipient has room for. -/
inductive Refusal (l : Ledger) (sender recipient : Address) (coins : Coins) : LedgerError → Prop
  | invalid {cause : CoinError} (h : coins.validate = .error cause) :
      Refusal l sender recipient coins (.invalidAmount cause)
  | short {e : LedgerError} (hvalid : coins.validate = .ok ()) (h : l.ShortOf sender coins e) :
      Refusal l sender recipient coins e
  | full {e : LedgerError} (hvalid : coins.validate = .ok ())
      (hfunds : ∀ c ∈ coins.toList, c.amount ≤ l.balance ⟨sender, c.denom⟩)
      (hne : sender ≠ recipient) (h : l.FullFor recipient coins e) :
      Refusal l sender recipient coins e

/-- The error of a transfer is the reason for which it is refused. -/
theorem transfer_eq_error : l.transfer sender recipient coins = .error e ↔
    l.Refusal sender recipient coins e := by
  have hlast : (if sender = recipient then (.ok l : Except LedgerError Ledger)
      else coins.toList.mapM (l.credited recipient) >>= fun credits ↦
        .ok (credits.foldl (move sender recipient) (l.createAccount recipient))) = .error e ↔
      sender ≠ recipient ∧ l.FullFor recipient coins e := by
    split
    · simp_all
    · rename_i hne
      rw [bind_ok_eq_error, mapM_credited_eq_error]
      exact (and_iff_right hne).symm
  have hchecks : l.transfer sender recipient coins = .error e ↔
      checkAmount coins = .error e ∨ checkAmount coins = .ok () ∧
        (coins.toList.forM (l.checkFunds sender) = .error e ∨
          coins.toList.forM (l.checkFunds sender) = .ok () ∧
            sender ≠ recipient ∧ l.FullFor recipient coins e) := by
    rw [transfer, check_bind_eq_error, check_bind_eq_error]
    exact or_congr_right (and_congr_right fun _ ↦ or_congr_right (and_congr_right fun _ ↦ hlast))
  rw [hchecks, checkAmount_eq_error, checkAmount_eq_ok, forM_checkFunds_eq_error, forM_eq_ok]
  simp only [checkFunds_eq_ok]
  constructor
  · rintro (⟨cause, h, rfl⟩ | ⟨hvalid, h | ⟨hfunds, hne, h⟩⟩)
    · exact .invalid h
    · exact .short hvalid h
    · exact .full hvalid hfunds hne h
  · rintro (h | ⟨hvalid, h⟩ | ⟨hvalid, hfunds, hne, h⟩)
    · exact .inl ⟨_, h, rfl⟩
    · exact .inr ⟨hvalid, .inl h⟩
    · exact .inr ⟨hvalid, .inr ⟨hfunds, hne, h⟩⟩

/-! ## What is written -/

/-- No debit comes short as long as the sender holds all that is still to come. The coins before it
are of other denominations, and the credits go to somebody else. -/
theorem run_moves (hne : sender ≠ recipient) {xs : List (Coin × Amount)}
    (hxs : (xs.map (·.1)).Pairwise fun c d ↦ c.denom ≠ d.denom)
    (hfunds : ∀ x ∈ xs, x.1.amount ≤ l.balance ⟨sender, x.1.denom⟩) :
    Motion.moves sender recipient xs l = .ok () (xs.foldl (move sender recipient) l) := by
  induction xs generalizing l with
  | nil => rfl
  | cons x xs ih =>
    obtain ⟨hdenom, hxs⟩ := List.pairwise_cons.mp hxs
    obtain ⟨hx, hfunds⟩ := List.forall_mem_cons.mp hfunds
    have hmove : (do Motion.debit sender x.1; Motion.credit recipient x : Motion Unit) l
        = .ok () (move sender recipient l x) := by
      have hheld : ¬ l.balance ⟨sender, x.1.denom⟩ < x.1.amount := Nat.not_lt.mpr hx
      show EStateM.bind (Motion.debit sender x.1) _ l = _
      simp only [EStateM.bind, Motion.debit, if_neg hheld]
      rfl
    have hrest : ∀ y ∈ xs, y.1.amount ≤ (move sender recipient l x).balance ⟨sender, y.1.denom⟩ := by
      intro y hy
      have hd : y.1.denom ≠ x.1.denom := (hdenom y.1 (List.mem_map_of_mem hy)).symm
      rw [balance_move, if_neg (by simp [hne]), if_neg (by simp [hd])]
      exact hfunds y hy
    show EStateM.bind _ (fun _ ↦ Motion.moves sender recipient xs) l = _
    rw [EStateM.bind, hmove]
    exact ih hxs hrest

/-- A transfer that is made in place does what the transfer says, and one that is refused leaves
the ledger as it was. -/
theorem transferInPlace_eq (l : Ledger) (sender recipient : Address) (coins : Coins) :
    transferInPlace sender recipient coins l = match l.transfer sender recipient coins with
      | .ok l' => .ok () l'
      | .error e => .error (.refused e) l := by
  rw [transferInPlace, Motion.forM_look, Motion.mapM_look, Motion.run_look_bind, transfer]
  cases hvalid : checkAmount coins with
  | error e => rfl
  | ok u =>
    refine (Motion.run_look_bind _ _ l).trans ?_
    cases hfunds : coins.toList.forM (l.checkFunds sender) with
    | error e => simp only [Except.bind, bind]
    | ok v =>
      by_cases hself : sender = recipient
      · simp only [Except.bind, bind, if_pos hself]
        rfl
      · simp only [Except.bind, bind, if_neg hself]
        refine (Motion.run_look_bind _ _ l).trans ?_
        cases hcredits : coins.toList.mapM (l.credited recipient) with
        | error e => rfl
        | ok credits =>
          obtain ⟨hmap, -⟩ := mapM_credited_eq_ok.mp hcredits
          have hdistinct := Coins.pairwise_ne_of_validate (checkAmount_eq_ok.mp hvalid)
          have hheld : ∀ x ∈ credits,
              x.1.amount ≤ (l.createAccount recipient).balance ⟨sender, x.1.denom⟩ := by
            intro x hx
            have hcoin : x.1 ∈ coins.toList := hmap ▸ List.mem_map_of_mem hx
            rw [balance_createAccount]
            exact checkFunds_eq_ok.mp (forM_eq_ok.mp hfunds x.1 hcoin)
          exact run_moves hself (hmap ▸ hdistinct) hheld

/-! ## What has moved -/

/-- Coins have moved from one address to another one, which has an account by now, and nothing else
has changed. -/
structure Moved (l l' : Ledger) (sender recipient : Address) (cs : List Coin) : Prop where
  debited : ∀ c ∈ cs, (l'.balance ⟨sender, c.denom⟩).toNat + c.amount.toNat
    = (l.balance ⟨sender, c.denom⟩).toNat
  credited : ∀ c ∈ cs, (l'.balance ⟨recipient, c.denom⟩).toNat
    = (l.balance ⟨recipient, c.denom⟩).toNat + c.amount.toNat
  other_balance : ∀ h : Holding,
    (∀ c ∈ cs, h ≠ ⟨sender, c.denom⟩ ∧ h ≠ ⟨recipient, c.denom⟩) → l'.balance h = l.balance h
  supply : ∀ d, l'.supply d = l.supply d
  supplyRow? : ∀ d, l'.supplyRow? d = l.supplyRow? d
  account? : ∀ a, l'.account? a
    = (l.account? a).or (if a = recipient then some (.fresh a) else none)
  moduleAddress? : ∀ name, l'.moduleAddress? name = l.moduleAddress? name
  under? : l'.under? = l.under?

theorem moved_of_transfer (hne : sender ≠ recipient)
    (h : l.transfer sender recipient coins = .ok l') :
    Moved l l' sender recipient coins.toList := by
  obtain ⟨hvalid, hfunds, -⟩ := transfer_eq_ok.mp h
  have hdistinct := Coins.pairwise_ne_of_validate hvalid
  constructor
  case debited =>
    intro c hc
    have hheld : c.amount.toNat ≤ (l.balance ⟨sender, c.denom⟩).toNat := hfunds c hc
    rw [balance_transfer h, if_neg hne, if_pos rfl, Coins.unitsIn_of_mem hdistinct hc]
    omega
  case credited =>
    intro c hc
    rw [balance_transfer h, if_neg hne, if_neg hne.symm, if_pos rfl,
      Coins.unitsIn_of_mem hdistinct hc]
  case other_balance =>
    rintro ⟨owner, denom⟩ hother
    have hnone : owner = sender ∨ owner = recipient → Coins.unitsIn coins.toList denom = 0 := by
      rintro (rfl | rfl)
      · exact Coins.unitsIn_eq_zero fun c hc hdenom ↦ (hother c hc).1 (by rw [hdenom])
      · exact Coins.unitsIn_eq_zero fun c hc hdenom ↦ (hother c hc).2 (by rw [hdenom])
    refine Amount.ext ((balance_transfer h _).trans ?_)
    rw [if_neg hne]
    split
    · rw [hnone (.inl ‹_›), Nat.sub_zero]
    · split
      · rw [hnone (.inr ‹_›), Nat.add_zero]
      · rfl
  case supply => exact supply_transfer h
  case supplyRow? => exact supplyRow?_transfer h
  case account? =>
    intro a
    rw [account?_transfer h]
    simp only [hne, ne_eq, not_false_eq_true, true_and]
  case moduleAddress? => exact moduleAddress?_transfer h
  case under? => exact under?_transfer h

/-- **A transfer moves everything or nothing.** On any book or view, made in place it comes to what
the transfer says. Either it succeeds: then nothing was to be refused and no debit came short, the
coins have moved and nothing else has changed, and from an address to itself nothing at all. Or it
is refused, for the first reason that there is, and the ledger is as before. -/
theorem transfer_allOrNothing (l : Ledger) (sender recipient : Address) (coins : Coins) :
    (∃ l', l.transfer sender recipient coins = .ok l' ∧
      transferInPlace sender recipient coins l = .ok () l' ∧
      (∀ e, ¬ l.Refusal sender recipient coins e) ∧
      (sender = recipient → l' = l) ∧
      (sender ≠ recipient → Moved l l' sender recipient coins.toList)) ∨
    ∃ e, l.transfer sender recipient coins = .error e ∧
      transferInPlace sender recipient coins l = .error (.refused e) l ∧
      ∀ e', l.Refusal sender recipient coins e' ↔ e' = e := by
  cases h : l.transfer sender recipient coins with
  | ok l' =>
    refine .inl ⟨l', rfl, ?_, ?_, ?_, fun hne ↦ moved_of_transfer hne h⟩
    · rw [transferInPlace_eq, h]
    · intro e he
      exact nomatch h.symm.trans (transfer_eq_error.mpr he)
    · intro hself
      obtain ⟨-, -, ⟨-, hl⟩ | ⟨hne, -⟩⟩ := transfer_eq_ok.mp h
      · exact hl
      · exact absurd hself hne
  | error e =>
    refine .inr ⟨e, rfl, ?_, ?_⟩
    · rw [transferInPlace_eq, h]
    · intro e'
      rw [← transfer_eq_error, h, Except.error.injEq, eq_comm]

end Tokenomics.Ledger

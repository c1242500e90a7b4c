import Tokenomics.Proofs.Coin.Validity
import Tokenomics.Proofs.Ledger.Writes

/-!
# What a transfer does

A transfer that succeeds is taken apart once (`transfer_eq_ok`): the coins are valid, the sender
holds them, and the recipient's new balances, all computed before anything is written, fit. From
that comes its effect on every balance (`balance_transfer`): the sender's falls and the
recipient's rises by what the coins have of the denomination, and when they are the same address
nothing changes at all.
-/

namespace Tokenomics.Ledger

variable {l l' : Ledger} {sender recipient : Address} {coins : Coins}

/-! ## The steps -/

theorem checkAmount_eq_ok : checkAmount coins = .ok () ↔ coins.validate = .ok () := by
  rw [checkAmount]
  split
  · rename_i h
    exact ⟨fun _ ↦ h, fun _ ↦ rfl⟩
  · rename_i h
    exact ⟨fun h' ↦ (nomatch h'), fun h' ↦ nomatch h.symm.trans h'⟩

theorem checkFunds_eq_ok {c : Coin} :
    l.checkFunds sender c = .ok () ↔ c.amount ≤ l.balance ⟨sender, c.denom⟩ := by
  rw [checkFunds]
  show (if (l.balance ⟨sender, c.denom⟩).toNat < c.amount.toNat then _ else _) = _ ↔
    c.amount.toNat ≤ (l.balance ⟨sender, c.denom⟩).toNat
  split
  · rename_i h
    exact ⟨fun h' ↦ (nomatch h'), fun h' ↦ absurd h (Nat.not_lt.mpr h')⟩
  · rename_i h
    exact ⟨fun _ ↦ Nat.not_lt.mp h, fun _ ↦ rfl⟩

theorem credited_eq_ok {c : Coin} {e : Coin × Amount} : l.credited recipient c = .ok e ↔
    e.1 = c ∧ e.2.toNat = (l.balance ⟨recipient, c.denom⟩).toNat + c.amount.toNat := by
  rw [credited]
  split
  · rename_i n hn
    have hn := Amount.add?_eq_some.mp hn
    constructor
    · intro h
      rw [← Except.ok.inj h]
      exact ⟨rfl, hn⟩
    · rintro ⟨rfl, h⟩
      exact congrArg _ (Prod.ext rfl (Amount.ext (hn.trans h.symm)))
  · rename_i hn
    refine ⟨fun h ↦ (nomatch h), fun ⟨_, h⟩ ↦ ?_⟩
    exact absurd (hn.symm.trans (Amount.add?_eq_some.mpr h)) nofun

/-- What a successful transfer is. -/
theorem transfer_eq_ok : l.transfer sender recipient coins = .ok l' ↔
    coins.validate = .ok () ∧
      (∀ c ∈ coins.toList, c.amount ≤ l.balance ⟨sender, c.denom⟩) ∧
      (sender = recipient ∧ l' = l ∨
        sender ≠ recipient ∧ ∃ credits, coins.toList.mapM (l.credited recipient) = .ok credits ∧
          l' = credits.foldl (move sender recipient) (l.createAccount recipient)) := by
  rw [transfer, check_bind_eq_ok, check_bind_eq_ok, checkAmount_eq_ok, forM_eq_ok]
  refine and_congr_right fun _ ↦ and_congr (forall₂_congr fun c _ ↦ checkFunds_eq_ok) ?_
  -- from an address to itself the checks are made and nothing else is done
  by_cases hself : sender = recipient
  · simp only [hself, if_true]
    exact ⟨fun h ↦ .inl ⟨trivial, (Except.ok.inj h).symm⟩,
      fun h ↦ h.elim (fun h ↦ congrArg _ h.2.symm) fun h ↦ absurd rfl h.1⟩
  · simp only [hself, if_false]
    rw [bind_eq_ok]
    constructor
    · rintro ⟨credits, hc, h⟩
      exact .inr ⟨hself, credits, hc, (Except.ok.inj h).symm⟩
    · rintro (⟨h, _⟩ | ⟨_, credits, hc, rfl⟩)
      · exact h.elim
      · exact ⟨credits, hc, rfl⟩

/-- The new balances of the recipient, as they are computed before anything is written. -/
theorem mapM_credited_eq_ok {cs : List Coin} {credits : List (Coin × Amount)} :
    cs.mapM (l.credited recipient) = .ok credits ↔ credits.map (·.1) = cs ∧
      ∀ e ∈ credits, e.2.toNat = (l.balance ⟨recipient, e.1.denom⟩).toNat + e.1.amount.toNat := by
  rw [mapM_eq_ok]
  induction cs generalizing credits with
  | nil =>
    rw [List.forall₂_nil_left_iff, List.map_eq_nil_iff]
    exact ⟨fun h ↦ ⟨h, fun e he ↦ absurd (h ▸ he) List.not_mem_nil⟩, fun h ↦ h.1⟩
  | cons c cs ih =>
    rw [List.forall₂_cons_left_iff]
    constructor
    · rintro ⟨e, es, he, hes, rfl⟩
      obtain ⟨hc, hn⟩ := credited_eq_ok.mp he
      obtain ⟨hmap, hall⟩ := ih.mp hes
      exact ⟨by rw [List.map_cons, hc, hmap], List.forall_mem_cons.mpr ⟨by rw [hc]; exact hn, hall⟩⟩
    · rintro ⟨hmap, hall⟩
      obtain ⟨e, es, rfl, hc, hmap⟩ := List.map_eq_cons_iff.mp hmap
      obtain ⟨hn, hall⟩ := List.forall_mem_cons.mp hall
      exact ⟨e, es, credited_eq_ok.mpr ⟨hc, hc ▸ hn⟩, ih.mpr ⟨hmap, hall⟩, rfl⟩

/-! ## Reading through the moves -/

theorem createAccount_of_none {a : Address} (h : l.account? a = none) :
    l.createAccount a = l.setAccount (.fresh a) := by
  rw [createAccount, hasAccount, h, Option.isSome_none, if_neg Bool.false_ne_true]

theorem read_createAccount {ρ : Type} (read : Ledger → ρ)
    (h : ∀ l x, read (setAccount l x) = read l) (l : Ledger) (a : Address) :
    read (l.createAccount a) = read l := by
  rw [createAccount]
  split
  · rfl
  · exact h l _

theorem balance_createAccount (l : Ledger) (a : Address) (h : Holding) :
    (l.createAccount a).balance h = l.balance h :=
  read_createAccount (·.balance h) (fun l x ↦ balance_setAccount l x h) l a

theorem account?_setAccount_fresh (l : Ledger) (a b : Address) :
    (l.setAccount (.fresh a)).account? b = if b = a then some (.fresh a) else l.account? b :=
  account?_setAccount l (.fresh a) b

theorem account?_createAccount (l : Ledger) (a b : Address) :
    (l.createAccount a).account? b
      = (l.account? b).or (if b = a then some (.fresh a) else none) := by
  rw [createAccount, hasAccount]
  by_cases hb : b = a
  · subst hb
    rw [if_pos rfl]
    cases h : l.account? b with
    | none =>
      rw [Option.isSome_none, if_neg Bool.false_ne_true, account?_setAccount_fresh, if_pos rfl,
        Option.none_or]
    | some x => rw [Option.isSome_some, if_pos rfl, h, Option.some_or]
  · rw [if_neg hb, Option.or_none]
    split
    · rfl
    · rw [account?_setAccount_fresh, if_neg hb]

theorem balance_move (l : Ledger) (sender recipient : Address) (e : Coin × Amount) (h : Holding) :
    (move sender recipient l e).balance h =
      if h = ⟨recipient, e.1.denom⟩ then e.2
      else if h = ⟨sender, e.1.denom⟩ then (l.balance ⟨sender, e.1.denom⟩).sub e.1.amount
      else l.balance h := by
  rw [move, balance_setBalance, balance_setBalance]

/-- The moves of a transfer, each to a balance computed beforehand, add up: the sender's balances
fall and the recipient's rise. -/
theorem balance_foldl_move (hne : sender ≠ recipient) {es : List (Coin × Amount)}
    (hes : (es.map (·.1)).Pairwise fun c d ↦ c.denom ≠ d.denom)
    (hcredit : ∀ e ∈ es,
      e.2.toNat = (l.balance ⟨recipient, e.1.denom⟩).toNat + e.1.amount.toNat)
    (h : Holding) : ((es.foldl (move sender recipient) l).balance h).toNat =
      if h.owner = sender then (l.balance h).toNat - Coins.unitsIn (es.map (·.1)) h.denom
      else if h.owner = recipient then (l.balance h).toNat + Coins.unitsIn (es.map (·.1)) h.denom
      else (l.balance h).toNat := by
  induction es generalizing l with
  | nil => split <;> [rfl; split <;> rfl]
  | cons e es ih =>
    obtain ⟨hdenom, hes⟩ := List.pairwise_cons.mp hes
    obtain ⟨he, hcredit⟩ := List.forall_mem_cons.mp hcredit
    -- the denominations still to come have not been touched
    have hcredit' : ∀ e' ∈ es, e'.2.toNat
        = ((move sender recipient l e).balance ⟨recipient, e'.1.denom⟩).toNat
          + e'.1.amount.toNat := by
      intro e' he'
      have hd : e'.1.denom ≠ e.1.denom := (hdenom e'.1 (List.mem_map_of_mem he')).symm
      rw [hcredit e' he', balance_move, if_neg (by simp [hd]), if_neg (by simp [hd])]
    rw [List.foldl_cons, ih hes hcredit', List.map_cons, Coins.unitsIn_cons, balance_move]
    -- the sender, the recipient or neither, and for the first two: this denomination or another
    obtain ⟨owner, denom⟩ := h
    by_cases hs : owner = sender
    · subst hs
      by_cases hd : denom = e.1.denom
      · subst hd
        simp only [if_true, Holding.mk.injEq, hne, false_and, if_false, Amount.toNat_sub]
        omega
      · simp [hne, hd, Ne.symm hd]
    · by_cases hr : owner = recipient
      · subst hr
        by_cases hd : denom = e.1.denom
        · subst hd
          simp [hs, he, Nat.add_assoc]
        · simp [hs, hd, Ne.symm hd]
      · simp [hs, hr]

/-- What the moves of a transfer do not write. -/
theorem read_foldl_move {ρ : Type} (read : Ledger → ρ)
    (h : ∀ l g n, read (setBalance l g n) = read l) (sender recipient : Address)
    (es : List (Coin × Amount)) (l : Ledger) :
    read (es.foldl (move sender recipient) l) = read l := by
  induction es generalizing l with
  | nil => rfl
  | cons e es ih => rw [List.foldl_cons, ih, move, h, h]

/-! ## The effect of a transfer -/

/-- The sender's balances fall and the recipient's rise by what the coins have of each
denomination; between one address and itself nothing moves. -/
theorem balance_transfer (h : l.transfer sender recipient coins = .ok l') (g : Holding) :
    (l'.balance g).toNat =
      if sender = recipient then (l.balance g).toNat
      else if g.owner = sender then
        (l.balance g).toNat - Coins.unitsIn coins.toList g.denom
      else if g.owner = recipient then
        (l.balance g).toNat + Coins.unitsIn coins.toList g.denom
      else (l.balance g).toNat := by
  obtain ⟨hvalid, -, ⟨hself, rfl⟩ | ⟨hne, credits, hcredits, rfl⟩⟩ := transfer_eq_ok.mp h
  · rw [if_pos hself]
  · obtain ⟨hmap, hcredits⟩ := mapM_credited_eq_ok.mp hcredits
    have hdenoms : (credits.map (·.1)).Pairwise fun c d ↦ c.denom ≠ d.denom :=
      hmap ▸ Coins.pairwise_ne_of_validate hvalid
    rw [if_neg hne, balance_foldl_move hne hdenoms fun e he ↦ by
      rw [balance_createAccount]
      exact hcredits e he, balance_createAccount, hmap]

/-- A successful transfer left the sender no less than nothing of any denomination. -/
theorem unitsIn_le_of_transfer (h : l.transfer sender recipient coins = .ok l') (d : String) :
    Coins.unitsIn coins.toList d ≤ (l.balance ⟨sender, d⟩).toNat := by
  obtain ⟨hvalid, hfunds, -⟩ := transfer_eq_ok.mp h
  by_cases hd : ∃ c ∈ coins.toList, c.denom = d
  · obtain ⟨c, hc, rfl⟩ := hd
    rw [Coins.unitsIn_of_mem (Coins.pairwise_ne_of_validate hvalid) hc]
    exact hfunds c hc
  · rw [Coins.unitsIn_eq_zero fun c hc hcd ↦ hd ⟨c, hc, hcd⟩]
    exact Nat.zero_le _

/-- What one address loses another gains, also when they are the same address. -/
theorem balance_transfer_add (h : l.transfer sender recipient coins = .ok l') (a : Address)
    (d : String) :
    (l'.balance ⟨a, d⟩).toNat + (if a = sender then Coins.unitsIn coins.toList d else 0)
      = (l.balance ⟨a, d⟩).toNat
        + (if a = recipient then Coins.unitsIn coins.toList d else 0) := by
  have hbalance := balance_transfer h ⟨a, d⟩
  have hfunds := unitsIn_le_of_transfer h d
  dsimp only at hbalance
  by_cases hself : sender = recipient
  · subst hself
    rw [hbalance, if_pos rfl]
  · rw [if_neg hself] at hbalance
    by_cases hs : a = sender
    · subst hs
      rw [if_pos rfl] at hbalance
      rw [hbalance, if_pos rfl, if_neg hself]
      omega
    · rw [if_neg hs] at hbalance
      by_cases hr : a = recipient
      · rw [if_pos hr] at hbalance
        rw [hbalance, if_neg hs, if_pos hr, Nat.add_zero]
      · rw [if_neg hr] at hbalance
        rw [hbalance, if_neg hs, if_neg hr]

/-- A transfer writes balances and accounts only. -/
theorem read_transfer {ρ : Type} (read : Ledger → ρ)
    (hbalance : ∀ l g n, read (setBalance l g n) = read l)
    (haccount : ∀ l x, read (setAccount l x) = read l)
    (h : l.transfer sender recipient coins = .ok l') : read l' = read l := by
  obtain ⟨-, -, ⟨-, rfl⟩ | ⟨-, credits, -, rfl⟩⟩ := transfer_eq_ok.mp h
  · rfl
  · rw [read_foldl_move read hbalance, read_createAccount read haccount]

theorem supply_transfer (h : l.transfer sender recipient coins = .ok l') (d : String) :
    l'.supply d = l.supply d :=
  read_transfer (·.supply d) (fun l g n ↦ supply_setBalance l g n d)
    (fun l x ↦ supply_setAccount l x d) h

theorem supplyRow?_transfer (h : l.transfer sender recipient coins = .ok l') (d : String) :
    l'.supplyRow? d = l.supplyRow? d :=
  read_transfer (·.supplyRow? d) (fun l g n ↦ supplyRow?_setBalance l g n d)
    (fun l x ↦ supplyRow?_setAccount l x d) h

theorem moduleAddress?_transfer (h : l.transfer sender recipient coins = .ok l') (name : String) :
    l'.moduleAddress? name = l.moduleAddress? name :=
  read_transfer (·.moduleAddress? name) (fun l g n ↦ moduleAddress?_setBalance l g n name)
    (fun l x ↦ moduleAddress?_setAccount l x name) h

theorem under?_transfer (h : l.transfer sender recipient coins = .ok l') :
    l'.under? = l.under? :=
  read_transfer under? under?_setBalance under?_setAccount h

/-- A transfer to another address creates an account there, and touches no other one. -/
theorem account?_transfer (h : l.transfer sender recipient coins = .ok l') (a : Address) :
    l'.account? a = (l.account? a).or
      (if sender ≠ recipient ∧ a = recipient then some (.fresh a) else none) := by
  obtain ⟨-, -, ⟨hself, rfl⟩ | ⟨hne, credits, -, rfl⟩⟩ := transfer_eq_ok.mp h
  · rw [if_neg fun h ↦ h.1 hself, Option.or_none]
  · rw [read_foldl_move (·.account? a) fun l g n ↦ account?_setBalance l g n a,
      account?_createAccount]
    by_cases ha : a = recipient
    · rw [if_pos ha, if_pos ⟨hne, ha⟩, ha]
    · rw [if_neg ha, if_neg fun h ↦ ha h.2]

end Tokenomics.Ledger

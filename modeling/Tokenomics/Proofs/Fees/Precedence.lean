import Tokenomics.Fees.Registers
import Tokenomics.Proofs.Fees.Review
import Tokenomics.Proofs.Ledger.Conservation

/-!
# The order of the cases

The verdict on a transaction is that of the first case that applies (`FirstOf`), in a fixed order of
cases (`Admitter.cases`): who refuses the transaction before its messages are looked at, the claim
that bootstraps an account, and then whether the fee can be charged. The cases are stated on what
the ledger and the two keepers say, without any transfer being made.

That a fee can be charged unless the account is unknown, the fee is not valid or the account is
short of a coin is where conservation comes in: on a balanced ledger nothing else can go wrong
(`deductFee_eq_error`).
-/

namespace Tokenomics

/-- What the first of some cases gives that gives anything. A case is the set of the results that it
gives, none if it does not apply. -/
inductive FirstOf {α : Type} : List (α → Prop) → α → Prop
  | here {c : α → Prop} {cs : List (α → Prop)} {r : α} (h : c r) : FirstOf (c :: cs) r
  | later {c : α → Prop} {cs : List (α → Prop)} {r : α} (hc : ∀ r', ¬ c r') (h : FirstOf cs r) :
      FirstOf (c :: cs) r

namespace FirstOf

variable {α : Type} {cs ds : List (α → Prop)} {r r' : α}

/-- When no case gives two results, there are no two. -/
theorem unique (hcs : ∀ c ∈ cs, ∀ r r', c r → c r' → r = r') (h : FirstOf cs r)
    (h' : FirstOf cs r') : r = r' := by
  induction h with
  | here hr =>
    cases h' with
    | here hr' => exact hcs _ List.mem_cons_self _ _ hr hr'
    | later hnone _ => exact absurd hr (hnone _)
  | later hnone _ ih =>
    cases h' with
    | here hr' => exact absurd hr' (hnone _)
    | later _ h' => exact ih (fun c hc ↦ hcs c (List.mem_cons_of_mem _ hc)) h'

/-- Cases that do not apply may stand in front. -/
theorem append_left (hds : ∀ c ∈ ds, ∀ r', ¬ c r') (h : FirstOf cs r) : FirstOf (ds ++ cs) r := by
  induction ds with
  | nil => exact h
  | cons c ds ih =>
    obtain ⟨hc, hds⟩ := List.forall_mem_cons.mp hds
    exact .later hc (ih hds)

/-- What cases behind give does not matter once one in front applies. -/
theorem append_right (h : FirstOf cs r) (ds : List (α → Prop)) : FirstOf (cs ++ ds) r := by
  induction h with
  | here hr => exact .here hr
  | later hnone _ ih => exact .later hnone ih

theorem exists_mem (h : FirstOf cs r) : ∃ c ∈ cs, c r := by
  induction h with
  | here hr => exact ⟨_, List.mem_cons_self, hr⟩
  | later _ _ ih =>
    obtain ⟨c, hc, hr⟩ := ih
    exact ⟨c, List.mem_cons_of_mem _ hc, hr⟩

end FirstOf

namespace Admitter

variable {σ τ : Type}

/-! ## The cases -/

section Cases

variable (d : Admitter σ τ) (s : AdmissionState σ τ) (messages : List Message) (fee : Fee)

/-- The keeper of grants denies a granter who is not the payer. -/
def Denies (granter : Address) (reason : String) : Prop :=
  fee.granter = some granter ∧ granter ≠ fee.payer ∧ ∃ keeper, d.grants = some keeper ∧
    (keeper s.grants (requestOf messages fee granter)).2 = .error reason

/-- The messages are one claim for an address without an account, and the claim succeeds on a fork
of the ledger that has a fresh account there. -/
def Bootstraps (c : Claim) : Prop :=
  messages = [.claim c] ∧ s.ledger.account? c.rewardAddress = none ∧
    (d.claims s.claims (claimView s.ledger c) c).2.2 = .ok ()

/-- The refusals before the messages are looked at: the fee collector is not registered; a granter
is named where no grants are kept, even if it is the payer; the grant is denied. -/
def refusals : List (Verdict → Prop) :=
  [fun r ↦ s.ledger.moduleAddress? feeCollector = none ∧ r = .error (.noCollector feeCollector),
    fun r ↦ fee.granter ≠ none ∧ d.grants = none ∧ r = .error .grantsDisabled,
    fun r ↦ ∃ granter reason, Denies d s messages fee granter reason ∧
      r = .error (.grantDenied granter fee.payer reason)]

/-- A claim bootstraps an account. -/
def bootstrap : Verdict → Prop := fun r ↦
  ∃ c, Bootstraps d s messages c ∧ r = .ok (.bootstrapped c.rewardAddress)

/-- Whether an account can be charged: it has to exist; nothing is asked of a fee without units;
other fees must be valid, and the account must have all their coins. -/
def charges (l : Ledger) (a : Address) (coins : Coins) : List (Verdict → Prop) :=
  [fun r ↦ l.account? a = none ∧ r = .error (.unknownPayer a),
    fun r ↦ (∀ c ∈ coins.toList, c.amount.toNat = 0) ∧ r = .ok (.charged a (.paid coins.text)),
    fun r ↦ ∃ cause, coins.validate = .error cause ∧ r = .error (.invalidFee coins cause),
    fun r ↦ ∃ short, l.ShortOf a coins short ∧ r = .error (.unpaid short),
    fun r ↦ r = .ok (.charged a (.paid coins.text))]

/-- All cases about a transaction, those that go before others first. -/
def cases (tx : Transaction) : List (Verdict → Prop) :=
  match tx.fee with
  | none => [fun r ↦ r = .error .noFee]
  | some fee => refusals d s tx.messages fee ++
      bootstrap d s tx.messages :: charges s.ledger fee.account fee.amount

/-- A claim is tried: no refusal applies, and the messages are this one claim, for an address
without an account. -/
def Tries (tx : Transaction) (c : Claim) : Prop :=
  ∃ fee, tx.fee = some fee ∧ (∀ case ∈ refusals d s tx.messages fee, ∀ r, ¬ case r) ∧
    tx.messages = [.claim c] ∧ s.ledger.account? c.rewardAddress = none

end Cases

variable {d : Admitter σ τ} {s : AdmissionState σ τ} {tx : Transaction} {messages : List Message}
  {fee : Fee} {l : Ledger} {a : Address} {coins : Coins} {g : σ}

/-! ## No case gives two results -/

theorem ShortOf.unique {e e' : LedgerError} (h : l.ShortOf a coins e) (h' : l.ShortOf a coins e') :
    e = e' := by
  have hforM := Ledger.forM_checkFunds_eq_error.mpr h
  have hforM' := Ledger.forM_checkFunds_eq_error.mpr h'
  exact Except.error.inj (hforM.symm.trans hforM')

theorem eq_of_mem_refusals {case : Verdict → Prop} (hcase : case ∈ refusals d s messages fee)
    {r r' : Verdict} (h : case r) (h' : case r') : r = r' := by
  simp only [refusals, List.mem_cons, List.not_mem_nil, or_false] at hcase
  rcases hcase with rfl | rfl | rfl
  · exact h.2.trans h'.2.symm
  · exact h.2.2.trans h'.2.2.symm
  · obtain ⟨granter, reason, ⟨hgranter, -, keeper, hkeeper, hdenies⟩, rfl⟩ := h
    obtain ⟨granter', reason', ⟨hgranter', -, keeper', hkeeper', hdenies'⟩, rfl⟩ := h'
    obtain rfl : granter = granter' := Option.some.inj (hgranter.symm.trans hgranter')
    obtain rfl : keeper = keeper' := Option.some.inj (hkeeper.symm.trans hkeeper')
    obtain rfl : reason = reason' := Except.error.inj (hdenies.symm.trans hdenies')
    rfl

theorem bootstrap_unique {r r' : Verdict} (h : bootstrap d s messages r)
    (h' : bootstrap d s messages r') : r = r' := by
  obtain ⟨c, ⟨hmessages, -⟩, rfl⟩ := h
  obtain ⟨c', ⟨hmessages', -⟩, rfl⟩ := h'
  obtain rfl : c = c' := by simpa using hmessages.symm.trans hmessages'
  rfl

theorem eq_of_mem_charges {case : Verdict → Prop} (hcase : case ∈ charges l a coins)
    {r r' : Verdict} (h : case r) (h' : case r') : r = r' := by
  simp only [charges, List.mem_cons, List.not_mem_nil, or_false] at hcase
  rcases hcase with rfl | rfl | rfl | rfl | rfl
  · exact h.2.trans h'.2.symm
  · exact h.2.trans h'.2.symm
  · obtain ⟨cause, hcause, rfl⟩ := h
    obtain ⟨cause', hcause', rfl⟩ := h'
    obtain rfl : cause = cause' := Except.error.inj (hcause.symm.trans hcause')
    rfl
  · obtain ⟨short, hshort, rfl⟩ := h
    obtain ⟨short', hshort', rfl⟩ := h'
    obtain rfl : short = short' := ShortOf.unique hshort hshort'
    rfl
  · exact h.trans h'.symm

theorem cases_unique {case : Verdict → Prop} (hcase : case ∈ d.cases s tx) {r r' : Verdict}
    (h : case r) (h' : case r') : r = r' := by
  rw [cases.eq_def] at hcase
  split at hcase
  · obtain rfl := List.mem_singleton.mp hcase
    exact h.trans h'.symm
  · rcases List.mem_append.mp hcase with hcase | hcase
    · exact eq_of_mem_refusals hcase h h'
    · rcases List.mem_cons.mp hcase with rfl | hcase
      · exact bootstrap_unique h h'
      · exact eq_of_mem_charges hcase h h'

/-! ## Which case applies -/

/-- Who is charged has not been refused. -/
theorem Charging.not_refused {collector : Address}
    (hc : s.ledger.moduleAddress? feeCollector = some collector)
    (h : Charging d s.grants messages fee (g, .ok a)) :
    ∀ case ∈ refusals d s messages fee, ∀ r, ¬ case r := by
  intro case hcase r hr
  simp only [refusals, List.mem_cons, List.not_mem_nil, or_false] at hcase
  rcases hcase with rfl | rfl | rfl
  · exact nomatch hc.symm.trans hr.1
  · obtain ⟨hgranter, hgrants, -⟩ := hr
    cases h with
    | payer hnone => exact hgranter hnone
    | self _ hd => exact nomatch hd.symm.trans hgrants
    | granted _ _ hd _ => exact nomatch hd.symm.trans hgrants
  · obtain ⟨granter, reason, ⟨hgranter, hne, keeper, hkeeper, hdenies⟩, -⟩ := hr
    cases h with
    | payer hnone => exact nomatch hnone.symm.trans hgranter
    | self hself _ => exact hne (Option.some.inj (hgranter.symm.trans hself))
    | granted hgranted _ hd hk =>
      obtain rfl := Option.some.inj (hgranter.symm.trans hgranted)
      obtain rfl := Option.some.inj (hkeeper.symm.trans hd)
      rw [hk] at hdenies
      exact nomatch hdenies

/-- A refusal comes of the first reason for one. -/
theorem Charging.firstOf_refusals {collector : Address} {e : AdmissionError}
    (hc : s.ledger.moduleAddress? feeCollector = some collector)
    (h : Charging d s.grants messages fee (g, .error e)) :
    FirstOf (refusals d s messages fee) (.error e) := by
  refine .later (fun r hr ↦ nomatch hc.symm.trans hr.1) ?_
  cases h with
  | disabled hgranter hd =>
    refine .here ⟨?_, hd, rfl⟩
    rw [hgranter]
    exact nofun
  | denied hgranter hne hd hk =>
    refine .later (fun r hr ↦ nomatch hd.symm.trans hr.2.1) (.here ⟨_, _, ⟨?_, hne, ?_⟩, rfl⟩)
    · exact hgranter
    · refine ⟨_, hd, ?_⟩
      rw [hk]

/-- On a balanced ledger a fee can fail to be deducted in two ways. -/
theorem deductFee_eq_error {collector : Address} {e : AdmissionError} (hl : l.Balanced)
    (hc : l.moduleAddress? feeCollector = some collector) : deductFee l a coins = .error e ↔
      (∃ cause, coins.validate = .error cause ∧ e = .invalidFee coins cause) ∨
        coins.validate = .ok () ∧ ∃ short, l.ShortOf a coins short ∧ e = .unpaid short := by
  rw [deductFee]
  cases hvalid : coins.validate with
  | error cause =>
    simp [eq_comm]
  | ok u =>
    have hsend : l.sendToModule a feeCollector coins = l.transfer a collector coins := by
      rw [Ledger.sendToModule, Ledger.moduleAddress_eq_ok.mpr hc]
      rfl
    simp only [hsend, reduceCtorEq, false_and, exists_false, false_or, true_and]
    rw [mapError_eq_error]
    refine exists_congr fun short ↦ and_congr_left fun _ ↦ ?_
    rw [hl.transfer_eq_error, hvalid]
    simp

theorem not_invalidFee (hvalid : coins.validate = .ok ()) (r : Verdict) :
    ¬ ∃ cause, coins.validate = .error cause ∧ r = .error (.invalidFee coins cause) := by
  rintro ⟨cause, hcause, -⟩
  simp [hvalid] at hcause

/-- On a balanced ledger, whether a fee is charged is decided by the first case that applies. -/
theorem firstOf_charge {collector : Address} (hl : l.Balanced)
    (hc : l.moduleAddress? feeCollector = some collector) (a : Address) (coins : Coins) :
    FirstOf (charges l a coins) ((charge l a coins).map Prod.snd) := by
  cases hcharge : charge l a coins with
  | ok x =>
    obtain ⟨haccount, hr, hdeduct⟩ := charge_eq_ok.mp hcharge
    have hknown : l.account? a ≠ none := Option.isSome_iff_ne_none.mp haccount
    refine .later (fun _ h ↦ hknown h.1) ?_
    rcases hdeduct with ⟨hzero, -⟩ | ⟨hzero, hdeduct⟩
    · exact .here ⟨Coins.isZero_iff.mp hzero, congrArg _ hr⟩
    · obtain ⟨hvalid, -⟩ := deductFee_eq_ok.mp hdeduct
      refine .later (fun _ h ↦ Coins.not_forall_zero hzero h.1) ?_
      refine .later (not_invalidFee hvalid) (.later ?_ (.here (congrArg _ hr)))
      rintro r ⟨short, hshort, -⟩
      have herror := (deductFee_eq_error hl hc).mpr (.inr ⟨hvalid, short, hshort, rfl⟩)
      simp [hdeduct] at herror
  | error e =>
    obtain ⟨hnone, rfl⟩ | ⟨haccount, hzero, hdeduct⟩ := charge_eq_error.mp hcharge
    · exact .here ⟨hnone, rfl⟩
    have hknown : l.account? a ≠ none := Option.isSome_iff_ne_none.mp haccount
    refine .later (fun _ h ↦ hknown h.1) ?_
    refine .later (fun _ h ↦ Coins.not_forall_zero hzero h.1) ?_
    obtain ⟨cause, hcause, rfl⟩ | ⟨hvalid, short, hshort, rfl⟩ :=
      (deductFee_eq_error hl hc).mp hdeduct
    · exact .here ⟨cause, hcause, rfl⟩
    · exact .later (not_invalidFee hvalid) (.here ⟨short, hshort, rfl⟩)

/-! ## The verdict -/

/-- What decides about a transaction: the verdict is that of the first case that applies, and the
keeper of allocations is asked once if a claim is tried and not at all otherwise. -/
structure Decides (d : Admitter σ τ) (s : AdmissionState σ τ) (tx : Transaction) : Prop where
  verdict : ∀ r, FirstOf (d.cases s tx) r ↔ (d.review s tx).2 = r
  tried : ∀ c, d.Tries s tx c →
    (d.review s tx).1.claims = (d.claims s.claims (claimView s.ledger c) c).1
  untried : (∀ c, ¬ d.Tries s tx c) → (d.review s tx).1.claims = s.claims

/-- The verdict of a review is given by the first case that applies. -/
theorem firstOf_review (hl : s.ledger.Balanced) (tx : Transaction) :
    FirstOf (d.cases s tx) (d.review s tx).2 := by
  have hreviewed := reviewed_review d s tx
  rw [cases.eq_def]
  generalize d.review s tx = result at hreviewed
  cases hreviewed with
  | noFee h =>
    rw [h]
    exact .here rfl
  | noCollector h hc =>
    rw [h]
    exact .here ⟨hc, rfl⟩
  | refused h hc hcharging =>
    rw [h]
    exact (hcharging.firstOf_refusals hc).append_right _
  | bootstrapped h hc hcharging hmessages hnew hclaim =>
    rw [h]
    exact .append_left (hcharging.not_refused hc) (.here ⟨_, ⟨hmessages, hnew, hclaim⟩, rfl⟩)
  | unclaimed h hc hcharging hmessages hnew hclaim =>
    rw [h]
    refine .append_left (hcharging.not_refused hc) (.later ?_ ?_)
    · rintro r ⟨c, ⟨hmessages', -, hclaim'⟩, -⟩
      obtain rfl : _ = c := by simpa using hmessages.symm.trans hmessages'
      exact hclaim hclaim'
    · rw [settle_snd]
      exact firstOf_charge hl hc _ _
  | settled h hc hcharging hnew =>
    rw [h]
    refine .append_left (hcharging.not_refused hc) (.later ?_ ?_)
    · rintro r ⟨c, ⟨hmessages, hnone, -⟩, -⟩
      exact hnew c hmessages hnone
    · rw [settle_snd]
      exact firstOf_charge hl hc _ _

/-- A claim that is tried is put to the keeper once, whatever comes of it. -/
theorem claims_review_of_tries {c : Claim} (htries : d.Tries s tx c) :
    (d.review s tx).1.claims = (d.claims s.claims (claimView s.ledger c) c).1 := by
  obtain ⟨fee, hfee, hunrefused, hmessages, hnew⟩ := htries
  have hreviewed := reviewed_review d s tx
  generalize d.review s tx = result at hreviewed
  cases hreviewed with
  | noFee h => exact nomatch h.symm.trans hfee
  | noCollector h hc => exact absurd ⟨hc, rfl⟩ (hunrefused _ List.mem_cons_self _)
  | refused h hc hcharging =>
    obtain rfl := Option.some.inj (h.symm.trans hfee)
    obtain ⟨case, hcase, hr⟩ := (hcharging.firstOf_refusals hc).exists_mem
    exact absurd hr (hunrefused case hcase _)
  | bootstrapped h hc hcharging hmessages' hnew' hclaim =>
    obtain rfl : _ = c := by simpa using hmessages'.symm.trans hmessages
    rfl
  | unclaimed h hc hcharging hmessages' hnew' hclaim =>
    obtain rfl : _ = c := by simpa using hmessages'.symm.trans hmessages
    rw [claims_settle]
  | settled h hc hcharging hsettled => exact absurd hnew (hsettled c hmessages)

/-- The keeper is not asked about claims that are not tried. -/
theorem claims_review_of_not_tries (huntried : ∀ c, ¬ d.Tries s tx c) :
    (d.review s tx).1.claims = s.claims := by
  have hreviewed := reviewed_review d s tx
  generalize d.review s tx = result at hreviewed
  cases hreviewed with
  | noFee h => rfl
  | noCollector h hc => rfl
  | refused h hc hcharging => rfl
  | bootstrapped h hc hcharging hmessages hnew hclaim =>
    exact absurd ⟨_, h, hcharging.not_refused hc, hmessages, hnew⟩ (huntried _)
  | unclaimed h hc hcharging hmessages hnew hclaim =>
    exact absurd ⟨_, h, hcharging.not_refused hc, hmessages, hnew⟩ (huntried _)
  | settled h hc hcharging hnew => rw [claims_settle]

/-- **The verdict on a transaction is that of the first case that applies,** whatever the two
collaborators do, on a ledger whose addresses hold together what is supplied. -/
theorem decides_review (hl : s.ledger.Balanced) (tx : Transaction) : Decides d s tx := by
  refine ⟨fun r ↦ ⟨fun hr ↦ ?_, fun hr ↦ ?_⟩, fun c ↦ claims_review_of_tries,
    claims_review_of_not_tries⟩
  · exact (firstOf_review hl tx).unique (fun _ hcase _ _ ↦ cases_unique hcase) hr
  · rw [← hr]
    exact firstOf_review hl tx

/-- Grants and allocations in one denomination. -/
def registers : Admitter GrantRegister AllocationRegister :=
  ⟨some (GrantRegister.use "ufury"), AllocationRegister.claim "ufury"⟩

/-- A hundred coins in the account of a granter, who allows to spend fifty of them. -/
def fiftyGranted : AdmissionState GrantRegister AllocationRegister where
  ledger := .book (Ledger.funded feeCollector 100)
  grants := ⟨SortedMap.empty.insert ⟨Ledger.bytesOf 1, Ledger.bytesOf 2⟩ (.ofUInt64 50), 0⟩
  claims := ⟨SortedMap.empty, [], []⟩

/-- A claim whose signature is not accepted, for an address without an account, and a fee of thirty
coins under a grant. -/
def forgedClaim : Transaction where
  messages := [.claim ⟨"0x01", "key", Ledger.bytesOf 3, "forged"⟩]
  fee := some ⟨Ledger.furies 30, Ledger.bytesOf 2, some (Ledger.bytesOf 1)⟩

/-- The claim does not bootstrap its account, and so the granter is charged. -/
theorem decides_review_forgedClaim : fiftyGranted.ledger.Balanced ∧
    (registers.review fiftyGranted forgedClaim).2
      = .ok (.charged (Ledger.bytesOf 1) (.paid "30ufury")) ∧
    Decides registers fiftyGranted forgedClaim := by
  have hbalanced : fiftyGranted.ledger.Balanced :=
    Ledger.balanced_of_arises (Ledger.arises_funded feeCollector 100)
  exact ⟨hbalanced, by decide +kernel, decides_review hbalanced forgedClaim⟩

end Admitter

end Tokenomics

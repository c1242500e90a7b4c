import Mathlib.Algebra.Ring.Nat
import Tokenomics.Coin.Coins
import Tokenomics.Proofs.SortedMap
import Tokenomics.Proofs.Steps

/-!
# Valid coins

The check of a list of coins goes from left to right and looks at neighbours. What it accepts is
said here without an order of checks: every coin has a well formed denomination and some units,
and the denominations ascend strictly (`validate_eq_ok`). So a valid list names no denomination
twice, and how much it has of one is the amount of one coin.
-/

namespace Tokenomics

namespace Amount

theorem toNat_foldl_addSaturating (l : List Amount) (a : Amount) :
    (l.foldl addSaturating a).toNat
      = min (a.toNat + (l.map toNat).sum) (1 <<< 128 - 1) := by
  induction l generalizing a with
  | nil =>
    have hlt := a.toNat_lt
    rw [List.foldl_nil, List.map_nil, List.sum_nil]
    omega
  | cons b l ih =>
    rw [List.foldl_cons, ih, toNat_addSaturating, List.map_cons, List.sum_cons]
    omega

theorem toNat_total (l : List Amount) :
    (total l).toNat = min (l.map toNat).sum (1 <<< 128 - 1) := by
  rw [total, toNat_foldl_addSaturating, toNat_zero, Nat.zero_add]

end Amount

/-- A coin that may stand in a valid list. -/
def Coin.Sound (c : Coin) : Prop := isDenom c.denom = true ∧ c.isZero = false

namespace Coins

/-- How many units of a denomination some coins have. -/
def unitsIn (l : List Coin) (denom : String) : Nat :=
  ((l.filter (·.denom = denom)).map (·.amount.toNat)).sum

@[simp] theorem unitsIn_nil (denom : String) : unitsIn [] denom = 0 := rfl

theorem unitsIn_cons (c : Coin) (l : List Coin) (denom : String) :
    unitsIn (c :: l) denom = (if c.denom = denom then c.amount.toNat else 0) + unitsIn l denom := by
  by_cases h : c.denom = denom
  · rw [if_pos h, unitsIn, List.filter_cons_of_pos (by simpa using h), List.map_cons, List.sum_cons]
    rfl
  · rw [if_neg h, unitsIn, List.filter_cons_of_neg (by simpa using h), Nat.zero_add]
    rfl

theorem unitsIn_append (l m : List Coin) (denom : String) :
    unitsIn (l ++ m) denom = unitsIn l denom + unitsIn m denom := by
  rw [unitsIn, List.filter_append, List.map_append, List.sum_append]
  rfl

theorem unitsIn_eq_zero {l : List Coin} {denom : String} (h : ∀ c ∈ l, c.denom ≠ denom) :
    unitsIn l denom = 0 := by
  rw [unitsIn, List.filter_eq_nil_iff.mpr fun c hc ↦ by simpa using h c hc]
  rfl

/-- Of pairwise different denominations each coin is all there is of its own. -/
theorem unitsIn_of_mem {l : List Coin} (hl : l.Pairwise fun a b ↦ a.denom ≠ b.denom) {c : Coin}
    (hc : c ∈ l) : unitsIn l c.denom = c.amount.toNat := by
  induction l with
  | nil => exact absurd hc List.not_mem_nil
  | cons d l ih =>
    obtain ⟨hd, hl⟩ := List.pairwise_cons.mp hl
    rw [unitsIn_cons]
    rcases List.mem_cons.mp hc with rfl | hc
    · rw [if_pos rfl, unitsIn_eq_zero fun e he ↦ (hd e he).symm, Nat.add_zero]
    · rw [if_neg (hd c hc), ih hl hc, Nat.zero_add]

/-- What a list has of a denomination, as far as there is an amount of it. -/
theorem toNat_amountOf (cs : Coins) (denom : String) :
    (cs.amountOf denom).toNat = min (unitsIn cs.toList denom) (1 <<< 128 - 1) := by
  rw [amountOf, Amount.toNat_total, List.map_map, unitsIn]
  rfl

theorem isZero_iff {cs : Coins} :
    cs.isZero = true ↔ ∀ c ∈ cs.toList, c.amount.toNat = 0 := by
  rw [isZero, List.all_eq_true]
  exact forall₂_congr fun c _ ↦ beq_iff_eq

theorem not_forall_zero {cs : Coins} (h : cs.isZero = false) :
    ¬ ∀ c ∈ cs.toList, c.amount.toNat = 0 := by
  rw [← isZero_iff, h]
  exact Bool.false_ne_true

theorem unitsIn_of_isZero {cs : Coins} (h : cs.isZero = true) (denom : String) :
    unitsIn cs.toList denom = 0 := by
  obtain ⟨l⟩ := cs
  have hzero := isZero_iff.mp h
  induction l with
  | nil => rfl
  | cons c l ih =>
    obtain ⟨hc, hl⟩ := List.forall_mem_cons.mp hzero
    rw [unitsIn_cons, hc, ite_self, ih (isZero_iff.mpr hl) hl]

/-! ## What is accepted -/

theorem checkDenom_eq_ok {denom : String} : checkDenom denom = .ok () ↔ isDenom denom = true := by
  rw [checkDenom]
  split
  · rename_i h
    exact ⟨fun _ ↦ h, fun _ ↦ rfl⟩
  · rename_i h
    exact ⟨fun h' ↦ (nomatch h'), fun h' ↦ absurd h' h⟩

theorem checkOrder_eq_ok {whole : Coins} {c : Coin} {previous : String} :
    checkOrder whole c previous = .ok () ↔ compare previous c.denom = .lt := by
  rw [checkOrder]
  split
  · rename_i h
    exact ⟨fun _ ↦ h, fun _ ↦ rfl⟩
  · rename_i h
    exact ⟨fun h' ↦ (nomatch h'), fun h' ↦ Ordering.noConfusion (h.symm.trans h')⟩
  · rename_i h
    exact ⟨fun h' ↦ (nomatch h'), fun h' ↦ Ordering.noConfusion (h.symm.trans h')⟩

/-- The check of one coin and of the coins behind it. -/
theorem validateFrom_cons_eq_ok {whole : Coins} {previous : Option String} {c : Coin}
    {l : List Coin} : validateFrom whole previous (c :: l) = .ok () ↔
      c.Sound ∧ (∀ p ∈ previous, compare p c.denom = .lt) ∧
        validateFrom whole (some c.denom) l = .ok () := by
  rw [validateFrom, check_bind_eq_ok, checkDenom_eq_ok, Coin.Sound, and_assoc]
  refine and_congr_right fun _ ↦ ?_
  -- a coin without units is refused before its place in the order is looked at
  by_cases hz : c.isZero = true
  · simp only [hz, if_true]
    exact ⟨fun h ↦ (nomatch h), fun h ↦ (nomatch h.1)⟩
  · cases previous with
    | none =>
      simp only [hz]
      exact ⟨fun h ↦ ⟨trivial, fun _ hp ↦ (nomatch hp), h⟩, fun h ↦ h.2.2⟩
    | some p =>
      simp only [hz]
      refine check_bind_eq_ok.trans ?_
      rw [checkOrder_eq_ok]
      exact ⟨fun h ↦ ⟨trivial, fun q hq ↦ Option.some.inj hq ▸ h.1, h.2⟩,
        fun h ↦ ⟨h.2.1 p rfl, h.2.2⟩⟩

theorem validateFrom_eq_ok {whole : Coins} {previous : Option String} {l : List Coin} :
    validateFrom whole previous l = .ok () ↔
      (∀ c ∈ l, c.Sound) ∧ (∀ p ∈ previous, ∀ c ∈ l, compare p c.denom = .lt) ∧
        l.Pairwise fun a b ↦ compare a.denom b.denom = .lt := by
  induction l generalizing previous with
  | nil =>
    exact ⟨fun _ ↦ ⟨fun _ h ↦ absurd h List.not_mem_nil,
      fun _ _ _ h ↦ absurd h List.not_mem_nil, .nil⟩, fun _ ↦ rfl⟩
  | cons c l ih =>
    rw [validateFrom_cons_eq_ok, ih, List.forall_mem_cons, List.pairwise_cons]
    constructor
    · rintro ⟨hc, hp, hl, hcl, hpair⟩
      refine ⟨⟨hc, hl⟩, fun p hpm ↦ ?_, hcl c.denom rfl, hpair⟩
      -- what comes before `c` comes before all that comes behind it
      exact List.forall_mem_cons.mpr ⟨hp p hpm, fun e he ↦
        Std.TransCmp.lt_trans (hp p hpm) (hcl c.denom rfl e he)⟩
    · rintro ⟨⟨hc, hl⟩, hp, hcl, hpair⟩
      refine ⟨hc, fun p hpm ↦ hp p hpm c List.mem_cons_self, hl, ?_, hpair⟩
      rintro p hpm
      rw [← Option.some.inj hpm]
      exact hcl

/-- A list of coins is accepted exactly when each coin is sound and the denominations ascend. -/
theorem validate_eq_ok {cs : Coins} : cs.validate = .ok () ↔
    (∀ c ∈ cs.toList, c.Sound) ∧
      cs.toList.Pairwise fun a b ↦ compare a.denom b.denom = .lt := by
  rw [validate, validateFrom_eq_ok]
  exact ⟨fun ⟨h, _, hp⟩ ↦ ⟨h, hp⟩, fun ⟨h, hp⟩ ↦ ⟨h, fun _ hn ↦ (nomatch hn), hp⟩⟩

theorem pairwise_ne_of_validate {cs : Coins} (h : cs.validate = .ok ()) :
    cs.toList.Pairwise fun a b ↦ a.denom ≠ b.denom :=
  (validate_eq_ok.mp h).2.imp fun hlt ↦ SortedMap.ne_of_compare_lt hlt

/-! ## One coin -/

theorem toList_single (denom : String) (n : Amount) :
    (single denom n).toList = if n.isZero then [] else [⟨denom, n⟩] := by
  rw [single, normalized]
  by_cases h : n.isZero
  · rw [if_pos h, List.filter_cons_of_neg (by simpa [Coin.isZero] using h)]
    rfl
  · have hsum : Amount.zero.addSaturating n = n := by
      refine Amount.ext ?_
      have := n.toNat_lt
      rw [Amount.toNat_addSaturating, Amount.toNat_zero]
      omega
    rw [if_neg h, List.filter_cons_of_pos (by simpa [Coin.isZero] using h)]
    show [(⟨denom, Amount.zero.addSaturating n⟩ : Coin)] = _
    rw [hsum]

theorem unitsIn_single (denom : String) (n : Amount) (d : String) :
    unitsIn (single denom n).toList d = if denom = d then n.toNat else 0 := by
  rw [toList_single]
  by_cases h : n.isZero
  · rw [if_pos h, unitsIn_nil, beq_iff_eq.mp h, ite_self]
  · rw [if_neg h, unitsIn_cons, unitsIn_nil, Nat.add_zero]

end Coins

end Tokenomics

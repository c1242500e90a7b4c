import Tokenomics.Proofs.Coin.Canonical

/-!
# What is wrong with coins

The check of coins compares neighbours only. It accepts nothing but canonical coins all the same:
an order that holds between neighbours holds throughout, so no denomination comes a second time,
however far from the first (`validate_canonicity`). Coins that are refused are refused for the first
of them that cannot follow those before it, and of all that is wrong with that one, `Flaw` says what
is reported. A denomination that has occurred before, but not in the coin right before, is one that
is out of order.
-/

namespace Tokenomics.Coins

variable {cs whole : Coins} {previous : Option String} {c : Coin} {l early late : List Coin}
  {e : CoinError}

/-! ## One coin -/

/-- What is wrong with a coin behind one of the denomination `previous`, or in front of all. The
denomination is looked at first, then the amount, and its place in the order last. -/
inductive Flaw (whole : Coins) (previous : Option String) (c : Coin) : CoinError → Prop
  | denom (h : checkDenom c.denom ≠ .ok ()) : Flaw whole previous c (.invalidDenom c.denom)
  | amount (hdenom : checkDenom c.denom = .ok ()) (h : c.isZero = true) :
      Flaw whole previous c (.nonPositiveAmount c)
  | repetition (hdenom : checkDenom c.denom = .ok ()) (hamount : c.isZero = false)
      (h : previous = some c.denom) : Flaw whole previous c (.duplicateDenom c.denom)
  | order {p : String} (hdenom : checkDenom c.denom = .ok ()) (hamount : c.isZero = false)
      (hp : previous = some p) (h : compare c.denom p = .lt) :
      Flaw whole previous c (.unsorted whole)

theorem checkDenom_eq_error {d : String} :
    checkDenom d = .error e ↔ checkDenom d ≠ .ok () ∧ e = .invalidDenom d := by
  rw [checkDenom]
  split
  · simp
  · simp [eq_comm]

theorem checkOrder_eq_error {p : String} : checkOrder whole c p = .error e ↔
    p = c.denom ∧ e = .duplicateDenom c.denom ∨ compare c.denom p = .lt ∧ e = .unsorted whole := by
  rw [checkOrder]
  split
  · rename_i hlt
    refine iff_of_false (by rintro ⟨⟩) ?_
    rintro (⟨heq, -⟩ | ⟨hgt, -⟩)
    · exact SortedMap.ne_of_compare_lt hlt heq
    · exact Std.OrientedCmp.not_lt_of_lt hlt hgt
  · rename_i heq
    obtain rfl := Std.LawfulEqOrd.eq_of_compare heq
    simp [eq_comm]
  · rename_i hgt
    have hlt := Std.OrientedCmp.lt_of_gt hgt
    have hne := (SortedMap.ne_of_compare_lt hlt).symm
    simp [hlt, hne, eq_comm]

/-- What is wrong with a coin, rule by rule. -/
theorem flaw_iff : Flaw whole previous c e ↔
    checkDenom c.denom ≠ .ok () ∧ e = .invalidDenom c.denom ∨
    checkDenom c.denom = .ok () ∧ (c.isZero = true ∧ e = .nonPositiveAmount c ∨
      c.isZero = false ∧ ∃ p ∈ previous, checkOrder whole c p = .error e) := by
  constructor
  · intro h
    cases h with
    | denom h => exact .inl ⟨h, rfl⟩
    | amount hdenom h => exact .inr ⟨hdenom, .inl ⟨h, rfl⟩⟩
    | repetition hdenom hamount h =>
      exact .inr ⟨hdenom, .inr ⟨hamount, _, h, checkOrder_eq_error.mpr (.inl ⟨rfl, rfl⟩)⟩⟩
    | order hdenom hamount hp h =>
      exact .inr ⟨hdenom, .inr ⟨hamount, _, hp, checkOrder_eq_error.mpr (.inr ⟨h, rfl⟩)⟩⟩
  · rintro (⟨h, rfl⟩ | ⟨hdenom, ⟨h, rfl⟩ | ⟨hamount, p, hp, horder⟩⟩)
    · exact .denom h
    · exact .amount hdenom h
    · rcases checkOrder_eq_error.mp horder with ⟨rfl, rfl⟩ | ⟨h, rfl⟩
      · exact .repetition hdenom hamount hp
      · exact .order hdenom hamount hp h

/-- The first of some coins is what is wrong, or it may stand there and something behind it is. -/
theorem validateFrom_cons_eq_error : validateFrom whole previous (c :: l) = .error e ↔
    Flaw whole previous c e ∨ (c.Sound ∧ ∀ p ∈ previous, compare p c.denom = .lt) ∧
      validateFrom whole (some c.denom) l = .error e := by
  rw [validateFrom, check_bind_eq_error, checkDenom_eq_error, flaw_iff, or_assoc, Coin.Sound,
    ← checkDenom_eq_ok]
  refine or_congr_right ?_
  by_cases hdenom : checkDenom c.denom = .ok ()
  · cases hzero : c.isZero with
    | true =>
      -- a coin without units is refused before its place in the order is looked at
      have hthrow (k : Unit → Except CoinError Unit) :
          ((throw (.nonPositiveAmount c) : Except CoinError Unit) >>= k) = .error e ↔
            e = .nonPositiveAmount c := by
        rw [eq_comm (a := e)]
        exact ⟨Except.error.inj, congrArg _⟩
      simp [hdenom, hthrow]
    | false =>
      cases previous with
      | none => simp [hdenom]
      | some p =>
        simp [hdenom, check_bind_eq_error, checkOrder_eq_ok]
  · simp [hdenom]

/-! ## The first flaw -/

theorem getLast?_cons_denom (c : Coin) (l : List Coin) (previous : Option String) :
    ((c :: l).getLast?.map (·.denom)).or previous =
      (l.getLast?.map (·.denom)).or (some c.denom) := by
  rw [List.getLast?_cons]
  cases l.getLast? with
  | none => rfl
  | some b => rfl

/-- The check stops at the first coin that is wrong. -/
theorem validateFrom_eq_error : validateFrom whole previous l = .error e ↔
    ∃ early c late, l = early ++ c :: late ∧ validateFrom whole previous early = .ok () ∧
      Flaw whole ((early.getLast?.map (·.denom)).or previous) c e := by
  constructor
  · intro h
    induction l generalizing previous with
    | nil => exact nomatch h
    | cons c l ih =>
      rcases validateFrom_cons_eq_error.mp h with hflaw | ⟨hc, h⟩
      · exact ⟨[], c, l, rfl, rfl, hflaw⟩
      · obtain ⟨early, b, late, rfl, hearly, hflaw⟩ := ih h
        refine ⟨c :: early, b, late, rfl, validateFrom_cons_eq_ok.mpr ⟨hc.1, hc.2, hearly⟩, ?_⟩
        rwa [getLast?_cons_denom]
  · rintro ⟨early, c, late, rfl, hearly, hflaw⟩
    induction early generalizing previous with
    | nil => exact validateFrom_cons_eq_error.mpr (.inl hflaw)
    | cons b early ih =>
      obtain ⟨hb, hp, hearly⟩ := validateFrom_cons_eq_ok.mp hearly
      rw [getLast?_cons_denom] at hflaw
      exact validateFrom_cons_eq_error.mpr (.inr ⟨⟨hb, hp⟩, ih hearly hflaw⟩)

/-- The first `n` of the coins. -/
def first (cs : Coins) (n : Nat) : Coins := ⟨cs.toList.take n⟩

theorem isValid_iff : cs.isValid = true ↔ cs.validate = .ok () := by
  rw [isValid]
  cases cs.validate with
  | ok _ => exact iff_of_true rfl rfl
  | error e => exact iff_of_false Bool.false_ne_true nofun

/-- Coins that are valid are valid as far as they go. -/
theorem isValid_first_le {m n : Nat} (hle : m ≤ n) (h : (cs.first n).isValid = true) :
    (cs.first m).isValid = true := by
  rw [isValid_iff, validate_eq_ok] at h ⊢
  have hsub : (cs.first m).toList.Sublist (cs.first n).toList :=
    (List.take_prefix_take_left hle).sublist
  exact ⟨fun c hc ↦ h.1 c (hsub.mem hc), h.2.sublist hsub⟩

/-- The shortest part from the front that is not valid ends with coin `i`, and `e` says what is
wrong with that one. -/
structure FlawedFirstAt (cs : Coins) (i : Nat) (e : CoinError) : Prop where
  valid : ∀ j ≤ i, (cs.first j).isValid = true
  invalid : (cs.first (i + 1)).isValid = false
  flaw : ∃ c, cs.toList[i]? = some c ∧
    Flaw cs ((cs.first i).toList.getLast?.map (·.denom)) c e

/-- What is accepted does not depend on the coins that an error would name. -/
theorem validateFrom_congr (whole whole' : Coins) (previous : Option String) (l : List Coin) :
    validateFrom whole previous l = .ok () ↔ validateFrom whole' previous l = .ok () :=
  validateFrom_eq_ok.trans validateFrom_eq_ok.symm

/-- Coins are refused for the first of them that is wrong. -/
theorem validate_eq_error : cs.validate = .error e ↔ ∃ i, cs.FlawedFirstAt i e := by
  rw [validate, validateFrom_eq_error]
  simp only [Option.or_none]
  constructor
  · rintro ⟨early, c, late, hsplit, hearly, hflaw⟩
    have hfirst : cs.first early.length = ⟨early⟩ := by
      rw [first, hsplit, List.take_left]
    have hnext : cs.first (early.length + 1) = ⟨early ++ [c]⟩ := by
      rw [first, hsplit, List.take_length_add_append]
      rfl
    have hrefused : validateFrom cs none (early ++ [c]) = .error e :=
      validateFrom_eq_error.mpr ⟨early, c, [], rfl, hearly, by rwa [Option.or_none]⟩
    refine ⟨early.length, fun j hj ↦ isValid_first_le hj ?_, ?_, c, ?_, ?_⟩
    · rw [hfirst, isValid_iff]
      exact (validateFrom_congr cs _ none early).mp hearly
    · rw [hnext, Bool.eq_false_iff, Ne, isValid_iff]
      intro h
      cases hrefused.symm.trans ((validateFrom_congr _ cs none _).mp h)
    · rw [hsplit, List.getElem?_append_right (Nat.le_refl _), Nat.sub_self]
      rfl
    · rw [hfirst]
      exact hflaw
  · rintro ⟨i, hvalid, -, c, hc, hflaw⟩
    obtain ⟨hlt, rfl⟩ := List.getElem?_eq_some_iff.mp hc
    refine ⟨cs.toList.take i, cs.toList[i], cs.toList.drop (i + 1), ?_, ?_, hflaw⟩
    · rw [← List.drop_eq_getElem_cons hlt, List.take_append_drop]
    · exact (validateFrom_congr _ cs none _).mp (isValid_iff.mp (hvalid i (Nat.le_refl i)))

/-! ## Valid coins are canonical -/

/-- What is promised of the check of coins. -/
structure ChecksCanonicity (cs : Coins) : Prop where
  accepted : cs.validate = .ok () ↔
    (∀ c ∈ cs.toList, checkDenom c.denom = .ok ()) ∧ normalized cs.toList = cs
  /-- No denomination occurs twice, in neighbours or apart. -/
  nodup : cs.validate = .ok () → (cs.toList.map (·.denom)).Nodup
  refused : ∀ e, cs.validate = .error e ↔ ∃ i, cs.FlawedFirstAt i e

/-- **Valid coins are the canonical ones with well formed denominations.** Other coins are refused
for the first one with which they are not valid. -/
theorem validate_canonicity (cs : Coins) : cs.ChecksCanonicity := by
  constructor
  case accepted =>
    rw [validate_eq_ok, normalized_toList_eq_iff]
    constructor
    · rintro ⟨hsound, hascending⟩
      refine ⟨fun c hc ↦ checkDenom_eq_ok.mpr (hsound c hc).1, hascending, fun c hc ↦ ?_⟩
      exact Nat.pos_of_ne_zero (beq_eq_false_iff_ne.mp (hsound c hc).2)
    · rintro ⟨hdenom, hcanonical⟩
      refine ⟨fun c hc ↦ ⟨checkDenom_eq_ok.mp (hdenom c hc), ?_⟩, hcanonical.ascending⟩
      exact beq_eq_false_iff_ne.mpr (Nat.ne_of_gt (hcanonical.positive c hc))
  case nodup =>
    intro h
    exact List.pairwise_map.mpr (pairwise_ne_of_validate h)
  case refused => exact fun e ↦ validate_eq_error

end Tokenomics.Coins

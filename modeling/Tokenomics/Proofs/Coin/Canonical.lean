import Tokenomics.Proofs.Coin.Validity

/-!
# The canonical form of coins

Coins are canonical when their denominations ascend strictly and none of them is zero. Such coins
are known by how much they have of each denomination (`Canonical.ext`), and what they have of one is
a look-up in their entries (`Canonical.lookup_entries`). `Coins.normalized` adds up equal
denominations in a table that is kept in order; the amounts in it saturate one by one, yet come to
what the whole sum saturates to (`toNat_getD_collect`). So the result is canonical and has the
amounts of the list it was made of, and everything else that is said of it here follows from that.

The same coins are got without a table, by adding every coin to the first one of its denomination
and sorting what has been gathered by denomination (`sorted_gathered`).
-/

namespace Tokenomics.Coins

variable {l l' : List Coin} {cs cs' : Coins} {d : String}

/-! ## How much there is -/

theorem unitsIn_perm (h : l.Perm l') (d : String) : unitsIn l d = unitsIn l' d :=
  ((h.filter _).map _).sum_nat

theorem amountOf_perm (h : l.Perm l') (d : String) :
    (⟨l⟩ : Coins).amountOf d = (⟨l'⟩ : Coins).amountOf d := by
  refine Amount.ext ?_
  rw [toNat_amountOf, toNat_amountOf, unitsIn_perm h]

/-- Coins without units count for nothing. -/
theorem unitsIn_filter_not_isZero (l : List Coin) (d : String) :
    unitsIn (l.filter (!·.isZero)) d = unitsIn l d := by
  induction l with
  | nil => rfl
  | cons c l ih =>
    rw [unitsIn_cons]
    cases hzero : c.isZero with
    | true =>
      have hamount : c.amount.toNat = 0 := beq_iff_eq.mp hzero
      rw [List.filter_cons_of_neg (by rw [hzero]; exact Bool.false_ne_true), ih, hamount, ite_self,
        Nat.zero_add]
    | false => rw [List.filter_cons_of_pos (by rw [hzero]; rfl), unitsIn_cons, ih]

/-! ## Canonical coins -/

/-- The denominations ascend strictly and no amount is zero. -/
structure Canonical (cs : Coins) : Prop where
  ascending : cs.toList.Pairwise fun a b ↦ compare a.denom b.denom = .lt
  positive : ∀ c ∈ cs.toList, 0 < c.amount.toNat

/-- The amounts by denomination, in the order of the coins. -/
def entries (cs : Coins) : List (String × Amount) := cs.toList.map fun c ↦ (c.denom, c.amount)

theorem entries_inj (h : cs.entries = cs'.entries) : cs = cs' := by
  have hinj : Function.Injective fun c : Coin ↦ (c.denom, c.amount) := by
    rintro ⟨_, _⟩ ⟨_, _⟩ hpair
    cases hpair
    rfl
  cases cs
  cases cs'
  exact congrArg _ (List.map_injective_iff.mpr hinj h)

theorem amountOf_of_mem (hcs : cs.toList.Pairwise fun a b ↦ a.denom ≠ b.denom) {c : Coin}
    (hc : c ∈ cs.toList) : cs.amountOf c.denom = c.amount := by
  refine Amount.ext ?_
  have hlt := c.amount.toNat_lt
  rw [toNat_amountOf, unitsIn_of_mem hcs hc]
  omega

theorem Canonical.denom_ne (h : cs.Canonical) :
    cs.toList.Pairwise fun a b ↦ a.denom ≠ b.denom :=
  h.ascending.imp fun hlt ↦ SortedMap.ne_of_compare_lt hlt

theorem Canonical.sorted_entries (h : cs.Canonical) :
    cs.entries.Pairwise fun a b ↦ compare a.1 b.1 = .lt :=
  List.pairwise_map.mpr h.ascending

/-- What canonical coins have under a denomination is all there is of it. -/
theorem Canonical.lookup_entries (h : cs.Canonical) (d : String) :
    SortedMap.lookup d cs.entries
      = if cs.amountOf d = .zero then none else some (cs.amountOf d) := by
  cases hlookup : SortedMap.lookup d cs.entries with
  | some a =>
    obtain ⟨c, hc, hentry⟩ := List.mem_map.mp (SortedMap.mem_of_lookup hlookup)
    obtain ⟨rfl, rfl⟩ := Prod.mk.inj hentry
    have hpositive := h.positive c hc
    rw [amountOf_of_mem h.denom_ne hc, if_neg]
    intro hzero
    rw [hzero, Amount.toNat_zero] at hpositive
    exact absurd hpositive (Nat.lt_irrefl 0)
  | none =>
    have hnone : ∀ c ∈ cs.toList, c.denom ≠ d := by
      intro c hc hdenom
      have hentry : (d, c.amount) ∈ cs.entries := List.mem_map.mpr ⟨c, hc, by rw [hdenom]⟩
      exact nomatch hlookup.symm.trans (SortedMap.lookup_of_mem h.sorted_entries hentry)
    rw [if_pos]
    refine Amount.ext ?_
    rw [toNat_amountOf, unitsIn_eq_zero hnone]
    rfl

/-- Canonical coins are known by their amounts. -/
theorem Canonical.ext (h : cs.Canonical) (h' : cs'.Canonical)
    (hamount : ∀ d, cs.amountOf d = cs'.amountOf d) : cs = cs' := by
  refine entries_inj (SortedMap.entries_eq_of_lookup_eq h.sorted_entries h'.sorted_entries
    fun d ↦ ?_)
  rw [h.lookup_entries, h'.lookup_entries, hamount]

/-! ## The table -/

theorem get?_collect (m : SortedMap String Amount) (c : Coin) (d : String) :
    (collect m c).get? d
      = if d = c.denom then some (((m.get? c.denom).getD .zero).addSaturating c.amount)
        else m.get? d :=
  SortedMap.get?_insert m c.denom d _

/-- Adding up one by one, as far as there are amounts, comes to the whole sum, as far as there is
an amount of it. -/
theorem toNat_getD_collect (l : List Coin) (m : SortedMap String Amount) (d : String) :
    (((l.foldl collect m).get? d).getD .zero).toNat
      = min (((m.get? d).getD .zero).toNat + unitsIn l d) (1 <<< 128 - 1) := by
  induction l generalizing m with
  | nil =>
    have hlt := ((m.get? d).getD .zero).toNat_lt
    rw [List.foldl_nil, unitsIn_nil]
    omega
  | cons c l ih =>
    rw [List.foldl_cons, ih, get?_collect, unitsIn_cons]
    by_cases h : d = c.denom
    · rw [if_pos h, if_pos h.symm, Option.getD_some, Amount.toNat_addSaturating, h]
      omega
    · rw [if_neg h, if_neg (Ne.symm h), Nat.zero_add]

/-- No coin without units comes into a table, so none is in it. -/
theorem positive_collect {m : SortedMap String Amount} (hl : ∀ c ∈ l, 0 < c.amount.toNat)
    (hm : ∀ d a, m.get? d = some a → 0 < a.toNat) {a : Amount}
    (h : (l.foldl collect m).get? d = some a) : 0 < a.toNat := by
  induction l generalizing m with
  | nil => exact hm d a h
  | cons c l ih =>
    obtain ⟨hc, hl⟩ := List.forall_mem_cons.mp hl
    refine ih hl (fun d' a' h' ↦ ?_) h
    rw [get?_collect] at h'
    split at h'
    · rw [← Option.some.inj h', Amount.toNat_addSaturating]
      omega
    · exact hm d' a' h'

theorem pos_of_mem_filter {c : Coin} (h : c ∈ l.filter (!·.isZero)) : 0 < c.amount.toNat := by
  have hne : c.isZero = false := by simpa using (List.mem_filter.mp h).2
  exact Nat.pos_of_ne_zero (beq_eq_false_iff_ne.mp hne)

/-! ## The canonical form -/

theorem entries_normalized (l : List Coin) :
    (normalized l).entries = ((l.filter (!·.isZero)).foldl collect ∅).entries := by
  rw [entries, normalized, List.map_map]
  exact List.map_id _

theorem canonical_normalized (l : List Coin) : (normalized l).Canonical := by
  constructor
  case ascending =>
    have hsorted := ((l.filter (!·.isZero)).foldl collect ∅).sorted
    rw [← entries_normalized, entries, List.pairwise_map] at hsorted
    exact hsorted
  case positive =>
    intro c hc
    have hentry : (c.denom, c.amount) ∈ ((l.filter (!·.isZero)).foldl collect ∅).entries := by
      rw [← entries_normalized]
      exact List.mem_map_of_mem hc
    have hnone (d : String) (a : Amount) (h : (∅ : SortedMap String Amount).get? d = some a) :
        0 < a.toNat := by
      rw [SortedMap.get?_empty] at h
      exact nomatch h
    exact positive_collect (fun c hc ↦ pos_of_mem_filter hc) hnone
      (SortedMap.lookup_of_mem (SortedMap.sorted _) hentry)

/-- The canonical form has the amounts of the list that it is made of. -/
theorem amountOf_normalized (l : List Coin) (d : String) :
    (normalized l).amountOf d = (⟨l⟩ : Coins).amountOf d := by
  have hlookup := (canonical_normalized l).lookup_entries d
  rw [entries_normalized] at hlookup
  have htable := toNat_getD_collect (l.filter (!·.isZero)) ∅ d
  rw [SortedMap.get?, hlookup, unitsIn_filter_not_isZero] at htable
  refine Amount.ext ?_
  rw [toNat_amountOf ⟨l⟩]
  split at htable
  · rename_i hzero
    rw [hzero]
    exact htable.trans (by rw [SortedMap.get?_empty]; simp)
  · exact htable.trans (by rw [SortedMap.get?_empty]; simp)

theorem normalized_eq_iff :
    normalized l = normalized l' ↔ ∀ d, (⟨l⟩ : Coins).amountOf d = (⟨l'⟩ : Coins).amountOf d := by
  constructor
  · intro h d
    rw [← amountOf_normalized, h, amountOf_normalized]
  · intro h
    refine (canonical_normalized l).ext (canonical_normalized l') fun d ↦ ?_
    rw [amountOf_normalized, amountOf_normalized, h]

/-- Canonical coins are their own canonical form, and no other coins are. -/
theorem normalized_toList_eq_iff : normalized cs.toList = cs ↔ cs.Canonical := by
  constructor
  · intro h
    rw [← h]
    exact canonical_normalized cs.toList
  · intro h
    exact (canonical_normalized cs.toList).ext h (amountOf_normalized cs.toList)

/-! ## Without a table -/

/-- One more coin among gathered ones: added to the first coin of its denomination, or put behind
them all. -/
def gather : List Coin → Coin → List Coin
  | [], c => [c]
  | b :: rest, c =>
    if b.denom = c.denom then { b with amount := b.amount.addSaturating c.amount } :: rest
    else b :: gather rest c

/-- The coins with units, gathered by denomination. -/
def gathered (l : List Coin) : List Coin := (l.filter (!·.isZero)).foldl gather []

/-- Coins in the order of their denominations. -/
def sorted (l : List Coin) : Coins :=
  ⟨l.mergeSort fun a b ↦ (compare a.denom b.denom).isLE⟩

theorem mem_gather {b c : Coin} (h : b ∈ gather l c) : b.denom = c.denom ∨ b ∈ l := by
  induction l with
  | nil => exact .inl (by rw [List.mem_singleton.mp h])
  | cons a l ih =>
    rw [gather] at h
    split at h
    · rename_i hdenom
      rcases List.mem_cons.mp h with rfl | h
      · exact .inl hdenom
      · exact .inr (List.mem_cons_of_mem _ h)
    · rcases List.mem_cons.mp h with rfl | h
      · exact .inr List.mem_cons_self
      · exact (ih h).imp_right (List.mem_cons_of_mem _)

/-- Gathering keeps the denominations apart. -/
theorem denom_ne_gather (hl : l.Pairwise fun a b ↦ a.denom ≠ b.denom) (c : Coin) :
    (gather l c).Pairwise fun a b ↦ a.denom ≠ b.denom := by
  induction l with
  | nil => exact List.pairwise_singleton _ _
  | cons a l ih =>
    obtain ⟨ha, hl⟩ := List.pairwise_cons.mp hl
    rw [gather]
    split
    · exact List.pairwise_cons.mpr ⟨ha, hl⟩
    · rename_i hdenom
      refine List.pairwise_cons.mpr ⟨fun b hb ↦ ?_, ih hl⟩
      rcases mem_gather hb with heq | hb
      · exact fun h ↦ hdenom (h.trans heq)
      · exact ha b hb

theorem positive_gather (hl : ∀ b ∈ l, 0 < b.amount.toNat) {c : Coin} (hc : 0 < c.amount.toNat) :
    ∀ b ∈ gather l c, 0 < b.amount.toNat := by
  induction l with
  | nil => simpa [gather] using hc
  | cons a l ih =>
    obtain ⟨ha, hl⟩ := List.forall_mem_cons.mp hl
    rw [gather]
    split
    · refine List.forall_mem_cons.mpr ⟨?_, hl⟩
      show 0 < (a.amount.addSaturating c.amount).toNat
      rw [Amount.toNat_addSaturating]
      omega
    · exact List.forall_mem_cons.mpr ⟨ha, ih hl⟩

/-- Gathering a coin adds its units, as far as there is an amount of them. -/
theorem unitsIn_gather (l : List Coin) (c : Coin) (d : String) :
    min (unitsIn (gather l c) d) (1 <<< 128 - 1) = min (unitsIn (c :: l) d) (1 <<< 128 - 1) := by
  induction l with
  | nil => rfl
  | cons a l ih =>
    rw [unitsIn_cons] at ih
    rw [gather, unitsIn_cons c, unitsIn_cons a]
    split
    · rename_i hdenom
      rw [unitsIn_cons, Amount.toNat_addSaturating, hdenom]
      split
      · omega
      · omega
    · rw [unitsIn_cons]
      omega

/-- What gathering comes to, coin by coin. -/
theorem foldl_gather (hl : ∀ c ∈ l, 0 < c.amount.toNat) {m : List Coin}
    (hm : m.Pairwise fun a b ↦ a.denom ≠ b.denom) (hpositive : ∀ b ∈ m, 0 < b.amount.toNat) :
    ((l.foldl gather m).Pairwise fun a b ↦ a.denom ≠ b.denom) ∧
    (∀ b ∈ l.foldl gather m, 0 < b.amount.toNat) ∧
    ∀ d, min (unitsIn (l.foldl gather m) d) (1 <<< 128 - 1)
      = min (unitsIn m d + unitsIn l d) (1 <<< 128 - 1) := by
  induction l generalizing m with
  | nil => exact ⟨hm, hpositive, fun d ↦ rfl⟩
  | cons c l ih =>
    obtain ⟨hc, hl⟩ := List.forall_mem_cons.mp hl
    obtain ⟨hapart, hpos, hunits⟩ :=
      ih hl (denom_ne_gather hm c) (positive_gather hpositive hc)
    refine ⟨hapart, hpos, fun d ↦ ?_⟩
    have hstep := unitsIn_gather m c d
    rw [unitsIn_cons] at hstep
    rw [List.foldl_cons, hunits, unitsIn_cons]
    omega

theorem canonical_sorted (hl : l.Pairwise fun a b ↦ a.denom ≠ b.denom)
    (hpositive : ∀ c ∈ l, 0 < c.amount.toNat) : (sorted l).Canonical := by
  have hperm := List.mergeSort_perm l fun a b ↦ (compare a.denom b.denom).isLE
  constructor
  case ascending =>
    have hapart : (sorted l).toList.Pairwise fun a b ↦ a.denom ≠ b.denom :=
      (hperm.pairwise_iff Ne.symm).mpr hl
    have htotal (a b : Coin) :
        ((compare a.denom b.denom).isLE || (compare b.denom a.denom).isLE) = true := by
      rw [Bool.or_eq_true, or_iff_not_imp_left]
      exact fun h ↦ Ordering.isLE_of_eq_lt (Std.OrientedCmp.lt_of_not_isLE h)
    have hordered : (sorted l).toList.Pairwise fun a b ↦ (compare a.denom b.denom).isLE = true :=
      List.pairwise_mergeSort (fun _ _ _ ↦ Std.TransCmp.isLE_trans) htotal l
    refine hapart.imp₂ (fun a b hne hle ↦ ?_) hordered
    rcases Ordering.isLE_iff_eq_lt_or_eq_eq.mp hle with hlt | heq
    · exact hlt
    · exact absurd (Std.LawfulEqOrd.eq_of_compare heq) hne
  case positive =>
    exact fun c hc ↦ hpositive c (hperm.mem_iff.mp hc)

/-- Gathering and sorting give the canonical form. -/
theorem sorted_gathered (l : List Coin) : sorted (gathered l) = normalized l := by
  obtain ⟨hapart, hpositive, hunits⟩ :=
    foldl_gather (l := l.filter (!·.isZero)) (fun c hc ↦ pos_of_mem_filter hc) .nil
      (fun b hb ↦ absurd hb List.not_mem_nil)
  refine (canonical_sorted hapart hpositive).ext (canonical_normalized l) fun d ↦ ?_
  have hperm : (sorted (gathered l)).toList.Perm (gathered l) := List.mergeSort_perm _ _
  rw [amountOf_normalized]
  refine (amountOf_perm hperm d).trans (Amount.ext ?_)
  rw [toNat_amountOf, toNat_amountOf]
  have hd := hunits d
  rw [unitsIn_nil, Nat.zero_add, unitsIn_filter_not_isZero] at hd
  exact hd

/-- What is promised of the canonical form of a list of coins. -/
structure CanonicalForm (l : List Coin) (cs : Coins) : Prop where
  ascending : cs.toList.Pairwise fun a b ↦ compare a.denom b.denom = .lt
  positive : ∀ c ∈ cs.toList, 0 < c.amount.toNat
  amountOf_eq : ∀ d, cs.amountOf d = (⟨l⟩ : Coins).amountOf d
  toNat_amountOf : ∀ d, (cs.amountOf d).toNat = min (1 <<< 128 - 1) (unitsIn l d)
  /-- The order of the list does not matter. -/
  of_perm : ∀ l', l.Perm l' → normalized l' = cs
  idempotent : normalized cs.toList = cs
  /-- Lists have one canonical form exactly when they have the same amounts. -/
  eq_iff : ∀ l', normalized l' = cs ↔ ∀ d, (⟨l'⟩ : Coins).amountOf d = (⟨l⟩ : Coins).amountOf d
  sorted_gathered : sorted (gathered l) = cs

/-- **The normal form of coins is canonical.** -/
theorem normalized_canonicalForm (l : List Coin) : CanonicalForm l (normalized l) := by
  constructor
  case ascending => exact (canonical_normalized l).ascending
  case positive => exact (canonical_normalized l).positive
  case amountOf_eq => exact amountOf_normalized l
  case toNat_amountOf =>
    intro d
    rw [amountOf_normalized, Coins.toNat_amountOf, Nat.min_comm]
  case of_perm => exact fun l' h ↦ normalized_eq_iff.mpr fun d ↦ (amountOf_perm h d).symm
  case idempotent => exact normalized_toList_eq_iff.mpr (canonical_normalized l)
  case eq_iff => exact fun l' ↦ normalized_eq_iff
  case sorted_gathered => exact Coins.sorted_gathered l

end Tokenomics.Coins

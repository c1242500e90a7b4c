import Mathlib.Algebra.Ring.Nat
import Tokenomics.SortedMap

/-!
# Replaying the entries of a sorted map

Writing the entries of a map one after the other, with any operation that overwrites and commutes
at different keys, is a fold over the entries. `foldl_insertEntry` says what one more entry does
to such a fold: it is written last, wherever its key stands in the order. This is what lets a
collected set of writes stand for the writes themselves. A sum over the entries changes by the one
entry that is put in, `sum_insertEntry`.
-/

namespace Tokenomics.SortedMap

variable {κ υ : Type} [Ord κ]

theorem ne_of_compare_lt [Std.TransOrd κ] {a b : κ} (h : compare a b = .lt) : a ≠ b := by
  rintro rfl
  exact Ordering.noConfusion (h.symm.trans Std.ReflCmp.compare_self)

theorem mem_of_lookup [Std.LawfulEqOrd κ] {k : κ} {v : υ} {l : List (κ × υ)}
    (h : lookup k l = some v) : (k, v) ∈ l := by
  induction l with
  | nil => exact absurd h (by simp [lookup])
  | cons e l ih =>
    rw [lookup] at h
    split at h
    · rename_i hk
      rw [Std.LawfulEqOrd.eq_of_compare hk, ← Option.some.inj h]
      exact List.mem_cons_self
    · exact List.mem_cons_of_mem _ (ih h)

/-- An entry is found under its key, since no other one has it. -/
theorem lookup_of_mem [Std.TransOrd κ] {k : κ} {v : υ} {l : List (κ × υ)}
    (hl : l.Pairwise fun a b ↦ compare a.1 b.1 = .lt) (h : (k, v) ∈ l) : lookup k l = some v := by
  induction l with
  | nil => exact absurd h List.not_mem_nil
  | cons e l ih =>
    obtain ⟨hhead, hrest⟩ := List.pairwise_cons.mp hl
    rw [lookup]
    rcases List.mem_cons.mp h with rfl | h
    · rw [if_pos Std.ReflCmp.compare_self]
    · rw [if_neg, ih hrest h]
      exact fun heq ↦ Ordering.noConfusion
        ((hhead (k, v) h).symm.trans (Std.OrientedCmp.eq_comm.mp heq))

/-! ## Assignments

Insertion and removal as one operation, so that their laws are proved once. -/

section Assignments

variable [Std.TransOrd κ] [Std.LawfulEqOrd κ]

/-- The map with `o` as what it has under `k`. -/
def assign (m : SortedMap κ υ) (k : κ) : Option υ → SortedMap κ υ
  | some v => m.insert k v
  | none => m.erase k

theorem insert_eq_assign (m : SortedMap κ υ) (k : κ) (v : υ) :
    m.insert k v = m.assign k (some v) := rfl

variable [DecidableEq κ]

theorem get?_assign (m : SortedMap κ υ) (k a : κ) (o : Option υ) :
    (m.assign k o).get? a = if a = k then o else m.get? a := by
  by_cases h : a = k
  · subst h
    rw [if_pos rfl]
    cases o with
    | none => exact get?_erase_self m a
    | some v => exact get?_insert_self m a v
  · rw [if_neg h]
    cases o with
    | none => exact get?_erase_of_ne m h
    | some v => exact get?_insert_of_ne m h v

theorem get?_insert (m : SortedMap κ υ) (k a : κ) (v : υ) :
    (m.insert k v).get? a = if a = k then some v else m.get? a :=
  get?_assign m k a (some v)

/-- The later assignment stands. -/
theorem assign_assign_self (m : SortedMap κ υ) (k : κ) (o o' : Option υ) :
    (m.assign k o).assign k o' = m.assign k o' := by
  refine ext_get? fun a ↦ ?_
  rw [get?_assign, get?_assign, get?_assign]
  by_cases h : a = k
  · rw [if_pos h, if_pos h]
  · rw [if_neg h, if_neg h, if_neg h]

theorem assign_assign_comm (m : SortedMap κ υ) {j k : κ} (h : j ≠ k) (o o' : Option υ) :
    (m.assign j o).assign k o' = (m.assign k o').assign j o := by
  refine ext_get? fun a ↦ ?_
  rw [get?_assign, get?_assign, get?_assign, get?_assign]
  by_cases hk : a = k
  · rw [if_pos hk, if_neg (hk ▸ h.symm), if_pos hk]
  · rw [if_neg hk, if_neg hk]

end Assignments

/-! ## Folds over the entries -/

section Folds

variable {σ : Type} {f : σ → κ × υ → σ}

/-- A write under a key that no later entry has can be made last. -/
theorem foldl_write_comm (hcomm : ∀ s (d e : κ × υ), compare d.1 e.1 ≠ .eq →
      f (f s d) e = f (f s e) d)
    (d : κ × υ) {l : List (κ × υ)} (hl : ∀ e ∈ l, compare d.1 e.1 ≠ .eq) (s : σ) :
    l.foldl f (f s d) = f (l.foldl f s) d := by
  induction l generalizing s with
  | nil => rfl
  | cons e l ih =>
    rw [List.foldl_cons, List.foldl_cons, hcomm s d e (hl e List.mem_cons_self),
      ih fun e' he' ↦ hl e' (List.mem_cons_of_mem _ he')]

variable [Std.LawfulEqOrd κ]

/-- What is read at a key after a replay: what the entries have under it, or what was read there
before. -/
theorem read_foldl {ρ : Type} [DecidableEq κ] (read : σ → κ → ρ) (g : κ → υ → ρ)
    (hread : ∀ s k v a, read (f s (k, v)) a = if a = k then g k v else read s a)
    {l : List (κ × υ)} (hl : l.Pairwise fun a b ↦ compare a.1 b.1 = .lt) (s : σ) (a : κ) :
    read (l.foldl f s) a = ((lookup a l).map (g a)).getD (read s a) := by
  induction l generalizing s with
  | nil => rfl
  | cons e l ih =>
    obtain ⟨k, v⟩ := e
    obtain ⟨hhead, hrest⟩ := List.pairwise_cons.mp hl
    rw [List.foldl_cons, ih hrest, hread, lookup]
    -- the keys ascend, so no later entry overwrites what the first one has put under its key
    by_cases h : a = k
    · subst h
      rw [lookup_eq_none_of_lt hhead, if_pos Std.ReflCmp.compare_self, if_pos rfl]
      rfl
    · rw [if_neg h, if_neg fun hc ↦ h (Std.LawfulEqOrd.eq_of_compare hc)]

variable [Std.TransOrd κ]

/-- Replaying entries with one more among them is replaying the entries and then that one. -/
theorem foldl_insertEntry (hcomm : ∀ s (d e : κ × υ), compare d.1 e.1 ≠ .eq →
      f (f s d) e = f (f s e) d)
    (hself : ∀ s k v w, f (f s (k, v)) (k, w) = f s (k, w)) (k : κ) (v : υ)
    {l : List (κ × υ)} (hl : l.Pairwise fun a b ↦ compare a.1 b.1 = .lt) (s : σ) :
    (insertEntry k v l).foldl f s = f (l.foldl f s) (k, v) := by
  induction l generalizing s with
  | nil => rfl
  | cons e l ih =>
    obtain ⟨j, w⟩ := e
    obtain ⟨hhead, hrest⟩ := List.pairwise_cons.mp hl
    rw [insertEntry]
    split
    · -- the new key comes before all others
      rename_i hlt
      refine foldl_write_comm hcomm (k, v) (fun e he ↦ ?_) s
      rcases List.mem_cons.mp he with rfl | he
      · exact fun h ↦ Ordering.noConfusion (hlt.symm.trans h)
      · exact fun h ↦ Ordering.noConfusion ((Std.TransCmp.lt_trans hlt (hhead e he)).symm.trans h)
    · -- the new value stands in the place of an old one, which is overwritten
      rename_i heq
      have hkj : k = j := Std.LawfulEqOrd.eq_of_compare heq
      subst hkj
      rw [List.foldl_cons, List.foldl_cons, ← foldl_write_comm hcomm (k, v) _ _, hself]
      exact fun e he h ↦ Ordering.noConfusion ((hhead e he).symm.trans h)
    · rw [List.foldl_cons, List.foldl_cons, ih hrest]

end Folds

/-! ## Sums over the entries -/

/-- An entry that is put in comes into the sum in place of the one that stood under its key. -/
theorem sum_insertEntry [Std.TransOrd κ] [Std.LawfulEqOrd κ] (f : υ → Nat) (k : κ) (v : υ)
    {l : List (κ × υ)} (hl : l.Pairwise fun a b ↦ compare a.1 b.1 = .lt) :
    ((insertEntry k v l).map fun e ↦ f e.2).sum + ((lookup k l).map f).getD 0
      = (l.map fun e ↦ f e.2).sum + f v := by
  induction l with
  | nil => exact Nat.add_comm _ _
  | cons e l ih =>
    obtain ⟨j, w⟩ := e
    obtain ⟨hhead, hrest⟩ := List.pairwise_cons.mp hl
    rw [insertEntry, lookup]
    split
    · -- nothing stood under a key that comes before all others
      rename_i hlt
      have hnone : lookup k l = none :=
        lookup_eq_none_of_lt fun e he ↦ Std.TransCmp.lt_trans hlt (hhead e he)
      simp [hlt, hnone, Nat.add_comm]
    · rename_i heq
      simp only [heq, if_true, List.map_cons, List.sum_cons, Option.map_some, Option.getD_some]
      omega
    · rename_i hgt
      have hlater := ih hrest
      simp only [hgt, reduceCtorEq, if_false, List.map_cons, List.sum_cons]
      omega

end Tokenomics.SortedMap

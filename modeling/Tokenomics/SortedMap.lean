/-!
# Sorted maps

Finite maps kept as a list of entries in strictly ascending key order. The order is part of the
type, so a map has exactly one representation: two maps with the same look-ups are equal
(`SortedMap.ext_get?`), and walking the entries visits the keys in ascending order.

Main statements: `get?_insert` and `get?_erase` say what each operation does to the look-ups.
-/

namespace Tokenomics

/-- A finite map from `κ` to `υ`, its entries in strictly ascending order of their keys. -/
structure SortedMap (κ υ : Type) [Ord κ] where
  /-- The entries, smallest key first. -/
  entries : List (κ × υ)
  /-- The keys ascend strictly, so no key occurs twice. -/
  sorted : entries.Pairwise fun a b ↦ compare a.1 b.1 = .lt

namespace SortedMap

variable {κ υ : Type} [Ord κ]

instance [DecidableEq κ] [DecidableEq υ] : DecidableEq (SortedMap κ υ) := fun m n ↦
  if h : m.entries = n.entries then
    isTrue (by cases m; cases n; simp_all)
  else
    isFalse fun e ↦ h (e ▸ rfl)

/-- The map without entries. -/
def empty : SortedMap κ υ := ⟨[], .nil⟩

instance : EmptyCollection (SortedMap κ υ) := ⟨empty⟩
instance : Inhabited (SortedMap κ υ) := ⟨empty⟩

/-- Whether the map has no entry. -/
def isEmpty (m : SortedMap κ υ) : Bool := m.entries.isEmpty

/-- How many keys the map holds. -/
def size (m : SortedMap κ υ) : Nat := m.entries.length

/-- The keys, ascending. -/
def keys (m : SortedMap κ υ) : List κ := m.entries.map (·.1)

/-- The value under `k` in a list of entries with ascending keys. -/
def lookup (k : κ) : List (κ × υ) → Option υ
  | [] => none
  | (k', v) :: rest => if compare k k' = .eq then some v else lookup k rest

/-- The value under `k`, if there is one. -/
def get? (m : SortedMap κ υ) (k : κ) : Option υ := lookup k m.entries

/-- Whether `k` is a key of the map. -/
def contains (m : SortedMap κ υ) (k : κ) : Bool := (m.get? k).isSome

/-- Put `v` under `k` in a list of entries with ascending keys, in place of what was there. -/
def insertEntry (k : κ) (v : υ) : List (κ × υ) → List (κ × υ)
  | [] => [(k, v)]
  | (k', v') :: rest =>
    match compare k k' with
    | .lt => (k, v) :: (k', v') :: rest
    | .eq => (k, v) :: rest
    | .gt => (k', v') :: insertEntry k v rest

/-- Drop what stands under `k`. -/
def eraseEntry (k : κ) (l : List (κ × υ)) : List (κ × υ) :=
  l.filter fun e ↦ compare k e.1 != .eq

theorem mem_insertEntry {k : κ} {v : υ} {e : κ × υ} {l : List (κ × υ)}
    (h : e ∈ insertEntry k v l) : e = (k, v) ∨ e ∈ l := by
  induction l with
  | nil => simpa [insertEntry] using h
  | cons hd rest ih =>
    obtain ⟨k', v'⟩ := hd
    simp only [insertEntry] at h
    split at h <;> simp only [List.mem_cons] at h ⊢
    · exact h
    · rcases h with h | h
      · exact .inl h
      · exact .inr (.inr h)
    · rcases h with h | h
      · exact .inr (.inl h)
      · exact (ih h).imp id .inr

/-- The map without the key `k`. -/
def erase (m : SortedMap κ υ) (k : κ) : SortedMap κ υ :=
  ⟨eraseEntry k m.entries, m.sorted.filter _⟩

/-! ## Look-ups in lists of entries -/

theorem lookup_eraseEntry_self (k : κ) (l : List (κ × υ)) : lookup k (eraseEntry k l) = none := by
  induction l with
  | nil => rfl
  | cons hd rest ih =>
    by_cases h : compare k hd.1 = .eq
    · simpa [eraseEntry, h] using ih
    · simpa [eraseEntry, lookup, h] using ih

@[simp]
theorem get?_empty (k : κ) : (∅ : SortedMap κ υ).get? k = none := rfl

theorem lookup_eq_none_of_lt {k : κ} {l : List (κ × υ)}
    (h : ∀ e ∈ l, compare k e.1 = .lt) : lookup k l = none := by
  induction l with
  | nil => rfl
  | cons hd rest ih =>
    simp [lookup, h hd List.mem_cons_self, ih fun e he ↦ h e (List.mem_cons_of_mem _ he)]

@[simp]
theorem get?_erase_self (m : SortedMap κ υ) (k : κ) : (m.erase k).get? k = none :=
  lookup_eraseEntry_self k m.entries

section EntryLookups

variable [Std.LawfulEqOrd κ]

theorem lookup_insertEntry_self (k : κ) (v : υ) (l : List (κ × υ)) :
    lookup k (insertEntry k v l) = some v := by
  induction l with
  | nil => simp [insertEntry, lookup]
  | cons hd rest ih =>
    obtain ⟨k', v'⟩ := hd
    simp only [insertEntry]
    split
    · simp [lookup]
    · simp [lookup]
    · rename_i hk
      simp [lookup, hk, ih]

theorem lookup_insertEntry_of_ne {a k : κ} (h : a ≠ k) (v : υ) (l : List (κ × υ)) :
    lookup a (insertEntry k v l) = lookup a l := by
  have hak : compare a k ≠ .eq := fun e ↦ h (Std.LawfulEqOrd.eq_of_compare e)
  induction l with
  | nil => simp [insertEntry, lookup, hak]
  | cons hd rest ih =>
    obtain ⟨k', v'⟩ := hd
    simp only [insertEntry]
    split
    · simp [lookup, hak]
    · rename_i hk
      have : k = k' := Std.LawfulEqOrd.eq_of_compare hk
      subst this
      simp [lookup, hak]
    · simp [lookup, ih]

theorem lookup_eraseEntry_of_ne {a k : κ} (h : a ≠ k) (l : List (κ × υ)) :
    lookup a (eraseEntry k l) = lookup a l := by
  induction l with
  | nil => rfl
  | cons hd rest ih =>
    by_cases hk : compare k hd.1 = .eq
    · have hka : k = hd.1 := Std.LawfulEqOrd.eq_of_compare hk
      have ha : compare a hd.1 ≠ .eq := fun e ↦ h (hka ▸ Std.LawfulEqOrd.eq_of_compare e)
      simpa [eraseEntry, lookup, hk, ha] using ih
    · simp only [eraseEntry, List.filter_cons, bne_iff_ne, ne_eq, hk, not_false_eq_true, ↓reduceIte,
        lookup]
      split
      · rfl
      · exact ih

theorem get?_erase_of_ne (m : SortedMap κ υ) {a k : κ} (h : a ≠ k) :
    (m.erase k).get? a = m.get? a :=
  lookup_eraseEntry_of_ne h m.entries

end EntryLookups

section Lawful

variable [Std.TransOrd κ] [Std.LawfulEqOrd κ]

theorem pairwise_insertEntry (k : κ) (v : υ) {l : List (κ × υ)}
    (hl : l.Pairwise fun a b ↦ compare a.1 b.1 = .lt) :
    (insertEntry k v l).Pairwise fun a b ↦ compare a.1 b.1 = .lt := by
  induction l with
  | nil => simp [insertEntry]
  | cons hd rest ih =>
    obtain ⟨k', v'⟩ := hd
    have hrest := List.pairwise_cons.mp hl
    simp only [insertEntry]
    split
    · rename_i hk
      refine List.pairwise_cons.mpr ⟨fun e he ↦ ?_, hl⟩
      rcases List.mem_cons.mp he with rfl | he
      · exact hk
      · exact Std.TransCmp.lt_trans hk (hrest.1 e he)
    · rename_i hk
      have : k = k' := Std.LawfulEqOrd.eq_of_compare hk
      subst this
      exact List.pairwise_cons.mpr ⟨hrest.1, hrest.2⟩
    · rename_i hk
      refine List.pairwise_cons.mpr ⟨fun e he ↦ ?_, ih hrest.2⟩
      rcases mem_insertEntry he with rfl | he
      · exact Std.OrientedCmp.lt_of_gt hk
      · exact hrest.1 e he

/-- The map with `v` under `k`, in place of what was there. -/
def insert (m : SortedMap κ υ) (k : κ) (v : υ) : SortedMap κ υ :=
  ⟨insertEntry k v m.entries, pairwise_insertEntry k v m.sorted⟩

/-- The map of a list of pairs; of two pairs with one key the later stands. -/
def ofList (l : List (κ × υ)) : SortedMap κ υ :=
  l.foldl (fun m e ↦ m.insert e.1 e.2) ∅

/-- The map with the value under `k` replaced by its image, `d` standing for a missing one. -/
def modify (m : SortedMap κ υ) (k : κ) (d : υ) (f : υ → υ) : SortedMap κ υ :=
  m.insert k (f ((m.get? k).getD d))

/-! ## Look-ups -/

@[simp]
theorem get?_insert_self (m : SortedMap κ υ) (k : κ) (v : υ) : (m.insert k v).get? k = some v :=
  lookup_insertEntry_self k v m.entries

theorem get?_insert_of_ne (m : SortedMap κ υ) {a k : κ} (h : a ≠ k) (v : υ) :
    (m.insert k v).get? a = m.get? a :=
  lookup_insertEntry_of_ne h v m.entries

theorem entries_eq_of_lookup_eq {l₁ l₂ : List (κ × υ)}
    (h₁ : l₁.Pairwise fun a b ↦ compare a.1 b.1 = .lt)
    (h₂ : l₂.Pairwise fun a b ↦ compare a.1 b.1 = .lt)
    (h : ∀ k, lookup k l₁ = lookup k l₂) : l₁ = l₂ := by
  induction l₁ generalizing l₂ with
  | nil =>
    cases l₂ with
    | nil => rfl
    | cons hd rest => simpa [lookup] using h hd.1
  | cons a r₁ ih =>
    cases l₂ with
    | nil => simpa [lookup] using h a.1
    | cons b r₂ =>
      have ha := List.pairwise_cons.mp h₁
      have hb := List.pairwise_cons.mp h₂
      have hab : compare a.1 b.1 = .eq := by
        cases hc : compare a.1 b.1 with
        | eq => rfl
        | lt =>
          have hn : lookup a.1 (b :: r₂) = none := lookup_eq_none_of_lt fun e he ↦ by
            rcases List.mem_cons.mp he with rfl | he
            · exact hc
            · exact Std.TransCmp.lt_trans hc (hb.1 e he)
          have := h a.1
          rw [hn] at this
          simp [lookup] at this
        | gt =>
          have hc' := Std.OrientedCmp.lt_of_gt hc
          have hn : lookup b.1 (a :: r₁) = none := lookup_eq_none_of_lt fun e he ↦ by
            rcases List.mem_cons.mp he with rfl | he
            · exact hc'
            · exact Std.TransCmp.lt_trans hc' (ha.1 e he)
          have := h b.1
          rw [hn] at this
          simp [lookup] at this
      have hkey : a.1 = b.1 := Std.LawfulEqOrd.eq_of_compare hab
      have hval : a.2 = b.2 := by
        have := h a.1
        simpa [lookup, hkey] using this
      have hrest : r₁ = r₂ := by
        refine ih ha.2 hb.2 fun k ↦ ?_
        by_cases hk : k = a.1
        · subst hk
          rw [lookup_eq_none_of_lt ha.1, lookup_eq_none_of_lt fun e he ↦ hkey ▸ hb.1 e he]
        · have hk₁ : compare k a.1 ≠ .eq := fun e ↦ hk (Std.LawfulEqOrd.eq_of_compare e)
          have hk₂ : compare k b.1 ≠ .eq := hkey ▸ hk₁
          simpa [lookup, hk₁, hk₂] using h k
      rw [show a = b from Prod.ext hkey hval, hrest]

/-- Two maps with the same look-ups are the same map. -/
theorem ext_get? {m n : SortedMap κ υ} (h : ∀ k, m.get? k = n.get? k) : m = n := by
  have := entries_eq_of_lookup_eq m.sorted n.sorted h
  cases m; cases n; simp_all

end Lawful

end SortedMap

end Tokenomics

import Mathlib.Data.List.Forall2

/-!
# Steps that can fail

What it takes for a chain of steps in `Except` to succeed: every step of it does. A transfer, a
settlement and the processing of a block are such chains, and these lemmas take them apart.
-/

namespace Tokenomics

variable {ε ε' α β : Type}

theorem bind_eq_ok {x : Except ε α} {f : α → Except ε β} {b : β} :
    (x >>= f) = .ok b ↔ ∃ a, x = .ok a ∧ f a = .ok b := by
  cases x with
  | error e =>
    constructor
    · exact fun h ↦ nomatch h
    · rintro ⟨_, h, _⟩
      exact nomatch h
  | ok a =>
    constructor
    · exact fun h ↦ ⟨a, rfl, h⟩
    · rintro ⟨_, h, hf⟩
      rwa [← Except.ok.inj h] at hf

/-- A check before a step. -/
theorem check_bind_eq_ok {x : Except ε Unit} {f : Unit → Except ε β} {b : β} :
    (x >>= f) = .ok b ↔ x = .ok () ∧ f () = .ok b :=
  bind_eq_ok.trans ⟨fun ⟨_, h⟩ ↦ h, fun h ↦ ⟨(), h⟩⟩

/-- A rule that stops what follows when it is broken. -/
theorem throw_if_eq_ok {c : Prop} [Decidable c] {e : ε} {f : Unit → Except ε β} {b : β} :
    (if c then throw e >>= f else f ()) = .ok b ↔ ¬ c ∧ f () = .ok b := by
  by_cases hc : c
  · rw [if_pos hc]
    exact ⟨fun h ↦ (nomatch h), fun h ↦ absurd hc h.1⟩
  · rw [if_neg hc]
    exact ⟨fun h ↦ ⟨hc, h⟩, fun h ↦ h.2⟩

/-- Of two steps the first is what fails, or it succeeds and the second fails. -/
theorem bind_eq_error {x : Except ε α} {f : α → Except ε β} {e : ε} :
    (x >>= f) = .error e ↔ x = .error e ∨ ∃ a, x = .ok a ∧ f a = .error e := by
  cases x with
  | error e' =>
    constructor
    · exact fun h ↦ .inl (congrArg _ (Except.error.inj h))
    · rintro (h | ⟨_, h, _⟩)
      · exact congrArg _ (Except.error.inj h)
      · exact nomatch h
  | ok a =>
    constructor
    · exact fun h ↦ .inr ⟨a, rfl, h⟩
    · rintro (h | ⟨_, h, hf⟩)
      · exact nomatch h
      · rwa [← Except.ok.inj h] at hf

/-- A check before a step is what fails, or it passes and the step fails. -/
theorem check_bind_eq_error {x : Except ε Unit} {f : Unit → Except ε β} {e : ε} :
    (x >>= f) = .error e ↔ x = .error e ∨ x = .ok () ∧ f () = .error e :=
  bind_eq_error.trans (or_congr_right ⟨fun ⟨_, h⟩ ↦ h, fun h ↦ ⟨(), h⟩⟩)

theorem throw_if_eq_error {c : Prop} [Decidable c] {e e' : ε} {f : Unit → Except ε β} :
    (if c then throw e >>= f else f ()) = .error e' ↔ c ∧ e = e' ∨ ¬ c ∧ f () = .error e' := by
  by_cases hc : c
  · simp only [hc, if_true, true_and, not_true, false_and, or_false]
    exact ⟨fun h ↦ Except.error.inj h, fun h ↦ congrArg _ h⟩
  · simp only [hc, if_false, false_and, not_false_eq_true, true_and, false_or]

/-- A step that cannot fail does not change why a chain does. -/
theorem bind_ok_eq_error {x : Except ε α} {f : α → β} {e : ε} :
    (x >>= fun a ↦ Except.ok (f a)) = .error e ↔ x = .error e := by
  cases x with
  | error e' =>
    constructor
    · exact fun h ↦ congrArg _ (Except.error.inj h)
    · exact fun h ↦ congrArg _ (Except.error.inj h)
  | ok a => exact ⟨fun h ↦ (nomatch h), fun h ↦ (nomatch h)⟩

theorem mapError_eq_ok {x : Except ε α} {f : ε → ε'} {a : α} :
    x.mapError f = .ok a ↔ x = .ok a := by
  cases x with
  | error e => exact ⟨fun h ↦ (nomatch h), fun h ↦ (nomatch h)⟩
  | ok b => exact ⟨fun h ↦ congrArg _ (Except.ok.inj h), fun h ↦ congrArg _ (Except.ok.inj h)⟩

theorem mapError_eq_error {x : Except ε α} {f : ε → ε'} {e' : ε'} :
    x.mapError f = .error e' ↔ ∃ e, x = .error e ∧ e' = f e := by
  cases x with
  | error e =>
    constructor
    · intro h
      exact ⟨e, rfl, (Except.error.inj h).symm⟩
    · rintro ⟨e₁, h, rfl⟩
      rw [Except.error.inj h]
      rfl
  | ok a => exact ⟨fun h ↦ (nomatch h), fun ⟨_, h, _⟩ ↦ (nomatch h)⟩

/-- A check of every item of a list passes when every item passes. -/
theorem forM_eq_ok {f : α → Except ε Unit} {l : List α} :
    l.forM f = .ok () ↔ ∀ a ∈ l, f a = .ok () := by
  induction l with
  | nil => exact ⟨fun _ _ h ↦ absurd h List.not_mem_nil, fun _ ↦ rfl⟩
  | cons a l ih =>
    rw [List.forall_mem_cons, ← ih]
    exact check_bind_eq_ok

/-- A walk over a list stops at the first item that the step does not get past. -/
theorem foldlM_eq_error {f : β → α → Except ε β} {l : List α} {b : β} {e : ε} :
    l.foldlM f b = .error e ↔ ∃ early a late b', l = early ++ a :: late ∧
      early.foldlM f b = .ok b' ∧ f b' a = .error e := by
  constructor
  · intro h
    induction l generalizing b with
    | nil => exact nomatch h
    | cons a l ih =>
      rw [List.foldlM_cons] at h
      cases ha : f b a with
      | error e' =>
        rw [ha] at h
        exact ⟨[], a, l, b, rfl, rfl, ha.trans (congrArg _ (Except.error.inj h))⟩
      | ok b₁ =>
        rw [ha] at h
        obtain ⟨early, x, late, b', rfl, hearly, hx⟩ := ih h
        refine ⟨a :: early, x, late, b', rfl, ?_, hx⟩
        rw [List.foldlM_cons, ha]
        exact hearly
  · rintro ⟨early, a, late, b', rfl, hearly, ha⟩
    rw [List.foldlM_append, hearly]
    show (f b' a >>= fun b ↦ late.foldlM f b) = .error e
    rw [ha]
    rfl

theorem forM_eq_foldlM (f : α → Except ε Unit) (l : List α) :
    l.forM f = l.foldlM (fun _ a ↦ f a) () := by
  induction l with
  | nil => rfl
  | cons a l ih =>
    show (f a >>= fun _ ↦ l.forM f) = _
    rw [List.foldlM_cons, ih]

/-- A check of every item of a list stops at the first item that does not pass. -/
theorem forM_eq_error {f : α → Except ε Unit} {l : List α} {e : ε} :
    l.forM f = .error e ↔ ∃ early a late, l = early ++ a :: late ∧
      (∀ b ∈ early, f b = .ok ()) ∧ f a = .error e := by
  rw [forM_eq_foldlM, foldlM_eq_error]
  simp only [← forM_eq_foldlM]
  constructor
  · rintro ⟨early, a, late, u, hl, hearly, ha⟩
    exact ⟨early, a, late, hl, forM_eq_ok.mp hearly, ha⟩
  · rintro ⟨early, a, late, hl, hearly, ha⟩
    exact ⟨early, a, late, (), hl, forM_eq_ok.mpr hearly, ha⟩

theorem mapM_eq_ok {f : α → Except ε β} {l : List α} {bs : List β} :
    l.mapM f = .ok bs ↔ List.Forall₂ (fun a b ↦ f a = .ok b) l bs := by
  induction l generalizing bs with
  | nil =>
    rw [List.mapM_nil, List.forall₂_nil_left_iff]
    exact ⟨fun h ↦ (Except.ok.inj h).symm, fun h ↦ congrArg _ h.symm⟩
  | cons a l ih =>
    rw [List.mapM_cons, bind_eq_ok, List.forall₂_cons_left_iff]
    constructor
    · rintro ⟨b, hb, h⟩
      obtain ⟨bs', hbs, h⟩ := bind_eq_ok.mp h
      exact ⟨b, bs', hb, ih.mp hbs, (Except.ok.inj h).symm⟩
    · rintro ⟨b, bs', hb, hbs, rfl⟩
      exact ⟨b, hb, bind_eq_ok.mpr ⟨bs', ih.mpr hbs, rfl⟩⟩

/-- Something can be put next to every item of a list when there is something for each. -/
theorem exists_forall₂ {R : α → β → Prop} {l : List α} :
    (∃ bs, List.Forall₂ R l bs) ↔ ∀ a ∈ l, ∃ b, R a b := by
  induction l with
  | nil => exact ⟨fun _ _ h ↦ absurd h List.not_mem_nil, fun _ ↦ ⟨[], .nil⟩⟩
  | cons a l ih =>
    rw [List.forall_mem_cons, ← ih]
    constructor
    · rintro ⟨_, _ | ⟨hb, hbs⟩⟩
      exact ⟨⟨_, hb⟩, ⟨_, hbs⟩⟩
    · rintro ⟨⟨b, hb⟩, ⟨bs, hbs⟩⟩
      exact ⟨b :: bs, .cons hb hbs⟩

/-- Steps of which none can fail. -/
theorem exists_mapM_eq_ok {f : α → Except ε β} {l : List α} (h : ∀ a ∈ l, ∃ b, f a = .ok b) :
    ∃ bs, l.mapM f = .ok bs := by
  obtain ⟨bs, hbs⟩ := exists_forall₂.mpr h
  exact ⟨bs, mapM_eq_ok.mpr hbs⟩

/-- Of steps taken one after the other the first that fails is what fails. -/
theorem mapM_eq_error {f : α → Except ε β} {l : List α} {e : ε} :
    l.mapM f = .error e ↔ ∃ early a late, l = early ++ a :: late ∧
      (∀ b ∈ early, ∃ c, f b = .ok c) ∧ f a = .error e := by
  constructor
  · intro h
    induction l with
    | nil => exact nomatch h
    | cons a l ih =>
      rw [List.mapM_cons] at h
      cases ha : f a with
      | error e' =>
        rw [ha] at h
        exact ⟨[], a, l, rfl, by simp, ha.trans (congrArg _ (Except.error.inj h))⟩
      | ok b =>
        rw [ha] at h
        obtain ⟨early, x, late, rfl, hearly, hx⟩ := ih (bind_ok_eq_error.mp h)
        exact ⟨a :: early, x, late, rfl, List.forall_mem_cons.mpr ⟨⟨b, ha⟩, hearly⟩, hx⟩
  · rintro ⟨early, a, late, rfl, hearly, ha⟩
    obtain ⟨bs, hbs⟩ := exists_mapM_eq_ok hearly
    rw [List.mapM_append, hbs, List.mapM_cons, ha]
    rfl

theorem exists_of_mem_mapM {f : α → Except ε β} {l : List α} {bs : List β}
    (h : l.mapM f = .ok bs) {b : β} (hb : b ∈ bs) : ∃ a ∈ l, f a = .ok b := by
  have hall := mapM_eq_ok.mp h
  clear h
  induction hall with
  | nil => exact absurd hb List.not_mem_nil
  | @cons a b' l bs hab _ ih =>
    rcases List.mem_cons.mp hb with rfl | hb
    · exact ⟨a, List.mem_cons_self, hab⟩
    · obtain ⟨a', ha', hab'⟩ := ih hb
      exact ⟨a', List.mem_cons_of_mem a ha', hab'⟩

/-! ## Numbered items -/

section Numbered

variable {f : α × Nat → Except ε β} {R : α → β → Prop} {l : List α} {k : Nat}

/-- Steps on numbered items, of which the results do not depend on the numbers. -/
theorem mapM_zipIdx_eq_ok (h : ∀ a i b, f (a, i) = .ok b ↔ R a b) {bs : List β} :
    (l.zipIdx k).mapM f = .ok bs ↔ List.Forall₂ R l bs := by
  have hresult : (fun p b ↦ f p = .ok b) = fun p b ↦ R p.1 b := by
    funext p b
    exact propext (h p.1 p.2 b)
  rw [mapM_eq_ok, hresult, ← List.forall₂_map_left_iff (R := R) (f := Prod.fst),
    List.zipIdx_map_fst]

theorem mapM_zipIdx_eq_error (h : ∀ a i b, f (a, i) = .ok b ↔ R a b) {e : ε} :
    (l.zipIdx k).mapM f = .error e ↔ ∃ early a late, l = early ++ a :: late ∧
      (∀ b ∈ early, ∃ c, R b c) ∧ f (a, k + early.length) = .error e := by
  rw [mapM_eq_error]
  constructor
  · rintro ⟨numbered, ⟨a, i⟩, rest, hl, hearly, ha⟩
    obtain ⟨early, tail, rfl, rfl, htail⟩ := List.zipIdx_eq_append_iff.mp hl
    obtain ⟨a', late, rfl, hnumber, rfl⟩ := List.zipIdx_eq_cons_iff.mp htail.symm
    obtain ⟨rfl, rfl⟩ := Prod.mk.inj hnumber
    refine ⟨early, a, late, rfl, ?_, ha⟩
    obtain ⟨cs, hcs⟩ := exists_mapM_eq_ok hearly
    exact exists_forall₂.mp ⟨cs, (mapM_zipIdx_eq_ok h).mp hcs⟩
  · rintro ⟨early, a, late, rfl, hearly, ha⟩
    refine ⟨early.zipIdx k, (a, k + early.length), late.zipIdx (k + early.length + 1), ?_, ?_, ha⟩
    · rw [List.zipIdx_append, List.zipIdx_cons]
    · obtain ⟨cs, hcs⟩ := exists_forall₂.mpr hearly
      exact exists_forall₂.mp ⟨cs, mapM_eq_ok.mp ((mapM_zipIdx_eq_ok h).mpr hcs)⟩

end Numbered

end Tokenomics

import Tokenomics.Decimal.Arithmetic
import Tokenomics.Decimal.Data
import Tokenomics.Proofs.Text.Numeral

/-!
# Reading a decimal undoes writing it

The text of a decimal holds all of its digits and shows its scale, and none of its digits is one
too many to be read, so reading it back gives the same decimal (`ofText?_text`). Only the sign of
a zero is lost: `-0.00` is read as `0.00`.
-/

namespace Tokenomics.Decimal

/-! ## Reading digits one after the other -/

/-- The state after more digits have been read. -/
def Progress.after (p : Progress) (ds : List Char) : Progress where
  coefficient := Numeral.valueFrom p.coefficient ds
  scale := if p.pointed then p.scale + ds.length else p.scale
  pointed := p.pointed
  started := p.started || !ds.isEmpty

theorem readDigits_append (p : Progress) {ds : List Char} (hds : ∀ c ∈ ds, c.isDigit = true)
    (hbound : Numeral.valueFrom p.coefficient ds < 1 <<< 96)
    (hplaces : p.pointed = true → p.scale + ds.length ≤ 28) (rest : List Char) :
    readDigits p (ds ++ rest) = readDigits (p.after ds) rest := by
  -- the bounds are those of all digits together, and every prefix of them stays within
  induction ds generalizing p with
  | nil =>
    obtain ⟨coefficient, scale, pointed, started⟩ := p
    rw [Progress.after, List.nil_append]
    simp [Numeral.valueFrom_nil]
  | cons c ds ih =>
    obtain ⟨hc, hds⟩ := List.forall_mem_cons.mp hds
    rw [Numeral.valueFrom_cons] at hbound
    have hnext : 10 * p.coefficient + Numeral.digitValue c < 1 <<< 96 :=
      Nat.lt_of_le_of_lt (Numeral.le_valueFrom _ ds) hbound
    have hroom : ¬ (p.pointed && p.scale == 28) = true := by
      rw [Bool.and_eq_true, beq_iff_eq]
      rintro ⟨hpointed, hscale⟩
      have h := hplaces hpointed
      rw [List.length_cons] at h
      omega
    -- there is room for the digit, so it is not the first to be rounded away
    rw [List.cons_append, readDigits, if_neg hroom, if_pos hc]
    show (if 10 * p.coefficient + Numeral.digitValue c < 1 <<< 96 then _ else _) = _
    rw [if_pos hnext, ih _ hds hbound]
    · rw [Progress.after, Progress.after, Numeral.valueFrom_cons]
      cases p.pointed with
      | false => simp
      | true => simp [Nat.add_left_comm, Nat.add_comm]
    · intro hpointed
      have h := hplaces hpointed
      rw [List.length_cons] at h
      rw [if_pos hpointed]
      show p.scale + 1 + ds.length ≤ 28
      omega

/-! ## The digits of a decimal -/

theorem isDigit_of_mem_paddedDigits {width n : Nat} {c : Char} (h : c ∈ paddedDigits width n) :
    c.isDigit = true := by
  rcases List.mem_append.mp h with h | h
  · rw [List.eq_of_mem_replicate h]
    rfl
  · exact Numeral.isDigit_of_mem_digits h

theorem value_paddedDigits (width n : Nat) : Numeral.value (paddedDigits width n) = n :=
  (Numeral.valueFrom_replicate_zero _ _).trans (Numeral.value_digits n)

theorem le_length_paddedDigits (width n : Nat) : width ≤ (paddedDigits width n).length := by
  rw [paddedDigits, List.length_append, List.length_replicate]
  omega

theorem readDigits_nil {p : Progress} (h : p.started = true) :
    readDigits p [] = some (p.coefficient, p.scale) := by
  rw [readDigits, if_pos h]

theorem readDigits_point {p : Progress} (h : p.pointed = false) (rest : List Char) :
    readDigits p ('.' :: rest) = readDigits { p with pointed := true } rest := by
  rw [readDigits, h, Bool.false_and, if_neg Bool.false_ne_true, if_neg (by decide)]
  rfl

/-- A magnitude is read off its text with all its places. -/
theorem readDigits_magnitudeText {n s : Nat} (hn : n < 1 <<< 96) (hs : s ≤ 28) :
    readDigits .start (magnitudeText n s) = some (n, s) := by
  have hlength := le_length_paddedDigits (s + 1) n
  have hvalue := value_paddedDigits (s + 1) n
  have hdigits : ∀ c ∈ paddedDigits (s + 1) n, c.isDigit = true :=
    fun c hc ↦ isDigit_of_mem_paddedDigits hc
  rw [magnitudeText]
  generalize paddedDigits (s + 1) n = ds at hlength hvalue hdigits
  -- the digits before the point, and those behind it
  obtain ⟨whole, places, rfl, hwhole, hplaces⟩ : ∃ whole places, ds = whole ++ places ∧
      ds.take (ds.length - s) = whole ∧ ds.drop (ds.length - s) = places :=
    ⟨_, _, (List.take_append_drop _ ds).symm, rfl, rfl⟩
  have hstarted : whole.isEmpty = false := by
    rw [List.isEmpty_eq_false_iff, ← hwhole, ← List.length_pos_iff, List.length_take]
    omega
  have hs' : places.length = s := by
    rw [← hplaces, List.length_drop]
    omega
  rw [Numeral.value, Numeral.valueFrom_append] at hvalue
  have hbound : Numeral.valueFrom 0 whole < 1 <<< 96 :=
    Nat.lt_of_le_of_lt (Numeral.le_valueFrom _ places) (hvalue ▸ hn)
  have hfirst := readDigits_append .start (fun c hc ↦ hdigits c (List.mem_append_left _ hc)) hbound
    (fun h ↦ absurd h Bool.false_ne_true)
  show readDigits .start
    (if s = 0 then List.take _ _ else List.take _ _ ++ '.' :: List.drop _ _) = _
  rw [hwhole, hplaces]
  split
  · rename_i hzero
    have hnone : places = [] := List.eq_nil_of_length_eq_zero (hs'.trans hzero)
    subst hnone
    rw [← List.append_nil whole, hfirst, readDigits_nil (by simp [Progress.after, hstarted])]
    exact congrArg some (Prod.ext hvalue hzero.symm)
  · rw [hfirst, readDigits_point rfl, ← List.append_nil places, readDigits_append,
      readDigits_nil (by simp [Progress.after, hstarted])]
    · exact congrArg some (Prod.ext hvalue ((Nat.zero_add _).trans hs'))
    · exact fun c hc ↦ hdigits c (List.mem_append_right _ hc)
    · exact hvalue ▸ hn
    · exact fun _ ↦ Nat.le_trans (Nat.le_of_eq ((Nat.zero_add _).trans hs')) hs

/-! ## The text of a decimal -/

theorem mem_magnitudeText {n s : Nat} {c : Char} (h : c ∈ magnitudeText n s) :
    c.isDigit = true ∨ c = '.' := by
  have hdigit : ∀ c ∈ paddedDigits (s + 1) n, c.isDigit = true :=
    fun c hc ↦ isDigit_of_mem_paddedDigits hc
  rw [magnitudeText] at h
  split at h
  · exact .inl (hdigit c (List.mem_of_mem_take h))
  · rcases List.mem_append.mp h with h | h
    · exact .inl (hdigit c (List.mem_of_mem_take h))
    · rcases List.mem_cons.mp h with h | h
      · exact .inr h
      · exact .inl (hdigit c (List.mem_of_mem_drop h))

theorem magnitudeText_eq_cons (n s : Nat) :
    ∃ c cs, magnitudeText n s = c :: cs ∧ c.isDigit = true := by
  have hlength := le_length_paddedDigits (s + 1) n
  have hne : (paddedDigits (s + 1) n).take ((paddedDigits (s + 1) n).length - s) ≠ [] := by
    rw [← List.length_pos_iff, List.length_take]
    omega
  obtain ⟨c, cs, hcs⟩ := List.exists_cons_of_ne_nil hne
  have hc : c.isDigit = true :=
    isDigit_of_mem_paddedDigits (List.mem_of_mem_take (hcs ▸ List.mem_cons_self))
  rw [magnitudeText]
  split
  · exact ⟨c, cs, hcs, hc⟩
  · exact ⟨c, cs ++ _, by rw [hcs, List.cons_append], hc⟩

theorem ofChars?_eq_ofPlain? {cs : List Char} (h : ∀ c ∈ cs, isExponentMark c = false) :
    ofChars? cs = ofPlain? cs := by
  have hdrop : (cs ++ []).dropWhile (!isExponentMark ·) = [] :=
    List.dropWhile_append_of_pos fun c hc ↦ by rw [h c hc]; rfl
  rw [List.append_nil] at hdrop
  rw [ofChars?, hdrop]

theorem ofPlain?_magnitudeText (n s : Nat) :
    ofPlain? (magnitudeText n s) = ofDigits? false (magnitudeText n s) := by
  obtain ⟨c, cs, hcs, hc⟩ := magnitudeText_eq_cons n s
  rw [hcs, ofPlain?]
  · rintro r hr
    rw [(List.cons.inj hr).1] at hc
    exact Bool.false_ne_true hc
  · rintro r hr
    rw [(List.cons.inj hr).1] at hc
    exact Bool.false_ne_true hc

theorem ofDigits?_magnitudeText (a : Decimal) (negative : Bool) :
    ofDigits? negative (magnitudeText a.magnitude a.scale)
      = some { a with negative := negative && !a.isZero } := by
  rw [ofDigits?, readDigits_magnitudeText a.magnitude_lt a.scale_le]
  exact dif_pos ⟨a.magnitude_lt, a.scale_le⟩

theorem isExponentMark_of_mem {n s : Nat} {c : Char} (h : c ∈ magnitudeText n s) :
    isExponentMark c = false := by
  have hne : ∀ d : Char, d.isDigit = false → d ≠ '.' → c ≠ d := by
    rintro d hd hpoint rfl
    exact (mem_magnitudeText h).elim (fun hc ↦ Bool.false_ne_true (hd.symm.trans hc)) hpoint
  rw [isExponentMark, Bool.or_eq_false_iff, decide_eq_false_iff_not, decide_eq_false_iff_not]
  exact ⟨hne 'e' rfl (by decide), hne 'E' rfl (by decide)⟩

/-- **Reading undoes writing**, up to the sign of a zero. -/
theorem ofText?_text (a : Decimal) : ofText? a.text = some a.unsignedZero := by
  rw [ofText?, text, String.toList_ofList]
  obtain ⟨negative, magnitude, scale, hm, hs⟩ := a
  cases negative with
  | false =>
    rw [if_neg Bool.false_ne_true, ofChars?_eq_ofPlain? fun c hc ↦ isExponentMark_of_mem hc,
      ofPlain?_magnitudeText]
    exact ofDigits?_magnitudeText ⟨false, magnitude, scale, hm, hs⟩ false
  | true =>
    have hmarks : ∀ c ∈ '-' :: magnitudeText magnitude scale, isExponentMark c = false :=
      List.forall_mem_cons.mpr ⟨rfl, fun c hc ↦ isExponentMark_of_mem hc⟩
    rw [if_pos rfl, ofChars?_eq_ofPlain? hmarks]
    exact ofDigits?_magnitudeText ⟨true, magnitude, scale, hm, hs⟩ true

end Tokenomics.Decimal

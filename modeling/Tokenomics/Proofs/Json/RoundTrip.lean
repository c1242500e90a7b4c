import Tokenomics.Proofs.Json.Layout
import Tokenomics.Proofs.Text.Numeral

/-!
# Reading undoes writing

Data written in any layout, and so in the compact form and in the form for reading, are read back
from that text (`parseChars?_laidChars`). That holds of the data that records are made of
(`Datum.Plain`): no floating point numbers, which the form does not determine, no dates, which it
does not mark, and no whole number so long that only a floating point number could stand for it.

Every value is read off the front of a longer text, and a number ends only where something else
begins, so what follows a value has to close it (`Closes`): a comma, a bracket or a brace, a blank,
or the end of the text. Blanks between two parts do not matter: the reader sees a text only behind
its blanks (`readValue_congr`).
-/

namespace Tokenomics

namespace Datum

mutual

/-- Data that the compact form determines. -/
def Plain : Datum → Prop
  | .null | .bool _ | .text _ => True
  | .integer n => n.natAbs < tenPow 308
  | .list items => ItemsPlain items
  | .record fields => FieldsPlain fields
  | .real _ | .date _ | .openList _ | .unreadable => False

/-- Every item is plain. -/
def ItemsPlain : List Datum → Prop
  | [] => True
  | d :: rest => d.Plain ∧ ItemsPlain rest

/-- Every field is plain. -/
def FieldsPlain : List (String × Datum) → Prop
  | [] => True
  | (_, d) :: rest => d.Plain ∧ FieldsPlain rest

end

end Datum

namespace Json

/-! ## Texts -/

/-- The part that a character is written as. -/
def partOf (c : Char) : TextPart :=
  if c.toNat < 32 ∧ c ∉ ['\n', '\r', '\t', '\x08', '\x0c'] then .unit c.toNat else .char c

theorem valueIn?_hex4 {n : Nat} (h : n < 32) : Text.valueIn? 16 (hex4 n) = some n := by
  have hall : ∀ m < 32, Text.valueIn? 16 (hex4 m) = some m := by decide
  exact hall n h

theorem readParts_escaped {c e : Char} (hc : c ≠ 'u') (h : escaped? c = some e)
    (cs : List Char) :
    readParts ('\\' :: c :: cs) = (readParts cs).map fun r ↦ (.char e :: r.1, r.2) := by
  rw [readParts.eq_4 _ _ fun _ _ _ _ _ hu _ ↦ hc hu, h]
  cases readParts cs with
  | none => rfl
  | some r => rfl

theorem readParts_escapeChar (c : Char) (cs : List Char) :
    readParts (escapeChar c ++ cs) = (readParts cs).map fun r ↦ (partOf c :: r.1, r.2) := by
  fun_cases escapeChar c
  case case1 | case2 | case3 | case4 | case5 | case6 | case7 =>
    exact readParts_escaped (by decide) rfl cs
  case case8 hlt _ _ hn hr ht hb hf =>
    -- a control character without an escape of its own is written by its number
    have hpart : partOf c = .unit c.toNat := if_pos ⟨hlt, by simpa using ⟨hn, hr, ht, hb, hf⟩⟩
    rw [if_pos hlt, hpart]
    obtain ⟨a, b, d, e, hhex⟩ : ∃ a b d e, hex4 c.toNat = [a, b, d, e] := ⟨_, _, _, _, rfl⟩
    have hvalue := valueIn?_hex4 hlt
    rw [hhex] at hvalue ⊢
    show readParts ('\\' :: 'u' :: a :: b :: d :: e :: cs) = _
    rw [readParts.eq_3, hvalue]
    cases readParts cs with
    | none => rfl
    | some r => rfl
  case case9 hlt hquote hslash _ _ _ _ _ =>
    have hpart : partOf c = .char c := if_neg fun h ↦ hlt h.1
    rw [if_neg hlt, hpart]
    show readParts (c :: cs) = _
    rw [readParts.eq_5 c cs hquote (fun _ _ _ _ _ h _ ↦ hslash h) (fun _ _ h _ ↦ hslash h),
      if_neg (by simpa using ⟨Nat.not_lt.mp hlt, hslash⟩)]
    cases readParts cs with
    | none => rfl
    | some r => rfl

theorem readParts_flatMap (cs rest : List Char) :
    readParts (cs.flatMap escapeChar ++ '"' :: rest) = some (cs.map partOf, rest) := by
  induction cs with
  | nil => rfl
  | cons c cs ih =>
    rw [List.flatMap_cons, List.append_assoc, readParts_escapeChar, ih]
    rfl

/-- Only characters below code 32 are written by number, so no half of a pair is among them. -/
theorem joinParts_unit {n : Nat} (h : n < 32) (ps : List TextPart) :
    joinParts (.unit n :: ps) = (joinParts ps).map (Char.ofNat n :: ·) := by
  have hhigh : Text.isHighHalf n = false := by
    rw [Text.isHighHalf, Bool.and_eq_false_iff, decide_eq_false_iff_not]
    left
    omega
  have hlow : Text.isLowHalf n = false := by
    rw [Text.isLowHalf, Bool.and_eq_false_iff, decide_eq_false_iff_not]
    left
    omega
  match ps with
  | [] | .char _ :: _ =>
    rw [joinParts.eq_4 _ _ (by rintro _ _ ⟨⟩), hhigh, hlow]
    rfl
  | .unit m :: rest =>
    rw [joinParts.eq_3, hhigh, hlow]
    rfl

theorem joinParts_map (cs : List Char) : joinParts (cs.map partOf) = some cs := by
  induction cs with
  | nil => rfl
  | cons c cs ih =>
    rw [List.map_cons, partOf]
    split
    · rename_i hc
      rw [joinParts_unit hc.1, ih, Char.ofNat_toNat]
      rfl
    · rw [joinParts, ih]
      rfl

theorem readText_flatMap (cs rest : List Char) :
    readText (cs.flatMap escapeChar ++ '"' :: rest) = some (some cs, rest) := by
  rw [readText, readParts_flatMap, Option.map_some]
  show some (joinParts (cs.map partOf), rest) = _
  rw [joinParts_map]

/-! ## Scalars -/

/-- What may follow a value: nothing that a number goes on with. -/
def Closes (cs : List Char) : Prop :=
  ∀ c, cs.head? = some c → c.isDigit = false ∧ c ≠ '.' ∧ c ≠ 'e' ∧ c ≠ 'E'

theorem closes_nil : Closes [] := fun _ h ↦ (nomatch h)

theorem closes_cons {c : Char} (h : c.isDigit = false ∧ c ≠ '.' ∧ c ≠ 'e' ∧ c ≠ 'E')
    (cs : List Char) : Closes (c :: cs) := fun _ hc ↦ Option.some.inj hc ▸ h

theorem isSpace_eq_true {c : Char} :
    isSpace c = true ↔ c = ' ' ∨ c = '\n' ∨ c = '\t' ∨ c = '\r' := by
  simp [isSpace, or_assoc]

variable {rest : List Char}

/-- Blanks close a value. -/
theorem closes_of_isSpace {c : Char} (h : isSpace c = true) (cs : List Char) :
    Closes (c :: cs) := by
  rcases isSpace_eq_true.mp h with rfl | rfl | rfl | rfl
  all_goals exact closes_cons (by decide) cs

theorem spanDigits_digits (n : Nat) (h : Closes rest) :
    spanDigits (Numeral.digits n ++ rest) = (Numeral.digits n, rest) := by
  have hdigit : ∀ c, rest.head? = some c → c.isDigit = false := fun c hc ↦ (h c hc).1
  rw [spanDigits, Numeral.takeWhile_digits_append hdigit, Numeral.dropWhile_digits_append hdigit]

theorem readFraction_closes (h : Closes rest) : readFraction rest = some (none, rest) := by
  cases rest with
  | nil => rfl
  | cons c cs =>
    obtain ⟨-, hpoint, -⟩ := h c rfl
    rw [readFraction]
    intro r hr
    exact hpoint (List.cons.inj hr).1

theorem readExponent_closes (h : Closes rest) : readExponent rest = some (none, rest) := by
  cases rest with
  | nil => rfl
  | cons c cs =>
    obtain ⟨-, -, hlower, hupper⟩ := h c rfl
    have hmark : ¬ (decide (c = 'e') || decide (c = 'E')) = true := by simp [hlower, hupper]
    show (if _ then _ else _) = _
    rw [if_neg hmark]

theorem readMagnitude_digits {negative : Bool} {n : Nat} (hn : n < tenPow 308)
    (hsign : negative = true → n ≠ 0) (h : Closes rest) :
    readMagnitude negative (Numeral.digits n ++ rest)
      = some (.integer (if negative then -n else n), rest) := by
  have hlength : ¬ 308 < (Numeral.digits n).length :=
    Nat.not_lt.mpr ((Numeral.length_digits_le (by decide)).mpr hn)
  have hleading : ¬ ((Numeral.digits n).isEmpty
      || (Numeral.digits n).head? = some '0' && 1 < (Numeral.digits n).length) = true := by
    rw [Bool.or_eq_true, Bool.and_eq_true, decide_eq_true_eq, decide_eq_true_eq]
    rintro (hempty | ⟨hhead, hlen⟩)
    · exact Numeral.digits_ne_nil n (List.isEmpty_iff.mp hempty)
    · exact absurd hlen (Nat.not_lt.mpr
        (Nat.le_of_eq (Numeral.length_digits_of_head?_eq_zero hhead)))
  have hzero : ¬ (negative && decide (n = 0)) = true := by
    rw [Bool.and_eq_true, decide_eq_true_eq]
    exact fun h ↦ hsign h.1 h.2
  -- no fraction and no exponent follow: what comes next closes the number
  rw [readMagnitude, spanDigits_digits n h]
  show (if _ then none else _) = _
  rw [if_neg hleading, readFraction_closes h]
  show (readExponent rest >>= _) = _
  rw [readExponent_closes h]
  show some (numberOf negative (Numeral.digits n) none none, rest) = _
  rw [numberOf, Numeral.value_digits, if_neg hzero, if_neg (by simp [hlength])]

theorem ne_of_isDigit {c d : Char} (hc : c.isDigit = true) (hd : d.isDigit = false) : c ≠ d := by
  rintro rfl
  exact Bool.false_ne_true (hd.symm.trans hc)

theorem readScalar_integerChars {n : Int} (hn : n.natAbs < tenPow 308) (h : Closes rest) :
    readScalar (integerChars n ++ rest) = some (.integer n, rest) := by
  rw [integerChars]
  split
  · rename_i hneg
    show readMagnitude true (Numeral.digits n.natAbs ++ rest) = _
    rw [readMagnitude_digits hn (by omega) h, if_pos rfl]
    congr 3
    omega
  · rename_i hneg
    have hnumber : readScalar (Numeral.digits n.natAbs ++ rest)
        = readMagnitude false (Numeral.digits n.natAbs ++ rest) := by
      obtain ⟨c, cs, hcs⟩ := List.exists_cons_of_ne_nil (Numeral.digits_ne_nil n.natAbs)
      have hc : c.isDigit = true := Numeral.isDigit_of_mem_digits (hcs ▸ List.mem_cons_self)
      -- a digit is neither a sign nor the first letter of a word
      have hne (d : Char) (hd : d.isDigit = false) : c ≠ d := ne_of_isDigit hc hd
      rw [hcs, List.cons_append, readScalar, readNumber]
      · exact fun r hr ↦ hne '-' rfl (List.cons.inj hr).1
      · exact fun r hr ↦ hne 'n' rfl (List.cons.inj hr).1
      · exact fun r hr ↦ hne 't' rfl (List.cons.inj hr).1
      · exact fun r hr ↦ hne 'f' rfl (List.cons.inj hr).1
    rw [hnumber, readMagnitude_digits hn (fun h ↦ absurd h Bool.false_ne_true) h,
      if_neg Bool.false_ne_true]
    congr 3
    omega

/-! ## Blanks -/

theorem skipSpaces_cons {c : Char} (h : isSpace c = false) (cs : List Char) :
    skipSpaces (c :: cs) = c :: cs :=
  List.dropWhile_cons_of_neg (by rw [h]; exact Bool.false_ne_true)

theorem skipSpaces_line (L : Layout) (n : Nat) (cs : List Char) :
    skipSpaces (L.line n ++ cs) = skipSpaces cs :=
  List.dropWhile_append_of_pos fun _ ↦ L.isSpace_of_mem_line

theorem skipSpaces_gap (L : Layout) (cs : List Char) : skipSpaces (L.gap ++ cs) = skipSpaces cs :=
  List.dropWhile_append_of_pos fun _ ↦ L.isSpace_of_mem_gap

theorem closes_line (L : Layout) (n : Nat) (h : Closes rest) : Closes (L.line n ++ rest) := by
  cases hline : L.line n with
  | nil => exact h
  | cons c bs => exact closes_of_isSpace (L.isSpace_of_mem_line (hline ▸ List.mem_cons_self)) _

theorem readValue_congr {cs cs' : List Char} (h : skipSpaces cs = skipSpaces cs') (fuel : Nat) :
    readValue fuel cs = readValue fuel cs' := by
  cases fuel with
  | zero => rfl
  | succ fuel => rw [readValue, readValue, h]

theorem readItems_congr {cs cs' : List Char} (h : skipSpaces cs = skipSpaces cs') (fuel : Nat) :
    readItems fuel cs = readItems fuel cs' := by
  cases fuel with
  | zero => rfl
  | succ fuel => rw [readItems, readItems, readValue_congr h]

theorem readFields_congr {cs cs' : List Char} (h : skipSpaces cs = skipSpaces cs') (fuel : Nat) :
    readFields fuel cs = readFields fuel cs' := by
  cases fuel with
  | zero => rfl
  | succ fuel => rw [readFields, readFields, h]

/-! ## Values -/

/-- Whether a value may start with this character. -/
def Starts (c : Char) : Prop := isSpace c = false ∧ c ≠ ']' ∧ c ≠ '\x7d'

theorem integerChars_eq_cons (n : Int) : ∃ c cs, integerChars n = c :: cs ∧
    (c = '-' ∨ c.isDigit = true) := by
  rw [integerChars]
  split
  · exact ⟨_, _, rfl, .inl rfl⟩
  · obtain ⟨c, cs, hcs⟩ := List.exists_cons_of_ne_nil (Numeral.digits_ne_nil n.natAbs)
    exact ⟨c, cs, hcs, .inr (Numeral.isDigit_of_mem_digits (hcs ▸ List.mem_cons_self))⟩

theorem starts_of_isDigit {c : Char} (h : c.isDigit = true) : Starts c := by
  refine ⟨?_, ne_of_isDigit h rfl, ne_of_isDigit h rfl⟩
  simp [isSpace, ne_of_isDigit h (show ' '.isDigit = false from rfl),
    ne_of_isDigit h (show '\n'.isDigit = false from rfl),
    ne_of_isDigit h (show '\t'.isDigit = false from rfl),
    ne_of_isDigit h (show '\r'.isDigit = false from rfl)]

theorem starts_quote : Starts '"' := ⟨rfl, by decide, by decide⟩

theorem readValue_integerChars {n : Int} (hn : n.natAbs < tenPow 308) (h : Closes rest)
    (fuel : Nat) :
    readValue (fuel + 1) (integerChars n ++ rest) = some (.integer n, rest) := by
  have hscalar := readScalar_integerChars hn h
  obtain ⟨c, cs, hcs, hc⟩ := integerChars_eq_cons n
  have hstarts : isSpace c = false ∧ c ≠ '"' ∧ c ≠ '[' ∧ c ≠ '\x7b' := by
    rcases hc with rfl | hc
    · decide
    · exact ⟨(starts_of_isDigit hc).1, ne_of_isDigit hc rfl, ne_of_isDigit hc rfl,
        ne_of_isDigit hc rfl⟩
  obtain ⟨hspace, hquote, hbracket, hbrace⟩ := hstarts
  rw [hcs, List.cons_append] at hscalar ⊢
  rw [readValue, skipSpaces_cons hspace]
  split
  · rename_i hr
    exact absurd (List.cons.inj hr).1 hquote
  · rename_i hr
    exact absurd (List.cons.inj hr).1 hbracket
  · rename_i hr
    exact absurd (List.cons.inj hr).1 hbrace
  · exact hscalar

theorem textChars_append (s : String) :
    textChars s ++ rest = '"' :: (s.toList.flatMap escapeChar ++ '"' :: rest) := by
  rw [textChars, List.cons_append, List.cons_append, List.append_assoc]
  rfl

theorem readValue_textChars (s : String) (fuel : Nat) :
    readValue (fuel + 1) (textChars s ++ rest) = some (.text s, rest) := by
  rw [textChars_append, readValue, skipSpaces_cons (by decide)]
  show (readText (s.toList.flatMap escapeChar ++ '"' :: rest)).map _ = _
  rw [readText_flatMap, Option.map_some]
  show some (Datum.text (String.ofList s.toList), rest) = _
  rw [String.ofList_toList]

/-! ## Lists and records -/

/-- The fields as they are read, with the characters of their names. -/
def readForm (fields : List (String × Datum)) : List (Option (List Char) × Datum) :=
  fields.map fun f ↦ (some f.1.toList, f.2)

theorem recordOf_readForm (fields : List (String × Datum)) :
    recordOf (readForm fields) = .record fields := by
  have hmapM : (readForm fields).mapM
      (fun f ↦ f.1.map fun k ↦ (String.ofList k, f.2)) = some fields := by
    induction fields with
    | nil => rfl
    | cons f fields ih =>
      rw [readForm] at ih ⊢
      rw [List.map_cons, List.mapM_cons, ih]
      show some ((String.ofList f.1.toList, f.2) :: fields) = _
      rw [String.ofList_toList]
  rw [recordOf]
  split
  · rename_i l hl
    rw [Option.some.inj (hl.symm.trans hmapM)]
  · rename_i hnone
    exact nomatch hnone.symm.trans hmapM

section Parts

variable {c : Char} {cs cs' after : List Char} {fuel : Nat} {k : String} {d : Datum}
  {items : List Datum} {fields : List (String × Datum)}

theorem readValue_list (hc : Starts c) (hcs : skipSpaces cs = c :: cs')
    (h : readItems fuel cs = some (items, rest)) :
    readValue (fuel + 1) ('[' :: cs) = some (.list items, rest) := by
  rw [readItems_congr (hcs.trans (skipSpaces_cons hc.1 cs').symm)] at h
  rw [readValue, skipSpaces_cons (by decide)]
  split
  · rename_i hr
    exact absurd (List.cons.inj hr).1 (by decide)
  · rename_i hr
    rw [← (List.cons.inj hr).2, hcs]
    split
    · rename_i hr
      exact absurd (List.cons.inj hr).1 hc.2.1
    · rw [h]
      rfl
  · rename_i hr
    exact absurd (List.cons.inj hr).1 (by decide)
  · rename_i hlist _
    exact absurd rfl (hlist cs)

theorem readValue_record (hc : Starts c) (hcs : skipSpaces cs = c :: cs')
    (h : readFields fuel cs = some (readForm fields, rest)) :
    readValue (fuel + 1) ('\x7b' :: cs) = some (.record fields, rest) := by
  rw [readFields_congr (hcs.trans (skipSpaces_cons hc.1 cs').symm)] at h
  rw [readValue, skipSpaces_cons (by decide)]
  split
  · rename_i hr
    exact absurd (List.cons.inj hr).1 (by decide)
  · rename_i hr
    exact absurd (List.cons.inj hr).1 (by decide)
  · rename_i hr
    rw [← (List.cons.inj hr).2, hcs]
    split
    · rename_i hr
      exact absurd (List.cons.inj hr).1 hc.2.2
    · rw [h, Option.map_some]
      show some (recordOf (readForm fields), rest) = _
      rw [recordOf_readForm]
  · rename_i hrecord
    exact absurd rfl (hrecord cs)

theorem readItems_last (h : readValue fuel cs = some (d, after))
    (hafter : skipSpaces after = ']' :: rest) :
    readItems (fuel + 1) cs = some ([d], rest) := by
  simp [readItems, h, hafter]

theorem readItems_more (h : readValue fuel cs = some (d, ',' :: cs'))
    (h' : readItems fuel cs' = some (items, rest)) :
    readItems (fuel + 1) cs = some (d :: items, rest) := by
  rw [readItems, h]
  show (readItems fuel cs' >>= _) = _
  rw [h']
  rfl

theorem readFields_last (h : readValue fuel cs = some (d, after))
    (hafter : skipSpaces after = '\x7d' :: rest) :
    readFields (fuel + 1) (textChars k ++ ':' :: cs) = some (readForm [(k, d)], rest) := by
  rw [textChars_append, readFields, skipSpaces_cons (by decide)]
  show (readText (k.toList.flatMap escapeChar ++ '"' :: ':' :: cs) >>= _) = _
  rw [readText_flatMap]
  show (readValue fuel cs >>= _) = _
  simp [h, hafter, readForm]

theorem readFields_more (h : readValue fuel cs = some (d, ',' :: cs'))
    (h' : readFields fuel cs' = some (readForm fields, rest)) :
    readFields (fuel + 1) (textChars k ++ ':' :: cs)
      = some (readForm ((k, d) :: fields), rest) := by
  rw [textChars_append, readFields, skipSpaces_cons (by decide)]
  show (readText (k.toList.flatMap escapeChar ++ '"' :: ':' :: cs) >>= _) = _
  rw [readText_flatMap]
  show (readValue fuel cs >>= _) = _
  rw [h]
  show (readFields fuel cs' >>= _) = _
  rw [h']
  rfl

end Parts

/-! ## Layouts -/

variable {L : Layout} {n : Nat}

/-- What a plain value starts with. -/
theorem laidChars_eq_cons {d : Datum} (h : d.Plain) :
    ∃ c cs, laidChars L n d = c :: cs ∧ Starts c := by
  cases d with
  | null => exact ⟨_, _, rfl, by decide, by decide, by decide⟩
  | bool value =>
    cases value with
    | false => exact ⟨_, _, rfl, by decide, by decide, by decide⟩
    | true => exact ⟨_, _, rfl, by decide, by decide, by decide⟩
  | integer n =>
    obtain ⟨c, cs, hcs, rfl | hc⟩ := integerChars_eq_cons n
    · exact ⟨_, cs, hcs, by decide, by decide, by decide⟩
    · exact ⟨c, cs, hcs, starts_of_isDigit hc⟩
  | text s => exact ⟨_, _, rfl, by decide, by decide, by decide⟩
  | list items =>
    cases items with
    | nil => exact ⟨_, _, rfl, by decide, by decide, by decide⟩
    | cons d items => exact ⟨_, _, rfl, by decide, by decide, by decide⟩
  | record fields =>
    cases fields with
    | nil => exact ⟨_, _, rfl, by decide, by decide, by decide⟩
    | cons f fields => exact ⟨_, _, rfl, by decide, by decide, by decide⟩
  | real _ | date _ | openList _ | unreadable => exact h.elim

theorem laidItems_cons (d e : Datum) (items : List Datum) : laidItems L n (d :: e :: items)
    = L.line n ++ laidChars L n d ++ ',' :: laidItems L n (e :: items) := rfl

theorem laidFields_cons (k : String) (d : Datum) (f : String × Datum)
    (fields : List (String × Datum)) : laidFields L n ((k, d) :: f :: fields)
      = L.line n ++ textChars k ++ ':' :: L.gap ++ laidChars L n d
        ++ ',' :: laidFields L n (f :: fields) := rfl

/-- Behind its blanks the first item starts. -/
theorem skipSpaces_laidItems {d : Datum} (hd : d.Plain) (items : List Datum) (after : List Char) :
    ∃ c cs, skipSpaces (laidItems L n (d :: items) ++ after) = c :: cs ∧ Starts c := by
  obtain ⟨c, cs, hcs, hc⟩ := laidChars_eq_cons (L := L) (n := n) hd
  obtain ⟨more, hmore⟩ : ∃ more,
      laidItems L n (d :: items) ++ after = L.line n ++ c :: (cs ++ more) := by
    cases items with
    | nil => exact ⟨after, by simp [laidItems, hcs]⟩
    | cons e items =>
      exact ⟨',' :: laidItems L n (e :: items) ++ after, by simp [laidItems_cons, hcs]⟩
  rw [hmore, skipSpaces_line]
  exact ⟨c, _, skipSpaces_cons hc.1 _, hc⟩

theorem skipSpaces_laidFields (f : String × Datum) (fields : List (String × Datum))
    (after : List Char) :
    ∃ cs, skipSpaces (laidFields L n (f :: fields) ++ after) = '"' :: cs := by
  obtain ⟨more, hmore⟩ : ∃ more,
      laidFields L n (f :: fields) ++ after = L.line n ++ '"' :: more := by
    cases fields with
    | nil =>
      rw [laidFields, List.append_assoc, List.append_assoc, List.append_assoc]
      exact ⟨_, rfl⟩
    | cons g fields =>
      rw [laidFields_cons, List.append_assoc, List.append_assoc, List.append_assoc,
        List.append_assoc]
      exact ⟨_, rfl⟩
  rw [hmore, skipSpaces_line]
  exact ⟨_, skipSpaces_cons (by decide) _⟩

mutual

/-- A plain value is read off the front of a text that goes on behind it. -/
theorem readValue_laidChars {n : Nat} {d : Datum} (hd : d.Plain) {rest : List Char}
    (h : Closes rest) {fuel : Nat} (hfuel : (laidChars L n d).length < fuel) :
    readValue fuel (laidChars L n d ++ rest) = some (d, rest) := by
  obtain ⟨fuel, rfl⟩ := Nat.exists_eq_succ_of_ne_zero (Nat.ne_zero_of_lt hfuel)
  cases d with
  | null => rfl
  | bool value =>
    cases value with
    | false => rfl
    | true => rfl
  | integer n => exact readValue_integerChars hd h fuel
  | text s => exact readValue_textChars s fuel
  | list items =>
    cases items with
    | nil => rfl
    | cons d items =>
      have hroom : (laidItems L (n + 1) (d :: items)).length + 1 < fuel := by
        simp [laidChars] at hfuel
        omega
      obtain ⟨c, cs, hcs, hc⟩ :=
        skipSpaces_laidItems (L := L) (n := n + 1) hd.1 items (L.line n ++ ']' :: rest)
      have hitems := readItems_laidItems (n := n + 1) hd (List.cons_ne_nil d items)
        (closes_line L n (closes_cons (by decide) rest))
        (skipSpaces_line L n (']' :: rest)) hroom
      simpa [laidChars] using readValue_list hc hcs hitems
  | record fields =>
    cases fields with
    | nil => rfl
    | cons f fields =>
      have hroom : (laidFields L (n + 1) (f :: fields)).length + 1 < fuel := by
        simp [laidChars] at hfuel
        omega
      obtain ⟨cs, hcs⟩ :=
        skipSpaces_laidFields (L := L) (n := n + 1) f fields (L.line n ++ '\x7d' :: rest)
      have hfields := readFields_laidFields (n := n + 1) hd (List.cons_ne_nil f fields)
        (closes_line L n (closes_cons (by decide) rest))
        (skipSpaces_line L n ('\x7d' :: rest)) hroom
      simpa [laidChars] using readValue_record starts_quote hcs hfields
  | real _ | date _ | openList _ | unreadable => exact hd.elim

theorem readItems_laidItems {n : Nat} {items : List Datum} (hitems : Datum.ItemsPlain items)
    (hne : items ≠ []) {after rest : List Char} (h : Closes after)
    (hafter : skipSpaces after = ']' :: rest) {fuel : Nat}
    (hfuel : (laidItems L n items).length + 1 < fuel) :
    readItems fuel (laidItems L n items ++ after) = some (items, rest) := by
  obtain ⟨fuel, rfl⟩ := Nat.exists_eq_succ_of_ne_zero (Nat.ne_zero_of_lt hfuel)
  match items with
  | [d] =>
    rw [laidItems, List.length_append] at hfuel
    rw [laidItems, List.append_assoc,
      readItems_congr (skipSpaces_line L n _)]
    exact readItems_last (readValue_laidChars hitems.1 h (by omega)) hafter
  | d :: e :: items =>
    rw [laidItems_cons, List.length_append, List.length_append, List.length_cons] at hfuel
    rw [laidItems_cons, List.append_assoc, List.append_assoc, List.cons_append,
      readItems_congr (skipSpaces_line L n _)]
    refine readItems_more
      (readValue_laidChars hitems.1 (closes_cons (by decide) _) (by omega)) ?_
    exact readItems_laidItems hitems.2 (List.cons_ne_nil e items) h hafter (by omega)

theorem readFields_laidFields {n : Nat} {fields : List (String × Datum)}
    (hfields : Datum.FieldsPlain fields) (hne : fields ≠ []) {after rest : List Char}
    (h : Closes after) (hafter : skipSpaces after = '\x7d' :: rest) {fuel : Nat}
    (hfuel : (laidFields L n fields).length + 1 < fuel) :
    readFields fuel (laidFields L n fields ++ after) = some (readForm fields, rest) := by
  obtain ⟨fuel, rfl⟩ := Nat.exists_eq_succ_of_ne_zero (Nat.ne_zero_of_lt hfuel)
  match fields with
  | [(k, d)] =>
    simp only [laidFields, List.length_append, List.length_cons] at hfuel
    simp only [laidFields, List.append_assoc, List.cons_append]
    rw [readFields_congr (skipSpaces_line L n _)]
    refine readFields_last ?_ hafter
    rw [readValue_congr (skipSpaces_gap L _)]
    exact readValue_laidChars hfields.1 h (by omega)
  | (k, d) :: f :: fields =>
    simp only [laidFields_cons, List.length_append, List.length_cons] at hfuel
    simp only [laidFields_cons, List.append_assoc, List.cons_append]
    rw [readFields_congr (skipSpaces_line L n _)]
    have hrest := readFields_laidFields hfields.2 (List.cons_ne_nil f fields) h hafter
      (show (laidFields L n (f :: fields)).length + 1 < fuel by omega)
    refine readFields_more ?_ hrest
    rw [readValue_congr (skipSpaces_gap L _)]
    exact readValue_laidChars hfields.1 (closes_cons (by decide) _) (by omega)

end

/-- **Reading undoes writing**, in whatever layout. -/
theorem parseChars?_laidChars {d : Datum} (hd : d.Plain) (L : Layout) (n : Nat) :
    parseChars? (laidChars L n d) = some d := by
  have hread := readValue_laidChars hd closes_nil (Nat.lt_succ_self (laidChars L n d).length)
  rw [List.append_nil] at hread
  rw [parseChars?, hread]
  rfl

theorem parseChars?_compactChars {d : Datum} (hd : d.Plain) :
    parseChars? (compactChars d) = some d := by
  rw [← laidChars_compact 0]
  exact parseChars?_laidChars hd .compact 0

section Values

variable {α : Type} [Codec α] {a : α}

/-- What the compact form of a value is read as. -/
theorem decode?_compact (h : (Codec.encode a).Plain) :
    decode? (compact (Codec.encode a)) = (Codec.decode? (Codec.encode a) : Option α) := by
  rw [decode?, parse?, compact, String.toList_ofList, parseChars?_compactChars h, Option.bind_some]

/-- What the form for reading of a value is read as. -/
theorem decode?_pretty (h : (Codec.encode a).Plain) :
    decode? (pretty (Codec.encode a)) = (Codec.decode? (Codec.encode a) : Option α) := by
  rw [decode?, parse?, pretty, String.toList_ofList, ← laidChars_forReading,
    parseChars?_laidChars h, Option.bind_some]

end Values

end Json

end Tokenomics

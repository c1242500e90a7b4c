import Tokenomics.Proofs.Coin.Validity
import Tokenomics.Proofs.Text.Numeral
import Tokenomics.Proofs.Text.Pieces

/-!
# The texts of coins

Coins can be written in more than one way: with zeros in front of an amount, and with blanks around
every coin. `Coin.SpelledBy` says what the texts of a coin are, without reference to how they are
taken apart, and reading accepts exactly these (`Coin.ofChars?_eq_some`). That the digits of the
amount are all that stands in front of the denomination follows from its first character, which is a
letter; so a text spells one coin at most, although a denomination has digits of its own.

A text of coins is blank, or else every piece of it between commas spells a coin
(`Coins.ofText_eq_ok`). Coins are written with commas between them, and when every denomination is
well formed there are no other commas in the text; so it is read as the same coins in the same order
(`Coins.ofText_text`), whether they are valid as a list or not.
-/

namespace Tokenomics

/-! ## Characters and amounts -/

theorem isAlpha_iff {c : Char} : c.isAlpha = true ↔
    0x41 ≤ c.toNat ∧ c.toNat ≤ 0x5A ∨ 0x61 ≤ c.toNat ∧ c.toNat ≤ 0x7A := by
  show (decide (c.val ≥ 65 ∧ c.val ≤ 90) || decide (c.val ≥ 97) && decide (c.val ≤ 122)) = true ↔ _
  simp [UInt32.le_iff_toNat_le, ← Char.toNat_val]

theorem isDigit_iff {c : Char} : c.isDigit = true ↔ 0x30 ≤ c.toNat ∧ c.toNat ≤ 0x39 := by
  simp [Char.isDigit, UInt32.le_iff_toNat_le, ← Char.toNat_val]

theorem isDigit_of_isAlpha {c : Char} (h : c.isAlpha = true) : c.isDigit = false := by
  rw [← Bool.not_eq_true, isDigit_iff]
  have hrange := isAlpha_iff.mp h
  omega

/-- What stands in a denomination comes after the comma and is no later than the last letter. -/
theorem toNat_of_isDenomChar {c : Char} (h : isDenomChar c = true) :
    0x2C < c.toNat ∧ c.toNat ≤ 0x7A := by
  simp only [isDenomChar, Bool.or_eq_true, isAlpha_iff, isDigit_iff, decide_eq_true_eq] at h
  rcases h with (((((h | h) | rfl) | rfl) | rfl) | rfl) | rfl
  · omega
  · omega
  all_goals decide

theorem isBlank_of_isDenomChar {c : Char} (h : isDenomChar c = true) : Text.isBlank c = false := by
  obtain ⟨hlow, hhigh⟩ := toNat_of_isDenomChar h
  simp [Text.isBlank]
  omega

theorem Amount.ofNat?_toNat (n : Amount) : ofNat? n.toNat = some n := dif_pos n.toNat_lt

theorem Amount.ofNat?_eq_some {n : Nat} {a : Amount} : ofNat? n = some a ↔ a.toNat = n := by
  constructor
  · intro h
    rw [ofNat?] at h
    split at h
    · rw [← Option.some.inj h]
    · cases h
  · rintro rfl
    exact ofNat?_toNat a

/-! ## One coin -/

namespace Coin

variable {c : Coin} {piece : List Char}

theorem isDenomChar_of_mem_chars (h : isDenom c.denom = true) {x : Char} (hx : x ∈ c.chars) :
    isDenomChar x = true := by
  rcases List.mem_append.mp hx with hx | hx
  · rw [isDenomChar, Numeral.isDigit_of_mem_digits hx]
    simp
  · rw [isDenom] at h
    cases hdenom : c.denom.toList with
    | nil =>
      rw [hdenom] at hx
      exact absurd hx List.not_mem_nil
    | cons first rest =>
      rw [hdenom] at h hx
      simp only [isDenomChars, Bool.and_eq_true, List.all_eq_true] at h
      obtain ⟨⟨⟨hfirst, hrest⟩, -⟩, -⟩ := h
      rcases List.mem_cons.mp hx with rfl | hx
      · rw [isDenomChar, hfirst]
        simp
      · exact hrest x hx

theorem isDigit_of_head? (h : isDenom c.denom = true) (x : Char)
    (hx : c.denom.toList.head? = some x) : x.isDigit = false := by
  rw [isDenom] at h
  cases hdenom : c.denom.toList with
  | nil =>
    rw [hdenom] at hx
    exact nomatch hx
  | cons first rest =>
    rw [hdenom] at h hx
    simp only [isDenomChars, Bool.and_eq_true] at h
    rw [← Option.some.inj hx]
    exact isDigit_of_isAlpha h.1.1.1

/-- What spells a coin: the digits of its amount, one at least and maybe with zeros in front, and
its denomination directly behind them, which is well formed. Blanks around that do not count. -/
def SpelledBy (c : Coin) (piece : List Char) : Prop :=
  ∃ digits, digits ≠ [] ∧ (∀ x ∈ digits, x.isDigit = true) ∧
    Numeral.value digits = c.amount.toNat ∧ checkDenom c.denom = .ok () ∧
    Text.trimChars piece = digits ++ c.denom.toList

/-- Reading accepts what spells a coin, and reads that coin. -/
theorem ofChars?_eq_some : ofChars? piece = some c ↔ c.SpelledBy piece := by
  rw [ofChars?]
  constructor
  · intro h
    split at h
    · rename_i hdenom
      obtain ⟨amount, hamount, rfl⟩ := Option.map_eq_some_iff.mp h
      obtain ⟨n, hn, hamount⟩ := Option.bind_eq_some_iff.mp hamount
      obtain ⟨hne, hdigits, rfl⟩ := Numeral.natural?_eq_some.mp hn
      refine ⟨_, hne, hdigits, (Amount.ofNat?_eq_some.mp hamount).symm, ?_, ?_⟩
      · rw [Coins.checkDenom_eq_ok, isDenom, String.toList_ofList]
        exact hdenom
      · rw [String.toList_ofList, List.takeWhile_append_dropWhile]
    · exact nomatch h
  · rintro ⟨digits, hne, hdigits, hvalue, hdenom, htrim⟩
    rw [Coins.checkDenom_eq_ok] at hdenom
    have hletter := isDigit_of_head? hdenom
    have hamount : (Numeral.natural? digits).bind Amount.ofNat? = some c.amount := by
      rw [Numeral.natural?_eq_some.mpr ⟨hne, hdigits, rfl⟩]
      exact Amount.ofNat?_eq_some.mpr hvalue.symm
    rw [htrim, Numeral.takeWhile_isDigit_append hdigits hletter,
      Numeral.dropWhile_isDigit_append hdigits hletter, hamount, String.ofList_toList]
    exact if_pos hdenom

theorem ofChars_eq_ok : ofChars piece = .ok c ↔ c.SpelledBy piece := by
  rw [← ofChars?_eq_some, ofChars]
  cases ofChars? piece with
  | none => exact iff_of_false nofun nofun
  | some b => rw [Except.ok.injEq, Option.some.injEq]

/-- What spells a coin is not blank. -/
theorem SpelledBy.exists_not_blank (h : c.SpelledBy piece) :
    ∃ x ∈ piece, Text.isBlank x = false := by
  obtain ⟨digits, hne, hdigits, -, -, htrim⟩ := h
  obtain ⟨x, rest, rfl⟩ := List.exists_cons_of_ne_nil hne
  have hx : x ∈ Text.trimChars piece := by
    rw [htrim]
    exact List.mem_append_left _ List.mem_cons_self
  refine ⟨x, Text.mem_of_mem_trimChars hx, isBlank_of_isDenomChar ?_⟩
  rw [isDenomChar, hdigits x List.mem_cons_self]
  simp

/-- What is written for a coin spells it. -/
theorem spelledBy_chars (h : isDenom c.denom = true) : c.SpelledBy c.chars := by
  have htrim : Text.trimChars c.chars = c.chars :=
    Text.trimChars_of_forall fun x hx ↦ isBlank_of_isDenomChar (isDenomChar_of_mem_chars h hx)
  refine ⟨Numeral.digits c.amount.toNat, Numeral.digits_ne_nil _, ?_, Numeral.value_digits _,
    Coins.checkDenom_eq_ok.mpr h, htrim⟩
  exact fun x hx ↦ Numeral.isDigit_of_mem_digits hx

end Coin

/-! ## A text of coins -/

namespace Coins

variable {cs : Coins} {s : String}

/-- Reading accepts blank texts, and those of which every piece between commas spells a coin. -/
theorem ofText_eq_ok : ofText s = .ok cs ↔ Text.allBlank s = true ∧ cs = empty ∨
    List.Forall₂ (fun piece c ↦ Coin.SpelledBy c piece) (Text.splitChars ',' s.toList)
      cs.toList := by
  rw [ofText]
  split
  · rename_i hblank
    have hnone : ¬ List.Forall₂ (fun piece c ↦ Coin.SpelledBy c piece)
        (Text.splitChars ',' s.toList) cs.toList := by
      intro h
      obtain ⟨piece, pieces, hpieces⟩ :=
        List.exists_cons_of_ne_nil (Text.splitChars_ne_nil ',' s.toList)
      rw [hpieces, List.forall₂_cons_left_iff] at h
      obtain ⟨c, rest, hc, -, -⟩ := h
      obtain ⟨x, hx, hnotBlank⟩ := hc.exists_not_blank
      have hmem : x ∈ s.toList :=
        Text.mem_of_mem_splitChars hx (hpieces ▸ List.mem_cons_self)
      exact Bool.false_ne_true (hnotBlank.symm.trans (List.all_eq_true.mp hblank x hmem))
    simp [hblank, hnone, eq_comm]
  · rename_i hblank
    rw [or_iff_right fun h ↦ hblank h.1, bind_eq_ok]
    simp only [mapM_eq_ok, Coin.ofChars_eq_ok]
    constructor
    · rintro ⟨l, hl, h⟩
      rw [← Except.ok.inj h]
      exact hl
    · intro h
      exact ⟨cs.toList, h, rfl⟩

/-- **Reading coins undoes writing them** when their denominations are well formed. -/
theorem ofText_text {cs : Coins} (h : ∀ c ∈ cs.toList, isDenom c.denom = true) :
    ofText cs.text = .ok cs := by
  obtain ⟨l⟩ := cs
  rw [ofText_eq_ok]
  cases l with
  | nil => exact .inl ⟨rfl, rfl⟩
  | cons c l =>
    have hcomma : ∀ piece ∈ (c :: l).map Coin.chars, ',' ∉ piece := by
      intro piece hpiece hx
      obtain ⟨b, hb, rfl⟩ := List.mem_map.mp hpiece
      exact absurd (Coin.isDenomChar_of_mem_chars (h b hb) hx) (by decide)
    have hsplit : Text.splitChars ',' (text ⟨c :: l⟩).toList = (c :: l).map Coin.chars := by
      rw [text, String.toList_ofList]
      exact Text.splitChars_joinChars (List.cons_ne_nil _ _) hcomma
    refine .inr ?_
    rw [hsplit, List.forall₂_map_left_iff, List.forall₂_same]
    exact fun b hb ↦ Coin.spelledBy_chars (h b hb)

/-- Coins that have been read have well formed denominations. -/
theorem denom_of_ofText (h : ofText s = .ok cs) : ∀ c ∈ cs.toList, checkDenom c.denom = .ok () := by
  rcases ofText_eq_ok.mp h with ⟨-, rfl⟩ | hspelled
  · exact fun c hc ↦ absurd hc List.not_mem_nil
  · intro c hc
    have hread := mapM_eq_ok.mpr (hspelled.imp fun _ _ ↦ Coin.ofChars_eq_ok.mpr)
    obtain ⟨piece, -, hpiece⟩ := exists_of_mem_mapM hread hc
    obtain ⟨-, -, -, -, hdenom, -⟩ := Coin.ofChars_eq_ok.mp hpiece
    exact hdenom

/-- What is promised of coins as texts. -/
structure LosslessText : Prop where
  /-- Valid as a list or not, coins with well formed denominations are read as they were written. -/
  restored : ∀ cs : Coins, (∀ c ∈ cs.toList, checkDenom c.denom = .ok ()) → ofText cs.text = .ok cs
  accepted : ∀ s, (∃ cs, ofText s = .ok cs) ↔ Text.allBlank s = true ∨
    ∀ piece ∈ Text.splitChars ',' s.toList, ∃ c : Coin, c.SpelledBy piece
  /-- Piece by piece, coins are read as they are spelled. -/
  read : ∀ s cs, ofText s = .ok cs ↔ Text.allBlank s = true ∧ cs = empty ∨
    List.Forall₂ (fun piece c ↦ Coin.SpelledBy c piece) (Text.splitChars ',' s.toList) cs.toList
  /-- Whatever the text they were read from, the text that is written for them is read as them. -/
  stable : ∀ s cs, ofText s = .ok cs →
    (∀ c ∈ cs.toList, checkDenom c.denom = .ok ()) ∧ ofText cs.text = .ok cs

/-- **Coins and their texts stand for each other**: nothing is lost by writing coins and reading
them again, and reading accepts the texts of coins and no others. -/
theorem text_lossless : LosslessText := by
  have hrestored (cs : Coins) (h : ∀ c ∈ cs.toList, checkDenom c.denom = .ok ()) :
      ofText cs.text = .ok cs :=
    ofText_text fun c hc ↦ checkDenom_eq_ok.mp (h c hc)
  constructor
  case restored => exact hrestored
  case accepted =>
    intro s
    simp only [ofText_eq_ok, ← exists_forall₂]
    constructor
    · rintro ⟨cs, ⟨hblank, -⟩ | hspelled⟩
      · exact .inl hblank
      · exact .inr ⟨cs.toList, hspelled⟩
    · rintro (hblank | ⟨l, hspelled⟩)
      · exact ⟨empty, .inl ⟨hblank, rfl⟩⟩
      · exact ⟨⟨l⟩, .inr hspelled⟩
  case read => exact fun s cs ↦ ofText_eq_ok
  case stable => exact fun s cs h ↦ ⟨denom_of_ofText h, hrestored cs (denom_of_ofText h)⟩

/-- Zeros in front and blanks are lost, and digits behind a letter belong to the denomination. -/
example : (ofText " 007uom, 3ab1").toOption.map text = some "7uom,3ab1" := by decide

end Coins

end Tokenomics

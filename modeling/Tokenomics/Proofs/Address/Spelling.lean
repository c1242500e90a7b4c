import Tokenomics.Proofs.Address.Text

/-!
# What spells an address

An address has more than one spelling, since a hexadecimal digit may be of either case, and one of
them is written. Reading accepts the spellings, `SpelledWith`, and nothing else; of what is wrong
with any other text, `Flaw` says what is reported, and every text is one or the other
(`spelled_or_flawed`).

Reading looks at bytes and a text has characters. Where all bytes are digits there is no difference:
of the bytes of a character only the first can be a digit, so a character that is digits throughout
has one byte and is that digit (`mem_hexDigits_iff`). A character that takes more bytes spoils the
text at its first one.

The digits of a byte are in order, the higher one first. So the texts are ordered as the bytes are
(`text_lt_text`).
-/

namespace Tokenomics.Address

variable {s : String} {ds cs : List Char} {d c : Char} {b : UInt8} {bs bs' early late : List UInt8}
  {e : AddressError} {n : Nat}

/-! ## Digits -/

/-- The hexadecimal digits, in either case. -/
def hexDigits : List Char :=
  ['0', '1', '2', '3', '4', '5', '6', '7', '8', '9', 'a', 'b', 'c', 'd', 'e', 'f', 'A', 'B', 'C',
    'D', 'E', 'F']

/-- The hexadecimal digits as bytes. -/
def hexBytes : List UInt8 := hexDigits.map Char.toUInt8

/-- What has been checked digit by digit. -/
theorem of_all_hexDigits {P : Char → Prop} [DecidablePred P] (h : hexDigits.all (P ·) = true)
    (hd : d ∈ hexDigits) : P d :=
  of_decide_eq_true (List.all_eq_true.mp h d hd)

theorem utf8Size_of_mem_hexDigits (hd : d ∈ hexDigits) : d.utf8Size = 1 :=
  of_all_hexDigits (P := fun d ↦ d.utf8Size = 1) (by decide) hd

/-- A digit is read as its value, which is written as the digit in lower case. -/
theorem exists_nibble (hd : d ∈ hexDigits) (index : Nat) : ∃ m : UInt8,
    nibble index d.toUInt8 = .ok m ∧ m.toNat < 16 ∧ hexDigit m.toNat = d.toLower := by
  have hread := of_all_hexDigits (P := fun d ↦ (nibble? d.toUInt8).any
    (fun m ↦ m.toNat < 16 ∧ hexDigit m.toNat = d.toLower) = true) (by decide) hd
  obtain ⟨m, hm, hvalue⟩ := (Option.any_eq_true _ _).mp hread
  refine ⟨m, ?_, of_decide_eq_true hvalue⟩
  rw [nibble, hm]

theorem nibble?_eq_none (hb : b ∉ hexBytes) : nibble? b = none := by
  have hall : ∀ n < 256, UInt8.ofNat n ∈ hexBytes ∨ nibble? (.ofNat n) = none := by decide +kernel
  have hbyte := hall b.toNat b.toNat_lt
  rw [UInt8.ofNat_toNat] at hbyte
  exact hbyte.resolve_left hb

theorem nibble_eq_error (hb : b ∉ hexBytes) (index : Nat) :
    nibble index b = .error (.invalidHex b index) := by
  rw [nibble, nibble?_eq_none hb]

theorem exists_nibble_of_mem_hexBytes (hb : b ∈ hexBytes) (index : Nat) :
    ∃ m, nibble index b = .ok m := by
  obtain ⟨d, hd, rfl⟩ := List.mem_map.mp hb
  obtain ⟨m, hm, -⟩ := exists_nibble hd index
  exact ⟨m, hm⟩

/-- The digits of a byte that is put together from two values. -/
theorem byteDigits_combine {h l : UInt8} (hh : h.toNat < 16) (hl : l.toNat < 16) :
    byteDigits (16 * h + l) = [hexDigit h.toNat, hexDigit l.toNat] := by
  have htoNat : (16 * h + l).toNat = 16 * h.toNat + l.toNat := by
    rw [UInt8.toNat_add, UInt8.toNat_mul, show (16 : UInt8).toNat = 16 from rfl]
    omega
  rw [byteDigits, htoNat, show (16 * h.toNat + l.toNat) / 16 = h.toNat by omega,
    show (16 * h.toNat + l.toNat) % 16 = l.toNat by omega]

/-- Pairs of digits are read as bytes, whose digits they are, up to their case. -/
theorem exists_readPairs (hds : ∀ d ∈ ds, d ∈ hexDigits) (hlength : ds.length = 2 * n)
    (index : Nat) : ∃ bs, readPairs index (ds.map Char.toUInt8) = .ok bs ∧ bs.length = n ∧
      hex bs = ds.map Char.toLower := by
  induction n generalizing ds index with
  | zero =>
    rw [List.eq_nil_of_length_eq_zero hlength]
    exact ⟨[], rfl, rfl, rfl⟩
  | succ n ih =>
    obtain ⟨high, ds, rfl⟩ := List.exists_cons_of_length_eq_add_one hlength
    obtain ⟨low, ds, rfl⟩ := List.exists_cons_of_length_eq_add_one (Nat.succ.inj hlength)
    rw [List.forall_mem_cons, List.forall_mem_cons] at hds
    obtain ⟨h, hread, hh, hhigh⟩ := exists_nibble hds.1 index
    obtain ⟨l, hread', hl, hlow⟩ := exists_nibble hds.2.1 (index + 1)
    obtain ⟨bs, hbs, hcount, hhex⟩ := ih hds.2.2 (Nat.succ.inj (Nat.succ.inj hlength)) (index + 2)
    refine ⟨(16 * h + l) :: bs, ?_, congrArg _ hcount, ?_⟩
    · rw [List.map_cons, List.map_cons, readPairs, hread, hread', hbs]
      rfl
    · rw [hex, List.flatMap_cons, byteDigits_combine hh hl, hhigh, hlow]
      exact congrArg ([_, _] ++ ·) hhex

/-- Reading pairs stops at the first byte that is no digit. -/
theorem readPairs_eq_error (hearly : ∀ d ∈ early, d ∈ hexBytes) (hb : b ∉ hexBytes)
    (hlength : (early ++ b :: late).length = 2 * n) (index : Nat) :
    readPairs index (early ++ b :: late) = .error (.invalidHex b (index + early.length)) := by
  induction n generalizing early index with
  | zero =>
    rw [List.length_append, List.length_cons] at hlength
    omega
  | succ n ih =>
    cases early with
    | nil =>
      obtain ⟨low, late, rfl⟩ := List.exists_cons_of_length_eq_add_one (Nat.succ.inj hlength)
      rw [List.nil_append, readPairs, nibble_eq_error hb]
      rfl
    | cons high early =>
      obtain ⟨hhigh, hearly⟩ := List.forall_mem_cons.mp hearly
      obtain ⟨h, hread⟩ := exists_nibble_of_mem_hexBytes hhigh index
      cases early with
      | nil =>
        rw [List.cons_append, List.nil_append, readPairs, hread, nibble_eq_error hb]
        rfl
      | cons low early =>
        obtain ⟨hlow, hearly⟩ := List.forall_mem_cons.mp hearly
        obtain ⟨l, hread'⟩ := exists_nibble_of_mem_hexBytes hlow (index + 1)
        have hrest := ih hearly (Nat.succ.inj (Nat.succ.inj hlength)) (index + 2)
        rw [List.cons_append, List.cons_append, readPairs, hread, hread', hrest, List.length_cons,
          List.length_cons, Nat.add_right_comm, Nat.add_assoc]
        rfl

/-- Bytes are all digits, or one of them is the first that is none. -/
theorem digits_or_first (bs : List UInt8) : (∀ b ∈ bs, b ∈ hexBytes) ∨
    ∃ early b late, bs = early ++ b :: late ∧ (∀ d ∈ early, d ∈ hexBytes) ∧ b ∉ hexBytes := by
  cases hfind : bs.find? fun b ↦ decide (b ∉ hexBytes) with
  | none =>
    left
    intro b hb
    simpa using List.find?_eq_none.mp hfind b hb
  | some b =>
    right
    obtain ⟨hb, early, late, rfl, hearly⟩ := List.find?_eq_some_iff_append.mp hfind
    exact ⟨early, b, late, rfl, by simpa using hearly, of_decide_eq_true hb⟩

/-! ## Characters and bytes -/

theorem isUTF8FirstByte_of_mem_hexBytes (hb : b ∈ hexBytes) : b.IsUTF8FirstByte := by
  obtain ⟨d, hd, rfl⟩ := List.mem_map.mp hb
  exact of_all_hexDigits (P := fun d ↦ d.toUInt8.IsUTF8FirstByte) (by decide) hd

/-- A character that is digits throughout is one digit. -/
theorem mem_hexDigits_iff : c ∈ hexDigits ↔ ∀ b ∈ String.utf8EncodeChar c, b ∈ hexBytes := by
  constructor
  · intro hc
    rw [String.utf8EncodeChar_eq_singleton (utf8Size_of_mem_hexDigits hc),
      List.forall_mem_singleton]
    exact List.mem_map_of_mem hc
  · intro hbytes
    have hsize : c.utf8Size = 1 := by
      apply Nat.le_antisymm _ c.utf8Size_pos
      apply Nat.le_of_not_lt
      intro hmore
      -- the second byte continues the character, and no digit does
      rw [← String.length_utf8EncodeChar] at hmore
      have hsecond := isUTF8FirstByte_of_mem_hexBytes (hbytes _ (List.getElem_mem hmore))
      rw [UInt8.isUTF8FirstByte_getElem_utf8EncodeChar] at hsecond
      exact nomatch hsecond
    have hascii : c.toNat < 128 := by
      rw [Char.utf8Size_eq_one_iff, UInt32.le_iff_toNat_le] at hsize
      exact Nat.lt_succ_of_le hsize
    rw [String.utf8EncodeChar_eq_singleton hsize, List.forall_mem_singleton] at hbytes
    obtain ⟨d, hd, heq⟩ := List.mem_map.mp hbytes
    have hascii' : d.toNat < 128 :=
      of_all_hexDigits (P := fun d ↦ d.toNat < 128) (by decide) hd
    have htoNat : d.toNat % 256 = c.toNat % 256 := congrArg UInt8.toNat heq
    rw [Nat.mod_eq_of_lt (by omega), Nat.mod_eq_of_lt (by omega)] at htoNat
    rwa [← Char.toNat_inj.mp htoNat]

/-! ## Texts -/

/-- What spells an address: the prefix and 64 digits of either case. -/
structure SpelledWith (s : String) (ds : List Char) : Prop where
  text : s = textPrefix ++ String.ofList ds
  length : ds.length = 64
  digits : ∀ d ∈ ds, d ∈ hexDigits

/-- What is wrong with a text. Its beginning is looked at first, then the number of its bytes, and
the bytes behind the prefix last: the first of them that is no digit is told. -/
inductive Flaw (s : String) : AddressError → Prop
  | beginning (h : ¬ textPrefix.toList <+: s.toList) : Flaw s .invalidPrefix
  | length (hstart : textPrefix.toList <+: s.toList) (h : s.utf8ByteSize ≠ 68) :
      Flaw s (.invalidLength s.utf8ByteSize)
  | digit {early late : List UInt8} {b : UInt8} (hstart : textPrefix.toList <+: s.toList)
      (hlength : s.utf8ByteSize = 68)
      (hbytes : s.toUTF8.data.toList = textPrefix.toUTF8.data.toList ++ (early ++ b :: late))
      (hearly : ∀ d ∈ early, d ∈ hexBytes) (hb : b ∉ hexBytes) :
      Flaw s (.invalidHex b early.length)

/-- The bytes of a text that begins with the prefix. -/
theorem toList_toUTF8_of_prefix (h : s.toList = textPrefix.toList ++ cs) :
    s.toUTF8.data.toList
      = textPrefix.toUTF8.data.toList ++ cs.flatMap String.utf8EncodeChar := by
  rw [toList_toUTF8_eq, toList_toUTF8_eq, h, List.flatMap_append]

section Bytes

variable (hbytes : s.toUTF8.data.toList = textPrefix.toUTF8.data.toList ++ bs)
include hbytes

theorem utf8ByteSize_of_bytes : s.utf8ByteSize = 4 + bs.length := by
  have hsize := congrArg List.length hbytes
  rw [List.length_append] at hsize
  exact hsize

/-- What is left to be read behind the prefix when there are as many bytes as there should be. -/
theorem ofText_of_bytes (hstart : textPrefix.toList <+: s.toList) (hlength : bs.length = 64) :
    ofText s = readPairs 0 bs >>= fun bytes ↦
      if h : bytes.length = 32 then .ok ⟨⟨bytes.toArray, h⟩⟩ else .error .invalidPayloadLength := by
  have hsize : s.utf8ByteSize = textLength := by
    rw [utf8ByteSize_of_bytes hbytes, hlength]
    rfl
  have hfour : textPrefix.toUTF8.data.toList.length = 4 := by decide
  rw [ofText, List.isPrefixOf_iff_prefix.mpr hstart, Bool.not_true, if_neg Bool.false_ne_true,
    if_neg (not_not_intro hsize), hbytes, List.drop_left' hfour]
  rfl

end Bytes

/-- What spells an address is read as the address that is written with the same digits in lower
case. -/
theorem exists_ofText (h : SpelledWith s ds) : ∃ a, ofText s = .ok a ∧
    a.text = textPrefix ++ String.ofList (ds.map Char.toLower) := by
  have hchars : s.toList = textPrefix.toList ++ ds := by
    rw [h.text, String.toList_append, String.toList_ofList]
  have hbytes := toList_toUTF8_of_prefix hchars
  rw [flatMap_utf8EncodeChar fun d hd ↦ utf8Size_of_mem_hexDigits (h.digits d hd)] at hbytes
  have hlength : (ds.map Char.toUInt8).length = 64 := by rw [List.length_map, h.length]
  obtain ⟨bytes, hread, hcount, hhex⟩ := exists_readPairs (n := 32) h.digits h.length 0
  refine ⟨⟨⟨bytes.toArray, hcount⟩⟩, ?_, ?_⟩
  · rw [ofText_of_bytes hbytes ⟨ds, hchars.symm⟩ hlength, hread]
    exact dif_pos hcount
  · rw [text, ← hhex]
    rfl

theorem ofText_of_flaw (h : Flaw s e) : ofText s = .error e := by
  cases h with
  | beginning h =>
    have hstart : textPrefix.toList.isPrefixOf s.toList = false := by
      rwa [Bool.eq_false_iff, Ne, List.isPrefixOf_iff_prefix]
    rw [ofText, hstart, Bool.not_false, if_pos rfl]
  | length hstart h =>
    have hsize : s.utf8ByteSize ≠ textLength := h
    rw [ofText, List.isPrefixOf_iff_prefix.mpr hstart, Bool.not_true,
      if_neg Bool.false_ne_true, if_pos hsize]
  | digit hstart hlength hbytes hearly hb =>
    rw [utf8ByteSize_of_bytes hbytes] at hlength
    have hcount := Nat.add_left_cancel (hlength.trans (show 68 = 4 + 64 from rfl))
    have hread := readPairs_eq_error (n := 32) hearly hb hcount 0
    rw [ofText_of_bytes hbytes hstart hcount, hread, Nat.zero_add]
    rfl

/-- A text spells an address, or something is wrong with it. -/
theorem spelled_or_flawed (s : String) : (∃ ds, SpelledWith s ds) ∨ ∃ e, Flaw s e := by
  by_cases hstart : textPrefix.toList <+: s.toList
  · by_cases hsize : s.utf8ByteSize = 68
    · obtain ⟨cs, hchars⟩ := hstart
      have hbytes := toList_toUTF8_of_prefix hchars.symm
      rcases digits_or_first (cs.flatMap String.utf8EncodeChar) with hall | hfirst
      · have hdigits : ∀ c ∈ cs, c ∈ hexDigits := by
          intro c hc
          rw [mem_hexDigits_iff]
          intro b hb
          exact hall b (List.mem_flatMap.mpr ⟨c, hc, hb⟩)
        rw [flatMap_utf8EncodeChar fun c hc ↦ utf8Size_of_mem_hexDigits (hdigits c hc)] at hbytes
        have hcount := utf8ByteSize_of_bytes hbytes
        rw [hsize, List.length_map] at hcount
        have htext : s = textPrefix ++ String.ofList cs := by
          rw [← String.toList_inj, ← hchars, String.toList_append, String.toList_ofList]
        exact .inl ⟨cs, htext, (Nat.add_left_cancel hcount).symm, hdigits⟩
      · obtain ⟨early, b, late, hsplit, hearly, hb⟩ := hfirst
        rw [hsplit] at hbytes
        exact .inr ⟨_, .digit ⟨cs, hchars⟩ hsize hbytes hearly hb⟩
    · exact .inr ⟨_, .length hstart hsize⟩
  · exact .inr ⟨_, .beginning hstart⟩

theorem ofText_eq_ok {a : Address} : ofText s = .ok a ↔ ∃ ds, SpelledWith s ds ∧
    a.text = textPrefix ++ String.ofList (ds.map Char.toLower) := by
  constructor
  · intro h
    rcases spelled_or_flawed s with ⟨ds, hds⟩ | ⟨e, he⟩
    · obtain ⟨b, hb, htext⟩ := exists_ofText hds
      obtain rfl := Except.ok.inj (h.symm.trans hb)
      exact ⟨ds, hds, htext⟩
    · exact nomatch h.symm.trans (ofText_of_flaw he)
  · rintro ⟨ds, hds, htext⟩
    obtain ⟨b, hb, htext'⟩ := exists_ofText hds
    have hread := ofText_text b
    rw [htext', ← htext, ofText_text] at hread
    rw [hb, hread]

theorem ofText_eq_error : ofText s = .error e ↔ Flaw s e := by
  constructor
  · intro h
    rcases spelled_or_flawed s with ⟨ds, hds⟩ | ⟨e', he⟩
    · obtain ⟨a, ha, -⟩ := exists_ofText hds
      exact nomatch h.symm.trans ha
    · rwa [Except.error.inj (h.symm.trans (ofText_of_flaw he))]
  · exact ofText_of_flaw

/-! ## Order -/

/-- Digits are ordered as their values are. -/
theorem hexDigit_lt_iff {m n : Nat} (hm : m < 16) (hn : n < 16) :
    (hexDigit m < hexDigit n ↔ m < n) ∧ (hexDigit m = hexDigit n ↔ m = n) := by
  have hall : ∀ m < 16, ∀ n < 16,
      (hexDigit m < hexDigit n ↔ m < n) ∧ (hexDigit m = hexDigit n ↔ m = n) := by decide
  exact hall m hm n hn

theorem hex_lt_hex : hex bs < hex bs' ↔ bs < bs' := by
  induction bs generalizing bs' with
  | nil =>
    cases bs' with
    | nil => exact iff_of_false (List.not_lt_nil _) (List.not_lt_nil _)
    | cons b' bs' => exact iff_of_true .nil .nil
  | cons b bs ih =>
    cases bs' with
    | nil => exact iff_of_false (List.not_lt_nil _) (List.not_lt_nil _)
    | cons b' bs' =>
      have hb := b.toNat_lt
      have hb' := b'.toNat_lt
      obtain ⟨hhigh, hhigh'⟩ := hexDigit_lt_iff (m := b.toNat / 16) (n := b'.toNat / 16)
        (by omega) (by omega)
      obtain ⟨hlow, hlow'⟩ := hexDigit_lt_iff (m := b.toNat % 16) (n := b'.toNat % 16)
        (by omega) (by omega)
      have hlt : b < b' ↔ b.toNat / 16 < b'.toNat / 16 ∨
          b.toNat / 16 = b'.toNat / 16 ∧ b.toNat % 16 < b'.toNat % 16 := by
        rw [UInt8.lt_iff_toNat_lt]
        omega
      have heq : b = b' ↔ b.toNat / 16 = b'.toNat / 16 ∧ b.toNat % 16 = b'.toNat % 16 := by
        rw [← UInt8.toNat_inj]
        omega
      rw [hex_cons, hex_cons, List.cons_lt_cons_iff, List.cons_lt_cons_iff, List.cons_lt_cons_iff,
        ih, hhigh, hhigh', hlow, hlow', hlt, heq, and_or_left, or_assoc, and_assoc]

theorem text_lt_text {a b : Address} : a.text < b.text ↔ a.bytes.toList < b.bytes.toList := by
  rw [text_eq_ofList, text_eq_ofList, String.lt_iff, String.toList_ofList, String.toList_ofList,
    textChars, textChars, List.cons_lt_cons_self, List.cons_lt_cons_self, List.cons_lt_cons_self,
    List.cons_lt_cons_self, hex_lt_hex]

theorem compare_bytes : compare bs bs' = .lt ↔ bs < bs' := by
  induction bs generalizing bs' with
  | nil =>
    cases bs' with
    | nil => exact iff_of_false nofun (List.not_lt_nil _)
    | cons b' bs' => exact iff_of_true rfl .nil
  | cons b bs ih =>
    cases bs' with
    | nil => exact iff_of_false nofun (List.not_lt_nil _)
    | cons b' bs' =>
      rw [List.compare_cons_cons, Ordering.then_eq_lt, Std.compare_eq_lt, ih,
        Std.LawfulEqOrd.compare_eq_iff_eq, List.cons_lt_cons_iff]

theorem compare_eq_lt {a b : Address} : compare a b = .lt ↔ a.bytes.toList < b.bytes.toList := by
  rw [← compare_bytes, ← Vector.compare_eq_compare_toList]
  rfl

/-- The order of addresses is that of their texts. -/
theorem compare_text (a b : Address) : compare a.text b.text = compare a b := by
  have hlt (a b : Address) : compare a.text b.text = .lt ↔ compare a b = .lt := by
    rw [compare_eq_lt, ← text_lt_text]
    exact compareOfLessAndEq_eq_lt
  cases h : compare a b with
  | lt => exact (hlt a b).mpr h
  | eq =>
    rw [Std.LawfulEqOrd.eq_of_compare h]
    exact Std.ReflOrd.compare_self
  | gt =>
    have hless := (hlt b a).mpr (Std.OrientedCmp.lt_of_gt h)
    exact Std.OrientedCmp.gt_of_lt hless

/-! ## The codec -/

/-- What is promised of addresses as texts. -/
structure ExactCodec : Prop where
  restored : ∀ a : Address, ofText a.text = .ok a
  /-- Texts that spell an address are accepted, and no others. -/
  accepted : ∀ s, (∃ a, ofText s = .ok a) ↔ ∃ ds, SpelledWith s ds
  /-- What is accepted is written again with the same digits in lower case. -/
  read : ∀ s a, ofText s = .ok a ↔ ∃ ds, SpelledWith s ds ∧
    a.text = textPrefix ++ String.ofList (ds.map Char.toLower)
  refused : ∀ s e, ofText s = .error e ↔ Flaw s e
  /-- There are as many digits as it takes for 32 bytes. -/
  payload : ∀ s, ofText s ≠ .error .invalidPayloadLength
  /-- The texts are in the order of the bytes. -/
  ordered : ∀ a b : Address, a.text < b.text ↔ a.bytes.toList < b.bytes.toList
  compared : ∀ a b : Address, compare a.text b.text = compare a b

/-- **Addresses and their texts stand for each other**, in the same order, and a text that spells no
address is refused for what is wrong with it first. -/
theorem codec_exact : ExactCodec := by
  constructor
  case restored => exact ofText_text
  case accepted =>
    intro s
    constructor
    · rintro ⟨a, ha⟩
      obtain ⟨ds, hds, -⟩ := ofText_eq_ok.mp ha
      exact ⟨ds, hds⟩
    · rintro ⟨ds, hds⟩
      obtain ⟨a, ha, -⟩ := exists_ofText hds
      exact ⟨a, ha⟩
  case read =>
    intro s a
    exact ofText_eq_ok
  case refused =>
    intro s e
    exact ofText_eq_error
  case payload =>
    intro s h
    cases ofText_eq_error.mp h
  case ordered =>
    intro a b
    exact text_lt_text
  case compared => exact compare_text

/-- A text with too few characters and the right number of bytes is refused for the first byte of a
character that takes two. -/
example : ofText (String.ofList (textPrefix.toList ++ '0' :: 'A' :: List.replicate 31 'é'))
    = .error (.invalidHex 0xC3 2) := rfl

end Tokenomics.Address

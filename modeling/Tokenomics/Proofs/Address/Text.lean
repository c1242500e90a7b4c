import Tokenomics.Address.Data
import Tokenomics.Proofs.Datum.Codec

/-!
# Reading an address undoes writing it

Every byte is written as two digits, the digits are single bytes, and both are read back, so the
text of an address is read as that address (`ofText?_text`).
-/

namespace Tokenomics

namespace Address

/-! ## Digits -/

theorem utf8Size_hexDigit {n : Nat} (h : n < 16) : (hexDigit n).utf8Size = 1 := by
  have hall : ∀ m < 16, (hexDigit m).utf8Size = 1 := by decide
  exact hall n h

theorem nibble?_hexDigit {n : Nat} (h : n < 16) :
    nibble? (hexDigit n).toUInt8 = some (UInt8.ofNat n) := by
  have hall : ∀ m < 16, nibble? (hexDigit m).toUInt8 = some (UInt8.ofNat m) := by decide
  exact hall n h

theorem nibble_hexDigit {n : Nat} (h : n < 16) (index : Nat) :
    nibble index (hexDigit n).toUInt8 = .ok (UInt8.ofNat n) := by
  rw [nibble, nibble?_hexDigit h]

/-- A byte is made of its two digits. -/
theorem combine_digits (b : UInt8) :
    16 * UInt8.ofNat (b.toNat / 16) + UInt8.ofNat (b.toNat % 16) = b := by
  show UInt8.ofNat 16 * _ + _ = b
  rw [← UInt8.ofNat_mul, ← UInt8.ofNat_add, Nat.div_add_mod, UInt8.ofNat_toNat]

theorem hex_cons (b : UInt8) (bs : List UInt8) : hex (b :: bs)
    = hexDigit (b.toNat / 16) :: hexDigit (b.toNat % 16) :: hex bs := rfl

theorem utf8Size_of_mem_hex {bs : List UInt8} {c : Char} (h : c ∈ hex bs) : c.utf8Size = 1 := by
  obtain ⟨b, -, hb⟩ := List.mem_flatMap.mp h
  have hlt := b.toNat_lt
  rcases List.mem_cons.mp hb with rfl | hb
  · exact utf8Size_hexDigit (by omega)
  · rw [List.mem_singleton.mp hb]
    exact utf8Size_hexDigit (by omega)

theorem length_hex (bs : List UInt8) : (hex bs).length = 2 * bs.length := by
  induction bs with
  | nil => rfl
  | cons b bs ih =>
    rw [hex_cons, List.length_cons, List.length_cons, List.length_cons, ih]
    omega

theorem readPairs_hex (index : Nat) (bs : List UInt8) :
    readPairs index ((hex bs).map Char.toUInt8) = .ok bs := by
  induction bs generalizing index with
  | nil => rfl
  | cons b bs ih =>
    have hlt := b.toNat_lt
    rw [hex_cons, List.map_cons, List.map_cons, readPairs, nibble_hexDigit (by omega),
      nibble_hexDigit (by omega), ih]
    show Except.ok (_ :: bs) = _
    rw [combine_digits]

/-! ## Texts -/

/-- The bytes of a text, character by character. -/
theorem toList_toUTF8_eq (s : String) :
    s.toUTF8.data.toList = s.toList.flatMap String.utf8EncodeChar := by
  rw [String.toUTF8_eq_toByteArray, ← String.utf8Encode_toList, List.utf8Encode,
    List.toList_data_toByteArray]

/-- The bytes of characters that take one each. -/
theorem flatMap_utf8EncodeChar {cs : List Char} (h : ∀ c ∈ cs, c.utf8Size = 1) :
    cs.flatMap String.utf8EncodeChar = cs.map Char.toUInt8 := by
  induction cs with
  | nil => rfl
  | cons c cs ih =>
    obtain ⟨hc, hcs⟩ := List.forall_mem_cons.mp h
    rw [List.flatMap_cons, String.utf8EncodeChar_eq_singleton hc, ih hcs]
    rfl

/-- The characters of an address text. -/
def textChars (a : Address) : List Char := 'f' :: 'u' :: 'r' :: 'y' :: hex a.bytes.toList

theorem text_eq_ofList (a : Address) : a.text = String.ofList a.textChars := by
  rw [text, show textPrefix = String.ofList ['f', 'u', 'r', 'y'] from rfl, ← String.ofList_append]
  rfl

theorem toList_toUTF8_text (a : Address) :
    a.text.toUTF8.data.toList = a.textChars.map Char.toUInt8 := by
  have hsize : ∀ c ∈ a.textChars, c.utf8Size = 1 := by
    simp only [textChars, List.forall_mem_cons]
    exact ⟨rfl, rfl, rfl, rfl, fun c hc ↦ utf8Size_of_mem_hex hc⟩
  rw [toList_toUTF8_eq, text_eq_ofList, String.toList_ofList, flatMap_utf8EncodeChar hsize]

theorem utf8ByteSize_text (a : Address) : a.text.utf8ByteSize = textLength := by
  have hlength := congrArg List.length (toList_toUTF8_text a)
  rw [Array.length_toList, List.length_map, textChars, List.length_cons, List.length_cons,
    List.length_cons, List.length_cons, length_hex, Vector.length_toList] at hlength
  exact hlength

/-- **Reading undoes writing.** -/
theorem ofText_text (a : Address) : ofText a.text = .ok a := by
  have hprefix : textPrefix.toList.isPrefixOf a.text.toList = true := by
    rw [text_eq_ofList, String.toList_ofList]
    rfl
  rw [ofText, hprefix, Bool.not_true, if_neg Bool.false_ne_true,
    if_neg (fun h ↦ h (utf8ByteSize_text a)), toList_toUTF8_text]
  show (readPairs 0 ((hex a.bytes.toList).map Char.toUInt8) >>= _) = _
  rw [readPairs_hex]
  show (if h : a.bytes.toList.length = 32 then _ else _) = _
  rw [dif_pos Vector.length_toList]
  rfl

theorem ofText?_text (a : Address) : ofText? a.text = some a := by
  rw [ofText?, ofText_text]
  rfl

end Address

theorem Codec.restores_address (a : Address) : Restores a a := ⟨trivial, Address.ofText?_text a⟩

end Tokenomics

import Tokenomics.Json.Bytes
import Tokenomics.Proofs.Json.RoundTrip

/-!
# Reading undoes writing, in bytes

The bytes of a text are read character by character, each decoded where the one before it ended.
On the UTF-8 form of a text every one of them decodes, so what stands in for broken bytes never
shows (`charsOf_toUTF8`).
-/

namespace Tokenomics.Json

theorem size_utf8Encode_singleton (c : Char) : [c].utf8Encode.size = c.utf8Size := by
  rw [List.utf8Encode_singleton, List.size_toByteArray, String.length_utf8EncodeChar]

theorem length_le_size_utf8Encode (cs : List Char) : cs.length ≤ cs.utf8Encode.size := by
  induction cs with
  | nil => exact Nat.le_refl _
  | cons c cs ih =>
    have hpos := c.utf8Size_pos
    rw [List.utf8Encode_cons, ByteArray.size_append, size_utf8Encode_singleton, List.length_cons]
    omega

/-- The character behind some others is decoded where they end. -/
theorem utf8DecodeChar?_append_cons (before : ByteArray) (c : Char) (cs : List Char) :
    (before ++ (c :: cs).utf8Encode).utf8DecodeChar? before.size = some c := by
  rw [ByteArray.utf8DecodeChar?_eq_utf8DecodeChar?_extract,
    ByteArray.extract_append_eq_right rfl ByteArray.size_append,
    List.utf8DecodeChar?_utf8Encode_cons]

theorem charsFrom_append (before : ByteArray) (cs : List Char) {fuel : Nat}
    (hfuel : cs.length ≤ fuel) (afterBackslash : Bool) :
    charsFrom (before ++ cs.utf8Encode) fuel afterBackslash before.size = cs := by
  -- the induction moves the characters over to `before` one by one
  induction cs generalizing before fuel afterBackslash with
  | nil =>
    cases fuel with
    | zero => rfl
    | succ fuel =>
      rw [charsFrom, if_pos]
      rw [ByteArray.size_append, List.utf8Encode_nil]
      exact Nat.le_refl _
  | cons c cs ih =>
    obtain ⟨fuel, rfl⟩ := Nat.exists_eq_succ_of_ne_zero (Nat.ne_zero_of_lt hfuel)
    have hmore : ¬ (before ++ (c :: cs).utf8Encode).size ≤ before.size := by
      have hlength := length_le_size_utf8Encode (c :: cs)
      rw [List.length_cons] at hlength
      rw [ByteArray.size_append]
      omega
    rw [charsFrom, if_neg hmore, utf8DecodeChar?_append_cons]
    show c :: charsFrom _ fuel _ (before.size + c.utf8Size) = _
    have hrest := ih (before ++ [c].utf8Encode) (Nat.le_of_succ_le_succ hfuel)
      (c = '\\' && !afterBackslash)
    rw [ByteArray.size_append, size_utf8Encode_singleton, ByteArray.append_assoc,
      ← List.utf8Encode_cons] at hrest
    rw [hrest]

theorem charsOf_toUTF8 (cs : List Char) : charsOf (String.ofList cs).toUTF8 = cs := by
  have hbytes : (String.ofList cs).toUTF8 = ByteArray.empty ++ cs.utf8Encode := by
    rw [String.toUTF8_eq_toByteArray, String.toByteArray_ofList, ByteArray.empty_append]
  rw [charsOf, hbytes]
  refine charsFrom_append ByteArray.empty cs ?_ false
  rw [ByteArray.empty_append]
  exact length_le_size_utf8Encode cs

/-- **Reading undoes writing.** -/
theorem parseBytes?_compact {d : Datum} (hd : d.Plain) :
    parseBytes? (compact d).toUTF8 = some d := by
  rw [parseBytes?, compact, charsOf_toUTF8, parseChars?_compactChars hd]

end Tokenomics.Json

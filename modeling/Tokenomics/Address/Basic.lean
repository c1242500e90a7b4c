import Tokenomics.Address.Digest

/-!
# Addresses

An account is named by 32 bytes. Its text is a fixed prefix and the bytes in hexadecimal, two
lower-case digits each; reading accepts digits of either case and nothing else. The order of
addresses is that of their bytes.

Module accounts and well-known accounts have addresses derived from their names by a digest.
-/

namespace Tokenomics

/-- The name of an account. -/
structure Address where
  bytes : Vector UInt8 32
deriving DecidableEq

/-- Why a text is not an address. -/
inductive AddressError where
  | invalidPrefix
  /-- The text has `actual` bytes. -/
  | invalidLength (actual : Nat)
  /-- The byte at `index` behind the prefix is not a hexadecimal digit. -/
  | invalidHex (byte : UInt8) (index : Nat)
  | invalidPayloadLength
deriving DecidableEq, Inhabited

namespace Address

instance : Inhabited Address := ⟨⟨Vector.replicate 32 0⟩⟩

instance : Ord Address := ⟨compareOn bytes⟩

instance : Std.TransOrd Address := inferInstanceAs (Std.TransCmp (compareOn bytes))

instance : Std.LawfulEqOrd Address where
  eq_of_compare {a b} h := by
    have : a.bytes = b.bytes := Std.LawfulEqOrd.eq_of_compare h
    cases a
    cases b
    simp_all

/-- What every address text begins with. -/
def textPrefix : String := "fury"

/-- How many bytes an address text has. -/
def textLength : Nat := 68

/-! ## Writing -/

/-- The lower-case hexadecimal digit of a number below 16. -/
def hexDigit (n : Nat) : Char := Nat.digitChar n

/-- The two digits of a byte. -/
def byteDigits (b : UInt8) : List Char := [hexDigit (b.toNat / 16), hexDigit (b.toNat % 16)]

/-- The digits of a list of bytes. -/
def hex (bs : List UInt8) : List Char := bs.flatMap byteDigits

/-- The text of an address. -/
def text (a : Address) : String := textPrefix ++ String.ofList (hex a.bytes.toList)

/-! ## Reading -/

/-- The value of a hexadecimal digit of either case, given as a byte. -/
def nibble? (b : UInt8) : Option UInt8 :=
  if 48 ≤ b && b ≤ 57 then some (b - 48)
  else if 97 ≤ b && b ≤ 102 then some (b - 87)
  else if 65 ≤ b && b ≤ 70 then some (b - 55)
  else none

/-- The value of the digit at `index`, or the error about it. -/
def nibble (index : Nat) (b : UInt8) : Except AddressError UInt8 :=
  match nibble? b with
  | some n => .ok n
  | none => .error (.invalidHex b index)

/-- The bytes written by pairs of digits, the first of which stands at `index`. -/
def readPairs (index : Nat) : List UInt8 → Except AddressError (List UInt8)
  | high :: low :: rest => do
    let h ← nibble index high
    let l ← nibble (index + 1) low
    let tail ← readPairs (index + 2) rest
    return (16 * h + l) :: tail
  | _ => .ok []

/-- The address that a text stands for. -/
def ofText (s : String) : Except AddressError Address :=
  if !textPrefix.toList.isPrefixOf s.toList then .error .invalidPrefix
  else if s.utf8ByteSize ≠ textLength then .error (.invalidLength s.utf8ByteSize)
  else do
    let bytes ← readPairs 0 (s.toUTF8.data.toList.drop 4)
    if h : bytes.length = 32 then return ⟨⟨bytes.toArray, h⟩⟩ else .error .invalidPayloadLength

/-- The address that a text stands for, if it stands for one. -/
def ofText? (s : String) : Option Address := (ofText s).toOption

/-! ## Derivation -/

/-- The address derived from a seed. -/
def derive (seed : String) : Address := ⟨Digest.digest seed.toUTF8⟩

/-- The address of the module account `name`. -/
def ofModule (name : String) : Address := derive ("module:" ++ name)

end Address

/-- The wording of an address error. -/
def AddressError.message : AddressError → String
  | .invalidPrefix => "address must start with '" ++ Address.textPrefix ++ "'"
  | .invalidLength actual =>
    "address must be " ++ toString Address.textLength ++ " characters, got " ++ toString actual
  | .invalidHex .. => "address payload is not valid hexadecimal"
  | .invalidPayloadLength => "address payload must be exactly 32 bytes"

end Tokenomics

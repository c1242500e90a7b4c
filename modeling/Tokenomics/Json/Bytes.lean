import Tokenomics.Json.Reader

/-!
# JSON texts as bytes

`Json.parseBytes?` reads bytes that should be the UTF-8 form of a JSON text. A byte that belongs to
no character does not refuse the bytes when it stands in a text that nobody reads: like half of a
surrogate pair it makes the text unreadable, and only that. Elsewhere it is refused.
-/

namespace Tokenomics.Json

/-- What stands in for a byte that belongs to no character. Behind a backslash that is a control
character, which may stand nowhere. Elsewhere it is an escape that gives half of a surrogate pair
and no character, which may stand in texts only and makes them unreadable; the letter after it
keeps it from being completed. -/
def substitute (afterBackslash : Bool) : List Char :=
  if afterBackslash then ['\x00'] else ['\\', 'u', 'd', '8', '0', '0', 'x']

/-- The characters of the bytes from position `i` on, within `fuel` characters. -/
def charsFrom (bytes : ByteArray) : Nat → Bool → Nat → List Char
  | 0, _, _ => []
  | fuel + 1, afterBackslash, i =>
    if bytes.size ≤ i then []
    else match bytes.utf8DecodeChar? i with
      | some c => c :: charsFrom bytes fuel (c = '\\' && !afterBackslash) (i + c.utf8Size)
      | none => substitute afterBackslash ++ charsFrom bytes fuel false (i + 1)

/-- The characters of some bytes. -/
def charsOf (bytes : ByteArray) : List Char := charsFrom bytes bytes.size false 0

/-- The data that some bytes stand for. -/
def parseBytes? (bytes : ByteArray) : Option Datum := parseChars? (charsOf bytes)

/-- The value that some bytes stand for. -/
def decodeBytes? {α : Type} [Codec α] (bytes : ByteArray) : Option α :=
  (parseBytes? bytes).bind Codec.decode?

end Tokenomics.Json

/-!
# Blank characters

The characters with the Unicode property `White_Space`, and trimming by them.
-/

namespace Tokenomics.Text

/-- Whether a character has the Unicode property `White_Space`. -/
def isBlank (c : Char) : Bool :=
  let n := c.toNat
  (0x09 ≤ n && n ≤ 0x0D) || n == 0x20 || n == 0x85 || n == 0xA0 || n == 0x1680
    || (0x2000 ≤ n && n ≤ 0x200A) || n == 0x2028 || n == 0x2029 || n == 0x202F || n == 0x205F
    || n == 0x3000

/-- The characters without the blank ones at either end. -/
def trimChars (cs : List Char) : List Char :=
  ((cs.dropWhile isBlank).reverse.dropWhile isBlank).reverse

/-- The text without blank characters at either end. -/
def trim (s : String) : String := String.ofList (trimChars s.toList)

/-- Whether the text has no character that is not blank. -/
def allBlank (s : String) : Bool := s.toList.all isBlank

/-- The pieces of a list between the characters `sep`; one more piece than there are separators. -/
def splitChars (sep : Char) : List Char → List (List Char)
  | [] => [[]]
  | c :: cs =>
    if c = sep then [] :: splitChars sep cs
    else match splitChars sep cs with
      | piece :: rest => (c :: piece) :: rest
      | [] => [[c]]

/-- The lists joined, with `sep` between each two of them. -/
def joinChars (sep : Char) : List (List Char) → List Char
  | [] => []
  | [piece] => piece
  | piece :: rest => piece ++ sep :: joinChars sep rest

theorem splitChars_ne_nil (sep : Char) (cs : List Char) : splitChars sep cs ≠ [] := by
  induction cs with
  | nil => simp [splitChars]
  | cons c cs ih =>
    rw [splitChars]
    split
    · simp
    · split <;> simp

/-- Joining undoes splitting. -/
theorem joinChars_splitChars (sep : Char) (cs : List Char) :
    joinChars sep (splitChars sep cs) = cs := by
  induction cs with
  | nil => rfl
  | cons c cs ih =>
    rw [splitChars]
    cases hs : splitChars sep cs with
    | nil => exact absurd hs (splitChars_ne_nil sep cs)
    | cons piece rest =>
      rw [hs] at ih
      split
      · rename_i hc
        rw [joinChars, ih, hc]
        · rfl
        · simp
      · cases rest with
        | nil => simpa [joinChars] using ih
        | cons p r => simpa [joinChars] using ih

end Tokenomics.Text

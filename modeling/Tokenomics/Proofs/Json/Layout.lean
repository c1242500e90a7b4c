import Tokenomics.Json.Printer
import Tokenomics.Json.Reader

/-!
# Layouts of JSON texts

The compact form of data and the form for reading differ in blanks only. Both are cases of one form,
`laidChars`, which takes its blanks from a `Layout` (`laidChars_compact`, `laidChars_forReading`).
What is true of every layout is then proved once.
-/

namespace Tokenomics.Json

/-- Where a text has blanks: before each item, field and final bracket, by level, and behind the
colon of a field. -/
structure Layout where
  line : Nat → List Char
  gap : List Char
  isSpace_of_mem_line : ∀ {n : Nat} {c : Char}, c ∈ line n → isSpace c = true
  isSpace_of_mem_gap : ∀ {c : Char}, c ∈ gap → isSpace c = true

namespace Layout

/-- No blanks at all. -/
def compact : Layout where
  line _ := []
  gap := []
  isSpace_of_mem_line h := absurd h List.not_mem_nil
  isSpace_of_mem_gap h := absurd h List.not_mem_nil

theorem isSpace_of_mem_newLine {n : Nat} {c : Char} (h : c ∈ newLine n) : isSpace c = true := by
  rcases List.mem_cons.mp h with rfl | h
  · rfl
  · rw [List.eq_of_mem_replicate h]
    rfl

/-- A line for each item and field. -/
def forReading : Layout where
  line := newLine
  gap := [' ']
  isSpace_of_mem_line h := isSpace_of_mem_newLine h
  isSpace_of_mem_gap h := by
    rw [List.mem_singleton.mp h]
    rfl

end Layout

mutual

/-- The characters of data in a layout, from level `n` on. -/
def laidChars (L : Layout) (n : Nat) : Datum → List Char
  | .list [] | .openList [] => ['[', ']']
  | .list items | .openList items => '[' :: laidItems L (n + 1) items ++ L.line n ++ [']']
  | .record [] => ['\x7b', '\x7d']
  | .record fields => '\x7b' :: laidFields L (n + 1) fields ++ L.line n ++ ['\x7d']
  | d => scalarChars d

/-- Items with commas between them. -/
def laidItems (L : Layout) (n : Nat) : List Datum → List Char
  | [] => []
  | [d] => L.line n ++ laidChars L n d
  | d :: rest => L.line n ++ laidChars L n d ++ ',' :: laidItems L n rest

/-- Fields with commas between them. -/
def laidFields (L : Layout) (n : Nat) : List (String × Datum) → List Char
  | [] => []
  | [(k, d)] => L.line n ++ textChars k ++ ':' :: L.gap ++ laidChars L n d
  | (k, d) :: rest =>
    L.line n ++ textChars k ++ ':' :: L.gap ++ laidChars L n d ++ ',' :: laidFields L n rest

end

namespace Layout

@[simp] theorem line_compact (n : Nat) : compact.line n = [] := rfl

@[simp] theorem gap_compact : compact.gap = [] := rfl

@[simp] theorem line_forReading (n : Nat) : forReading.line n = newLine n := rfl

@[simp] theorem gap_forReading : forReading.gap = [' '] := rfl

end Layout

mutual

theorem laidChars_compact (n : Nat) (d : Datum) : laidChars .compact n d = compactChars d := by
  cases d with
  | list items | openList items =>
    cases items with
    | nil => rfl
    | cons d items => simp [laidChars, compactChars, laidItems_compact]
  | record fields =>
    cases fields with
    | nil => rfl
    | cons f fields => simp [laidChars, compactChars, laidFields_compact]
  | null | bool _ | integer _ | real _ | text _ | date _ | unreadable => rfl

theorem laidItems_compact (n : Nat) (items : List Datum) :
    laidItems .compact n items = compactItems items := by
  match items with
  | [] => rfl
  | [d] => exact laidChars_compact n d
  | d :: e :: items => simp [laidItems, compactItems, laidChars_compact, laidItems_compact]

theorem laidFields_compact (n : Nat) (fields : List (String × Datum)) :
    laidFields .compact n fields = compactFields fields := by
  match fields with
  | [] => rfl
  | [(k, d)] => simp [laidFields, compactFields, laidChars_compact]
  | (k, d) :: f :: fields =>
    simp [laidFields, compactFields, laidChars_compact, laidFields_compact]

end

mutual

theorem laidChars_forReading (n : Nat) (d : Datum) :
    laidChars .forReading n d = prettyChars n d := by
  cases d with
  | list items | openList items =>
    cases items with
    | nil => rfl
    | cons d items => simp [laidChars, prettyChars, laidItems_forReading]
  | record fields =>
    cases fields with
    | nil => rfl
    | cons f fields => simp [laidChars, prettyChars, laidFields_forReading]
  | null | bool _ | integer _ | real _ | text _ | date _ | unreadable => rfl

theorem laidItems_forReading (n : Nat) (items : List Datum) :
    laidItems .forReading n items = prettyItems n items := by
  match items with
  | [] => rfl
  | [d] => simp [laidItems, prettyItems, laidChars_forReading]
  | d :: e :: items =>
    simp [laidItems, prettyItems, laidChars_forReading, laidItems_forReading]

theorem laidFields_forReading (n : Nat) (fields : List (String × Datum)) :
    laidFields .forReading n fields = prettyFields n fields := by
  match fields with
  | [] => rfl
  | [(k, d)] => simp [laidFields, prettyFields, laidChars_forReading]
  | (k, d) :: f :: fields =>
    simp [laidFields, prettyFields, laidChars_forReading, laidFields_forReading]

end

end Tokenomics.Json

import Mathlib.Data.List.DropRight
import Tokenomics.Text.Blank

/-!
# Pieces of texts

Splitting a text at a separator undoes joining pieces that do not have it, and no character of a
piece is new. Trimming takes nothing away where nothing is blank, and nothing the second time.
-/

namespace Tokenomics.Text

variable {sep c : Char} {cs piece : List Char} {pieces : List (List Char)}

/-! ## Splitting and joining -/

theorem splitChars_cons_of_ne (h : c ≠ sep) (hcs : splitChars sep cs = piece :: pieces) :
    splitChars sep (c :: cs) = (c :: piece) :: pieces := by
  rw [splitChars, if_neg h, hcs]

/-- A run without separators goes into the first piece of what follows it. -/
theorem splitChars_append {run : List Char} (h : sep ∉ run)
    (hcs : splitChars sep cs = piece :: pieces) :
    splitChars sep (run ++ cs) = (run ++ piece) :: pieces := by
  induction run with
  | nil => exact hcs
  | cons c run ih =>
    rw [List.mem_cons, not_or] at h
    exact splitChars_cons_of_ne (Ne.symm h.1) (ih h.2)

/-- Splitting undoes joining. -/
theorem splitChars_joinChars (hne : pieces ≠ []) (h : ∀ piece ∈ pieces, sep ∉ piece) :
    splitChars sep (joinChars sep pieces) = pieces := by
  induction pieces with
  | nil => exact absurd rfl hne
  | cons piece pieces ih =>
    obtain ⟨hpiece, hpieces⟩ := List.forall_mem_cons.mp h
    cases pieces with
    | nil =>
      have hnil : splitChars sep [] = [[]] := rfl
      have hlast := splitChars_append hpiece hnil
      rwa [List.append_nil] at hlast
    | cons next pieces =>
      have hsep : splitChars sep (sep :: joinChars sep (next :: pieces))
          = [] :: next :: pieces := by
        rw [splitChars, if_pos rfl, ih (List.cons_ne_nil _ _) hpieces]
      have hfirst := splitChars_append hpiece hsep
      rwa [List.append_nil] at hfirst

theorem mem_joinChars_cons (h : c ∈ piece) (pieces : List (List Char)) :
    c ∈ joinChars sep (piece :: pieces) := by
  cases pieces with
  | nil => exact h
  | cons next pieces => exact List.mem_append_left _ h

theorem mem_joinChars (hc : c ∈ piece) (h : piece ∈ pieces) :
    c ∈ joinChars sep pieces := by
  induction pieces with
  | nil => exact absurd h List.not_mem_nil
  | cons first pieces ih =>
    rcases List.mem_cons.mp h with rfl | h
    · exact mem_joinChars_cons hc pieces
    · cases pieces with
      | nil => exact absurd h List.not_mem_nil
      | cons next pieces => exact List.mem_append_right _ (List.mem_cons_of_mem _ (ih h))

theorem mem_of_mem_splitChars (hc : c ∈ piece) (h : piece ∈ splitChars sep cs) : c ∈ cs := by
  rw [← joinChars_splitChars sep cs]
  exact mem_joinChars hc h

/-! ## Trimming -/

theorem dropWhile_isBlank (h : ∀ c ∈ cs, isBlank c = false) : cs.dropWhile isBlank = cs := by
  cases cs with
  | nil => rfl
  | cons c cs =>
    exact List.dropWhile_cons_of_neg (by rw [h c List.mem_cons_self]; exact Bool.false_ne_true)

/-- There is nothing to trim where nothing is blank. -/
theorem trimChars_of_forall (h : ∀ c ∈ cs, isBlank c = false) : trimChars cs = cs := by
  have hreverse : ∀ c ∈ cs.reverse, isBlank c = false := fun c hc ↦ h c (List.mem_reverse.mp hc)
  rw [trimChars, dropWhile_isBlank h, dropWhile_isBlank hreverse, List.reverse_reverse]

theorem mem_of_mem_trimChars (h : c ∈ trimChars cs) : c ∈ cs := by
  rw [trimChars, List.mem_reverse] at h
  have hright := (List.dropWhile_sublist isBlank).mem h
  rw [List.mem_reverse] at hright
  exact (List.dropWhile_sublist isBlank).mem hright

/-- What has been trimmed has no blanks left at its ends. -/
theorem trimChars_trimChars (cs : List Char) :
    trimChars (trimChars cs) = trimChars cs := by
  have hleft : (trimChars cs).dropWhile isBlank = trimChars cs := by
    rw [List.dropWhile_eq_self_iff]
    intro hpos
    -- the second cut leaves the first character where it is
    have hle : trimChars cs <+: cs.dropWhile isBlank := List.rdropWhile_prefix isBlank _
    rw [hle.getElem hpos]
    exact List.dropWhile_get_zero_not isBlank cs (Nat.lt_of_lt_of_le hpos hle.length_le)
  rw [trimChars, hleft]
  exact List.rdropWhile_idempotent isBlank (cs.dropWhile isBlank)

end Tokenomics.Text

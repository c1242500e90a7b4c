import Tokenomics.Mint.VestingTable
import Tokenomics.Proofs.Decimal.Shifting
import Tokenomics.Proofs.Text.Pieces

/-!
# Vesting tables are loaded as they are written

What a vesting table is worth is said of its cells: `Worth value n` is the whole part of a million
times the number in a cell, an exact product although it is computed in decimals (`units?_cases`).
`Loaded` says of receivers that they are those of a table, column by column, and `Refusal` says what
is wrong with a table that has none, at the first row that is not sound and there at the first cell.
A table is read as the one or refused for the other (`parse_eq_ok`, `parse_eq_error`).

The receivers are put together when all rows have been read. `parseInPlace` loads a table the other
way, with an amount added to the receiver of its column as soon as the cell has been read, which
goes wrong if there is no receiver with that number. That every row is as wide as the header keeps
it from happening: both ways come to the same (`parseInPlace_eq`).
-/

namespace Tokenomics

theorem Receiver.ext {r r' : Receiver} (haddress : r.address = r'.address)
    (hamounts : r.monthlyAmounts = r'.monthlyAmounts) : r = r' := by
  obtain ⟨a, amounts⟩ := r
  obtain ⟨a', amounts'⟩ := r'
  exact congrArg₂ Receiver.mk haddress hamounts

namespace VestingTable

variable {aliases : SortedMap String Address} {s value : String} {row : List String}
variable {month column width : Nat}

/-! ## One cell -/

theorem isPower_unitsPerToken : unitsPerToken.IsPower 6 where
  negative := rfl
  magnitude := by decide
  scale := rfl

/-- What a cell is worth in base units: it holds a number that is not negative, and a million times
that number, taken exactly, has this whole part. -/
def Worth (value : String) (n : Nat) : Prop :=
  ∃ tokens, Decimal.ofText? value = some tokens ∧ 0 ≤ tokens.value ∧
    n = ⌊1000000 * tokens.value⌋₊

theorem Worth.unique {m n : Nat} (hm : Worth value m) (hn : Worth value n) : m = n := by
  obtain ⟨a, ha, -, rfl⟩ := hm
  obtain ⟨b, hb, -, rfl⟩ := hn
  rw [Option.some.inj (ha.symm.trans hb)]

/-- Decimals count base units exactly, unless these are too many for a machine word. -/
theorem units?_cases {tokens : Decimal} (h : 0 ≤ tokens.value) :
    (⌊1000000 * tokens.value⌋₊ < 1 <<< 64 ∧
        units? tokens = some (UInt64.ofNat ⌊1000000 * tokens.value⌋₊)) ∨
      1 <<< 64 ≤ ⌊1000000 * tokens.value⌋₊ ∧ units? tokens = none := by
  have hmillion : tokens.value * tenPow 6 = 1000000 * tokens.value := by
    rw [mul_comm]
    norm_num [tenPow]
  have hnonneg : 0 ≤ 1000000 * tokens.value := mul_nonneg (by norm_num) h
  have hcases := isPower_unitsPerToken.mul?_cases h
  rw [hmillion] at hcases
  rcases hcases with ⟨c, hc, hvalue⟩ | ⟨hnone, hlarge⟩
  · have hunits : units? tokens = if ⌊1000000 * tokens.value⌋₊ < 1 <<< 64
        then some (UInt64.ofNat ⌊1000000 * tokens.value⌋₊) else none := by
      have hfloor := Decimal.floor?_of_nonneg (hvalue ▸ hnonneg)
      rw [hvalue] at hfloor
      simp only [units?, hc, hfloor, Option.bind_eq_bind, Option.bind_some, Option.pure_def]
    rcases Nat.lt_or_ge ⌊1000000 * tokens.value⌋₊ (1 <<< 64) with hlt | hge
    · exact .inl ⟨hlt, hunits.trans (if_pos hlt)⟩
    · exact .inr ⟨hge, hunits.trans (if_neg (Nat.not_lt.mpr hge))⟩
  · refine .inr ⟨Nat.le_trans (by decide) (Nat.le_floor hlarge), ?_⟩
    simp only [units?, hnone, Option.bind_eq_bind, Option.bind_none]

/-- More digits than a decimal holds, once the zeros of the million are behind them. -/
example : (Decimal.ofText? "123456789012.3456789012345678").bind units? =
    some 123456789012345678 := by decide

/-- The cell holds an amount of base units that fits into a machine word. -/
def Sound (value : String) : Prop := ∃ n : UInt64, Worth value n.toNat

/-- What is wrong with a cell, which holds no amount or one that is too large. -/
inductive CellFault (month column : Nat) (value : String) : VestingError → Prop
  | noAmount (h : ∀ tokens, Decimal.ofText? value = some tokens → tokens.value < 0) :
      CellFault month column value (.invalidAmount value month column)
  | tooLarge {n : Nat} (hworth : Worth value n) (hlarge : 1 <<< 64 ≤ n) :
      CellFault month column value (.amountOverflow value month)

theorem CellFault.not_worth {e : VestingError} (h : CellFault month column value e) (n : UInt64) :
    ¬ Worth value n.toNat := by
  rintro ⟨tokens, htokens, hnonneg, hn⟩
  cases h with
  | noAmount h => exact absurd (h tokens htokens) (not_lt.mpr hnonneg)
  | tooLarge hworth hlarge =>
    rw [hworth.unique ⟨tokens, htokens, hnonneg, hn⟩] at hlarge
    exact absurd n.toNat_lt (Nat.not_lt.mpr hlarge)

theorem CellFault.unique {e e' : VestingError} (h : CellFault month column value e)
    (h' : CellFault month column value e') : e = e' := by
  have hdisjoint (hnone : ∀ tokens, Decimal.ofText? value = some tokens → tokens.value < 0)
      {n : Nat} (hworth : Worth value n) : False := by
    obtain ⟨tokens, htokens, hnonneg, -⟩ := hworth
    exact absurd (hnone tokens htokens) (not_lt.mpr hnonneg)
  cases h with
  | noAmount h =>
    cases h' with
    | noAmount _ => rfl
    | tooLarge hworth _ => exact (hdisjoint h hworth).elim
  | tooLarge hworth _ =>
    cases h' with
    | noAmount h' => exact (hdisjoint h' hworth).elim
    | tooLarge _ _ => rfl

theorem readCell_cases (month column : Nat) (value : String) :
    (∃ n : UInt64, Worth value n.toNat ∧ readCell month column value = .ok n) ∨
      ∃ e, CellFault month column value e ∧ readCell month column value = .error e := by
  rw [readCell]
  cases htokens : Decimal.ofText? value with
  | none => exact .inr ⟨_, .noAmount fun _ h ↦ (nomatch htokens.symm.trans h), rfl⟩
  | some tokens =>
    by_cases hsign : tokens < .zero
    · refine .inr ⟨_, .noAmount fun tokens' h ↦ ?_, if_pos hsign⟩
      rw [← Option.some.inj (htokens.symm.trans h)]
      rwa [Decimal.lt_iff, Decimal.value_zero] at hsign
    · have hnonneg := Decimal.not_lt_zero_iff.mp hsign
      simp only [hsign, if_false]
      rcases units?_cases hnonneg with ⟨hlt, hunits⟩ | ⟨hge, hunits⟩
      · rw [hunits]
        refine .inl ⟨_, ⟨tokens, htokens, hnonneg, ?_⟩, rfl⟩
        exact UInt64.toNat_ofNat_of_lt' hlt
      · rw [hunits]
        exact .inr ⟨_, .tooLarge ⟨tokens, htokens, hnonneg, rfl⟩ hge, rfl⟩

theorem readCell_eq_ok {n : UInt64} :
    readCell month column value = .ok n ↔ Worth value n.toNat := by
  rcases readCell_cases month column value with ⟨m, hworth, hread⟩ | ⟨e, hfault, hread⟩
  · rw [hread, Except.ok.injEq]
    constructor
    · rintro rfl
      exact hworth
    · exact fun h ↦ UInt64.toNat_inj.mp (hworth.unique h)
  · rw [hread]
    exact iff_of_false nofun (hfault.not_worth n)

theorem readCell_eq_error {e : VestingError} :
    readCell month column value = .error e ↔ CellFault month column value e := by
  rcases readCell_cases month column value with ⟨n, hworth, hread⟩ | ⟨e', hfault, hread⟩
  · rw [hread]
    exact iff_of_false nofun fun h ↦ h.not_worth n hworth
  · rw [hread, Except.error.injEq]
    constructor
    · rintro rfl
      exact hfault
    · exact fun h ↦ hfault.unique h

/-! ## One row -/

/-- What the cells of a row are worth, one after the other. -/
structure RowWorth (width : Nat) (row : List String) (amounts : List UInt64) : Prop where
  width : row.length = width
  cells : List.Forall₂ (fun value n ↦ Worth value n.toNat) row amounts

/-- The row is as wide as the header, and its cells are sound. -/
structure SoundRow (width : Nat) (row : List String) : Prop where
  width : row.length = width
  cells : ∀ value ∈ row, Sound value

/-- What is wrong with a row: it is too wide or too narrow, or else it has a faulty cell with sound
cells before it. -/
inductive RowFault (width month : Nat) (row : List String) : VestingError → Prop
  | ragged (h : row.length ≠ width) : RowFault width month row .raggedRow
  | cell {before after : List String} {value : String} {e : VestingError}
      (hwidth : row.length = width) (hrow : row = before ++ value :: after)
      (hbefore : ∀ v ∈ before, Sound v) (h : CellFault month before.length value e) :
      RowFault width month row e

theorem soundRow_iff : SoundRow width row ↔ ∃ amounts, RowWorth width row amounts := by
  constructor
  · intro h
    obtain ⟨amounts, hamounts⟩ := exists_forall₂.mpr h.cells
    exact ⟨amounts, h.width, hamounts⟩
  · rintro ⟨amounts, h⟩
    exact ⟨h.width, exists_forall₂.mp ⟨amounts, h.cells⟩⟩

theorem RowWorth.length_eq {amounts : List UInt64} (h : RowWorth width row amounts) :
    amounts.length = width :=
  h.cells.length_eq.symm.trans h.width

theorem RowWorth.getD {amounts : List UInt64} (h : RowWorth width row amounts)
    (hcolumn : column < width) :
    ∃ value, row[column]? = some value ∧ Worth value (amounts.getD column 0).toNat := by
  have hrow : column < row.length := by rwa [h.width]
  have hamounts : column < amounts.length := by rwa [h.length_eq]
  refine ⟨row[column], List.getElem?_eq_getElem hrow, ?_⟩
  rw [List.getD_eq_getElem?_getD, List.getElem?_eq_getElem hamounts, Option.getD_some]
  exact h.cells.get hrow hamounts

theorem readRow_eq_ok {amounts : List UInt64} :
    readRow width month row = .ok amounts ↔ RowWorth width row amounts := by
  rw [readRow]
  split
  · rename_i hwidth
    exact iff_of_false nofun fun h ↦ hwidth h.width
  · rename_i hwidth
    rw [mapM_zipIdx_eq_ok fun _ _ _ ↦ readCell_eq_ok]
    exact ⟨fun h ↦ ⟨not_not.mp hwidth, h⟩, fun h ↦ h.cells⟩

theorem readRow_eq_error {e : VestingError} :
    readRow width month row = .error e ↔ RowFault width month row e := by
  rw [readRow]
  split
  · rename_i hwidth
    rw [Except.error.injEq]
    constructor
    · rintro rfl
      exact .ragged hwidth
    · rintro (_ | ⟨h, -, -, -⟩)
      · rfl
      · exact absurd h hwidth
  · rename_i hwidth
    have hwidth := not_not.mp hwidth
    rw [mapM_zipIdx_eq_error fun _ _ _ ↦ readCell_eq_ok]
    simp only [readCell_eq_error, Nat.zero_add]
    constructor
    · rintro ⟨before, value, after, hrow, hbefore, h⟩
      exact .cell hwidth hrow hbefore h
    · rintro (h | ⟨-, hrow, hbefore, h⟩)
      · exact absurd hwidth h
      · exact ⟨_, _, _, hrow, hbefore, h⟩

/-! ## The table -/

/-- The names in the first row of a table; none when it has no rows. -/
def header (s : String) : List String := (Csv.rows s).headD []

/-- The rows after the first one. -/
def body (s : String) : List (List String) := (Csv.rows s).tail

/-- The receivers with these addresses, to each the amounts of its column. -/
def columns (addresses : List Address) (months : List (List UInt64)) : List Receiver :=
  addresses.zipIdx.map fun (a, column) ↦ ⟨a, months.map fun row ↦ row.getD column 0⟩

theorem getElem?_columns (addresses : List Address) (months : List (List UInt64)) (column : Nat) :
    (columns addresses months)[column]? =
      addresses[column]?.map fun a ↦ ⟨a, months.map fun row ↦ row.getD column 0⟩ := by
  rw [columns, List.getElem?_map, List.getElem?_zipIdx, Option.map_map, Nat.zero_add]
  rfl

theorem parse_eq (aliases : SortedMap String Address) (s : String) : parse aliases s = (do
    let addresses ← (header s).mapM (resolve aliases)
    let months ← (body s).zipIdx.mapM fun (row, i) ↦ readRow (header s).length (i + 1) row
    return columns addresses months) := by
  rw [parse, header, body]
  cases Csv.rows s with
  | nil => rfl
  | cons first rest => rfl

/-- The receivers are those of the table: one to a column, in the same order and with the address
behind the name of the column, and to each one amount for every row, which is what the cell in that
row and column is worth. -/
structure Loaded (aliases : SortedMap String Address) (s : String) (receivers : List Receiver) :
    Prop where
  addresses : List.Forall₂ (fun name r ↦ aliases.get? name = some r.address) (header s) receivers
  widths : ∀ row ∈ body s, row.length = (header s).length
  amounts : ∀ (column : Nat) (r : Receiver), receivers[column]? = some r →
    List.Forall₂ (fun row n ↦ ∃ value, row[column]? = some value ∧ Worth value n.toNat) (body s)
      r.monthlyAmounts

/-- What is wrong with a table: a name has no address behind it and all names before it have one, or
else a row is faulty and all rows before it are sound. Months are counted from one. -/
inductive Refusal (aliases : SortedMap String Address) (s : String) : VestingError → Prop
  | unknownAlias {early late : List String} {name : String}
      (hheader : header s = early ++ name :: late)
      (hearly : ∀ n ∈ early, ∃ a, aliases.get? n = some a) (h : aliases.get? name = none) :
      Refusal aliases s (.unknownAlias name)
  | row {early late : List (List String)} {row : List String} {e : VestingError}
      (hknown : ∀ name ∈ header s, ∃ a, aliases.get? name = some a)
      (hbody : body s = early ++ row :: late) (hearly : ∀ r ∈ early, SoundRow (header s).length r)
      (h : RowFault (header s).length (early.length + 1) row e) :
      Refusal aliases s e

theorem resolve_eq_ok {name : String} {a : Address} :
    resolve aliases name = .ok a ↔ aliases.get? name = some a := by
  rw [resolve]
  cases aliases.get? name with
  | none => exact iff_of_false nofun nofun
  | some b => rw [Except.ok.injEq, Option.some.injEq]

theorem resolve_eq_error {name : String} {e : VestingError} :
    resolve aliases name = .error e ↔ aliases.get? name = none ∧ e = .unknownAlias name := by
  rw [resolve]
  cases aliases.get? name with
  | none =>
    rw [Except.error.injEq, eq_comm]
    exact (and_iff_right rfl).symm
  | some b => exact iff_of_false nofun fun h ↦ (nomatch h.1)

theorem mapM_resolve_eq_ok {names : List String} {addresses : List Address} :
    names.mapM (resolve aliases) = .ok addresses ↔
      List.Forall₂ (fun name a ↦ aliases.get? name = some a) names addresses := by
  simp only [mapM_eq_ok, resolve_eq_ok]

theorem loaded_columns {addresses : List Address} {months : List (List UInt64)}
    (haddresses : List.Forall₂ (fun name a ↦ aliases.get? name = some a) (header s) addresses)
    (hmonths : List.Forall₂ (RowWorth (header s).length) (body s) months) :
    Loaded aliases s (columns addresses months) where
  addresses := by
    rw [columns, List.forall₂_map_right_iff,
      ← List.forall₂_map_right_iff (R := fun name a ↦ aliases.get? name = some a) (f := Prod.fst),
      List.zipIdx_map_fst]
    exact haddresses
  widths := by
    have hall := exists_forall₂.mp ⟨months, hmonths⟩
    intro row hrow
    obtain ⟨amounts, h⟩ := hall row hrow
    exact h.width
  amounts := by
    intro column r hr
    rw [getElem?_columns, Option.map_eq_some_iff] at hr
    obtain ⟨a, ha, rfl⟩ := hr
    obtain ⟨hcolumn, -⟩ := List.getElem?_eq_some_iff.mp ha
    rw [← haddresses.length_eq] at hcolumn
    rw [List.forall₂_map_right_iff]
    exact hmonths.imp fun row amounts h ↦ h.getD hcolumn

/-- A table has no more than one list of receivers. -/
theorem Loaded.unique {receivers receivers' : List Receiver} (h : Loaded aliases s receivers)
    (h' : Loaded aliases s receivers') : receivers = receivers' := by
  have hlength : receivers.length = receivers'.length :=
    h.addresses.length_eq.symm.trans h'.addresses.length_eq
  refine List.ext_getElem hlength fun column hcolumn hcolumn' ↦ ?_
  have hheader : column < (header s).length := by rwa [h.addresses.length_eq]
  have haddress : receivers[column].address = receivers'[column].address :=
    Option.some.inj ((h.addresses.get hheader hcolumn).symm.trans
      (h'.addresses.get hheader hcolumn'))
  have hamounts : receivers[column].monthlyAmounts = receivers'[column].monthlyAmounts := by
    refine List.right_unique_forall₂' ?_
      (h.amounts column _ (List.getElem?_eq_getElem hcolumn))
      (h'.amounts column _ (List.getElem?_eq_getElem hcolumn'))
    rintro row m n ⟨value, hvalue, hm⟩ ⟨value', hvalue', hn⟩
    obtain rfl := Option.some.inj (hvalue.symm.trans hvalue')
    exact UInt64.toNat_inj.mp (hm.unique hn)
  exact Receiver.ext haddress hamounts

theorem Loaded.soundRow {receivers : List Receiver} (h : Loaded aliases s receivers) :
    ∀ row ∈ body s, SoundRow (header s).length row := by
  intro row hrow
  refine ⟨h.widths row hrow, fun value hvalue ↦ ?_⟩
  obtain ⟨column, hcolumn, rfl⟩ := List.getElem_of_mem hvalue
  have hreceiver : column < receivers.length := by
    rwa [← h.addresses.length_eq, ← h.widths row hrow]
  have hamounts := h.amounts column _ (List.getElem?_eq_getElem hreceiver)
  obtain ⟨n, value, hvalue, hworth⟩ := exists_forall₂.mp ⟨_, hamounts⟩ row hrow
  rw [List.getElem?_eq_getElem hcolumn] at hvalue
  exact ⟨n, Option.some.inj hvalue ▸ hworth⟩

theorem parse_eq_ok {receivers : List Receiver} :
    parse aliases s = .ok receivers ↔ Loaded aliases s receivers := by
  have hload {receivers : List Receiver} (h : parse aliases s = .ok receivers) :
      Loaded aliases s receivers := by
    rw [parse_eq, bind_eq_ok] at h
    obtain ⟨addresses, haddresses, h⟩ := h
    obtain ⟨months, hmonths, h⟩ := bind_eq_ok.mp h
    rw [mapM_zipIdx_eq_ok fun _ _ _ ↦ readRow_eq_ok] at hmonths
    rw [← Except.ok.inj h]
    exact loaded_columns (mapM_resolve_eq_ok.mp haddresses) hmonths
  refine ⟨hload, fun h ↦ ?_⟩
  -- a table with receivers is read as some, and these are the only ones it has
  have hknown : ∀ name ∈ header s, ∃ a, aliases.get? name = some a := by
    intro name hname
    obtain ⟨r, hr⟩ := exists_forall₂.mp ⟨receivers, h.addresses⟩ name hname
    exact ⟨r.address, hr⟩
  have hsound : ∀ row ∈ body s, ∃ amounts, RowWorth (header s).length row amounts :=
    fun row hrow ↦ soundRow_iff.mp (h.soundRow row hrow)
  obtain ⟨addresses, haddresses⟩ := exists_forall₂.mpr hknown
  obtain ⟨months, hmonths⟩ := exists_forall₂.mpr hsound
  have hparse : parse aliases s = .ok (columns addresses months) := by
    rw [parse_eq, bind_eq_ok]
    refine ⟨addresses, mapM_resolve_eq_ok.mpr haddresses, bind_eq_ok.mpr ⟨months, ?_, rfl⟩⟩
    exact (mapM_zipIdx_eq_ok fun _ _ _ ↦ readRow_eq_ok).mpr hmonths
  rw [hparse, (loaded_columns haddresses hmonths).unique h]

theorem parse_eq_error {e : VestingError} :
    parse aliases s = .error e ↔ Refusal aliases s e := by
  rw [parse_eq, bind_eq_error, mapM_eq_error]
  simp only [mapM_resolve_eq_ok, resolve_eq_ok, resolve_eq_error]
  constructor
  · rintro (⟨early, name, late, hheader, hearly, hnone, rfl⟩ | ⟨addresses, haddresses, h⟩)
    · exact .unknownAlias hheader hearly hnone
    · have hknown := exists_forall₂.mp ⟨addresses, haddresses⟩
      have hmonths := bind_ok_eq_error.mp h
      rw [mapM_zipIdx_eq_error fun _ _ _ ↦ readRow_eq_ok] at hmonths
      obtain ⟨early, row, late, hbody, hearly, hrow⟩ := hmonths
      rw [Nat.zero_add, readRow_eq_error] at hrow
      exact .row hknown hbody (fun r hr ↦ soundRow_iff.mpr (hearly r hr)) hrow
  · rintro (⟨hheader, hearly, hnone⟩ | ⟨hknown, hbody, hearly, hrow⟩)
    · exact .inl ⟨_, _, _, hheader, hearly, hnone, rfl⟩
    · obtain ⟨addresses, haddresses⟩ := exists_forall₂.mpr hknown
      refine .inr ⟨addresses, haddresses, bind_ok_eq_error.mpr ?_⟩
      rw [mapM_zipIdx_eq_error fun _ _ _ ↦ readRow_eq_ok]
      refine ⟨_, _, _, hbody, fun r hr ↦ soundRow_iff.mp (hearly r hr), ?_⟩
      rw [Nat.zero_add, readRow_eq_error]
      exact hrow

/-! ## Receivers that grow with every cell -/

/-- Why a table is not loaded in place: it is refused, or a column has no receiver. -/
inductive LoadFault where
  | refused (e : VestingError)
  | noReceiver (column : Nat)

/-- The receiver with one amount more. -/
def extended (r : Receiver) (n : UInt64) : Receiver :=
  { r with monthlyAmounts := r.monthlyAmounts ++ [n] }

/-- One amount more for the receiver with this number. -/
def addTo (receivers : List Receiver) (column : Nat) (n : UInt64) :
    Except LoadFault (List Receiver) :=
  match receivers[column]? with
  | none => .error (.noReceiver column)
  | some r => .ok (receivers.set column (extended r n))

/-- The receivers after a cell, which comes with the number of its column. -/
def loadCell (month : Nat) (receivers : List Receiver) (cell : String × Nat) :
    Except LoadFault (List Receiver) := do
  let n ← (readCell month cell.2 cell.1).mapError .refused
  addTo receivers cell.2 n

/-- The receivers after a row, which comes with the number of rows before it. -/
def loadRow (width : Nat) (receivers : List Receiver) (line : List String × Nat) :
    Except LoadFault (List Receiver) :=
  if line.1.length ≠ width then .error (.refused .raggedRow)
  else line.1.zipIdx.foldlM (loadCell (line.2 + 1)) receivers

/-- The receivers of a table, to which the amounts are added while its cells are read. -/
def parseInPlace (aliases : SortedMap String Address) (s : String) :
    Except LoadFault (List Receiver) := do
  let addresses ← ((header s).mapM (resolve aliases)).mapError .refused
  (body s).zipIdx.foldlM (loadRow (header s).length) (addresses.map (⟨·, []⟩))

variable {receivers : List Receiver} {k : Nat}

theorem addTo_append (done todo : List Receiver) (r : Receiver) (n : UInt64) :
    addTo (done ++ r :: todo) done.length n = .ok ((done ++ [extended r n]) ++ todo) := by
  have hget : (done ++ r :: todo)[done.length]? = some r := by
    rw [List.getElem?_append_right (Nat.le_refl _), Nat.sub_self, List.getElem?_cons_zero]
  rw [addTo, hget]
  show Except.ok ((done ++ r :: todo).set done.length (extended r n)) = _
  rw [List.set_append_right _ _ (Nat.le_refl _), Nat.sub_self, List.set_cons_zero,
    List.append_assoc, List.singleton_append]

/-- The cells that are left of a row are for the receivers that are left: one for each. -/
theorem foldlM_loadCell (month : Nat) (done : List Receiver) {todo : List Receiver}
    (h : row.length = todo.length) :
    (row.zipIdx done.length).foldlM (loadCell month) (done ++ todo) =
      (((row.zipIdx done.length).mapM fun cell ↦ readCell month cell.2 cell.1).mapError
        LoadFault.refused).map fun amounts ↦ done ++ List.zipWith extended todo amounts := by
  induction row generalizing done todo with
  | nil =>
    obtain rfl := List.eq_nil_of_length_eq_zero h.symm
    rfl
  | cons value row ih =>
    obtain ⟨r, todo, rfl⟩ := List.exists_cons_of_length_eq_add_one h.symm
    rw [List.zipIdx_cons, List.foldlM_cons, List.mapM_cons]
    cases hread : readCell month done.length value with
    | error e =>
      have hstep : loadCell month (done ++ r :: todo) (value, done.length) =
          .error (.refused e) := by
        rw [loadCell, hread]
        rfl
      rw [hstep]
      rfl
    | ok n =>
      have hstep : loadCell month (done ++ r :: todo) (value, done.length) =
          .ok ((done ++ [extended r n]) ++ todo) := by
        rw [loadCell, hread]
        exact addTo_append done todo r n
      have hrest := ih (done ++ [extended r n]) (Nat.succ.inj h)
      rw [List.length_append, List.length_singleton] at hrest
      rw [hstep]
      refine hrest.trans ?_
      cases (row.zipIdx (done.length + 1)).mapM fun cell ↦ readCell month cell.2 cell.1 with
      | error e => rfl
      | ok amounts => exact congrArg Except.ok (List.append_assoc _ _ _)

/-- The receivers with the amounts of a month, one for each. -/
theorem loadRow_eq (h : receivers.length = width) (i : Nat) :
    loadRow width receivers (row, i) =
      ((readRow width (i + 1) row).mapError LoadFault.refused).map
        (List.zipWith extended receivers) := by
  rw [loadRow, readRow]
  split
  · rfl
  · rename_i hwidth
    exact foldlM_loadCell (i + 1) [] ((not_not.mp hwidth).trans h.symm)

theorem foldlM_loadRow (rows : List (List String)) (h : receivers.length = width) :
    (rows.zipIdx k).foldlM (loadRow width) receivers =
      (((rows.zipIdx k).mapM fun line ↦ readRow width (line.2 + 1) line.1).mapError
        LoadFault.refused).map fun months ↦ months.foldl (List.zipWith extended) receivers := by
  induction rows generalizing receivers k with
  | nil => rfl
  | cons row rows ih =>
    rw [List.zipIdx_cons, List.foldlM_cons, List.mapM_cons, loadRow_eq h]
    cases hread : readRow width (k + 1) row with
    | error e => rfl
    | ok amounts =>
      have hlength : (List.zipWith extended receivers amounts).length = width := by
        rw [List.length_zipWith, h, (readRow_eq_ok.mp hread).length_eq, Nat.min_self]
      refine (ih hlength).trans ?_
      cases (rows.zipIdx (k + 1)).mapM fun line ↦ readRow width (line.2 + 1) line.1 with
      | error e => rfl
      | ok months => rfl

/-- What a receiver has after some months: what was there before, and what these hold for it. -/
theorem getElem?_foldl_extended {months : List (List UInt64)}
    (h : ∀ amounts ∈ months, amounts.length = receivers.length) :
    (months.foldl (List.zipWith extended) receivers)[column]? =
      receivers[column]?.map fun r ↦
        ⟨r.address, r.monthlyAmounts ++ months.map fun row ↦ row.getD column 0⟩ := by
  induction months generalizing receivers with
  | nil => simp
  | cons amounts months ih =>
    obtain ⟨hamounts, hmonths⟩ := List.forall_mem_cons.mp h
    have hlength : (List.zipWith extended receivers amounts).length = receivers.length := by
      rw [List.length_zipWith, hamounts, Nat.min_self]
    rw [List.foldl_cons, ih (by rwa [hlength]), List.getElem?_zipWith]
    rcases Nat.lt_or_ge column receivers.length with hlt | hge
    · have hlt' : column < amounts.length := by rwa [hamounts]
      simp [extended, hlt, hlt']
    · rw [List.getElem?_eq_none hge]
      rfl

/-- No column is without a receiver, so that it does not matter which way a table is loaded. -/
theorem parseInPlace_eq (aliases : SortedMap String Address) (s : String) :
    parseInPlace aliases s = (parse aliases s).mapError LoadFault.refused := by
  rw [parse_eq, parseInPlace]
  cases haddresses : (header s).mapM (resolve aliases) with
  | error e => rfl
  | ok addresses =>
    have hlength : (addresses.map (Receiver.mk · [])).length = (header s).length := by
      rw [List.length_map, (mapM_eq_ok.mp haddresses).length_eq]
    refine (foldlM_loadRow (body s) hlength).trans ?_
    cases hmonths : (body s).zipIdx.mapM fun (row, i) ↦ readRow (header s).length (i + 1) row with
    | error e => rfl
    | ok months =>
      have hwidths : ∀ amounts ∈ months,
          amounts.length = (addresses.map (Receiver.mk · [])).length := by
        intro amounts hamounts
        obtain ⟨line, -, hread⟩ := exists_of_mem_mapM hmonths hamounts
        rw [hlength, (readRow_eq_ok.mp hread).length_eq]
      refine congrArg Except.ok (List.ext_getElem? fun column ↦ ?_)
      rw [getElem?_foldl_extended hwidths, getElem?_columns, List.getElem?_map, Option.map_map]
      rfl

/-! ## What is promised of loading a table -/

theorem trim_of_mem_rows (hrow : row ∈ Csv.rows s) (hvalue : value ∈ row) :
    Text.trim value = value := by
  obtain ⟨fields, -, rfl⟩ := List.mem_map.mp hrow
  obtain ⟨field, -, rfl⟩ := List.mem_map.mp hvalue
  rw [Text.trim, String.toList_ofList, Text.trimChars_trimChars]

/-- A table is loaded without loss. -/
structure Faithful (aliases : SortedMap String Address) (s : String) : Prop where
  /-- Names and cells come without blanks around them. -/
  trimmed : ∀ row ∈ Csv.rows s, ∀ value ∈ row, Text.trim value = value
  loaded : ∀ receivers, parse aliases s = .ok receivers ↔ Loaded aliases s receivers
  refused : ∀ e, parse aliases s = .error e ↔ Refusal aliases s e
  /-- Adding the amounts in place gives the same, and never fails for want of a receiver. -/
  inPlace : parseInPlace aliases s = (parse aliases s).mapError LoadFault.refused

/-- **Vesting tables are loaded without loss or shift**: every cell comes to its own column and
month, at what it is worth exactly, and a table that cannot be loaded so is refused for the first
thing that is wrong with it. -/
theorem parse_faithful (aliases : SortedMap String Address) (s : String) : Faithful aliases s where
  trimmed := fun _ hrow _ hvalue ↦ trim_of_mem_rows hrow hvalue
  loaded := fun _ ↦ parse_eq_ok
  refused := fun _ ↦ parse_eq_error
  inPlace := parseInPlace_eq aliases s

end VestingTable

end Tokenomics

import AssetOverlay.Proofs.Key.Spelling
import AssetOverlay.Proofs.StringTable.Reading
import Mathlib.Algebra.Ring.Int.Defs

/-!
# The shape of tables

Records may have any number of cells, but every row of a table that was read has one cell for each
column, and each cell is a value of its column's type.
-/

namespace AssetOverlay

/-- The values of a type. -/
inductive CellType.Holds : CellType → Cell → Prop where
  | undefined : Holds .undefined .undefined
  | string (text : String) : Holds .string (.string text)
  | int {value : Int64} : -2 ^ 63 ≤ value.toInt → value.toInt < 2 ^ 63 → Holds .int (.int value)
  | float (value : Single) : Holds .float (.float value)
  | hash {key : Key} : key.value.toNat < 2 ^ 63 → Holds .hash (.hash key)
  | hash7 {key : Key} : key.value.toNat < 2 ^ 63 → Holds .hash7 (.hash key)
  | hash8 {key : Key} : key.value.toNat < 2 ^ 63 → Holds .hash8 (.hash key)
  | bool (value : Bool) : Holds .bool (.bool value)

theorem CellType.holds_of_read {type : CellType} {text : String} {cell : Cell}
    (h : type.read text = .ok cell) : type.Holds cell := by
  cases type with
  | undefined =>
    cases h
    exact .undefined
  | string =>
    cases h
    exact .string text
  | int =>
    cases hvalue : Integer.read (Blank.trim text.toList) with
    | error failure => simp [read, hvalue] at h
    | ok value =>
      simp only [read, hvalue, Except.ok.injEq] at h
      rw [← h]
      exact .int value.le_toInt value.toInt_lt
  | float =>
    cases hvalue : Single.read (Blank.trim text.toList) with
    | error failure => simp [read, hvalue] at h
    | ok value =>
      simp only [read, hvalue, Except.ok.injEq] at h
      rw [← h]
      exact .float value
  | hash =>
    cases h
    exact .hash (Key.toNat_ofName_lt text)
  | hash7 =>
    cases h
    exact .hash7 (Key.toNat_ofName_lt text)
  | hash8 =>
    cases h
    exact .hash8 (Key.toNat_ofName_lt text)
  | bool =>
    cases h
    exact .bool _

namespace StringTable

open Records

/-- Every row has one cell for each column, of its type. -/
def WellShaped (table : StringTable) : Prop :=
  ∀ row ∈ table.rows, List.Forall₂ CellType.Holds table.types row

theorem holds_of_readCells {line first : Nat} {types : List CellType} {texts : List String}
    {cells : List Cell} (h : readCells line first types texts = .ok cells) :
    List.Forall₂ CellType.Holds types cells := by
  obtain ⟨hle, hcells⟩ := readCells_eq_ok_iff.mp h
  have hfirst : List.Forall₂ CellType.Holds ((types.zip texts).map Prod.fst) cells :=
    List.forall₂_map_left_iff.mpr (hcells.imp fun _ _ hread ↦ CellType.holds_of_read hread)
  rwa [List.map_fst_zip hle] at hfirst

theorem holds_of_readRows {source : Bytes} {types : List CellType} {records : List Record}
    {rows : List (List Cell)} (h : readRows source types (records.map .ok) = .ok rows) :
    ∀ row ∈ rows, List.Forall₂ CellType.Holds types row := by
  have hrows := readRows_eq_ok_iff.mp h
  clear h
  induction hrows with
  | nil => simp
  | cons hcells hrest ih => exact List.forall_mem_cons.mpr ⟨holds_of_readCells hcells, ih⟩

namespace WellShaped

variable {table : StringTable} (h : table.WellShaped)

include h

theorem length_eq {row : List Cell} (hrow : row ∈ table.rows) : row.length = table.columnCount :=
  (h row hrow).length_eq.symm

theorem isSome_cell?_iff (row column : Nat) :
    (table.cell? row column).isSome ↔ row < table.rowCount ∧ column < table.columnCount := by
  unfold cell? rowCount
  by_cases hlt : row < table.rows.length
  · simp [hlt, h.length_eq (List.getElem_mem hlt)]
  · simp [hlt]

theorem holds_of_cell? {row column : Nat} {cell : Cell}
    (hcell : table.cell? row column = some cell) :
    ∃ type, table.types[column]? = some type ∧ type.Holds cell := by
  obtain ⟨cells, hcells, hcolumn⟩ := Option.bind_eq_some_iff.mp hcell
  have hrow := h cells (List.mem_of_getElem? hcells)
  obtain ⟨hlt, rfl⟩ := List.getElem?_eq_some_iff.mp hcolumn
  have htypes : column < table.types.length := hrow.length_eq ▸ hlt
  exact ⟨table.types[column], List.getElem?_eq_getElem htypes, hrow.get htypes hlt⟩

end WellShaped

/-- A table that is read has the right shape, and a first record has at least one column. -/
theorem wellShaped_of_readBy {splitter : Splitter} (h : FollowsDialect splitter) {source : Bytes}
    {table : StringTable} (hread : readBy splitter source = .ok table) :
    table.WellShaped ∧ (table.columnCount = 0 → table.rowCount = 0) := by
  have htext := isText_of_readBy hread
  obtain ⟨records, hlaid⟩ := exists_laid (unmarked source)
  cases records with
  | nil =>
    rw [readBy_of_laid_nil h htext hlaid] at hread
    cases hread
    exact ⟨by simp [WellShaped], fun _ ↦ rfl⟩
  | cons header rows =>
    obtain ⟨first, reported, -, hne, -, heq⟩ := readBy_of_laid_cons h htext hlaid
    rw [heq, ofRecords_cons_eq_ok_iff] at hread
    refine ⟨holds_of_readRows hread.2, fun hcolumns ↦ ?_⟩
    rw [List.length_eq_zero_iff.mp hcolumns] at hread
    exact absurd hread.1 hne

/-- Whatever splits sources into records, if it follows the dialect: every table that is read is
rectangular, with cells exactly at the places in it and each of them of its column's type, and a
table without columns has no rows. -/
theorem tables_are_rectangular {splitter : Splitter} (h : FollowsDialect splitter) {source : Bytes}
    {table : StringTable} (hread : readBy splitter source = .ok table) :
    (∀ row ∈ table.rows, row.length = table.columnCount) ∧
      (∀ row column, (table.cell? row column).isSome ↔
        row < table.rowCount ∧ column < table.columnCount) ∧
      (∀ row column cell, table.cell? row column = some cell →
        ∃ type, table.types[column]? = some type ∧ type.Holds cell) ∧
      (table.columnCount = 0 → table.rowCount = 0) := by
  obtain ⟨hshape, hcolumns⟩ := wellShaped_of_readBy h hread
  exact ⟨fun row hrow ↦ hshape.length_eq hrow, hshape.isSome_cell?_iff,
    fun row column cell hcell ↦ hshape.holds_of_cell? hcell, hcolumns⟩

/-- Records with too many cells and a quoted cell make up a table with one column. -/
theorem ragged_records_are_rectangular :
    let source := Bytes.ofText "hash7\n\"a\nb\",1,2\nscript_ff,\n"
    let table : StringTable := ⟨[.hash7], [[.hash (Key.hash "a\nb")], [.hash ⟨255⟩]]⟩
    FollowsDialect split ∧ read source = .ok table ∧
      table.cell? 1 0 = some (.hash ⟨255⟩) ∧ CellType.hash7.Holds (.hash ⟨255⟩) := by
  intro source table
  have hread : readBy split source = .ok table := by decide +kernel
  have hcell : table.cell? 1 0 = some (.hash ⟨255⟩) := by decide +kernel
  obtain ⟨type, htype, hholds⟩ :=
    (tables_are_rectangular split_followsDialect hread).2.2.1 1 0 _ hcell
  cases htype
  exact ⟨split_followsDialect, hread, hcell, hholds⟩

end StringTable

end AssetOverlay

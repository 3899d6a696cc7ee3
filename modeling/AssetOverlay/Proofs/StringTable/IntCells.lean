import AssetOverlay.Proofs.Number.Integers
import AssetOverlay.Proofs.StringTable.Reading

/-!
# Cells of integers

A cell of an integer column holds a text that writes an integer, with white space around it, and it
is read as this integer.  A table with any other text in such a column can't be read, whatever else
it holds.
-/

namespace AssetOverlay

/-! ## White space -/

namespace Blank

variable {front core back : List Char}

theorem trimFront_append (hfront : ∀ character ∈ front, isBlank character)
    (rest : List Char) : trimFront (front ++ rest) = trimFront rest :=
  List.dropWhile_append_of_pos hfront

theorem trimFront_eq_self (rest : List Char) (hcore : ∀ character ∈ core, isBlank character = false)
    (hne : core ≠ []) : trimFront (core ++ rest) = core ++ rest := by
  obtain ⟨first, later, rfl⟩ := List.exists_cons_of_ne_nil hne
  exact List.dropWhile_cons_of_neg (by simp [hcore first List.mem_cons_self])

/-- White space is cut off a text that has none itself. -/
theorem trim_append (hfront : ∀ character ∈ front, isBlank character)
    (hback : ∀ character ∈ back, isBlank character)
    (hcore : ∀ character ∈ core, isBlank character = false) (hne : core ≠ []) :
    trim (front ++ core ++ back) = core := by
  have hreversed : ∀ character ∈ core.reverse, isBlank character = false := by
    simpa only [List.mem_reverse] using hcore
  have hend : ∀ character ∈ back.reverse, isBlank character := by
    simpa only [List.mem_reverse] using hback
  have hlast := trimFront_eq_self [] hreversed (mt List.reverse_eq_nil_iff.mp hne)
  rw [List.append_nil] at hlast
  rw [trim, List.append_assoc, trimFront_append hfront, trimFront_eq_self back hcore hne,
    List.reverse_append, trimFront_append hend, hlast, List.reverse_reverse]

/-- What is cut off both ends is white space. -/
theorem exists_append_trim (text : List Char) : ∃ front back, text = front ++ trim text ++ back ∧
    (∀ character ∈ front, isBlank character) ∧ ∀ character ∈ back, isBlank character := by
  let rest := text.dropWhile isBlank
  refine ⟨text.takeWhile isBlank, (rest.reverse.takeWhile isBlank).reverse, ?_, ?_, ?_⟩
  · have hrest : trim text ++ (rest.reverse.takeWhile isBlank).reverse = rest := by
      rw [trim, trimFront, trimFront, ← List.reverse_append, List.takeWhile_append_dropWhile,
        List.reverse_reverse]
    rw [List.append_assoc, hrest, List.takeWhile_append_dropWhile]
  · exact fun character hmem ↦ List.mem_takeWhile_imp hmem
  · intro character hmem
    rw [List.mem_reverse] at hmem
    exact List.mem_takeWhile_imp hmem

end Blank

/-! ## Texts of integers -/

/-- A text that writes an integer, between white space. -/
def IntegerCell (text : String) (value : Int) : Prop :=
  ∃ front core back, text.toList = front ++ core ++ back ∧
    (∀ character ∈ front, Blank.isBlank character) ∧
    (∀ character ∈ back, Blank.isBlank character) ∧ WrittenInteger core value

theorem DigitOf.not_blank {base : Nat} {character : Char} {value : Nat}
    (h : DigitOf base character value) : Blank.isBlank character = false := by
  rw [digitOf_iff] at h
  simp only [Blank.isBlank, Blank.ranges, List.any_cons, List.any_nil, Bool.or_false,
    Bool.or_eq_false_iff, Bool.and_eq_false_iff, decide_eq_false_iff_not]
  omega

theorem Writes.not_blank {base number : Nat} {digits : List Char} (h : Writes base digits number) :
    ∀ digit ∈ digits, Blank.isBlank digit = false := by
  obtain ⟨values, hvalues, -⟩ := h
  exact ((List.forall₂_and_left digits values).mp
    (hvalues.imp fun digit value hdigit ↦ ⟨hdigit.not_blank, hdigit⟩)).1

theorem WrittenNatural.not_blank {base number : Nat} {text : List Char}
    (h : WrittenNatural base text number) :
    ∀ character ∈ text, Blank.isBlank character = false := by
  obtain ⟨plus, digits, rfl, hplus, -, hwrites⟩ := h
  rw [List.forall_mem_append]
  refine ⟨?_, hwrites.not_blank⟩
  rcases hplus with rfl | rfl
  · exact List.forall_mem_nil _
  · exact List.forall_mem_singleton.mpr (by decide)

theorem WrittenInteger.not_blank {text : List Char} {value : Int} (h : WrittenInteger text value) :
    ∀ character ∈ text, Blank.isBlank character = false := by
  cases h with
  | hexadecimal hword _ =>
    have hmark : Blank.isBlank '0' = false ∧ Blank.isBlank 'x' = false := by decide
    exact List.forall_mem_cons.mpr ⟨hmark.1, List.forall_mem_cons.mpr ⟨hmark.2, hword.not_blank⟩⟩
  | decimal hnumber _ => exact hnumber.not_blank
  | negative _ hwrites _ =>
    exact List.forall_mem_cons.mpr ⟨by decide, hwrites.not_blank⟩

theorem WrittenInteger.ne_nil {text : List Char} {value : Int} (h : WrittenInteger text value) :
    text ≠ [] := by
  cases h with
  | hexadecimal _ _ => exact List.cons_ne_nil _ _
  | decimal hnumber _ =>
    rintro rfl
    exact not_writtenNatural_nil hnumber
  | negative _ _ _ => exact List.cons_ne_nil _ _

theorem integerCell_iff {text : String} {value : Int} :
    IntegerCell text value ↔ WrittenInteger (Blank.trim text.toList) value := by
  constructor
  · rintro ⟨front, core, back, htext, hfront, hback, hwritten⟩
    rwa [htext, Blank.trim_append hfront hback hwritten.not_blank hwritten.ne_nil]
  · intro hwritten
    obtain ⟨front, back, htext, hfront, hback⟩ := Blank.exists_append_trim text.toList
    exact ⟨front, _, back, htext, hfront, hback, hwritten⟩

/-- Exactly the texts that write an integer between white space are read, as this integer. -/
theorem CellType.read_int_eq_ok_iff {text : String} {cell : Cell} :
    CellType.int.read text = .ok cell ↔
      ∃ value : Int64, cell = .int value ∧ IntegerCell text value.toInt := by
  simp only [integerCell_iff, ← Integer.read_eq_ok_iff]
  unfold CellType.read
  dsimp only
  cases Integer.read (Blank.trim text.toList) with
  | error failure => simp
  | ok value => simp [eq_comm]

namespace StringTable

open Bytes Records

/-! ## Columns of integers -/

/-- A source has a column of integers with the given text in one of its rows. -/
def HasIntCell (source : Bytes) (row column : Nat) (text : String) : Prop :=
  ∃ header rows, Laid source (header :: rows) ∧
    header.fields[column]? = some (ofText CellType.int.name) ∧
    (rows[row]?.bind fun placed ↦ placed.fields[column]?) = some (ofText text)

theorem exists_getElem?_of_forall₂ {First Second : Type} {Related : First → Second → Prop}
    {firsts : List First} {seconds : List Second} (h : List.Forall₂ Related firsts seconds)
    {place : Nat} {first : First} (hfirst : firsts[place]? = some first) :
    ∃ second, seconds[place]? = some second ∧ Related first second := by
  obtain ⟨hlt, rfl⟩ := List.getElem?_eq_some_iff.mp hfirst
  have hother : place < seconds.length := h.length_eq ▸ hlt
  exact ⟨seconds[place], List.getElem?_eq_getElem hother, h.get hlt hother⟩

theorem getElem?_of_map_ofText {texts : List String} {place : Nat} {text : String}
    (h : (texts.map ofText)[place]? = some (ofText text)) : texts[place]? = some text := by
  rw [List.getElem?_map, Option.map_eq_some_iff] at h
  obtain ⟨found, hfound, heq⟩ := h
  rwa [ofText_injective heq] at hfound

/-- A row is read cell by cell. -/
theorem exists_cell_of_readCells {line first column : Nat} {types : List CellType}
    {texts : List String} {cells : List Cell} (h : readCells line first types texts = .ok cells)
    {type : CellType} {text : String} (htype : types[column]? = some type)
    (htext : texts[column]? = some text) :
    ∃ cell, cells[column]? = some cell ∧ type.read text = .ok cell := by
  have hpair : (types.zip texts)[column]? = some (type, text) := by
    rw [List.getElem?_zip_eq_some]
    exact ⟨htype, htext⟩
  exact exists_getElem?_of_forall₂ (readCells_eq_ok_iff.mp h).2 hpair

section Dialect

variable {splitter : Splitter} (h : FollowsDialect splitter) {source : Bytes} {row column : Nat}
  {text : String} (hcell : HasIntCell (unmarked source) row column text)

include h hcell

/-- Where a table is read, the texts of its columns of integers write integers. -/
theorem exists_integer_of_readBy {table : StringTable}
    (hread : readBy splitter source = .ok table) :
    ∃ value : Int64, table.cell? row column = some (.int value) ∧
      IntegerCell text value.toInt := by
  obtain ⟨header, rows, hlaid, hheader, hrow⟩ := hcell
  obtain ⟨placed, hplaced, hfield⟩ := Option.bind_eq_some_iff.mp hrow
  obtain ⟨first, reported, hfields, -, hreported, heq⟩ :=
    readBy_of_laid_cons h (isText_of_readBy hread) hlaid
  rw [heq, ofRecords_cons_eq_ok_iff, readRows_eq_ok_iff] at hread
  obtain ⟨hnames, hrows⟩ := hread
  obtain ⟨record, hrecord, hreports⟩ := exists_getElem?_of_forall₂ hreported hplaced
  obtain ⟨cells, hcells, hreadCells⟩ := exists_getElem?_of_forall₂ hrows hrecord
  have htype : table.types[column]? = some .int := by
    rw [hfields] at hheader
    have hname := getElem?_of_map_ofText hheader
    rw [hnames, List.getElem?_map, Option.map_eq_some_iff] at hname
    obtain ⟨type, htype, hname⟩ := hname
    have hint : CellType.ofName? CellType.int.name = some .int := rfl
    rw [← hname, CellType.ofName?_eq_some_iff.mpr rfl, Option.some_inj] at hint
    rwa [hint] at htype
  rw [hreports.fields] at hfield
  obtain ⟨cell, hcell, hreadCell⟩ :=
    exists_cell_of_readCells hreadCells htype (getElem?_of_map_ofText hfield)
  obtain ⟨value, rfl, hinteger⟩ := CellType.read_int_eq_ok_iff.mp hreadCell
  refine ⟨value, ?_, hinteger⟩
  rw [cell?, hcells]
  exact hcell

end Dialect

/-- Every integer is read from its decimal numeral and from the hexadecimal one of its bits, in
letters of either case and with any number of zeros in front, whatever white space is around it.  A
cell of integers is read exactly if it holds an integer of 64 bits between white space, in one of
the ways to write one, and then as this integer.  So whatever splits sources into records, if it
follows the dialect: a table with a column of integers is read only if all texts in it write
integers. -/
theorem int_cells_read_exactly {splitter : Splitter} (h : FollowsDialect splitter) :
    (∀ (value : Int64) (front back : List Char),
        (∀ character ∈ front, Blank.isBlank character) →
        (∀ character ∈ back, Blank.isBlank character) →
          CellType.int.read (String.ofList (front ++ (toString value.toInt).toList ++ back)) =
              .ok (.int value) ∧
            ∀ (zeros : Nat) (digits : List Char),
              List.Forall₂ (fun first second ↦ first.toLower = second.toLower) digits
                  (Nat.toDigits 16 value.toUInt64.toNat) →
                CellType.int.read (String.ofList
                    (front ++ '0' :: 'x' :: (List.replicate zeros '0' ++ digits) ++ back)) =
                  .ok (.int value)) ∧
      (∀ (text : String) (cell : Cell), CellType.int.read text = .ok cell ↔
        ∃ value : Int64, cell = .int value ∧ IntegerCell text value.toInt) ∧
      ∀ (source : Bytes) (row column : Nat) (text : String),
        HasIntCell (unmarked source) row column text →
          (∀ table, readBy splitter source = .ok table →
            ∃ value : Int64, table.cell? row column = some (.int value) ∧
              IntegerCell text value.toInt) ∧
          ((∀ value : Int64, ¬ IntegerCell text value.toInt) →
            ∃ failure, readBy splitter source = .error failure) := by
  refine ⟨?_, fun text cell ↦ CellType.read_int_eq_ok_iff, ?_⟩
  · intro value front back hfront hback
    have hread {core : List Char} (hwritten : WrittenInteger core value.toInt) :
        CellType.int.read (String.ofList (front ++ core ++ back)) = .ok (.int value) := by
      rw [CellType.read_int_eq_ok_iff]
      exact ⟨value, rfl, front, core, back, String.toList_ofList, hfront, hback, hwritten⟩
    exact ⟨hread (writtenInteger_toString value),
      fun zeros digits hdigits ↦ hread (writtenInteger_toDigits value zeros hdigits)⟩
  · intro source row column text hcell
    refine ⟨fun table ↦ exists_integer_of_readBy h hcell, fun hnone ↦ ?_⟩
    cases hread : readBy splitter source with
    | error failure => exact ⟨failure, rfl⟩
    | ok table =>
      obtain ⟨value, -, hinteger⟩ := exists_integer_of_readBy h hcell hread
      exact absurd hinteger (hnone value)

/-- A table with the mark of hexadecimal numerals alone in a column of integers. -/
def sampleTable : Bytes :=
  ofText "int\n 0x\n"

theorem hasIntCell_sampleTable : HasIntCell (unmarked sampleTable) 0 0 " 0x" := by
  have hwritten (field : Bytes) (hstart : field.head? ≠ some quote)
      (hbytes : field.all fun byte ↦ byte ≠ comma && !isBreak byte) :
      WrittenRecord false field [field] := by
    refine .one (.bare field hstart fun byte hmem ↦ ?_)
    simpa using List.all_eq_true.mp hbytes byte hmem
  have hbreak : ∀ byte ∈ [lineFeed], isBreak byte := List.forall_mem_singleton.mpr (by decide)
  have hend : ∀ byte ∈ [lineFeed].head?, isBreak byte := by simpa using hbreak
  have hrow : Layout 3 ([lineFeed] ++ ofText " 0x" ++ [lineFeed]) [⟨4, 7, [ofText " 0x"]⟩] :=
    .record hbreak (by decide) (hwritten _ (by decide) (by decide)) hend (.done hbreak)
  have hlayout : Layout 0 ([] ++ ofText "int" ++ ([lineFeed] ++ ofText " 0x" ++ [lineFeed]))
      [⟨0, 3, [ofText "int"]⟩, ⟨4, 7, [ofText " 0x"]⟩] :=
    .record (List.forall_mem_nil _) (by decide) (hwritten _ (by decide) (by decide)) hend hrow
  have hbody : unmarked sampleTable =
      [] ++ ofText "int" ++ ([lineFeed] ++ ofText " 0x" ++ [lineFeed]) := by decide
  rw [hbody]
  refine ⟨⟨0, 3, [ofText "int"]⟩, [⟨4, 7, [ofText " 0x"]⟩], ?_, rfl, rfl⟩
  rw [Laid, if_neg (by decide)]
  exact hlayout

/-- The least integer is written by its bits, and the mark of the bits alone spoils a table. -/
theorem mark_without_digits_spoils :
    FollowsDialect split ∧ HasIntCell (unmarked sampleTable) 0 0 " 0x" ∧
      IntegerCell "\u30000x8000000000000000 " Int64.minValue.toInt ∧
      ∃ failure, readBy split sampleTable = .error failure := by
  have hread : CellType.int.read "\u30000x8000000000000000 " = .ok (.int Int64.minValue) := by
    decide +kernel
  have hrefused : CellType.int.read " 0x" = .error (.int .empty) := by decide +kernel
  obtain ⟨-, hcells, htables⟩ := int_cells_read_exactly split_followsDialect
  obtain ⟨value, hvalue, hleast⟩ := (hcells _ _).mp hread
  cases hvalue
  refine ⟨split_followsDialect, hasIntCell_sampleTable, hleast,
    (htables sampleTable 0 0 " 0x" hasIntCell_sampleTable).2 fun value hinteger ↦ ?_⟩
  have hok := (hcells " 0x" _).mpr ⟨value, rfl, hinteger⟩
  rw [hrefused] at hok
  cases hok

end StringTable

end AssetOverlay

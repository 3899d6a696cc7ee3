import AssetOverlay.Proofs.StringTable.Reading

/-!
# Tables written in quotes

Every table can be written down with all of its cells in quotes, whatever they hold.  The records
have any line breaks between them, and there may be some in front of the first, behind the last, and
a byte order mark in front of all.  Reading gives back the types and, cell by cell, the values of the
texts that were written.
-/

namespace AssetOverlay.StringTable

open Bytes Records

/-! ## Writing -/

/-- A text in quotes. -/
def quotedCell (text : String) : Bytes :=
  quote :: (doubled (ofText text) ++ [quote])

/-- Texts in quotes, with commas between them. -/
def quotedRecord (texts : List String) : Bytes :=
  [comma].intercalate (texts.map quotedCell)

/-- A row to be written in quotes, with the line breaks in front of it.  It may have more cells than
there are columns. -/
structure QuotedRow (types : List CellType) where
  breaks : Bytes
  cells : List String
  /-- The values of the cells. -/
  values : List Cell
  breaks_ne : breaks ≠ []
  isBreak_of_mem : ∀ byte ∈ breaks, isBreak byte
  length_le : types.length ≤ cells.length
  converts : List.Forall₂ (fun pair value ↦ CellType.read pair.1 pair.2 = .ok value)
    (types.zip cells) values

variable {types : List CellType}

/-- Rows in quotes, and line breaks behind them. -/
def quotedRows (rows : List (QuotedRow types)) (back : Bytes) : Bytes :=
  rows.flatMap (fun row ↦ row.breaks ++ quotedRecord row.cells) ++ back

/-- A table in quotes. -/
def quotedTable (front : Bytes) (rows : List (QuotedRow types)) (back : Bytes) : Bytes :=
  front ++ quotedRecord (types.map CellType.name) ++ quotedRows rows back

theorem quotedRecord_cons_cons (first second : String) (rest : List String) :
    quotedRecord (first :: second :: rest) =
      quotedCell first ++ comma :: quotedRecord (second :: rest) := by
  simp [quotedRecord, List.intercalate]

theorem quotedRecord_singleton (text : String) : quotedRecord [text] = quotedCell text := by
  simp [quotedRecord, List.intercalate]

/-! ## Quoted cells are laid out as records -/

theorem writtenField_quotedCell (text : String) : WrittenField (quotedCell text) (ofText text) := by
  have hfield := WrittenField.quoted (ofText text) [] (by simp) (by simp [Bare])
  rwa [List.append_nil] at hfield

theorem writtenRecord_quotedRecord (atEnd : Bool) : ∀ {texts : List String}, texts ≠ [] →
    WrittenRecord atEnd (quotedRecord texts) (texts.map ofText)
  | [text], _ => by
    rw [quotedRecord_singleton]
    exact .one (writtenField_quotedCell text)
  | first :: second :: rest, _ => by
    rw [quotedRecord_cons_cons]
    exact .more (writtenField_quotedCell first) (writtenRecord_quotedRecord atEnd (by simp))

theorem head?_quotedRecord : ∀ {texts : List String}, texts ≠ [] →
    (quotedRecord texts).head? = some quote
  | [text], _ => by rw [quotedRecord_singleton]; rfl
  | first :: second :: rest, _ => by rw [quotedRecord_cons_cons]; rfl

theorem quotedRecord_ne_nil {texts : List String} (h : texts ≠ []) : quotedRecord texts ≠ [] := by
  intro hnil
  have hhead := head?_quotedRecord h
  rw [hnil] at hhead
  cases hhead

theorem QuotedRow.cells_ne_nil (row : QuotedRow types) (h : types ≠ []) : row.cells ≠ [] := by
  intro hnil
  have hle := row.length_le
  rw [hnil] at hle
  exact h (List.length_eq_zero_iff.mp (Nat.le_zero.mp hle))

section Layout

variable (rows : List (QuotedRow types)) {back : Bytes} (hback : ∀ byte ∈ back, isBreak byte)

include hback

/-- Line breaks end the record in front of quoted rows. -/
theorem isBreak_of_head?_quotedRows : ∀ byte ∈ (quotedRows rows back).head?, isBreak byte := by
  intro byte hbyte
  cases rows with
  | nil => exact hback byte (List.mem_of_mem_head? hbyte)
  | cons row rows =>
    obtain ⟨first, breaks, hbreaks⟩ := List.exists_cons_of_ne_nil row.breaks_ne
    have hfirst : first = byte := by
      simpa [quotedRows, hbreaks] using hbyte
    exact row.isBreak_of_mem byte (by simp [hbreaks, hfirst])

theorem exists_layout_quotedRows (htypes : types ≠ []) (offset : Nat) :
    ∃ records, Layout offset (quotedRows rows back) records ∧
      records.map PlacedRecord.fields = rows.map fun row ↦ row.cells.map ofText := by
  induction rows generalizing offset with
  | nil => exact ⟨[], .done hback, rfl⟩
  | cons row rows ih =>
    obtain ⟨later, hlater, hfields⟩ :=
      ih (offset + row.breaks.length + (quotedRecord row.cells).length)
    have hcells := row.cells_ne_nil htypes
    have hsource : quotedRows (row :: rows) back =
        row.breaks ++ quotedRecord row.cells ++ quotedRows rows back := by
      simp [quotedRows]
    rw [hsource]
    refine ⟨_, .record row.isBreak_of_mem (quotedRecord_ne_nil hcells)
      (writtenRecord_quotedRecord _ hcells) (isBreak_of_head?_quotedRows rows hback) hlater, ?_⟩
    rw [List.map_cons, List.map_cons, hfields]

end Layout

/-! ## What is written is a text -/

theorem isText_of_breaks {breaks : Bytes} (h : ∀ byte ∈ breaks, isBreak byte) : IsText breaks := by
  have hascii : IsText (breaks ++ []) ↔ IsText [] :=
    isText_append_iff_of_front fun byte hbyte ↦ lt_of_isBreak (h byte hbyte)
  rw [List.append_nil] at hascii
  exact hascii.mpr isText_nil

theorem isText_quotedCell (text : String) : IsText (quotedCell text) := by
  rw [quotedCell, isText_quote_cons_iff, isText_append_cons_iff (by decide), isText_doubled_iff]
  exact ⟨⟨text, rfl⟩, isText_nil⟩

theorem isText_quotedRecord : ∀ texts : List String, IsText (quotedRecord texts)
  | [] => isText_nil
  | [text] => by
    rw [quotedRecord_singleton]
    exact isText_quotedCell text
  | first :: second :: rest => by
    rw [quotedRecord_cons_cons, isText_append_cons_iff (by decide)]
    exact ⟨isText_quotedCell first, isText_quotedRecord (second :: rest)⟩

theorem isText_quotedRows (rows : List (QuotedRow types)) {back : Bytes}
    (hback : ∀ byte ∈ back, isBreak byte) : IsText (quotedRows rows back) := by
  refine IsText.append ?_ (isText_of_breaks hback)
  induction rows with
  | nil => exact isText_nil
  | cons row rows ih =>
    rw [List.flatMap_cons]
    exact ((isText_of_breaks row.isBreak_of_mem).append (isText_quotedRecord row.cells)).append ih

/-! ## Reading -/

/-- A mark in front of a source that starts with a line break or a quote is the only one. -/
theorem take_ne_byteOrderMark {source : Bytes} (h : ∀ byte ∈ source.head?, byte < 128) :
    source.take 3 ≠ byteOrderMark := by
  cases source with
  | nil => simp [byteOrderMark]
  | cons byte rest =>
    rintro hmark
    have hbyte : byte = 0xef := (List.cons.inj hmark).1
    have hlt := h byte rfl
    rw [hbyte] at hlt
    exact absurd hlt (by decide)

theorem unmarked_of_ascii {source : Bytes} (h : ∀ byte ∈ source.head?, byte < 128)
    (marked : Bool) : unmarked ((if marked then byteOrderMark else []) ++ source) = source := by
  cases marked with
  | true => rfl
  | false => exact if_neg (take_ne_byteOrderMark h)

theorem laid_of_ascii {source : Bytes} {records : List PlacedRecord}
    (h : ∀ byte ∈ source.head?, byte < 128) (hlayout : Layout 0 source records) :
    Laid source records := by
  rw [Laid, if_neg (take_ne_byteOrderMark h)]
  exact hlayout

/-- A table in quotes starts with a line break or a quote. -/
theorem head?_quotedTable_lt (rows : List (QuotedRow types)) (back : Bytes) (htypes : types ≠ [])
    {front : Bytes} (hfront : ∀ byte ∈ front, isBreak byte) :
    ∀ byte ∈ (quotedTable front rows back).head?, byte < 128 := by
  intro byte hbyte
  cases front with
  | nil =>
    have hnames : types.map CellType.name ≠ [] := List.map_eq_nil_iff.not.mpr htypes
    have hquote : (quotedTable [] rows back).head? = some quote := by
      rw [quotedTable, List.nil_append, List.head?_append, head?_quotedRecord hnames]
      rfl
    rw [hquote] at hbyte
    cases hbyte
    decide
  | cons first front =>
    cases hbyte
    exact lt_of_isBreak (hfront byte List.mem_cons_self)

theorem exists_laid_quotedTable (rows : List (QuotedRow types)) (htypes : types ≠ [])
    {front back : Bytes} (hfront : ∀ byte ∈ front, isBreak byte)
    (hback : ∀ byte ∈ back, isBreak byte) :
    ∃ header later, Laid (quotedTable front rows back) (header :: later) ∧
      header.fields = (types.map CellType.name).map ofText ∧
      later.map PlacedRecord.fields = rows.map fun row ↦ row.cells.map ofText := by
  have hnames : types.map CellType.name ≠ [] := List.map_eq_nil_iff.not.mpr htypes
  obtain ⟨later, hlater, hfields⟩ := exists_layout_quotedRows rows hback htypes
    (0 + front.length + (quotedRecord (types.map CellType.name)).length)
  have hlayout := Layout.record hfront (quotedRecord_ne_nil hnames)
    (writtenRecord_quotedRecord _ hnames) (isBreak_of_head?_quotedRows rows hback) hlater
  exact ⟨_, later, laid_of_ascii (head?_quotedTable_lt rows back htypes hfront) hlayout, rfl,
    hfields⟩

/-- Records with the cells of quoted rows are read as the values of these rows. -/
theorem readRows_quoted {source : Bytes} {placed : List PlacedRecord} {reported : List Record}
    (h : List.Forall₂ (Reports source) placed reported) {rows : List (QuotedRow types)}
    (hfields : placed.map PlacedRecord.fields = rows.map fun row ↦ row.cells.map ofText) :
    readRows source types (reported.map .ok) = .ok (rows.map QuotedRow.values) := by
  rw [readRows_eq_ok_iff]
  induction h generalizing rows with
  | nil =>
    rw [List.map_eq_nil_iff.mp hfields.symm]
    exact .nil
  | cons hrecord hrest ih =>
    obtain ⟨row, rest, rfl, hcells, hrows⟩ := List.map_eq_cons_iff.mp hfields.symm
    rw [hrecord.fields] at hcells
    refine .cons ?_ (ih hrows.symm)
    rw [← List.map_injective_iff.mpr ofText_injective hcells]
    exact readCells_eq_ok_iff.mpr ⟨row.length_le, row.converts⟩

/-- The value of a cell in a column of texts is the text itself. -/
theorem QuotedRow.values_eq_string (row : QuotedRow types) {column : Nat}
    (h : types[column]? = some .string) :
    row.values[column]? = row.cells[column]?.map Cell.string := by
  obtain ⟨htypes, htype⟩ := List.getElem?_eq_some_iff.mp h
  have hcells : column < row.cells.length := htypes.trans_le row.length_le
  have hpairs : column < (types.zip row.cells).length := by
    rw [List.length_zip]
    exact lt_min htypes hcells
  have hvalues : column < row.values.length := row.converts.length_eq ▸ hpairs
  have hread := row.converts.get hpairs hvalues
  simp only [List.get_eq_getElem, List.getElem_zip, htype, CellType.read, Except.ok.injEq] at hread
  rw [List.getElem?_eq_getElem hvalues, List.getElem?_eq_getElem hcells, ← hread]
  rfl

/-- Whatever splits sources into records, if it follows the dialect: a table in quotes, with or
without a mark in front, is read back.  No row is lost, added, merged or split, and the cells in
columns of texts keep all that was written in them. -/
theorem quoted_table_read_back {splitter : Splitter} (h : FollowsDialect splitter)
    (htypes : types ≠ []) (rows : List (QuotedRow types)) (marked : Bool) {front back : Bytes}
    (hfront : ∀ byte ∈ front, isBreak byte) (hback : ∀ byte ∈ back, isBreak byte) :
    readBy splitter ((if marked then byteOrderMark else []) ++ quotedTable front rows back) =
        .ok ⟨types, rows.map QuotedRow.values⟩ ∧
      ∀ row ∈ rows, ∀ column : Nat, types[column]? = some CellType.string →
        row.values[column]? = row.cells[column]?.map Cell.string := by
  refine ⟨?_, fun row _ column hcolumn ↦ row.values_eq_string hcolumn⟩
  have hbody := unmarked_of_ascii (head?_quotedTable_lt rows back htypes hfront) marked
  have htext : IsText (quotedTable front rows back) :=
    ((isText_of_breaks hfront).append (isText_quotedRecord _)).append (isText_quotedRows rows hback)
  obtain ⟨header, later, hlaid, hnames, hfields⟩ :=
    exists_laid_quotedTable rows htypes hfront hback
  rw [← hbody] at htext hlaid
  obtain ⟨first, reported, hheader, -, hreported, hread⟩ := readBy_of_laid_cons h htext hlaid
  rw [hnames] at hheader
  have hfirst : types.map CellType.name = first.fields :=
    List.map_injective_iff.mpr ofText_injective hheader
  rw [hread, ofRecords_cons_eq_ok_iff]
  exact ⟨hfirst.symm, readRows_quoted hreported hfields⟩

/-- Commas, quotes, line breaks and outer blanks of texts are read back between line breaks of any
kind. -/
theorem quoted_structure_read_back :
    let text := " \t\"\",\r\n\"end "
    let row : QuotedRow [.string, .int] := {
      breaks := [10, 13, 13, 10]
      cells := [text, " 0x2A\n", "beyond"]
      values := [.string text, .int 42]
      breaks_ne := by decide
      isBreak_of_mem := List.all_eq_true.mp rfl
      length_le := by decide
      converts := .cons rfl (.cons (by decide +kernel) .nil) }
    FollowsDialect split ∧ [CellType.string, .int] ≠ [] ∧ (∀ byte ∈ [13], isBreak byte) ∧
      (∀ byte ∈ [10], isBreak byte) ∧
        read (byteOrderMark ++ quotedTable [13] [row, row] [10]) =
          .ok ⟨[.string, .int], [[.string text, .int 42], [.string text, .int 42]]⟩ ∧
        row.values[0]? = row.cells[0]?.map Cell.string := by
  intro text row
  have htypes : [CellType.string, .int] ≠ [] := by decide
  have hfront : ∀ byte ∈ [13], isBreak byte := List.forall_mem_singleton.mpr rfl
  have hback : ∀ byte ∈ [10], isBreak byte := List.forall_mem_singleton.mpr rfl
  obtain ⟨hread, htexts⟩ :=
    quoted_table_read_back split_followsDialect htypes [row, row] true hfront hback
  exact ⟨split_followsDialect, htypes, hfront, hback, hread,
    htexts row List.mem_cons_self 0 rfl⟩

end AssetOverlay.StringTable

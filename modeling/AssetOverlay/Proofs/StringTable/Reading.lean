import AssetOverlay.Proofs.StringTable.Reports

/-!
# Reading tables

The types, the cells and the rows of a table are read one after the other.  This module tells what
is read if nothing is at fault, and which records a table is read from.
-/

namespace AssetOverlay

/-! ## Names of types -/

namespace CellType

theorem ofName?_eq_some_iff {text : String} {type : CellType} :
    ofName? text = some type ↔ type.name = text := by
  constructor
  · intro h
    have hname := List.find?_some h
    exact eq_of_beq hname
  · rintro rfl
    cases type <;> rfl

theorem ofName?_eq_none_iff {text : String} :
    ofName? text = none ↔ ∀ type : CellType, type.name ≠ text := by
  simp only [Option.eq_none_iff_forall_ne_some, ne_eq, ofName?_eq_some_iff]

end CellType

namespace StringTable

open Bytes Records

/-! ## Types, cells and rows -/

theorem readTypes_eq_ok_iff {first : Nat} {names : List String} {types : List CellType} :
    readTypes first names = .ok types ↔ names = types.map CellType.name := by
  induction names generalizing first types with
  | nil => cases types <;> simp [readTypes]
  | cons text rest ih =>
    rw [readTypes]
    cases types with
    | nil =>
      cases CellType.ofName? text with
      | none => simp
      | some type => cases readTypes (first + 1) rest <;> simp [Except.map]
    | cons head types =>
      rw [List.map_cons, List.cons.injEq, ← @ih (first + 1) types, eq_comm (a := text),
        ← CellType.ofName?_eq_some_iff]
      cases CellType.ofName? text with
      | none => simp
      | some type => cases readTypes (first + 1) rest <;> simp [Except.map]

theorem readCells_eq_ok_iff {line first : Nat} {types : List CellType} {texts : List String}
    {cells : List Cell} : readCells line first types texts = .ok cells ↔
      types.length ≤ texts.length ∧
        List.Forall₂ (fun pair cell ↦ pair.1.read pair.2 = .ok cell) (types.zip texts) cells := by
  induction types generalizing first texts cells with
  | nil => cases cells <;> simp [readCells]
  | cons type types ih =>
    cases texts with
    | nil => simp [readCells]
    | cons text texts =>
      rw [readCells, List.zip_cons_cons, List.length_cons, List.length_cons,
        Nat.add_le_add_iff_right]
      cases cells with
      | nil =>
        cases type.read text with
        | error reason => simp
        | ok cell => cases readCells line (first + 1) types texts <;> simp [Except.map]
      | cons head cells =>
        rw [List.forall₂_cons, and_left_comm, ← @ih (first + 1) texts cells]
        cases type.read text with
        | error reason => simp
        | ok cell => cases readCells line (first + 1) types texts <;> simp [Except.map]

theorem readRows_eq_ok_iff {source : Bytes} {types : List CellType} {records : List Record}
    {rows : List (List Cell)} : readRows source types (records.map .ok) = .ok rows ↔
      List.Forall₂ (fun record cells ↦
        readCells (lineAt source (record.position.getD 0)) 0 types record.fields = .ok cells)
        records rows := by
  induction records generalizing rows with
  | nil => cases rows <;> simp [readRows]
  | cons record records ih =>
    rw [List.map_cons, readRows]
    cases rows with
    | nil =>
      cases readCells (lineAt source (record.position.getD 0)) 0 types record.fields with
      | error failure => simp
      | ok cells => cases readRows source types (records.map .ok) <;> simp [Except.map]
    | cons head rows =>
      rw [List.forall₂_cons, ← ih]
      cases readCells (lineAt source (record.position.getD 0)) 0 types record.fields with
      | error failure => simp
      | ok cells => cases readRows source types (records.map .ok) <;> simp [Except.map]

/-- What a table is read from: the names of its types, and rows of cells of these types. -/
theorem ofRecords_cons_eq_ok_iff {source : Bytes} {header : Record}
    {records : List (Except String Record)} {table : StringTable} :
    ofRecords source (.ok header :: records) = .ok table ↔
      header.fields = table.types.map CellType.name ∧
        readRows source table.types records = .ok table.rows := by
  rw [ofRecords]
  constructor
  · intro h
    cases htypes : readTypes 0 header.fields with
    | error failure =>
      rw [htypes] at h
      cases h
    | ok types =>
      cases hrows : readRows source types records with
      | error failure => simp [htypes, hrows, Except.map] at h
      | ok rows =>
        simp only [htypes, hrows, Except.map, Except.ok.injEq] at h
        rw [← h]
        exact ⟨readTypes_eq_ok_iff.mp htypes, hrows⟩
  · rintro ⟨hnames, hrows⟩
    rw [readTypes_eq_ok_iff.mpr hnames]
    dsimp only
    rw [hrows]
    rfl

/-- The records of a table are read in two steps, and either may fail. -/
theorem ofRecords_cons_eq_error_iff {source : Bytes} {header : Record}
    {records : List (Except String Record)} {failure : Failure} :
    ofRecords source (.ok header :: records) = .error failure ↔
      readTypes 0 header.fields = .error failure ∨
        ∃ types : List CellType, header.fields = types.map CellType.name ∧
          readRows source types records = .error failure := by
  simp only [← @readTypes_eq_ok_iff 0]
  rw [ofRecords]
  cases readTypes 0 header.fields with
  | error other => simp
  | ok types => cases hrows : readRows source types records <;> simp [Except.map, hrows]

/-! ## The records of a table -/

section Dialect

variable {splitter : Splitter} (h : FollowsDialect splitter) {source : Bytes}

theorem readBy_of_not_text (htext : ¬ IsText (unmarked source)) :
    readBy splitter source = .error .notUtf8 := by
  simp only [readBy, toText?_eq_none_iff.mpr htext]

theorem isText_of_readBy {table : StringTable} (hread : readBy splitter source = .ok table) :
    IsText (unmarked source) := by
  by_contra htext
  rw [readBy_of_not_text htext] at hread
  cases hread

theorem readBy_of_text (htext : IsText (unmarked source)) :
    readBy splitter source = ofRecords (unmarked source) (splitter (unmarked source)) := by
  obtain ⟨text, htext⟩ := isText_iff.mp htext
  simp only [readBy, htext]

include h

theorem readBy_of_laid_nil (htext : IsText (unmarked source)) (hlaid : Laid (unmarked source) []) :
    readBy splitter source = .ok ⟨[], []⟩ := by
  have hfound := h _ _ hlaid
  generalize hreports : splitter (unmarked source) = found at hfound
  cases hfound
  rw [readBy_of_text htext, hreports, ofRecords]

theorem readBy_of_laid_cons {header : PlacedRecord} {rows : List PlacedRecord}
    (htext : IsText (unmarked source)) (hlaid : Laid (unmarked source) (header :: rows)) :
    ∃ (first : Record) (reported : List Record), header.fields = first.fields.map ofText ∧
      first.fields ≠ [] ∧ List.Forall₂ (Reports (unmarked source)) rows reported ∧
        readBy splitter source =
          ofRecords (unmarked source) (.ok first :: reported.map .ok) := by
  obtain ⟨first, reported, hfound, hfields, hne, hreported⟩ := hlaid.reports htext (h _ _ hlaid)
  exact ⟨first, reported, hfields, hne, hreported, by rw [readBy_of_text htext, hfound]⟩

end Dialect

end StringTable

end AssetOverlay

import AssetOverlay.Proofs.StringTable.Reading

/-!
# The first fault of a table

A source that is no text is no table.  In a text the names of the types are looked at first, from
left to right, and then the cells of the data records, record by record and from left to right.
Reading fails with the first fault that there is, and if there is none, it succeeds.

The fault of a cell names the line of the first byte of its record.  Line breaks in front of the
record count as far as they are line feeds, be they blank lines or parts of quoted cells.
-/

namespace AssetOverlay

namespace StringTable

open Bytes Records

/-! ## Faults and their places -/

/-- The fault at the first of all places where there is one. -/
def Leftmost (fault : Nat → Failure → Prop) (failure : Failure) : Prop :=
  ∃ place, fault place failure ∧ ∀ earlier < place, ∀ other, ¬ fault earlier other

/-- A name in the first record that is the name of no type, if the columns are counted from
`first`. -/
inductive UnknownName (first : Nat) (names : List String) (place : Nat) : Failure → Prop where
  | unknown {text : String} : names[place]? = some text → (∀ type, CellType.name type ≠ text) →
      UnknownName first names place (.unknownType (first + place) text)

/-- A cell of a record that is missing or no value of its column's type, if the columns are counted
from `first`. -/
inductive CellFault (line first : Nat) (types : List CellType) (texts : List String)
    (place : Nat) : Failure → Prop where
  | missing {type : CellType} : types[place]? = some type → texts[place]? = none →
      CellFault line first types texts place (.missingCell line (first + place))
  | bad {type : CellType} {text : String} {reason : Cell.Failure} : types[place]? = some type →
      texts[place]? = some text → type.read text = .error reason →
        CellFault line first types texts place (.badCell line (first + place) text reason)

/-- The first fault of a data record. -/
def RowFault (source : Bytes) (types : List CellType) (rows : List PlacedRecord) (place : Nat)
    (failure : Failure) : Prop :=
  ∃ placed texts, rows[place]? = some placed ∧ placed.fields = texts.map ofText ∧
    Leftmost (CellFault (lineOf source placed.start) 0 types texts) failure

/-- The first fault of a source without a byte order mark. -/
inductive FirstFault (source : Bytes) : Failure → Prop where
  | notUtf8 : ¬ IsText source → FirstFault source .notUtf8
  | name {header : PlacedRecord} {rows : List PlacedRecord} {names : List String}
      {failure : Failure} : IsText source → Laid source (header :: rows) →
      header.fields = names.map ofText → Leftmost (UnknownName 0 names) failure →
        FirstFault source failure
  | row {header : PlacedRecord} {rows : List PlacedRecord} {types : List CellType}
      {failure : Failure} : IsText source → Laid source (header :: rows) →
      header.fields = (types.map CellType.name).map ofText →
        Leftmost (RowFault source types rows) failure → FirstFault source failure

theorem leftmost_iff {fault : Nat → Failure → Prop} {failure : Failure} :
    Leftmost fault failure ↔ fault 0 failure ∨
      (∀ other, ¬ fault 0 other) ∧ Leftmost (fun place ↦ fault (place + 1)) failure := by
  constructor
  · rintro ⟨place, hfault, hearlier⟩
    cases place with
    | zero => exact .inl hfault
    | succ place =>
      refine .inr ⟨hearlier 0 (Nat.zero_lt_succ place), place, hfault, ?_⟩
      intro earlier hlt
      exact hearlier (earlier + 1) (Nat.succ_lt_succ hlt)
  · rintro (hfault | ⟨hnone, place, hfault, hearlier⟩)
    · exact ⟨0, hfault, by simp⟩
    · refine ⟨place + 1, hfault, ?_⟩
      intro earlier hlt
      cases earlier with
      | zero => exact hnone
      | succ earlier => exact hearlier earlier (Nat.lt_of_succ_lt_succ hlt)

theorem not_leftmost {fault : Nat → Failure → Prop} (h : ∀ place failure, ¬ fault place failure)
    (failure : Failure) : ¬ Leftmost fault failure := by
  rintro ⟨place, hfault, -⟩
  exact h place failure hfault

/-! ## Types -/

theorem unknownName_succ (first : Nat) (text : String) (rest : List String) (place : Nat) :
    UnknownName first (text :: rest) (place + 1) = UnknownName (first + 1) rest place := by
  have hplace : first + (place + 1) = first + 1 + place := by omega
  ext failure
  constructor
  · rintro ⟨htext, hunknown⟩
    exact hplace ▸ .unknown htext hunknown
  · rintro ⟨htext, hunknown⟩
    exact hplace ▸ .unknown htext hunknown

theorem readTypes_eq_error_iff {first : Nat} {names : List String} {failure : Failure} :
    readTypes first names = .error failure ↔ Leftmost (UnknownName first names) failure := by
  induction names generalizing first with
  | nil =>
    have hnone : ∀ place failure, ¬ UnknownName first [] place failure := by
      rintro place failure ⟨⟨⟩, -⟩
    simp [readTypes, not_leftmost hnone]
  | cons text rest ih =>
    rw [leftmost_iff, readTypes]
    simp only [unknownName_succ, ← ih]
    cases htype : CellType.ofName? text with
    | none =>
      have hunknown := CellType.ofName?_eq_none_iff.mp htype
      have hfault : UnknownName first (text :: rest) 0 (.unknownType first text) :=
        .unknown rfl hunknown
      constructor
      · rintro ⟨⟩
        exact .inl hfault
      · rintro (⟨htext, -⟩ | ⟨hnone, -⟩)
        · cases htext
          rfl
        · exact absurd hfault (hnone _)
    | some type =>
      have hknown : ∀ other, ¬ UnknownName first (text :: rest) 0 other := by
        rintro _ ⟨⟨⟩, hunknown⟩
        exact hunknown type (CellType.ofName?_eq_some_iff.mp htype)
      cases readTypes (first + 1) rest <;> simp [Except.map, hknown]

/-! ## Cells -/

theorem cellFault_succ (line first : Nat) (type : CellType) (types : List CellType) (text : String)
    (texts : List String) (place : Nat) :
    CellFault line first (type :: types) (text :: texts) (place + 1) =
      CellFault line (first + 1) types texts place := by
  have hplace : first + (place + 1) = first + 1 + place := by omega
  ext failure
  constructor
  · rintro (⟨htype, htext⟩ | ⟨htype, htext, hread⟩)
    · exact hplace ▸ .missing htype htext
    · exact hplace ▸ .bad htype htext hread
  · rintro (⟨htype, htext⟩ | ⟨htype, htext, hread⟩)
    · exact hplace ▸ .missing htype htext
    · exact hplace ▸ .bad htype htext hread

theorem readCells_eq_error_iff {line first : Nat} {types : List CellType} {texts : List String}
    {failure : Failure} : readCells line first types texts = .error failure ↔
      Leftmost (CellFault line first types texts) failure := by
  induction types generalizing first texts with
  | nil =>
    have hnone : ∀ place failure, ¬ CellFault line first [] texts place failure := by
      rintro place failure (⟨⟨⟩, -⟩ | ⟨⟨⟩, -, -⟩)
    simp [readCells, not_leftmost hnone]
  | cons type types ih =>
    rw [leftmost_iff]
    cases texts with
    | nil =>
      have hfault : CellFault line first (type :: types) [] 0 (.missingCell line first) :=
        .missing rfl rfl
      rw [readCells]
      constructor
      · rintro ⟨⟩
        exact .inl hfault
      · rintro ((⟨-, -⟩ | ⟨-, ⟨⟩, -⟩) | ⟨hnone, -⟩)
        · rfl
        · exact absurd hfault (hnone _)
    | cons text texts =>
      simp only [cellFault_succ, ← ih]
      rw [readCells]
      cases hread : type.read text with
      | error reason =>
        have hfault : CellFault line first (type :: types) (text :: texts) 0
            (.badCell line first text reason) := .bad rfl rfl hread
        constructor
        · rintro ⟨⟩
          exact .inl hfault
        · rintro ((⟨-, ⟨⟩⟩ | ⟨⟨⟩, ⟨⟩, hother⟩) | ⟨hnone, -⟩)
          · rw [hread] at hother
            cases hother
            rfl
          · exact absurd hfault (hnone _)
      | ok cell =>
        have hfine : ∀ other, ¬ CellFault line first (type :: types) (text :: texts) 0 other := by
          rintro _ (⟨-, ⟨⟩⟩ | ⟨⟨⟩, ⟨⟩, hother⟩)
          rw [hread] at hother
          cases hother
        cases readCells line (first + 1) types texts <;> simp [Except.map, hfine]

/-! ## Rows -/

theorem rowFault_succ (source : Bytes) (types : List CellType) (placed : PlacedRecord)
    (rows : List PlacedRecord) (place : Nat) :
    RowFault source types (placed :: rows) (place + 1) = RowFault source types rows place :=
  rfl

theorem rowFault_zero_iff {source : Bytes} {types : List CellType} {placed : PlacedRecord}
    {rows : List PlacedRecord} {record : Record} (h : Reports source placed record)
    {failure : Failure} : RowFault source types (placed :: rows) 0 failure ↔
      readCells (lineAt source (record.position.getD 0)) 0 types record.fields =
        .error failure := by
  rw [readCells_eq_error_iff, h.line]
  constructor
  · rintro ⟨_, texts, ⟨⟩, htexts, hfault⟩
    rw [h.fields] at htexts
    rwa [List.map_injective_iff.mpr ofText_injective htexts]
  · intro hfault
    exact ⟨placed, record.fields, rfl, h.fields, hfault⟩

theorem readRows_eq_error_iff {source : Bytes} {types : List CellType} {rows : List PlacedRecord}
    {reported : List Record} (h : List.Forall₂ (Reports source) rows reported)
    {failure : Failure} : readRows source types (reported.map .ok) = .error failure ↔
      Leftmost (RowFault source types rows) failure := by
  induction h with
  | nil =>
    have hnone : ∀ place failure, ¬ RowFault source types [] place failure := by
      rintro place failure ⟨placed, texts, ⟨⟩, -⟩
    simp [readRows, not_leftmost hnone]
  | @cons placed record rows reported hrecord hrest ih =>
    rw [leftmost_iff]
    simp only [rowFault_succ, rowFault_zero_iff hrecord, ← ih]
    rw [List.map_cons, readRows]
    cases readCells (lineAt source (record.position.getD 0)) 0 types record.fields with
    | error other => simp
    | ok cells => cases readRows source types (reported.map .ok) <;> simp [Except.map]

/-! ## Tables -/

section Dialect

variable {splitter : Splitter} (h : FollowsDialect splitter) {source : Bytes}

include h

theorem readBy_of_firstFault {failure : Failure} (hfault : FirstFault (unmarked source) failure) :
    readBy splitter source = .error failure := by
  cases hfault with
  | notUtf8 htext => exact readBy_of_not_text htext
  | name htext hlaid hnames hfault =>
    obtain ⟨first, reported, hfields, -, -, hread⟩ := readBy_of_laid_cons h htext hlaid
    rw [hnames] at hfields
    rw [List.map_injective_iff.mpr ofText_injective hfields] at hfault
    rw [hread, ofRecords_cons_eq_error_iff]
    exact .inl (readTypes_eq_error_iff.mpr hfault)
  | @row _ _ types _ htext hlaid htypes hfault =>
    obtain ⟨first, reported, hfields, -, hreported, hread⟩ := readBy_of_laid_cons h htext hlaid
    rw [htypes] at hfields
    have hnames := List.map_injective_iff.mpr ofText_injective hfields
    rw [hread, ofRecords_cons_eq_error_iff]
    exact .inr ⟨types, hnames.symm, (readRows_eq_error_iff hreported).mpr hfault⟩

theorem firstFault_of_readBy {failure : Failure} (hread : readBy splitter source = .error failure) :
    FirstFault (unmarked source) failure := by
  by_cases htext : IsText (unmarked source)
  · obtain ⟨records, hlaid⟩ := exists_laid (unmarked source)
    cases records with
    | nil =>
      rw [readBy_of_laid_nil h htext hlaid] at hread
      cases hread
    | cons header rows =>
      obtain ⟨first, reported, hfields, -, hreported, heq⟩ := readBy_of_laid_cons h htext hlaid
      rw [heq, ofRecords_cons_eq_error_iff] at hread
      rcases hread with htypes | ⟨types, hnames, hrows⟩
      · exact .name htext hlaid hfields (readTypes_eq_error_iff.mp htypes)
      · rw [hnames] at hfields
        exact .row htext hlaid hfields ((readRows_eq_error_iff hreported).mp hrows)
  · rw [readBy_of_not_text htext] at hread
    cases hread
    exact .notUtf8 htext

/-- Whatever splits sources into records, if it follows the dialect: reading fails exactly with the
first fault of the source, it succeeds exactly if there is none, and it never fails because records
can't be told apart. -/
theorem fails_with_first_fault (source : Bytes) :
    (∀ failure, readBy splitter source = .error failure ↔ FirstFault (unmarked source) failure) ∧
      ((∃ table, readBy splitter source = .ok table) ↔
        ∀ failure, ¬ FirstFault (unmarked source) failure) ∧
      ∀ reason, readBy splitter source ≠ .error (.malformed reason) := by
  have herror (failure : Failure) :
      readBy splitter source = .error failure ↔ FirstFault (unmarked source) failure :=
    ⟨firstFault_of_readBy h, readBy_of_firstFault h⟩
  refine ⟨herror, ?_, ?_⟩
  · simp only [← herror]
    cases readBy splitter source <;> simp
  · intro reason hread
    cases (herror _).mp hread with
    | name htext hlaid hnames hfault =>
      obtain ⟨place, ⟨⟩, -⟩ := hfault
    | row htext hlaid htypes hfault =>
      obtain ⟨place, ⟨placed, texts, -, -, column, ⟨⟩, -⟩, -⟩ := hfault

end Dialect

/-- Blank lines and a quoted line break in front of a bad cell count for its line. -/
theorem bad_cell_behind_blank_lines :
    let source := ofText "\uFEFFstring,int\n\r\na,1\r\n\r\n\"multi\nline\",2\r\r\n\nb, x,\n"
    let failure : Failure := .badCell 8 1 " x" (.int .badDigit)
    FollowsDialect split ∧ read source = .error failure ∧
      FirstFault (unmarked source) failure := by
  intro source failure
  have hread : readBy split source = .error failure := by decide +kernel
  exact ⟨split_followsDialect, hread,
    ((fails_with_first_fault split_followsDialect source).1 failure).mp hread⟩

end StringTable

end AssetOverlay

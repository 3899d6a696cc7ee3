import AssetOverlay.Proofs.StringTable.Splitting
import AssetOverlay.StringTable
import Mathlib.Data.List.Forall2
import Mathlib.Data.Set.List

/-!
# The records of a text

All that a layout is cut at are ASCII bytes, so the fields of a text are texts and none of its
records is refused.  What is reported of a record behind the first leads to its line, wherever
between the records its position lies: only line breaks are there, and these are skipped.
-/

namespace AssetOverlay.Records

open Bytes

/-! ## Fields of texts -/

theorem lt_of_isBreak {byte : UInt8} (h : isBreak byte) : byte < 128 := by
  rcases Bool.or_eq_true_iff.mp h with h | h
  · rw [of_decide_eq_true h]
    decide
  · rw [of_decide_eq_true h]
    decide

theorem isText_append_doubled_iff (front content : Bytes) :
    IsText (front ++ doubled content) ↔ IsText (front ++ content) := by
  induction content generalizing front with
  | nil => rfl
  | cons byte content ih =>
    by_cases hquote : byte = quote
    · have hascii : quote < 128 := by decide
      have htwice : front ++ doubled (byte :: content) =
          front ++ quote :: ([] ++ quote :: doubled content) := by
        simp [doubled, hquote]
      rw [htwice, hquote, isText_append_cons_iff hascii, isText_append_cons_iff hascii,
        isText_append_cons_iff hascii, ← List.nil_append (doubled content), ih]
      simp [isText_nil]
    · have honce : front ++ doubled (byte :: content) = front ++ [byte] ++ doubled content := by
        simp [doubled, hquote]
      rw [honce, ih, List.append_assoc]
      rfl

theorem isText_doubled_iff {content : Bytes} : IsText (doubled content) ↔ IsText content :=
  isText_append_doubled_iff [] content

theorem isText_quote_cons_iff {bytes : Bytes} : IsText (quote :: bytes) ↔ IsText bytes := by
  have hquote : ∀ byte ∈ [quote], byte < 128 := List.forall_mem_singleton.mpr (by decide)
  exact isText_append_iff_of_front hquote

theorem WrittenField.isText {bytes content : Bytes} (h : WrittenField bytes content)
    (hbytes : IsText bytes) : IsText content := by
  cases h with
  | bare _ hquote hbare => exact hbytes
  | quoted content tail hquote hbare =>
    rw [isText_quote_cons_iff, isText_append_cons_iff (by decide), isText_doubled_iff] at hbytes
    exact hbytes.1.append hbytes.2

theorem WrittenRecord.isText {atEnd : Bool} {bytes : Bytes} {fields : List Bytes}
    (h : WrittenRecord atEnd bytes fields) (hbytes : IsText bytes) :
    ∀ field ∈ fields, IsText field := by
  induction h with
  | one hfield => simpa using hfield.isText hbytes
  | unclosed content hend =>
    rw [isText_quote_cons_iff, isText_doubled_iff] at hbytes
    simpa using hbytes
  | more hfield hrest ih =>
    rw [isText_append_cons_iff (by decide)] at hbytes
    exact List.forall_mem_cons.mpr ⟨hfield.isText hbytes.1, ih hbytes.2⟩

/-- A record of a text and what follows it are texts. -/
theorem isText_of_parts {breaks bytes rest : Bytes} (hbreaks : ∀ byte ∈ breaks, isBreak byte)
    (hend : ∀ byte ∈ rest.head?, isBreak byte) (h : IsText (breaks ++ bytes ++ rest)) :
    IsText bytes ∧ IsText rest := by
  rw [List.append_assoc,
    isText_append_iff_of_front (fun byte hbyte ↦ lt_of_isBreak (hbreaks byte hbyte)),
    isText_append_iff_of_head (fun byte hbyte ↦ lt_of_isBreak (hend byte hbyte))] at h
  exact h

theorem exists_texts {fields : List Bytes} (h : ∀ field ∈ fields, IsText field) :
    ∃ texts : List String, fields = texts.map ofText := by
  have hrange : fields ∈ Set.range (List.map ofText) := by
    rw [Set.range_list_map]
    exact h
  obtain ⟨texts, htexts⟩ := hrange
  exact ⟨texts, htexts.symm⟩

/-! ## Lines -/

/-- The line of the byte at an offset: one more than there are line feeds in front of it. -/
def lineOf (source : Bytes) (offset : Nat) : Nat :=
  1 + (source.take offset).count lineFeed

/-- Every position from which only line breaks lead to a byte has the line of that byte. -/
theorem lineAt_eq_lineOf {front breaks after : Bytes} (hbreaks : ∀ byte ∈ breaks, isBreak byte)
    {first : UInt8} (hfirst : after.head? = some first) (hne : isBreak first = false)
    {position : Nat} (hle : front.length ≤ position)
    (hstart : position ≤ front.length + breaks.length) :
    StringTable.lineAt (front ++ breaks ++ after) position =
      lineOf (front ++ breaks ++ after) (front.length + breaks.length) := by
  obtain ⟨rest, rfl⟩ := List.head?_eq_some_iff.mp hfirst
  let skipped := breaks.drop (position - front.length)
  have hdrop : (front ++ breaks ++ first :: rest).drop position = skipped ++ first :: rest := by
    rw [List.drop_append_of_le_length (by rw [List.length_append]; exact hstart),
      List.drop_append, List.drop_eq_nil_of_le hle, List.nil_append]
  have hskipped : skipped.findIdx? (fun byte ↦ !isBreak byte) = none := by
    rw [List.findIdx?_eq_none_iff]
    intro byte hbyte
    simp [hbreaks byte (List.mem_of_mem_drop hbyte)]
  have hindex : (skipped ++ first :: rest).findIdx? (fun byte ↦ !isBreak byte) =
      some skipped.length := by
    simp [List.findIdx?_append, hskipped, List.findIdx?_cons, hne]
  have hlength : position + skipped.length = front.length + breaks.length := by
    rw [List.length_drop]
    omega
  rw [StringTable.lineAt, hdrop, hindex]
  dsimp only
  rw [hlength, lineOf]

/-! ## Reports -/

/-- What is reported of a record: its fields as texts, and a position that leads to its line. -/
structure Reports (source : Bytes) (placed : PlacedRecord) (record : Record) : Prop where
  fields : placed.fields = record.fields.map ofText
  line : StringTable.lineAt source (record.position.getD 0) = lineOf source placed.start

theorem Layout.reports {front rest : Bytes} {offset : Nat} {records : List PlacedRecord}
    (h : Layout offset rest records) (hoffset : offset = front.length) (htext : IsText rest)
    {found : List (Except String Record)} (hfound : Found offset records found) :
    ∃ reported, found = reported.map .ok ∧
      List.Forall₂ (Reports (front ++ rest)) records reported := by
  induction h generalizing front found with
  | done hbreaks =>
    cases hfound
    exact ⟨[], rfl, .nil⟩
  | @record offset breaks bytes rest fields later hbreaks hne hrecord hend hlater ih =>
    obtain ⟨hbytes, hrest⟩ := isText_of_parts hbreaks hend htext
    have hstop : offset + breaks.length + bytes.length = (front ++ breaks ++ bytes).length := by
      rw [hoffset, List.length_append, List.length_append]
    have hsource : front ++ (breaks ++ bytes ++ rest) = front ++ breaks ++ bytes ++ rest := by
      simp
    cases hfound with
    | refused hnone => exact absurd (exists_texts (hrecord.isText hbytes)) (by simpa using hnone)
    | @record _ position _ texts _ found hle hstart htexts hfound =>
      obtain ⟨reported, rfl, hreported⟩ := ih hstop hrest hfound
      obtain ⟨first, after, rfl⟩ := List.exists_cons_of_ne_nil hne
      have hline : StringTable.lineAt (front ++ breaks ++ (first :: after ++ rest)) position =
          lineOf (front ++ breaks ++ (first :: after ++ rest)) (front.length + breaks.length) :=
        lineAt_eq_lineOf hbreaks rfl (hrecord.head_not_break first rfl) (hoffset ▸ hle)
          (hoffset ▸ hstart)
      rw [← List.append_assoc] at hline
      rw [hsource]
      refine ⟨⟨some position, texts⟩ :: reported, rfl, .cons ⟨htexts, ?_⟩ hreported⟩
      rw [hoffset]
      exact hline

theorem isText_mark_append_iff {rest : Bytes} :
    IsText (byteOrderMark ++ rest) ↔ IsText rest :=
  isText_utf8EncodeChar_append_iff '\uFEFF'

theorem Laid.exists_layout {source : Bytes} {records : List PlacedRecord}
    (h : Laid source records) (htext : IsText source) :
    ∃ front rest, source = front ++ rest ∧ Layout front.length rest records ∧ IsText rest := by
  unfold Laid at h
  split at h
  · next hmark =>
    have hsource : byteOrderMark ++ source.drop 3 = source := by
      rw [← hmark, List.take_append_drop]
    rw [← hsource, isText_mark_append_iff] at htext
    exact ⟨byteOrderMark, source.drop 3, hsource.symm, h, htext⟩
  · exact ⟨[], source, rfl, h, htext⟩

/-- What is reported of the records of a text.  The position of the first may lie in front of a byte
order mark, so it leads to no line. -/
theorem Laid.reports {source : Bytes} {header : PlacedRecord} {rows : List PlacedRecord}
    (h : Laid source (header :: rows)) (htext : IsText source)
    {found : List (Except String Record)} (hfound : Found 0 (header :: rows) found) :
    ∃ first reported, found = .ok first :: reported.map .ok ∧
      header.fields = first.fields.map ofText ∧ first.fields ≠ [] ∧
      List.Forall₂ (Reports source) rows reported := by
  obtain ⟨front, rest, rfl, hlayout, hrest⟩ := h.exists_layout htext
  cases hlayout with
  | @record _ breaks bytes rest fields _ hbreaks hne hrecord hend hlater =>
    obtain ⟨hbytes, hafter⟩ := isText_of_parts hbreaks hend hrest
    cases hfound with
    | refused hnone => exact absurd (exists_texts (hrecord.isText hbytes)) (by simpa using hnone)
    | @record _ position _ texts _ found hle hstart htexts hfound =>
      have hstop : front.length + breaks.length + bytes.length =
          (front ++ breaks ++ bytes).length := by
        rw [List.length_append, List.length_append]
      obtain ⟨reported, rfl, hreported⟩ := hlater.reports hstop hafter hfound
      have hfields : fields ≠ [] := hrecord.fields_ne_nil
      have hsource : front ++ (breaks ++ bytes ++ rest) = front ++ breaks ++ bytes ++ rest := by
        simp
      rw [hsource]
      refine ⟨⟨some position, texts⟩, reported, rfl, htexts, ?_, hreported⟩
      rintro rfl
      exact hfields htexts

end AssetOverlay.Records

import AssetOverlay.StringTable.Records
import Mathlib.Data.List.TakeWhile

/-!
# Written records

This module tells from the writing side how a source of records is laid out, without regard to how
it is read.  A *written field* is bare or starts with quotes, a *written record* consists of written
fields with commas between them, and in a *layout* records have line breaks between them, in front
of the first and behind the last.  Every source has a layout.
-/

namespace AssetOverlay.Records

/-! ## Fields -/

/-- A content as it stands inside quotes: each quote in it is doubled. -/
def doubled (content : Bytes) : Bytes :=
  content.flatMap fun byte ↦ if byte = quote then [quote, quote] else [byte]

/-- Bytes that end neither a field nor a record outside of quotes. -/
def Bare (bytes : Bytes) : Prop :=
  ∀ byte ∈ bytes, byte ≠ comma ∧ isBreak byte = false

/-- A field as it is written, and its content. -/
inductive WrittenField : Bytes → Bytes → Prop where
  | bare (content : Bytes) :
      content.head? ≠ some quote → Bare content → WrittenField content content
  /-- What follows the closing quote belongs to the content. -/
  | quoted (content tail : Bytes) : tail.head? ≠ some quote → Bare tail →
      WrittenField (quote :: (doubled content ++ quote :: tail)) (content ++ tail)

/-! ## Records -/

/-- A record as it is written, and its fields.  Quotes may be left open only if the source ends with
the record. -/
inductive WrittenRecord (atEnd : Bool) : Bytes → List Bytes → Prop where
  | one {bytes content : Bytes} : WrittenField bytes content → WrittenRecord atEnd bytes [content]
  | unclosed (content : Bytes) : atEnd = true →
      WrittenRecord atEnd (quote :: doubled content) [content]
  | more {bytes content rest : Bytes} {fields : List Bytes} : WrittenField bytes content →
      WrittenRecord atEnd rest fields →
        WrittenRecord atEnd (bytes ++ comma :: rest) (content :: fields)

/-- A record in its place: from its own first byte up to what ends it. -/
structure PlacedRecord where
  start : Nat
  stop : Nat
  fields : List Bytes

/-- What is left of a source from an offset on, and the records in it.  Line breaks are skipped in
front of a record, which is not empty and followed by a line break, if by anything. -/
inductive Layout : Nat → Bytes → List PlacedRecord → Prop where
  | done {offset : Nat} {breaks : Bytes} : (∀ byte ∈ breaks, isBreak byte) →
      Layout offset breaks []
  | record {offset : Nat} {breaks bytes rest : Bytes} {fields : List Bytes}
      {later : List PlacedRecord} : (∀ byte ∈ breaks, isBreak byte) → bytes ≠ [] →
      WrittenRecord rest.isEmpty bytes fields → (∀ byte ∈ rest.head?, isBreak byte) →
        Layout (offset + breaks.length + bytes.length) rest later →
          Layout offset (breaks ++ bytes ++ rest)
            (⟨offset + breaks.length, offset + breaks.length + bytes.length, fields⟩ :: later)

/-- A whole source and the records in it.  A byte order mark in front is not part of the first. -/
def Laid (source : Bytes) (records : List PlacedRecord) : Prop :=
  if source.take 3 = byteOrderMark then Layout 3 (source.drop 3) records
  else Layout 0 source records

/-! ## Every source has a layout -/

/-- Quotes are closed by the first quote that isn't doubled, if there is one. -/
theorem doubled_or_closed : ∀ bytes : Bytes, (∃ content, bytes = doubled content) ∨
    ∃ content tail, bytes = doubled content ++ quote :: tail ∧ tail.head? ≠ some quote
  | [] => .inl ⟨[], rfl⟩
  | [byte] => by
    by_cases h : byte = quote
    · exact .inr ⟨[], [], by rw [h]; rfl, by simp⟩
    · exact .inl ⟨[byte], by simp [doubled, h]⟩
  | first :: second :: rest => by
    by_cases hfirst : first = quote
    · by_cases hsecond : second = quote
      · rw [hfirst, hsecond]
        rcases doubled_or_closed rest with ⟨content, rfl⟩ | ⟨content, tail, rfl, htail⟩
        · exact .inl ⟨quote :: content, by simp [doubled]⟩
        · exact .inr ⟨quote :: content, tail, by simp [doubled], htail⟩
      · exact .inr ⟨[], second :: rest, by rw [hfirst]; rfl, by simpa using hsecond⟩
    · rcases doubled_or_closed (second :: rest) with ⟨content, heq⟩ | ⟨content, tail, heq, htail⟩
      · exact .inl ⟨first :: content, by simp [heq, doubled, hfirst]⟩
      · exact .inr ⟨first :: content, tail, by simp [heq, doubled, hfirst], htail⟩

/-- Bare bytes up to a comma or a line break, or to the end. -/
theorem exists_bare (bytes : Bytes) : ∃ bare rest, bytes = bare ++ rest ∧ Bare bare ∧
    ∀ byte ∈ rest.head?, byte = comma ∨ isBreak byte := by
  let continues (byte : UInt8) : Bool := byte ≠ comma && !isBreak byte
  refine ⟨bytes.takeWhile continues, bytes.dropWhile continues,
    List.takeWhile_append_dropWhile.symm, ?_, ?_⟩
  · intro byte hbyte
    simpa [continues] using List.mem_takeWhile_imp hbyte
  · intro byte hbyte
    have hstop := List.head?_dropWhile_not continues bytes
    rw [Option.mem_def.mp hbyte] at hstop
    simpa [continues, or_iff_not_imp_left] using hstop

/-- Bytes start with a written field, unless they are quotes that are never closed. -/
theorem exists_field (bytes : Bytes) : (∃ content, bytes = quote :: doubled content) ∨
    ∃ field rest content, bytes = field ++ rest ∧ WrittenField field content ∧
      ∀ byte ∈ rest.head?, byte = comma ∨ isBreak byte := by
  by_cases hquote : bytes.head? = some quote
  · obtain ⟨inside, rfl⟩ := List.head?_eq_some_iff.mp hquote
    rcases doubled_or_closed inside with ⟨content, rfl⟩ | ⟨content, tail, rfl, htail⟩
    · exact .inl ⟨content, rfl⟩
    · obtain ⟨bare, rest, rfl, hbare, hrest⟩ := exists_bare tail
      refine .inr ⟨quote :: (doubled content ++ quote :: bare), rest, content ++ bare, by simp,
        .quoted content bare ?_ hbare, hrest⟩
      cases bare with
      | nil => simp
      | cons byte bare => exact htail
  · obtain ⟨bare, rest, rfl, hbare, hrest⟩ := exists_bare bytes
    refine .inr ⟨bare, rest, bare, rfl, .bare bare ?_ hbare, hrest⟩
    cases bare with
    | nil => simp
    | cons byte bare => exact hquote

/-- Bytes start with a written record. -/
theorem exists_record (bytes : Bytes) : ∃ record rest fields, bytes = record ++ rest ∧
    WrittenRecord rest.isEmpty record fields ∧ ∀ byte ∈ rest.head?, isBreak byte := by
  rcases exists_field bytes with ⟨content, rfl⟩ | ⟨field, rest, content, rfl, hfield, hrest⟩
  · exact ⟨quote :: doubled content, [], [content], by simp, .unclosed content rfl, by simp⟩
  · cases rest with
    | nil => exact ⟨field, [], [content], rfl, .one hfield, by simp⟩
    | cons byte rest =>
      rcases hrest byte rfl with rfl | hbreak
      · obtain ⟨record, after, fields, rfl, hrecord, hafter⟩ := exists_record rest
        exact ⟨field ++ comma :: record, after, content :: fields, by simp, .more hfield hrecord,
          hafter⟩
      · refine ⟨field, byte :: rest, [content], rfl, .one hfield, ?_⟩
        simpa using hbreak
termination_by bytes.length
decreasing_by
  subst_vars
  simp only [List.length_append, List.length_cons]
  omega

theorem exists_layout (offset : Nat) (source : Bytes) :
    ∃ records, Layout offset source records := by
  have hbreaks : ∀ byte ∈ source.takeWhile isBreak, isBreak byte :=
    fun byte hbyte ↦ List.mem_takeWhile_imp hbyte
  have hsource := @List.takeWhile_append_dropWhile _ isBreak source
  by_cases hnone : source.dropWhile isBreak = []
  · rw [hnone, List.append_nil] at hsource
    exact ⟨[], .done (hsource ▸ hbreaks)⟩
  · obtain ⟨record, rest, fields, hrest, hrecord, hend⟩ := exists_record (source.dropWhile isBreak)
    have hne : record ≠ [] := by
      rintro rfl
      rw [List.nil_append] at hrest
      obtain ⟨first, after, hfirst⟩ := List.exists_cons_of_ne_nil hnone
      have hstop := List.head?_dropWhile_not isBreak source
      have hbreak : isBreak first := hend first (by rw [← hrest, hfirst]; rfl)
      simp [hfirst, hbreak] at hstop
    have hshorter : rest.length < source.length := by
      have hpos := List.length_pos_iff.mpr hne
      rw [← hsource, hrest, List.length_append, List.length_append]
      omega
    obtain ⟨later, hlater⟩ := exists_layout
      (offset + (source.takeWhile isBreak).length + record.length) rest
    rw [← hsource, hrest, ← List.append_assoc]
    exact ⟨_, .record hbreaks hne hrecord hend hlater⟩
termination_by source.length

theorem exists_laid (source : Bytes) : ∃ records, Laid source records := by
  unfold Laid
  split
  · exact exists_layout 3 _
  · exact exists_layout 0 source

end AssetOverlay.Records

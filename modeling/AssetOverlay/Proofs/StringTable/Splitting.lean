import AssetOverlay.Proofs.Bytes.Texts
import AssetOverlay.Proofs.StringTable.Layout

/-!
# What splitters report

A splitter *follows the dialect* if it reports the records of every layout, in order and with their
fields as texts.  The position that it reports of a record lies between the end of the record before
and the record's own first byte; nothing else is assumed of it.  A record is refused if a field of
it is no text.

The splitter that works byte by byte follows the dialect.
-/

namespace AssetOverlay.Records

/-- What is reported of the records of a layout, if the record before them stops at an offset. -/
inductive Found : Nat → List PlacedRecord → List (Except String Record) → Prop where
  | nothing {previous : Nat} : Found previous [] []
  | record {previous position : Nat} {placed : PlacedRecord} {texts : List String}
      {later : List PlacedRecord} {found : List (Except String Record)} :
      previous ≤ position → position ≤ placed.start → placed.fields = texts.map Bytes.ofText →
        Found placed.stop later found →
          Found previous (placed :: later) (.ok ⟨some position, texts⟩ :: found)
  | refused {previous : Nat} {placed : PlacedRecord} {reason : String}
      {later : List PlacedRecord} {found : List (Except String Record)} :
      (∀ texts : List String, placed.fields ≠ texts.map Bytes.ofText) →
        Found placed.stop later found → Found previous (placed :: later) (.error reason :: found)

/-- A splitter reports the records of every layout. -/
def FollowsDialect (splitter : Splitter) : Prop :=
  ∀ source records, Laid source records → Found 0 records (splitter source)

/-! ## Where records start -/

theorem WrittenField.head_not_break {bytes content : Bytes} (h : WrittenField bytes content) :
    ∀ byte ∈ bytes.head?, isBreak byte = false := by
  cases h with
  | bare content hquote hbare => exact fun byte hbyte ↦ (hbare byte (List.mem_of_mem_head? hbyte)).2
  | quoted content tail htail hbare => simp [isBreak, quote, lineFeed, carriageReturn]

theorem WrittenRecord.head_not_break {atEnd : Bool} {bytes : Bytes} {fields : List Bytes}
    (h : WrittenRecord atEnd bytes fields) : ∀ byte ∈ bytes.head?, isBreak byte = false := by
  cases h with
  | one hfield => exact hfield.head_not_break
  | unclosed content hend => simp [isBreak, quote, lineFeed, carriageReturn]
  | @more field content rest fields hfield hrest =>
    cases field with
    | nil => simp [isBreak, comma, lineFeed, carriageReturn]
    | cons byte field => exact hfield.head_not_break

theorem WrittenRecord.fields_ne_nil {atEnd : Bool} {bytes : Bytes} {fields : List Bytes}
    (h : WrittenRecord atEnd bytes fields) : fields ≠ [] := by
  cases h <;> simp

/-- A line break in front of a record is not part of it. -/
theorem Layout.lt_start {offset : Nat} {source : Bytes} {records : List PlacedRecord}
    (h : Layout offset source records) (hbreak : ∀ byte ∈ source.head?, isBreak byte) :
    ∀ first ∈ records.head?, offset < first.start := by
  cases h with
  | done hbreaks => simp
  | @record _ breaks bytes rest fields later hbreaks hne hrecord hend hlater =>
    cases breaks with
    | nil =>
      obtain ⟨byte, after, rfl⟩ := List.exists_cons_of_ne_nil hne
      have hhead := hrecord.head_not_break byte rfl
      rw [hbreak byte rfl] at hhead
      cases hhead
    | cons byte breaks => simp

/-! ## Reading bytes -/

/-- Bytes that don't end the record are read one after the other. -/
theorem splitFrom_append {current next : OpenRecord} {bytes : Bytes}
    (h : bytes.foldlM OpenRecord.step? current = some next) (position : Nat) (rest : Bytes) :
    splitFrom position current (bytes ++ rest) = splitFrom (position + bytes.length) next rest := by
  induction bytes generalizing current position with
  | nil =>
    cases h
    rfl
  | cons byte bytes ih =>
    obtain ⟨middle, hstep, hrest⟩ := Option.bind_eq_some_iff.mp h
    rw [List.cons_append, splitFrom, hstep]
    dsimp only
    rw [ih hrest, List.length_cons]
    congr 1
    omega

theorem step?_bare {current : OpenRecord} {byte : UInt8} (hpart : current.part ≠ .quoted)
    (hcomma : byte ≠ comma) (hbreak : isBreak byte = false)
    (hquote : byte = quote → current.part = .plain) :
    current.step? byte = some (current.push byte .plain) := by
  unfold OpenRecord.step?
  by_cases hbyte : byte = quote
  · simp [hquote hbyte, hcomma, hbreak]
  · split
    · next h => exact absurd h hpart
    · simp [hbyte, hcomma, hbreak]

theorem step?_comma {current : OpenRecord} (hpart : current.part ≠ .quoted) :
    current.step? comma = some ⟨current.position, current.ended, [], .start⟩ := by
  unfold OpenRecord.step?
  split
  · next h => exact absurd h hpart
  · simp [comma, quote]

theorem step?_break {current : OpenRecord} {byte : UInt8} (hpart : current.part ≠ .quoted)
    (hbreak : isBreak byte) :
    current.step? byte = if current.part = .before then some current else none := by
  have hquote : byte ≠ quote := by
    rintro rfl
    cases hbreak
  have hcomma : byte ≠ comma := by
    rintro rfl
    cases hbreak
  unfold OpenRecord.step?
  split
  · next h => exact absurd h hpart
  · simp [hquote, hcomma, hbreak]

theorem steps_breaks {breaks : Bytes} (h : ∀ byte ∈ breaks, isBreak byte) (position : Nat) :
    breaks.foldlM OpenRecord.step? (.soughtFrom position) =
      some (OpenRecord.soughtFrom position) := by
  induction breaks with
  | nil => rfl
  | cons byte breaks ih =>
    obtain ⟨hbyte, hrest⟩ := List.forall_mem_cons.mp h
    rw [List.foldlM_cons, step?_break (by simp [OpenRecord.soughtFrom]) hbyte]
    exact ih hrest

theorem steps_bare {content : Bytes} (h : Bare content) (current : OpenRecord)
    (hpart : current.part ≠ .quoted)
    (hquote : content.head? = some quote → current.part = .plain) :
    content.foldlM OpenRecord.step? current = some { current with
      field := content.reverse ++ current.field
      part := if content = [] then current.part else .plain } := by
  induction content generalizing current with
  | nil => rfl
  | cons byte content ih =>
    obtain ⟨⟨hcomma, hbreak⟩, hrest⟩ := List.forall_mem_cons.mp h
    have hstep := step?_bare hpart hcomma hbreak (fun hbyte ↦ hquote (congrArg some hbyte))
    rw [List.foldlM_cons, hstep, Option.bind_eq_bind, Option.bind_some,
      ih hrest _ (by simp [OpenRecord.push]) (fun _ ↦ rfl)]
    simp [OpenRecord.push]

theorem steps_doubled (content : Bytes) (current : OpenRecord) (hpart : current.part = .quoted) :
    (doubled content).foldlM OpenRecord.step? current =
      some { current with field := content.reverse ++ current.field } := by
  induction content generalizing current with
  | nil => rfl
  | cons byte content ih =>
    have hbyte : (doubled [byte]).foldlM OpenRecord.step? current =
        some (current.push byte .quoted) := by
      by_cases hquote : byte = quote
      · simp [doubled, hquote, OpenRecord.step?, hpart, OpenRecord.push]
      · simp [doubled, hquote, OpenRecord.step?, hpart]
    rw [show doubled (byte :: content) = doubled [byte] ++ doubled content by simp [doubled],
      List.foldlM_append, hbyte, Option.bind_eq_bind, Option.bind_some, ih _ rfl]
    simp [OpenRecord.push, hpart]

/-- A quote opens quotes where a field starts. -/
theorem step?_opening (position : Nat) (fields : List Bytes) {part : Part}
    (hpart : part = .before ∨ part = .start) :
    OpenRecord.step? ⟨position, fields, [], part⟩ quote = some ⟨position, fields, [], .quoted⟩ := by
  rcases hpart with rfl | rfl <;> simp [OpenRecord.step?]

/-- A written field is read to its end. -/
theorem steps_field {bytes content : Bytes} (h : WrittenField bytes content) (position : Nat)
    (fields : List Bytes) {part : Part} (hpart : part = .before ∨ part = .start) :
    ∃ after, after ≠ .quoted ∧ (after = .before → bytes = [] ∧ part = .before) ∧
      bytes.foldlM OpenRecord.step? ⟨position, fields, [], part⟩ =
        some ⟨position, fields, content.reverse, after⟩ := by
  cases h with
  | bare _ hquote hbare =>
    have hne : part ≠ .quoted := by
      rcases hpart with rfl | rfl <;> simp
    have hsteps := steps_bare hbare ⟨position, fields, [], part⟩ hne
      (fun hhead ↦ absurd hhead hquote)
    rw [List.append_nil] at hsteps
    refine ⟨if bytes = [] then part else .plain, ?_, ?_, hsteps⟩
    · split
      · exact hne
      · simp
    · split
      · next hnil => exact fun hbefore ↦ ⟨hnil, hbefore⟩
      · simp
  | quoted content tail hquote hbare =>
    have hclose : OpenRecord.step? ⟨position, fields, content.reverse, .quoted⟩ quote =
        some ⟨position, fields, content.reverse, .closing⟩ := by
      simp [OpenRecord.step?]
    refine ⟨if tail = [] then .closing else .plain, ?_, ?_, ?_⟩
    · split <;> simp
    · split <;> simp
    · rw [List.foldlM_cons, step?_opening position fields hpart, Option.bind_eq_bind,
        Option.bind_some, List.foldlM_append, steps_doubled content _ rfl, Option.bind_eq_bind,
        Option.bind_some, List.foldlM_cons, List.append_nil, hclose, Option.bind_eq_bind,
        Option.bind_some, steps_bare hbare _ (by simp) (fun hhead ↦ absurd hhead hquote),
        List.reverse_append]

/-- A written record is read to its end, where quotes are open only if the source ends. -/
theorem steps_record {atEnd : Bool} {bytes : Bytes} {written : List Bytes}
    (h : WrittenRecord atEnd bytes written) (position : Nat) (fields : List Bytes) {part : Part}
    (hpart : part = .before ∨ part = .start) :
    ∃ last : OpenRecord, (last.part = .quoted → atEnd = true) ∧
      (last.part = .before → bytes = [] ∧ part = .before) ∧
      last.position = position ∧ last.ended = written.reverse ++ fields ∧
        bytes.foldlM OpenRecord.step? ⟨position, fields, [], part⟩ = some last := by
  induction h generalizing fields part with
  | one hfield =>
    obtain ⟨after, hquoted, hbefore, hsteps⟩ := steps_field hfield position fields hpart
    exact ⟨_, fun hopen ↦ absurd hopen hquoted, hbefore, rfl, by simp [OpenRecord.ended], hsteps⟩
  | unclosed content hend =>
    refine ⟨⟨position, fields, content.reverse, .quoted⟩, fun _ ↦ hend, by simp, rfl,
      by simp [OpenRecord.ended], ?_⟩
    rw [List.foldlM_cons, step?_opening position fields hpart, Option.bind_eq_bind,
      Option.bind_some, steps_doubled content _ rfl, List.append_nil]
  | @more bytes content rest written hfield hrest ih =>
    obtain ⟨after, hquoted, -, hsteps⟩ := steps_field hfield position fields hpart
    obtain ⟨last, hopen, hbefore, hposition, hended, hlast⟩ :=
      ih (content :: fields) (.inr rfl)
    refine ⟨last, hopen, ?_, hposition, by simp [hended], ?_⟩
    · intro hpart
      cases (hbefore hpart).2
    · rw [List.foldlM_append, hsteps, Option.bind_eq_bind, Option.bind_some, List.foldlM_cons,
        step?_comma hquoted, Option.bind_eq_bind, Option.bind_some]
      simpa [OpenRecord.ended] using hlast

/-! ## The splitter -/

theorem found_cons_decode {previous position : Nat} {placed : PlacedRecord}
    {later : List PlacedRecord} {found : List (Except String Record)} (hle : previous ≤ position)
    (hstart : position ≤ placed.start) (h : Found placed.stop later found) :
    Found previous (placed :: later)
      (RawRecord.decode ⟨position, placed.fields⟩ :: found) := by
  unfold RawRecord.decode
  split
  · next texts htexts =>
    exact .record hle hstart (Bytes.mapM_toText?_eq_some_iff.mp htexts) h
  · next hnone =>
    refine .refused (fun texts htexts ↦ ?_) h
    rw [Bytes.mapM_toText?_eq_some_iff.mpr htexts] at hnone
    cases hnone

theorem found_splitFrom {offset : Nat} {source : Bytes} {records : List PlacedRecord}
    (h : Layout offset source records) {previous sought : Nat} (hle : previous ≤ sought)
    (hfirst : ∀ first ∈ records.head?, sought ≤ first.start) :
    Found previous records
      ((splitFrom offset (.soughtFrom sought) source).map RawRecord.decode) := by
  induction h generalizing previous sought with
  | @done offset breaks hbreaks =>
    have hall := splitFrom_append (steps_breaks hbreaks sought) offset []
    rw [List.append_nil] at hall
    rw [hall]
    exact .nothing
  | @record offset breaks bytes rest fields later hbreaks hne hrecord hend hlater ih =>
    obtain ⟨last, hopen, hbefore, hposition, hended, hsteps⟩ :=
      steps_record hrecord sought [] (.inl rfl)
    have hpart : last.part ≠ .before := fun hpart ↦ hne (hbefore hpart).1
    have hfinish : last.finish = ⟨sought, fields⟩ := by
      rw [OpenRecord.finish, hposition, hended, List.append_nil, List.reverse_reverse]
    have hstart := hfirst _ rfl
    have hnext := hlater.lt_start hend
    rw [List.append_assoc, splitFrom_append (steps_breaks hbreaks sought), OpenRecord.soughtFrom,
      splitFrom_append hsteps]
    cases rest with
    | nil =>
      rw [splitFrom, if_neg hpart, hfinish]
      exact found_cons_decode hle hstart (ih (Nat.le_succ _) hnext)
    | cons ending rest =>
      have hclosed : last.part ≠ .quoted := fun hquoted ↦ by cases hopen hquoted
      rw [splitFrom, step?_break hclosed (hend ending rfl), if_neg hpart]
      dsimp only
      rw [hfinish]
      have hrest := ih (Nat.le_succ _) hnext
      rw [splitFrom, step?_break (by simp [OpenRecord.soughtFrom]) (hend ending rfl)] at hrest
      exact found_cons_decode hle hstart hrest

theorem split_followsDialect : FollowsDialect split := by
  intro source records h
  unfold Laid at h
  unfold split splitRaw
  split
  · next hmark =>
    rw [if_pos hmark] at h
    exact found_splitFrom h (Nat.zero_le 0) (fun first _ ↦ Nat.zero_le first.start)
  · next hmark =>
    rw [if_neg hmark] at h
    exact found_splitFrom h (Nat.zero_le 0) (fun first _ ↦ Nat.zero_le first.start)

end AssetOverlay.Records

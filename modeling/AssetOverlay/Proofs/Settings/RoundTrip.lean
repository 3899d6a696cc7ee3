import AssetOverlay.Proofs.File.Writing
import AssetOverlay.Proofs.Settings.Quoting
import AssetOverlay.Settings.File

/-!
# Settings that were saved

Writing leaves out the paths that are not set, and reading starts from the standard settings, in
which no path is set either and which may differ from the written ones in both flags.  Both flags are
always written.  So every member that is not standard is read, each one once, and settings that were
saved are loaded again as they were.

The reader takes one step for every member.  A step is followed from the separator in front of a
member to the end of its value; what comes behind it may be anything.
-/

namespace AssetOverlay.Settings

open Json

/-- What is written for a member, unless it is left out. -/
def written? (settings : Settings) : Field → Option (List Char)
  | .packageFolder => settings.packageFolder.map fun path ↦ quote path.text
  | .logFile => settings.logFile.map fun path ↦ quote path.text
  | .verbose => some (flag settings.verbose)
  | .loadOnStart => some (flag settings.loadOnStart)

/-- The members that are written, with their values. -/
def written (settings : Settings) : List (Field × List Char) :=
  Field.all.filterMap fun field ↦ (settings.written? field).map fun value ↦ (field, value)

/-- Takes a member over from settings. -/
def adopt (settings draft : Settings) : Field → Settings
  | .packageFolder => { draft with packageFolder := settings.packageFolder }
  | .logFile => { draft with logFile := settings.logFile }
  | .verbose => { draft with verbose := settings.verbose }
  | .loadOnStart => { draft with loadOnStart := settings.loadOnStart }

/-- What stands in front of a member, which may be the first one. -/
def separator (first : Bool) : List Char :=
  if first then ['\n'] else [',', '\n']

/-- A member with its value on a line of its own. -/
def line (entry : Field × List Char) : List Char :=
  member entry.1.name entry.2

/-- What is left of an object when the given members are still to come. -/
def remaining (first : Bool) : List (Field × List Char) → List Char
  | [] => ['\n', '\x7d']
  | entry :: rest => separator first ++ line entry ++ remaining false rest

/-! ## The text of settings by members -/

theorem members_eq_map_line (settings : Settings) :
    settings.members = settings.written.map line := by
  rcases settings with ⟨_ | folder, _ | log, verbose, start⟩ <;> rfl

theorem intercalate_lines (entry : Field × List Char) (rest : List (Field × List Char)) :
    [',', '\n'].intercalate ((entry :: rest).map line) ++ ['\n', '\x7d'] =
      line entry ++ remaining false rest := by
  induction rest generalizing entry with
  | nil => simp [remaining]
  | cons next rest ih =>
    rw [remaining, List.append_assoc, ← ih, List.map_cons, List.map_cons,
      List.intercalate_cons_cons]
    simp [separator]

theorem written_ne_nil (settings : Settings) : settings.written ≠ [] := by
  rcases settings with ⟨_ | folder, _ | log, verbose, start⟩ <;> exact List.cons_ne_nil _ _

theorem toList_text (settings : Settings) :
    settings.text.toList = '\x7b' :: remaining true settings.written := by
  obtain ⟨entry, rest, hwritten⟩ := List.exists_cons_of_ne_nil settings.written_ne_nil
  rw [text, String.toList_ofList, members_eq_map_line, hwritten, remaining, List.cons_append,
    List.cons_append, intercalate_lines]
  rfl

theorem toBytes_eq (settings : Settings) :
    settings.toBytes = 123 :: encodeChars (remaining true settings.written) := by
  rw [toBytes, ofText_eq_encodeChars, toList_text]
  rfl

/-! ## Values -/

section Values

variable (place : Place) (rest : Bytes)

theorem readPath_quote (text : String) :
    readPath ⟨place, 32 :: (encodeChars (quote text) ++ rest)⟩ =
      .ok (some ⟨text⟩, ⟨place.afterAll (32 :: encodeChars (quote text)), rest⟩) := by
  let escapes := encodeChars (text.toList.flatMap escape)
  have hread := readText_quote text (place.after 32) rest
  -- Behind the quote that is looked at, a path is a text.
  have hpath : readPath ⟨place, 32 :: 34 :: (escapes ++ 34 :: rest)⟩ =
      (readText (Cursor.next ⟨place.after 32, 34 :: (escapes ++ 34 :: rest)⟩)).map
        fun found ↦ (some (Path.mk found.1), found.2) := rfl
  rw [encodeChars_quote_append, hpath, ← encodeChars_quote_append, hread]
  rfl

theorem readFlag_flag (value : Bool) :
    readFlag ⟨place, 32 :: (encodeChars (flag value) ++ rest)⟩ =
      .ok (value, ⟨place.afterAll (32 :: encodeChars (flag value)), rest⟩) := by
  cases value <;> rfl

/-- The value of a member is read as it was written. -/
theorem readField_written {settings : Settings} {field : Field} {value : List Char}
    (h : settings.written? field = some value) (draft : Settings) :
    readField draft field ⟨place, 32 :: (encodeChars value ++ rest)⟩ =
      .ok (settings.adopt draft field, ⟨place.afterAll (32 :: encodeChars value), rest⟩) := by
  cases field with
  | packageFolder =>
    obtain ⟨path, hpath, rfl⟩ := Option.map_eq_some_iff.mp h
    rw [readField, readPath_quote, adopt, hpath]
    rfl
  | logFile =>
    obtain ⟨path, hpath, rfl⟩ := Option.map_eq_some_iff.mp h
    rw [readField, readPath_quote, adopt, hpath]
    rfl
  | verbose =>
    obtain rfl := Option.some.inj h
    rw [readField, readFlag_flag, adopt]
    rfl
  | loadOnStart =>
    obtain rfl := Option.some.inj h
    rw [readField, readFlag_flag, adopt]
    rfl

end Values

/-! ## Members -/

theorem ofName?_name (field : Field) : Field.ofName? field.name = some field := by
  cases field <;> rfl

theorem nextMember_separator (first : Bool) (place : Place) (name : String) (rest : Bytes) :
    nextMember first
        ⟨place, encodeChars (separator first ++ [' ', ' ']) ++ (encodeChars (quote name) ++ rest)⟩ =
      .ok (.more (Cursor.next ⟨place.afterAll (encodeChars (separator first ++ [' ', ' '])),
        encodeChars (quote name) ++ rest⟩)) := by
  rw [encodeChars_quote_append]
  cases first <;> rfl

theorem encodeChars_line (first : Bool) (field : Field) (value : List Char) :
    encodeChars (separator first ++ line (field, value)) =
      encodeChars (separator first ++ [' ', ' ']) ++
        (encodeChars (quote field.name) ++ 58 :: 32 :: encodeChars value) := by
  have hline : separator first ++ line (field, value) =
      (separator first ++ [' ', ' ']) ++ (quote field.name ++ ([':', ' '] ++ value)) := by
    simp [line, member]
  rw [hline, encodeChars_append, encodeChars_append (quote field.name),
    encodeChars_append [':', ' ']]
  rfl

/-- One member is read from the separator in front of it to the end of its value. -/
theorem readMembers_line {settings : Settings} {field : Field} {value : List Char}
    (h : settings.written? field = some value) (fuel : Nat) (first : Bool)
    {seen : List Field} (hseen : field ∉ seen) (draft : Settings) (place : Place)
    (rest : Bytes) :
    readMembers (fuel + 1) first seen draft
        ⟨place, encodeChars (separator first ++ line (field, value)) ++ rest⟩ =
      readMembers fuel false (field :: seen) (settings.adopt draft field)
        ⟨place.afterAll (encodeChars (separator first ++ line (field, value))), rest⟩ := by
  let ahead := place.afterAll (encodeChars (separator first ++ [' ', ' ']))
  let named := ahead.afterAll (encodeChars (quote field.name))
  let behind := 58 :: 32 :: (encodeChars value ++ rest)
  have hplace : place.afterAll (encodeChars (separator first ++ line (field, value))) =
      (named.after 58).afterAll (32 :: encodeChars value) := by
    rw [encodeChars_line]
    simp [Place.afterAll, ahead, named]
  have hname : readText (Cursor.next ⟨ahead, encodeChars (quote field.name) ++ behind⟩) =
      .ok (field.name, ⟨named, behind⟩) :=
    readText_quote field.name ahead behind
  have hcolon : readColon ⟨named, behind⟩ =
      .ok ⟨named.after 58, 32 :: (encodeChars value ++ rest)⟩ := rfl
  have hfield : readField draft field ⟨named.after 58, 32 :: (encodeChars value ++ rest)⟩ =
      .ok (settings.adopt draft field,
        ⟨(named.after 58).afterAll (32 :: encodeChars value), rest⟩) :=
    readField_written (named.after 58) rest h draft
  have hnew : ¬ seen.contains field := by simpa using hseen
  rw [hplace, encodeChars_line, List.append_assoc, List.append_assoc, List.cons_append,
    List.cons_append, readMembers, nextMember_separator]
  dsimp only
  rw [hname]
  dsimp only
  rw [ofName?_name]
  dsimp only
  rw [if_neg hnew, hcolon]
  dsimp only
  rw [hfield]

/-- All members that are left are read, up to the end of the object. -/
theorem readMembers_remaining {settings : Settings} {entries : List (Field × List Char)}
    (h : ∀ entry ∈ entries, settings.written? entry.1 = some entry.2)
    (hnodup : (entries.map Prod.fst).Nodup) {seen : List Field}
    (hseen : ∀ entry ∈ entries, entry.1 ∉ seen) {fuel : Nat} (hfuel : entries.length < fuel)
    (first : Bool) (draft : Settings) (place : Place) :
    ∃ last : Place,
      readMembers fuel first seen draft ⟨place, encodeChars (remaining first entries)⟩ =
        .ok ((entries.map Prod.fst).foldl settings.adopt draft, ⟨last, []⟩) := by
  induction entries generalizing seen fuel first draft place with
  | nil =>
    obtain ⟨fuel, rfl⟩ := Nat.exists_eq_add_of_lt hfuel
    exact ⟨(place.after 10).after 125, by cases first <;> rfl⟩
  | cons entry rest ih =>
    obtain ⟨field, value⟩ := entry
    obtain ⟨fuel, rfl⟩ := Nat.exists_eq_add_one_of_ne_zero (Nat.ne_zero_of_lt hfuel)
    obtain ⟨hentry, hrest⟩ := List.forall_mem_cons.mp h
    obtain ⟨hnew, hlater⟩ := List.forall_mem_cons.mp hseen
    rw [List.map_cons, List.nodup_cons] at hnodup
    have hunseen : ∀ entry ∈ rest, entry.1 ∉ field :: seen := by
      intro entry hmem hin
      rcases List.mem_cons.mp hin with heq | hin
      · exact hnodup.1 (List.mem_map.mpr ⟨entry, hmem, heq⟩)
      · exact hlater entry hmem hin
    obtain ⟨last, hlast⟩ := ih hrest hnodup.2 hunseen (Nat.lt_of_succ_lt_succ hfuel) false
      (settings.adopt draft field)
      (place.afterAll (encodeChars (separator first ++ line (field, value))))
    refine ⟨last, ?_⟩
    rw [remaining, encodeChars_append, readMembers_line hentry fuel first hnew, hlast]
    rfl

/-! ## Whole settings -/

theorem written?_of_mem_written {settings : Settings} {entry : Field × List Char}
    (h : entry ∈ settings.written) : settings.written? entry.1 = some entry.2 := by
  obtain ⟨field, _, hfield⟩ := List.mem_filterMap.mp h
  obtain ⟨value, hvalue, rfl⟩ := Option.map_eq_some_iff.mp hfield
  exact hvalue

/-- Every member is written at most once. -/
theorem nodup_written (settings : Settings) : (settings.written.map Prod.fst).Nodup := by
  have hfields : settings.written.map Prod.fst =
      Field.all.filter fun field ↦ (settings.written? field).isSome := by
    rcases settings with ⟨_ | folder, _ | log, verbose, start⟩ <;> rfl
  rw [hfields]
  exact (by decide : Field.all.Nodup).filter _

/-- What is left out is standard, so taking over what is written makes up the settings. -/
theorem adopt_written (settings : Settings) :
    (settings.written.map Prod.fst).foldl settings.adopt standard = settings := by
  rcases settings with ⟨_ | folder, _ | log, verbose, start⟩ <;> rfl

/-- There are as many bytes left as members, and more. -/
theorem length_lt_remaining (first : Bool) (entries : List (Field × List Char)) :
    entries.length < (encodeChars (remaining first entries)).length := by
  induction entries generalizing first with
  | nil =>
    change 0 < 2
    decide
  | cons entry rest ih =>
    have hline : 0 < (encodeChars (line entry)).length := by
      rw [line, member, List.cons_append, List.cons_append, encodeChars_cons, List.length_append]
      exact Nat.add_pos_left (by decide) _
    have hrest := ih false
    rw [remaining, encodeChars_append, encodeChars_append, List.length_append,
      List.length_append, List.length_cons]
    omega

/-- The text of settings describes them. -/
theorem ofBytes_toBytes (settings : Settings) : ofBytes settings.toBytes = .ok settings := by
  let left := encodeChars (remaining true settings.written)
  obtain ⟨last, hmembers⟩ := readMembers_remaining
    (fun _ hmem ↦ written?_of_mem_written hmem) settings.nodup_written
    (fun _ _ ↦ List.not_mem_nil) (Nat.lt_succ_of_lt (length_lt_remaining true settings.written))
    true standard (Place.start.after 123)
  rw [adopt_written] at hmembers
  have hread : readFrom (.ofBytes (123 :: left)) =
      readMembers (left.length + 1) true [] standard ⟨Place.start.after 123, left⟩ := rfl
  rw [toBytes_eq, ofBytes, hread, hmembers]
  rfl

/-! ## Saved settings -/

theorem load_of_save {settings : Settings} {files saved : FileTree} {path : Path}
    (h : settings.save files path = .ok saved) : load saved path = .ok (some settings) := by
  unfold save at h
  split at h
  · next hwrite =>
    cases h
    rw [load, if_pos (FileTree.contains_of_write hwrite), FileTree.read_of_write hwrite]
    dsimp only
    rw [ofBytes_toBytes]
  · cases h

/-- Settings that were saved are loaded again as they were, whatever they are and whatever the file
held before. -/
theorem saved_settings_load_again {settings : Settings} {files saved : FileTree} {path : Path}
    (h : settings.save files path = .ok saved) :
    load saved path = .ok (some settings) ∧ loadOrStandard saved path = (settings, []) := by
  have hload := load_of_save h
  refine ⟨hload, ?_⟩
  rw [loadOrStandard, hload]

/-- Settings with a quote, a backslash, a control character and a line break in one path and nothing
in the other replace a longer file. -/
theorem settings_saved_over_a_file :
    let settings : Settings := ⟨some ⟨"a\"b\\c\x01\nd"⟩, some ⟨""⟩, true, false⟩
    let path : Path := ⟨"/data/settings.mods.json"⟩
    let place : Location := ["data", "settings.mods.json"]
    let files := (FileTree.empty.put ["data"] .folder).put place (.file (List.replicate 1000 0))
    let saved := files.put place (.file settings.toBytes)
    settings.save files path = .ok saved ∧ load saved path = .ok (some settings) ∧
      loadOrStandard saved path = (settings, []) := by
  intro settings path place files saved
  have hsave : settings.save files path = .ok saved := by decide
  obtain ⟨hload, hloadOrStandard⟩ := saved_settings_load_again hsave
  exact ⟨hsave, hload, hloadOrStandard⟩

end AssetOverlay.Settings

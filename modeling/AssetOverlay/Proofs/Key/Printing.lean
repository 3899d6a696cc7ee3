import AssetOverlay.Proofs.Catalogue.Origin
import AssetOverlay.Proofs.Key.Literal

/-!
# Printed keys

The log and the messages show an asset by its key, as the shortest hexadecimal numeral.  Such a
numeral has one to sixteen digits for every word of 64 bits, so behind a word and an underscore it is
a literal key, and the key that it writes is the printed one, less its highest bit.  The key of a
name has no such bit and comes back as it is.

So a name may be replaced by its printed key wherever names are looked at as keys: in the name of an
entry, among its hooks, and in the cells of tables.
-/

namespace AssetOverlay

/-- A text announces a literal key: one of the words, in letters of either case, and an
underscore. -/
def Announces (mark : String) : Prop :=
  ∃ word ∈ ["hash", "script", "file"], ∃ letters : List Char,
    mark.toList = letters ++ ['_'] ∧ List.Forall₂ CaseOf letters word.toList

namespace Key

theorem length_toDigits_bounds (word : UInt64) :
    1 ≤ (Nat.toDigits 16 word.toNat).length ∧ (Nat.toDigits 16 word.toNat).length ≤ 16 := by
  have hword : word.toNat < 16 ^ 16 := word.toNat_lt
  exact ⟨Nat.length_toDigits_pos, (Nat.length_toDigits_le_iff (by decide) (by decide)).mpr hword⟩

/-- A printed key behind what announces one is a literal key. -/
theorem keyWritten_text {mark : String} (h : Announces mark) (key : Key) :
    KeyWritten CaseOf (mark ++ key.text) key.value.toNat := by
  obtain ⟨word, hword, letters, hmark, hletters⟩ := h
  obtain ⟨hone, hsixteen⟩ := length_toDigits_bounds key.value
  refine ⟨word, hword, letters, Nat.toDigits 16 key.value.toNat, ?_, hletters, hone, hsixteen,
    writes_toDigits (by decide) (by decide) _⟩
  rw [String.toList_append, hmark, text, Hex.numeral, String.toList_ofList, List.append_assoc]
  rfl

theorem toNat_ofName_text {mark : String} (h : Announces mark) (key : Key) :
    (ofName (mark ++ key.text)).value.toNat = key.value.toNat % 2 ^ 63 :=
  ofName_of_keyWritten ((keyWritten_text h key).imp fun _ _ ↦ Or.inl)

/-- A name by its printed key. -/
def printedName (mark name : String) : String :=
  mark ++ (ofName name).text

theorem ofName_printedName {mark : String} (h : Announces mark) (name : String) :
    ofName (printedName mark name) = ofName name := by
  have hvalue : (ofName (printedName mark name)).value = (ofName name).value := by
    rw [← UInt64.toNat_inj, printedName, toNat_ofName_text h,
      Nat.mod_eq_of_lt (toNat_ofName_lt name)]
  exact congrArg mk hvalue

end Key

namespace Entry

/-- An entry in which every name stands by its printed key. -/
def byPrintedKeys (mark : String) (entry : Entry) : Entry :=
  { entry with
    name := Key.printedName mark entry.name
    hooks := entry.hooks.map (Key.printedName mark) }

theorem decode_byPrintedKeys {mark : String} (h : Announces mark) (entry : Entry) (path : Path)
    (bytes : Bytes) : (entry.byPrintedKeys mark).decode path bytes = entry.decode path bytes := by
  have hhooks : (entry.hooks.map (Key.printedName mark)).map Key.ofName =
      entry.hooks.map Key.ofName := by
    rw [List.map_map]
    exact List.map_congr_left fun hook _ ↦ Key.ofName_printedName h hook
  unfold decode byPrintedKeys
  rw [Key.ofName_printedName h, hhooks]

theorem load_byPrintedKeys {mark : String} (h : Announces mark) (entry : Entry)
    (files : FileTree) (folder : Path) :
    (entry.byPrintedKeys mark).load files folder = entry.load files folder := by
  have hname : Key.ofName (entry.byPrintedKeys mark).name = Key.ofName entry.name :=
    Key.ofName_printedName h entry.name
  unfold load
  simp only [decode_byPrintedKeys h, hname]
  rfl

end Entry

/-- Behind what announces a literal key, the printed form of any key is a name of this key without
its highest bit, and the printed form of the key of a name is a name of the same key.  So what is
printed for an asset that an entry has loaded is a name of the asset.  An entry loads the same asset,
with the same hooks and in the same way, when its name and its hooks are replaced by their printed
keys, and a cell of keys has the same value. -/
theorem printed_keys_refer_back (mark : String) (hmark : Announces mark) :
    (∀ key : Key, (Key.ofName (mark ++ key.text)).value.toNat = key.value.toNat % 2 ^ 63) ∧
      (∀ name, Key.ofName (mark ++ (Key.ofName name).text) = Key.ofName name) ∧
      (∀ (entry : Entry) (files : FileTree) (folder : Path),
        (∀ asset, (entry.load files folder).outcome = .ok asset →
          asset.slot = (entry.kind, Key.ofName (mark ++ asset.key.text))) ∧
        (entry.byPrintedKeys mark).load files folder = entry.load files folder) ∧
      ∀ type ∈ [CellType.hash, CellType.hash7, CellType.hash8], ∀ name,
        type.read (mark ++ (Key.ofName name).text) = type.read name := by
  refine ⟨Key.toNat_ofName_text hmark, Key.ofName_printedName hmark, ?_, ?_⟩
  · intro entry files folder
    refine ⟨?_, entry.load_byPrintedKeys hmark files folder⟩
    intro asset hload
    have hslot := (Entry.load_eq_ok hload).1
    have hkey : asset.key = Key.ofName entry.name := congrArg Prod.snd hslot
    rw [hslot, hkey]
    exact congrArg _ (Key.ofName_printedName hmark entry.name).symm
  · intro type htype name
    have hkey : Key.ofName (mark ++ (Key.ofName name).text) = Key.ofName name :=
      Key.ofName_printedName hmark name
    have hread (text : String) : type.read text = .ok (.hash (Key.ofName text)) := by
      simp only [List.mem_cons, List.not_mem_nil, or_false] at htype
      rcases htype with rfl | rfl | rfl <;> rfl
    rw [hread, hread, hkey]

/-- The largest word, whose highest bit is lost, and an entry whose name comes back. -/
theorem printed_behind_mixed_case :
    let entry : Entry := ⟨.rawFile, "zm/b.gsc", ⟨"/a"⟩, []⟩
    let files := FileTree.empty.put ["a"] (.file [1])
    let asset : Asset := ⟨Key.ofName "zm/b.gsc", ⟨"/a"⟩, .rawFile [1]⟩
    Announces "Script_" ∧
      (Key.ofName ("Script_" ++ Key.text ⟨0xffffffffffffffff⟩)).value.toNat = 2 ^ 63 - 1 ∧
      Key.ofName ("Script_" ++ (Key.ofName "zm/b.gsc").text) = Key.ofName "zm/b.gsc" ∧
      (entry.load files ⟨"/"⟩).outcome = .ok asset ∧
      asset.slot = (.rawFile, Key.ofName ("Script_" ++ asset.key.text)) ∧
      CellType.hash8 ∈ [CellType.hash, CellType.hash7, CellType.hash8] ∧
      CellType.hash8.read ("Script_" ++ (Key.ofName "zm/b.gsc").text) =
        CellType.hash8.read "zm/b.gsc" := by
  intro entry files asset
  have hmark : Announces "Script_" :=
    ⟨"script", by decide, "Script".toList, by decide, by decide⟩
  have hload : (entry.load files ⟨"/"⟩).outcome = .ok asset := by decide +kernel
  have hhash : CellType.hash8 ∈ [CellType.hash, CellType.hash7, CellType.hash8] := by decide
  obtain ⟨hkeys, hnames, hentries, hcells⟩ := printed_keys_refer_back "Script_" hmark
  exact ⟨hmark, hkeys ⟨0xffffffffffffffff⟩, hnames "zm/b.gsc", hload,
    (hentries entry files ⟨"/"⟩).1 asset hload, hhash, hcells _ hhash "zm/b.gsc"⟩

end AssetOverlay

import AssetOverlay.Package.Survey
import AssetOverlay.Proofs.Package.Entries
import AssetOverlay.Proofs.Reload.Assets

/-!
# What a package declares and loads

The data list of a package is told from the JSON object in the file of its manifest, and what an
item of this list yields is told from the entry that the item declares.  Neither depends on how
manifests and entries are read, and both are what reading and loading them comes to.
-/

namespace AssetOverlay

open Json

/-! ## Manifests -/

/-- The members of the object in a file, if the file can be read and holds an object. -/
def objectIn? (files : FileTree) (path : Path) : Option (List (String × Tree)) :=
  match files.read path with
  | .error _ => none
  | .ok bytes =>
    match Json.read bytes with
    | .ok (.object members) => some members
    | _ => none

/-- The text under the name `name`. -/
def titleAmong? (members : List (String × Tree)) : Option String :=
  match members.lookup "name" with
  | some (.text title) => some title
  | _ => none

/-- The items of the list under the name `data`.  Where there is no list, there are no items. -/
def itemsAmong (members : List (String × Tree)) : List Tree :=
  match members.lookup "data" with
  | some (.list items) => items
  | _ => []

/-- The data list of the package in a folder, which is empty if the file `metadata.json` there can't
be read as an object. -/
def dataList (files : FileTree) (folder : Path) : List Tree :=
  ((objectIn? files (folder.join ⟨"metadata.json"⟩)).map itemsAmong).getD []

theorem Json.Tree.member?_object (members : List (String × Tree)) (name : String) :
    (Tree.object members).member? name = members.lookup name := by
  unfold member?
  dsimp only
  induction members with
  | nil => rfl
  | cons member rest ih =>
    rw [List.lookup_cons, List.find?_cons, ← ih, BEq.comm]
    cases name == member.1 <;> rfl

namespace Manifest

/-- The manifest that an object describes. -/
theorem ofTree_object (path : Path) (members : List (String × Tree)) :
    ofTree path (.object members) =
      .ok ⟨(titleAmong? members).getD path.text, itemsAmong members⟩ := by
  unfold ofTree titleAmong? itemsAmong
  simp only [Tree.members?, Tree.member?_object]
  congr 2
  · cases members.lookup "name" with
    | none => rfl
    | some tree => cases tree <;> rfl
  · cases members.lookup "data" with
    | none => rfl
    | some tree => cases tree <;> rfl

/-- A manifest is read exactly if there is an object in its file, and is what the members of this
object say. -/
theorem toOption_read (files : FileTree) (path : Path) :
    (read files path).toOption = (objectIn? files path).map fun members ↦
      ⟨(titleAmong? members).getD path.text, itemsAmong members⟩ := by
  unfold read objectIn?
  cases files.read path with
  | error failure => rfl
  | ok bytes =>
    dsimp only
    cases Json.read bytes with
    | error failure => rfl
    | ok tree =>
      cases tree with
      | object members => exact congrArg Except.toOption (ofTree_object path members)
      | _ => rfl

end Manifest

theorem dataList_eq (files : FileTree) (folder : Path) :
    dataList files folder =
      ((Manifest.read files (folder.join Manifest.fileName)).toOption.map Manifest.items).getD
        [] := by
  rw [Manifest.toOption_read, Option.map_map]
  rfl

theorem ordered_of_objectIn? {files : FileTree} {path : Path} {members : List (String × Tree)}
    (h : objectIn? files path = some members) : (Tree.object members).Ordered := by
  unfold objectIn? at h
  split at h
  · cases h
  · split at h
    · next hread =>
      cases h
      exact ordered_of_read hread
    · cases h

theorem ordered_of_mem_itemsAmong {members : List (String × Tree)}
    (h : (Tree.object members).Ordered) {item : Tree} (hitem : item ∈ itemsAmong members) :
    item.Ordered := by
  unfold itemsAmong at hitem
  split at hitem
  · next items hlookup =>
    rw [← Tree.member?_object] at hlookup
    exact (h.member? hlookup).items? rfl item hitem
  · cases hitem

/-- The items of a data list are in order. -/
theorem ordered_of_mem_dataList {files : FileTree} {folder : Path} {item : Tree}
    (h : item ∈ dataList files folder) : item.Ordered := by
  unfold dataList at h
  cases hobject : objectIn? files (folder.join ⟨"metadata.json"⟩) with
  | none => simp [hobject] at h
  | some members =>
    simp only [hobject, Option.map_some, Option.getD_some] at h
    exact ordered_of_mem_itemsAmong (ordered_of_objectIn? hobject) h

/-! ## Items -/

/-- The bytes of a file are the content that an entry declares, under its name and with its hooks if
it is a script. -/
inductive Entry.Decodes (entry : Entry) (bytes : Bytes) : Content → Prop
  | script {script : Script} (hkind : entry.kind = .script)
      (hprepared : (Script.prepare (Key.ofName entry.name) bytes
        (entry.hooks.map Key.ofName)).outcome = .ok script) : entry.Decodes bytes (.script script)
  | rawFile (hkind : entry.kind = .rawFile) : entry.Decodes bytes (.rawFile bytes)
  | luaFile (hkind : entry.kind = .luaFile) : entry.Decodes bytes (.luaFile bytes)
  | stringTable {table : StringTable} (hkind : entry.kind = .stringTable)
      (hread : StringTable.read bytes = .ok table) : entry.Decodes bytes (.stringTable table)

/-- An entry in a folder yields an asset: the file at its path can be read and decodes. -/
inductive Entry.Yields (entry : Entry) (files : FileTree) (folder : Path) : Asset → Prop
  | intro {bytes : Bytes} {content : Content}
      (hbytes : files.read (folder.join entry.path) = .ok bytes)
      (hcontent : entry.Decodes bytes content) :
      entry.Yields files folder ⟨Key.ofName entry.name, folder.join entry.path, content⟩

theorem Entry.decode_eq_ok_iff {entry : Entry} {path : Path} {bytes : Bytes} {content : Content} :
    (entry.decode path bytes).2 = .ok content ↔ entry.Decodes bytes content := by
  constructor
  · intro h
    unfold decode at h
    split at h
    · next hkind =>
      dsimp only at h
      split at h
      · next hprepared =>
        cases h
        exact .script hkind hprepared
      · cases h
    · next hkind =>
      cases h
      exact .rawFile hkind
    · next hkind =>
      cases h
      exact .luaFile hkind
    · next hkind =>
      split at h
      · next hread =>
        cases h
        exact .stringTable hkind hread
      · cases h
  · rintro (⟨hkind, hprepared⟩ | hkind | hkind | ⟨hkind, hread⟩)
    · simp [decode, hkind, hprepared]
    · simp [decode, hkind]
    · simp [decode, hkind]
    · simp [decode, hkind, hread]

theorem Entry.load_eq_ok_iff {entry : Entry} {files : FileTree} {folder : Path} {asset : Asset} :
    (entry.load files folder).outcome = .ok asset ↔ entry.Yields files folder asset := by
  constructor
  · intro h
    unfold load at h
    dsimp only at h
    split at h
    · cases h
    · next bytes hbytes =>
      split at h
      · next notes content hdecode =>
        cases h
        exact .intro hbytes (decode_eq_ok_iff.mp (congrArg Prod.snd hdecode))
      · cases h
  · rintro @⟨bytes, content, hbytes, hcontent⟩
    have hread : files.read (entry.resolve folder) = .ok bytes := hbytes
    have hdecode : (entry.decode (entry.resolve folder) bytes).2 = .ok content :=
      decode_eq_ok_iff.mpr hcontent
    unfold load
    dsimp only
    rw [hread]
    dsimp only
    cases hpair : entry.decode (entry.resolve folder) bytes with
    | mk notes outcome =>
      rw [hpair] at hdecode
      subst hdecode
      rfl

/-- An item yields exactly what the entry yields that it declares. -/
theorem asset?_loadItem_eq_some_iff {item : Tree} (h : item.Ordered) {files : FileTree}
    {folder : Path} {asset : Asset} : (loadItem files folder item).asset? = some asset ↔
      ∃ entry, Declares item entry ∧ entry.Yields files folder asset := by
  simp only [← Entry.ofTree_eq_ok_iff h, ← Entry.load_eq_ok_iff, Attempt.asset?_eq_some_iff]
  unfold loadItem
  cases Entry.ofTree item with
  | error problem => simp [Attempt.failed]
  | ok entry =>
    have hduring : ((entry.load files folder).during (.loadingEntry entry.name)).outcome =
        .ok asset ↔ (entry.load files folder).outcome = .ok asset := by
      unfold Attempt.during
      cases (entry.load files folder).outcome <;> simp [Except.mapError]
    simpa using hduring

end AssetOverlay

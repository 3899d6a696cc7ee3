import AssetOverlay.Proofs.Reload.Counts
import AssetOverlay.Proofs.Reload.Reference

/-!
# Members that declare nothing

A member of a data list that declares no entry is a stray.  It is counted as one error of an entry,
and nothing else comes of it: the reload puts the same assets in force, in the same order, as if the
manifest had been without it.  Both hold of the whole reload, because what is counted for a package
and what it puts in force does not depend on the counts before.
-/

namespace AssetOverlay

open Json

/-- The items of a manifest that was read are in order. -/
theorem Manifest.ordered_items {files : FileTree} {path : Path} {manifest : Manifest}
    (h : read files path = .ok manifest) : ∀ item ∈ manifest.items, item.Ordered := by
  have hread : (read files path).toOption = some manifest := toOption_eq_some_iff.mpr h
  rw [toOption_read] at hread
  obtain ⟨members, hobject, rfl⟩ := Option.map_eq_some_iff.mp hread
  intro item hitem
  exact ordered_of_mem_itemsAmong (ordered_of_objectIn? hobject) hitem

/-- Nothing is loaded for a stray. -/
theorem asset?_loadItem_of_stray {item : Tree} (hordered : item.Ordered)
    (h : ∀ entry, ¬ Declares item entry) (files : FileTree) (folder : Path) :
    (loadItem files folder item).asset? = none := by
  apply Option.eq_none_iff_forall_ne_some.mpr
  intro asset hasset
  obtain ⟨entry, hdeclares, -⟩ := (asset?_loadItem_eq_some_iff hordered).mp hasset
  exact h entry hdeclares

/-! ## One more error -/

namespace ReloadReport

/-- A report with one more error of an entry. -/
def withEntryError (report : ReloadReport) : ReloadReport :=
  { report with entryErrors := report.entryErrors + 1 }

theorem addPackage_withEntryError (report : ReloadReport) (package : PackageSurvey) :
    report.withEntryError.addPackage package = (report.addPackage package).withEntryError := by
  cases package with
  | skipped manifest fault => rfl
  | read title attempts => simp [addPackage, withEntryError, Nat.add_right_comm]

theorem addRegistration_withEntryError (files : FileTree) (report : ReloadReport)
    (registration : Path × Key) : report.withEntryError.addRegistration files registration =
      (report.addRegistration files registration).withEntryError := by
  unfold addRegistration
  cases registeredAsset? files registration <;> rfl

/-- One attempt more that failed is one error more. -/
theorem addPackage_read_failed (report : ReloadReport) (title : String)
    (before after : List Attempt) {attempt : Attempt} (h : attempt.asset? = none) :
    report.addPackage (.read title (before ++ attempt :: after)) =
      (report.addPackage (.read title (before ++ after))).withEntryError := by
  simp [addPackage, withEntryError, h, Nat.add_assoc]

end ReloadReport

/-! ## A reload with and without a stray -/

/-- A member of the data list in one of the manifests of a root. -/
structure DataMember (files : FileTree) (root : Path) where
  names : List String
  list_eq : files.list root = .ok names
  /-- The folders whose packages are taken in before. -/
  earlier : List Path
  folder : Path
  /-- The folders whose packages are taken in later. -/
  later : List Path
  folders_eq : Survey.folders files root names = earlier ++ folder :: later
  manifest : Manifest
  read_eq : Manifest.read files (folder.join Manifest.fileName) = .ok manifest
  /-- The members in front of this one. -/
  before : List Tree
  item : Tree
  /-- The members behind this one. -/
  after : List Tree
  items_eq : manifest.items = before ++ item :: after

namespace DataMember

variable {files : FileTree} {root : Path}

/-- The packages of the root, as they would be with another data list in the manifest. -/
def packagesWith (member : DataMember files root) (items : List Tree) : List PackageSurvey :=
  member.earlier.filterMap (PackageSurvey.ofFolder? files) ++
    .read member.manifest.title (items.map (loadItem files member.folder)) ::
      member.later.filterMap (PackageSurvey.ofFolder? files)

theorem packagesOf_eq (member : DataMember files root) :
    Survey.packagesOf files root = .ok (member.packagesWith member.manifest.items) := by
  have hcontains : files.contains (member.folder.join Manifest.fileName) := by
    by_contra h
    obtain ⟨failure, hread⟩ := FileTree.read_error_of_not_contains h
    have hmanifest := member.read_eq
    simp [Manifest.read, hread] at hmanifest
  have hpackage : PackageSurvey.ofFolder? files member.folder =
      some (.read member.manifest.title
        (member.manifest.items.map (loadItem files member.folder))) := by
    unfold PackageSurvey.ofFolder?
    dsimp only
    rw [if_pos hcontains, member.read_eq]
  rw [Survey.packagesOf, member.list_eq]
  dsimp only
  rw [member.folders_eq, List.filterMap_append, List.filterMap_cons, hpackage]
  rfl

theorem ordered_item (member : DataMember files root) : member.item.Ordered :=
  Manifest.ordered_items member.read_eq member.item (by simp [member.items_eq])

variable {member : DataMember files root} (h : ∀ entry, ¬ Declares member.item entry)

include h

theorem assets_packagesWith :
    (member.packagesWith member.manifest.items).flatMap PackageSurvey.assets =
      (member.packagesWith (member.before ++ member.after)).flatMap PackageSurvey.assets := by
  have hnone := asset?_loadItem_of_stray member.ordered_item h files member.folder
  simp [packagesWith, PackageSurvey.assets, PackageSurvey.attempts, member.items_eq, hnone]

theorem addPackages_packagesWith (report : ReloadReport) :
    report.addPackages (.ok (member.packagesWith member.manifest.items)) =
      (report.addPackages
        (.ok (member.packagesWith (member.before ++ member.after)))).withEntryError := by
  have hnone := asset?_loadItem_of_stray member.ordered_item h files member.folder
  simp only [ReloadReport.addPackages, packagesWith, List.foldl_append, List.foldl_cons]
  rw [member.items_eq, List.map_append, List.map_cons,
    ReloadReport.addPackage_read_failed _ _ _ _ hnone, ← List.map_append]
  exact List.foldl_hom ReloadReport.withEntryError fun report package ↦
    report.addPackage_withEntryError package

end DataMember

/-- What a reload of a root would come to without a member of a data list. -/
def Overlay.reloadWithout (overlay : Overlay) (files : FileTree) (root : Path)
    (member : DataMember (prepared files root) root) : Intake :=
  overlay.reloadOf (prepared files root) { (Survey.ofRoot files root).2 with
    packages := .ok (member.packagesWith (member.before ++ member.after)) }

section Reload

variable (overlay : Overlay) (files : FileTree) (root : Path)
  {member : DataMember (Overlay.prepared files root) root}
  (h : ∀ entry, ¬ Declares member.item entry)

include h

theorem Overlay.overlay_reload_of_stray :
    (overlay.reload files root).overlay = (overlay.reloadWithout files root member).overlay := by
  have hassets : (Survey.ofRoot files root).2.assets =
      (member.packagesWith (member.before ++ member.after)).flatMap PackageSurvey.assets := by
    rw [← member.assets_packagesWith h]
    change Survey.assets ⟨root, _, Survey.packagesOf (prepared files root) root⟩ = _
    rw [member.packagesOf_eq]
    rfl
  rw [overlay_reload, reloadWithout, overlay_reloadOf, found, hassets]
  rfl

theorem Overlay.report_reload_of_stray :
    (overlay.reload files root).report =
      (overlay.reloadWithout files root member).report.withEntryError := by
  rw [report_reload, counts, member.packagesOf_eq, member.addPackages_packagesWith h,
    reloadWithout, report_reloadOf]
  exact List.foldl_hom ReloadReport.withEntryError fun report registration ↦
    report.addRegistration_withEntryError (prepared files root) registration

end Reload

/-- A tree is an entry exactly if it declares this entry.  Every member of a data list that declares
none is one error of an entry in the report of a reload, and leaves everything else in the report
and all assets as they would be without it. -/
theorem entries_exactly_as_declared :
    (∀ tree : Tree, tree.Ordered → ∀ entry : Entry,
      Entry.ofTree tree = .ok entry ↔ Declares tree entry) ∧
    ∀ (overlay : Overlay) (files : FileTree) (root : Path)
      (member : DataMember (Overlay.prepared files root) root),
      (∀ entry, ¬ Declares member.item entry) →
        (overlay.reload files root).overlay =
            (overlay.reloadWithout files root member).overlay ∧
          (overlay.reload files root).report =
            (overlay.reloadWithout files root member).report.withEntryError := by
  constructor
  · intro tree hordered entry
    exact Entry.ofTree_eq_ok_iff hordered
  · intro overlay files root member hstray
    exact ⟨overlay.overlay_reload_of_stray files root hstray,
      overlay.report_reload_of_stray files root hstray⟩

namespace Sample

/-- The manifest of a package with a number between two entries. -/
def strayManifest : String :=
  "\x7b\"data\":[\x7b\"path\":\"b\",\"type\":\"RawFile\",\"name\":\"a\",\"size\":1\x7d,7," ++
    "[\"luafile\",\"c\",\"d\",[\"e\"]]]\x7d"

/-- A root with that package. -/
def strayFiles : FileTree where
  entries := [(["mods"], .folder), (["mods", "one"], .folder),
    (["mods", "one", "metadata.json"], .file (Bytes.ofText strayManifest)),
    (["mods", "one", "b"], .file [1]), (["mods", "one", "d"], .file [2])]
  distinct := by decide

/-- What the items of a manifest are read to. -/
def entriesOf (manifest : Manifest) : List (Option Entry) :=
  manifest.items.map fun item ↦ (Entry.ofTree item).toOption

end Sample

theorem stray_between_entries :
    let overlay := Overlay.empty 0
    let files := Sample.strayFiles
    let root : Path := ⟨"/mods"⟩
    ∃ (first : Tree) (member : DataMember (Overlay.prepared files root) root),
      member.before = [first] ∧ Declares first ⟨.rawFile, "a", ⟨"b"⟩, []⟩ ∧
        (∀ entry, ¬ Declares member.item entry) ∧
        (overlay.reload files root).overlay =
            (overlay.reloadWithout files root member).overlay ∧
          (overlay.reload files root).report =
            (overlay.reloadWithout files root member).report.withEntryError := by
  intro overlay files root
  let path : Path := ⟨"/mods/one/metadata.json"⟩
  have hfiles : (Overlay.prepared files root).list root = .ok ["one"] ∧
      Survey.folders (Overlay.prepared files root) root ["one"] = [⟨"/mods/one"⟩] ∧
      (Manifest.read (Overlay.prepared files root) path).toOption.map Sample.entriesOf =
        some [some ⟨.rawFile, "a", ⟨"b"⟩, []⟩, none, some ⟨.luaFile, "c", ⟨"d"⟩, ["e"]⟩] := by
    decide +kernel
  obtain ⟨hlist, hfolders, hentries⟩ := hfiles
  obtain ⟨manifest, hmanifest, hitems⟩ := Option.map_eq_some_iff.mp hentries
  obtain ⟨first, rest, hfirst, hentry, hitems⟩ := List.map_eq_cons_iff.mp hitems
  obtain ⟨item, last, hrest, hstray, -⟩ := List.map_eq_cons_iff.mp hitems
  have hread : Manifest.read (Overlay.prepared files root) path = .ok manifest :=
    toOption_eq_some_iff.mp hmanifest
  let member : DataMember (Overlay.prepared files root) root :=
    { names := ["one"], list_eq := hlist, earlier := [], folder := ⟨"/mods/one"⟩, later := [],
      folders_eq := hfolders, manifest, read_eq := hread, before := [first], item, after := last,
      items_eq := by rw [hfirst, hrest]; rfl }
  have hordered (tree : Tree) (hmem : tree ∈ manifest.items) (entry : Entry) :
      Entry.ofTree tree = .ok entry ↔ Declares tree entry :=
    entries_exactly_as_declared.1 tree (Manifest.ordered_items hread tree hmem) entry
  have hdeclares : Declares first ⟨.rawFile, "a", ⟨"b"⟩, []⟩ :=
    (hordered first (by simp [hfirst]) _).mp (toOption_eq_some_iff.mp hentry)
  have hnone : ∀ entry, ¬ Declares item entry := by
    intro entry hdeclared
    have htree := (hordered item (by simp [hfirst, hrest]) entry).mpr hdeclared
    rw [htree] at hstray
    cases hstray
  obtain ⟨hoverlay, hreport⟩ := entries_exactly_as_declared.2 overlay files root member hnone
  exact ⟨first, member, rfl, hdeclares, hnone, hoverlay, hreport⟩

end AssetOverlay

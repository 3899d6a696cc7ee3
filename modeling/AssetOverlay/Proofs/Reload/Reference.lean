import AssetOverlay.Proofs.Bytes.Texts
import AssetOverlay.Proofs.Catalogue.Loads
import AssetOverlay.Proofs.Package.Items
import Mathlib.Data.Finset.Sort
import Mathlib.Data.List.Nodup

/-!
# Reloading told from scratch

This module tells without overlay, catalogue and survey which assets a session has loaded since its
last reload: a *history* has only the files, the registrations that succeeded and the list of these
assets.  The catalogue of the session reflects this list at every time.  What a package adds to the
list is told from the data list in the file of its manifest, and from what the items there declare.

The names in the root folder form a set here.  They are put in the order of their bytes, so nothing
depends on the order in which the file system lists them.
-/

namespace AssetOverlay

/-! ## The order of names -/

/-- The bytes of a name come no later than those of another one. -/
def NameOrder (first second : String) : Prop :=
  Bytes.ofText first ≤ Bytes.ofText second

instance : DecidableRel NameOrder := fun first second ↦
  inferInstanceAs (Decidable (Bytes.ofText first ≤ Bytes.ofText second))

instance : IsTrans String NameOrder where
  trans _ _ _ hfirst hsecond := List.le_trans hfirst hsecond

instance : Std.Antisymm NameOrder where
  antisymm _ _ hfirst hsecond := Bytes.ofText_injective (List.le_antisymm hfirst hsecond)

instance : Std.Total NameOrder where
  total first second := List.le_total (Bytes.ofText first) (Bytes.ofText second)

theorem pairwise_mergeSort_inOrder (names : List String) :
    (names.mergeSort Survey.inOrder).Pairwise NameOrder := by
  have htrans : ∀ first second third, Survey.inOrder first second →
      Survey.inOrder second third → Survey.inOrder first third := by
    intro first second third hfirst hsecond
    exact decide_eq_true
      (List.le_trans (of_decide_eq_true hfirst) (of_decide_eq_true hsecond))
  have htotal : ∀ first second,
      Survey.inOrder first second || Survey.inOrder second first := by
    intro first second
    rcases List.le_total (Bytes.ofText first) (Bytes.ofText second) with h | h
    · simp [Survey.inOrder, h]
    · simp [Survey.inOrder, h]
  exact (List.pairwise_mergeSort htrans htotal names).imp of_decide_eq_true

/-- Whichever order some names come in, sorting them and then picking some gives these in the order
of names. -/
theorem filter_mergeSort_inOrder {names : List String} (h : names.Nodup) (test : String → Bool) :
    (names.mergeSort Survey.inOrder).filter test =
      (names.toFinset.filter fun name ↦ test name).sort NameOrder := by
  have hperm := List.mergeSort_perm names Survey.inOrder
  have hnodup : ((names.mergeSort Survey.inOrder).filter test).Nodup :=
    (hperm.nodup_iff.mpr h).filter test
  have hset : ((names.mergeSort Survey.inOrder).filter test).toFinset =
      names.toFinset.filter fun name ↦ test name := by
    rw [List.toFinset_filter, List.toFinset_eq_of_perm _ _ hperm]
  rw [← hset]
  exact ((List.toFinset_sort NameOrder hnodup).mpr
    ((pairwise_mergeSort_inOrder names).filter test)).symm

/-! ## Listing folders -/

namespace FileTree

/-- No folder holds a name twice. -/
theorem nodup_namesIn (tree : FileTree) (folder : Location) : (tree.namesIn folder).Nodup := by
  let name? (location : Location) : Option String :=
    if location.dropLast = folder then location.getLast? else none
  have hname : ∀ location name, name? location = some name → location = folder ++ [name] := by
    intro location name h
    simp only [name?, Option.ite_none_right_eq_some] at h
    rw [← h.1]
    exact (List.dropLast_append_getLast? name h.2).symm
  have hnames : tree.namesIn folder = (tree.entries.map Prod.fst).filterMap name? := by
    rw [List.filterMap_map]
    rfl
  rw [hnames]
  refine tree.distinct.filterMap ?_
  intro first second name hfirst hsecond
  rw [hname first name hfirst, hname second name hsecond]

theorem nodup_of_list {tree : FileTree} {path : Path} {names : List String}
    (h : tree.list path = .ok names) : names.Nodup := by
  unfold list at h
  split at h
  · cases h
  · split at h
    · cases h
      exact tree.nodup_namesIn _
    · cases h
    · cases h

theorem read_error_of_not_contains {tree : FileTree} {path : Path} (h : ¬ tree.contains path) :
    ∃ failure, tree.read path = .error failure := by
  unfold contains at h
  unfold read
  cases hfind : tree.find path with
  | error failure => exact ⟨failure, rfl⟩
  | ok item => simp [hfind] at h

end FileTree

/-! ## Loads -/

/-- The names of the folders right inside a root, none if it can't be listed. -/
def packageNames (files : FileTree) (root : Path) : Finset String :=
  match files.list root with
  | .error _ => ∅
  | .ok names => names.toFinset.filter fun name ↦ files.isFolder (root.join ⟨name⟩)

/-- The assets of the package in a folder: what the items of its data list yield, in their order. -/
def packageLoads (files : FileTree) (folder : Path) : List Asset :=
  (dataList files folder).filterMap fun item ↦ (loadItem files folder item).asset?

/-- The assets of all packages of a root in the order of their names. -/
def rootLoads (files : FileTree) (root : Path) : List Asset :=
  ((packageNames files root).sort NameOrder).flatMap fun name ↦
    packageLoads files (root.join ⟨name⟩)

theorem attempts_ofFolder? (files : FileTree) (folder : Path) :
    (PackageSurvey.ofFolder? files folder).toList.flatMap PackageSurvey.attempts =
      (dataList files folder).map (loadItem files folder) := by
  rw [dataList_eq]
  unfold PackageSurvey.ofFolder?
  dsimp only
  split
  · cases Manifest.read files (folder.join Manifest.fileName) <;>
      simp [PackageSurvey.attempts, Except.toOption]
  · next h =>
    obtain ⟨failure, hread⟩ := FileTree.read_error_of_not_contains h
    simp [Manifest.read, hread, Except.toOption]

theorem assets_ofFolder? (files : FileTree) (folder : Path) :
    (PackageSurvey.ofFolder? files folder).toList.flatMap PackageSurvey.assets =
      packageLoads files folder := by
  calc
    _ = ((PackageSurvey.ofFolder? files folder).toList.flatMap PackageSurvey.attempts).filterMap
        Attempt.asset? := List.filterMap_flatMap.symm
    _ = _ := by
      rw [attempts_ofFolder?, List.filterMap_map]
      rfl

/-- A survey goes over the folders in the order of their names. -/
theorem folders_eq_map_sort {files : FileTree} {root : Path} {names : List String}
    (h : files.list root = .ok names) :
    Survey.folders files root names =
      ((packageNames files root).sort NameOrder).map fun name ↦ root.join ⟨name⟩ := by
  have hsorted := filter_mergeSort_inOrder (FileTree.nodup_of_list h)
    fun name ↦ files.isFolder (root.join ⟨name⟩)
  unfold Survey.folders
  rw [List.filter_map]
  simp only [packageNames, h, ← hsorted]
  rfl

theorem assets_ofRoot (files : FileTree) (root : Path) :
    (Survey.ofRoot files root).2.assets = rootLoads (Overlay.prepared files root) root := by
  change Survey.assets ⟨root, _, Survey.packagesOf (Overlay.prepared files root) root⟩ = _
  generalize Overlay.prepared files root = prepared
  unfold Survey.assets Survey.packagesOf rootLoads
  cases h : prepared.list root with
  | error failure => simp [packageNames, h]
  | ok names =>
    dsimp only
    rw [folders_eq_map_sort h, List.filterMap_eq_flatMap_toList, List.flatMap_assoc,
      List.flatMap_map]
    simp only [assets_ofFolder?]

theorem found_eq_loads (files : FileTree) (root : Path) (registrations : List (Path × Key)) :
    Overlay.found files root registrations =
      rootLoads (Overlay.prepared files root) root ++
        registrations.filterMap (registeredAsset? (Overlay.prepared files root)) := by
  rw [Overlay.found, assets_ofRoot]

/-! ## Histories -/

/-- What has happened to a session, as far as its catalogue depends on it. -/
structure History where
  files : FileTree
  /-- The files that were registered successfully. -/
  registered : List (Path × Key)
  /-- The assets that were loaded since the last reload began. -/
  loads : List Asset

namespace History

/-- Nothing has happened yet. -/
def start (files : FileTree) : History :=
  ⟨files, [], []⟩

/-- A reload loads the packages of a root, which is created if it is missing, and then the
registered files that can be read. -/
def reload (history : History) (root : Path) : History :=
  let prepared := Overlay.prepared history.files root
  { files := prepared
    registered := history.registered
    loads := rootLoads prepared root ++ history.registered.filterMap (registeredAsset? prepared) }

/-- A file is registered and loaded if it can be read. -/
def register (history : History) (path : Path) (key : Key) : History :=
  match registeredAsset? history.files (path, key) with
  | none => history
  | some asset =>
    { history with
      registered := history.registered ++ [(path, key)]
      loads := history.loads ++ [asset] }

/-- One operation more. -/
def extend (history : History) : Operation → History
  | .change files => { history with files }
  | .reload root => history.reload root
  | .command root inGame => if inGame then history else history.reload root
  | .access (.register path key) => history.register path key
  | .access (.lookUp _ _) => history

/-- Some operations more. -/
def extendAll (history : History) (operations : List Operation) : History :=
  operations.foldl extend history

end History

namespace Session

/-- A session has the files and registrations of a history and reflects its loads. -/
structure Follows (session : Session) (history : History) : Prop where
  files_eq : session.files = history.files
  registrations_eq : session.overlay.registrations = history.registered
  reflects : session.overlay.catalogue.Reflects history.loads

theorem follows_start (files : FileTree) (nextSerial : Nat) :
    (start files nextSerial).Follows (.start files) where
  files_eq := rfl
  registrations_eq := rfl
  reflects := Catalogue.reflects_empty

/-- Whatever an overlay held, a reload makes it follow a history with its registrations. -/
theorem follows_reload (overlay : Overlay) (files : FileTree) (root : Path) (loads : List Asset) :
    (ofReload (overlay.reload files root)).Follows
      (History.reload ⟨files, overlay.registrations, loads⟩ root) where
  files_eq := rfl
  registrations_eq := overlay.registrations_reload files root
  reflects := by
    have hreflects := overlay.reflects_reload files root
    rw [found_eq_loads] at hreflects
    exact hreflects

theorem Follows.reload {session : Session} {history : History} (h : session.Follows history)
    (root : Path) :
    (ofReload (session.overlay.reload session.files root)).Follows (history.reload root) := by
  obtain ⟨files, registered, loads⟩ := history
  obtain ⟨rfl, rfl, -⟩ := h
  exact follows_reload session.overlay session.files root loads

theorem Follows.access {session : Session} {history : History} (h : session.Follows history)
    (access : Access) :
    (session.access access).Follows (history.extend (.access access)) := by
  cases access with
  | lookUp kind key => exact h
  | register path key =>
    simp only [Session.access, History.extend, History.register, ← h.files_eq]
    cases hregister : session.overlay.register session.files path key with
    | error fault =>
      rw [Overlay.register_eq_error hregister]
      exact h
    | ok result =>
      obtain ⟨hregistrations, asset, hasset, hreflects⟩ :=
        Overlay.reflects_register h.reflects hregister
      rw [h.registrations_eq] at hregistrations
      rw [hasset]
      exact ⟨rfl, hregistrations, hreflects⟩

theorem Follows.perform {session : Session} {history : History} (h : session.Follows history)
    (operation : Operation) : (session.perform operation).Follows (history.extend operation) := by
  cases operation with
  | change files => exact ⟨rfl, h.registrations_eq, h.reflects⟩
  | reload root => exact h.reload root
  | command root inGame =>
    cases inGame with
    | true => exact h
    | false => exact h.reload root
  | access access => exact h.access access

theorem Follows.performAll {session : Session} {history : History} (h : session.Follows history)
    (operations : List Operation) :
    (session.performAll operations).Follows (history.extendAll operations) := by
  induction operations generalizing session history with
  | nil => exact h
  | cons operation rest ih => exact ih (h.perform operation)

end Session

/-- After any operations the keys of the catalogue are the slots of all loads in the order of their
first occurrence, and every slot holds the last load that belongs into it.  What a package adds to
the loads comes from the items of its data list, each of which gives what the entry yields that it
declares. -/
theorem catalogue_reflects_history (files : FileTree) (nextSerial : Nat)
    (operations : List Operation) :
    let catalogue := ((Session.start files nextSerial).performAll operations).overlay.catalogue
    let loads := ((History.start files).extendAll operations).loads
    catalogue.keys = (loads.map Asset.slot).eraseDups ∧
      (∀ kind key, (catalogue.get? (kind, key)).map LoadedAsset.asset =
        (loads.filter fun asset ↦ asset.kind = kind ∧ asset.key = key).getLast?) ∧
      ∀ tree folder, ∀ item ∈ dataList tree folder, ∀ asset,
        (loadItem tree folder item).asset? = some asset ↔
          ∃ entry, Declares item entry ∧ entry.Yields tree folder asset := by
  intro catalogue loads
  have h := (Session.follows_start files nextSerial).performAll operations
  refine ⟨h.reflects.keys_eq, ?_, ?_⟩
  · intro kind key
    have hasset := h.reflects.asset_eq (kind, key)
    simpa only [Catalogue.lastIn, Asset.slot, Prod.mk.injEq] using hasset
  · intro tree folder item hitem asset
    exact asset?_loadItem_eq_some_iff (ordered_of_mem_dataList hitem)

end AssetOverlay

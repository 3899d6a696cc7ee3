import AssetOverlay.File.Tree
import Mathlib.Data.List.Chain
import Mathlib.Data.List.Infix

/-!
# Creating folders

Creating a folder and those above it a second time changes nothing, even if the first time failed.
Where it succeeded the folder is there.  Where it failed, one of the folders in the chain is none,
so that nothing below it can be created either, and the others have been created already.  A folder
that could not be created is therefore none afterwards, and can't be listed.
-/

namespace AssetOverlay

namespace FileTree

/-! ## Changed trees -/

/-- The top is always a folder. -/
theorem ne_top_of_ne_folder (tree : FileTree) {place : Location}
    (h : tree.item? place ≠ some .folder) : place ≠ [] := by
  rintro rfl
  exact h rfl

theorem item?_put (tree : FileTree) {location : Location} (h : location ≠ []) (item : FileItem)
    (other : Location) :
    (tree.put location item).item? other =
      if other = location then some item else tree.item? other := by
  unfold item? put filter
  by_cases htop : other = []
  · subst htop
    rw [if_pos rfl, if_pos rfl, if_neg (Ne.symm h)]
  · rw [if_neg htop, if_neg htop, List.find?_cons]
    by_cases heq : other = location
    · simp [heq]
    · have hskip : (location == other) = false := beq_eq_false_iff_ne.mpr (Ne.symm heq)
      rw [if_neg heq, hskip, List.find?_filter]
      dsimp only
      congr 2
      funext entry
      by_cases hentry : entry.1 = other
      · simp [hentry, heq]
      · simp [hentry]

/-- A change of a tree leaves all folders where they are and takes nothing away. -/
structure Keeps (tree changed : FileTree) : Prop where
  folder : ∀ location, tree.item? location = some .folder → changed.item? location = some .folder
  held : ∀ location, (tree.item? location).isSome → (changed.item? location).isSome

theorem keeps_put {tree : FileTree} {location : Location}
    (h : tree.item? location ≠ some .folder) (item : FileItem) :
    tree.Keeps (tree.put location item) := by
  have hne := tree.ne_top_of_ne_folder h
  refine ⟨?_, ?_⟩
  · intro other hfolder
    rw [item?_put tree hne, if_neg, hfolder]
    rintro rfl
    exact h hfolder
  · intro other hheld
    rw [item?_put tree hne]
    split
    · rfl
    · exact hheld

theorem Keeps.follow {tree changed : FileTree} (h : tree.Keeps changed) {here next : Location}
    {name : String} (hfollow : tree.follow here name = .ok next) :
    changed.follow here name = .ok next := by
  unfold FileTree.follow at hfollow ⊢
  split at hfollow
  · next hfolder =>
    rw [h.folder here hfolder]
    dsimp only at hfollow ⊢
    split_ifs at hfollow with hhere habove hlong hnext
    · rw [if_pos hhere, hfollow]
    · rw [if_neg hhere, if_pos habove, hfollow]
    · rw [if_neg hhere, if_neg habove, if_neg hlong, if_pos (h.held _ hnext)]
      exact hfollow
  · cases hfollow

theorem Keeps.followAll {tree changed : FileTree} (h : tree.Keeps changed)
    {here place : Location} {names : List String}
    (hfollow : tree.followAll here names = .ok place) :
    changed.followAll here names = .ok place := by
  induction names generalizing here with
  | nil => exact hfollow
  | cons name rest ih =>
    unfold FileTree.followAll at hfollow ⊢
    split at hfollow
    · next next hnext =>
      rw [h.follow hnext]
      exact ih hfollow
    · cases hfollow

theorem Keeps.newPlace {tree changed : FileTree} (h : tree.Keeps changed) {names : List String}
    {place : Option (Location × String)} (hplace : tree.newPlace names = .ok place) :
    changed.newPlace names = .ok place := by
  unfold FileTree.newPlace at hplace ⊢
  split at hplace
  · exact hplace
  · split at hplace
    · cases hplace
    · next here hhere =>
      rw [h.followAll hhere]
      dsimp only
      split at hplace
      · next hfolder =>
        rw [h.folder here hfolder]
        exact hplace
      · cases hplace

theorem newPlace_eq_some {tree : FileTree} {names : List String} {here : Location}
    {name : String} (h : tree.newPlace names = .ok (some (here, name))) :
    tree.followAll [] names.dropLast = .ok here ∧ tree.item? here = some .folder ∧
      names.getLast? = some name ∧ name ≠ "." ∧ name ≠ ".." := by
  unfold newPlace at h
  split at h
  · cases h
  · next last hlast =>
    split at h
    · cases h
    · next place hplace =>
      split at h
      · next hfolder =>
        split_ifs at h with hdots
        · cases h
        · cases h
          exact ⟨hplace, hfolder, hlast, not_or.mp hdots⟩
      · cases h

/-- A folder is made at a free place only. -/
theorem makeFolder_eq_ok {tree made : FileTree} {names : List String}
    (h : tree.makeFolder names = .ok made) :
    ∃ here name, tree.newPlace names = .ok (some (here, name)) ∧ ¬ nameTooLong name ∧
      tree.item? (here ++ [name]) = none ∧ made = tree.put (here ++ [name]) .folder := by
  unfold makeFolder at h
  split at h
  · cases h
  · cases h
  · next here name hplace =>
    split_ifs at h with hlong hthere
    exact ⟨here, name, hplace, hlong, Option.not_isSome_iff_eq_none.mp hthere,
      (Except.ok.inj h).symm⟩

/-- A folder that was just made is there. -/
theorem makeFolder_of_makeFolder {tree made : FileTree} {names : List String}
    (h : tree.makeFolder names = .ok made) : made.makeFolder names = .error .existing := by
  obtain ⟨here, name, hplace, hlong, hfree, rfl⟩ := makeFolder_eq_ok h
  have hnow : (tree.put (here ++ [name]) .folder).item? (here ++ [name]) = some .folder := by
    rw [item?_put tree (by simp), if_pos rfl]
  unfold makeFolder
  rw [(keeps_put (by simp [hfree]) .folder).newPlace hplace]
  simp [hlong, hnow]

/-! ## Chains of folders -/

theorem followAll_append (tree : FileTree) (here : Location) (first second : List String) :
    tree.followAll here (first ++ second) =
      match tree.followAll here first with
      | .ok next => tree.followAll next second
      | .error failure => .error failure := by
  induction first generalizing here with
  | nil => rfl
  | cons name rest ih =>
    rw [List.cons_append, followAll, followAll]
    cases tree.follow here name with
    | error failure => rfl
    | ok next => exact ih next

/-- What lies above a folder is a folder. -/
theorem leadsToFolder_of_followAll_append {tree : FileTree} {above rest : List String}
    {here : Location} (h : tree.followAll [] (above ++ rest) = .ok here)
    (hfolder : tree.item? here = some .folder) : tree.leadsToFolder above := by
  rw [followAll_append] at h
  unfold leadsToFolder
  cases habove : tree.followAll [] above with
  | error failure => simp [habove] at h
  | ok place =>
    rw [habove] at h
    cases rest with
    | nil =>
      cases h
      simp [hfolder]
    | cons name rest =>
      -- A name is followed from a folder only.
      cases hplace : tree.item? place with
      | none => simp [followAll, follow, hplace] at h
      | some item =>
        cases item with
        | folder => simp [hplace]
        | file content => simp [followAll, follow, hplace] at h

theorem leadsToFolder_above {tree : FileTree} {above names : List String}
    (h : above <+: names) (hnames : tree.leadsToFolder names) : tree.leadsToFolder above := by
  obtain ⟨rest, rfl⟩ := h
  unfold leadsToFolder at hnames
  split at hnames
  · next here hhere => exact leadsToFolder_of_followAll_append hhere (eq_of_beq hnames)
  · cases hnames

/-- Nothing can be made below names that lead to no folder. -/
theorem makeFolder_of_not_leadsToFolder {tree : FileTree} {above names : List String}
    (h : above <+: names.dropLast) (habove : ¬ tree.leadsToFolder above) :
    ∃ failure, tree.makeFolder names = .error failure := by
  cases hmake : tree.makeFolder names with
  | error failure => exact ⟨failure, rfl⟩
  | ok made =>
    obtain ⟨here, name, hplace, -, -, -⟩ := makeFolder_eq_ok hmake
    obtain ⟨hfollow, hfolder, -⟩ := newPlace_eq_some hplace
    obtain ⟨rest, hrest⟩ := h
    rw [← hrest] at hfollow
    exact absurd (leadsToFolder_of_followAll_append hfollow hfolder) habove

/-- Each folder lies in the next one. -/
def Nested (folders : List (List String)) : Prop :=
  folders.IsChain fun lower upper ↦ upper <+: lower.dropLast

theorem nested_foldersAbove {reversed names : List String} (h : reversed.reverse <+: names) :
    Nested (names :: foldersAbove reversed) := by
  induction reversed generalizing names with
  | nil => exact List.isChain_singleton names
  | cons name above ih =>
    have habove : above.reverse <+: names := by
      rw [List.reverse_cons] at h
      exact (List.prefix_append _ _).trans h
    rw [foldersAbove]
    split
    · exact ih habove
    · refine List.isChain_cons_cons.mpr ⟨?_, ih (List.prefix_refl _)⟩
      obtain ⟨rest, rfl⟩ := h
      rw [List.reverse_cons, List.append_assoc, List.singleton_append, List.dropLast_append_cons]
      exact List.prefix_append _ _

/-- A failure is that of the lowest folder, which is none then, or that of one above it. -/
theorem makeFolders_eq_failed {tree prepared : FileTree} {names : List String}
    {above : List (List String)} {failure : FileFailure}
    (h : tree.makeFolders (names :: above) = (prepared, some failure)) :
    ¬ prepared.leadsToFolder names ∨ tree.makeFolders above = (prepared, some failure) := by
  unfold makeFolders at h
  split at h
  · cases h
  · split at h
    · next hmissing habove =>
      cases h
      exact .inr habove
    · split at h
      · cases h
      · next hmake =>
        simp only [Prod.mk.injEq, Option.ite_none_left_eq_some] at h
        exact .inl (h.1 ▸ h.2.1)
  · simp only [Prod.mk.injEq, Option.ite_none_left_eq_some] at h
    exact .inl (h.1 ▸ h.2.1)

/-- Where folders can't be created, the lowest is none afterwards. -/
theorem not_leadsToFolder_of_makeFolders {tree prepared : FileTree} {names : List String}
    {above : List (List String)} {failure : FileFailure} (h : Nested (names :: above))
    (hmake : tree.makeFolders (names :: above) = (prepared, some failure)) :
    ¬ prepared.leadsToFolder names := by
  induction above generalizing names with
  | nil =>
    rcases makeFolders_eq_failed hmake with hnames | habove
    · exact hnames
    · cases habove
  | cons upper rest ih =>
    rcases makeFolders_eq_failed hmake with hnames | habove
    · exact hnames
    · obtain ⟨hupper, hrest⟩ := List.isChain_cons_cons.mp h
      exact mt (leadsToFolder_above (hupper.trans (List.dropLast_prefix names)))
        (ih hrest habove)

/-- What is left of creating folders: the lowest was made last, or nothing was made at all, or only
those above were created and the lowest can't be made. -/
theorem makeFolders_cons (tree : FileTree) {names : List String} {above : List (List String)}
    (h : Nested (names :: above)) :
    (∃ before : FileTree, before.makeFolder names = .ok (tree.makeFolders (names :: above)).1) ∨
      (tree.makeFolders (names :: above)).1 = tree ∨
      (tree.makeFolders (names :: above)).1 = (tree.makeFolders above).1 ∧
        ∃ failure, (tree.makeFolders above).1.makeFolder names = .error failure := by
  rw [makeFolders]
  cases hmake : tree.makeFolder names with
  | ok made => exact .inl ⟨tree, hmake⟩
  | error failure =>
    cases failure with
    | notFound =>
      cases habove : tree.makeFolders above with
      | mk prepared failure? =>
        cases failure? with
        | some failure =>
          refine .inr (.inr ⟨rfl, ?_⟩)
          -- One of the folders above failed, and so the nearest of them is none.
          cases above with
          | nil => cases habove
          | cons upper rest =>
            obtain ⟨hupper, hrest⟩ := List.isChain_cons_cons.mp h
            exact makeFolder_of_not_leadsToFolder hupper
              (not_leadsToFolder_of_makeFolders hrest habove)
        | none =>
          dsimp only
          cases hagain : prepared.makeFolder names with
          | ok made => exact .inl ⟨prepared, hagain⟩
          | error failure => exact .inr (.inr ⟨rfl, failure, rfl⟩)
    | _ => exact .inr (.inl rfl)

theorem makeFolders_of_existing {tree : FileTree} {names : List String}
    (h : tree.makeFolder names = .error .existing) (above : List (List String)) :
    (tree.makeFolders (names :: above)).1 = tree := by
  rw [makeFolders, h]

theorem makeFolders_of_error {tree : FileTree} {names : List String} {failure : FileFailure}
    (h : tree.makeFolder names = .error failure) {above : List (List String)}
    (habove : (tree.makeFolders above).1 = tree) :
    (tree.makeFolders (names :: above)).1 = tree := by
  rw [makeFolders, h]
  cases failure with
  | notFound =>
    dsimp only
    split
    · next hfailed => rw [← habove, hfailed]
    · next prepared hdone =>
      have hprepared : prepared = tree := by rw [← habove, hdone]
      rw [hprepared, h]
  | _ => rfl

/-- Creating folders that were created before, or could not be, changes nothing. -/
theorem makeFolders_makeFolders (tree : FileTree) {folders : List (List String)}
    (h : Nested folders) :
    ((tree.makeFolders folders).1.makeFolders folders).1 = (tree.makeFolders folders).1 := by
  induction folders with
  | nil => rfl
  | cons names above ih =>
    rcases tree.makeFolders_cons h with ⟨before, hmade⟩ | hsame | ⟨habove, failure, hfailed⟩
    · exact makeFolders_of_existing (makeFolder_of_makeFolder hmade) above
    · rw [hsame, hsame]
    · rw [habove]
      exact makeFolders_of_error hfailed (ih h.tail)

/-- The folders that are created for a path lie in each other. -/
theorem nested_folders (path : Path) :
    Nested (path.names :: foldersAbove (path.names.reverse.dropWhile (· = "."))) := by
  apply nested_foldersAbove
  rw [← List.reverse_suffix, List.reverse_reverse]
  exact List.dropWhile_suffix _

/-- Creating a folder again changes nothing, whether it could be created or not. -/
theorem createFolders_createFolders (tree : FileTree) (path : Path) :
    ((tree.createFolders path).1.createFolders path).1 = (tree.createFolders path).1 := by
  unfold createFolders
  split
  · rfl
  · split
    · rfl
    · exact makeFolders_makeFolders tree (nested_folders path)

/-- Only folders can be listed. -/
theorem list_error_of_not_leadsToFolder {tree : FileTree} {path : Path}
    (h : ¬ tree.leadsToFolder path.names) : ∃ failure, tree.list path = .error failure := by
  unfold leadsToFolder at h
  unfold list locate
  cases refusal? path with
  | some failure => exact ⟨failure, rfl⟩
  | none =>
    dsimp only
    rw [followAll_append]
    cases hplace : tree.followAll [] path.names with
    | error failure => exact ⟨failure, rfl⟩
    | ok place =>
      rw [hplace] at h
      have hfolder : tree.item? place ≠ some .folder := fun hitem ↦ h (beq_iff_eq.mpr hitem)
      cases path.endsInSlash with
      | true =>
        -- The slash is followed as well, and only from a folder.
        refine ⟨.notFolder, ?_⟩
        simp [followAll, follow]
      | false =>
        cases hitem : tree.item? place with
        | none => exact ⟨.notFound, by simp [followAll, hitem]⟩
        | some item =>
          cases item with
          | folder => exact absurd hitem hfolder
          | file content => exact ⟨.notFolder, by simp [followAll, hitem]⟩

/-- A folder that could not be created can't be listed. -/
theorem list_error_of_createFolders {tree : FileTree} {path : Path} {failure : FileFailure}
    (h : (tree.createFolders path).2 = some failure) :
    ∃ other, (tree.createFolders path).1.list path = .error other := by
  unfold createFolders at h ⊢
  split at h
  · cases h
  · next hempty =>
    rw [if_neg hempty]
    cases hrefusal : refusal? path with
    | some refused => exact ⟨refused, by simp [list, locate, hrefusal]⟩
    | none =>
      rw [hrefusal] at h
      exact list_error_of_not_leadsToFolder
        (not_leadsToFolder_of_makeFolders (nested_folders path) (Prod.ext rfl h))

end FileTree

end AssetOverlay

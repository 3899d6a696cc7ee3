import AssetOverlay.Proofs.File.Creation

/-!
# Writing files

A path *names* a file in a folder, whether or not the file is there, and writing is possible unless
there is a folder of that name.  A file that was written is there afterwards with the content that
was written, whatever the path led to before.  Writing changes what lies at one place and leaves all
folders where they are, so the names of the path lead to the same place afterwards.

A file to which a path leads can always be replaced through it: everything above the place to which
a path leads is a folder, so a path to a file ends in the name of that file.
-/

namespace AssetOverlay.FileTree

/-! ## The names of files -/

/-- A path names a file in a folder, whether or not the file is there. -/
structure Names (tree : FileTree) (path : Path) (here : Location) (name : String) : Prop where
  refusal : refusal? path = none
  slash : ¬ path.endsInSlash
  place : tree.newPlace path.names = .ok (some (here, name))
  short : ¬ nameTooLong name

theorem Keeps.names {tree changed : FileTree} (h : tree.Keeps changed) {path : Path}
    {here : Location} {name : String} (hnames : tree.Names path here name) :
    changed.Names path here name :=
  { hnames with place := h.newPlace hnames.place }

/-- A path leads to the file that it names, if it is there. -/
theorem Names.locate {tree : FileTree} {path : Path} {here : Location} {name : String}
    (h : tree.Names path here name) (hthere : (tree.item? (here ++ [name])).isSome) :
    tree.locate path = .ok (here ++ [name]) := by
  obtain ⟨hfollow, hfolder, hlast, hdot, hdots⟩ := newPlace_eq_some h.place
  have hsplit : path.names = path.names.dropLast ++ [name] :=
    (List.dropLast_append_getLast? name hlast).symm
  have hstep : tree.follow here name = .ok (here ++ [name]) := by
    simp [follow, hfolder, hdot, hdots, h.short, hthere]
  unfold FileTree.locate
  rw [h.refusal, if_neg h.slash, List.append_nil, hsplit, followAll_append, hfollow]
  simp [followAll, hstep]

/-- A file is written where the path names one, unless there is a folder. -/
theorem write_eq_ok_iff {tree saved : FileTree} {path : Path} {content : Bytes} :
    tree.write path content = .ok saved ↔
      ∃ here name, tree.Names path here name ∧ tree.item? (here ++ [name]) ≠ some .folder ∧
        saved = tree.put (here ++ [name]) (.file content) := by
  constructor
  · intro h
    unfold write at h
    split at h
    · cases h
    · next hrefusal =>
      split at h
      · cases h
      · cases h
      · next here name hplace =>
        split_ifs at h with hfolder hlong
        obtain ⟨hslash, hitem⟩ := not_or.mp hfolder
        exact ⟨here, name, ⟨hrefusal, hslash, hplace, hlong⟩, hitem, (Except.ok.inj h).symm⟩
  · rintro ⟨here, name, hnames, hitem, rfl⟩
    unfold write
    rw [hnames.refusal]
    dsimp only
    rw [hnames.place]
    dsimp only
    rw [if_neg (not_or.mpr ⟨hnames.slash, hitem⟩), if_neg hnames.short]

/-! ## Files that were written -/

/-- Writing puts the file at one place, to which the path leads afterwards, and led before if
anything was there. -/
theorem exists_place_of_write {tree saved : FileTree} {path : Path} {content : Bytes}
    (h : tree.write path content = .ok saved) :
    ∃ place, saved.locate path = .ok place ∧
      ((tree.item? place).isSome → tree.locate path = .ok place) ∧
      ∀ other, saved.item? other =
        if other = place then some (.file content) else tree.item? other := by
  obtain ⟨here, name, hnames, hitem, rfl⟩ := write_eq_ok_iff.mp h
  have hput := tree.item?_put (List.append_ne_nil_of_right_ne_nil here (List.cons_ne_nil name []))
    (.file content)
  refine ⟨here ++ [name], ?_, hnames.locate, hput⟩
  apply ((keeps_put hitem (.file content)).names hnames).locate
  rw [hput, if_pos rfl]
  rfl

theorem item?_of_write {tree saved : FileTree} {path : Path} {content : Bytes}
    (h : tree.write path content = .ok saved) (other : Location) :
    saved.item? other =
      if saved.locate path = .ok other then some (.file content) else tree.item? other := by
  obtain ⟨place, hlocate, -, hitem⟩ := exists_place_of_write h
  rw [hitem, hlocate]
  simp only [Except.ok.injEq, eq_comm]

theorem read_eq_ok_iff {tree : FileTree} {path : Path} {content : Bytes} :
    tree.read path = .ok content ↔
      ∃ place, tree.locate path = .ok place ∧ tree.item? place = some (.file content) := by
  unfold read find
  cases tree.locate path with
  | error failure => simp
  | ok place =>
    dsimp only
    cases hitem : tree.item? place with
    | none => simp [hitem]
    | some item => cases item <;> simp [hitem]

/-- The path of a file that was written leads to it. -/
theorem find_of_write {tree saved : FileTree} {path : Path} {content : Bytes}
    (h : tree.write path content = .ok saved) : saved.find path = .ok (.file content) := by
  obtain ⟨place, hlocate, -, hitem⟩ := exists_place_of_write h
  unfold find
  rw [hlocate]
  dsimp only
  rw [hitem, if_pos rfl]

theorem read_of_write {tree saved : FileTree} {path : Path} {content : Bytes}
    (h : tree.write path content = .ok saved) : saved.read path = .ok content := by
  rw [read, find_of_write h]

theorem contains_of_write {tree saved : FileTree} {path : Path} {content : Bytes}
    (h : tree.write path content = .ok saved) : saved.contains path := by
  rw [contains, find_of_write h]

/-! ## Files that are there -/

/-- The ways to follow a name from a folder. -/
theorem follow_eq_ok {tree : FileTree} {here next : Location} {name : String}
    (h : tree.follow here name = .ok next) :
    tree.item? here = some .folder ∧
      (next = here ∨ next = here.dropLast ∨
        name ≠ "." ∧ name ≠ ".." ∧ ¬ nameTooLong name ∧ next = here ++ [name]) := by
  unfold follow at h
  split at h
  · next hfolder =>
    refine ⟨hfolder, ?_⟩
    split_ifs at h with hdot hdots hlong hthere
    · exact .inl (Except.ok.inj h).symm
    · exact .inr (.inl (Except.ok.inj h).symm)
    · exact .inr (.inr ⟨hdot, hdots, hlong, (Except.ok.inj h).symm⟩)
  · cases h

/-- Everything above a location is a folder. -/
def UnderFolders (tree : FileTree) (location : Location) : Prop :=
  ∀ upper, upper <+: location → upper ≠ location → tree.item? upper = some .folder

theorem UnderFolders.item?_dropLast {tree : FileTree} {here : Location}
    (h : tree.UnderFolders here) : tree.item? here.dropLast = some .folder := by
  by_cases htop : here = []
  · subst htop
    rfl
  · refine h _ (List.dropLast_prefix here) fun heq ↦ ?_
    have hlength := congrArg List.length heq
    rw [List.length_dropLast] at hlength
    have := List.length_pos_of_ne_nil htop
    omega

theorem UnderFolders.follow {tree : FileTree} {here next : Location} {name : String}
    (h : tree.UnderFolders here) (hfollow : tree.follow here name = .ok next) :
    tree.UnderFolders next := by
  obtain ⟨hfolder, rfl | rfl | ⟨-, -, -, rfl⟩⟩ := follow_eq_ok hfollow
  · exact h
  · intro upper habove hne
    by_cases heq : upper = here
    · exact heq ▸ hfolder
    · exact h upper (habove.trans (List.dropLast_prefix here)) heq
  · intro upper habove hne
    rcases List.prefix_concat_iff.mp habove with heq | hhere
    · exact absurd heq hne
    · by_cases heq : upper = here
      · exact heq ▸ hfolder
      · exact h upper hhere heq

theorem UnderFolders.followAll {tree : FileTree} {here place : Location} {names : List String}
    (h : tree.UnderFolders here) (hfollow : tree.followAll here names = .ok place) :
    tree.UnderFolders place := by
  induction names generalizing here with
  | nil =>
    cases hfollow
    exact h
  | cons name rest ih =>
    unfold FileTree.followAll at hfollow
    split at hfollow
    · next next hnext => exact ih (h.follow hnext) hfollow
    · cases hfollow

theorem underFolders_top (tree : FileTree) : tree.UnderFolders [] :=
  fun _ habove hne ↦ absurd (List.prefix_nil.mp habove) hne

/-- What leads to a file ends in its name: other ends lead to folders. -/
theorem newPlace_of_followAll {tree : FileTree} {names : List String} {place : Location}
    {content : Bytes} (h : tree.followAll [] names = .ok place)
    (hfile : tree.item? place = some (.file content)) :
    ∃ here name, tree.newPlace names = .ok (some (here, name)) ∧ ¬ nameTooLong name ∧
      place = here ++ [name] := by
  cases hlast : names.getLast? with
  | none =>
    rw [List.getLast?_eq_none_iff.mp hlast] at h
    cases h
    cases hfile
  | some name =>
    rw [← List.dropLast_append_getLast? name hlast, followAll_append] at h
    cases hhere : tree.followAll [] names.dropLast with
    | error failure => simp [hhere] at h
    | ok here =>
      have hfollow : tree.follow here name = .ok place := by
        rw [hhere] at h
        dsimp only at h
        unfold followAll at h
        split at h
        · next next hnext => exact hnext.trans h
        · cases h
      obtain ⟨hfolder, rfl | rfl | ⟨hdot, hdots, hlong, rfl⟩⟩ := follow_eq_ok hfollow
      · simp [hfolder] at hfile
      · have hupper := ((underFolders_top tree).followAll hhere).item?_dropLast
        simp [hupper] at hfile
      · refine ⟨here, name, ?_, hlong, rfl⟩
        simp [newPlace, hlast, hhere, hfolder, hdot, hdots]

/-- A path that leads to a file names it. -/
theorem names_of_locate {tree : FileTree} {path : Path} {place : Location} {content : Bytes}
    (h : tree.locate path = .ok place) (hfile : tree.item? place = some (.file content)) :
    ∃ here name, tree.Names path here name ∧ place = here ++ [name] := by
  unfold locate at h
  split at h
  · cases h
  · next hrefusal =>
    by_cases hslash : path.endsInSlash
    · -- The slash is followed from a folder, and leads there.
      rw [if_pos hslash, followAll_append] at h
      cases hnext : tree.followAll [] path.names with
      | error failure => simp [hnext] at h
      | ok next =>
        rw [hnext] at h
        cases hitem : tree.item? next with
        | none => simp [followAll, follow, hitem] at h
        | some item =>
          cases item with
          | file other => simp [followAll, follow, hitem] at h
          | folder =>
            simp only [followAll, follow, hitem, if_true, Except.ok.injEq] at h
            subst h
            simp [hitem] at hfile
    · rw [if_neg hslash, List.append_nil] at h
      obtain ⟨here, name, hplace, hlong, rfl⟩ := newPlace_of_followAll h hfile
      exact ⟨here, name, ⟨hrefusal, hslash, hplace, hlong⟩, rfl⟩

/-- Writing a file that is there replaces it. -/
theorem write_of_locate {tree : FileTree} {path : Path} {place : Location} {old : Bytes}
    (h : tree.locate path = .ok place) (hfile : tree.item? place = some (.file old))
    (content : Bytes) : tree.write path content = .ok (tree.put place (.file content)) := by
  obtain ⟨here, name, hnames, rfl⟩ := names_of_locate h hfile
  exact write_eq_ok_iff.mpr ⟨here, name, hnames, by simp [hfile], rfl⟩

/-- The same items lie at the same places. -/
def Alike (tree other : FileTree) : Prop :=
  ∀ place, tree.item? place = other.item? place

/-- Writing changes nothing exactly where the file was there with the same content. -/
theorem alike_of_write_iff {tree saved : FileTree} {path : Path} {content : Bytes}
    (h : tree.write path content = .ok saved) :
    saved.Alike tree ↔ tree.read path = .ok content := by
  constructor
  · intro halike
    obtain ⟨place, -, hbefore, hitem⟩ := exists_place_of_write h
    have hsame : tree.item? place = some (.file content) := by
      rw [← halike place, hitem, if_pos rfl]
    exact read_eq_ok_iff.mpr ⟨place, hbefore (by rw [hsame]; rfl), hsame⟩
  · intro hread other
    obtain ⟨place, hlocate, hfile⟩ := read_eq_ok_iff.mp hread
    rw [write_of_locate hlocate hfile] at h
    rw [← Except.ok.inj h, item?_put tree (tree.ne_top_of_ne_folder (by simp [hfile]))]
    split
    · next heq => rw [heq, hfile]
    · rfl

/-- After writing, a file that was there holds what was written if the path led to it, and otherwise
what it held before. -/
theorem item?_of_write_of_file {tree saved : FileTree} {path : Path} {content : Bytes}
    (h : tree.write path content = .ok saved) {place : Location} {old : Bytes}
    (hfile : tree.item? place = some (.file old)) :
    saved.item? place = some (.file (if tree.locate path = .ok place then content else old)) := by
  by_cases hplace : tree.locate path = .ok place
  · rw [write_of_locate hplace hfile] at h
    rw [← Except.ok.inj h, item?_put tree (tree.ne_top_of_ne_folder (by simp [hfile])),
      if_pos rfl, if_pos hplace]
  · obtain ⟨target, -, hbefore, hitem⟩ := exists_place_of_write h
    have hne : place ≠ target := by
      rintro rfl
      exact hplace (hbefore (by rw [hfile]; rfl))
    rw [hitem, if_neg hne, if_neg hplace, hfile]

end AssetOverlay.FileTree

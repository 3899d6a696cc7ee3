import AssetOverlay.Proofs.Package.Items
import AssetOverlay.Proofs.Script.Preparation
import AssetOverlay.Proofs.Session.Invariant

/-!
# Where scripts come from

Only the entries of packages bring scripts into force, and each of these was prepared when its entry
was loaded.  What holds of every prepared script therefore holds of every script in force, whatever
has happened to the overlay.
-/

namespace AssetOverlay

/-! ## Loading -/

/-- A script among the assets was prepared under the key of its asset. -/
def Asset.Prepared (asset : Asset) : Prop :=
  ∀ script, asset.script? = some script →
    ∃ buffer hooks, (Script.prepare asset.key buffer hooks).outcome = .ok script

/-- An asset that an entry yields fills the slot of its kind and name, and a script among these was
prepared under this name with the hooks of the entry. -/
theorem Entry.load_eq_ok {entry : Entry} {files : FileTree} {folder : Path} {asset : Asset}
    (h : (entry.load files folder).outcome = .ok asset) :
    asset.slot = (entry.kind, Key.ofName entry.name) ∧
      ∃ bytes, files.read (entry.resolve folder) = .ok bytes ∧
        ∀ script, asset.script? = some script →
          (Script.prepare (Key.ofName entry.name) bytes (entry.hooks.map Key.ofName)).outcome =
            .ok script := by
  obtain @⟨bytes, content, hbytes, hcontent⟩ := load_eq_ok_iff.mp h
  rw [Asset.slot]
  cases hcontent with
  | script hkind hprepared =>
    refine ⟨by rw [hkind]; rfl, bytes, hbytes, ?_⟩
    rintro _ ⟨⟩
    exact hprepared
  | rawFile hkind => exact ⟨by rw [hkind]; rfl, bytes, hbytes, nofun⟩
  | luaFile hkind => exact ⟨by rw [hkind]; rfl, bytes, hbytes, nofun⟩
  | stringTable hkind hread => exact ⟨by rw [hkind]; rfl, bytes, hbytes, nofun⟩

theorem Entry.load_prepared {entry : Entry} {files : FileTree} {folder : Path} {asset : Asset}
    (h : (entry.load files folder).outcome = .ok asset) : asset.Prepared := by
  obtain ⟨hslot, bytes, -, hprepared⟩ := load_eq_ok h
  have hkey : asset.key = Key.ofName entry.name := congrArg Prod.snd hslot
  intro script hscript
  rw [hkey]
  exact ⟨bytes, entry.hooks.map Key.ofName, hprepared script hscript⟩

theorem loadItem_prepared {files : FileTree} {folder : Path} {item : Json.Tree} {asset : Asset}
    (h : (loadItem files folder item).outcome = .ok asset) : asset.Prepared := by
  unfold loadItem at h
  split at h
  · cases h
  · next entry hentry =>
    cases hload : (entry.load files folder).outcome with
    | error fault => simp [Attempt.during, hload, Except.mapError] at h
    | ok loaded =>
      simp only [Attempt.during, hload, Except.mapError, Except.ok.injEq] at h
      exact h ▸ Entry.load_prepared hload

theorem registeredAsset?_prepared {files : FileTree} {registration : Path × Key} {asset : Asset}
    (h : registeredAsset? files registration = some asset) : asset.Prepared := by
  obtain ⟨bytes, -, rfl⟩ := Option.map_eq_some_iff.mp h
  intro script hscript
  cases hscript

theorem PackageSurvey.assets_prepared {files : FileTree} {folder : Path} {package : PackageSurvey}
    (h : PackageSurvey.ofFolder? files folder = some package) :
    ∀ asset ∈ package.assets, asset.Prepared := by
  unfold ofFolder? at h
  dsimp only at h
  split at h
  · split at h
    · cases h
      intro asset hasset
      cases hasset
    · next manifest hmanifest =>
      cases h
      intro asset hasset
      obtain ⟨attempt, hattempt, hok⟩ := List.mem_filterMap.mp hasset
      obtain ⟨item, -, rfl⟩ := List.mem_map.mp hattempt
      exact loadItem_prepared (Attempt.asset?_eq_some_iff.mp hok)
  · cases h

theorem Overlay.found_prepared (files : FileTree) (root : Path)
    (registrations : List (Path × Key)) :
    ∀ asset ∈ found files root registrations, asset.Prepared := by
  intro asset hasset
  rcases List.mem_append.mp hasset with hsurvey | hregistered
  · simp only [Survey.ofRoot, Survey.assets, Survey.packagesOf] at hsurvey
    cases hlist : ((files.createFolders root).1).list root with
    | error failure => simp [hlist] at hsurvey
    | ok names =>
      simp only [hlist, List.mem_flatMap] at hsurvey
      obtain ⟨package, hpackage, hmem⟩ := hsurvey
      obtain ⟨folder, -, hfolder⟩ := List.mem_filterMap.mp hpackage
      exact PackageSurvey.assets_prepared hfolder asset hmem
  · obtain ⟨registration, -, hregistration⟩ := List.mem_filterMap.mp hregistered
    exact registeredAsset?_prepared hregistration

/-! ## Assets in force -/

namespace Overlay

/-- Every asset in force has a property. -/
def Holds (overlay : Overlay) (property : LoadedAsset → Prop) : Prop :=
  ∀ slot loaded, overlay.catalogue.get? slot = some loaded → property loaded

theorem holds_of_catalogue_eq_empty {overlay : Overlay} {property : LoadedAsset → Prop}
    (h : overlay.catalogue = .empty) : overlay.Holds property := by
  intro slot loaded hloaded
  simp [h] at hloaded

theorem Holds.put {overlay : Overlay} {property : LoadedAsset → Prop} (h : overlay.Holds property)
    {asset : Asset} (hasset : property ⟨overlay.nextSerial, asset⟩) :
    (overlay.put asset).1.Holds property := by
  intro slot loaded hloaded
  rw [get?_put] at hloaded
  split at hloaded
  · exact Option.some.inj hloaded ▸ hasset
  · exact h slot loaded hloaded

/-- Every script in force was prepared under the key of its asset. -/
def ScriptsPrepared (overlay : Overlay) : Prop :=
  overlay.Holds fun loaded ↦ loaded.asset.Prepared

theorem ScriptsPrepared.putAll {overlay : Overlay} (h : overlay.ScriptsPrepared)
    (assets : List Asset) (hassets : ∀ asset ∈ assets, asset.Prepared) :
    (overlay.putAll assets).ScriptsPrepared := by
  induction assets generalizing overlay with
  | nil => exact h
  | cons asset rest ih =>
    obtain ⟨hfirst, hrest⟩ := List.forall_mem_cons.mp hassets
    have hput : (overlay.put asset).1.ScriptsPrepared := Holds.put h hfirst
    exact ih hput hrest

theorem scriptsPrepared_reload (overlay : Overlay) (files : FileTree) (root : Path) :
    (overlay.reload files root).overlay.ScriptsPrepared := by
  have hcleared : overlay.cleared.overlay.ScriptsPrepared := holds_of_catalogue_eq_empty rfl
  rw [overlay_reload]
  exact hcleared.putAll _ (found_prepared files root _)

theorem ScriptsPrepared.register {overlay next : Overlay} (h : overlay.ScriptsPrepared)
    {files : FileTree} {path : Path} {key : Key} {events : List Event}
    (hnext : overlay.register files path key = .ok (next, events)) : next.ScriptsPrepared := by
  obtain ⟨asset, hasset, rfl⟩ := register_eq_ok hnext
  exact Holds.put h (registeredAsset?_prepared hasset)

end Overlay

namespace Session

theorem scriptsPrepared_perform (session : Session) (operation : Operation)
    (h : session.overlay.ScriptsPrepared) :
    (session.perform operation).overlay.ScriptsPrepared :=
  session.perform_keeps Overlay.scriptsPrepared_reload
    (fun _ _ _ _ _ _ hbefore hnext ↦ hbefore.register hnext) operation h

end Session

end AssetOverlay

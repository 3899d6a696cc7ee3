import AssetOverlay.Proofs.File.Creation
import AssetOverlay.Proofs.Reload.Counts
import AssetOverlay.Proofs.Reload.Reference

/-!
# Reloading the same files again

Registering a file puts it at the end of the loads, and that is where the next reload finds it.  So
a history in which the packages of a root and the registered files were all loaded from the present
files is *settled*: another reload of that root does not change it.  A reload settles a history, and
registering files and looking up assets keep it settled.
-/

namespace AssetOverlay

namespace History

/-- All loads come from the present files. -/
def Settled (history : History) (root : Path) : Prop :=
  history.loads = rootLoads history.files root ++
    history.registered.filterMap (registeredAsset? history.files)

theorem settled_reload (history : History) (root : Path) : (history.reload root).Settled root := rfl

theorem files_access (history : History) (access : Access) :
    (history.extend (.access access)).files = history.files := by
  cases access with
  | lookUp kind key => rfl
  | register path key =>
    unfold extend register
    dsimp only
    split <;> rfl

theorem Settled.access {history : History} {root : Path} (h : history.Settled root)
    (access : Access) : (history.extend (.access access)).Settled root := by
  cases access with
  | lookUp kind key => exact h
  | register path key =>
    unfold extend register
    dsimp only
    split
    · exact h
    · next asset hasset =>
      unfold Settled at h ⊢
      rw [List.filterMap_append, ← List.append_assoc, ← h]
      simp [hasset]

theorem files_accessAll (history : History) (accesses : List Access) :
    (history.extendAll (accesses.map .access)).files = history.files := by
  induction accesses generalizing history with
  | nil => rfl
  | cons access rest ih => exact (ih _).trans (history.files_access access)

theorem Settled.accessAll {history : History} {root : Path} (h : history.Settled root)
    (accesses : List Access) : (history.extendAll (accesses.map .access)).Settled root := by
  induction accesses generalizing history with
  | nil => exact h
  | cons access rest ih => exact ih (h.access access)

/-- Looking up assets leaves a history as it is. -/
theorem extendAll_lookUps (history : History) {accesses : List Access}
    (h : ∀ path key, .register path key ∉ accesses) :
    history.extendAll (accesses.map .access) = history := by
  induction accesses with
  | nil => rfl
  | cons access rest ih =>
    cases access with
    | register path key => exact absurd List.mem_cons_self (h path key)
    | lookUp kind key => exact ih fun path key hmem ↦ h path key (List.mem_cons_of_mem _ hmem)

/-- Once the root was created, a reload does not change a settled history. -/
theorem Settled.reload_eq {history : History} {root : Path} (h : history.Settled root)
    (hfiles : Overlay.prepared history.files root = history.files) :
    history.reload root = history := by
  unfold reload
  dsimp only
  rw [hfiles, ← h]

end History

theorem Overlay.prepared_prepared (files : FileTree) (root : Path) :
    prepared (prepared files root) root = prepared files root :=
  files.createFolders_createFolders root

namespace Session

/-- What a reload, accesses and a second reload of the same files lead to, in terms of one history
that has the registrations of the overlay and nothing else of it. -/
theorem follows_second_reload (overlay : Overlay) (files : FileTree) (root : Path)
    (between : List Access) :
    let first := overlay.reload files root
    let held := (ofReload first).performAll (between.map .access)
    let second := held.overlay.reload first.files root
    let history := (History.reload ⟨files, overlay.registrations, []⟩ root).extendAll
      (between.map .access)
    held.Follows history ∧ (ofReload second).Follows history ∧
      second.report = Overlay.counts first.files root history.registered := by
  intro first held second history
  have hheld : held.Follows history :=
    (follows_reload overlay files root []).performAll (between.map .access)
  have hfiles : history.files = first.files := History.files_accessAll _ between
  have hprepared : Overlay.prepared first.files root = first.files :=
    Overlay.prepared_prepared files root
  have hsettled : history.Settled root := (History.settled_reload _ root).accessAll between
  have hsecond := hheld.reload root
  rw [hsettled.reload_eq (by rw [hfiles, hprepared]), hheld.files_eq, hfiles] at hsecond
  refine ⟨hheld, hsecond, ?_⟩
  calc
    second.report =
        Overlay.counts (Overlay.prepared first.files root) root held.overlay.registrations :=
      held.overlay.report_reload first.files root
    _ = Overlay.counts first.files root history.registered := by
      rw [hprepared, hheld.registrations_eq]

end Session

/-- A second reload of the same files, after any registrations and look-ups, puts the same assets in
force in the same order, and without registrations it counts the same.  Nothing that was in force
before the first reload has an influence on the two. -/
theorem second_reload_stable (overlay : Overlay) (files : FileTree) (root : Path)
    (between : List Access) :
    let first := overlay.reload files root
    let held := (Session.ofReload first).performAll (between.map .access)
    let second := held.overlay.reload first.files root
    held.files = first.files ∧ second.files = first.files ∧
      second.overlay.catalogue.Alike held.overlay.catalogue ∧
      ((∀ path key, .register path key ∉ between) → second.report = first.report) ∧
      ∀ catalogue nextSerial,
        let otherFirst := Overlay.reload ⟨catalogue, overlay.registrations, nextSerial⟩ files root
        let otherHeld := (Session.ofReload otherFirst).performAll (between.map .access)
        let otherSecond := otherHeld.overlay.reload otherFirst.files root
        otherFirst.files = first.files ∧ otherFirst.report = first.report ∧
          otherFirst.overlay.catalogue.Alike first.overlay.catalogue ∧
          otherSecond.report = second.report ∧
          otherSecond.overlay.catalogue.Alike second.overlay.catalogue := by
  intro first held second
  obtain ⟨hheld, hsecond, hreport⟩ := Session.follows_second_reload overlay files root between
  have hfirst : first.report = Overlay.counts first.files root overlay.registrations :=
    overlay.report_reload files root
  refine ⟨?_, Overlay.prepared_prepared files root, hsecond.reflects.alike hheld.reflects, ?_, ?_⟩
  · exact hheld.files_eq.trans (History.files_accessAll _ between)
  · intro hlookUps
    rw [History.extendAll_lookUps _ hlookUps] at hreport
    exact hreport.trans hfirst.symm
  · intro catalogue nextSerial otherFirst otherHeld otherSecond
    let other : Overlay := ⟨catalogue, overlay.registrations, nextSerial⟩
    obtain ⟨-, hotherSecond, hotherReport⟩ :=
      Session.follows_second_reload other files root between
    have hotherFirst : otherFirst.report =
        Overlay.counts first.files root overlay.registrations := other.report_reload files root
    exact ⟨rfl, hotherFirst.trans hfirst.symm,
      (other.reflects_reload files root).alike (overlay.reflects_reload files root),
      hotherReport.trans hreport.symm, hotherSecond.reflects.alike hsecond.reflects⟩

end AssetOverlay

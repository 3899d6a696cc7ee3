import AssetOverlay.Proofs.Catalogue.Scripts

/-!
# How long a script stays in force

A script that is in force stays in force, as the same object, until packages are reloaded: a
registered file is no script, so it never takes the place of one.  A reload gives new serial numbers
to everything that it loads, so no object from before it is in force afterwards.
-/

namespace AssetOverlay

namespace Overlay

/-- Everything in force was loaded since the given serial number was the next one. -/
structure LoadedSince (overlay : Overlay) (serial : Nat) : Prop where
  le_nextSerial : serial ≤ overlay.nextSerial
  le_serial : ∀ slot loaded, overlay.catalogue.get? slot = some loaded → serial ≤ loaded.serial

theorem LoadedSince.put {overlay : Overlay} {serial : Nat} (h : overlay.LoadedSince serial)
    (asset : Asset) : (overlay.put asset).1.LoadedSince serial where
  le_nextSerial := by
    rw [nextSerial_put]
    exact Nat.le_succ_of_le h.le_nextSerial
  le_serial := Holds.put h.le_serial h.le_nextSerial

theorem LoadedSince.putAll {overlay : Overlay} {serial : Nat} (h : overlay.LoadedSince serial)
    (assets : List Asset) : (overlay.putAll assets).LoadedSince serial := by
  induction assets generalizing overlay with
  | nil => exact h
  | cons asset rest ih => exact ih (h.put asset)

/-- Whatever was in force before, everything in force after a reload is new. -/
theorem loadedSince_reload {overlay : Overlay} {serial : Nat} (h : serial ≤ overlay.nextSerial)
    (files : FileTree) (root : Path) :
    (overlay.reload files root).overlay.LoadedSince serial := by
  have hcleared : overlay.cleared.overlay.LoadedSince serial := by
    refine ⟨h, ?_⟩
    intro slot loaded hloaded
    have hnone : overlay.cleared.overlay.catalogue.get? slot = none := Catalogue.get?_empty slot
    rw [hnone] at hloaded
    cases hloaded
  rw [overlay_reload]
  exact hcleared.putAll _

theorem LoadedSince.register {overlay next : Overlay} {serial : Nat}
    (h : overlay.LoadedSince serial) {files : FileTree} {path : Path} {key : Key}
    {events : List Event} (hnext : overlay.register files path key = .ok (next, events)) :
    next.LoadedSince serial := by
  obtain ⟨asset, -, rfl⟩ := register_eq_ok hnext
  have hput := h.put asset
  exact ⟨hput.le_nextSerial, hput.le_serial⟩

/-- A file that is registered takes the place of no script. -/
theorem get?_script_register {overlay next : Overlay} {files : FileTree} {path : Path} {key : Key}
    {events : List Event} (hnext : overlay.register files path key = .ok (next, events))
    (name : Key) :
    next.catalogue.get? (.script, name) = overlay.catalogue.get? (.script, name) := by
  obtain ⟨asset, hasset, rfl⟩ := register_eq_ok hnext
  obtain ⟨bytes, -, rfl⟩ := Option.map_eq_some_iff.mp hasset
  have hslot : Asset.slot ⟨key, path, .rawFile bytes⟩ ≠ (.script, name) := by
    intro heq
    cases congrArg Prod.fst heq
  calc
    _ = (overlay.put ⟨key, path, .rawFile bytes⟩).1.catalogue.get? (.script, name) := rfl
    _ = overlay.catalogue.get? (.script, name) := by rw [get?_put, if_neg hslot]

/-- A script whose asset is in force is one of the scripts in force. -/
theorem Sound.mem_scripts {overlay : Overlay} (h : overlay.Sound) {name : Key}
    {asset : LoadedAsset} {loaded : LoadedScript}
    (hasset : overlay.catalogue.get? (.script, name) = some asset)
    (hloaded : asset.script? = some loaded) : loaded ∈ overlay.catalogue.scripts := by
  have hsome : (overlay.catalogue.get? (.script, name)).isSome := by
    rw [hasset]
    rfl
  have hkey : (AssetKind.script, name) ∈ overlay.catalogue.keys :=
    (h.consistent.isSome_get?_iff _).mp hsome
  have hmem : asset ∈ overlay.catalogue.scriptAssets :=
    List.mem_filterMap.mpr ⟨_, List.mem_filter.mpr ⟨hkey, decide_eq_true rfl⟩, hasset⟩
  exact List.mem_filterMap.mpr ⟨asset, hmem, hloaded⟩

/-- The buffer of an object from before everything in force belongs to no script. -/
theorem LoadedSince.owner?_eq_none {overlay : Overlay} {serial : Nat}
    (h : overlay.LoadedSince serial) {buffer : Buffer} {origin : Nat}
    (hbuffer : buffer.origin = some origin) (hold : origin < serial) :
    owner? overlay.catalogue.scripts buffer = none := by
  apply owner?_eq_none_of_origin
  intro loaded hloaded hsame
  obtain ⟨slot, asset, hasset, hscript⟩ := Catalogue.exists_of_mem_scripts hloaded
  have hnew : serial ≤ loaded.serial := by
    rw [← (LoadedAsset.script?_eq_some_iff.mp hscript).2]
    exact h.le_serial slot asset hasset
  rw [hbuffer] at hsame
  exact absurd (Option.some.inj hsame ▸ hnew) (Nat.not_le.mpr hold)

end Overlay

namespace Session

theorem le_nextSerial_perform {session : Session} {serial : Nat}
    (h : serial ≤ session.overlay.nextSerial) (operation : Operation) :
    serial ≤ (session.perform operation).overlay.nextSerial := by
  rcases session.overlay_perform operation with
    ⟨-, hsame⟩ | ⟨-, root, hreload⟩ | ⟨-, path, key, events, hregister⟩
  · rw [hsame]
    exact h
  · rw [hreload]
    exact (Overlay.loadedSince_reload h session.files root).le_nextSerial
  · obtain ⟨asset, -, hnext⟩ := Overlay.register_eq_ok hregister
    rw [hnext]
    exact Nat.le_succ_of_le h

/-- After an operation that reloads everything in force is new, and then it stays so. -/
theorem loadedSince_perform {session : Session} {serial : Nat}
    (h : serial ≤ session.overlay.nextSerial) {operation : Operation}
    (hnew : operation.reloads = true ∨ session.overlay.LoadedSince serial) :
    (session.perform operation).overlay.LoadedSince serial := by
  rcases session.overlay_perform operation with
    ⟨hkept, hsame⟩ | ⟨-, root, hreload⟩ | ⟨hkept, path, key, events, hregister⟩
  · rw [hsame]
    exact hnew.resolve_left (by rw [hkept]; decide)
  · rw [hreload]
    exact Overlay.loadedSince_reload h session.files root
  · exact (hnew.resolve_left (by rw [hkept]; decide)).register hregister

/-- An operation that does not reload leaves every script in its place. -/
theorem get?_script_perform (session : Session) {operation : Operation}
    (h : operation.reloads = false) (name : Key) :
    (session.perform operation).overlay.catalogue.get? (.script, name) =
      session.overlay.catalogue.get? (.script, name) := by
  rcases session.overlay_perform operation with
    ⟨-, hsame⟩ | ⟨hreloads, -⟩ | ⟨-, path, key, events, hregister⟩
  · rw [hsame]
  · rw [h] at hreloads
    cases hreloads
  · exact Overlay.get?_script_register hregister name

theorem loadedSince_performAll {session : Session} {serial : Nat} {operations : List Operation}
    (h : serial ≤ session.overlay.nextSerial)
    (hnew : (∃ operation ∈ operations, operation.reloads = true) ∨
      session.overlay.LoadedSince serial) :
    (session.performAll operations).overlay.LoadedSince serial := by
  induction operations generalizing session with
  | nil =>
    apply hnew.resolve_left
    rintro ⟨operation, hmem, -⟩
    cases hmem
  | cons operation rest ih =>
    apply ih (le_nextSerial_perform h operation)
    rcases hnew with ⟨other, hother, hreloads⟩ | hnew
    · rcases List.mem_cons.mp hother with rfl | hrest
      · exact .inr (loadedSince_perform h (.inl hreloads))
      · exact .inl ⟨other, hrest, hreloads⟩
    · exact .inr (loadedSince_perform h (.inr hnew))

theorem get?_script_performAll (session : Session) {operations : List Operation}
    (h : ∀ operation ∈ operations, operation.reloads = false) (name : Key) :
    (session.performAll operations).overlay.catalogue.get? (.script, name) =
      session.overlay.catalogue.get? (.script, name) := by
  induction operations generalizing session with
  | nil => rfl
  | cons operation rest ih =>
    obtain ⟨hfirst, hrest⟩ := List.forall_mem_cons.mp h
    calc
      _ = (session.perform operation).overlay.catalogue.get? (.script, name) := ih _ hrest
      _ = session.overlay.catalogue.get? (.script, name) := session.get?_script_perform hfirst name

end Session

end AssetOverlay

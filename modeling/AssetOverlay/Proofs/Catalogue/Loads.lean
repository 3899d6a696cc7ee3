import AssetOverlay.Proofs.Reload.Assets
import Mathlib.Data.List.Basic

/-!
# Catalogues and lists of loads

A catalogue *reflects* a list of loaded assets if its keys are the slots of the list in the order of
their first occurrence and it holds the last asset of each slot.  Inserting an asset into a
catalogue and adding it to the end of the list keeps this, so putting assets in force is the same as
appending them.  Whatever reflects a list is determined by it, except for the serial numbers.
-/

namespace AssetOverlay

namespace Catalogue

/-- The last of some assets that belongs into a slot. -/
def lastIn (slot : Slot) (loads : List Asset) : Option Asset :=
  (loads.filter fun asset ↦ asset.slot = slot).getLast?

theorem isSome_lastIn_iff (slot : Slot) (loads : List Asset) :
    (lastIn slot loads).isSome ↔ slot ∈ loads.map Asset.slot := by
  unfold lastIn
  rw [List.getLast?_isSome, ← List.length_pos_iff, List.length_filter_pos_iff]
  simp

theorem lastIn_append_singleton (slot : Slot) (loads : List Asset) (asset : Asset) :
    lastIn slot (loads ++ [asset]) =
      if asset.slot = slot then some asset else lastIn slot loads := by
  unfold lastIn
  by_cases h : asset.slot = slot <;> simp [h]

/-- The slots are those of some assets in the order of their first occurrence, and every slot holds
the last asset that belongs into it. -/
structure Reflects (catalogue : Catalogue) (loads : List Asset) : Prop where
  keys_eq : catalogue.keys = (loads.map Asset.slot).eraseDups
  asset_eq : ∀ slot, (catalogue.get? slot).map LoadedAsset.asset = lastIn slot loads

theorem reflects_empty : empty.Reflects [] where
  keys_eq := rfl
  asset_eq slot := by simp [lastIn]

theorem Reflects.isSome_get?_iff {catalogue : Catalogue} {loads : List Asset}
    (h : catalogue.Reflects loads) (slot : Slot) :
    (catalogue.get? slot).isSome ↔ slot ∈ loads.map Asset.slot := by
  rw [← isSome_lastIn_iff, ← h.asset_eq, Option.isSome_map]

theorem Reflects.insert {catalogue : Catalogue} {loads : List Asset}
    (h : catalogue.Reflects loads) (loaded : LoadedAsset) :
    (catalogue.insert loaded).Reflects (loads ++ [loaded.asset]) where
  keys_eq := by
    have hold := h.isSome_get?_iff loaded.asset.slot
    rw [keys_insert, List.map_append, List.eraseDups_append, h.keys_eq, List.map_singleton]
    generalize loads.map Asset.slot = slots at hold
    -- The new slot is left over only if none of the earlier ones equals it.
    by_cases hmem : loaded.asset.slot ∈ slots
    · simp [hold, List.removeAll, hmem]
    · simp [hold, List.removeAll, hmem, List.eraseDups_cons]
  asset_eq slot := by
    rw [get?_insert, lastIn_append_singleton]
    split
    · rfl
    · exact h.asset_eq slot

/-- Two catalogues hold the same assets in the same order, possibly as different objects. -/
structure Alike (first second : Catalogue) : Prop where
  keys_eq : first.keys = second.keys
  asset_eq : ∀ slot,
    (first.get? slot).map LoadedAsset.asset = (second.get? slot).map LoadedAsset.asset

/-- What a catalogue reflects determines it. -/
theorem Reflects.alike {first second : Catalogue} {loads : List Asset}
    (hfirst : first.Reflects loads) (hsecond : second.Reflects loads) : first.Alike second where
  keys_eq := hfirst.keys_eq.trans hsecond.keys_eq.symm
  asset_eq slot := (hfirst.asset_eq slot).trans (hsecond.asset_eq slot).symm

end Catalogue

namespace Overlay

theorem reflects_put {overlay : Overlay} {loads : List Asset}
    (h : overlay.catalogue.Reflects loads) (asset : Asset) :
    (overlay.put asset).1.catalogue.Reflects (loads ++ [asset]) :=
  h.insert ⟨overlay.nextSerial, asset⟩

theorem reflects_putAll {overlay : Overlay} {loads : List Asset}
    (h : overlay.catalogue.Reflects loads) (assets : List Asset) :
    (overlay.putAll assets).catalogue.Reflects (loads ++ assets) := by
  induction assets generalizing overlay loads with
  | nil => simpa using h
  | cons asset rest ih =>
    have hrest := ih (reflects_put h asset)
    rwa [List.append_assoc] at hrest

/-- After a reload the catalogue reflects what was found. -/
theorem reflects_reload (overlay : Overlay) (files : FileTree) (root : Path) :
    (overlay.reload files root).overlay.catalogue.Reflects
      (found files root overlay.registrations) := by
  have hcleared : overlay.cleared.overlay.catalogue.Reflects [] := Catalogue.reflects_empty
  rw [overlay_reload]
  exact reflects_putAll hcleared _

/-- A registration that succeeds adds the file at the end. -/
theorem reflects_register {overlay next : Overlay} {loads : List Asset}
    (h : overlay.catalogue.Reflects loads) {files : FileTree} {path : Path} {key : Key}
    {events : List Event} (hnext : overlay.register files path key = .ok (next, events)) :
    next.registrations = overlay.registrations ++ [(path, key)] ∧
      ∃ asset, registeredAsset? files (path, key) = some asset ∧
        next.catalogue.Reflects (loads ++ [asset]) := by
  obtain ⟨asset, hasset, rfl⟩ := register_eq_ok hnext
  exact ⟨rfl, asset, hasset, reflects_put h asset⟩

end Overlay

end AssetOverlay

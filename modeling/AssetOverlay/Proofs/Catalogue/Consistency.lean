import AssetOverlay.Proofs.Catalogue.Origin
import Mathlib.Data.List.Nodup

/-!
# Consistency of the catalogue

The table and the order of a catalogue say the same thing twice, and three ways lead into both: the
entries of packages, registered files that are loaded again, and files that are just registered.
All three go through a single insertion, so consistency is proved for that one, then for lists of
assets, for operations and finally for every list of actions.

An overlay is *sound* if its catalogue is consistent, its scripts carry the keys of their assets as
names, and no serial number was given to two of its objects.
-/

namespace AssetOverlay

theorem Asset.isSome_script?_iff (asset : Asset) :
    asset.script?.isSome ↔ asset.kind = .script := by
  unfold script? kind
  cases asset.content <;> simp

namespace Catalogue

/-- The table holds an asset exactly where the order has a slot, and holds it in its own slot. -/
structure Consistent (catalogue : Catalogue) : Prop where
  nodup_keys : catalogue.keys.Nodup
  length_eq : catalogue.length = catalogue.keys.length
  isSome_get?_iff : ∀ slot, (catalogue.get? slot).isSome ↔ slot ∈ catalogue.keys
  slot_eq : ∀ slot loaded, catalogue.get? slot = some loaded → loaded.asset.slot = slot

theorem consistent_empty : empty.Consistent where
  nodup_keys := List.nodup_nil
  length_eq := Std.HashMap.size_empty
  isSome_get?_iff slot := by simp [keys, empty, get?]
  slot_eq slot loaded h := by simp at h

theorem Consistent.insert {catalogue : Catalogue} (h : catalogue.Consistent)
    (loaded : LoadedAsset) : (catalogue.insert loaded).Consistent where
  nodup_keys := by
    rw [keys_insert]
    split
    · exact h.nodup_keys
    · next hnew =>
      rw [h.isSome_get?_iff] at hnew
      refine List.nodup_append.mpr ⟨h.nodup_keys, List.nodup_singleton _, ?_⟩
      intro slot hslot other hother heq
      rw [List.mem_singleton.mp hother] at heq
      exact hnew (heq ▸ hslot)
  length_eq := by
    rw [length_insert, keys_insert, h.length_eq]
    split
    · rfl
    · simp
  isSome_get?_iff slot := by
    have hslot := h.isSome_get?_iff slot
    have hloaded := h.isSome_get?_iff loaded.asset.slot
    rw [get?_insert, keys_insert]
    by_cases heq : loaded.asset.slot = slot
    · subst heq
      by_cases hold : (catalogue.get? loaded.asset.slot).isSome <;> simp [hold, ← hloaded]
    · rw [if_neg heq, hslot]
      split <;> simp [Ne.symm heq]
  slot_eq slot found hfound := by
    rw [get?_insert] at hfound
    split at hfound
    · next heq => exact Option.some.inj hfound ▸ heq
    · exact h.slot_eq slot found hfound

/-- A consistent catalogue lists the asset of each slot that is one of a script. -/
theorem Consistent.map_some_scriptAssets {catalogue : Catalogue} (h : catalogue.Consistent) :
    catalogue.scriptAssets.map some =
      (catalogue.keys.filter fun slot ↦ slot.1 = .script).map catalogue.get? := by
  unfold scriptAssets
  rw [List.map_filterMap_some_eq_filter_map_isSome, List.filter_eq_self]
  intro found hfound
  obtain ⟨slot, hslot, rfl⟩ := List.mem_map.mp hfound
  exact (h.isSome_get?_iff slot).mpr (List.mem_filter.mp hslot).1

theorem Consistent.kind_of_mem_scriptAssets {catalogue : Catalogue} (h : catalogue.Consistent)
    {loaded : LoadedAsset} (hloaded : loaded ∈ catalogue.scriptAssets) :
    loaded.asset.kind = .script := by
  obtain ⟨slot, hslot, hget⟩ := List.mem_filterMap.mp hloaded
  have hkind := of_decide_eq_true (List.mem_filter.mp hslot).2
  rw [← hkind, ← h.slot_eq slot loaded hget]
  rfl

/-- None of the assets listed as scripts lacks a script. -/
theorem Consistent.map_some_scripts {catalogue : Catalogue} (h : catalogue.Consistent) :
    catalogue.scripts.map some = catalogue.scriptAssets.map LoadedAsset.script? := by
  unfold scripts
  rw [List.map_filterMap_some_eq_filter_map_isSome, List.filter_eq_self]
  intro script hscript
  obtain ⟨loaded, hloaded, rfl⟩ := List.mem_map.mp hscript
  rw [LoadedAsset.script?, Option.isSome_map, Asset.isSome_script?_iff]
  exact h.kind_of_mem_scriptAssets hloaded

end Catalogue

/-! ## Names of scripts -/

/-- A script among the assets carries the key of its asset as its name. -/
def Asset.Named (asset : Asset) : Prop :=
  ∀ script, asset.script? = some script → script.name = asset.key

theorem Asset.Prepared.named {asset : Asset} (h : asset.Prepared) : asset.Named := by
  intro script hscript
  obtain ⟨buffer, hooks, hprepare⟩ := h script hscript
  exact Script.name_prepare hprepare

/-! ## Sound overlays -/

namespace Overlay

/-- The catalogue is consistent, its scripts are named after their assets, and its objects have
serial numbers of their own that were given before. -/
structure Sound (overlay : Overlay) : Prop where
  consistent : overlay.catalogue.Consistent
  named : ∀ slot loaded, overlay.catalogue.get? slot = some loaded → loaded.asset.Named
  serial_lt : ∀ slot loaded,
    overlay.catalogue.get? slot = some loaded → loaded.serial < overlay.nextSerial
  serial_inj : ∀ slot loaded other loadedOther, overlay.catalogue.get? slot = some loaded →
    overlay.catalogue.get? other = some loadedOther → loaded.serial = loadedOther.serial →
      slot = other

theorem sound_of_catalogue_eq_empty {overlay : Overlay} (h : overlay.catalogue = .empty) :
    overlay.Sound where
  consistent := h ▸ Catalogue.consistent_empty
  named slot loaded hloaded := by simp [h] at hloaded
  serial_lt slot loaded hloaded := by simp [h] at hloaded
  serial_inj slot loaded other loadedOther hloaded := by simp [h] at hloaded

theorem Sound.put {overlay : Overlay} (h : overlay.Sound) {asset : Asset}
    (hasset : asset.Named) : (overlay.put asset).1.Sound where
  consistent := h.consistent.insert _
  named := Holds.put h.named hasset
  serial_lt := by
    have hlater : overlay.Holds fun loaded ↦ loaded.serial < overlay.nextSerial + 1 := by
      intro slot loaded hloaded
      exact Nat.lt_succ_of_lt (h.serial_lt slot loaded hloaded)
    exact hlater.put (Nat.lt_succ_self overlay.nextSerial)
  serial_inj slot loaded other loadedOther hloaded hother heq := by
    rw [get?_put] at hloaded hother
    -- The new object has the next serial number, which none of the others has yet.
    split at hloaded <;> split at hother
    · next hslot hslotOther => exact hslot.symm.trans hslotOther
    · have hlt := h.serial_lt other loadedOther hother
      rw [← heq, ← Option.some.inj hloaded] at hlt
      exact absurd hlt (Nat.lt_irrefl _)
    · have hlt := h.serial_lt slot loaded hloaded
      rw [heq, ← Option.some.inj hother] at hlt
      exact absurd hlt (Nat.lt_irrefl _)
    · exact h.serial_inj slot loaded other loadedOther hloaded hother heq

theorem Sound.putAll {overlay : Overlay} (h : overlay.Sound) (assets : List Asset)
    (hassets : ∀ asset ∈ assets, asset.Named) : (overlay.putAll assets).Sound := by
  induction assets generalizing overlay with
  | nil => exact h
  | cons asset rest ih =>
    rw [putAll_cons]
    exact ih (h.put (hassets asset List.mem_cons_self))
      fun other hother ↦ hassets other (List.mem_cons_of_mem _ hother)

/-- Whatever an overlay was like, after a reload it is sound. -/
theorem sound_reload (overlay : Overlay) (files : FileTree) (root : Path) :
    (overlay.reload files root).overlay.Sound := by
  rw [overlay_reload]
  refine (sound_of_catalogue_eq_empty rfl).putAll _ ?_
  intro asset hasset
  exact (found_prepared files root _ asset hasset).named

theorem Sound.register {overlay next : Overlay} (h : overlay.Sound) {files : FileTree}
    {path : Path} {key : Key} {events : List Event}
    (hnext : overlay.register files path key = .ok (next, events)) : next.Sound := by
  obtain ⟨asset, hasset, rfl⟩ := register_eq_ok hnext
  have hput := h.put (registeredAsset?_prepared hasset).named
  -- Registrations play no part in soundness.
  exact ⟨hput.consistent, hput.named, hput.serial_lt, hput.serial_inj⟩

end Overlay

namespace Session

theorem sound_perform (session : Session) (operation : Operation) (h : session.overlay.Sound) :
    (session.perform operation).overlay.Sound :=
  session.perform_keeps Overlay.sound_reload
    (fun _ _ _ _ _ _ hbefore hnext ↦ hbefore.register hnext) operation h

/-- Every overlay that actions can lead to is sound. -/
theorem sound_actAll (files : FileTree) (nextSerial : Nat) (actions : List Action) :
    ((start files nextSerial).actAll actions).overlay.Sound :=
  actAll_keeps sound_perform _ actions (Overlay.sound_of_catalogue_eq_empty rfl)

end Session

/-- In every overlay that actions can lead to, the order has no slot twice and is as long as the
table; an asset is found exactly in the slots of the order, has the kind and the key it was looked
up by, and is named after its key if it is a script; and the scripts are the assets of the slots of
scripts, each once and in this order. -/
theorem catalogue_consistent_of_actions (files : FileTree) (nextSerial : Nat)
    (actions : List Action) :
    let catalogue := ((Session.start files nextSerial).actAll actions).overlay.catalogue
    catalogue.keys.Nodup ∧
      catalogue.length = catalogue.keys.length ∧
      (∀ slot, (catalogue.get? slot).isSome ↔ slot ∈ catalogue.keys) ∧
      (∀ kind key loaded, catalogue.get? (kind, key) = some loaded →
        loaded.asset.kind = kind ∧ loaded.asset.key = key ∧
          ∀ script, loaded.asset.script? = some script → script.name = loaded.asset.key) ∧
      catalogue.scriptAssets.map some =
        (catalogue.keys.filter fun slot ↦ slot.1 = .script).map catalogue.get? ∧
      catalogue.scripts.map some = catalogue.scriptAssets.map LoadedAsset.script? := by
  intro catalogue
  have h : ((Session.start files nextSerial).actAll actions).overlay.Sound :=
    Session.sound_actAll files nextSerial actions
  refine ⟨h.consistent.nodup_keys, h.consistent.length_eq, h.consistent.isSome_get?_iff, ?_,
    h.consistent.map_some_scriptAssets, h.consistent.map_some_scripts⟩
  intro kind key loaded hloaded
  have hslot := h.consistent.slot_eq (kind, key) loaded hloaded
  exact ⟨congrArg Prod.fst hslot, congrArg Prod.snd hslot, h.named (kind, key) loaded hloaded⟩

end AssetOverlay

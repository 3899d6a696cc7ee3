import AssetOverlay.Link
import AssetOverlay.Proofs.Catalogue.Consistency

/-!
# Scripts of a sound overlay

In a sound overlay no two scripts have the same name or the same serial number, so a buffer belongs
to at most one of them.
-/

namespace AssetOverlay

theorem Catalogue.exists_of_mem_scripts {catalogue : Catalogue} {loaded : LoadedScript}
    (h : loaded ∈ catalogue.scripts) :
    ∃ slot asset, catalogue.get? slot = some asset ∧ asset.script? = some loaded := by
  obtain ⟨asset, hasset, hscript⟩ := List.mem_filterMap.mp h
  obtain ⟨slot, -, hslot⟩ := List.mem_filterMap.mp hasset
  exact ⟨slot, asset, hslot, hscript⟩

theorem LoadedAsset.script?_eq_some_iff {asset : LoadedAsset} {loaded : LoadedScript} :
    asset.script? = some loaded ↔
      asset.asset.script? = some loaded.script ∧ asset.serial = loaded.serial := by
  obtain ⟨serial, script⟩ := loaded
  simp [script?, and_comm]

/-- An asset for a new slot is the last of the scripts if it is one. -/
theorem Catalogue.Consistent.scripts_insert {catalogue : Catalogue} (h : catalogue.Consistent)
    {loaded : LoadedAsset} (hnew : catalogue.get? loaded.asset.slot = none) :
    (catalogue.insert loaded).scripts = catalogue.scripts ++ loaded.script?.toList := by
  have hkeys : (catalogue.insert loaded).keys = catalogue.keys ++ [loaded.asset.slot] := by
    rw [keys_insert, hnew]
    rfl
  -- The slots that were there before hold what they held.
  have hkept : ∀ slot ∈ catalogue.keys.filter fun slot ↦ slot.1 = .script,
      (catalogue.insert loaded).get? slot = catalogue.get? slot := by
    intro slot hslot
    have hsome := (h.isSome_get?_iff slot).mpr (List.mem_filter.mp hslot).1
    rw [get?_insert, if_neg]
    rintro rfl
    simp [hnew] at hsome
  have hscript : loaded.asset.slot.1 = .script ↔ loaded.script?.isSome := by
    rw [LoadedAsset.script?, Option.isSome_map, Asset.isSome_script?_iff]
    rfl
  unfold scripts scriptAssets
  rw [hkeys, List.filter_append, List.filterMap_append, List.filterMap_congr hkept,
    List.filterMap_append]
  congr 1
  by_cases hkind : loaded.asset.slot.1 = .script
  · obtain ⟨script, hscript⟩ := Option.isSome_iff_exists.mp (hscript.mp hkind)
    simp [hkind, get?_insert, hscript]
  · have hnone := Option.not_isSome_iff_eq_none.mp (mt hscript.mpr hkind)
    simp [hkind, hnone]

/-- A buffer that starts where no script starts belongs to none. -/
theorem owner?_eq_none_of_origin {scripts : List LoadedScript} {buffer : Buffer}
    (h : ∀ loaded ∈ scripts, buffer.origin ≠ some loaded.serial) :
    owner? scripts buffer = none := by
  apply List.find?_eq_none.mpr
  intro loaded hloaded howns
  simp only [LoadedScript.owns, Bool.and_eq_true, beq_iff_eq] at howns
  exact h loaded hloaded howns.1

namespace Overlay.Sound

theorem eq_of_serial_eq {overlay : Overlay} (h : overlay.Sound) {loaded other : LoadedScript}
    (hloaded : loaded ∈ overlay.catalogue.scripts) (hother : other ∈ overlay.catalogue.scripts)
    (heq : loaded.serial = other.serial) : loaded = other := by
  obtain ⟨slot, asset, hasset, hscript⟩ := Catalogue.exists_of_mem_scripts hloaded
  obtain ⟨slotOther, assetOther, hassetOther, hscriptOther⟩ :=
    Catalogue.exists_of_mem_scripts hother
  have hserial : asset.serial = assetOther.serial := by
    rw [(LoadedAsset.script?_eq_some_iff.mp hscript).2, heq,
      (LoadedAsset.script?_eq_some_iff.mp hscriptOther).2]
  have hslot := h.serial_inj slot asset slotOther assetOther hasset hassetOther hserial
  rw [hslot, hassetOther] at hasset
  rw [← Option.some.inj hasset, hscriptOther] at hscript
  exact (Option.some.inj hscript).symm

/-- A script has the key of its slot as its name. -/
theorem name_eq {overlay : Overlay} (h : overlay.Sound) {slot : Slot} {asset : LoadedAsset}
    {loaded : LoadedScript} (hasset : overlay.catalogue.get? slot = some asset)
    (hloaded : asset.script? = some loaded) : loaded.script.name = slot.2 := by
  have hscript := (LoadedAsset.script?_eq_some_iff.mp hloaded).1
  calc
    loaded.script.name = asset.asset.slot.2 := h.named slot asset hasset loaded.script hscript
    _ = slot.2 := by rw [h.consistent.slot_eq slot asset hasset]

/-- No two scripts have the same name. -/
theorem nodup_names {overlay : Overlay} (h : overlay.Sound) :
    (overlay.catalogue.scripts.map fun loaded ↦ loaded.script.name).Nodup := by
  have hkeys := h.consistent.nodup_keys.filter fun slot ↦ decide (slot.1 = .script)
  unfold Catalogue.scripts Catalogue.scriptAssets
  rw [List.Nodup, List.pairwise_map, List.pairwise_filterMap, List.pairwise_filterMap]
  refine List.Pairwise.imp_of_mem ?_ hkeys
  intro slot slotOther hslot hslotOther hne asset hasset assetOther hassetOther loaded hloaded
    other hother hname
  rw [h.name_eq hasset hloaded, h.name_eq hassetOther hother] at hname
  have hkind := of_decide_eq_true (List.mem_filter.mp hslot).2
  have hkindOther := of_decide_eq_true (List.mem_filter.mp hslotOther).2
  exact hne (Prod.ext (hkind.trans hkindOther.symm) hname)

/-- A buffer that belongs to a script belongs to no other one. -/
theorem owner?_eq_some {overlay : Overlay} (h : overlay.Sound) {buffer : Buffer}
    {loaded : LoadedScript} (hloaded : loaded ∈ overlay.catalogue.scripts)
    (howns : loaded.owns buffer) : owner? overlay.catalogue.scripts buffer = some loaded := by
  unfold owner?
  cases hfind : overlay.catalogue.scripts.find? fun other ↦ other.owns buffer with
  | none => exact absurd howns (List.find?_eq_none.mp hfind loaded hloaded)
  | some other =>
    have hother := List.find?_some hfind
    simp only [LoadedScript.owns, Bool.and_eq_true, beq_iff_eq] at howns hother
    have hserial : other.serial = loaded.serial :=
      Option.some.inj (hother.1.symm.trans howns.1)
    rw [h.eq_of_serial_eq (List.mem_of_find?_eq_some hfind) hloaded hserial]

/-- The buffer of an asset that is no script belongs to no script, whatever its bytes are. -/
theorem owner?_of_script?_eq_none {overlay : Overlay} (h : overlay.Sound) {slot : Slot}
    {asset : LoadedAsset} (hasset : overlay.catalogue.get? slot = some asset)
    (hnone : asset.script? = none) {buffer : Buffer} (hbuffer : asset.buffer? = some buffer) :
    owner? overlay.catalogue.scripts buffer = none := by
  obtain ⟨bytes, -, rfl⟩ := Option.map_eq_some_iff.mp hbuffer
  apply owner?_eq_none_of_origin
  intro loaded hloaded horigin
  obtain ⟨other, scriptAsset, hget, hscript⟩ := Catalogue.exists_of_mem_scripts hloaded
  have hserial : asset.serial = scriptAsset.serial :=
    (Option.some.inj horigin).trans (LoadedAsset.script?_eq_some_iff.mp hscript).2.symm
  have hslot := h.serial_inj slot asset other scriptAsset hasset hget hserial
  rw [hslot, hget] at hasset
  rw [Option.some.inj hasset, hnone] at hscript
  cases hscript

end Overlay.Sound

end AssetOverlay

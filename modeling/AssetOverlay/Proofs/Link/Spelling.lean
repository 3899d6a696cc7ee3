import AssetOverlay.Proofs.Key.Spelling
import AssetOverlay.Proofs.Link.Recognition
import AssetOverlay.Proofs.Reload.Reference

/-!
# Assets under other spellings

The name under which a package declares an asset, the names of its hooks and the name under which
the host registers a file all become keys before anything is looked up.  Spellings have one key, so
whatever was loaded under one spelling of a name is found under all others, and a script that hooks
into a name in one spelling is linked beside a buffer that presents it in another.
-/

namespace AssetOverlay

/-! ## Loading by name -/

/-- An asset that was loaded for a name: an entry with this name declares it, or a file is registered
under the key of the name. -/
inductive Supplied (name : String) : AssetKind → Asset → Prop where
  | declared {entry : Entry} {files : FileTree} {folder : Path} {asset : Asset} :
      entry.name = name → (entry.load files folder).outcome = .ok asset →
        Supplied name entry.kind asset
  | registered {files : FileTree} {path : Path} {asset : Asset} :
      registeredAsset? files (path, Key.ofName name) = some asset →
        Supplied name .rawFile asset

/-- A script that was loaded for an entry with the given name among its hooks. -/
inductive Hooked (name : String) (script : Script) : Asset → Prop where
  | declared {entry : Entry} {files : FileTree} {folder : Path} {asset : Asset} :
      name ∈ entry.hooks → (entry.load files folder).outcome = .ok asset →
        asset.script? = some script → Hooked name script asset

theorem Supplied.slot_eq {name : String} {kind : AssetKind} {asset : Asset}
    (h : Supplied name kind asset) : asset.slot = (kind, Key.ofName name) := by
  cases h with
  | declared hname hload =>
    rw [(Entry.load_eq_ok hload).1, hname]
  | registered hasset =>
    obtain ⟨bytes, -, rfl⟩ := Option.map_eq_some_iff.mp hasset
    rfl

theorem Hooked.script?_eq {name : String} {script : Script} {asset : Asset}
    (h : Hooked name script asset) : asset.script? = some script := by
  cases h with
  | declared hmem hload hscript => exact hscript

/-- A script keeps the keys of its hooks. -/
theorem Hooked.hooksInto {name : String} {script : Script} {asset : Asset}
    (h : Hooked name script asset) : script.hooksInto (Key.ofName name) := by
  cases h with
  | declared hmem hload hscript =>
    obtain ⟨-, bytes, -, hprepared⟩ := Entry.load_eq_ok hload
    obtain ⟨size, -, -, rfl⟩ := Script.prepare_eq_ok_iff.mp (hprepared script hscript)
    rw [Script.hooksInto, List.contains_iff_mem, Key.mem_sortedSet]
    exact List.mem_map_of_mem hmem

/-! ## Looking up -/

namespace Catalogue.Reflects

variable {catalogue : Catalogue} {loads : List Asset}

/-- The last load of a slot is in force. -/
theorem exists_get?_eq_some (h : catalogue.Reflects loads) {slot : Slot} {asset : Asset}
    (hlast : lastIn slot loads = some asset) :
    ∃ serial, catalogue.get? slot = some ⟨serial, asset⟩ := by
  rw [← h.asset_eq slot] at hlast
  obtain ⟨⟨serial, _⟩, hget, rfl⟩ := Option.map_eq_some_iff.mp hlast
  exact ⟨serial, hget⟩

/-- A slot into which something was loaded isn't empty. -/
theorem exists_get?_of_mem (h : catalogue.Reflects loads) {asset : Asset} (hmem : asset ∈ loads) :
    ∃ loaded, catalogue.get? asset.slot = some loaded ∧
      lastIn asset.slot loads = some loaded.asset := by
  have hslot : asset.slot ∈ loads.map Asset.slot := List.mem_map_of_mem hmem
  obtain ⟨last, hlast⟩ := Option.isSome_iff_exists.mp ((isSome_lastIn_iff _ _).mpr hslot)
  obtain ⟨serial, hget⟩ := h.exists_get?_eq_some hlast
  exact ⟨⟨serial, last⟩, hget, hlast⟩

end Catalogue.Reflects

namespace Overlay

theorem lookUp_of_get?_eq_some {overlay : Overlay} {kind : AssetKind} {key : Key}
    {loaded : LoadedAsset} (h : overlay.catalogue.get? (kind, key) = some loaded) :
    overlay.lookUp kind key = (some loaded, [.overriding kind key]) := by
  rw [lookUp, h]

/-- What was linked beside a buffer are all scripts that hook into the name that it presents. -/
theorem injected_of_link {State : Type} {overlay : Overlay} {game : Game State}
    {machine : ScriptMachine} {buffer : Buffer} {run : Bool} {state : State}
    {outcome : LinkOutcome}
    (h : (overlay.link game machine buffer run state).1 = .ok outcome) :
    outcome.injected = (hookingInto overlay.catalogue.scripts buffer).map
      fun loaded ↦ loaded.script.name := by
  let scripts := overlay.catalogue.scripts
  have hstart : (state, ([] : List Call)).1 = state := rfl
  have hok : (linkScript scripts game.recorded machine buffer run (state, [])).1 = .ok outcome :=
    (game.recorded_simulates.linkScript scripts machine buffer run hstart).1.trans h
  have hrun := linkScript_recorded game machine scripts buffer run state
  rw [hok] at hrun
  exact hrun.injected_eq

/-- A script in force that hooks into a name is linked beside every buffer that presents it. -/
theorem mem_injected_of_link {State : Type} {overlay : Overlay} (hsound : overlay.Sound)
    {slot : Slot} {loaded : LoadedAsset} {script : Script} {name : Key}
    (hget : overlay.catalogue.get? slot = some loaded)
    (hscript : loaded.asset.script? = some script) (hhooks : script.hooksInto name)
    {game : Game State} {machine : ScriptMachine} {buffer : Buffer} {run : Bool} {state : State}
    {outcome : LinkOutcome} (hname : Script.nameOf? buffer.bytes = some name)
    (h : (overlay.link game machine buffer run state).1 = .ok outcome) :
    script.name ∈ outcome.injected := by
  obtain ⟨kind, key⟩ := slot
  have hheld : loaded.script? = some ⟨loaded.serial, script⟩ :=
    LoadedAsset.script?_eq_some_iff.mpr ⟨hscript, rfl⟩
  have hkind : kind = .script := hsound.kind_eq_script hget hheld
  subst hkind
  have hmem := hsound.mem_scripts hget hheld
  rw [injected_of_link h, hookingInto_eq_hooking _ hname]
  exact List.mem_map.mpr ⟨_, List.mem_filter.mpr ⟨hmem, hhooks⟩, rfl⟩

end Overlay

/-- Spellings of a name have the same key and the same hash, and keys have 63 bits.  So, whatever has
happened, an asset that was loaded for a name since the last reload is found under every other
spelling, as the one that was loaded last into its slot, and a script in force that hooks into the
name is linked beside every buffer that presents another spelling. -/
theorem found_under_every_spelling (first second : String) (h : Respelling first second) :
    Key.ofName second = Key.ofName first ∧ Key.hash second = Key.hash first ∧
      (Key.ofName first).value.toNat < 2 ^ 63 ∧ (Key.hash first).value.toNat < 2 ^ 63 ∧
      ∀ files nextSerial operations,
        let overlay := ((Session.start files nextSerial).performAll operations).overlay
        let loads := ((History.start files).extendAll operations).loads
        (∀ kind asset, Supplied first kind asset → asset ∈ loads →
          ∃ loaded, overlay.catalogue.get? (kind, Key.ofName second) = some loaded ∧
            overlay.lookUp kind (Key.ofName second) =
              (some loaded, [.overriding kind (Key.ofName second)]) ∧
            Catalogue.lastIn (kind, Key.ofName first) loads = some loaded.asset) ∧
        ∀ asset script buffer, Hooked first script asset →
          Catalogue.lastIn asset.slot loads = some asset →
          Script.nameOf? buffer.bytes = some (Key.ofName second) →
          ∀ (State : Type) (game : Game State) machine run state outcome,
            (overlay.link game machine buffer run state).1 = .ok outcome →
            script.name ∈ outcome.injected := by
  have hkey : Key.ofName second = Key.ofName first := Key.ofName_respelling h
  refine ⟨hkey, Key.hash_respelling h, Key.toNat_ofName_lt first, Key.toNat_hash_lt first, ?_⟩
  intro files nextSerial operations overlay loads
  have hreflects : overlay.catalogue.Reflects loads :=
    ((Session.follows_start files nextSerial).performAll operations).reflects
  have hsound : overlay.Sound :=
    Session.performAll_keeps Session.sound_perform _ _ (Overlay.sound_of_catalogue_eq_empty rfl)
  rw [hkey]
  constructor
  · intro kind asset hsupplied hmem
    obtain ⟨loaded, hget, hlast⟩ := hreflects.exists_get?_of_mem hmem
    rw [hsupplied.slot_eq] at hget hlast
    exact ⟨loaded, hget, Overlay.lookUp_of_get?_eq_some hget, hlast⟩
  · intro asset script buffer hhooked hlast hname State game machine run state outcome hok
    obtain ⟨serial, hget⟩ := hreflects.exists_get?_eq_some hlast
    exact Overlay.mem_injected_of_link hsound hget hhooked.script?_eq hhooked.hooksInto hname hok

namespace Sample

/-- The manifest of a package with a script that hooks into another one. -/
def hookingManifest : String :=
  "\x7b\"data\": [[\"scriptparsetree\", \"mods/a.gsc\", \"a\", [\"zm/b.gsc\"]]]\x7d"

/-- A root with that package. -/
def hookingFiles : FileTree where
  entries := [(["mods"], .folder), (["mods", "one"], .folder),
    (["mods", "one", "metadata.json"], .file (Bytes.ofText hookingManifest)),
    (["mods", "one", "a"], .file compiled)]
  distinct := by decide

/-- What the manifest declares. -/
def hookingEntry : Entry :=
  ⟨.script, "mods/a.gsc", ⟨"a"⟩, ["zm/b.gsc"]⟩

theorem hookingFound_eq : Overlay.found hookingFiles ⟨"/mods"⟩ [] = [hookingAsset] := by
  decide +kernel

theorem hookingLoads_eq :
    ((History.start hookingFiles).extendAll [.reload ⟨"/mods"⟩]).loads = [hookingAsset] := by
  rw [← hookingFound_eq, found_eq_loads]
  rfl

theorem load_hookingEntry :
    (hookingEntry.load hookingFiles ⟨"/mods/one"⟩).outcome = .ok hookingAsset := by
  apply Attempt.asset?_eq_some_iff.mp
  decide +kernel

end Sample

theorem sample_found_and_linked_under_other_spellings :
    let overlay := ((Session.start Sample.hookingFiles 0).performAll [.reload ⟨"/mods"⟩]).overlay
    let buffer := Buffer.fresh (Script.rename (Key.ofName "ZM\\B.GSC") Sample.compiled)
    Respelling "mods/a.gsc" "Mods\\A.gsc" ∧ Respelling "zm/b.gsc" "ZM\\B.GSC" ∧
      (∃ loaded, (overlay.lookUp .script (Key.ofName "Mods\\A.gsc")).1 = some loaded ∧
        loaded.asset = Sample.hookingAsset) ∧
      ∃ outcome, (overlay.link Sample.game .server buffer true ()).1 = .ok outcome ∧
        Key.ofName "mods/a.gsc" ∈ outcome.injected := by
  intro overlay buffer
  have hname : Respelling "mods/a.gsc" "Mods\\A.gsc" := by decide +kernel
  have hhook : Respelling "zm/b.gsc" "ZM\\B.GSC" := by decide +kernel
  have hload := Sample.load_hookingEntry
  refine ⟨hname, hhook, ?_, ?_⟩
  · obtain ⟨-, -, -, -, hfound⟩ := found_under_every_spelling _ _ hname
    have hmem : Sample.hookingAsset ∈
        ((History.start Sample.hookingFiles).extendAll [.reload ⟨"/mods"⟩]).loads := by
      rw [Sample.hookingLoads_eq]
      exact List.mem_singleton_self _
    obtain ⟨loaded, -, hlookUp, hlast⟩ :=
      (hfound Sample.hookingFiles 0 [.reload ⟨"/mods"⟩]).1 .script Sample.hookingAsset
        (.declared rfl hload) hmem
    refine ⟨loaded, congrArg Prod.fst hlookUp, ?_⟩
    rw [Sample.hookingLoads_eq] at hlast
    exact (Option.some.inj hlast).symm
  · obtain ⟨-, -, -, -, hfound⟩ := found_under_every_spelling _ _ hhook
    have hanswers : ∀ machine buffer run state,
        0 ≤ (Sample.game.link machine buffer run state).1 := fun _ _ _ _ ↦ Int32.le_refl 0
    obtain ⟨outcome, hok⟩ :=
      linkScript_ok_of_nonneg hanswers overlay.catalogue.scripts .server buffer true ()
    have hlast : Catalogue.lastIn Sample.hookingAsset.slot
        ((History.start Sample.hookingFiles).extendAll [.reload ⟨"/mods"⟩]).loads =
          some Sample.hookingAsset := by
      rw [Sample.hookingLoads_eq]
      rfl
    have hpresented : Script.nameOf? buffer.bytes = some (Key.ofName "ZM\\B.GSC") := by
      decide +kernel
    exact ⟨outcome, hok, (hfound Sample.hookingFiles 0 [.reload ⟨"/mods"⟩]).2 Sample.hookingAsset
      Sample.hookingScript buffer (.declared List.mem_cons_self hload rfl) hlast hpresented Unit
      Sample.game .server true () outcome hok⟩

end AssetOverlay

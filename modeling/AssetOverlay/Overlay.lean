import AssetOverlay.Catalogue
import AssetOverlay.Package.Loading

/-!
# The overlay

The overlay holds the assets in force and the files that the host has registered.  A registered file
is loaded at once, and again with every reload.
-/

namespace AssetOverlay

/-- The assets in force and what is needed to load them again. -/
structure Overlay where
  catalogue : Catalogue
  /-- The files that the host has registered, in the order in which it did so. -/
  registrations : List (Path × Key)
  /-- The serial number of the next object. -/
  nextSerial : Nat

namespace Overlay

/-- An overlay without assets, whose objects start at the given serial number. -/
def empty (nextSerial : Nat) : Overlay :=
  ⟨.empty, [], nextSerial⟩

/-- Makes an asset an object in force. -/
def put (overlay : Overlay) (asset : Asset) : Overlay × List Event :=
  ({ overlay with
      catalogue := overlay.catalogue.insert ⟨overlay.nextSerial, asset⟩
      nextSerial := overlay.nextSerial + 1 },
    match overlay.catalogue.get? asset.slot with
    | some previous => [.assetReplaced asset.kind asset.key previous.asset.source]
    | none => [])

/-- Loads a file as a raw file under the given key and registers it, if that succeeds. -/
def register (overlay : Overlay) (files : FileTree) (path : Path) (key : Key) :
    Except Fault (Overlay × List Event) :=
  match loadRawFile files path key with
  | .error fault => .error fault
  | .ok asset =>
    let (next, events) := overlay.put asset
    .ok ({ next with registrations := overlay.registrations ++ [(path, key)] }, events)

/-- The asset that the game should use instead of its own. -/
def lookUp (overlay : Overlay) (kind : AssetKind) (key : Key) :
    Option LoadedAsset × List Event :=
  match overlay.catalogue.get? (kind, key) with
  | some loaded => (some loaded, [.overriding kind key])
  | none => (none, [])

theorem get?_put (overlay : Overlay) (asset : Asset) (slot : Slot) :
    (overlay.put asset).1.catalogue.get? slot =
      if asset.slot = slot then some ⟨overlay.nextSerial, asset⟩
      else overlay.catalogue.get? slot :=
  overlay.catalogue.get?_insert ⟨overlay.nextSerial, asset⟩ slot

@[simp]
theorem nextSerial_put (overlay : Overlay) (asset : Asset) :
    (overlay.put asset).1.nextSerial = overlay.nextSerial + 1 := rfl

@[simp]
theorem registrations_put (overlay : Overlay) (asset : Asset) :
    (overlay.put asset).1.registrations = overlay.registrations := rfl

end Overlay

end AssetOverlay

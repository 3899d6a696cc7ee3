import AssetOverlay.Asset
import Std.Data.HashMap

/-!
# The catalogue

The catalogue holds the assets in force, at most one for each kind and key.  It keeps two things: a
table in which an asset is found by its kind and key, and the order in which these were first
filled, so that whoever goes over the assets meets them in the same order whenever the same ones are
loaded.

Every asset in force is an object of its own with a serial number that is never used again, so that
an object handed out earlier can be told from an equal one loaded later.
-/

namespace AssetOverlay

/-- What identifies an asset: its kind and its key. -/
abbrev Slot := AssetKind × Key

/-- The slot of an asset. -/
def Asset.slot (asset : Asset) : Slot :=
  (asset.kind, asset.key)

/-- An asset as an object of its own. -/
structure LoadedAsset where
  serial : Nat
  asset : Asset
deriving DecidableEq

/-- A script as an object of its own. -/
structure LoadedScript where
  serial : Nat
  script : Script
deriving DecidableEq

/-- The script that a loaded asset holds. -/
def LoadedAsset.script? (loaded : LoadedAsset) : Option LoadedScript :=
  loaded.asset.script?.map fun script ↦ ⟨loaded.serial, script⟩

/-- The assets in force. -/
structure Catalogue where
  table : Std.HashMap Slot LoadedAsset
  /-- The slots in the order in which they were first filled. -/
  order : List Slot

namespace Catalogue

/-- The catalogue without assets. -/
def empty : Catalogue :=
  ⟨∅, []⟩

/-- The asset in a slot. -/
def get? (catalogue : Catalogue) (slot : Slot) : Option LoadedAsset :=
  catalogue.table[slot]?

/-- The slots in load order. -/
def keys (catalogue : Catalogue) : List Slot :=
  catalogue.order

/-- The number of assets. -/
def length (catalogue : Catalogue) : Nat :=
  catalogue.table.size

/-- Whether there are no assets. -/
def isEmpty (catalogue : Catalogue) : Bool :=
  catalogue.length == 0

/-- Puts an asset into its slot.  One that takes the place of another keeps its position. -/
def insert (catalogue : Catalogue) (loaded : LoadedAsset) : Catalogue where
  table := catalogue.table.insert loaded.asset.slot loaded
  order :=
    match catalogue.get? loaded.asset.slot with
    | some _ => catalogue.order
    | none => catalogue.order ++ [loaded.asset.slot]

/-- The assets that are scripts, in load order. -/
def scriptAssets (catalogue : Catalogue) : List LoadedAsset :=
  (catalogue.keys.filter fun slot ↦ slot.1 = .script).filterMap catalogue.get?

/-- The scripts in load order. -/
def scripts (catalogue : Catalogue) : List LoadedScript :=
  catalogue.scriptAssets.filterMap LoadedAsset.script?

@[simp]
theorem get?_empty (slot : Slot) : empty.get? slot = none := by
  simp [empty, get?]

theorem get?_insert (catalogue : Catalogue) (loaded : LoadedAsset) (slot : Slot) :
    (catalogue.insert loaded).get? slot =
      if loaded.asset.slot = slot then some loaded else catalogue.get? slot := by
  simp [insert, get?, Std.HashMap.getElem?_insert]

theorem keys_insert (catalogue : Catalogue) (loaded : LoadedAsset) :
    (catalogue.insert loaded).keys =
      if (catalogue.get? loaded.asset.slot).isSome then catalogue.keys
      else catalogue.keys ++ [loaded.asset.slot] := by
  unfold insert keys
  cases catalogue.get? loaded.asset.slot <;> simp

theorem length_insert (catalogue : Catalogue) (loaded : LoadedAsset) :
    (catalogue.insert loaded).length =
      if (catalogue.get? loaded.asset.slot).isSome then catalogue.length
      else catalogue.length + 1 := by
  simp [insert, length, get?, Std.HashMap.size_insert]

end Catalogue

end AssetOverlay

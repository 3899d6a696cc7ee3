import AssetOverlay.Proofs.Detour.Grammar
import AssetOverlay.Proofs.Script.Redirection

/-!
# Scripts behind a block

A block is taken off as a whole, and nothing else of it than its detours is looked at.  So a script
behind a block is prepared if and only if it is prepared without the block and the detours of the
block name code inside of it, and in both cases the same bytes are handed to the game.
-/

namespace AssetOverlay

namespace Script

theorem exists_prepare_iff_of_strip {buffer body : Bytes} {detours : List Detour}
    (hstrip : Block.strip buffer = .ok (body, detours)) (name : Key) (hooks : List Key) :
    (∃ script, (prepare name buffer hooks).outcome = .ok script) ↔ Acceptable body detours := by
  simp only [prepare_eq_ok_iff_of_strip hstrip, exists_and_left, exists_eq, and_true]

theorem acceptable_iff_nil {body : Bytes} {detours : List Detour} :
    Acceptable body detours ↔ Acceptable body [] ∧
      ∀ detour ∈ detours, detour.codeOffset.toNat + detour.codeSize.toNat ≤ body.length :=
  ⟨fun h ↦ ⟨⟨h.header, h.magic, fun _ hnil ↦ absurd hnil List.not_mem_nil⟩, h.inside⟩,
    fun ⟨h, hinside⟩ ↦ ⟨h.header, h.magic, hinside⟩⟩

end Script

/-- A block in front of a script adds its detours to it, if they name code inside of the script, and
changes nothing else. -/
theorem block_adds_only_detours {block body : Bytes} {header : Block.Header}
    (hblock : Block.decode block = .ok (some header)) (hsize : header.size = block.length)
    (hbody : ¬ Bytes.ofText "GSIC" <+: body) (name : Key) (hooks : List Key) :
    ((∃ script, (Script.prepare name (block ++ body) hooks).outcome = .ok script) ↔
      (∃ script, (Script.prepare name body hooks).outcome = .ok script) ∧
        ∀ detour ∈ header.detours,
          detour.codeOffset.toNat + detour.codeSize.toNat ≤ body.length) ∧
    ∀ behind alone, (Script.prepare name (block ++ body) hooks).outcome = .ok behind →
      (Script.prepare name body hooks).outcome = .ok alone →
        behind.code = alone.code ∧ behind.name = alone.name ∧ behind.hooks = alone.hooks ∧
          behind.detours = header.detours ∧ alone.detours = [] := by
  have hbehind := Block.strip_append hblock hsize body
  have halone := Block.strip_of_not_announced hbody
  constructor
  · rw [Script.exists_prepare_iff_of_strip hbehind, Script.exists_prepare_iff_of_strip halone]
    exact Script.acceptable_iff_nil
  · intro behind alone hprepared hprepared'
    obtain ⟨-, rfl⟩ := (Script.prepare_eq_ok_iff_of_strip hbehind name hooks behind).mp hprepared
    obtain ⟨-, rfl⟩ := (Script.prepare_eq_ok_iff_of_strip halone name hooks alone).mp hprepared'
    exact ⟨rfl, rfl, rfl, rfl, rfl⟩

/-- The last of two fields holds a detour without code at the very end of the script. -/
theorem two_fields_add_only_detours :
    let detour : Detour := ⟨1, 2, 3, 96, 0, ⟨5⟩⟩
    let block := Bytes.ofText "GSIC" ++ Bytes.ofWord32 2 ++ Bytes.ofWord32 0 ++ Bytes.ofWord32 0 ++
      Bytes.ofWord32 0 ++ Bytes.ofWord32 1 ++ detour.toRecord
    let body := Bytes.ofWord64 Script.magic ++ List.replicate 88 0
    Block.decode block = .ok (some ⟨[detour], block.length⟩) ∧ ¬ Bytes.ofText "GSIC" <+: body ∧
      ∃ behind alone, (Script.prepare ⟨7⟩ (block ++ body) [⟨8⟩]).outcome = .ok behind ∧
        (Script.prepare ⟨7⟩ body [⟨8⟩]).outcome = .ok alone ∧
        behind.code = alone.code ∧ behind.detours = [detour] ∧ alone.detours = [] := by
  intro detour block body
  have hblock : Block.decode block = .ok (some ⟨[detour], block.length⟩) := by decide +kernel
  have hbody : ¬ Bytes.ofText "GSIC" <+: body := by decide +kernel
  have hinside : ∀ held ∈ [detour],
      (Detour.codeOffset held).toNat + (Detour.codeSize held).toNat ≤ body.length := by
    decide +kernel
  obtain ⟨hprepared, hequal⟩ := block_adds_only_detours hblock rfl hbody ⟨7⟩ [⟨8⟩]
  have halone : (Script.prepare ⟨7⟩ body [⟨8⟩]).outcome =
      .ok ⟨⟨7⟩, Script.rename ⟨7⟩ body, [⟨8⟩], []⟩ := by
    decide +kernel
  obtain ⟨behind, hbehind⟩ := hprepared.mpr ⟨⟨_, halone⟩, hinside⟩
  obtain ⟨hcode, -, -, hdetours, hnone⟩ := hequal behind _ hbehind halone
  exact ⟨hblock, hbody, behind, _, hbehind, halone, hcode, hdetours, hnone⟩

end AssetOverlay

import AssetOverlay.Proofs.Script.Redirection
import Mathlib.Order.Iterate

/-!
# The name that a prepared script presents

A script is renamed before its intrinsics are redirected, and redirecting writes over the words where
the import table has intrinsics.  A table behind the name can't reach it.  The header may also say
that the table starts in front of the name or in it, though, and then a record may be made up of the
bytes of the name and of those around it.  Since the sentinel and the function of the host differ in
every byte, the script keeps its name exactly if no intrinsic touches it.
-/

namespace AssetOverlay

namespace Imports

/-- The two functions differ in every byte of their identifiers. -/
theorem getElem?_sentinel_ne_hostFunction {index : Nat} (h : index < 4) :
    (Bytes.ofWord32 (CanonicalId.ofName "SeriousCustom"))[index]? ≠
      (Bytes.ofWord32 (CanonicalId.ofName "IsProfileBuild"))[index]? := by
  have hall : ∀ index < 4, (Bytes.ofWord32 (CanonicalId.ofName "SeriousCustom"))[index]? ≠
      (Bytes.ofWord32 (CanonicalId.ofName "IsProfileBuild"))[index]? := by
    decide +kernel
  exact hall index h

/-- The records of a table follow its start. -/
theorem le_iterate_following (code : Bytes) (start index : Nat) :
    start ≤ (following code)^[index] start := by
  refine Function.id_le_iterate_of_id_le (fun position ↦ ?_) index start
  rw [following, Nat.add_assoc]
  exact Nat.le_add_right position _

theorem IntrinsicOf.table_le {code : Bytes} {position : Nat} (h : IntrinsicOf code position) :
    (code.word32At 56).toInt32.toInt ≤ position := by
  obtain ⟨htable, ⟨index, -, rfl⟩, -⟩ := h
  have hle := le_iterate_following code (code.word32At 56).toInt32.toInt.toNat index
  omega

/-- Where sentinels are redirected, a part of a byte string is kept if and only if none of them
touches it. -/
theorem Redirected.part_eq_iff {Chosen : Nat → Prop} {code result : Bytes}
    (h : Redirected Chosen code result)
    (hsentinel : ∀ position, Chosen position →
      code.word32At position = CanonicalId.ofName "IsProfileBuild")
    {start size : Nat} (hsize : 0 < size) :
    (result.drop start).take size = (code.drop start).take size ↔
      ∀ position, Chosen position → position + 4 ≤ start ∨ start + size ≤ position := by
  constructor
  · intro hpart position hposition
    by_contra htouched
    rw [not_or, Nat.not_le, Nat.not_le] at htouched
    -- The first byte of the part that the intrinsic touches has changed.
    obtain ⟨index, hindex, place, hplace, hsame⟩ : ∃ index < 4, ∃ place < size,
        position + index = start + place := by
      rcases Nat.le_total position start with hle | hle
      · exact ⟨start - position, by omega, 0, hsize, by omega⟩
      · exact ⟨0, by omega, position - start, by omega, by omega⟩
    have hinside := h.inside position hposition
    have hbyte : ((result.drop start).take size)[place]? = ((code.drop start).take size)[place]? :=
      congrArg (·[place]?) hpart
    rw [List.getElem?_take_of_lt hplace, List.getElem?_take_of_lt hplace, List.getElem?_drop,
      List.getElem?_drop, ← hsame, Bytes.getElem?_word32At (h.length_eq ▸ hinside) hindex,
      Bytes.getElem?_word32At hinside hindex, h.word_eq position hposition,
      hsentinel position hposition] at hbyte
    exact getElem?_sentinel_ne_hostFunction hindex hbyte
  · intro huntouched
    apply List.ext_getElem?
    intro place
    rw [List.getElem?_take, List.getElem?_take]
    split
    · next hplace =>
      rw [List.getElem?_drop, List.getElem?_drop]
      apply h.kept
      intro position hposition
      have := huntouched position hposition
      omega
    · rfl

end Imports

namespace Script

/-- A buffer presents the name that is written at its place. -/
theorem nameOf?_eq_some_iff {buffer : Bytes} {key : Key} :
    nameOf? buffer = some key ↔ (buffer.drop 16).take 8 = Bytes.ofWord64 key.value := by
  unfold nameOf?
  constructor
  · intro h
    split at h
    · next hlength =>
      cases h
      exact (Bytes.ofWord64_word64At_eq_take hlength).symm
    · cases h
  · intro h
    have hlength := congrArg List.length h
    rw [List.length_take, List.length_drop, Bytes.length_ofWord64] at hlength
    have hword : buffer.word64At 16 = key.value := by
      apply Bytes.word64At_of_drop_eq ((buffer.drop 16).drop 8)
      rw [← h, List.take_append_drop]
    rw [if_pos (by unfold nameOffset; omega), nameOffset, hword]

theorem drop_rename (name : Key) {body : Bytes} (h : headerSize ≤ body.length) :
    (rename name body).drop 16 = Bytes.ofWord64 name.value ++ body.drop 24 := by
  have hheader : 96 ≤ body.length := h
  have hfront : (body.take 16).length = 16 := List.length_take_of_le (by omega)
  change (body.take 16 ++ Bytes.ofWord64 name.value ++ body.drop 24).drop 16 = _
  rw [List.append_assoc, List.drop_left' hfront]

/-- Renaming changes nothing behind the name. -/
theorem word32At_rename (name : Key) {body : Bytes} (h : headerSize ≤ body.length) {position : Nat}
    (hbehind : 24 ≤ position) :
    (rename name body).word32At position = body.word32At position := by
  have hdrop : (rename name body).drop 24 = body.drop 24 := by
    rw [← List.drop_drop (i := 8) (j := 16), drop_rename name h]
    rfl
  obtain ⟨place, rfl⟩ := Nat.exists_eq_add_of_le hbehind
  rw [← Bytes.word32At_drop, hdrop, Bytes.word32At_drop]

/-- A prepared script presents its name exactly if no intrinsic touches the name. -/
theorem nameOf?_redirectAll_rename (name : Key) {body : Bytes} (h : headerSize ≤ body.length) :
    nameOf? (Imports.redirectAll (rename name body)).bytes = some name ↔
      ∀ position, Imports.IntrinsicOf (rename name body) position →
        position + 4 ≤ 16 ∨ 24 ≤ position := by
  have hname : ((rename name body).drop 16).take 8 = Bytes.ofWord64 name.value := by
    rw [drop_rename name h]
    exact List.take_left' (Bytes.length_ofWord64 _)
  rw [nameOf?_eq_some_iff, ← hname]
  exact (Imports.redirected_redirectAll _).part_eq_iff
    (fun _ hintrinsic ↦ hintrinsic.2.2.sentinel) (by decide)

end Script

/-- A prepared script has the name that it was prepared for.  It presents this name to the game
exactly if no intrinsic of its table touches the name, and so it does if there is no table or if the
table starts behind the name. -/
theorem name_presented_iff_untouched {name : Key} {buffer body : Bytes} {hooks : List Key}
    {detours : List Detour} {script : Script}
    (hstrip : Block.strip buffer = .ok (body, detours))
    (hscript : (Script.prepare name buffer hooks).outcome = .ok script) :
    script.name = name ∧
    (Script.nameOf? script.code = some name ↔
      ∀ position,
        Imports.IntrinsicOf (body.take 16 ++ Bytes.ofWord64 name.value ++ body.drop 24) position →
          position + 4 ≤ 16 ∨ 24 ≤ position) ∧
    ((body.word32At 56).toInt32.toInt < 0 ∨ 24 ≤ (body.word32At 56).toInt32.toInt →
      Script.nameOf? script.code = some name) := by
  obtain ⟨hacceptable, rfl⟩ :=
    (Script.prepare_eq_ok_iff_of_strip hstrip name hooks script).mp hscript
  have hpresented := Script.nameOf?_redirectAll_rename name hacceptable.header
  refine ⟨rfl, hpresented, fun htable ↦ hpresented.mpr fun position hintrinsic ↦ ?_⟩
  have hle := hintrinsic.table_le
  have hstart := hintrinsic.1
  rw [Script.word32At_rename name hacceptable.header (by decide)] at hle hstart
  omega

/-- An intrinsic that is redirected behind the header leaves the name as it is. -/
theorem name_kept_beside_intrinsic :
    let name : Key := ⟨0xecb5a71c⟩
    let body (presented : UInt64) (function : UInt32) :=
      Bytes.ofWord64 Script.magic ++ List.replicate 8 0 ++ Bytes.ofWord64 presented ++
        List.replicate 16 0 ++ Bytes.ofWord16 1 ++ List.replicate 14 0 ++ Bytes.ofWord32 96 ++
        List.replicate 36 0 ++ Bytes.ofWord32 function ++ [0, 0, 0, 0, 0, 0, 1, 0]
    (Script.prepare name (body 5 Imports.sentinel) []).outcome =
        .ok ⟨name, body name.value Imports.hostFunction, [], []⟩ ∧
      Script.nameOf? (body name.value Imports.hostFunction) = some name := by
  intro name body
  have hstrip : Block.strip (body 5 Imports.sentinel) = .ok (body 5 Imports.sentinel, []) := by
    decide +kernel
  have hscript : (Script.prepare name (body 5 Imports.sentinel) []).outcome =
      .ok ⟨name, body name.value Imports.hostFunction, [], []⟩ := by
    decide +kernel
  have hpresented := (name_presented_iff_untouched hstrip hscript).2.2
  exact ⟨hscript, hpresented (by decide +kernel)⟩

/-- The table may start in the name, and then a name whose low word is the sentinel is lost. -/
theorem name_lost_to_own_table :
    let name : Key := ⟨0xecb5a71c⟩
    let body (presented : UInt64) :=
      Bytes.ofWord64 Script.magic ++ List.replicate 8 0 ++ Bytes.ofWord64 presented ++
        [0, 0, 1] ++ List.replicate 13 0 ++ Bytes.ofWord16 1 ++ List.replicate 14 0 ++
        Bytes.ofWord32 16 ++ List.replicate 36 0
    (Script.prepare name (body 0) []).outcome = .ok ⟨name, body 0x71718730, [], []⟩ ∧
      Script.nameOf? (body 0x71718730) ≠ some name := by
  decide +kernel

end AssetOverlay

import AssetOverlay.Script
import AssetOverlay.Proofs.Bytes.Words
import Mathlib.Data.List.Basic

/-!
# Prepared scripts

A script is prepared only if its header is there and every detour names code inside of what follows
the block.  Renaming and redirecting write over bytes without moving any, so a prepared script is as
long as what was checked, and its detours still name code inside of it.
-/

namespace AssetOverlay

namespace Bytes

theorem length_overwrite {bytes replacement : Bytes} {position : Nat}
    (h : position + replacement.length ≤ bytes.length) :
    (bytes.overwrite position replacement).length = bytes.length := by
  simp only [overwrite, List.length_append, List.length_take, List.length_drop]
  omega

end Bytes

namespace Key

theorem mem_insertSorted {key other : Key} {keys : List Key} :
    other ∈ insertSorted key keys ↔ other = key ∨ other ∈ keys := by
  induction keys with
  | nil => exact List.mem_cons
  | cons first rest ih =>
    rw [insertSorted]
    split
    · exact List.mem_cons
    · split
      · next hvalue =>
        have hfirst : key = first := congrArg Key.mk hvalue
        rw [hfirst, List.mem_cons, or_self_left]
      · rw [List.mem_cons, List.mem_cons, ih, or_left_comm]

/-- Sorting keys forgets only how often and in which order they were given. -/
theorem mem_sortedSet {key : Key} {keys : List Key} : key ∈ sortedSet keys ↔ key ∈ keys := by
  have hfold (set : List Key) :
      key ∈ keys.foldl (fun set key ↦ insertSorted key set) set ↔ key ∈ set ∨ key ∈ keys := by
    induction keys generalizing set with
    | nil => exact (or_iff_left List.not_mem_nil).symm
    | cons first rest ih =>
      rw [List.foldl_cons, ih, mem_insertSorted, List.mem_cons, or_comm (a := key = first),
        or_assoc]
  rw [sortedSet, hfold]
  exact or_iff_right List.not_mem_nil

end Key

namespace Imports

theorem length_redirect {record : Bytes} (h : record.length = recordSize) :
    (redirect record).length = recordSize := by
  unfold redirect
  split
  · rw [List.length_append, List.length_drop, h]
    rfl
  · exact h

/-- Walking the import table moves no byte. -/
theorem length_walk (index remaining position : Nat) (bytes : Bytes) :
    (walk index remaining position bytes).bytes.length = bytes.length := by
  induction remaining generalizing index position bytes with
  | zero => rfl
  | succ remaining ih =>
    rw [walk]
    split
    · rfl
    · next record rest hsplit =>
      obtain ⟨hrecord, rfl⟩ := Bytes.splitExactly?_eq_some_iff.mp hsplit
      have hslots : (rest.take (slotsSize record)).length +
          (rest.drop (slotsSize record)).length = rest.length := by
        rw [← List.length_append, List.take_append_drop]
      calc
        _ = (redirect record).length + ((rest.take (slotsSize record)).length +
            (rest.drop (slotsSize record)).length) := by
          simp only [List.length_append, ih]
        _ = (record ++ rest).length := by
          rw [length_redirect hrecord, hslots, List.length_append, hrecord]

theorem length_redirectAll (code : Bytes) : (redirectAll code).bytes.length = code.length := by
  unfold redirectAll
  split
  · rfl
  · rw [List.length_append, length_walk, ← List.length_append, List.take_append_drop]

end Imports

namespace Detour

/-- The code of a detour that names bytes inside of a script. -/
theorem code?_of_le {detour : Detour} {script : Bytes} (h : detour.codeStop ≤ script.length) :
    detour.code? script = some (script.extract detour.codeStart detour.codeStop) := by
  have hsize : detour.codeStop - detour.codeStart = detour.codeSize.toNat :=
    Nat.add_sub_cancel_left ..
  rw [code?, if_pos h, List.extract_eq_take_drop, hsize]

theorem length_extract_of_le {detour : Detour} {script : Bytes}
    (h : detour.codeStop ≤ script.length) :
    (script.extract detour.codeStart detour.codeStop).length = detour.codeSize.toNat := by
  rw [List.extract_eq_take_drop, List.length_take, List.length_drop]
  unfold codeStop codeStart at *
  omega

end Detour

/-- Taking the block off gives what reading it gives; where none is announced, nothing is taken. -/
theorem Block.strip_eq_ok_iff {buffer body : Bytes} {detours : List Detour} :
    strip buffer = .ok (body, detours) ↔ ∃ size, (read buffer).outcome = .ok size ∧
      body = buffer.drop size ∧ detours = (read buffer).detours := by
  by_cases hannounced : announced buffer
  · simp only [strip, decode, if_pos hannounced]
    cases (read buffer).outcome with
    | error failure => simp
    | ok size => simp [eq_comm]
  · simp [strip, decode, read, hannounced, eq_comm]

namespace Script

/-- What is checked before a script is prepared. -/
theorem check_eq_ok_iff {body : Bytes} {detours : List Detour} :
    check body detours = .ok () ↔ headerSize ≤ body.length ∧ body.word64At 0 = magic ∧
      ∀ detour ∈ detours, detour.codeStop ≤ body.length := by
  have hinside : (detours.find? fun detour ↦ decide (body.length < detour.codeStop)) = none ↔
      ∀ detour ∈ detours, detour.codeStop ≤ body.length := by
    simp only [List.find?_eq_none, decide_eq_true_eq, Nat.not_lt]
  rw [← hinside, ← and_assoc, check]
  by_cases hheader : headerSize ≤ body.length ∧ body.word64At 0 = magic
  · rw [if_pos hheader]
    split
    · next hsome => simp only [hsome, reduceCtorEq, and_false]
    · next hnone => simp only [hnone, hheader, and_self]
  · rw [if_neg hheader]
    simp only [reduceCtorEq, hheader, false_and]

theorem length_rename (name : Key) {body : Bytes} (h : headerSize ≤ body.length) :
    (rename name body).length = body.length := by
  apply Bytes.length_overwrite
  calc
    nameOffset + (Bytes.ofWord64 name.value).length ≤ headerSize := by
      rw [Bytes.length_ofWord64]
      decide
    _ ≤ body.length := h

/-- A script is prepared if and only if it comes from a block and a body that pass the checks. -/
theorem prepare_eq_ok_iff {name : Key} {buffer : Bytes} {hooks : List Key} {script : Script} :
    (prepare name buffer hooks).outcome = .ok script ↔
      ∃ size, (Block.read buffer).outcome = .ok size ∧
        check (buffer.drop size) (Block.read buffer).detours = .ok () ∧
        script = ⟨name, (Imports.redirectAll (rename name (buffer.drop size))).bytes,
          Key.sortedSet hooks, (Block.read buffer).detours⟩ := by
  unfold prepare
  dsimp only
  constructor
  · intro h
    split at h
    · cases h
    · next size hsize =>
      split at h
      · cases h
      · next hcheck =>
        cases h
        exact ⟨size, hsize, hcheck, rfl⟩
  · rintro ⟨size, hsize, hcheck, rfl⟩
    rw [hsize]
    dsimp only
    rw [hcheck]

theorem name_prepare {name : Key} {buffer : Bytes} {hooks : List Key} {script : Script}
    (h : (prepare name buffer hooks).outcome = .ok script) : script.name = name := by
  obtain ⟨size, -, -, rfl⟩ := prepare_eq_ok_iff.mp h
  rfl

/-- A prepared script has a header. -/
theorem headerSize_le_of_prepare {name : Key} {buffer : Bytes} {hooks : List Key} {script : Script}
    (h : (prepare name buffer hooks).outcome = .ok script) : headerSize ≤ script.code.length := by
  obtain ⟨size, -, hcheck, rfl⟩ := prepare_eq_ok_iff.mp h
  have hheader := (check_eq_ok_iff.mp hcheck).1
  rw [Imports.length_redirectAll, length_rename name hheader]
  exact hheader

/-- Every detour of a prepared script names code inside of it. -/
theorem codeStop_le_of_prepare {name : Key} {buffer : Bytes} {hooks : List Key} {script : Script}
    (h : (prepare name buffer hooks).outcome = .ok script) :
    ∀ detour ∈ script.detours, detour.codeStop ≤ script.code.length := by
  obtain ⟨size, -, hcheck, rfl⟩ := prepare_eq_ok_iff.mp h
  obtain ⟨hheader, -, hinside⟩ := check_eq_ok_iff.mp hcheck
  intro detour hdetour
  rw [Imports.length_redirectAll, length_rename name hheader]
  exact hinside detour hdetour

/-- Every detour is resolved, in its place, to all of the bytes that it names. -/
structure DetoursResolved (script : Script) : Prop where
  resolved_eq : script.resolvedDetours =
    script.detours.map fun detour ↦
      (detour, script.code.extract detour.codeStart detour.codeStop)
  length_eq : ∀ detour ∈ script.detours,
    (script.code.extract detour.codeStart detour.codeStop).length = detour.codeSize.toNat

theorem detoursResolved_of_prepare {name : Key} {buffer : Bytes} {hooks : List Key}
    {script : Script} (h : (prepare name buffer hooks).outcome = .ok script) :
    script.DetoursResolved where
  resolved_eq := by
    have hinside := codeStop_le_of_prepare h
    rw [← List.filterMap_eq_map]
    apply List.filterMap_congr
    intro detour hdetour
    rw [Detour.code?_of_le (hinside detour hdetour)]
    rfl
  length_eq detour hdetour := Detour.length_extract_of_le (codeStop_le_of_prepare h detour hdetour)

/-- A detour without code at the very end of a script is resolved. -/
example :
    let detour : Detour := ⟨0, 0, 0, 96, 0, ⟨0⟩⟩
    let body := Bytes.ofWord64 magic ++ List.replicate 88 0
    (prepare ⟨1⟩ (Block.encode [detour] ++ body) []).outcome.toOption.map resolvedDetours =
      some [(detour, [])] := by
  decide +kernel

/-- The end of a range near the limit of its words does not wrap around. -/
example :
    let detour : Detour := ⟨0, 0, 0, 0xffffffff, 1, ⟨0⟩⟩
    let body := Bytes.ofWord64 magic ++ List.replicate 88 0
    (prepare ⟨1⟩ (Block.encode [detour] ++ body) []).outcome =
      .error (.detourOutside detour 96) := by
  decide +kernel

end Script

end AssetOverlay

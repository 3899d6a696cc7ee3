import AssetOverlay.Proofs.Script.Preparation
import Mathlib.Logic.Function.Iterate
import Mathlib.Tactic.MkIffOfInductiveProp

/-!
# What preparing a script changes

The import table is walked and changed in one go, at positions that the script itself gives.  A
record is followed by the next one at least twelve bytes later, so a record that is redirected never
changes what a later one reads, and a record past the end is followed by none inside of the script.
So the walk has the effect of finding all intrinsics in the script as it was, and then of redirecting
each of them; no other byte changes, wherever the table lies.
-/

namespace AssetOverlay

namespace Imports

/-! ## The records of a table -/

/-- Where the record after the one at a position starts. -/
def following (code : Bytes) (position : Nat) : Nat :=
  position + 12 + 4 * (code.word16At (position + 8)).toNat

/-- A call of the sentinel with arguments, all of whose bytes are inside of the script. -/
@[mk_iff]
structure IntrinsicAt (code : Bytes) (position : Nat) : Prop where
  inside : position + 12 ≤ code.length
  sentinel : code.word32At position = CanonicalId.ofName "IsProfileBuild"
  arguments : code.byteAt (position + 10) ≠ 0

/-- One of the intrinsics of a table of so many records that starts at the given position. -/
def IntrinsicIn (code : Bytes) (start count position : Nat) : Prop :=
  (∃ index < count, (following code)^[index] start = position) ∧ IntrinsicAt code position

/-- One of the intrinsics of the table to which the header of a script points. -/
def IntrinsicOf (code : Bytes) (position : Nat) : Prop :=
  0 ≤ (code.word32At 56).toInt32.toInt ∧
    IntrinsicIn code (code.word32At 56).toInt32.toInt.toNat (code.word16At 40).toNat position

theorem following_add (code : Bytes) (skipped position : Nat) :
    following code (skipped + position) = skipped + following (code.drop skipped) position := by
  unfold following
  rw [Bytes.word16At_drop, Nat.add_assoc skipped position 8]
  omega

/-- Only the bytes from its start on matter for where the records of a table are. -/
theorem iterate_following (code : Bytes) (start index : Nat) :
    (following code)^[index] start = start + (following (code.drop start))^[index] 0 :=
  (Function.Semiconj.iterate_right
    (fun position ↦ (following_add code start position).symm) index 0).symm

theorem intrinsicAt_add (code : Bytes) (skipped position : Nat) :
    IntrinsicAt code (skipped + position) ↔ IntrinsicAt (code.drop skipped) position := by
  have hinside : skipped + (position + 12) ≤ code.length ↔
      position + 12 ≤ code.length - skipped := by omega
  simp only [intrinsicAt_iff, Bytes.word32At_drop, Bytes.byteAt_drop, List.length_drop,
    Nat.add_assoc, hinside]

/-- The intrinsics of a table are those of the bytes from its start on. -/
theorem intrinsicIn_iff (code : Bytes) (start count position : Nat) :
    IntrinsicIn code start count position ↔
      ∃ later, IntrinsicIn (code.drop start) 0 count later ∧ position = start + later := by
  constructor
  · rintro ⟨⟨index, hindex, rfl⟩, hintrinsic⟩
    rw [iterate_following] at hintrinsic ⊢
    exact ⟨_, ⟨⟨index, hindex, rfl⟩, (intrinsicAt_add code start _).mp hintrinsic⟩, rfl⟩
  · rintro ⟨later, ⟨⟨index, hindex, rfl⟩, hintrinsic⟩, rfl⟩
    exact ⟨⟨index, hindex, iterate_following code start index⟩,
      (intrinsicAt_add code start _).mpr hintrinsic⟩

/-- An intrinsic of a table is its first record, or one of the table without it. -/
theorem intrinsicIn_succ (code : Bytes) (start count position : Nat) :
    IntrinsicIn code start (count + 1) position ↔
      position = start ∧ IntrinsicAt code start ∨
        IntrinsicIn code (following code start) count position := by
  constructor
  · rintro ⟨⟨index, hindex, rfl⟩, hintrinsic⟩
    cases index with
    | zero => exact .inl ⟨rfl, hintrinsic⟩
    | succ index => exact .inr ⟨⟨index, Nat.lt_of_succ_lt_succ hindex, rfl⟩, hintrinsic⟩
  · rintro (⟨rfl, hintrinsic⟩ | ⟨⟨index, hindex, rfl⟩, hintrinsic⟩)
    · exact ⟨⟨0, Nat.succ_pos count, rfl⟩, hintrinsic⟩
    · exact ⟨⟨index + 1, Nat.succ_lt_succ hindex, rfl⟩, hintrinsic⟩

/-- A record that can be split off is an intrinsic if the bytes that it starts make one. -/
theorem intrinsicAt_append_iff {record : Bytes} (rest : Bytes)
    (hrecord : record.length = recordSize) :
    IntrinsicAt (record ++ rest) 0 ↔ isIntrinsic record := by
  have hlength : record.length = 12 := hrecord
  rw [intrinsicAt_iff, Bytes.word32At_append_left rest (by omega),
    Bytes.byteAt_append_left rest (by omega), List.length_append]
  simp only [isIntrinsic, sentinel, Nat.zero_add, Bool.and_eq_true, beq_iff_eq, bne_iff_ne]
  exact and_iff_right (by omega)

theorem following_append {record : Bytes} (rest : Bytes) (hrecord : record.length = recordSize) :
    following (record ++ rest) 0 = recordSize + slotsSize record := by
  have hlength : record.length = 12 := hrecord
  rw [following, Bytes.word16At_append_left rest (by omega), Nat.zero_add]
  rfl

/-! ## Redirecting some words -/

/-- A byte string made from another one by writing the host's function over the words at some
positions. -/
structure Redirected (Chosen : Nat → Prop) (code result : Bytes) : Prop where
  length_eq : result.length = code.length
  inside : ∀ position, Chosen position → position + 4 ≤ code.length
  word_eq : ∀ position, Chosen position →
    result.word32At position = CanonicalId.ofName "SeriousCustom"
  kept : ∀ place, (∀ position, Chosen position → place < position ∨ position + 4 ≤ place) →
    result[place]? = code[place]?

namespace Redirected

theorem congr {Chosen Chosen' : Nat → Prop} {code result : Bytes}
    (hiff : ∀ position, Chosen' position ↔ Chosen position)
    (h : Redirected Chosen code result) : Redirected Chosen' code result := by
  rwa [funext fun position ↦ propext (hiff position)]

/-- Nothing to redirect, nothing changed. -/
theorem unchanged {Chosen : Nat → Prop} (code : Bytes) (h : ∀ position, ¬ Chosen position) :
    Redirected Chosen code code where
  length_eq := rfl
  inside position hposition := absurd hposition (h position)
  word_eq position hposition := absurd hposition (h position)
  kept _ _ := rfl

/-- Two parts of a byte string are changed apart from each other. -/
theorem append {Chosen Chosen' : Nat → Prop} {front front' rest rest' : Bytes}
    (hfront : Redirected Chosen front front') (hrest : Redirected Chosen' rest rest') :
    Redirected
      (fun position ↦ Chosen position ∨ ∃ later, Chosen' later ∧ position = front.length + later)
      (front ++ rest) (front' ++ rest') where
  length_eq := by
    rw [List.length_append, List.length_append, hfront.length_eq, hrest.length_eq]
  inside := by
    rintro position (hposition | ⟨later, hlater, rfl⟩)
    · have := hfront.inside position hposition
      rw [List.length_append]
      omega
    · have := hrest.inside later hlater
      rw [List.length_append]
      omega
  word_eq := by
    rintro position (hposition | ⟨later, hlater, rfl⟩)
    · have hinside := hfront.inside position hposition
      rw [Bytes.word32At_append_left rest' (hfront.length_eq ▸ hinside)]
      exact hfront.word_eq position hposition
    · rw [← hfront.length_eq, ← Bytes.word32At_drop, List.drop_left]
      exact hrest.word_eq later hlater
  kept := by
    intro place hplace
    rw [List.getElem?_append, List.getElem?_append, hfront.length_eq]
    split
    · exact hfront.kept place fun position hposition ↦ hplace position (.inl hposition)
    · next hbehind =>
      apply hrest.kept
      intro later hlater
      have := hplace _ (.inr ⟨later, hlater, rfl⟩)
      omega

/-- A byte string is changed from some place on. -/
theorem after {Chosen : Nat → Prop} {code result : Bytes} (skipped : Nat)
    (h : Redirected Chosen (code.drop skipped) result) :
    Redirected (fun position ↦ ∃ later, Chosen later ∧ position = skipped + later) code
      (code.take skipped ++ result) := by
  rcases Nat.le_total skipped code.length with hle | hle
  · have hlength : (code.take skipped).length = skipped := List.length_take_of_le hle
    have hboth := append (@unchanged (fun _ ↦ False) (code.take skipped) fun _ ↦ id) h
    rw [hlength, List.take_append_drop] at hboth
    apply hboth.congr
    intro position
    rw [false_or]
  · rw [List.drop_eq_nil_of_le hle] at h
    have hnil : result = [] := List.eq_nil_of_length_eq_zero h.length_eq
    rw [hnil, List.take_of_length_le hle, List.append_nil]
    apply unchanged
    rintro position ⟨later, hlater, -⟩
    exact absurd (h.inside later hlater) (by simp)

end Redirected

/-! ## The walk -/

theorem redirected_redirect {record : Bytes} (hrecord : record.length = recordSize) :
    Redirected (fun position ↦ position = 0 ∧ isIntrinsic record) record (redirect record) where
  length_eq := (length_redirect hrecord).trans hrecord.symm
  inside := by
    rintro position ⟨rfl, -⟩
    rw [hrecord]
    decide
  word_eq := by
    rintro position ⟨rfl, hintrinsic⟩
    rw [redirect, if_pos hintrinsic]
    exact Bytes.word32At_ofWord32 _ _
  kept := by
    intro place hplace
    unfold redirect
    split
    · next hintrinsic =>
      have hbehind : 4 ≤ place := by
        have := hplace 0 ⟨rfl, hintrinsic⟩
        omega
      rw [List.getElem?_append_right hbehind, Bytes.length_ofWord32, List.getElem?_drop,
        Nat.add_sub_cancel' hbehind]
    · rfl

/-- The walk redirects the intrinsics of the bytes that it starts with, no matter that it has changed
some of them when it gets to the others. -/
theorem redirected_walk (index remaining position : Nat) (bytes : Bytes) :
    Redirected (IntrinsicIn bytes 0 remaining) bytes
      (walk index remaining position bytes).bytes := by
  induction remaining generalizing index position bytes with
  | zero =>
    apply Redirected.unchanged
    rintro _ ⟨⟨_, hindex, -⟩, -⟩
    exact absurd hindex (Nat.not_lt_zero _)
  | succ remaining ih =>
    rw [walk]
    split
    · next hsplit =>
      -- Too few bytes are left for this record, so there are for none after it.
      apply Redirected.unchanged
      rintro _ ⟨-, hintrinsic⟩
      have := hintrinsic.inside
      have := Bytes.splitExactly?_eq_none_iff.mp hsplit
      simp only [recordSize] at this
      omega
    · next record rest hsplit =>
      obtain ⟨hrecord, rfl⟩ := Bytes.splitExactly?_eq_some_iff.mp hsplit
      have hrest : (record ++ rest).drop (recordSize + slotsSize record) =
          rest.drop (slotsSize record) := by
        rw [← List.drop_drop, ← hrecord, List.drop_left]
      have hlater := (ih (index + 1) (position + recordSize + slotsSize record)
        (rest.drop (slotsSize record))).after
      apply ((redirected_redirect hrecord).append hlater).congr
      intro place
      rw [intrinsicIn_succ, intrinsicAt_append_iff rest hrecord, following_append rest hrecord,
        intrinsicIn_iff, hrest, hrecord]
      apply or_congr_right
      constructor
      · rintro ⟨later, hin, rfl⟩
        exact ⟨_, ⟨later, hin, rfl⟩, Nat.add_assoc ..⟩
      · rintro ⟨_, ⟨later, hin, rfl⟩, rfl⟩
        exact ⟨later, hin, (Nat.add_assoc ..).symm⟩

/-- Redirecting has the effect of finding all intrinsics of the header's table first. -/
theorem redirected_redirectAll (code : Bytes) :
    Redirected (IntrinsicOf code) code (redirectAll code).bytes := by
  unfold redirectAll
  split
  · next hnegative =>
    apply Redirected.unchanged
    rintro position ⟨htable, -⟩
    exact absurd hnegative (Int.not_lt.mpr htable)
  · next htable =>
    have hwalk := redirected_walk 0 (count code) (table code).toNat
      (code.drop (table code).toNat)
    apply hwalk.after.congr
    intro position
    rw [← intrinsicIn_iff]
    exact and_iff_right (Int.not_lt.mp htable)

/-- A table may lie inside of the header. -/
example :
    let header := Bytes.ofWord64 0 ++ List.replicate 32 0 ++ Bytes.ofWord16 1 ++
      List.replicate 14 0 ++ Bytes.ofWord32 84 ++ List.replicate 24 0
    let stored (function : UInt32) := Bytes.ofWord32 function ++ [0, 0, 0, 0, 0, 0, 1, 0]
    (redirectAll (header ++ stored sentinel)).bytes = header ++ stored hostFunction := by
  decide +kernel

end Imports

/-! ## Preparing -/

namespace Script

/-- What a block may leave, and the detours that may be in it: there is a header, and every detour
ends inside, where its end is no word and doesn't wrap around. -/
structure Acceptable (body : Bytes) (detours : List Detour) : Prop where
  header : 96 ≤ body.length
  magic : body.word64At 0 = 0x36000a0d43534780
  inside : ∀ detour ∈ detours, detour.codeOffset.toNat + detour.codeSize.toNat ≤ body.length

/-- What a prepared script holds, given what its block leaves and the detours in it: the renamed
body, in which exactly the intrinsics of its own table are redirected. -/
structure PreparedFrom (name : Key) (hooks : List Key) (body : Bytes) (detours : List Detour)
    (script : Script) : Prop where
  name_eq : script.name = name
  mem_hooks_iff : ∀ key, key ∈ script.hooks ↔ key ∈ hooks
  detours_eq : script.detours = detours
  length_eq : script.code.length = body.length
  redirected :
    let renamed := body.take 16 ++ Bytes.ofWord64 name.value ++ body.drop 24
    Imports.Redirected (Imports.IntrinsicOf renamed) renamed script.code

theorem check_eq_ok_iff_acceptable {body : Bytes} {detours : List Detour} :
    check body detours = .ok () ↔ Acceptable body detours := by
  rw [check_eq_ok_iff]
  exact ⟨fun ⟨hheader, hmagic, hinside⟩ ↦ ⟨hheader, hmagic, hinside⟩,
    fun h ↦ ⟨h.header, h.magic, h.inside⟩⟩

/-- A script is prepared exactly from what a block leaves, if it is acceptable. -/
theorem prepare_eq_ok_iff_acceptable {name : Key} {buffer : Bytes} {hooks : List Key}
    {script : Script} :
    (prepare name buffer hooks).outcome = .ok script ↔
      ∃ body detours, Block.strip buffer = .ok (body, detours) ∧ Acceptable body detours ∧
        script = ⟨name, (Imports.redirectAll (rename name body)).bytes, Key.sortedSet hooks,
          detours⟩ := by
  rw [prepare_eq_ok_iff]
  constructor
  · rintro ⟨size, hsize, hcheck, hscript⟩
    have hstrip := Block.strip_eq_ok_iff.mpr ⟨size, hsize, rfl, rfl⟩
    exact ⟨_, _, hstrip, check_eq_ok_iff_acceptable.mp hcheck, hscript⟩
  · rintro ⟨body, detours, hstrip, hacceptable, hscript⟩
    obtain ⟨size, hsize, rfl, rfl⟩ := Block.strip_eq_ok_iff.mp hstrip
    exact ⟨size, hsize, check_eq_ok_iff_acceptable.mpr hacceptable, hscript⟩

/-- Only what a block leaves and the detours in it matter for a script. -/
theorem prepare_eq_ok_iff_of_strip {buffer body : Bytes} {detours : List Detour}
    (hstrip : Block.strip buffer = .ok (body, detours)) (name : Key) (hooks : List Key)
    (script : Script) :
    (prepare name buffer hooks).outcome = .ok script ↔
      Acceptable body detours ∧
        script = ⟨name, (Imports.redirectAll (rename name body)).bytes, Key.sortedSet hooks,
          detours⟩ := by
  rw [prepare_eq_ok_iff_acceptable]
  constructor
  · rintro ⟨other, found, hother, hprepared⟩
    rw [hstrip] at hother
    cases hother
    exact hprepared
  · exact fun hprepared ↦ ⟨body, detours, hstrip, hprepared⟩

theorem preparedFrom_of_acceptable (name : Key) (hooks : List Key) {body : Bytes}
    {detours : List Detour} (h : Acceptable body detours) :
    PreparedFrom name hooks body detours
      ⟨name, (Imports.redirectAll (rename name body)).bytes, Key.sortedSet hooks, detours⟩ where
  name_eq := rfl
  mem_hooks_iff _ := Key.mem_sortedSet
  detours_eq := rfl
  length_eq := (Imports.length_redirectAll _).trans (length_rename name h.header)
  redirected := Imports.redirected_redirectAll (rename name body)

end Script

/-- Preparing a script succeeds exactly for what a block leaves that is acceptable, and then does no
more than to rename it and to redirect its intrinsics. -/
theorem script_prepared_exactly (name : Key) (buffer : Bytes) (hooks : List Key) :
    ((∃ script, (Script.prepare name buffer hooks).outcome = .ok script) ↔
      ∃ body detours, Block.strip buffer = .ok (body, detours) ∧
        Script.Acceptable body detours) ∧
    ∀ script, (Script.prepare name buffer hooks).outcome = .ok script →
      ∃ body detours, Block.strip buffer = .ok (body, detours) ∧
        Script.PreparedFrom name hooks body detours script := by
  constructor
  · constructor
    · intro ⟨script, hscript⟩
      obtain ⟨body, detours, hstrip, hacceptable, -⟩ :=
        Script.prepare_eq_ok_iff_acceptable.mp hscript
      exact ⟨body, detours, hstrip, hacceptable⟩
    · intro ⟨body, detours, hstrip, hacceptable⟩
      exact ⟨_, Script.prepare_eq_ok_iff_acceptable.mpr ⟨body, detours, hstrip, hacceptable, rfl⟩⟩
  · intro script hscript
    obtain ⟨body, detours, hstrip, hacceptable, rfl⟩ :=
      Script.prepare_eq_ok_iff_acceptable.mp hscript
    exact ⟨body, detours, hstrip, Script.preparedFrom_of_acceptable name hooks hacceptable⟩

end AssetOverlay

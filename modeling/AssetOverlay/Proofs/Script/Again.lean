import AssetOverlay.Proofs.Script.Behind
import AssetOverlay.Proofs.Script.Naming

/-!
# Preparing a prepared script again

A prepared script is a script without a block, so it can be prepared again, under any name.  What
keeps it a script is its magic number: none of the eight bytes is the first byte of the sentinel, so
no record that starts among them is an intrinsic, wherever the table lies.

No intrinsic touches the offset of the table either.  It would make an offset that is negative or
lies behind the intrinsic itself, and then the walk does not get to it.  The import count and the
name have no such protection, so it takes a table behind the header for a second walk to meet the
records that the first one met.  It finds none of them left to redirect.
-/

namespace AssetOverlay

namespace Imports

/-! ## Walking twice -/

theorem isIntrinsic_redirect (record : Bytes) : isIntrinsic (redirect record) = false := by
  unfold redirect
  split
  · have hfunction : hostFunction ≠ sentinel := by decide +kernel
    rw [isIntrinsic, Bytes.word32At_ofWord32, beq_eq_false_iff_ne.mpr hfunction, Bool.false_and]
  · next hother => exact Bool.eq_false_iff.mpr hother

theorem redirect_redirect (record : Bytes) : redirect (redirect record) = redirect record := by
  rw [redirect, isIntrinsic_redirect, if_neg Bool.false_ne_true]

theorem slotsSize_redirect (record : Bytes) : slotsSize (redirect record) = slotsSize record := by
  unfold redirect
  split
  · have hdrop : (Bytes.ofWord32 hostFunction ++ record.drop 4).drop 4 = record.drop 4 :=
      List.drop_left' (Bytes.length_ofWord32 _)
    have hword : (Bytes.ofWord32 hostFunction ++ record.drop 4).word16At (4 + 4) =
        record.word16At (4 + 4) := by
      rw [← Bytes.word16At_drop, hdrop, Bytes.word16At_drop]
    exact congrArg (4 * UInt16.toNat ·) hword
  · rfl

/-- A second walk goes over the same records, and none of them is left to redirect. -/
theorem walk_walk (index remaining position : Nat) (bytes : Bytes) :
    walk index remaining position (walk index remaining position bytes).bytes =
      { walk index remaining position bytes with redirected := 0 } := by
  induction remaining generalizing index position bytes with
  | zero => rfl
  | succ remaining ih =>
    cases hsplit : bytes.splitExactly? recordSize with
    | none => simp only [walk, hsplit]
    | some parts =>
      obtain ⟨record, rest⟩ := parts
      obtain ⟨hrecord, -⟩ := Bytes.splitExactly?_eq_some_iff.mp hsplit
      let slots := slotsSize record
      let later := walk (index + 1) remaining (position + recordSize + slots) (rest.drop slots)
      have hwalk : walk index (remaining + 1) position bytes =
          ⟨redirect record ++ (rest.take slots ++ later.bytes),
            later.redirected + (if isIntrinsic record then 1 else 0), later.overrun⟩ := by
        simp only [walk, hsplit, slots, later]
      have hagain : (redirect record ++ (rest.take slots ++ later.bytes)).splitExactly? recordSize =
          some (redirect record, rest.take slots ++ later.bytes) :=
        Bytes.splitExactly?_eq_some_iff.mpr ⟨length_redirect hrecord, rfl⟩
      have hbehind : later.bytes.length = (rest.drop slots).length := length_walk _ _ _ _
      rw [hwalk]
      dsimp only
      rw [walk, hagain]
      dsimp only
      rw [slotsSize_redirect, Bytes.take_take_append hbehind,
        Bytes.drop_take_append hbehind, isIntrinsic_redirect, redirect_redirect, ih]
      rfl

/-- Redirecting twice is redirecting once, if the header still leads to the same table. -/
theorem redirectAll_redirectAll {code : Bytes}
    (hcount : count (redirectAll code).bytes = count code)
    (htable : table (redirectAll code).bytes = table code) :
    redirectAll (redirectAll code).bytes = { redirectAll code with redirected := 0 } := by
  by_cases hnegative : table code < 0
  · simp only [redirectAll, if_pos hnegative]
  · let start := (table code).toNat
    let walked := walk 0 (count code) start (code.drop start)
    have hwalk : redirectAll code = { walked with bytes := code.take start ++ walked.bytes } := by
      simp only [redirectAll, if_neg hnegative, walked, start]
    have hbehind : walked.bytes.length = (code.drop start).length := length_walk _ _ _ _
    rw [redirectAll, htable, hcount, if_neg hnegative, hwalk]
    dsimp only
    rw [Bytes.take_take_append hbehind, Bytes.drop_take_append hbehind, walk_walk]

/-- Where redirecting changes nothing, there is no intrinsic. -/
theorem not_intrinsicOf_of_redirectAll {code : Bytes} (h : (redirectAll code).bytes = code)
    (position : Nat) : ¬ IntrinsicOf code position := by
  intro hintrinsic
  have hfunction : CanonicalId.ofName "SeriousCustom" ≠ CanonicalId.ofName "IsProfileBuild" := by
    decide +kernel
  have hword := (redirected_redirectAll code).word_eq position hintrinsic
  rw [h, hintrinsic.2.2.sentinel] at hword
  exact hfunction hword.symm

/-! ## Where no intrinsic can be -/

/-- None of the bytes of the magic number is the first byte of the sentinel. -/
theorem IntrinsicAt.behind_magic {code : Bytes} {position : Nat} (h : IntrinsicAt code position)
    (hmagic : code.word64At 0 = Script.magic) : 8 ≤ position := by
  have hbytes : ∀ place < 8, (Bytes.ofWord64 Script.magic)[place]? ≠
      (Bytes.ofWord32 (CanonicalId.ofName "IsProfileBuild"))[0]? := by
    decide +kernel
  by_contra hplace
  rw [Nat.not_le] at hplace
  have hinside := h.inside
  have hbyte : code[position + 0]? = (Bytes.ofWord32 (code.word32At position))[0]? :=
    Bytes.getElem?_word32At (by omega) (by decide)
  have hfront : code[position]? = (Bytes.ofWord64 (code.word64At 0))[position]? := by
    rw [Bytes.ofWord64_word64At_eq_take (by omega), List.getElem?_take_of_lt hplace, List.drop_zero]
  rw [Nat.add_zero, hfront, hmagic, h.sentinel] at hbyte
  exact hbytes position hplace hbyte

/-- The offset of the table is never touched.  Together with an intrinsic that touches it, it would
have to be so small that three of its bytes are zero, and the sentinel has no zero byte. -/
theorem IntrinsicOf.beside_table {code : Bytes} {position : Nat} (h : IntrinsicOf code position) :
    position + 4 ≤ 56 ∨ 60 ≤ position := by
  by_contra hbeside
  rw [not_or, Nat.not_le, Nat.not_le] at hbeside
  obtain ⟨hafter, hbefore⟩ := hbeside
  have hoffset : (code.word32At 56).toNat ≤ position := by
    have htable := h.table_le
    rw [Bytes.toInt_toInt32_of_nonneg h.1] at htable
    omega
  have hsentinel : (code.word32At position).toNat = 0xecb5a71c := by
    rw [h.2.2.sentinel]
    decide +kernel
  rw [Bytes.toNat_word32At] at hoffset hsentinel
  have hbyte (place : Nat) := (code.byteAt place).toNat_lt
  have hbyte0 := hbyte position
  have hbyte1 := hbyte (position + 1)
  have hbyte2 := hbyte (position + 2)
  have hbyte3 := hbyte (position + 3)
  have hplaces : position = 53 ∨ position = 54 ∨ position = 55 ∨ position = 56 ∨
      position = 57 ∨ position = 58 ∨ position = 59 := by omega
  rcases hplaces with rfl | rfl | rfl | rfl | rfl | rfl | rfl
  all_goals
    simp only [Nat.reduceAdd] at *
    omega

/-- Every intrinsic is behind a place if the table is. -/
theorem IntrinsicOf.behind {code : Bytes} {place position : Nat}
    (h : IntrinsicOf code position) (htable : table code < 0 ∨ place ≤ table code) :
    place ≤ position := by
  have hstart : 0 ≤ table code := h.1
  have hle : table code ≤ position := h.table_le
  omega

/-- A part of a script that no intrinsic touches is not changed. -/
theorem part_redirectAll {code : Bytes} (start : Nat) {size : Nat} (hsize : 0 < size)
    (h : ∀ position, IntrinsicOf code position → position + 4 ≤ start ∨ start + size ≤ position) :
    ((redirectAll code).bytes.drop start).take size = (code.drop start).take size :=
  ((redirected_redirectAll code).part_eq_iff (fun _ hintrinsic ↦ hintrinsic.2.2.sentinel)
    hsize).mpr h

theorem table_redirectAll (code : Bytes) : table (redirectAll code).bytes = table code := by
  have hpart : ((redirectAll code).bytes.drop 56).take 4 = (code.drop 56).take 4 :=
    part_redirectAll 56 (by decide) fun _ hintrinsic ↦ hintrinsic.beside_table
  exact congrArg (fun word : UInt32 ↦ word.toInt32.toInt)
    (Bytes.word32At_of_part hpart 0 (by decide))

end Imports

namespace Script

/-! ## What is kept -/

theorem take_rename (name : Key) {body : Bytes} (h : headerSize ≤ body.length) :
    (rename name body).take 16 = body.take 16 := by
  have hheader : 96 ≤ body.length := h
  have hfront : (body.take 16).length = 16 := List.length_take_of_le (by omega)
  change (body.take 16 ++ Bytes.ofWord64 name.value ++ body.drop 24).take 16 = _
  rw [List.append_assoc, List.take_left' hfront]

theorem word64At_rename (name : Key) {body : Bytes} (h : headerSize ≤ body.length) :
    (rename name body).word64At 0 = body.word64At 0 := by
  have hfront : ((rename name body).drop 0).take 16 = (body.drop 0).take 16 := by
    rw [List.drop_zero, List.drop_zero, take_rename name h]
  exact Bytes.word64At_of_part hfront 0 (by decide)

/-- Writing the name that is there changes nothing. -/
theorem rename_eq_self {name : Key} {body : Bytes} (h : nameOf? body = some name) :
    rename name body = body := by
  rw [nameOf?_eq_some_iff] at h
  change body.take 16 ++ Bytes.ofWord64 name.value ++ body.drop 24 = body
  rw [← h, List.append_assoc, ← List.drop_drop (i := 8) (j := 16), List.take_append_drop,
    List.take_append_drop]

/-- No intrinsic of a script that is renamed touches its magic number. -/
theorem Acceptable.behind_magic {body : Bytes} {detours : List Detour}
    (h : Acceptable body detours) (name : Key) {position : Nat}
    (hintrinsic : Imports.IntrinsicOf (rename name body) position) : 8 ≤ position :=
  hintrinsic.2.2.behind_magic ((word64At_rename name h.header).trans h.magic)

/-- What is made of an acceptable body is acceptable without detours. -/
theorem acceptable_redirectAll_rename (name : Key) {body : Bytes} {detours : List Detour}
    (h : Acceptable body detours) :
    Acceptable (Imports.redirectAll (rename name body)).bytes [] where
  header := by
    rw [Imports.length_redirectAll, length_rename name h.header]
    exact h.header
  magic := by
    have hpart : ((Imports.redirectAll (rename name body)).bytes.drop 0).take 8 =
        ((rename name body).drop 0).take 8 :=
      Imports.part_redirectAll 0 (by decide)
        fun _ hintrinsic ↦ .inr (by simpa using h.behind_magic name hintrinsic)
    calc
      _ = (rename name body).word64At 0 := Bytes.word64At_of_part hpart 0 (by decide)
      _ = body.word64At 0 := word64At_rename name h.header
      _ = _ := h.magic
  inside := fun _ hdetour ↦ absurd hdetour List.not_mem_nil

/-- A script that has its magic number in front has no block. -/
theorem strip_of_acceptable {body : Bytes} {detours : List Detour} (h : Acceptable body detours) :
    Block.strip body = .ok (body, []) := by
  apply Block.strip_of_not_announced
  intro hletters
  have hheader := h.header
  have hfour : (body.take 8).take 4 = Bytes.ofText "GSIC" := by
    rw [List.take_take]
    exact (List.prefix_iff_eq_take.mp hletters).symm
  have hmagic : Bytes.ofWord64 Script.magic = body.take 8 := by
    have hword : Bytes.ofWord64 (body.word64At 0) = (body.drop 0).take 8 :=
      Bytes.ofWord64_word64At_eq_take (by omega)
    rwa [h.magic, List.drop_zero] at hword
  rw [← hmagic] at hfour
  exact absurd hfour (by decide +kernel)

/-- With a table behind the header, the name that was written is still there. -/
theorem rename_redirectAll_rename {name : Key} {body : Bytes} (h : headerSize ≤ body.length)
    (htable : Imports.table (rename name body) < 0 ∨
      headerSize ≤ Imports.table (rename name body)) :
    rename name (Imports.redirectAll (rename name body)).bytes =
      (Imports.redirectAll (rename name body)).bytes := by
  apply rename_eq_self
  rw [nameOf?_redirectAll_rename name h]
  intro position hintrinsic
  have hbehind : 96 ≤ position := hintrinsic.behind htable
  exact .inr (by omega)

/-- With a table behind the header, the same table is walked again. -/
theorem redirectAll_redirectAll {code : Bytes}
    (h : Imports.table code < 0 ∨ headerSize ≤ Imports.table code) :
    Imports.redirectAll (Imports.redirectAll code).bytes =
      { Imports.redirectAll code with redirected := 0 } := by
  have hheader : ((Imports.redirectAll code).bytes.drop 0).take headerSize =
      (code.drop 0).take headerSize :=
    Imports.part_redirectAll 0 (by decide)
      fun _ hintrinsic ↦ .inr (by simpa using hintrinsic.behind h)
  have hcount : Imports.count (Imports.redirectAll code).bytes = Imports.count code :=
    congrArg UInt16.toNat (Bytes.word16At_of_part hheader 40 (by decide))
  exact Imports.redirectAll_redirectAll hcount (Imports.table_redirectAll code)

/-- If there are no detours, all notes are about the imports. -/
theorem notes_prepare_of_strip {buffer body : Bytes} (hstrip : Block.strip buffer = .ok (body, []))
    (h : Acceptable body []) (name : Key) (hooks : List Key) :
    (prepare name buffer hooks).notes = importNotes name (rename name body) := by
  obtain ⟨size, hsize, rfl, hdetours⟩ := Block.strip_eq_ok_iff.mp hstrip
  have hcheck := check_eq_ok_iff_acceptable.mpr h
  unfold prepare
  dsimp only
  rw [hsize, ← hdetours]
  dsimp only
  rw [hcheck]
  rfl

theorem importsRedirected_notMem_importNotes {name : Key} {renamed : Bytes}
    (h : (Imports.redirectAll renamed).redirected = 0) (count : Nat) (key : Key) :
    .importsRedirected count key ∉ importNotes name renamed := by
  simp [importNotes, h]

end Script

/-- A prepared script can be prepared again under every name.  It has no detours then and stays as
long as it is, because no intrinsic touches the magic number, wherever the table lies.  If the table
is negative or lies behind the header, then preparing the script again under its own name leaves it
as it is, and no intrinsic is left to redirect. -/
theorem prepared_script_prepared_again {name : Key} {buffer : Bytes} {hooks : List Key}
    {script : Script} (hscript : (Script.prepare name buffer hooks).outcome = .ok script) :
    (∃ body detours, Block.strip buffer = .ok (body, detours) ∧
      ∀ position, Imports.IntrinsicOf (Script.rename name body) position → 8 ≤ position) ∧
    (∀ other others, ∃ again, (Script.prepare other script.code others).outcome = .ok again ∧
      again.detours = [] ∧ again.code.length = script.code.length) ∧
    ((script.code.word32At 56).toInt32.toInt < 0 ∨ 96 ≤ (script.code.word32At 56).toInt32.toInt →
      (∀ position, ¬ Imports.IntrinsicOf script.code position) ∧
      ∀ others,
        (∃ again, (Script.prepare name script.code others).outcome = .ok again ∧
          again.code = script.code) ∧
        ∀ count key,
          .importsRedirected count key ∉ (Script.prepare name script.code others).notes) := by
  obtain ⟨body, detours, hstrip, hacceptable, rfl⟩ :=
    Script.prepare_eq_ok_iff_acceptable.mp hscript
  let renamed := Script.rename name body
  let code := (Imports.redirectAll renamed).bytes
  have hcode : Script.Acceptable code [] := Script.acceptable_redirectAll_rename name hacceptable
  have hagain := Script.prepare_eq_ok_iff_of_strip (Script.strip_of_acceptable hcode)
  refine ⟨⟨body, detours, hstrip, fun _ ↦ hacceptable.behind_magic name⟩, ?_, fun hbehind ↦ ?_⟩
  · intro other others
    refine ⟨_, (hagain other others _).mpr ⟨hcode, rfl⟩, rfl, ?_⟩
    rw [Imports.length_redirectAll, Script.length_rename other hcode.header]
  · have htable : Imports.table renamed < 0 ∨ Script.headerSize ≤ Imports.table renamed := by
      rw [← Imports.table_redirectAll]
      exact hbehind
    have hname : Script.rename name code = code :=
      Script.rename_redirectAll_rename hacceptable.header htable
    have htwice : Imports.redirectAll code = { Imports.redirectAll renamed with redirected := 0 } :=
      Script.redirectAll_redirectAll htable
    have hsame : (Imports.redirectAll code).bytes = code := by rw [htwice]
    refine ⟨Imports.not_intrinsicOf_of_redirectAll hsame, fun others ↦ ⟨?_, fun count key ↦ ?_⟩⟩
    · refine ⟨_, (hagain name others _).mpr ⟨hcode, rfl⟩, ?_⟩
      dsimp only
      rw [hname, hsame]
    · rw [Script.notes_prepare_of_strip (Script.strip_of_acceptable hcode) hcode, hname]
      exact Script.importsRedirected_notMem_importNotes (by rw [htwice]) count key

/-- A script that came behind a block, with an intrinsic behind its header. -/
theorem redirected_script_prepared_again :
    let detour : Detour := ⟨1, 2, 3, 96, 4, ⟨5⟩⟩
    let body (presented : UInt64) (function : UInt32) :=
      Bytes.ofWord64 Script.magic ++ List.replicate 8 0 ++ Bytes.ofWord64 presented ++
        List.replicate 16 0 ++ Bytes.ofWord16 1 ++ List.replicate 14 0 ++ Bytes.ofWord32 96 ++
        List.replicate 36 0 ++ Bytes.ofWord32 function ++ [0, 0, 0, 0, 0, 0, 1, 0]
    let script : Script := ⟨⟨7⟩, body 7 Imports.hostFunction, [⟨8⟩], [detour]⟩
    (Script.prepare ⟨7⟩ (Block.encode [detour] ++ body 5 Imports.sentinel) [⟨8⟩]).outcome =
        .ok script ∧
      (∃ again, (Script.prepare ⟨9⟩ script.code []).outcome = .ok again ∧ again.detours = []) ∧
      (script.code.word32At 56).toInt32.toInt = 96 ∧
      ∃ again, (Script.prepare ⟨7⟩ script.code []).outcome = .ok again ∧
        again.code = script.code := by
  intro detour body script
  have hscript : (Script.prepare ⟨7⟩ (Block.encode [detour] ++ body 5 Imports.sentinel)
      [⟨8⟩]).outcome = .ok script := by
    decide +kernel
  have htable : (script.code.word32At 56).toInt32.toInt = 96 := by decide +kernel
  obtain ⟨-, hother, hsame⟩ := prepared_script_prepared_again hscript
  obtain ⟨again, hagain, hdetours, -⟩ := hother ⟨9⟩ []
  have hbehind := hsame (.inr (Int.le_of_eq htable.symm))
  exact ⟨hscript, ⟨again, hagain, hdetours⟩, htable, (hbehind.2 []).1⟩

end AssetOverlay

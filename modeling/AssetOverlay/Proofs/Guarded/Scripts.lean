import AssetOverlay.Proofs.Guarded.Blocks
import AssetOverlay.Proofs.Script.Preparation

/-!
# Scripts in guarded steps

The import table is walked by positions in the script itself, and a record is redirected where it
stands.  A step of the walk moves the position by less than `2 ^ 19`, and there are fewer than
`2 ^ 16` steps from a start below `2 ^ 31`, so all positions are words, however far outside of the
script they are.  The header is looked at only in a body that is long enough to hold it.  So no step
of loading a script is trapped, whatever bytes it is loaded from, and loading gives what preparing
the script gives.
-/

namespace AssetOverlay

namespace Guarded

/-- Redirects the record at a position of a script if it is an intrinsic. -/
def redirectIf (intrinsic : Bool) (code : Bytes) (position : Nat) : Guarded Bytes :=
  if intrinsic then overwrite code position (Bytes.ofWord32 Imports.hostFunction) else return code

/-- Walks the remaining records of a script and redirects them in their places. -/
def walk (index : Nat) : (remaining position : Nat) → Bytes → Guarded Imports.Walk
  | 0, _, code => return ⟨code, 0, none⟩
  | remaining + 1, position, code => do
    let stop ← sum position Imports.recordSize
    if code.length < stop then return ⟨code, 0, some ⟨index, position⟩⟩
    else
      let record ← part code position stop
      let name ← word32At record 0
      let addresses ← word16At record 8
      let arguments ← byteAt record 10
      let intrinsic := name == Imports.sentinel && arguments != 0
      let changed ← redirectIf intrinsic code position
      let slots ← product 4 addresses.toNat
      let next ← sum position (← sum Imports.recordSize slots)
      let later ← walk (index + 1) remaining next changed
      return ⟨later.bytes, later.redirected + (if intrinsic then 1 else 0), later.overrun⟩

/-- Redirects the intrinsics of a script whose header is there. -/
def redirectAll (code : Bytes) : Guarded Imports.Walk := do
  let count ← word16At code Imports.countOffset
  let table ← word32At code Imports.tableOffset
  if table.toInt32.toInt < 0 then return ⟨code, 0, none⟩
  else walk 0 count.toNat table.toInt32.toInt.toNat code

/-- The first detour that names code outside of a script of the given length. -/
def outside? (length : Nat) : List Detour → Guarded (Option Detour)
  | [] => return none
  | detour :: rest => do
    let stop ← sum detour.codeOffset.toNat detour.codeSize.toNat
    if length < stop then return some detour else outside? length rest

/-- The magic number is looked at only where the header is long enough. -/
def check (body : Bytes) (detours : List Detour) : Guarded (Except Script.Failure Unit) := do
  if body.length < Script.headerSize then return .error (.magic body.length)
  else
    let word ← word64At body 0
    if word = Script.magic then
      match ← outside? body.length detours with
      | some detour => return .error (.detourOutside detour body.length)
      | none => return .ok ()
    else return .error (.magic body.length)

def prepare (name : Key) (buffer : Bytes) (hooks : List Key) :
    Guarded (Except Script.Failure Script) := do
  match ← strip buffer with
  | .error failure => return .error (.block failure)
  | .ok (body, detours) =>
    match ← check body detours with
    | .error failure => return .error failure
    | .ok () =>
      let renamed ← overwrite body Script.nameOffset (Bytes.ofWord64 name.value)
      let walked ← redirectAll renamed
      return .ok ⟨name, walked.bytes, Key.sortedSet hooks, detours⟩

/-- The name that a buffer presents, if it reaches to the end of the name. -/
def nameOf? (buffer : Bytes) : Guarded (Option Key) := do
  let stop ← sum Script.nameOffset 8
  if buffer.length < stop then return none
  else return some ⟨← word64At buffer Script.nameOffset⟩

/-- The detours whose code lies inside a script, with that code. -/
def resolved (code : Bytes) : List Detour → Guarded (List (Detour × Bytes))
  | [] => return []
  | detour :: rest => do
    let stop ← sum detour.codeOffset.toNat detour.codeSize.toNat
    if code.length < stop then resolved code rest
    else
      let found ← part code detour.codeOffset.toNat stop
      return (detour, found) :: (← resolved code rest)

/-! ## No step is trapped -/

section Walking

theorem redirectIf_eq (front rest : Bytes) {record : Bytes} (hrecord : record.length = 12) :
    redirectIf (Imports.isIntrinsic record) (front ++ (record ++ rest)) front.length =
      .ok (front ++ (Imports.redirect record ++ rest)) := by
  unfold redirectIf Imports.redirect
  split
  · have hinside : front.length + (Bytes.ofWord32 Imports.hostFunction).length ≤
        (front ++ (record ++ rest)).length := by
      rw [Bytes.length_ofWord32, List.length_append, List.length_append]
      omega
    have hbehind : (front ++ (record ++ rest)).drop (front.length + 4) = record.drop 4 ++ rest := by
      rw [← List.drop_drop, List.drop_left, List.drop_append_of_le_length (by omega)]
    rw [overwrite_eq hinside, Bytes.overwrite, List.take_left, Bytes.length_ofWord32, hbehind,
      List.append_assoc, List.append_assoc]
  · rfl

theorem slotsSize_lt (record : Bytes) : Imports.slotsSize record < 2 ^ 18 := by
  have hsmall := (record.word16At 8).toNat_lt
  change 4 * (record.word16At 8).toNat < 2 ^ 18
  omega

/-- A record that is all there is redirected, and the walk goes on behind its slots. -/
theorem walk_record (index remaining : Nat) (front rest : Bytes) {record : Bytes}
    (hrecord : record.length = 12) (h : front.length + 2 ^ 19 < 2 ^ 64) :
    walk index (remaining + 1) front.length (front ++ (record ++ rest)) = do
      let later ← walk (index + 1) remaining (front.length + (12 + Imports.slotsSize record))
        (front ++ (Imports.redirect record ++ rest))
      return ⟨later.bytes, later.redirected + (if Imports.isIntrinsic record then 1 else 0),
        later.overrun⟩ := by
  have hlong : ¬ (front ++ (record ++ rest)).length < front.length + 12 := by
    rw [List.length_append, List.length_append]
    omega
  have hstop : sum front.length Imports.recordSize = .ok (front.length + 12) :=
    sum_eq (show front.length + 12 < 2 ^ 64 by omega)
  have hpart : part (front ++ (record ++ rest)) front.length (front.length + 12) = .ok record := by
    rw [part_eq (Nat.le_add_right _ _) (Nat.not_lt.mp hlong), List.extract_eq_take_drop,
      Nat.add_sub_cancel_left, List.drop_left, List.take_left' hrecord]
  have hchanged := redirectIf_eq front rest hrecord
  rw [Imports.isIntrinsic] at hchanged
  have hsmall := slotsSize_lt record
  have hslots : product 4 (record.word16At 8).toNat = .ok (Imports.slotsSize record) :=
    product_eq (show Imports.slotsSize record < 2 ^ 64 by omega)
  have hspan : sum Imports.recordSize (Imports.slotsSize record) =
      .ok (12 + Imports.slotsSize record) :=
    sum_eq (show 12 + Imports.slotsSize record < 2 ^ 64 by omega)
  have hnext : sum front.length (12 + Imports.slotsSize record) =
      .ok (front.length + (12 + Imports.slotsSize record)) :=
    sum_eq (by omega)
  rw [walk, hstop, ok_bind, if_neg hlong, hpart, ok_bind, word32At_eq (by omega), ok_bind,
    word16At_eq (by omega), ok_bind, byteAt_eq (by omega), ok_bind]
  dsimp only
  rw [hchanged, ok_bind, hslots, ok_bind, hspan, ok_bind, hnext, ok_bind]
  rfl

/-- The walk in place changes what is behind its position as the walk of the bytes behind it. -/
theorem walk_eq {index remaining position : Nat} {code : Bytes}
    (h : position + 2 ^ 19 * remaining < 2 ^ 64) :
    walk index remaining position code =
      .ok { Imports.walk index remaining position (code.drop position) with
        bytes := code.take position ++
          (Imports.walk index remaining position (code.drop position)).bytes } := by
  -- The position itself may lie behind the end of the script, so what is carried is only that it
  -- stays a word for as many steps as there are left.
  induction remaining generalizing index position code with
  | zero =>
    simp only [walk, Imports.walk, List.take_append_drop]
    rfl
  | succ remaining ih =>
    cases hsplit : Bytes.splitExactly? Imports.recordSize (code.drop position) with
    | none =>
      have hstop : sum position Imports.recordSize = .ok (position + 12) :=
        sum_eq (show position + 12 < 2 ^ 64 by omega)
      have hshort : code.length < position + 12 := by
        have hleft : (code.drop position).length < 12 :=
          Bytes.splitExactly?_eq_none_iff.mp hsplit
        rw [List.length_drop] at hleft
        omega
      simp only [walk, Imports.walk, hsplit, hstop, ok_bind, if_pos hshort, pure_eq,
        List.take_append_drop]
    | some parts =>
      obtain ⟨record, rest⟩ := parts
      obtain ⟨hrecord, hdrop⟩ := Bytes.splitExactly?_eq_some_iff.mp hsplit
      change record.length = 12 at hrecord
      have hredirected : (Imports.redirect record).length = 12 := Imports.length_redirect hrecord
      obtain ⟨front, rfl, rfl⟩ : ∃ front : Bytes, front.length = position ∧
          code = front ++ (record ++ rest) := by
        refine ⟨code.take position, List.length_take_of_le ?_, ?_⟩
        · have hleft := congrArg List.length hdrop
          rw [List.length_drop, List.length_append] at hleft
          omega
        · rw [← hdrop, List.take_append_drop]
      have hsmall := slotsSize_lt record
      have hfirst : front.length + 2 ^ 19 < 2 ^ 64 := by
        calc
          front.length + 2 ^ 19 ≤ front.length + 2 ^ 19 * (remaining + 1) :=
            Nat.add_le_add_left (Nat.le_mul_of_pos_right _ (Nat.succ_pos remaining)) _
          _ < 2 ^ 64 := h
      have hlater :
          front.length + (12 + Imports.slotsSize record) + 2 ^ 19 * remaining < 2 ^ 64 := by
        omega
      rw [walk_record index remaining front rest hrecord hfirst, ih hlater, ok_bind,
        Imports.walk, hsplit, ← List.drop_drop, List.drop_left, ← List.drop_drop,
        List.drop_left' hredirected, List.take_length_add_append, ← hredirected,
        List.take_length_add_append, hredirected, pure_eq]
      simp only [List.take_left, List.append_assoc, Nat.add_assoc]
      rfl

/-- Without a bound on its positions a walk is trapped. -/
example : walk 0 1 (2 ^ 64 - 1) [] = .error (.beyondWord (2 ^ 64 + 11)) := rfl

end Walking

/-- The header has to be there before the table is looked for. -/
theorem redirectAll_eq {code : Bytes} (h : Script.headerSize ≤ code.length) :
    redirectAll code = .ok (Imports.redirectAll code) := by
  have hcount : word16At code Imports.countOffset = .ok (code.word16At 40) :=
    word16At_eq (Nat.le_trans (by decide) h)
  have htable : word32At code Imports.tableOffset = .ok (code.word32At 56) :=
    word32At_eq (Nat.le_trans (by decide) h)
  have hsmall := (code.word16At 40).toNat_lt
  have hstart := (code.word32At 56).toInt32.toInt_lt
  rw [redirectAll, hcount, ok_bind, htable, ok_bind, Imports.redirectAll]
  change (if Imports.table code < 0 then _ else _) = _
  split
  · rfl
  · exact walk_eq (by omega)

/-- Where it isn't there, the offset of the table is read from outside. -/
example : redirectAll (List.replicate 59 0) = .error (.outside 56 60 59) := rfl

/-- The code of a detour stops at a word. -/
theorem sum_codeStop (detour : Detour) :
    sum detour.codeOffset.toNat detour.codeSize.toNat = .ok detour.codeStop := by
  have hoffset := detour.codeOffset.toNat_lt
  have hsize := detour.codeSize.toNat_lt
  exact sum_eq (by omega)

theorem outside?_eq (length : Nat) (detours : List Detour) :
    outside? length detours =
      .ok (detours.find? fun detour ↦ decide (length < detour.codeStop)) := by
  induction detours with
  | nil => rfl
  | cons detour rest ih =>
    rw [outside?, sum_codeStop, ok_bind, List.find?_cons]
    by_cases hlong : length < detour.codeStop
    · rw [if_pos hlong, decide_eq_true hlong, pure_eq]
    · rw [if_neg hlong, decide_eq_false hlong, ih]

theorem check_eq (body : Bytes) (detours : List Detour) :
    check body detours = .ok (Script.check body detours) := by
  rw [check, Script.check]
  by_cases hshort : body.length < Script.headerSize
  · rw [if_pos hshort, if_neg fun h ↦ Nat.not_lt.mpr h.1 hshort, pure_eq]
  · have hlong := Nat.not_lt.mp hshort
    have hword : word64At body 0 = .ok (body.word64At 0) :=
      word64At_eq (Nat.le_trans (by decide) hlong)
    rw [if_neg hshort, hword, ok_bind]
    by_cases hmagic : body.word64At 0 = Script.magic
    · rw [if_pos hmagic, if_pos ⟨hlong, hmagic⟩, outside?_eq, ok_bind]
      cases detours.find? fun detour ↦ decide (body.length < detour.codeStop) with
      | none => rfl
      | some detour => rfl
    · rw [if_neg hmagic, if_neg fun h ↦ hmagic h.2, pure_eq]

/-- Preparing a script is checking and renaming what is left of it without its block. -/
theorem outcome_prepare (name : Key) (buffer : Bytes) (hooks : List Key) :
    (Script.prepare name buffer hooks).outcome =
      ((Block.strip buffer).mapError Script.Failure.block).bind fun stripped ↦
        (Script.check stripped.1 stripped.2).map fun _ ↦
          ⟨name, (Imports.redirectAll (Script.rename name stripped.1)).bytes,
            Key.sortedSet hooks, stripped.2⟩ := by
  have hstrip : Block.strip buffer = (Block.read buffer).outcome.map fun size ↦
      (buffer.drop size, (Block.read buffer).detours) := by
    by_cases hannounced : Block.announced buffer
    · rw [Block.strip, Block.decode, if_pos hannounced]
      cases (Block.read buffer).outcome with
      | error failure => rfl
      | ok size => rfl
    · rw [Block.strip, Block.decode, Block.read, if_neg hannounced, if_neg hannounced]
      rfl
  rw [hstrip, Script.prepare]
  cases (Block.read buffer).outcome with
  | error failure => rfl
  | ok size =>
    dsimp only [Except.map, Except.mapError, Except.bind]
    cases Script.check (buffer.drop size) (Block.read buffer).detours with
    | error failure => rfl
    | ok checked => rfl

theorem prepare_eq (name : Key) (buffer : Bytes) (hooks : List Key) :
    prepare name buffer hooks = .ok (Script.prepare name buffer hooks).outcome := by
  rw [outcome_prepare, prepare, strip_eq, ok_bind]
  cases Block.strip buffer with
  | error failure => rfl
  | ok stripped =>
    obtain ⟨body, detours⟩ := stripped
    dsimp only [Except.mapError, Except.bind]
    rw [check_eq, ok_bind]
    cases hcheck : Script.check body detours with
    | error failure => rfl
    | ok checked =>
      obtain ⟨hheader, -, -⟩ := Script.check_eq_ok_iff.mp hcheck
      have hname : Script.nameOffset + (Bytes.ofWord64 name.value).length ≤ body.length := by
        rw [Bytes.length_ofWord64]
        exact Nat.le_trans (by decide) hheader
      have hrenamed : Script.headerSize ≤ (Script.rename name body).length := by
        rwa [Script.length_rename name hheader]
      dsimp only
      rw [overwrite_eq hname, ok_bind]
      change redirectAll (Script.rename name body) >>= _ = _
      rw [redirectAll_eq hrenamed]
      rfl

theorem nameOf?_eq (buffer : Bytes) : nameOf? buffer = .ok (Script.nameOf? buffer) := by
  have hstop : sum Script.nameOffset 8 = .ok (Script.nameOffset + 8) := rfl
  rw [nameOf?, hstop, ok_bind, Script.nameOf?]
  by_cases hshort : buffer.length < Script.nameOffset + 8
  · rw [if_pos hshort, if_neg (Nat.not_le.mpr hshort), pure_eq]
  · have hlong := Nat.not_lt.mp hshort
    rw [if_neg hshort, if_pos hlong, word64At_eq hlong]
    rfl

theorem resolved_eq (code : Bytes) (detours : List Detour) :
    resolved code detours =
      .ok (detours.filterMap fun detour ↦ (detour.code? code).map fun found ↦ (detour, found)) := by
  induction detours with
  | nil => rfl
  | cons detour rest ih =>
    rw [resolved, sum_codeStop, ok_bind, List.filterMap_cons]
    by_cases hlong : code.length < detour.codeStop
    · rw [if_pos hlong, Detour.code?, if_neg (Nat.not_le.mpr hlong), ih]
      rfl
    · have hinside := Nat.not_lt.mp hlong
      have hpart : part code detour.codeOffset.toNat detour.codeStop =
          .ok (code.extract detour.codeStart detour.codeStop) :=
        part_eq (Nat.le_add_right _ _) hinside
      rw [if_neg hlong, hpart, ok_bind, ih, ok_bind, Detour.code?_of_le hinside]
      rfl

end Guarded

/-- Whatever bytes a script is loaded from, no step of loading it is trapped: not of reading the
block in front of it and taking the block off, not of preparing it under any name with any hooks,
not of looking at the name that it presents, not of redirecting the intrinsics of anything with a
header, and not of finding the code of the detours of any script.  All of them give what they give
in steps that can't be trapped. -/
theorem loading_never_trapped (name : Key) (buffer : Bytes) (hooks : List Key) :
    Guarded.decode buffer = .ok (Block.decode buffer) ∧
      Guarded.strip buffer = .ok (Block.strip buffer) ∧
      Guarded.prepare name buffer hooks = .ok (Script.prepare name buffer hooks).outcome ∧
      Guarded.nameOf? buffer = .ok (Script.nameOf? buffer) ∧
      (Script.headerSize ≤ buffer.length →
        Guarded.redirectAll buffer = .ok (Imports.redirectAll buffer)) ∧
      ∀ script : Script, Guarded.resolved script.code script.detours = .ok script.resolvedDetours :=
  ⟨Guarded.decode_eq buffer, Guarded.strip_eq buffer, Guarded.prepare_eq name buffer hooks,
    Guarded.nameOf?_eq buffer, Guarded.redirectAll_eq,
    fun script ↦ Guarded.resolved_eq script.code script.detours⟩

end AssetOverlay

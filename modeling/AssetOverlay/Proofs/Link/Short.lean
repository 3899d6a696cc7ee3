import AssetOverlay.Proofs.Link.Detours
import AssetOverlay.Proofs.Link.Spelling

/-!
# Buffers without a header

Every script in force has a header, so a buffer that is too short for one belongs to no script.  The
name stands near the front of the header, though, and a buffer that reaches to the end of the name
presents one, header or not.  So the scripts that hook into this name are linked beside it, and only
buffers that end before the name are sure to be linked alone.
-/

namespace AssetOverlay

theorem hookingInto_eq_nil_iff {scripts : List LoadedScript} {buffer : Buffer} :
    hookingInto scripts buffer = [] ↔ ∀ name, Script.nameOf? buffer.bytes = some name →
      ∀ loaded ∈ scripts, loaded.script.hooksInto name = false := by
  unfold hookingInto
  rw [List.filter_eq_nil_iff]
  cases Script.nameOf? buffer.bytes with
  | none => simp
  | some name => simp [Script.hooksInto]

section Alone

variable {State : Type} {scripts : List LoadedScript} {buffer : Buffer}

theorem linkHooking_of_hookingInto_eq_nil (h : hookingInto scripts buffer = [])
    (game : Game State) (machine : ScriptMachine) (run : Bool) (state : State) :
    linkHooking scripts game machine buffer run state = (.ok [], state) := by
  unfold linkHooking
  cases hname : Script.nameOf? buffer.bytes with
  | none => rfl
  | some name =>
    rw [hookingInto_eq_hooking scripts hname] at h
    dsimp only
    rw [h]
    rfl

theorem linkBuffer_of_owner?_eq_none (h : owner? scripts buffer = none) (game : Game State)
    (machine : ScriptMachine) (run : Bool) (state : State) :
    linkBuffer scripts game machine buffer run state = game.link machine buffer run state := by
  rw [linkBuffer, h]

end Alone

namespace Overlay

variable {overlay : Overlay} {buffer : Buffer}

/-- The link of a buffer is the only call, and comes to nothing but what the game answers to it. -/
def PassesThrough {State : Type} (overlay : Overlay) (game : Game State) (machine : ScriptMachine)
    (buffer : Buffer) (run : Bool) (state : State) : Prop :=
  let answer := game.link machine buffer run state
  overlay.link game.recorded machine buffer run (state, []) =
    (.ok ⟨[], false, answer.1⟩, (answer.2, [.link machine buffer run answer.1]))

/-- A buffer that belongs to no script is linked alone if and only if no script hooks into it. -/
theorem passesThrough_iff {State : Type} (howner : owner? overlay.catalogue.scripts buffer = none)
    (game : Game State) (machine : ScriptMachine) (run : Bool) (state : State) :
    overlay.PassesThrough game machine buffer run state ↔
      hookingInto overlay.catalogue.scripts buffer = [] := by
  constructor
  · intro h
    have hrun := linkScript_recorded game machine overlay.catalogue.scripts buffer run state
    rw [← link, h] at hrun
    exact List.map_eq_nil_iff.mp hrun.injected_eq.symm
  · intro h
    unfold PassesThrough link linkScript
    rw [linkHooking_of_hookingInto_eq_nil h]
    dsimp only
    rw [linkBuffer_of_owner?_eq_none howner, howner]
    rfl

/-- A buffer that is too short for a header belongs to no script. -/
theorem ScriptsPrepared.owner?_eq_none (h : overlay.ScriptsPrepared)
    (hshort : buffer.bytes.length < Script.headerSize) :
    owner? overlay.catalogue.scripts buffer = none := by
  apply List.find?_eq_none.mpr
  intro loaded hloaded howns
  obtain ⟨name, bytes, hooks, hprepare⟩ := h.exists_prepare hloaded
  have hheader := Script.headerSize_le_of_prepare hprepare
  have hlength := (Bool.and_eq_true_iff.mp howns).2
  rw [beq_iff_eq] at hlength
  omega

end Overlay

theorem Script.nameOf?_eq_none {bytes : Bytes} (h : bytes.length < nameOffset + 8) :
    nameOf? bytes = none :=
  if_neg (Nat.not_le.mpr h)

theorem Session.scriptsPrepared_actAll (files : FileTree) (nextSerial : Nat)
    (actions : List Action) :
    ((start files nextSerial).actAll actions).overlay.ScriptsPrepared :=
  actAll_keeps scriptsPrepared_perform _ _ (Overlay.holds_of_catalogue_eq_empty rfl)

/-- In every overlay that actions can lead to, a buffer that is too short for a header is never taken
for one of a script.  It is linked alone if and only if it presents no name that a script in force
hooks into, and so it is whenever it ends before the name. -/
theorem short_buffer_passes_through_iff {State : Type} (game : Game State) (files : FileTree)
    (nextSerial : Nat) (actions : List Action) (machine : ScriptMachine) (buffer : Buffer)
    (run : Bool) (state : State) (hshort : buffer.bytes.length < Script.headerSize) :
    let overlay := ((Session.start files nextSerial).actAll actions).overlay
    (∀ outcome, (overlay.link game.recorded machine buffer run (state, [])).1 = .ok outcome →
      outcome.replaced = false) ∧
    (overlay.PassesThrough game machine buffer run state ↔
      ∀ name, Script.nameOf? buffer.bytes = some name →
        ∀ loaded ∈ overlay.catalogue.scripts, loaded.script.hooksInto name = false) ∧
    (buffer.bytes.length < Script.nameOffset + 8 →
      overlay.PassesThrough game machine buffer run state) := by
  intro overlay
  have hprepared : overlay.ScriptsPrepared :=
    Session.scriptsPrepared_actAll files nextSerial actions
  have howner := hprepared.owner?_eq_none hshort
  rw [Overlay.passesThrough_iff howner]
  refine ⟨?_, hookingInto_eq_nil_iff, ?_⟩
  · intro outcome hok
    have hrun : LinkRun overlay.catalogue.scripts machine buffer run _ _ :=
      linkScript_recorded game machine overlay.catalogue.scripts buffer run state
    rw [← Overlay.link, hok] at hrun
    rw [hrun.replaced_eq, howner]
    rfl
  · intro hlength
    exact hookingInto_eq_nil _ (Script.nameOf?_eq_none hlength)

namespace Sample

/-- The front of a header, up to the end of the name. -/
def headerFront (name : String) : Buffer :=
  .fresh (List.replicate 16 0 ++ Bytes.ofWord64 (Key.ofName name).value)

/-- The package with the hooking script is loaded. -/
def hookingLoaded : Overlay :=
  ((Session.start hookingFiles 0).actAll [.operate (.reload ⟨"/mods"⟩)]).overlay

theorem hookingScripts_eq : hookingLoaded.catalogue.scripts = [⟨0, hookingScript⟩] := by
  have hfound : Overlay.found hookingFiles ⟨"/mods"⟩ (Overlay.empty 0).registrations =
      [hookingAsset] := hookingFound_eq
  unfold hookingLoaded
  rw [Session.actAll, Session.actAll, Session.act]
  change ((Overlay.empty 0).reload hookingFiles ⟨"/mods"⟩).overlay.catalogue.scripts = _
  rw [Overlay.scripts_reload hfound rfl]
  rfl

end Sample

/-- A buffer that ends with a name into which nothing hooks is linked alone. -/
theorem short_buffer_without_hooks :
    (Sample.headerFront "zm/c.gsc").bytes.length < Script.headerSize ∧
      Sample.hookingLoaded.PassesThrough Sample.game .server (Sample.headerFront "zm/c.gsc")
        true () := by
  have hshort : (Sample.headerFront "zm/c.gsc").bytes.length < Script.headerSize := by
    decide +kernel
  have hunhooked : ∀ loaded ∈ Sample.hookingLoaded.catalogue.scripts,
      loaded.script.hooksInto (Key.ofName "zm/c.gsc") = false := by
    rw [Sample.hookingScripts_eq, List.forall_mem_singleton]
    decide +kernel
  have hname : Script.nameOf? (Sample.headerFront "zm/c.gsc").bytes =
      some (Key.ofName "zm/c.gsc") := by
    decide +kernel
  refine ⟨hshort, (short_buffer_passes_through_iff Sample.game Sample.hookingFiles 0
    [.operate (.reload ⟨"/mods"⟩)] .server (Sample.headerFront "zm/c.gsc") true ()
    hshort).2.1.mpr ?_⟩
  intro name hpresented
  rw [hname] at hpresented
  cases hpresented
  exact hunhooked

/-- Twenty-four bytes are enough to be linked beside a script that hooks into their name. -/
theorem short_buffer_hooked :
    (Sample.headerFront "zm/b.gsc").bytes.length < Script.headerSize ∧
      Sample.hookingLoaded.link Sample.game.recorded .server (Sample.headerFront "zm/b.gsc") true
          ((), []) =
        (.ok ⟨[Key.ofName "mods/a.gsc"], false, 0⟩, ((),
          LoadedScript.calls ⟨0, Sample.hookingScript⟩ .server true 0 ++
            [.link .server (Sample.headerFront "zm/b.gsc") true 0])) ∧
      ¬ Sample.hookingLoaded.PassesThrough Sample.game .server (Sample.headerFront "zm/b.gsc")
        true () := by
  unfold Overlay.PassesThrough Overlay.link
  rw [Sample.hookingScripts_eq]
  decide +kernel

end AssetOverlay

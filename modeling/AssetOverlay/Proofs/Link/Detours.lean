import AssetOverlay.Proofs.Link.Recognition

/-!
# Detours that the game is told

A link tells the game the detours of scripts in force only, and every script in force was prepared.
So all detours that the game hears of point at real code.
-/

namespace AssetOverlay

theorem mem_of_sync_mem_callsOf {machine called : ScriptMachine} {run : Bool}
    {scripts : List LoadedScript} {codes : List Int32} {loaded : LoadedScript}
    (h : Call.sync called loaded ∈ callsOf machine run scripts codes) : loaded ∈ scripts := by
  obtain ⟨⟨linked, code⟩, hlinked, hcall⟩ := List.mem_flatMap.mp h
  rcases List.mem_cons.mp hcall with hsync | hlink
  · cases hsync
    exact (List.of_mem_zip hlinked).1
  · cases List.mem_singleton.mp hlink

theorem BesideRun.mem_of_sync {machine called : ScriptMachine} {run : Bool}
    {scripts : List LoadedScript} {calls : List Call} {failed : Option (LoadedScript × Int32)}
    {loaded : LoadedScript} (h : BesideRun machine run scripts calls failed)
    (hcall : .sync called loaded ∈ calls) : loaded ∈ scripts := by
  cases h with
  | linked scripts codes hlength hcodes => exact mem_of_sync_mem_callsOf hcall
  | stopped before after codes failing code hlength hcodes hcode =>
    rcases List.mem_append.mp hcall with hbefore | hfailing
    · exact List.mem_append_left _ (mem_of_sync_mem_callsOf hbefore)
    · rcases List.mem_cons.mp hfailing with hsync | hlink
      · cases hsync
        exact List.mem_append_right _ List.mem_cons_self
      · cases List.mem_singleton.mp hlink

/-- A link tells the game the detours of scripts in force only. -/
theorem LinkRun.mem_of_sync {scripts : List LoadedScript} {machine called : ScriptMachine}
    {buffer : Buffer} {run : Bool} {calls : List Call}
    {outcome : Except LinkFailure LinkOutcome} {loaded : LoadedScript}
    (h : LinkRun scripts machine buffer run calls outcome)
    (hcall : .sync called loaded ∈ calls) : loaded ∈ scripts := by
  cases h with
  | stopped name calls failing code hname hrun =>
    exact List.mem_of_mem_filter (hrun.mem_of_sync hcall)
  | completed beside code hrun =>
    rcases List.mem_append.mp hcall with hearlier | hlast
    · rcases List.mem_append.mp hearlier with hbeside | howner
      · exact List.mem_of_mem_filter (hrun.mem_of_sync hbeside)
      · obtain ⟨owner, howns, hsync⟩ := Option.map_eq_some_iff.mp (Option.mem_toList.mp howner)
        cases hsync
        exact List.mem_of_find?_eq_some howns
    · cases List.mem_singleton.mp hlast

theorem Overlay.ScriptsPrepared.exists_prepare {overlay : Overlay} (h : overlay.ScriptsPrepared)
    {loaded : LoadedScript} (hloaded : loaded ∈ overlay.catalogue.scripts) :
    ∃ name bytes hooks, (Script.prepare name bytes hooks).outcome = .ok loaded.script := by
  obtain ⟨slot, asset, hasset, hscript⟩ := Catalogue.exists_of_mem_scripts hloaded
  exact ⟨asset.asset.key,
    h slot asset hasset loaded.script (LoadedAsset.script?_eq_some_iff.mp hscript).1⟩

theorem Overlay.ScriptsPrepared.detoursResolved {overlay : Overlay} (h : overlay.ScriptsPrepared)
    {loaded : LoadedScript} (hloaded : loaded ∈ overlay.catalogue.scripts) :
    loaded.script.DetoursResolved := by
  obtain ⟨name, bytes, hooks, hprepare⟩ := h.exists_prepare hloaded
  exact Script.detoursResolved_of_prepare hprepare

theorem Session.scriptsPrepared_atMoment (files : FileTree) (nextSerial : Nat)
    (actions : List Action) (moment : Nat) :
    ((start files nextSerial).atMoment actions moment).overlay.ScriptsPrepared :=
  performAll_keeps scriptsPrepared_perform _ _ (Overlay.holds_of_catalogue_eq_empty rfl)

/-- Whenever a link is entered in a run, all detours of every script that it tells the game are
resolved, in order, to exactly the bytes that they name.  The same is true of every script that can
be prepared, from whatever bytes. -/
theorem synced_detours_resolved {State : Type} (game : Game State) (files : FileTree)
    (nextSerial : Nat) (actions : List Action) (moment : Nat) (machine : ScriptMachine)
    (buffer : Buffer) (run : Bool) (state : State) :
    let entered := ((Session.start files nextSerial).atMoment actions moment).overlay
    let linked := entered.link game.recorded machine buffer run (state, [])
    (∀ called loaded, .sync called loaded ∈ linked.2.2 → loaded.script.DetoursResolved) ∧
      ∀ name bytes hooks script, (Script.prepare name bytes hooks).outcome = .ok script →
        script.DetoursResolved := by
  intro entered linked
  have hprepared : entered.ScriptsPrepared :=
    Session.scriptsPrepared_atMoment files nextSerial actions moment
  have hrun : LinkRun entered.catalogue.scripts machine buffer run linked.2.2 linked.1 :=
    linkScript_recorded game machine entered.catalogue.scripts buffer run state
  constructor
  · intro called loaded hcall
    exact hprepared.detoursResolved (hrun.mem_of_sync hcall)
  · intro name bytes hooks script hprepare
    exact Script.detoursResolved_of_prepare hprepare

theorem sample_detour_synced_and_resolved :
    let entered := ((Session.start Sample.files 0).atMoment Sample.actions 1).overlay
    let linked := entered.link Sample.game.recorded .server
      (LoadedScript.buffer ⟨0, Sample.script⟩) true ((), [])
    .sync .server ⟨0, Sample.script⟩ ∈ linked.2.2 ∧ Sample.script.DetoursResolved ∧
      Sample.script.resolvedDetours = [(Sample.detour, [])] := by
  intro entered linked
  have hsync : .sync .server ⟨0, Sample.script⟩ ∈ linked.2.2 := by
    simp only [linked, entered, Overlay.link, Sample.scripts_eq]
    decide +kernel
  have hresolved := (synced_detours_resolved Sample.game Sample.files 0 Sample.actions 1 .server
    (LoadedScript.buffer ⟨0, Sample.script⟩) true ()).1 .server ⟨0, Sample.script⟩ hsync
  exact ⟨hsync, hresolved, by decide +kernel⟩

end AssetOverlay

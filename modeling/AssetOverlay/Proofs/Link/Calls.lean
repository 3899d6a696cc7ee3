import AssetOverlay.Proofs.Catalogue.Scripts
import AssetOverlay.Proofs.Link.Simulation

/-!
# The calls of a link

Every game can be *recorded*: its state then holds the calls made so far and the codes they were
answered with.  Recording has no influence on a link, so what is proved about the recorded calls is
true of every game.

The calls of a link are told apart by how it ends.  Either one of the scripts that hook in could not
be linked, and its link is the last call, or all of them were linked, and the link of the buffer is
the last call.
-/

namespace AssetOverlay

/-- A call to the game. -/
inductive Call where
  | sync (machine : ScriptMachine) (loaded : LoadedScript)
  /-- A link, and the code with which the game answers it. -/
  | link (machine : ScriptMachine) (buffer : Buffer) (run : Bool) (code : Int32)
deriving DecidableEq

/-- The same game, with a list of the calls made so far. -/
def Game.recorded {State : Type} (game : Game State) : Game (State × List Call) where
  sync machine loaded state :=
    (game.sync machine loaded state.1, state.2 ++ [.sync machine loaded])
  link machine buffer run state :=
    let (code, next) := game.link machine buffer run state.1
    (code, (next, state.2 ++ [.link machine buffer run code]))

/-- A recorded game answers as the game itself does. -/
theorem Game.recorded_simulates {State : Type} (game : Game State) :
    game.recorded.Simulates game (fun recorded state ↦ recorded.1 = state) where
  sync := by
    rintro machine loaded state _ rfl
    rfl
  code := by
    rintro machine buffer run state _ rfl
    rfl
  link := by
    rintro machine buffer run state _ rfl
    rfl

/-- The calls for a script that is linked beside a buffer and answered with a code. -/
def LoadedScript.calls (loaded : LoadedScript) (machine : ScriptMachine) (run : Bool)
    (code : Int32) : List Call :=
  [.sync machine loaded, .link machine loaded.buffer run code]

/-- The calls for scripts that are linked one after the other and answered with these codes. -/
def callsOf (machine : ScriptMachine) (run : Bool) (scripts : List LoadedScript)
    (codes : List Int32) : List Call :=
  (scripts.zip codes).flatMap fun (loaded, code) ↦ loaded.calls machine run code

/-- The scripts that hook into the one in a buffer: the name that the buffer presents is among their
hooks.  If it presents no name, there are none. -/
def hookingInto (scripts : List LoadedScript) (buffer : Buffer) : List LoadedScript :=
  scripts.filter fun loaded ↦ ∃ name ∈ Script.nameOf? buffer.bytes, name ∈ loaded.script.hooks

/-- A buffer is the one of a script: it starts where the bytes of the script start, and is as long
as these. -/
def Buffer.IsOf (buffer : Buffer) (loaded : LoadedScript) : Prop :=
  buffer.origin = some loaded.serial ∧ buffer.bytes.length = loaded.script.code.length

instance (buffer : Buffer) (loaded : LoadedScript) : Decidable (buffer.IsOf loaded) :=
  inferInstanceAs (Decidable (_ ∧ _))

/-- The script whose buffer is given. -/
def scriptOf? (scripts : List LoadedScript) (buffer : Buffer) : Option LoadedScript :=
  scripts.find? fun loaded ↦ buffer.IsOf loaded

/-- The calls for scripts that are to be linked beside a buffer, and the script that could not be
linked with the code that says so. -/
inductive BesideRun (machine : ScriptMachine) (run : Bool) :
    List LoadedScript → List Call → Option (LoadedScript × Int32) → Prop where
  | linked (scripts : List LoadedScript) (codes : List Int32) :
      codes.length = scripts.length → (∀ code ∈ codes, 0 ≤ code) →
        BesideRun machine run scripts (callsOf machine run scripts codes) none
  | stopped (before after : List LoadedScript) (codes : List Int32) (failing : LoadedScript)
      (code : Int32) :
      codes.length = before.length → (∀ earlier ∈ codes, 0 ≤ earlier) → code < 0 →
        BesideRun machine run (before ++ failing :: after)
          (callsOf machine run before codes ++ failing.calls machine run code)
          (some (failing, code))

/-- The calls of a link and its outcome, given the scripts in force. -/
inductive LinkRun (scripts : List LoadedScript) (machine : ScriptMachine) (buffer : Buffer)
    (run : Bool) : List Call → Except LinkFailure LinkOutcome → Prop where
  /-- A script that hooks in could not be linked. -/
  | stopped (name : Key) (calls : List Call) (failing : LoadedScript) (code : Int32) :
      Script.nameOf? buffer.bytes = some name →
        BesideRun machine run (hookingInto scripts buffer) calls (some (failing, code)) →
          LinkRun scripts machine buffer run calls (.error ⟨failing.script.name, name, code⟩)
  /-- All scripts that hook in were linked, and then the buffer. -/
  | completed (calls : List Call) (code : Int32) :
      BesideRun machine run (hookingInto scripts buffer) calls none →
        LinkRun scripts machine buffer run
          (calls ++ ((scriptOf? scripts buffer).map (Call.sync machine)).toList ++
            [.link machine buffer run code])
          (.ok ⟨(hookingInto scripts buffer).map fun loaded ↦ loaded.script.name,
            (scriptOf? scripts buffer).isSome, code⟩)

theorem LoadedScript.owns_iff {loaded : LoadedScript} {buffer : Buffer} :
    loaded.owns buffer ↔ buffer.IsOf loaded := by
  simp [owns, Buffer.IsOf]

theorem owner?_eq_scriptOf? (scripts : List LoadedScript) (buffer : Buffer) :
    owner? scripts buffer = scriptOf? scripts buffer := by
  unfold owner? scriptOf?
  congr
  funext loaded
  exact Bool.eq_iff_iff.mpr (LoadedScript.owns_iff.trans decide_eq_true_iff.symm)

theorem BesideRun.cons {machine : ScriptMachine} {run : Bool} {rest : List LoadedScript}
    {calls : List Call} {failed : Option (LoadedScript × Int32)}
    (h : BesideRun machine run rest calls failed) (loaded : LoadedScript) {code : Int32}
    (hcode : 0 ≤ code) :
    BesideRun machine run (loaded :: rest) (loaded.calls machine run code ++ calls) failed := by
  cases h with
  | linked _ codes hlength hcodes =>
    refine .linked (loaded :: rest) (code :: codes) (by simp [hlength]) ?_
    exact List.forall_mem_cons.mpr ⟨hcode, hcodes⟩
  | stopped before after codes failing last hlength hcodes hlast =>
    rw [← List.append_assoc]
    have hall : ∀ earlier ∈ code :: codes, 0 ≤ earlier :=
      List.forall_mem_cons.mpr ⟨hcode, hcodes⟩
    exact .stopped (loaded :: before) after (code :: codes) failing last (by simp [hlength]) hall
      hlast

/-- What linking scripts beside one of the given name comes to, if the given one of them could not
be linked. -/
def besideOutcome (name : Key) (scripts : List LoadedScript) :
    Option (LoadedScript × Int32) → Except LinkFailure (List Key)
  | none => .ok (scripts.map fun loaded ↦ loaded.script.name)
  | some (failing, code) => .error ⟨failing.script.name, name, code⟩

theorem besideOutcome_cons (name : Key) (loaded : LoadedScript) (rest : List LoadedScript)
    (failed : Option (LoadedScript × Int32)) :
    besideOutcome name (loaded :: rest) failed =
      (besideOutcome name rest failed).map (loaded.script.name :: ·) := by
  cases failed <;> rfl

section Recorded

variable {State : Type} (game : Game State) (machine : ScriptMachine)

theorem link_recorded (loaded : LoadedScript) (run : Bool) (state : State) (calls : List Call) :
    ∃ code next, game.recorded.link machine loaded.buffer run
      (game.recorded.sync machine loaded (state, calls)) =
        (code, (next, calls ++ loaded.calls machine run code)) := by
  let synced := game.sync machine loaded state
  refine ⟨(game.link machine loaded.buffer run synced).1,
    (game.link machine loaded.buffer run synced).2, ?_⟩
  simp [Game.recorded, LoadedScript.calls, synced]

theorem linkBeside_recorded (run : Bool) (name : Key) (scripts : List LoadedScript)
    (state : State) (calls : List Call) :
    ∃ final made failed, BesideRun machine run scripts made failed ∧
      linkBeside game.recorded machine run name scripts (state, calls) =
        (besideOutcome name scripts failed, (final, calls ++ made)) := by
  induction scripts generalizing state calls with
  | nil =>
    refine ⟨state, [], none, .linked [] [] rfl (by simp), ?_⟩
    rw [List.append_nil]
    rfl
  | cons loaded rest ih =>
    obtain ⟨code, next, hlink⟩ := link_recorded game machine loaded run state calls
    rw [linkBeside, hlink]
    dsimp only
    by_cases hcode : code < 0
    · rw [if_pos hcode]
      exact ⟨next, loaded.calls machine run code, some (loaded, code),
        .stopped [] rest [] loaded code rfl (by simp) hcode, rfl⟩
    · obtain ⟨final, made, failed, hrun, hrest⟩ :=
        ih next (calls ++ loaded.calls machine run code)
      rw [if_neg hcode, hrest]
      refine ⟨final, loaded.calls machine run code ++ made, failed,
        hrun.cons loaded (Int32.not_lt.mp hcode), ?_⟩
      rw [besideOutcome_cons, List.append_assoc]

theorem hookingInto_eq_hooking (scripts : List LoadedScript) {buffer : Buffer} {name : Key}
    (h : Script.nameOf? buffer.bytes = some name) :
    hookingInto scripts buffer = hooking scripts name := by
  unfold hookingInto hooking Script.hooksInto
  simp [h]

theorem hookingInto_eq_nil (scripts : List LoadedScript) {buffer : Buffer}
    (h : Script.nameOf? buffer.bytes = none) : hookingInto scripts buffer = [] := by
  unfold hookingInto
  rw [h]
  simp

theorem linkHooking_recorded (scripts : List LoadedScript) (buffer : Buffer) (run : Bool)
    (state : State) :
    ∃ final made name failed, BesideRun machine run (hookingInto scripts buffer) made failed ∧
      (failed.isSome → Script.nameOf? buffer.bytes = some name) ∧
      linkHooking scripts game.recorded machine buffer run (state, []) =
        (besideOutcome name (hookingInto scripts buffer) failed, (final, made)) := by
  unfold linkHooking
  cases hname : Script.nameOf? buffer.bytes with
  | none =>
    rw [hookingInto_eq_nil scripts hname]
    exact ⟨state, [], ⟨0⟩, none, .linked [] [] rfl (by simp), by simp, rfl⟩
  | some name =>
    obtain ⟨final, made, failed, hrun, hbeside⟩ :=
      linkBeside_recorded game machine run name (hooking scripts name) state []
    rw [hookingInto_eq_hooking scripts hname]
    exact ⟨final, made, name, failed, hrun, fun _ ↦ rfl, hbeside⟩

theorem linkBuffer_recorded (scripts : List LoadedScript) (buffer : Buffer) (run : Bool)
    (state : State) (calls : List Call) :
    ∃ final code, linkBuffer scripts game.recorded machine buffer run (state, calls) =
      (code, (final, calls ++ ((scriptOf? scripts buffer).map (Call.sync machine)).toList ++
        [.link machine buffer run code])) := by
  unfold linkBuffer
  rw [owner?_eq_scriptOf?]
  cases scriptOf? scripts buffer with
  | none =>
    refine ⟨(game.link machine buffer run state).2, (game.link machine buffer run state).1, ?_⟩
    simp [Game.recorded]
  | some loaded =>
    let synced := game.sync machine loaded state
    refine ⟨(game.link machine buffer run synced).2, (game.link machine buffer run synced).1, ?_⟩
    simp [Game.recorded, synced]

/-- Recording a link from the start yields one of its possible runs. -/
theorem linkScript_recorded (scripts : List LoadedScript) (buffer : Buffer) (run : Bool)
    (state : State) :
    LinkRun scripts machine buffer run
      (linkScript scripts game.recorded machine buffer run (state, [])).2.2
      (linkScript scripts game.recorded machine buffer run (state, [])).1 := by
  obtain ⟨next, made, name, failed, hrun, hname, hhooking⟩ :=
    linkHooking_recorded game machine scripts buffer run state
  unfold linkScript
  rw [hhooking]
  cases failed with
  | some failure => exact .stopped name made failure.1 failure.2 (hname rfl) hrun
  | none =>
    obtain ⟨final, code, hbuffer⟩ := linkBuffer_recorded game machine scripts buffer run next made
    dsimp only [besideOutcome]
    rw [hbuffer, owner?_eq_scriptOf?]
    exact .completed made code hrun

end Recorded

section Injected

variable {scripts : List LoadedScript} {machine : ScriptMachine} {buffer : Buffer} {run : Bool}
  {calls : List Call} {outcome : LinkOutcome}

/-- All scripts that hook in were linked beside the buffer, unless one of them stopped the link. -/
theorem LinkRun.injected_eq (h : LinkRun scripts machine buffer run calls (.ok outcome)) :
    outcome.injected = (hookingInto scripts buffer).map fun loaded ↦ loaded.script.name := by
  cases h with
  | completed calls code hrun => rfl

/-- The names of the scripts that were linked beside a buffer are those of some scripts in force. -/
theorem LinkRun.injected_sublist (h : LinkRun scripts machine buffer run calls (.ok outcome)) :
    outcome.injected.Sublist (scripts.map fun loaded ↦ loaded.script.name) := by
  rw [h.injected_eq]
  exact List.filter_sublist.map _

end Injected

/-- In every overlay that actions can lead to, linking a buffer makes exactly the calls of a link,
whatever the game answers and does in the meantime.  No name is injected twice, and no buffer is the
one of two scripts. -/
theorem link_makes_calls {State : Type} (game : Game State) (files : FileTree) (nextSerial : Nat)
    (actions : List Action) (machine : ScriptMachine) (buffer : Buffer) (run : Bool)
    (state : State) :
    let overlay := ((Session.start files nextSerial).actAll actions).overlay
    let scripts := overlay.catalogue.scripts
    let result := overlay.link game machine buffer run state
    let recorded := overlay.link game.recorded machine buffer run (state, [])
    recorded.1 = result.1 ∧ recorded.2.1 = result.2 ∧
      LinkRun scripts machine buffer run recorded.2.2 result.1 ∧
      (∀ outcome, result.1 = .ok outcome → outcome.injected.Nodup) ∧
      ∀ loaded ∈ scripts, buffer.IsOf loaded → scriptOf? scripts buffer = some loaded := by
  intro overlay scripts result recorded
  have hsound : overlay.Sound := Session.sound_actAll files nextSerial actions
  have hstart : (state, ([] : List Call)).1 = state := rfl
  obtain ⟨houtcome, hstate⟩ :=
    game.recorded_simulates.linkScript scripts machine buffer run hstart
  have hrun : LinkRun scripts machine buffer run recorded.2.2 recorded.1 :=
    linkScript_recorded game machine scripts buffer run state
  rw [show recorded.1 = result.1 from houtcome] at hrun ⊢
  refine ⟨rfl, hstate, hrun, ?_, ?_⟩
  · intro outcome hok
    rw [hok] at hrun
    exact hsound.nodup_names.sublist hrun.injected_sublist
  · intro loaded hloaded hbuffer
    rw [← owner?_eq_scriptOf?]
    exact hsound.owner?_eq_some hloaded (LoadedScript.owns_iff.mpr hbuffer)

namespace Sample

/-- A compiled script that consists of its header. -/
def compiled : Bytes :=
  Bytes.ofWord64 Script.magic ++ List.replicate 88 0

/-- A script with a hook. -/
def hookingScript : Script :=
  ⟨Key.ofName "mods/a.gsc", Script.rename (Key.ofName "mods/a.gsc") compiled,
    [Key.ofName "zm/b.gsc"], []⟩

/-- The asset with that script. -/
def hookingAsset : Asset :=
  ⟨Key.ofName "mods/a.gsc", ⟨"/mods/one/a"⟩, .script hookingScript⟩

/-- The script that it hooks into. -/
def hookedScript : Script :=
  ⟨Key.ofName "zm/b.gsc", Script.rename (Key.ofName "zm/b.gsc") compiled, [], []⟩

/-- The asset with the script that it hooks into. -/
def hookedAsset : Asset :=
  ⟨Key.ofName "zm/b.gsc", ⟨"/mods/one/b"⟩, .script hookedScript⟩

/-- The manifest of a package with both scripts. -/
def pairManifest : String :=
  "\x7b\"data\": [[\"scriptparsetree\", \"mods/a.gsc\", \"a\", [\"zm/b.gsc\"]]," ++
    "[\"scriptparsetree\", \"zm/b.gsc\", \"b\"]]\x7d"

/-- A root with that package. -/
def pairFiles : FileTree where
  entries := [(["mods"], .folder), (["mods", "one"], .folder),
    (["mods", "one", "metadata.json"], .file (Bytes.ofText pairManifest)),
    (["mods", "one", "a"], .file compiled), (["mods", "one", "b"], .file compiled)]
  distinct := by decide

theorem pairFound_eq : Overlay.found pairFiles ⟨"/mods"⟩ [] = [hookingAsset, hookedAsset] := by
  decide +kernel

/-- The package is loaded. -/
def pairLoaded : Overlay :=
  ((Session.start pairFiles 0).actAll [.operate (.reload ⟨"/mods"⟩)]).overlay

theorem pairScripts_eq :
    pairLoaded.catalogue.scripts = [⟨0, hookingScript⟩, ⟨1, hookedScript⟩] := by
  have hfound : Overlay.found pairFiles ⟨"/mods"⟩ (Overlay.empty 0).registrations =
      [hookingAsset, hookedAsset] := pairFound_eq
  have hnew : (Catalogue.empty.insert ⟨0, hookingAsset⟩).get? hookedAsset.slot = none := by
    rw [Catalogue.get?_insert, if_neg (by decide +kernel)]
    exact Catalogue.get?_empty _
  unfold pairLoaded
  rw [Session.actAll, Session.actAll, Session.act]
  change ((Overlay.empty 0).reload pairFiles ⟨"/mods"⟩).overlay.catalogue.scripts = _
  rw [Overlay.overlay_reload, hfound]
  change ((Catalogue.empty.insert ⟨0, hookingAsset⟩).insert ⟨1, hookedAsset⟩).scripts = _
  rw [(Catalogue.consistent_empty.insert _).scripts_insert hnew,
    Catalogue.consistent_empty.scripts_insert (Catalogue.get?_empty _)]
  rfl

/-- A game that links everything. -/
def game : Game Unit where
  sync _ _ _ := ()
  link _ _ _ _ := (0, ())

end Sample

/-- One script is linked beside the other one, which is recognised by its buffer. -/
theorem pair_linked_and_recognised :
    let hooking : LoadedScript := ⟨0, Sample.hookingScript⟩
    let hooked : LoadedScript := ⟨1, Sample.hookedScript⟩
    let linked :=
      Sample.pairLoaded.link Sample.game.recorded .server hooked.buffer true ((), [])
    Sample.pairLoaded.catalogue.scripts = [hooking, hooked] ∧
      LinkRun [hooking, hooked] .server hooked.buffer true linked.2.2
        (.ok ⟨[Key.ofName "mods/a.gsc"], true, 0⟩) ∧
      linked.2.2 = [.sync .server hooking, .link .server hooking.buffer true 0,
        .sync .server hooked, .link .server hooked.buffer true 0] ∧
      hookingInto [hooking, hooked] hooked.buffer = [hooking] ∧
      scriptOf? [hooking, hooked] hooked.buffer = some hooked := by
  intro hooking hooked linked
  have hlinked : linked = (.ok ⟨[Key.ofName "mods/a.gsc"], true, 0⟩, ((),
      [.sync .server hooking, .link .server hooking.buffer true 0,
        .sync .server hooked, .link .server hooked.buffer true 0])) := by
    unfold linked Overlay.link
    rw [Sample.pairScripts_eq]
    decide +kernel
  obtain ⟨houtcome, -, hrun, -, -⟩ := link_makes_calls Sample.game Sample.pairFiles 0
    [.operate (.reload ⟨"/mods"⟩)] .server hooked.buffer true ()
  have hscripts : ((Session.start Sample.pairFiles 0).actAll
      [.operate (.reload ⟨"/mods"⟩)]).overlay.catalogue.scripts = [hooking, hooked] :=
    Sample.pairScripts_eq
  rw [← houtcome, hscripts] at hrun
  change LinkRun _ _ _ _ linked.2.2 linked.1 at hrun
  rw [hlinked] at hrun ⊢
  exact ⟨hscripts, hrun, rfl, by decide +kernel, by decide +kernel⟩

end AssetOverlay

import AssetOverlay.Proofs.Link.Calls
import AssetOverlay.Proofs.Session.Lifetime
import AssetOverlay.Proofs.Session.Unfolding

/-!
# Recognising buffers

A script that was handed out is recognised by its buffer as long as it is in force, which is until
packages are reloaded.  What counts is the object and not what it holds: neither a copy of the
buffer nor a part of it is recognised, and after a reload the same file is another object.
-/

namespace AssetOverlay

/-- The calls for scripts that hook in end with a link. -/
theorem callsOf_ne_append_sync (machine : ScriptMachine) (run : Bool) (scripts : List LoadedScript)
    (codes : List Int32) (earlier : List Call) (loaded : LoadedScript) :
    callsOf machine run scripts codes ≠ earlier ++ [.sync machine loaded] := by
  intro heq
  have hlast := congrArg List.getLast? heq
  rcases List.eq_nil_or_concat (scripts.zip codes) with hnil | ⟨before, last, hzip⟩
  · simp [callsOf, hnil] at hlast
  · simp [callsOf, hzip, LoadedScript.calls] at hlast

theorem BesideRun.eq_callsOf {machine : ScriptMachine} {run : Bool} {scripts : List LoadedScript}
    {calls : List Call} (h : BesideRun machine run scripts calls none) :
    ∃ codes, calls = callsOf machine run scripts codes := by
  cases h with
  | linked scripts codes hlength hcodes => exact ⟨codes, rfl⟩

section Untroubled

variable {State : Type} {game : Game State}

theorem linkBeside_ok_of_nonneg
    (h : ∀ machine buffer run state, 0 ≤ (game.link machine buffer run state).1)
    (machine : ScriptMachine) (run : Bool) (linked : Key) (scripts : List LoadedScript)
    (state : State) :
    ∃ names, (linkBeside game machine run linked scripts state).1 = .ok names := by
  induction scripts generalizing state with
  | nil => exact ⟨[], rfl⟩
  | cons loaded rest ih =>
    let synced := game.sync machine loaded state
    obtain ⟨names, hnames⟩ := ih (game.link machine loaded.buffer run synced).2
    have hcode : ¬ (game.link machine loaded.buffer run synced).1 < 0 :=
      Int32.not_lt.mpr (h machine loaded.buffer run synced)
    refine ⟨loaded.script.name :: names, ?_⟩
    rw [linkBeside]
    dsimp only
    rw [if_neg hcode, hnames]
    rfl

/-- A game that answers without a negative code does not stop a link. -/
theorem linkScript_ok_of_nonneg
    (h : ∀ machine buffer run state, 0 ≤ (game.link machine buffer run state).1)
    (scripts : List LoadedScript) (machine : ScriptMachine) (buffer : Buffer) (run : Bool)
    (state : State) :
    ∃ outcome, (linkScript scripts game machine buffer run state).1 = .ok outcome := by
  have hhooking :
      ∃ names, (linkHooking scripts game machine buffer run state).1 = .ok names := by
    unfold linkHooking
    cases Script.nameOf? buffer.bytes with
    | none => exact ⟨[], rfl⟩
    | some name => exact linkBeside_ok_of_nonneg h machine run name (hooking scripts name) state
  obtain ⟨names, hnames⟩ := hhooking
  unfold linkScript
  split
  · next failure next heq =>
    rw [heq] at hnames
    cases hnames
  · exact ⟨_, rfl⟩

end Untroubled

section Outcome

variable {scripts : List LoadedScript} {machine : ScriptMachine} {buffer : Buffer} {run : Bool}
  {calls : List Call} {outcome : LinkOutcome}

theorem LinkRun.replaced_eq (h : LinkRun scripts machine buffer run calls (.ok outcome)) :
    outcome.replaced = (owner? scripts buffer).isSome := by
  rw [owner?_eq_scriptOf?]
  cases h with
  | completed calls code hrun => rfl

/-- The last script whose detours the game is told is linked itself, unless it owns the buffer. -/
theorem LinkRun.ends_with_sync_iff (h : LinkRun scripts machine buffer run calls (.ok outcome))
    (loaded : LoadedScript) :
    (∃ earlier code, calls = earlier ++ [.sync machine loaded, .link machine buffer run code]) ↔
      owner? scripts buffer = some loaded := by
  rw [owner?_eq_scriptOf?]
  cases h with
  | completed beside code hrun =>
    constructor
    · rintro ⟨earlier, last, heq⟩
      have hends : beside ++ ((scriptOf? scripts buffer).map (Call.sync machine)).toList ++
          [Call.link machine buffer run code] =
            earlier ++ [.sync machine loaded] ++ [.link machine buffer run last] := by
        simpa using heq
      have hbeside := (List.append_inj' hends rfl).1
      cases howner : scriptOf? scripts buffer with
      | none =>
        rw [howner, Option.map_none, Option.toList_none, List.append_nil] at hbeside
        obtain ⟨codes, hcodes⟩ := hrun.eq_callsOf
        rw [hcodes] at hbeside
        exact absurd hbeside (callsOf_ne_append_sync machine run _ codes earlier loaded)
      | some owner =>
        rw [howner] at hbeside
        cases (List.append_inj' hbeside rfl).2
        rfl
    · intro howner
      refine ⟨beside, code, ?_⟩
      rw [howner]
      simp

end Outcome

namespace Overlay.Sound

/-- No buffer belongs to two of the scripts in force. -/
theorem countP_owns_le_one {overlay : Overlay} (h : overlay.Sound) (buffer : Buffer) :
    (overlay.catalogue.scripts.countP fun loaded ↦ loaded.owns buffer) ≤ 1 := by
  have hnodup : overlay.catalogue.scripts.Nodup := h.nodup_names.of_map _
  by_cases howner : ∃ loaded ∈ overlay.catalogue.scripts, loaded.owns buffer
  · obtain ⟨loaded, hloaded, howns⟩ := howner
    have hsame : ∀ other ∈ overlay.catalogue.scripts, other.owns buffer → other = loaded := by
      intro other hother hownsOther
      have hfirst := h.owner?_eq_some hloaded howns
      rw [h.owner?_eq_some hother hownsOther] at hfirst
      exact Option.some.inj hfirst
    calc
      _ ≤ overlay.catalogue.scripts.count loaded :=
        List.countP_mono_left fun other hother howns ↦ beq_iff_eq.mpr (hsame other hother howns)
      _ ≤ 1 := List.nodup_iff_count_le_one.mp hnodup loaded
  · rw [List.countP_eq_zero.mpr fun loaded hloaded howns ↦ howner ⟨loaded, hloaded, howns⟩]
    exact Nat.zero_le 1

/-- A part of the buffer of a script in force belongs to no script. -/
theorem owner?_cut {overlay : Overlay} (h : overlay.Sound) {held : LoadedScript}
    (hheld : held ∈ overlay.catalogue.scripts) {length : Nat}
    (hlength : length < held.script.code.length) :
    owner? overlay.catalogue.scripts (held.buffer.cut length) = none := by
  apply List.find?_eq_none.mpr
  intro loaded hloaded howns
  simp only [LoadedScript.owns, LoadedScript.buffer, Buffer.cut, Bool.and_eq_true, beq_iff_eq,
    Option.some.injEq, List.length_take] at howns
  have hsame := h.eq_of_serial_eq hheld hloaded howns.1
  rw [← hsame] at howns
  omega

end Overlay.Sound

namespace Session

theorem sound_atMoment (files : FileTree) (nextSerial : Nat) (actions : List Action)
    (moment : Nat) : ((start files nextSerial).atMoment actions moment).overlay.Sound :=
  performAll_keeps sound_perform _ _ (Overlay.sound_of_catalogue_eq_empty rfl)

end Session

/-- An asset that holds a script is looked up as a script. -/
theorem Overlay.Sound.kind_eq_script {overlay : Overlay} (h : overlay.Sound) {kind : AssetKind}
    {key : Key} {asset : LoadedAsset} {held : LoadedScript}
    (hasset : overlay.catalogue.get? (kind, key) = some asset)
    (hheld : asset.script? = some held) : kind = .script := by
  have hslot : asset.asset.kind = kind :=
    congrArg Prod.fst (h.consistent.slot_eq (kind, key) asset hasset)
  rw [← hslot, ← Asset.isSome_script?_iff, (LoadedAsset.script?_eq_some_iff.mp hheld).1]
  rfl

section Held

variable {session : Session} {kind : AssetKind} {key : Key} {asset : LoadedAsset}
  {held : LoadedScript} {operations : List Operation}

/-- What becomes of a script that was handed out: it stays in force while no operation reloads, and
once one has, everything in force is newer. -/
theorem held_in_force_or_past (h : session.overlay.Sound)
    (hasset : session.overlay.catalogue.get? (kind, key) = some asset)
    (hheld : asset.script? = some held)
    (hlater : (session.performAll operations).overlay.Sound) :
    let later := (session.performAll operations).overlay
    ((∀ operation ∈ operations, operation.reloads = false) ∧ held ∈ later.catalogue.scripts) ∨
      ((∃ operation ∈ operations, operation.reloads = true) ∧
        later.LoadedSince session.overlay.nextSerial ∧
        held.serial < session.overlay.nextSerial) := by
  intro later
  by_cases hkept : ∀ operation ∈ operations, operation.reloads = false
  · -- Only a reload could have taken the script out of its slot.
    have hscript := h.kind_eq_script hasset hheld
    rw [hscript, ← session.get?_script_performAll hkept key] at hasset
    exact .inl ⟨hkept, hlater.mem_scripts hasset hheld⟩
  · obtain ⟨operation, hoperation⟩ := not_forall.mp hkept
    obtain ⟨hmem, hreloads⟩ := Classical.not_imp.mp hoperation
    have hreload : ∃ operation ∈ operations, operation.reloads = true :=
      ⟨operation, hmem, Bool.not_eq_false _ ▸ hreloads⟩
    refine .inr ⟨hreload, Session.loadedSince_performAll (Nat.le_refl _) (.inl hreload), ?_⟩
    rw [← (LoadedAsset.script?_eq_some_iff.mp hheld).2]
    exact h.serial_lt (kind, key) asset hasset

/-- The buffer of a script that was handed out belongs to this script or to none, and to this one as
long as no operation reloads. -/
theorem owner?_held (h : session.overlay.Sound)
    (hasset : session.overlay.catalogue.get? (kind, key) = some asset)
    (hheld : asset.script? = some held)
    (hlater : (session.performAll operations).overlay.Sound) :
    let owner := owner? (session.performAll operations).overlay.catalogue.scripts held.buffer
    (owner = some held ∧ ∀ operation ∈ operations, operation.reloads = false) ∨
      (owner = none ∧ ¬ ∀ operation ∈ operations, operation.reloads = false) := by
  intro owner
  rcases held_in_force_or_past h hasset hheld hlater with
    ⟨hkept, hmem⟩ | ⟨⟨operation, hoperation, hreloads⟩, hnew, hold⟩
  · have howns : held.owns held.buffer := by simp [LoadedScript.owns, LoadedScript.buffer]
    exact .inl ⟨hlater.owner?_eq_some hmem howns, hkept⟩
  · refine .inr ⟨hnew.owner?_eq_none rfl hold, ?_⟩
    intro hkept
    rw [hkept operation hoperation] at hreloads
    cases hreloads

/-- A part of the buffer of a script that was handed out belongs to no script. -/
theorem owner?_held_cut (h : session.overlay.Sound)
    (hasset : session.overlay.catalogue.get? (kind, key) = some asset)
    (hheld : asset.script? = some held)
    (hlater : (session.performAll operations).overlay.Sound) {length : Nat}
    (hlength : length < held.script.code.length) :
    owner? (session.performAll operations).overlay.catalogue.scripts (held.buffer.cut length) =
      none := by
  rcases held_in_force_or_past h hasset hheld hlater with ⟨-, hmem⟩ | ⟨-, hnew, hold⟩
  · exact hlater.owner?_cut hmem hlength
  · exact hnew.owner?_eq_none rfl hold

end Held

theorem Overlay.lookUp_eq_get? (overlay : Overlay) (kind : AssetKind) (key : Key) :
    (overlay.lookUp kind key).1 = overlay.catalogue.get? (kind, key) := by
  unfold lookUp
  cases overlay.catalogue.get? (kind, key) <;> rfl

/-- A script that was handed out at one moment of a run is recognised by its buffer at a later one
if and only if no operation reloaded in between: the link is told to have replaced a script, and the
last thing before the link of the buffer is that the game is told this script's detours.  A copy that
starts where no script in force starts, the buffer of an asset that is no script, and a part of the
buffer are never recognised, and no buffer belongs to two scripts.  Among the moments of the run are
its end and the beginning of every action, those inside the calls of links included. -/
theorem handed_out_buffer_recognised_iff {State : Type} (game : Game State) (files : FileTree)
    (nextSerial : Nat) (actions : List Action) (moment count : Nat) (kind : AssetKind) (key : Key)
    (asset : LoadedAsset) (held : LoadedScript) (machine : ScriptMachine) (run : Bool)
    (state : State)
    (hasset : (((Session.start files nextSerial).atMoment actions moment).overlay.lookUp
      kind key).1 = some asset)
    (hheld : asset.script? = some held) :
    let start := Session.start files nextSerial
    let entered := (start.atMoment actions (moment + count)).overlay
    let between := start.operationsSince actions moment count
    let linked (buffer : Buffer) := entered.link game.recorded machine buffer run (state, [])
    (∀ outcome, (linked held.buffer).1 = .ok outcome →
        (outcome.replaced = true ↔ ∀ operation ∈ between, operation.reloads = false) ∧
        ((∃ earlier code, (linked held.buffer).2.2 =
            earlier ++ [.sync machine held, .link machine held.buffer run code]) ↔
          ∀ operation ∈ between, operation.reloads = false)) ∧
      (∀ origin, (∀ loaded ∈ entered.catalogue.scripts, origin ≠ some loaded.serial) →
        ∀ outcome, (linked ⟨held.script.code, origin⟩).1 = .ok outcome →
          outcome.replaced = false) ∧
      (∀ slot other, entered.catalogue.get? slot = some other → other.script? = none →
        ∀ buffer, other.buffer? = some buffer → ∀ outcome, (linked buffer).1 = .ok outcome →
          outcome.replaced = false) ∧
      (∀ length < held.script.code.length, ∀ outcome,
        (linked (held.buffer.cut length)).1 = .ok outcome → outcome.replaced = false) ∧
      (∀ buffer, (entered.catalogue.scripts.countP fun loaded ↦ loaded.owns buffer) ≤ 1) ∧
      (∀ session, start.Begins actions session → ∃ begun, start.atMoment actions begun = session) ∧
      start.atMoment actions (start.operationsOfAll actions).length = start.actAll actions := by
  intro start entered between linked
  rw [Overlay.lookUp_eq_get?] at hasset
  have hearlier : (start.atMoment actions moment).overlay.Sound :=
    Session.sound_atMoment files nextSerial actions moment
  have hsound : entered.Sound := Session.sound_atMoment files nextSerial actions (moment + count)
  have hentered : entered = ((start.atMoment actions moment).performAll between).overlay :=
    congrArg Session.overlay (start.atMoment_add actions moment count)
  have hrun (buffer : Buffer) :
      LinkRun entered.catalogue.scripts machine buffer run (linked buffer).2.2 (linked buffer).1 :=
    linkScript_recorded game machine entered.catalogue.scripts buffer run state
  have hreplaced (buffer : Buffer) (hnone : owner? entered.catalogue.scripts buffer = none)
      (outcome : LinkOutcome) (hok : (linked buffer).1 = .ok outcome) :
      outcome.replaced = false := by
    have hlink := hrun buffer
    rw [hok] at hlink
    rw [hlink.replaced_eq, hnone]
    rfl
  refine ⟨?_, ?_, ?_, ?_, hsound.countP_owns_le_one, fun _ hbegins ↦ hbegins.exists_moment,
    start.atMoment_length actions⟩
  · intro outcome hok
    have hlink := hrun held.buffer
    rw [hok] at hlink
    rw [hlink.replaced_eq, hlink.ends_with_sync_iff, hentered]
    rcases owner?_held hearlier hasset hheld (hentered ▸ hsound) with
      ⟨howner, hkept⟩ | ⟨howner, hreloaded⟩
    · rw [howner]
      exact ⟨iff_of_true rfl hkept, iff_of_true rfl hkept⟩
    · rw [howner]
      exact ⟨iff_of_false Bool.false_ne_true hreloaded, iff_of_false nofun hreloaded⟩
  · intro origin horigin
    exact hreplaced _ (owner?_eq_none_of_origin horigin)
  · intro slot other hother hnone buffer hbuffer
    exact hreplaced _ (hsound.owner?_of_script?_eq_none hother hnone hbuffer)
  · intro length hlength
    apply hreplaced
    rw [hentered]
    exact owner?_held_cut hearlier hasset hheld (hentered ▸ hsound) hlength

/-- The only script of a package is the only one in force after a reload. -/
theorem Overlay.scripts_reload {overlay : Overlay} {files : FileTree} {root : Path} {asset : Asset}
    {script : Script} (hfound : found files root overlay.registrations = [asset])
    (hscript : asset.script? = some script) :
    (overlay.reload files root).overlay.catalogue.scripts = [⟨overlay.nextSerial, script⟩] := by
  rw [overlay_reload, hfound]
  change (Catalogue.empty.insert ⟨overlay.nextSerial, asset⟩).scripts = _
  rw [Catalogue.consistent_empty.scripts_insert (Catalogue.get?_empty _), LoadedAsset.script?,
    hscript]
  rfl

namespace Sample

/-- The manifest of a package with one script. -/
def manifest : String :=
  "\x7b\"data\": [\x7b\"type\": \"scriptparsetree\", \"name\": \"a.gsc\", \"path\": \"a\"\x7d]\x7d"

/-- A detour without code at the very end of that script. -/
def detour : Detour :=
  ⟨0, 0, 0, 96, 0, ⟨0⟩⟩

/-- A root with that package. -/
def files : FileTree where
  entries := [(["mods"], .folder), (["mods", "one"], .folder),
    (["mods", "one", "metadata.json"], .file (Bytes.ofText manifest)),
    (["mods", "one", "a"], .file (Block.encode [detour] ++ compiled))]
  distinct := by decide

/-- The script of that package. -/
def script : Script :=
  ⟨Key.ofName "a.gsc", Script.rename (Key.ofName "a.gsc") compiled, [], [detour]⟩

/-- Packages are loaded, a file is registered under the key of the script, and packages are loaded
again. -/
def actions : List Action :=
  [.operate (.reload ⟨"/mods"⟩),
    .operate (.access (.register ⟨"/mods/one/a"⟩ (Key.ofName "a.gsc"))),
    .operate (.reload ⟨"/mods"⟩)]

/-- The asset that the package declares. -/
def asset : Asset :=
  ⟨Key.ofName "a.gsc", ⟨"/mods/one/a"⟩, .script script⟩

theorem found_eq : Overlay.found files ⟨"/mods"⟩ [] = [asset] := by
  decide +kernel

theorem catalogue_eq :
    ((Session.start files 0).atMoment actions 1).overlay.catalogue =
      Catalogue.empty.insert ⟨0, asset⟩ := by
  have hfound : Overlay.found files ⟨"/mods"⟩ (Overlay.empty 0).registrations = [asset] := found_eq
  change ((Overlay.empty 0).reload files ⟨"/mods"⟩).overlay.catalogue = _
  rw [Overlay.overlay_reload, hfound]
  rfl

theorem lookUp_eq :
    (((Session.start files 0).atMoment actions 1).overlay.lookUp .script (Key.ofName "a.gsc")).1 =
      some ⟨0, asset⟩ := by
  rw [Overlay.lookUp_eq_get?, catalogue_eq, Catalogue.get?_insert]
  rfl

theorem scripts_eq :
    ((Session.start files 0).atMoment actions 1).overlay.catalogue.scripts = [⟨0, script⟩] := by
  have hfound : Overlay.found files ⟨"/mods"⟩ (Overlay.empty 0).registrations = [asset] := found_eq
  change ((Overlay.empty 0).reload files ⟨"/mods"⟩).overlay.catalogue.scripts = _
  rw [Overlay.scripts_reload hfound rfl]
  rfl

end Sample

theorem sample_recognised_until_reload :
    let linked (moment : Nat) :=
      ((Session.start Sample.files 0).atMoment Sample.actions moment).overlay.link
        Sample.game.recorded .server (LoadedScript.buffer ⟨0, Sample.script⟩) true ((), [])
    (∃ outcome, (linked 2).1 = .ok outcome ∧ outcome.replaced = true) ∧
      ∃ outcome, (linked 3).1 = .ok outcome ∧ outcome.replaced = false := by
  intro linked
  have hok (moment : Nat) : ∃ outcome, (linked moment).1 = .ok outcome :=
    linkScript_ok_of_nonneg (fun _ _ _ _ ↦ Int32.le_refl 0) _ _ _ _ _
  obtain ⟨early, hearly⟩ := hok 2
  obtain ⟨late, hlate⟩ := hok 3
  have hrecognised (count : Nat) := (handed_out_buffer_recognised_iff Sample.game Sample.files 0
    Sample.actions 1 count .script (Key.ofName "a.gsc") ⟨0, Sample.asset⟩ ⟨0, Sample.script⟩
    .server true () Sample.lookUp_eq rfl).1
  refine ⟨⟨early, hearly, (hrecognised 1 early hearly).1.mpr ?_⟩, late, hlate, ?_⟩
  · have hbetween : (Session.start Sample.files 0).operationsSince Sample.actions 1 1 =
        [.access (.register ⟨"/mods/one/a"⟩ (Key.ofName "a.gsc"))] := rfl
    rw [hbetween, List.forall_mem_singleton]
    rfl
  · apply Bool.eq_false_iff.mpr
    intro hreplaced
    have hreload : Operation.reload ⟨"/mods"⟩ ∈
        (Session.start Sample.files 0).operationsSince Sample.actions 1 2 :=
      List.mem_cons_of_mem _ List.mem_cons_self
    have hkept := (hrecognised 2 late hlate).1.mp hreplaced _ hreload
    cases hkept

end AssetOverlay

import AssetOverlay.Proofs.Link.Calls
import AssetOverlay.Proofs.Session.Unfolding

/-!
# Links during which the session is acted on

Inside its calls the game may do to the session whatever it likes: reload packages, register files,
link further scripts, to any depth.  A link works on the scripts that were in force when it began,
so two games that give the same answers get the same calls from it, however different the things are
that they do meanwhile.  The session afterwards is what these things alone make of it.
-/

namespace AssetOverlay

namespace Game

/-- The calls of games that answer alike are recorded alike. -/
theorem Simulates.recorded {State Other : Type} {game : Game State} {other : Game Other}
    {related : State → Other → Prop} (h : game.Simulates other related) :
    game.recorded.Simulates other.recorded fun state mirrored ↦
      related state.1 mirrored.1 ∧ state.2 = mirrored.2 where
  sync := by
    rintro machine loaded ⟨state, calls⟩ ⟨mirrored, _⟩ ⟨hstate, rfl⟩
    exact ⟨h.sync machine loaded state mirrored hstate, rfl⟩
  code := by
    rintro machine buffer run ⟨state, calls⟩ ⟨mirrored, _⟩ ⟨hstate, rfl⟩
    exact h.code machine buffer run state mirrored hstate
  link := by
    rintro machine buffer run ⟨state, calls⟩ ⟨mirrored, _⟩ ⟨hstate, rfl⟩
    refine ⟨h.link machine buffer run state mirrored hstate, ?_⟩
    have hcode := h.code machine buffer run state mirrored hstate
    change calls ++ [Call.link machine buffer run (game.link machine buffer run state).1] = _
    rw [hcode]
    rfl

/-- As many calls are recorded as were made. -/
theorem acting_recorded_keeps (codes : Nat → Int32) (inside : Nat → List Action) :
    (acting codes inside).recorded.Keeps fun state ↦ state.1.calls = state.2.length := by
  constructor
  · rintro machine loaded ⟨state, calls⟩ hcalls
    change state.calls + 1 = (calls ++ [Call.sync machine loaded]).length
    rw [List.length_append, List.length_singleton, hcalls]
  · rintro machine buffer run ⟨state, calls⟩ hcalls
    change state.calls + 1 =
      (calls ++ [Call.link machine buffer run (codes state.calls)]).length
    rw [List.length_append, List.length_singleton, hcalls]

end Game

/-- If two games answer a link with the same codes, it makes the same calls to them, with the same
scripts, detours and bytes, and comes to the same outcome, whatever each of them does to the session
inside the calls.  Afterwards the session is what the actions inside the calls make of it, one after
the other. -/
theorem link_undisturbed_by_actions (session : Session) (machine : ScriptMachine)
    (buffer : Buffer) (run : Bool) (codes : Nat → Int32) (inside other : Nat → List Action) :
    let linked (inside : Nat → List Action) :=
      session.overlay.link (Game.acting codes inside).recorded machine buffer run (⟨session, 0⟩, [])
    (linked inside).1 = (linked other).1 ∧
      (linked inside).2.2 = (linked other).2.2 ∧
      session.act (.link machine buffer run codes inside) = (linked inside).2.1.session ∧
      (linked inside).2.1.session =
        session.actAll (actionsInside inside (linked inside).2.2.length) := by
  intro linked
  let scripts := session.overlay.catalogue.scripts
  let start : LinkingSession := ⟨session, 0⟩
  let begun : LinkingSession × List Call := (start, [])
  let last := (linkScript scripts (.acting codes inside) machine buffer run start).2
  have hbegun : begun.1.calls = begun.1.calls ∧ begun.2 = begun.2 := ⟨rfl, rfl⟩
  obtain ⟨houtcome, -, hcalls⟩ :=
    (Game.acting_simulates codes inside other).recorded.linkScript scripts machine buffer run hbegun
  have hstart : begun.1 = start := rfl
  have hstate : (linked inside).2.1 = last :=
    ((Game.acting codes inside).recorded_simulates.linkScript scripts machine buffer run hstart).2
  have hcount : (linked inside).2.1.calls = (linked inside).2.2.length :=
    (Game.acting_recorded_keeps codes inside).linkScript scripts machine buffer run begun rfl
  have hlast : last.session = session.actAll (actionsInside inside last.calls) :=
    (Game.acting_keeps codes inside session).linkScript scripts machine buffer run start
      (session.actAll_actionsInside_zero inside).symm
  refine ⟨houtcome, hcalls, ?_, ?_⟩
  · rw [Session.act, hstate]
    rfl
  · calc
      (linked inside).2.1.session = session.actAll (actionsInside inside last.calls) := by
        rw [hstate, hlast]
      _ = session.actAll (actionsInside inside (linked inside).2.2.length) := by
        rw [← hstate, hcount]

end AssetOverlay

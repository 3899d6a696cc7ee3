import AssetOverlay.Proofs.Link.Simulation
import AssetOverlay.Session

/-!
# Invariants of sessions

An operation can do three things to the overlay: leave it alone, reload it, or register a file.

Linking changes nothing by itself: the state of the game afterwards is what its calls made of it.  A
property that every operation keeps is therefore kept by every list of actions, whatever the game
does inside its calls and to whatever depth.
-/

namespace AssetOverlay

/-- Whether an operation reloads packages.  A command that is refused does not. -/
def Operation.reloads : Operation → Bool
  | .reload _ => true
  | .command _ inGame => !inGame
  | .change _ | .access _ => false

/-- What an operation can do to the overlay. -/
theorem Session.overlay_perform (session : Session) (operation : Operation) :
    (operation.reloads = false ∧ (session.perform operation).overlay = session.overlay) ∨
      (operation.reloads = true ∧ ∃ root,
        (session.perform operation).overlay =
          (session.overlay.reload session.files root).overlay) ∨
      (operation.reloads = false ∧ ∃ path key events,
        session.overlay.register session.files path key =
          .ok ((session.perform operation).overlay, events)) := by
  cases operation with
  | change files => exact .inl ⟨rfl, rfl⟩
  | reload root => exact .inr (.inl ⟨rfl, root, rfl⟩)
  | command root inGame =>
    cases inGame with
    | true => exact .inl ⟨rfl, rfl⟩
    | false => exact .inr (.inl ⟨rfl, root, rfl⟩)
  | access access =>
    cases access with
    | lookUp kind key => exact .inl ⟨rfl, rfl⟩
    | register path key =>
      simp only [perform, Session.access]
      split
      · next overlay events hregister => exact .inr (.inr ⟨rfl, path, key, events, hregister⟩)
      · exact .inl ⟨rfl, rfl⟩

/-- What every reload brings about and no registration ends, no operation ends. -/
theorem Session.perform_keeps {property : Overlay → Prop}
    (hreload : ∀ overlay files root, property (Overlay.reload overlay files root).overlay)
    (hregister : ∀ (overlay : Overlay) files path key next events, property overlay →
      overlay.register files path key = .ok (next, events) → property next)
    (session : Session) (operation : Operation) (h : property session.overlay) :
    property (session.perform operation).overlay := by
  rcases session.overlay_perform operation with
    ⟨-, hsame⟩ | ⟨-, root, hreloaded⟩ | ⟨-, path, key, events, hregistered⟩
  · rw [hsame]
    exact h
  · rw [hreloaded]
    exact hreload session.overlay session.files root
  · exact hregister session.overlay session.files path key _ events h hregistered

/-- Neither kind of call to the game ends a property of its state. -/
structure Game.Keeps {State : Type} (game : Game State) (property : State → Prop) : Prop where
  sync : ∀ machine loaded state, property state → property (game.sync machine loaded state)
  link : ∀ machine buffer run state,
    property state → property (game.link machine buffer run state).2

/-- A game that keeps a property answers like itself. -/
theorem Game.Keeps.simulates {State : Type} {game : Game State} {property : State → Prop}
    (h : game.Keeps property) :
    game.Simulates game (fun state mirrored ↦ state = mirrored ∧ property state) where
  sync := by
    rintro machine loaded state _ ⟨rfl, hstate⟩
    exact ⟨rfl, h.sync machine loaded state hstate⟩
  code := by
    rintro machine buffer run state _ ⟨rfl, -⟩
    rfl
  link := by
    rintro machine buffer run state _ ⟨rfl, hstate⟩
    exact ⟨rfl, h.link machine buffer run state hstate⟩

theorem Game.Keeps.linkScript {State : Type} {game : Game State} {property : State → Prop}
    (h : game.Keeps property) (scripts : List LoadedScript) (machine : ScriptMachine)
    (buffer : Buffer) (run : Bool) (state : State) (hstate : property state) :
    property (linkScript scripts game machine buffer run state).2 :=
  (h.simulates.linkScript scripts machine buffer run ⟨rfl, hstate⟩).2.2

theorem Session.performAll_keeps {property : Session → Prop}
    (h : ∀ session operation, property session → property (session.perform operation))
    (session : Session) (operations : List Operation) (hsession : property session) :
    property (session.performAll operations) := by
  induction operations generalizing session with
  | nil => exact hsession
  | cons operation rest ih => exact ih _ (h session operation hsession)

/-- What every operation keeps, every list of actions keeps. -/
theorem Session.actAll_keeps {property : Session → Prop}
    (h : ∀ session operation, property session → property (session.perform operation))
    (session : Session) (actions : List Action) (hsession : property session) :
    property (session.actAll actions) := by
  induction session, actions using Session.actAll.induct
    (motive_1 := fun session action ↦ property session → property (session.act action)) with
  | case1 session operation hstart =>
    rw [Session.act]
    exact h session operation hstart
  | case2 session machine buffer run codes inside ih hstart =>
    -- Inside the link the property is one of the session that the state of the game holds.
    have hgame : (Game.planned codes fun call inner ↦ inner.actAll (inside call)).Keeps
        (fun state ↦ property state.session) :=
      ⟨fun _ _ state hstate ↦ ih state.calls state.session hstate,
        fun _ _ _ state hstate ↦ ih state.calls state.session hstate⟩
    rw [Session.act]
    exact hgame.linkScript _ machine buffer run ⟨session, 0⟩ hstart
  | case3 session => exact hsession
  | case4 session action rest hact ih =>
    rw [Session.actAll]
    exact ih (hact hsession)

end AssetOverlay

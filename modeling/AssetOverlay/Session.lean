import AssetOverlay.Link
import AssetOverlay.Overlay.Reload

/-!
# Sessions

A session is an overlay together with the files around it.  What happens to it while the game runs
is a list of actions: the files become others, packages are reloaded, files are registered, assets
are looked up, and scripts are linked.  While the game links a script it may act on the same session
again, to any depth, so an action that links carries what the game does inside each of the calls.
-/

namespace AssetOverlay

/-- An overlay and the files around it. -/
structure Session where
  overlay : Overlay
  files : FileTree

/-- What the host does to the overlay between two reloads. -/
inductive Access where
  | register (path : Path) (key : Key)
  | lookUp (kind : AssetKind) (key : Key)

/-- What happens to a session, except linking. -/
inductive Operation where
  /-- The files become others. -/
  | change (files : FileTree)
  | reload (root : Path)
  /-- The command to reload is given. -/
  | command (root : Path) (inGame : Bool)
  | access (access : Access)

namespace Session

/-- A session whose overlay has no assets yet. -/
def start (files : FileTree) (nextSerial : Nat) : Session :=
  ⟨.empty nextSerial, files⟩

/-- The session that a reload leaves behind. -/
def ofReload (reload : Overlay.Reload) : Session :=
  ⟨reload.overlay, reload.files⟩

/-- Accesses the overlay. -/
def access (session : Session) : Access → Session
  | .register path key =>
    match session.overlay.register session.files path key with
    | .ok (overlay, _) => { session with overlay }
    | .error _ => session
  | .lookUp _ _ => session

/-- Performs one operation. -/
def perform (session : Session) : Operation → Session
  | .change files => { session with files }
  | .reload root => ofReload (session.overlay.reload session.files root)
  | .command root inGame =>
    match session.overlay.reloadCommand session.files root inGame with
    | some reload => ofReload reload
    | none => session
  | .access access => session.access access

/-- Performs operations one after the other. -/
def performAll (session : Session) (operations : List Operation) : Session :=
  operations.foldl perform session

end Session

/-- Something that happens while the game runs: an operation, or a link in which the game answers
each call with the given code, as far as it has to, and acts on the session inside it. -/
inductive Action where
  | operate (operation : Operation)
  | link (machine : ScriptMachine) (buffer : Buffer) (run : Bool) (codes : Nat → Int32)
      (inside : Nat → List Action)

/-- A session in the middle of a link. -/
structure LinkingSession where
  session : Session
  /-- How many calls the game has answered so far. -/
  calls : Nat

/-- A game that answers its calls with the given codes, and does the given things to the session
inside them. -/
def Game.planned (codes : Nat → Int32) (inside : Nat → Session → Session) :
    Game LinkingSession where
  sync _ _ state := ⟨inside state.calls state.session, state.calls + 1⟩
  link _ _ _ state :=
    (codes state.calls, ⟨inside state.calls state.session, state.calls + 1⟩)

mutual

/-- Lets one action happen. -/
def Session.act (session : Session) : Action → Session
  | .operate operation => session.perform operation
  | .link machine buffer run codes inside =>
    let game := Game.planned codes fun call inner ↦ inner.actAll (inside call)
    (session.overlay.link game machine buffer run ⟨session, 0⟩).2.session

/-- Lets actions happen one after the other. -/
def Session.actAll (session : Session) : List Action → Session
  | [] => session
  | action :: rest => (session.act action).actAll rest

end

end AssetOverlay

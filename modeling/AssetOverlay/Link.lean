import AssetOverlay.Overlay

/-!
# Linking scripts

When the game links a script, every script in force that hooks into it is linked first, each after
the game was told its detours.  If the buffer that the game links is the very one of a script in
force, the game is told that script's detours too.  Then the buffer itself is linked.  A script that
can't be linked ends it all.

The game is a state machine: what it does while it links is its own affair, and may reload packages
or link further scripts.  Linking works on the scripts that were in force when it began.
-/

namespace AssetOverlay

/-- The script machine into which a script is linked. -/
inductive ScriptMachine where
  | server
  | client
deriving DecidableEq

/-- Bytes in memory.  If they start where the bytes of a loaded object start, they carry its serial
number. -/
structure Buffer where
  bytes : Bytes
  origin : Option Nat
deriving DecidableEq

namespace Buffer

/-- Bytes that belong to no loaded object. -/
def fresh (bytes : Bytes) : Buffer :=
  ⟨bytes, none⟩

/-- The first bytes of a buffer, at the place where they are. -/
def cut (buffer : Buffer) (length : Nat) : Buffer :=
  { buffer with bytes := buffer.bytes.take length }

end Buffer

/-- The buffer of a loaded asset, unless it is a table. -/
def LoadedAsset.buffer? (loaded : LoadedAsset) : Option Buffer :=
  loaded.asset.bytes?.map fun bytes ↦ ⟨bytes, some loaded.serial⟩

namespace LoadedScript

/-- The buffer of a loaded script. -/
def buffer (loaded : LoadedScript) : Buffer :=
  ⟨loaded.script.code, some loaded.serial⟩

/-- Whether a buffer is the one of this script, and not just an equal one or a part of it. -/
def owns (loaded : LoadedScript) (buffer : Buffer) : Bool :=
  buffer.origin == some loaded.serial && buffer.bytes.length == loaded.script.code.length

end LoadedScript

/-- The game as linking sees it, with states of the given type. -/
structure Game (State : Type) where
  /-- Tells the game the detours of a script. -/
  sync : ScriptMachine → LoadedScript → State → State
  /-- Lets the game link a buffer and run it or not.  A negative code is an error. -/
  link : ScriptMachine → Buffer → (run : Bool) → State → Int32 × State

/-- A script that could not be linked beside another one. -/
structure LinkFailure where
  script : Key
  linked : Key
  code : Int32
deriving DecidableEq

namespace LinkFailure

def message (failure : LinkFailure) : String :=
  "script link failed with code " ++ toString failure.code.toInt

/-- The event of a failure. -/
def event (failure : LinkFailure) : Event :=
  .linkFailed failure.script failure.linked failure.code

end LinkFailure

/-- What linking came to. -/
structure LinkOutcome where
  /-- The scripts that were linked first, in their order. -/
  injected : List Key
  /-- Whether the buffer was one of a script in force. -/
  replaced : Bool
  /-- The code of linking the buffer itself. -/
  code : Int32
deriving DecidableEq

/-- The events of a link, after those of everything that happened inside it. -/
def linkEvents : Except LinkFailure LinkOutcome → List Event
  | .ok _ => []
  | .error failure => [failure.event]

/-- Links scripts beside another one, one after the other. -/
def linkBeside {State : Type} (game : Game State) (machine : ScriptMachine) (run : Bool)
    (linked : Key) : List LoadedScript → State → Except LinkFailure (List Key) × State
  | [], state => (.ok [], state)
  | loaded :: rest, state =>
    let (code, next) := game.link machine loaded.buffer run (game.sync machine loaded state)
    if code < 0 then (.error ⟨loaded.script.name, linked, code⟩, next)
    else
      let (outcome, last) := linkBeside game machine run linked rest next
      (outcome.map (loaded.script.name :: ·), last)

/-- The scripts that hook into the one with the given name. -/
def hooking (scripts : List LoadedScript) (name : Key) : List LoadedScript :=
  scripts.filter fun loaded ↦ loaded.script.hooksInto name

/-- The script that a buffer belongs to. -/
def owner? (scripts : List LoadedScript) (buffer : Buffer) : Option LoadedScript :=
  scripts.find? fun loaded ↦ loaded.owns buffer

/-- Links the scripts that hook into the one in a buffer, if the buffer presents a name. -/
def linkHooking {State : Type} (scripts : List LoadedScript) (game : Game State)
    (machine : ScriptMachine) (buffer : Buffer) (run : Bool) (state : State) :
    Except LinkFailure (List Key) × State :=
  match Script.nameOf? buffer.bytes with
  | some name => linkBeside game machine run name (hooking scripts name) state
  | none => (.ok [], state)

/-- Links a buffer itself, after the detours of the script that it belongs to were told. -/
def linkBuffer {State : Type} (scripts : List LoadedScript) (game : Game State)
    (machine : ScriptMachine) (buffer : Buffer) (run : Bool) (state : State) : Int32 × State :=
  match owner? scripts buffer with
  | some loaded => game.link machine buffer run (game.sync machine loaded state)
  | none => game.link machine buffer run state

/-- Links a buffer, given the scripts in force. -/
def linkScript {State : Type} (scripts : List LoadedScript) (game : Game State)
    (machine : ScriptMachine) (buffer : Buffer) (run : Bool) (state : State) :
    Except LinkFailure LinkOutcome × State :=
  match linkHooking scripts game machine buffer run state with
  | (.error failure, next) => (.error failure, next)
  | (.ok injected, next) =>
    let (code, last) := linkBuffer scripts game machine buffer run next
    (.ok ⟨injected, (owner? scripts buffer).isSome, code⟩, last)

/-- Links a buffer with the scripts now in force. -/
def Overlay.link {State : Type} (overlay : Overlay) (game : Game State) (machine : ScriptMachine)
    (buffer : Buffer) (run : Bool) (state : State) : Except LinkFailure LinkOutcome × State :=
  linkScript overlay.catalogue.scripts game machine buffer run state

end AssetOverlay

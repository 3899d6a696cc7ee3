import AssetOverlay.Link
import AssetOverlay.Logging
import AssetOverlay.Overlay.Reload
import AssetOverlay.Settings.File

/-!
# The host

The host of the game keeps the settings and the overlay while the game runs, and forwards to them
the lookups and links of the game and the commands of the user.
-/

namespace AssetOverlay

/-- The settings and the assets in force. -/
structure Host where
  dataFolder : Path
  settings : Settings
  overlay : Overlay

/-- A process in which another part has installed its logger, to which all records go. -/
def Logging.taken : Logging :=
  { unset with installed := true }

/-- What is written on the standard error output when logging could not be started. -/
def Logging.Start.complaint? (begun : Start) : Option String :=
  begun.failure?.map fun failure ↦
    "mod loader: unable to start logging: " ++ failure.report ++ "\n"

/-- Sets logging up again.  A logger is installed already, so this fails, but only after the file of
the log was created or emptied. -/
def restartLog (files : FileTree) (path : Path) : FileTree × Fault :=
  let start := Logging.taken.start files path Level.debug.rank
  match start.failure? with
  | some (.notCreated path failure) => (start.files, ⟨[.creatingLog path], .file failure⟩)
  -- Where the file could be created, the logger that is installed is the reason.
  | _ => (start.files, ⟨[], .loggerInstalled⟩)

namespace Host

/-- The folder of the packages. -/
def root (host : Host) : Path :=
  host.settings.effectivePackageFolder host.dataFolder

/-- Loads all packages again. -/
def reload (host : Host) (files : FileTree) : Host × Overlay.Reload :=
  let reload := host.overlay.reload files host.root
  ({ host with overlay := reload.overlay }, reload)

/-- What the user is told about a command to reload. -/
inductive ReloadAnswer where
  /-- A match is running, so nothing was done. -/
  | refused
  | done (hadErrors : Bool)
deriving DecidableEq

def ReloadAnswer.message : ReloadAnswer → String
  | refused => "can't load mods while in-game!"
  | done hadErrors =>
    if hadErrors then "mods reloaded with errors, see logs." else "mods reloaded."

/-- A host, the files and the events that an operation leaves behind. -/
structure Step where
  host : Host
  files : FileTree
  events : List Event

/-- Obeys the command to reload, unless a match is running. -/
def reloadCommand (host : Host) (files : FileTree) (inGame : Bool) : ReloadAnswer × Step :=
  match host.overlay.reloadCommand files host.root inGame with
  | none => (.refused, ⟨host, files, []⟩)
  | some reload =>
    (.done reload.report.hadErrors,
      ⟨{ host with overlay := reload.overlay }, reload.files, reload.events⟩)

/-- A new host with the given settings, which loads packages at once if they say so.  Its objects
start at the given serial number. -/
def start (files : FileTree) (dataFolder : Path) (settings : Settings) (nextSerial : Nat) : Step :=
  let host : Host := ⟨dataFolder, settings, .empty nextSerial⟩
  if settings.loadOnStart then
    let (next, reload) := host.reload files
    ⟨next, reload.files, reload.events⟩
  else ⟨host, files, [.loadingDeferred]⟩

/-- Starts logging as the settings say.  A traced build writes all records. -/
def startLogging (logging : Logging) (files : FileTree) (dataFolder : Path) (settings : Settings)
    (traced : Bool) : Logging.Start :=
  let level := if traced then .trace else settings.mostDetailed
  logging.start files (settings.effectiveLogFile dataFolder) level.rank

/-- A new host with the usual settings, whether or not logging could be started.  The records of the
events go to the logger of another part, so they are in none of the files. -/
def initialise (files : FileTree) (dataFolder : Path) (nextSerial : Nat) : Step :=
  let (settings, events) := Settings.loadOrStandard files (Settings.usualFile dataFolder)
  let begun := startLogging .taken files dataFolder settings false
  let step := start begun.files dataFolder settings nextSerial
  { step with events := events ++ [.version, .settingsInUse settings] ++ step.events }

/-- Links a buffer with the scripts now in force. -/
def link {State : Type} (host : Host) (game : Game State) (machine : ScriptMachine)
    (buffer : Buffer) (run : Bool) (state : State) : Except LinkFailure LinkOutcome × State :=
  host.overlay.link game machine buffer run state

end Host

end AssetOverlay

import AssetOverlay.File.Tree
import AssetOverlay.Log

/-!
# Logging

What a process has set up for its log: whether there is a logger, which records are written and to
which file, and next to which file a panic is dumped.

Logging is started in steps.  The file of the log is created first, which empties one that is there,
and only then it turns out whether the process has a logger already.
-/

namespace AssetOverlay

/-- What a process has set up for its log. -/
structure Logging where
  /-- Whether the process has a logger, be it the one of this program or another one. -/
  installed : Bool
  /-- The rank up to which records are written. -/
  limit : Nat
  /-- The file that the logger of this program writes to. -/
  file : Option Path
  /-- The files next to which a panic is dumped, one for each hook, the newest first. -/
  dumpedBeside : List Path
deriving DecidableEq

/-- Why logging could not be started. -/
inductive LoggingFailure where
  | notCreated (path : Path) (failure : FileFailure)
  /-- The process has a logger already. -/
  | loggerInstalled
  /-- The logger of this program has a file already. -/
  | fileSet
deriving DecidableEq

/-- A failure as a report. -/
def LoggingFailure.report : LoggingFailure → String
  | notCreated path failure => Fault.report ⟨[.creatingLog path], .file failure⟩
  | loggerInstalled => Fault.report ⟨[], .loggerInstalled⟩
  | fileSet => "log file was already set"

/-- The most detailed level of the records that are written. -/
def Settings.mostDetailed (settings : Settings) : Level :=
  if settings.verbose then .debug else .info

/-- What happens to the logging of a process. -/
inductive LoggingAction where
  /-- Logging is started, with the files as they are then. -/
  | start (files : FileTree) (path : Path) (limit : Nat)
  /-- Another part of the process installs its logger. -/
  | install
  /-- Another part of the process changes which records are written. -/
  | restrict (limit : Nat)

namespace Logging

/-- A process that has set nothing up. -/
def unset : Logging :=
  ⟨false, 0, none, []⟩

/-- What an attempt to start logging leaves behind. -/
structure Start where
  logging : Logging
  files : FileTree
  failure? : Option LoggingFailure

/-- Starts logging to a file, of records up to a rank. -/
def start (logging : Logging) (files : FileTree) (path : Path) (limit : Nat) : Start :=
  match files.write path [] with
  | .error failure => ⟨logging, files, some (.notCreated path failure)⟩
  | .ok emptied =>
    if logging.installed then ⟨logging, emptied, some .loggerInstalled⟩
    else
      let installed := { logging with installed := true, limit }
      match logging.file with
      | some _ => ⟨installed, emptied, some .fileSet⟩
      | none =>
        ⟨{ installed with file := some path, dumpedBeside := path :: logging.dumpedBeside },
          emptied, none⟩

/-- Lets one action happen. -/
def act (logging : Logging) : LoggingAction → Logging
  | .start files path limit => (logging.start files path limit).logging
  | .install => { logging with installed := true }
  | .restrict limit => { logging with limit }

/-- Lets actions happen one after the other. -/
def actAll (logging : Logging) (actions : List LoggingAction) : Logging :=
  actions.foldl act logging

end Logging

end AssetOverlay

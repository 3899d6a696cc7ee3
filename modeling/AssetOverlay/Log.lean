import AssetOverlay.Fault
import AssetOverlay.Settings

/-!
# The log

Everything worth logging is an event, a value of one type; where it comes from, how urgent it is and
how it reads are functions on it.  An operation yields its events in order, and only the log itself
decides which of them are written.
-/

namespace AssetOverlay

/-- How urgent a record is. -/
inductive Level where
  | error
  | warning
  | info
  | debug
  | trace
deriving DecidableEq

namespace Level

/-- The rank of a level: the less urgent, the higher. -/
def rank : Level → Nat
  | error => 1
  | warning => 2
  | info => 3
  | debug => 4
  | trace => 5

/-- The name of a level in the log.  The two lowest are not told apart there. -/
def name : Level → String
  | error => "error"
  | warning => "warning"
  | info => "info"
  | debug | trace => "debug"

end Level

/-- The counts of one reload. -/
structure ReloadReport where
  /-- Packages whose manifest was read. -/
  packagesLoaded : Nat
  /-- Assets that were loaded. -/
  assetsLoaded : Nat
  /-- Entries and registered files that could not be loaded. -/
  entryErrors : Nat
  /-- Packages whose manifest could not be used, and a root that could not be listed. -/
  packageErrors : Nat
deriving DecidableEq

/-- The counts before anything was loaded. -/
def ReloadReport.zero : ReloadReport :=
  ⟨0, 0, 0, 0⟩

/-- Whether anything went wrong. -/
def ReloadReport.hadErrors (report : ReloadReport) : Bool :=
  report.entryErrors != 0 || report.packageErrors != 0

/-- Something worth logging. -/
inductive Event where
  /-- A note about preparing a script. -/
  | script (note : Script.Note)
  | assetLoaded (kind : AssetKind) (source : Path) (key : Key)
  | assetReplaced (kind : AssetKind) (key : Key) (previous : Path)
  | rootNotCreated (root : Path) (failure : FileFailure)
  | rootNotListed (fault : Fault)
  | packageSkipped (manifest : Path) (fault : Fault)
  | packageRead (title : String)
  | entryFailed (title : String) (index : Nat) (fault : Fault)
  /-- A package of which so many entries failed. -/
  | packageDone (title : String) (errors : Nat)
  | registrationFailed (key : Key) (fault : Fault)
  | reloaded (root : Path) (report : ReloadReport)
  | overriding (kind : AssetKind) (key : Key)
  /-- A script could not be linked beside another one. -/
  | linkFailed (injected linked : Key) (code : Int32)
  | settingsMissing
  | settingsFaulty (fault : Fault)
  | settingsSaved
  | settingsNotSaved (fault : Fault)
  | version
  | settingsInUse (settings : Settings)
  | loadingDeferred
deriving DecidableEq

namespace Event

/-- The part of the program that an event comes from, as the log names it. -/
def origin : Event → String
  | script (.detourRead _) => "gsic"
  | script _ => "script"
  | assetLoaded _ _ _ => "load"
  | assetReplaced _ _ _ | registrationFailed _ _ | reloaded _ _ => "store"
  | rootNotCreated _ _ | rootNotListed _ | packageSkipped _ _ | packageRead _
  | entryFailed _ _ _ | packageDone _ _ => "manifest"
  | overriding _ _ | linkFailed _ _ _ => "bridge"
  | settingsMissing | settingsFaulty _ | settingsSaved | settingsNotSaved _ => "settings"
  | version | settingsInUse _ | loadingDeferred => "mod_loader"

def level : Event → Level
  | script _ | assetLoaded _ _ _ | overriding _ _ => .debug
  | assetReplaced _ _ _ | packageDone _ _ => .warning
  | packageRead _ | reloaded _ _ | settingsMissing | settingsSaved | version | settingsInUse _
  | loadingDeferred => .info
  | rootNotCreated _ _ | rootNotListed _ | packageSkipped _ _ | entryFailed _ _ _
  | registrationFailed _ _ | linkFailed _ _ _ | settingsFaulty _ | settingsNotSaved _ => .error

def message : Event → String
  | script note => note.message
  | assetLoaded kind source key =>
    "loaded " ++ kind.name ++ " " ++ source.text ++ " -> " ++ key.text
  | assetReplaced kind key previous =>
    kind.name ++ " " ++ key.text ++ " from '" ++ previous.text ++ "' was replaced"
  | rootNotCreated root failure =>
    "can't create mods directory '" ++ root.text ++ "': " ++ failure.detail
  | rootNotListed fault => fault.report
  | packageSkipped manifest fault => "skipping mod '" ++ manifest.text ++ "': " ++ fault.report
  | packageRead title => "loading mod " ++ title ++ "..."
  | entryFailed title index fault =>
    "mod " ++ title ++ ": data member " ++ toString index ++ ": " ++ fault.report
  | packageDone title errors =>
    "mod " ++ title ++ " loaded with " ++ toString errors ++ " error" ++
      (if errors = 1 then "" else "s") ++ "."
  | registrationFailed key fault =>
    "registered raw file " ++ key.text ++ ": " ++ fault.report
  | reloaded root report =>
    "loaded " ++ toString report.assetsLoaded ++ " asset(s) from " ++
      toString report.packagesLoaded ++ " mod(s) in '" ++ root.text ++ "' (" ++
      toString report.entryErrors ++ " entry error(s), " ++ toString report.packageErrors ++
      " mod error(s))"
  | overriding kind key => "overriding " ++ kind.name ++ " " ++ key.text
  | linkFailed injected linked code =>
    "linking script_" ++ injected.text ++ " for script_" ++ linked.text ++ " failed with code " ++
      toString code.toInt
  | settingsMissing => "No settings file found. Defaults will be used."
  | settingsFaulty fault => "Error loading settings file: " ++ fault.report
  | settingsSaved => "Settings saved."
  | settingsNotSaved fault => "Error saving options to file: " ++ fault.report
  | version => "Cargo package version is 0.4.0"
  | settingsInUse settings => "Options: " ++ settings.shown
  | loadingDeferred => "Not loading mods until asked to."

end Event

/-- A record of the log. -/
structure LogRecord where
  origin : String
  level : Level
  message : String

namespace LogRecord

/-- The record of an event. -/
def ofEvent (event : Event) : LogRecord :=
  ⟨event.origin, event.level, event.message⟩

/-- The last component of a module path; components are separated by two colons. -/
def lastComponent (component : List Char) : List Char → List Char
  | [] => component.reverse
  | ':' :: ':' :: rest => lastComponent [] rest
  | character :: rest => lastComponent (character :: component) rest

/-- The record of a message from a module path, which may be unknown. -/
def ofModule (path : Option String) (level : Level) (message : String) : LogRecord :=
  ⟨String.ofList (lastComponent [] (path.getD "unknown").toList), level, message⟩

/-- Whether a record is written when records of up to the given rank are. -/
def isWritten (limit : Nat) (record : LogRecord) : Bool :=
  record.level.rank ≤ limit

/-- A record as it is written, after the time. -/
def text (record : LogRecord) : String :=
  "[" ++ record.origin ++ "] [" ++ record.level.name ++ "] " ++ record.message ++ "\n"

end LogRecord

end AssetOverlay

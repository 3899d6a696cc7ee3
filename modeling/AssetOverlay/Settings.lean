import AssetOverlay.Path
import AssetOverlay.Text.Quoted

/-!
# Settings

The user's settings: where packages lie, where the log is written, whether details are logged, and
whether packages are loaded at the start.  Paths that are not set lie in the data folder.
-/

namespace AssetOverlay

/-- The user's settings. -/
structure Settings where
  /-- The folder of the packages, unless it is the one in the data folder. -/
  packageFolder : Option Path
  /-- The file of the log, unless it is the one in the data folder. -/
  logFile : Option Path
  /-- Whether details are logged. -/
  verbose : Bool
  /-- Whether packages are loaded at the start. -/
  loadOnStart : Bool
deriving DecidableEq

namespace Settings

/-- The settings of a user who has set nothing. -/
def standard : Settings := ⟨none, none, false, true⟩

/-- The folder of the packages. -/
def effectivePackageFolder (settings : Settings) (dataFolder : Path) : Path :=
  settings.packageFolder.getD (dataFolder.join ⟨"mods"⟩)

/-- The file of the log. -/
def effectiveLogFile (settings : Settings) (dataFolder : Path) : Path :=
  settings.logFile.getD (dataFolder.join ⟨"mods.log"⟩)

/-- The file of the settings. -/
def usualFile (dataFolder : Path) : Path :=
  dataFolder.join ⟨"settings.mods.json"⟩

/-- A path that may be unset, as the log shows it inside the settings. -/
def shownPath : Option Path → String
  | none => "None"
  | some path => "Some(\n        " ++ Quoted.render path.text ++ ",\n    )"

/-- The settings as the log shows them. -/
def shown (settings : Settings) : String :=
  let shownBool (value : Bool) := if value then "true" else "false"
  "Options \x7b\n    mods_dir: " ++ shownPath settings.packageFolder ++
    ",\n    log_file: " ++ shownPath settings.logFile ++
    ",\n    verbose: " ++ shownBool settings.verbose ++
    ",\n    load_on_start: " ++ shownBool settings.loadOnStart ++ ",\n\x7d"

end Settings

end AssetOverlay

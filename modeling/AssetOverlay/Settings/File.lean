import AssetOverlay.File.Tree
import AssetOverlay.Log
import AssetOverlay.Settings.Reader
import AssetOverlay.Settings.Text

/-!
# Settings files

Loading settings from a file and saving them to one.  A file that is missing means that nothing is
set, and a file that can't be used is reported and means the same.
-/

namespace AssetOverlay.Settings

/-- Loads settings from a file, if it is there.  A folder can be opened, but not read. -/
def load (files : FileTree) (path : Path) : Except Fault (Option Settings) :=
  if files.contains path then
    match files.read path with
    | .error .isFolder =>
      .error ⟨[.parsingSettings path], .json (.ofProblem (.unreadable .isFolder))⟩
    | .error failure => .error ⟨[.openingSettings path], .file failure⟩
    | .ok bytes =>
      match ofBytes bytes with
      | .ok settings => .ok (some settings)
      | .error failure => .error ⟨[.parsingSettings path], .json failure⟩
  else .ok none

/-- Loads settings from a file, or the standard ones where that is not possible. -/
def loadOrStandard (files : FileTree) (path : Path) : Settings × List Event :=
  match load files path with
  | .ok (some settings) => (settings, [])
  | .ok none => (standard, [.settingsMissing])
  | .error fault => (standard, [.settingsFaulty fault])

/-- Saves settings to a file. -/
def save (settings : Settings) (files : FileTree) (path : Path) : Except Fault FileTree :=
  match files.write path settings.toBytes with
  | .ok saved => .ok saved
  | .error failure => .error ⟨[], .file failure⟩

/-- Saves settings to the usual file and reports how that went. -/
def saveUsual (settings : Settings) (files : FileTree) (dataFolder : Path) :
    FileTree × List Event :=
  match settings.save files (usualFile dataFolder) with
  | .ok saved => (saved, [.settingsSaved])
  | .error fault => (files, [.settingsNotSaved fault])

end AssetOverlay.Settings

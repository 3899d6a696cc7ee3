import AssetOverlay.Host
import AssetOverlay.Proofs.File.Writing

/-!
# Starting logging

In every process only an installed logger has a file, so logging fails to start for two reasons: the
file of the log can't be created, or there is a logger already.  Either way the logging of the
process stays as it was, but the files do not.  The file of the log is created before the logger is
asked for, so a start that fails for the second reason leaves that file empty, just like one that
succeeds; the files stay as they were exactly if it was there and empty before.

So whenever logging is started for a host, for the first time or again, the file that its settings
name for the log loses its contents.

All of this is about the files as the start leaves them.  What is logged later is not in the files
here; it may go to the same file, at the place where an earlier start has left off.
-/

namespace AssetOverlay

namespace Logging

/-! ## The logging of a process -/

/-- Only an installed logger has a file, and panics are dumped next to this file only. -/
structure Sound (logging : Logging) : Prop where
  installed : logging.file.isSome → logging.installed
  dumpedBeside : logging.dumpedBeside = logging.file.toList

theorem sound_unset : unset.Sound :=
  ⟨fun hfile ↦ hfile, rfl⟩

/-- The ways in which a start ends. -/
inductive StartCases (logging : Logging) (files : FileTree) (path : Path) (limit : Nat) : Prop
  | notCreated {cause : FileFailure} (hwrite : files.write path [] = .error cause)
      (hstart : logging.start files path limit =
        ⟨logging, files, some (.notCreated path cause)⟩)
  | refused {emptied : FileTree} (hwrite : files.write path [] = .ok emptied)
      (hinstalled : logging.installed)
      (hstart : logging.start files path limit = ⟨logging, emptied, some .loggerInstalled⟩)
  | begun {emptied : FileTree} (hwrite : files.write path [] = .ok emptied)
      (hfree : ¬ logging.installed)
      (hstart : logging.start files path limit =
        ⟨⟨true, limit, some path, [path]⟩, emptied, none⟩)

theorem Sound.startCases {logging : Logging} (h : logging.Sound) (files : FileTree) (path : Path)
    (limit : Nat) : logging.StartCases files path limit := by
  cases hwrite : files.write path [] with
  | error cause => exact .notCreated hwrite (by rw [start, hwrite])
  | ok emptied =>
    by_cases hinstalled : logging.installed
    · exact .refused hwrite hinstalled (by rw [start, hwrite]; exact if_pos hinstalled)
    · have hfile : logging.file = none :=
        Option.not_isSome_iff_eq_none.mp (mt h.installed hinstalled)
      refine .begun hwrite hinstalled ?_
      rw [start, hwrite]
      dsimp only
      rw [if_neg hinstalled, h.dumpedBeside, hfile]
      rfl

theorem Sound.start {logging : Logging} (h : logging.Sound) (files : FileTree) (path : Path)
    (limit : Nat) : (logging.start files path limit).logging.Sound := by
  cases h.startCases files path limit with
  | notCreated hwrite hstart => rwa [hstart]
  | refused hwrite hinstalled hstart => rwa [hstart]
  | begun hwrite hfree hstart =>
    rw [hstart]
    exact ⟨fun _ ↦ rfl, rfl⟩

theorem Sound.act {logging : Logging} (h : logging.Sound) (action : LoggingAction) :
    (logging.act action).Sound := by
  cases action with
  | start files path limit => exact h.start files path limit
  | install => exact ⟨fun _ ↦ rfl, h.dumpedBeside⟩
  | restrict limit => exact ⟨h.installed, h.dumpedBeside⟩

/-- What every action keeps is kept by all of them. -/
theorem actAll_keeps (property : Logging → Prop)
    (hstep : ∀ logging action, property logging → property (logging.act action))
    {logging : Logging} (h : property logging) (actions : List LoggingAction) :
    property (logging.actAll actions) := by
  induction actions generalizing logging with
  | nil => exact h
  | cons action rest ih => exact ih (hstep logging action h)

theorem Sound.actAll {logging : Logging} (h : logging.Sound) (actions : List LoggingAction) :
    (logging.actAll actions).Sound :=
  actAll_keeps Sound (fun _ action h ↦ h.act action) h actions

theorem installed_act {logging : Logging} (h : logging.installed) (action : LoggingAction) :
    (logging.act action).installed := by
  cases action with
  | start files path limit =>
    change (logging.start files path limit).logging.installed
    unfold start
    cases files.write path [] with
    | error cause => exact h
    | ok emptied =>
      dsimp only
      rw [if_pos h]
      exact h
  | install => rfl
  | restrict limit => exact h

/-- A logger stays installed. -/
theorem installed_actAll {logging : Logging} (h : logging.installed)
    (actions : List LoggingAction) : (logging.actAll actions).installed :=
  actAll_keeps (fun logging ↦ logging.installed) (fun _ action h ↦ installed_act h action) h actions

/-! ## What a start does to the files -/

/-- Whatever was set up before, a start creates or empties the file of the log if it can. -/
theorem files_start (logging : Logging) (files : FileTree) (path : Path) (limit : Nat) :
    (logging.start files path limit).files = (files.write path []).toOption.getD files := by
  unfold start
  cases files.write path [] with
  | error cause => rfl
  | ok emptied =>
    dsimp only
    split
    · rfl
    · cases logging.file <;> rfl

/-- The file of the log is empty after a start, and all other files are as they were. -/
theorem item?_start_of_file (logging : Logging) {files : FileTree} {place : Location}
    {content : Bytes} (h : files.item? place = some (.file content)) (path : Path) (limit : Nat) :
    (logging.start files path limit).files.item? place =
      some (.file (if files.locate path = .ok place then [] else content)) := by
  rw [files_start]
  cases hwrite : files.write path [] with
  | error cause =>
    have hplace : files.locate path ≠ .ok place := by
      intro hplace
      simp [FileTree.write_of_locate hplace h] at hwrite
    rw [if_neg hplace]
    exact h
  | ok emptied => exact FileTree.item?_of_write_of_file hwrite h

/-! ## What a start leaves behind -/

section Failure

variable {logging : Logging} {files : FileTree} {path : Path} {limit : Nat}
  {failure : LoggingFailure}

/-- A start that succeeds installs the logger. -/
theorem Sound.installed_of_begun (h : logging.Sound)
    (hbegun : (logging.start files path limit).failure? = none) :
    (logging.start files path limit).logging.installed := by
  cases h.startCases files path limit with
  | notCreated hwrite hstart => simp [hstart] at hbegun
  | refused hwrite hinstalled hstart => simp [hstart] at hbegun
  | begun hwrite hfree hstart => rw [hstart]

/-- There are two reasons for which a start fails, and neither changes the logging.  If there is a
logger already, the file of the log was written. -/
theorem Sound.start_of_failure (h : logging.Sound)
    (hfailed : (logging.start files path limit).failure? = some failure) :
    (logging.start files path limit).logging = logging ∧
      (failure = .loggerInstalled ∧ logging.installed ∧
          files.write path [] = .ok (logging.start files path limit).files ∨
        ∃ cause, failure = .notCreated path cause ∧ files.write path [] = .error cause ∧
          (logging.start files path limit).files = files) := by
  cases h.startCases files path limit with
  | notCreated hwrite hstart =>
    rw [hstart] at hfailed ⊢
    exact ⟨rfl, .inr ⟨_, (Option.some.inj hfailed).symm, hwrite, rfl⟩⟩
  | refused hwrite hinstalled hstart =>
    rw [hstart] at hfailed ⊢
    exact ⟨rfl, .inl ⟨(Option.some.inj hfailed).symm, hinstalled, hwrite⟩⟩
  | begun hwrite hfree hstart => simp [hstart] at hfailed

/-- A start that fails has made the file of the log an empty one if there was a logger, and changes
no file otherwise. -/
theorem Sound.item?_of_failure (h : logging.Sound)
    (hfailed : (logging.start files path limit).failure? = some failure) (place : Location) :
    (logging.start files path limit).files.item? place =
      if failure = .loggerInstalled ∧
          (logging.start files path limit).files.locate path = .ok place then some (.file [])
      else files.item? place := by
  obtain ⟨-, ⟨rfl, -, hwrite⟩ | ⟨cause, rfl, -, hfiles⟩⟩ := h.start_of_failure hfailed
  · rw [FileTree.item?_of_write hwrite]
    simp only [true_and]
  · simp [hfiles]

/-- A start that fails leaves all files as they were exactly if the file of the log could not be
created or was empty already. -/
theorem Sound.alike_of_failure_iff (h : logging.Sound)
    (hfailed : (logging.start files path limit).failure? = some failure) :
    (logging.start files path limit).files.Alike files ↔
      failure ≠ .loggerInstalled ∨ files.read path = .ok [] := by
  obtain ⟨-, ⟨rfl, -, hwrite⟩ | ⟨cause, rfl, -, hfiles⟩⟩ := h.start_of_failure hfailed
  · simp [FileTree.alike_of_write_iff hwrite]
  · simp [hfiles, FileTree.Alike]

end Failure

end Logging

/-! ## Starting logging for a host -/

namespace Host

/-- Starting logging for a host is a start to the file that its settings name. -/
theorem exists_limit_of_startLogging (logging : Logging) (files : FileTree) (dataFolder : Path)
    (settings : Settings) (traced : Bool) :
    ∃ limit, startLogging logging files dataFolder settings traced =
      logging.start files (settings.effectiveLogFile dataFolder) limit :=
  ⟨_, rfl⟩

/-- Where a logger is installed, logging can't be started again. -/
theorem startLogging_fails_of_installed {logging : Logging} (h : logging.Sound)
    (hinstalled : logging.installed) (files : FileTree) (dataFolder : Path) (settings : Settings)
    (traced : Bool) :
    (startLogging logging files dataFolder settings traced).logging = logging ∧
      ((startLogging logging files dataFolder settings traced).failure? = some .loggerInstalled ∨
        ∃ cause, (startLogging logging files dataFolder settings traced).failure? =
          some (.notCreated (settings.effectiveLogFile dataFolder) cause)) := by
  obtain ⟨limit, hstart⟩ := exists_limit_of_startLogging logging files dataFolder settings traced
  rw [hstart]
  cases h.startCases files (settings.effectiveLogFile dataFolder) limit with
  | notCreated hwrite hstart =>
    rw [hstart]
    exact ⟨rfl, .inr ⟨_, rfl⟩⟩
  | refused hwrite _ hstart =>
    rw [hstart]
    exact ⟨rfl, .inl rfl⟩
  | begun hwrite hfree hstart => exact absurd hinstalled hfree

/-- Whatever was set up before, a log that is there has lost its contents once logging was started
for a host, or could not be started. -/
theorem item?_startLogging_of_file (logging : Logging) {files : FileTree} {dataFolder : Path}
    {settings : Settings} {place : Location} {content : Bytes}
    (h : files.item? place = some (.file content))
    (hplace : files.locate (settings.effectiveLogFile dataFolder) = .ok place) (traced : Bool) :
    (startLogging logging files dataFolder settings traced).files.item? place =
      some (.file []) := by
  obtain ⟨limit, hstart⟩ := exists_limit_of_startLogging logging files dataFolder settings traced
  rw [hstart, logging.item?_start_of_file h, if_pos hplace]

end Host

/-- In every process, a start of logging that fails leaves the logging as it was, and has one of two
reasons.  If there is a logger already, the file of the log has become an empty one by then, so that
all files are left alone only if the file can't be created or was there and empty.  So logging that
was started for a host can't be started for one again, whatever its settings are, and yet the file
that these name for the log has lost its contents once that was tried. -/
theorem failed_start_spares_files_iff (earlier : List LoggingAction) :
    let logging := Logging.unset.actAll earlier
    (∀ files path limit failure,
      let begun := logging.start files path limit
      begun.failure? = some failure →
        begun.logging = logging ∧
        (failure = .loggerInstalled ∧ logging.installed ∧
            files.write path [] = .ok begun.files ∨
          ∃ cause, failure = .notCreated path cause ∧ files.write path [] = .error cause ∧
            begun.files = files) ∧
        (∀ place, begun.files.item? place =
          if failure = .loggerInstalled ∧ begun.files.locate path = .ok place then some (.file [])
          else files.item? place) ∧
        (begun.files.Alike files ↔ failure ≠ .loggerInstalled ∨ files.read path = .ok [])) ∧
    ∀ firstFiles dataFolder firstSettings firstTraced later files settings traced,
      let first := Host.startLogging logging firstFiles dataFolder firstSettings firstTraced
      let between := first.logging.actAll later
      let second := Host.startLogging between files dataFolder settings traced
      let logFile := settings.effectiveLogFile dataFolder
      (first.failure? = none →
        second.logging = between ∧
        (second.failure? = some .loggerInstalled ∨
          ∃ cause, second.failure? = some (.notCreated logFile cause))) ∧
      ∀ place content, files.item? place = some (.file content) →
        files.locate logFile = .ok place → second.files.item? place = some (.file []) := by
  intro logging
  have hsound : logging.Sound := Logging.sound_unset.actAll earlier
  constructor
  · intro files path limit failure begun hfailed
    obtain ⟨hlogging, hcause⟩ := hsound.start_of_failure hfailed
    exact ⟨hlogging, hcause, hsound.item?_of_failure hfailed, hsound.alike_of_failure_iff hfailed⟩
  · intro firstFiles dataFolder firstSettings firstTraced later files settings traced first between
      second logFile
    constructor
    · intro hbegun
      have hfirst : first.logging.Sound := hsound.start _ _ _
      have hinstalled : first.logging.installed := hsound.installed_of_begun hbegun
      exact Host.startLogging_fails_of_installed (hfirst.actAll later)
        (Logging.installed_actAll hinstalled later) files dataFolder settings traced
    · intro place content hfile hplace
      exact Host.item?_startLogging_of_file between hfile hplace traced

namespace Sample

/-- A data folder with a log in it. -/
def filesWithLog (content : Bytes) : FileTree :=
  (FileTree.empty.put ["data"] .folder).put ["data", "mods.log"] (.file content)

/-- The logging of a process in which logging was started to the log in the data folder. -/
def loggingStarted : Logging :=
  Logging.unset.actAll [.start (filesWithLog []) ⟨"/data/mods.log"⟩ 3]

end Sample

/-- A log that is empty is left alone by a start that fails, but one to which something was written
has lost it once logging is started for a host again. -/
theorem empty_log_left_alone :
    let path : Path := ⟨"/data/mods.log"⟩
    let begun := Sample.loggingStarted.start (Sample.filesWithLog []) path 4
    let files := Sample.filesWithLog [79, 75]
    let first := Host.startLogging .unset (Sample.filesWithLog []) ⟨"/data"⟩ .standard false
    let second := Host.startLogging first.logging files ⟨"/data"⟩ .standard true
    begun.failure? = some .loggerInstalled ∧ begun.files.Alike (Sample.filesWithLog []) ∧
      first.failure? = none ∧ second.logging = first.logging ∧
      files.item? ["data", "mods.log"] = some (.file [79, 75]) ∧
      second.files.item? ["data", "mods.log"] = some (.file []) := by
  intro path begun files first second
  have hfailed : begun.failure? = some .loggerInstalled := by decide +kernel
  have hread : (Sample.filesWithLog []).read path = .ok [] := by decide +kernel
  have hbegun : first.failure? = none := by decide +kernel
  have hfile : files.item? ["data", "mods.log"] = some (.file [79, 75]) := by decide +kernel
  have hplace : files.locate (Settings.standard.effectiveLogFile ⟨"/data"⟩) =
      .ok ["data", "mods.log"] := by
    decide +kernel
  have hstart := failed_start_spares_files_iff [.start (Sample.filesWithLog []) path 3]
  have hagain := (failed_start_spares_files_iff []).2 (Sample.filesWithLog []) ⟨"/data"⟩ .standard
    false [] files .standard true
  exact ⟨hfailed, (hstart.1 _ path 4 .loggerInstalled hfailed).2.2.2.mpr (.inr hread), hbegun,
    (hagain.1 hbegun).1, hfile, hagain.2 _ _ hfile hplace⟩

/-- A log that holds something is emptied by a start that fails, and so by starting logging for a
host for the second time. -/
theorem log_lost_to_failed_start :
    let path : Path := ⟨"/data/mods.log"⟩
    let files := Sample.filesWithLog [79, 75]
    let begun := Sample.loggingStarted.start files path 4
    let first := Host.startLogging .unset (Sample.filesWithLog []) ⟨"/data"⟩ .standard false
    let second := Host.startLogging first.logging files ⟨"/data"⟩ .standard false
    begun.failure? = some .loggerInstalled ∧ ¬ begun.files.Alike files ∧
      first.failure? = none ∧ second.failure? = some .loggerInstalled ∧
      files.read path = .ok [79, 75] ∧ second.files.read path = .ok [] := by
  intro path files begun first second
  refine ⟨by decide +kernel, ?_, by decide +kernel, by decide +kernel, by decide +kernel,
    by decide +kernel⟩
  intro halike
  have hlost : begun.files.item? ["data", "mods.log"] ≠ files.item? ["data", "mods.log"] := by
    decide +kernel
  exact hlost (halike _)

end AssetOverlay

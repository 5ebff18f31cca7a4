import CrashCapture.Program.Run
import CrashCapture.Proofs.Monitor.AcceptedInstall

/-! What becomes of the wishes for diagnostics: the format on the command line, and the level
there or in the environment. Two places lose them. Without an option for the level or the file,
diagnostics are set up from the environment alone; and a drill's configuration has a level of
its own for the fault log, which replaces the one that was set up.
-/

namespace CrashCapture

-----------------------------------------------------------------------------------------
-- Setting up
-----------------------------------------------------------------------------------------

namespace Log

/-- The format that the environment asks for, people's unless it names one. -/
def Surrounding.format (around : Surrounding) : Except String Format :=
  (around.lookUp "FAULTLINE_LOG_FORMAT").elim (.ok default) Format.parse

/-- The level whose bare name the environment gives, else that of information. -/
def Surrounding.level (around : Surrounding) : Level :=
  ((around.lookUp "RUST_LOG").bind Level.ofText?).getD .info

namespace Setup

variable {setup after : Setup} {around : Surrounding} {level : Level} {hasFile : Bool}

/-- Diagnostics go out in a format, and the fault log has a level. -/
structure Speaks (setup : Setup) (format : Format) (level : Level) : Prop where
  subscribed
    : ∃ subscriber, setup.subscriber = some subscriber ∧ subscriber.format = format
  level : setup.level = level

theorem subscribe_speaks {subscriber : Subscriber}
    (ends : setup.subscribe level subscriber = (.ok hasFile, after))
    : after.Speaks subscriber.format level := by
  unfold subscribe at ends
  split at ends
  · cases ends
  · cases ends
    exact ⟨⟨subscriber, rfl, rfl⟩, rfl⟩

theorem toConsole_speaks {format : Format} {filter : Filter}
    (ends : setup.toConsole around format level filter = (.ok hasFile, after))
    : after.Speaks format level := by
  unfold toConsole at ends
  split at ends
  · exact subscribe_speaks ends
  · split at ends
    · cases ends
    · exact subscribe_speaks ends

theorem fromEnvironment_speaks
    (ends : setup.fromEnvironment around = (.ok hasFile, after))
    : ∃ format, around.format = .ok format ∧ after.Speaks format around.level := by
  unfold fromEnvironment at ends
  split at ends
  · cases ends
  next format known => exact ⟨format, known, toConsole_speaks ends⟩

theorem toFile_speaks {path : Files.Path} {wish : Option Level} {format : Format}
    (ends : setup.toFile around path wish format = (.ok hasFile, after))
    : after.Speaks format (wish.getD .info) := by
  unfold toFile at ends
  dsimp only at ends
  split at ends
  · cases ends
  · exact subscribe_speaks ends

end Setup

end Log

-----------------------------------------------------------------------------------------
-- What counts for a drill
-----------------------------------------------------------------------------------------

/-- What succeeds as a sequence has succeeded in its first part. -/
theorem ok_of_bind {ε α β : Type} {first : Except ε α} {more : α → Except ε β} {result : β}
    (ends : first >>= more = .ok result)
    : ∃ value, first = .ok value ∧ more value = .ok result := by
  cases first with
  | error fault => cases ends
  | ok value => exact ⟨value, rfl, ends⟩

namespace Config

/-- Each variable is read by itself, in the order in which they are told of. -/
theorem ofVariables_eq (lookUp : String → Option String)
    : ofVariables lookUp = (do
        let monitors ←
          (lookUp "FAULTLINE_MONITORS").elim (.ok .all) (readMonitors "FAULTLINE_MONITORS")
        let sigterm ←
          (lookUp "FAULTLINE_SIGTERM").elim (.ok false) (readSwitch "FAULTLINE_SIGTERM")
        let maxDepth ←
          (lookUp "FAULTLINE_MAX_DEPTH").elim (.ok Stack.Cursor.defaultMaxDepth)
            (readDepth "FAULTLINE_MAX_DEPTH")
        return { monitors := monitors, sigterm := sigterm, maxDepth := maxDepth }) := by
  unfold ofVariables
  cases lookUp "FAULTLINE_MONITORS" <;> cases lookUp "FAULTLINE_SIGTERM"
    <;> cases lookUp "FAULTLINE_MAX_DEPTH" <;> dsimp only [Option.elim]

/-- What the environment says changes nothing of the level and reserves no thread. -/
theorem ofVariables_keeps_defaults {lookUp : String → Option String} {config : Config}
    (ends : ofVariables lookUp = .ok config)
    : config.logLevel = ({} : Config).logLevel ∧ config.reserved = [] := by
  rw [ofVariables_eq] at ends
  obtain ⟨monitors, _, ends⟩ := ok_of_bind ends
  obtain ⟨sigterm, _, ends⟩ := ok_of_bind ends
  obtain ⟨maxDepth, _, ends⟩ := ok_of_bind ends
  cases ends
  exact ⟨rfl, rfl⟩

end Config

namespace Program

variable {launch : Launch} {invocation : Invocation} {hasFile : Bool} {output : Output}

namespace Invocation

/-- An option is given that keeps diagnostics from being set up from the environment alone. -/
def Overrules (invocation : Invocation) : Prop :=
  invocation.logToFile = true ∨ invocation.logLevel.isSome = true

/-- The level that was asked for, first of all on the command line. -/
def level (invocation : Invocation) (around : Log.Surrounding) : Log.Level :=
  invocation.logLevel.getD around.level

/-- The level that the fault log is set up with. For a file the environment does not count. -/
def levelSetUp (invocation : Invocation) (around : Log.Surrounding) : Log.Level :=
  if invocation.logToFile then invocation.logLevel.getD .info else invocation.level around

theorem level_given {wish : Log.Level} (given : invocation.logLevel = some wish)
    (around : Log.Surrounding)
    : invocation.level around = wish := by
  rw [level, given, Option.getD_some]

theorem levelSetUp_given {wish : Log.Level} (given : invocation.logLevel = some wish)
    (around : Log.Surrounding)
    : invocation.levelSetUp around = wish := by
  rw [levelSetUp, level_given given, given, Option.getD_some, ite_self]

/-- A default is the level that was wanted just if it does not count, or is that level. -/
theorem getD_eq_iff {default wanted otherwise : Log.Level}
    (given : ∀ wish, invocation.logLevel = some wish → wanted = wish)
    (missing : invocation.logLevel = none → wanted = otherwise)
    : invocation.logLevel.getD default = wanted
      ↔ invocation.logLevel.isSome = true ∨ otherwise = default := by
  cases wish : invocation.logLevel with
  | some wished => exact iff_of_true (given wished wish).symm (.inl rfl)
  | none =>
      rw [missing wish]
      exact ⟨fun same => .inr same.symm, fun same => (same.resolve_left nofun).symm⟩

end Invocation

/-- The format on the command line is the one in use just if it overrules the environment. -/
theorem setUpDiagnostics_speaks
    (ends : setUpDiagnostics launch invocation = (.ok hasFile, output))
    : ∃ format,
        output.setup.Speaks format (invocation.levelSetUp launch.around)
        ∧ (invocation.Overrules → format = invocation.format)
        ∧ (¬ invocation.Overrules → launch.around.format = .ok format) := by
  unfold setUpDiagnostics at ends
  unfold Invocation.levelSetUp
  dsimp only at ends
  split at ends
  next toFile =>
    rw [if_pos toFile]
    split at ends
    · cases ends
    next opened =>
      cases ends
      exact ⟨invocation.format, Log.Setup.toFile_speaks opened, fun _ => rfl,
        fun none => absurd (.inl toFile) none⟩
  next toConsole =>
    rw [if_neg toConsole]
    unfold Invocation.level Invocation.Overrules
    obtain ⟨opened, rfl⟩ := Prod.mk.inj ends
    cases given : invocation.logLevel with
    | some level =>
        rw [given] at opened
        have speaks := Log.Setup.toConsole_speaks (Prod.ext opened rfl)
        exact ⟨invocation.format, speaks, fun _ => rfl, fun none => absurd (.inr rfl) none⟩
    | none =>
        rw [given] at opened
        obtain ⟨format, asked, speaks⟩ :=
          Log.Setup.fromEnvironment_speaks (Prod.ext opened rfl)
        refine ⟨format, speaks, ?_, fun _ => asked⟩
        rintro (toFile | some)
        · exact absurd toFile toConsole
        · cases some

/-- A drill's configuration has the level on the command line or its own default, never the
one in the environment.
-/
theorem Drill.configuration_level {lookUp : String → Option String} {sigterm : Bool}
    {level : Option Log.Level} {config : Config}
    (ends : configuration lookUp sigterm level = .ok config)
    : config.logLevel = level.getD .warn ∧ config.reserved = [] := by
  unfold configuration at ends
  obtain ⟨start, read, ends⟩ := ok_of_bind ends
  obtain ⟨default, none⟩ := Config.ofVariables_keeps_defaults read
  cases ends
  exact ⟨by rw [default], none⟩

/-- What a drill is carried out with is its own configuration, if it is carried out at all. -/
theorem prepare_configures {drill : Drill} {directory : Option String} {sigterm : Bool}
    {disk after : Files.Disk} {config : Config} {reports : Option Files.Path}
    (crash : invocation.command = .crash drill directory sigterm)
    (ends : prepare launch invocation disk = (.ok (config, reports), after))
    : Drill.configuration launch.around.lookUp sigterm invocation.logLevel = .ok config := by
  unfold prepare at ends
  rw [crash] at ends
  dsimp only at ends
  split at ends
  · cases ends
  · cases configured
      : Drill.configuration launch.around.lookUp sigterm invocation.logLevel with
    | error failure =>
        rw [configured] at ends
        cases ends
    | ok found =>
        rw [configured] at ends
        cases ends
        rfl

/-- With diagnostics set up, a format on the command line is the one in use just if there is
also an option for the level or the file, unless the environment asks for the same one. Once a
drill has installed capture, the fault log has the level on the command line, and without one it
has the level of warnings: what was set up before, the environment's level among it, is gone.
-/
theorem requested_diagnostics_kept_iff
    (ends : setUpDiagnostics launch invocation = (.ok hasFile, output))
    : ∃ used,
        output.setup.Speaks used (invocation.levelSetUp launch.around)
        ∧ (∀ format,
            invocation.logFormat = some format →
            (used = format ↔ invocation.Overrules ∨ launch.around.format = .ok format))
        ∧ ∀ host drill directory sigterm config reports disk,
            invocation.command = .crash drill directory sigterm →
            prepare launch invocation output.disk = (.ok (config, reports), disk) →
            ∃ active after,
              (config.install host).run (launch.process output.setup.level)
                = (some (.ok active), after)
              ∧ after.logger.level = invocation.logLevel.getD .warn
              ∧ (after.logger.level = invocation.level launch.around
                ↔ invocation.logLevel.isSome = true ∨ launch.around.level = .warn)
              ∧ (after.logger.level = output.setup.level
                ↔ invocation.logLevel.isSome = true ∨ output.setup.level = .warn) := by
  obtain ⟨used, speaks, chosen, fallback⟩ := setUpDiagnostics_speaks ends
  refine ⟨used, speaks, fun format asked => ?_, ?_⟩
  · have wish : invocation.format = format := by rw [Invocation.format, asked, Option.getD_some]
    constructor
    · rintro rfl
      exact (Classical.em invocation.Overrules).imp_right fallback
    · rintro (overrules | same)
      · exact (chosen overrules).trans wish
      · by_cases overrules : invocation.Overrules
        · exact (chosen overrules).trans wish
        · exact Except.ok.inj ((fallback overrules).symm.trans same)
  · intro host drill directory sigterm config reports disk crash prepared
    obtain ⟨level, noThread⟩ :=
      Drill.configuration_level (prepare_configures crash prepared)
    have fit : Reservation.Fit ([] : List ThreadId).toFinset config.reserved := by
      rw [noThread]
      exact Reservation.fit_nil (Nat.zero_le _)
    have shows : (launch.process output.setup.level).reserved.Shows [] :=
      Threads.Reserved.shows_empty
    obtain ⟨active, after, installed, settings⟩ := Config.install_sets_settings host shows fit
    have final : after.logger.level = invocation.logLevel.getD .warn :=
      (congrArg Config.Settings.level settings).trans level
    refine ⟨active, after, installed, final, ?_, ?_⟩
    · rw [final]
      refine Invocation.getD_eq_iff (fun _ given => Invocation.level_given given _) ?_
      exact fun missing => by rw [Invocation.level, missing, Option.getD_none]
    · rw [final]
      refine Invocation.getD_eq_iff (fun _ given => ?_) fun _ => rfl
      exact speaks.level.trans (Invocation.levelSetUp_given given _)

/-- The environment asks for diagnostics down to those for debugging. No image can be seen, and
no memory can be read.
-/
def Launch.debugging : Launch where
  around := { lookUp := fun name => if name = "RUST_LOG" then some "debug" else none }
  table := { source := .none, memory := Host.plain.surroundings.memory }
  thread := ⟨1⟩
  ids index := ⟨0, .ofNat (index + 1)⟩

/-- A drill for which diagnostics are wanted as objects for machines. -/
def Invocation.jsonDrill : Invocation where
  command := .crash .segv none false
  logFormat := some .json

/-- Neither wish is heard: that for the format, nor that for the level of the fault log. -/
theorem requested_diagnostics_kept_iff_of_json_drill
    : let invocation := Invocation.jsonDrill
      ∃ output config disk active after used,
        setUpDiagnostics .debugging invocation = (.ok false, output)
        ∧ invocation.logFormat = some .json
        ∧ output.setup.Speaks used .debug
        ∧ used ≠ .json
        ∧ invocation.command = .crash .segv none false
        ∧ prepare .debugging invocation output.disk = (.ok (config, none), disk)
        ∧ (config.install (Launch.debugging.host 8 0)).run
            (Launch.debugging.process output.setup.level)
          = (some (.ok active), after)
        ∧ after.logger.level ≠ output.setup.level := by
  intro invocation
  have ready : (setUpDiagnostics .debugging invocation).1 = .ok false := by decide +kernel
  have ends
      : setUpDiagnostics .debugging invocation
        = (.ok false, (setUpDiagnostics .debugging invocation).2) :=
    Prod.ext ready rfl
  generalize (setUpDiagnostics .debugging invocation).2 = output at ends
  have configured
      : Drill.configuration Launch.debugging.around.lookUp false invocation.logLevel
        = .ok { callback := true } := by
    decide +kernel
  have prepared
      : prepare .debugging invocation output.disk
        = (.ok ({ callback := true }, none), output.disk) := by
    change (((Drill.configuration _ _ _).mapError _).map _, _) = _
    rw [configured]
    rfl
  have asked : Launch.debugging.around.format = .ok .pretty := by decide +kernel
  have environment : Launch.debugging.around.level = .debug := by decide +kernel
  obtain ⟨used, speaks, format, drilled⟩ := requested_diagnostics_kept_iff ends
  have level : invocation.levelSetUp Launch.debugging.around = .debug := environment
  rw [level] at speaks
  obtain ⟨active, after, installed, _, _, inStep⟩ :=
    drilled (Launch.debugging.host 8 0) .segv none false _ _ _ rfl prepared
  refine ⟨output, _, _, active, after, used, ends, rfl, speaks, fun json => ?_, rfl, prepared,
    installed, fun same => ?_⟩
  · rcases (format .json rfl).mp json with (file | level) | environment
    · cases file
    · cases level
    · rw [asked] at environment
      cases environment
  · rcases inStep.mp same with given | warn
    · cases given
    · rw [speaks.level] at warn
      cases warn

/-- The wishes are lost, though the command line is understood and set-up succeeds. -/
theorem json_drill_loses_requested_diagnostics
    : let around := Launch.debugging.around
      let setUp := setUpDiagnostics .debugging .jsonDrill
      let config : Config := { callback := true }
      parseCommandLine ["--log-format", "json", "crash", "segv"] = .ok .jsonDrill
      ∧ setUp.1 = .ok false
      ∧ setUp.2.setup.subscriber.map (·.format) = some .pretty
      ∧ setUp.2.setup.level = .debug
      ∧ Invocation.jsonDrill.level around = .debug
      ∧ Drill.configuration around.lookUp false none = .ok config
      ∧ ((config.install (Launch.debugging.host 8 0)).run
          (Launch.debugging.process .debug)).2.logger.level = .warn := by
  decide +kernel

end Program

end CrashCapture

import RadeonPanel.Cli.ManualLanguage

set_option autoImplicit false

namespace RadeonPanel.Cli.ManualCommands

open Interleaving

-- What a command says of the capture mode and of the count of render operations.
def Command.newMode : Command → Option RdpCaptureProfilingCaptureMode
  | .setMode captureMode _ => some captureMode
  | .blank | .quit | .capture | .showMode | .snapshot _ | .refused _ | .unknown _ => none

def Command.newCount : Command → Option UInt32
  | .setMode _ count => count
  | .blank | .quit | .capture | .showMode | .snapshot _ | .refused _ | .unknown _ => none

def lastSaid {α β : Type} (said : α → Option β) (items : List α) (first : β) : β := ((items.filterMap said).getLast?).getD first

theorem last_said_cons {α β : Type} (said : α → Option β) (item : α) (items : List α) (first : β) :
    lastSaid said (item :: items) first = lastSaid said items ((said item).getD first) := by
  unfold lastSaid
  cases here : said item with
  | none => rw [List.filterMap_cons_none here, Option.getD_none]
  | some value =>
      rw [List.filterMap_cons_some here, List.getLast?_cons, Option.getD_some, Option.getD_some]

-- The configuration after a session: the last mode and the last count that were set.
def configAfter (mode : CaptureMode) (config : CaptureConfig) (typed : List Typed) : CaptureConfig :=
  { config with
    rgpCaptureMode := lastSaid (fun typed => (readLine mode typed.line).newMode) typed config.rgpCaptureMode
    rgpRenderOpCount := lastSaid (fun typed => (readLine mode typed.line).newCount) typed config.rgpRenderOpCount }

-- Applying the parameters once more changes nothing: the source has what the configuration says.
def InSync (s : Session) : Prop := s.source.applyProfilingParams s.config.profilingParams = s.source

def Positive (s : Session) : Prop := usesRenderOps s.config.rgpCaptureMode = true → s.config.rgpRenderOpCount ≠ 0

-- A mode that counts render operations is not entered without a count while the count is zero.
def Counted (s : Session) (typed : Typed) : Prop :=
  ∀ captureMode, readLine .profiling typed.line = .setMode captureMode none → usesRenderOps captureMode = true →
    s.config.rgpRenderOpCount ≠ 0

theorem apply_again (source : RgpTraceSourceConfig) (params : RdpCaptureProfilingParams) :
    (source.applyProfilingParams params).applyProfilingParams params = source.applyProfilingParams params := by
  unfold RgpTraceSourceConfig.applyProfilingParams
  by_cases draw : params.captureMode = .draw
  · simp only [if_pos draw]
  · by_cases dispatch : params.captureMode = .dispatch
    · simp only [if_neg draw, if_pos dispatch]
    · simp only [if_neg draw, if_neg dispatch]

-- A command changes the configuration as it says, and the source with it, or neither.
theorem perform_cases (mode : CaptureMode) (s : Session) (answer : Answer) (command : Command) :
    (s.perform mode answer command).config =
        { s.config with
          rgpCaptureMode := command.newMode.getD s.config.rgpCaptureMode
          rgpRenderOpCount := command.newCount.getD s.config.rgpRenderOpCount } ∧
      (command.newMode = none ∧ (s.perform mode answer command).source = s.source ∨ InSync (s.perform mode answer command)) := by
  cases command with
  | setMode captureMode count =>
      cases count with
      | none => exact ⟨rfl, .inr (apply_again _ _)⟩
      | some count => exact ⟨rfl, .inr (apply_again _ _)⟩
  | snapshot name =>
      rw [Session.perform, Session.insertSnapshot]
      split
      · exact ⟨rfl, .inl ⟨rfl, rfl⟩⟩
      · exact ⟨rfl, .inl ⟨rfl, rfl⟩⟩
  | blank => exact ⟨rfl, .inl ⟨rfl, rfl⟩⟩
  | quit => exact ⟨rfl, .inl ⟨rfl, rfl⟩⟩
  | capture => exact ⟨rfl, .inl ⟨rfl, rfl⟩⟩
  | showMode => exact ⟨rfl, .inl ⟨rfl, rfl⟩⟩
  | refused refusal => exact ⟨rfl, .inl ⟨rfl, rfl⟩⟩
  | unknown command => exact ⟨rfl, .inl ⟨rfl, rfl⟩⟩

theorem count_with_mode (command : Command) (silent : command.newMode = none) : command.newCount = none := by
  cases command with
  | setMode captureMode count => cases silent
  | blank | quit | capture | showMode | snapshot _ | refused _ | unknown _ => rfl

theorem perform_sync (mode : CaptureMode) (s : Session) (answer : Answer) (command : Command) (sync : InSync s) :
    InSync (s.perform mode answer command) := by
  obtain ⟨config, ⟨silent, source⟩ | sync⟩ := perform_cases mode s answer command
  · have kept : (s.perform mode answer command).config = s.config := by
      rw [config, silent, count_with_mode command silent]
      rfl
    rw [InSync, source, kept]
    exact sync
  · exact sync

theorem set_positive (line : List Char) (captureMode : RdpCaptureProfilingCaptureMode) (count : UInt32)
    (read : readLine .profiling line = .setMode captureMode (some count)) : count ≠ 0 := by
  have means := line_means .profiling line
  rw [read] at means
  obtain ⟨text, _, spells⟩ := means
  cases spells with
  | setCount gap name digits captureMode count profiling spelled named counts number positive => exact positive

theorem perform_positive (s : Session) (typed : Typed) (positive : Positive s) :
    Positive (s.perform .profiling typed.answer (readLine .profiling typed.line)) ↔ Counted s typed := by
  obtain ⟨config, _⟩ := perform_cases .profiling s typed.answer (readLine .profiling typed.line)
  rw [Positive, config, Counted]
  cases read : readLine .profiling typed.line with
  | setMode captureMode count =>
      cases count with
      | none =>
          constructor
          · intro counted other same uses
            cases same
            exact counted uses
          · exact fun counted uses => counted captureMode rfl uses
      | some count =>
          have nonzero := set_positive typed.line captureMode count read
          exact iff_of_true (fun _ => nonzero) fun _ same => nomatch same
  | blank => exact iff_of_true positive fun _ same => nomatch same
  | quit => exact iff_of_true positive fun _ same => nomatch same
  | capture => exact iff_of_true positive fun _ same => nomatch same
  | showMode => exact iff_of_true positive fun _ same => nomatch same
  | snapshot name => exact iff_of_true positive fun _ same => nomatch same
  | refused refusal => exact iff_of_true positive fun _ same => nomatch same
  | unknown command => exact iff_of_true positive fun _ same => nomatch same

theorem run_config (mode : CaptureMode) (m : Machine Session Typed) (next : m.step = step mode) (s t : Session) (typed : List Typed)
    (sync : InSync s) (run : exec m s typed = some t) : t.config = configAfter mode s.config typed ∧ InSync t := by
  induction typed generalizing s with
  | nil =>
      cases run
      exact ⟨rfl, sync⟩
  | cons first rest ih =>
      obtain ⟨middle, taken, later⟩ := Option.bind_eq_some_iff.mp run
      rw [next] at taken
      obtain ⟨_, same⟩ := Option.ite_none_left_eq_some.mp taken
      obtain rfl := Option.some.inj same
      obtain ⟨config, kept⟩ := ih _ (perform_sync mode s first.answer _ sync) later
      refine ⟨?_, kept⟩
      rw [config, (perform_cases mode s first.answer _).1, configAfter, configAfter, last_said_cons, last_said_cons]

theorem enabled_sync (config : CaptureConfig) (env : Environment) (source : RgpTraceSourceConfig)
    (enabled : (config.enableFeature env source).2 = true) :
    (config.enableFeature env source).1.applyProfilingParams config.profilingParams = (config.enableFeature env source).1 := by
  rw [CaptureConfig.enableFeature] at enabled ⊢
  by_cases accepted : (source.enableFeature env config.profilingEnableParams).2 = true
  · rw [if_pos accepted]
    exact apply_again _ _
  · rw [if_neg accepted] at enabled
    exact absurd enabled accepted

theorem counted_positive (count : UInt32) (mode : RdpCaptureProfilingCaptureMode) (read config : CaptureConfig)
    (accepted : (if (decide (count = 0) && usesRenderOps mode) = true then none else some read) = some config)
    (modeRead : read.rgpCaptureMode = mode) (countRead : read.rgpRenderOpCount = count)
    (uses : usesRenderOps config.rgpCaptureMode = true) : config.rgpRenderOpCount ≠ 0 := by
  obtain ⟨counted, same⟩ := Option.ite_none_left_eq_some.mp accepted
  obtain rfl := Option.some.inj same
  intro zero
  apply counted
  rw [← countRead, zero, ← modeRead, uses]
  rfl

theorem parsed_positive (command : CommandLine) (config : CaptureConfig) (accepted : parseCommandLine command = some config)
    (uses : usesRenderOps config.rgpCaptureMode = true) : config.rgpRenderOpCount ≠ 0 := by
  rw [parseCommandLine] at accepted
  -- The rest of the command line is read alike with and without the automatic capture.
  cases given : command.rgpAutoCapture with
  | none =>
      rw [given] at accepted
      obtain ⟨_, _, accepted⟩ := Option.bind_eq_some_iff.mp accepted
      obtain ⟨mode, _, accepted⟩ := Option.bind_eq_some_iff.mp accepted
      exact counted_positive _ mode _ config accepted rfl rfl uses
  | some text =>
      rw [given] at accepted
      obtain ⟨_, _, accepted⟩ := Option.bind_eq_some_iff.mp accepted
      obtain ⟨mode, _, accepted⟩ := Option.bind_eq_some_iff.mp accepted
      exact counted_positive _ mode _ config accepted rfl rfl uses

-- The profiling session: whatever is typed, the source has the mode and the count that were set
-- last, and a count of zero is in force exactly if it came from the command line.
theorem manual_session (command : CommandLine) (config : CaptureConfig) (env : Environment) (source : RgpTraceSourceConfig)
    (accepted : parseCommandLine command = some config) (enabled : (config.enableFeature env source).2 = true)
    (typed : List Typed) :
    let loop := manualCaptureLoop .profiling config (config.enableFeature env source).1
    (∀ s, exec loop loop.init typed = some s → s.config = configAfter .profiling config typed ∧ InSync s) ∧
      (Meets loop Counted loop.init typed ↔ Always loop Positive loop.init typed) := by
  intro loop
  constructor
  · exact fun s run => run_config .profiling loop rfl loop.init s typed (enabled_sync config env source enabled) run
  · apply keeps_iff_always loop Counted Positive
    · exact fun uses => parsed_positive command config accepted uses
    · intro s first t _ positive next
      obtain ⟨_, same⟩ := Option.ite_none_left_eq_some.mp next
      obtain rfl := Option.some.inj same
      exact perform_positive s first positive

def zeroCommand : CommandLine := ⟨none, 0, "default".toList, 0, false, false, false, "default".toList⟩

def zeroConfig : CaptureConfig := ⟨.none, 0, 1, 1, 0, false, false, false, .default, .default, 0⟩

def drawTyped : List Typed := [⟨"mode draw".toList, ⟨2, 0⟩⟩]

-- The command line turns a count of zero away for the draw mode only, and the loop takes it over.
theorem zero_draws : ¬ Always (manualCaptureLoop .profiling zeroConfig (zeroConfig.enableFeature allEnabled sourceDefaults).1) Positive
    (manualCaptureLoop .profiling zeroConfig (zeroConfig.enableFeature allEnabled sourceDefaults).1).init drawTyped := by
  obtain ⟨_, positive⟩ := manual_session zeroCommand zeroConfig allEnabled sourceDefaults (by decide) (by decide) drawTyped
  intro always
  have counted := (positive.mpr always _ rfl).1
  exact counted .draw (by decide) (by decide) rfl

end RadeonPanel.Cli.ManualCommands

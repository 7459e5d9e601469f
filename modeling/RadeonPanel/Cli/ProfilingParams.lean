import RadeonPanel.Cli.CommandLine
import RadeonPanel.Rgp.LegacyClient

set_option autoImplicit false

namespace RadeonPanel.Cli

open RadeonPanel

structure RgpTraceSourceConfig where
  disableCaptureTimeout : Bool
  enableSpmCounters : Bool
  enableInstTracing : Bool
  enableLegacyCapture : Bool
  autoCaptureMode : Rgp.Legacy.AutoCaptureMode
  computeAutoCaptureTimeMs : UInt32
  dispatchStartIndex : UInt32
  dispatchCount : UInt32
  drawCount : UInt32
  sqttMemoryLimit : UInt32
  frameCaptureIndex : UInt32
  enableSingleTokenSqtt : Bool
  enableExecPopTokens : Bool
deriving DecidableEq, Repr

structure RdpCaptureProfilingEnableParams where
  flags : UInt32
  frameCaptureIndex : UInt32
  dispatchStartIndex : UInt32
  dispatchCount : UInt32
  dispatchCaptureDelayMs : UInt32
deriving DecidableEq, Repr

def flagUseFrameIndexCapture : UInt32 := 1
def flagUseDispatchIndexCapture : UInt32 := 2
def flagEnableShaderInstrumentation : UInt32 := 4

-- The frame terminators, which may not be used yet, are left out.
structure RdpCaptureProfilingParams where
  flags : UInt32
  sqttBufferSize : RdpCaptureSqttBufferSize
  captureMode : RdpCaptureProfilingCaptureMode
  renderOpCount : UInt32
deriving DecidableEq, Repr

def flagEnableInstructionTracing : UInt32 := 1
def flagEnableCounterCollection : UInt32 := 2

def getDefaultProfilingParams : RdpCaptureProfilingParams := ⟨0, .default, .default, 1⟩

def hasFlag (flags flag : UInt32) : Bool := flags &&& flag ≠ 0

-- Of what lies behind the API: whether the profiling feature can be enabled now,
-- whether the trace source takes the shader instrumentation, whether the driver
-- enables its feature, and the environment variable for single token SQTT.
structure Environment where
  available : Bool
  takesShaderInstrumentation : Bool
  enablesDriverFeature : Bool
  singleSqttToken : Bool
deriving DecidableEq, Repr

def kSqttProfileSizes (size : RdpCaptureSqttBufferSize) : UInt32 :=
  if size = .minimum then 16
  else if size = .low then 32
  else if size = .high then 128
  else if size = .maximum then 256
  else 75

namespace RgpTraceSourceConfig

def configureRgp (config : RgpTraceSourceConfig) (env : Environment) (params : RdpCaptureProfilingEnableParams) :
    RgpTraceSourceConfig :=
  { config with
    frameCaptureIndex := params.frameCaptureIndex
    autoCaptureMode :=
      if hasFlag params.flags flagUseFrameIndexCapture then .frameIndex
      else if hasFlag params.flags flagUseDispatchIndexCapture then
        if 0 < params.dispatchCaptureDelayMs then .timer else .dispatchIndices
      else .none
    dispatchStartIndex := params.dispatchStartIndex
    dispatchCount := params.dispatchCount
    computeAutoCaptureTimeMs := params.dispatchCaptureDelayMs
    enableSingleTokenSqtt :=
      if env.singleSqttToken && !config.enableLegacyCapture then true else config.enableSingleTokenSqtt }

-- The feature of the API; a refused one may have configured the source.
def enableFeature (config : RgpTraceSourceConfig) (env : Environment) (params : RdpCaptureProfilingEnableParams) :
    RgpTraceSourceConfig × Bool :=
  if env.available then
    (config.configureRgp env params, env.takesShaderInstrumentation && env.enablesDriverFeature)
  else (config, false)

def applyProfilingParams (config : RgpTraceSourceConfig) (params : RdpCaptureProfilingParams) : RgpTraceSourceConfig :=
  let config := { config with
    enableSpmCounters := hasFlag params.flags flagEnableCounterCollection
    enableInstTracing := hasFlag params.flags flagEnableInstructionTracing
    sqttMemoryLimit := kSqttProfileSizes params.sqttBufferSize }
  if params.captureMode = .draw then { config with drawCount := params.renderOpCount }
  else if params.captureMode = .dispatch then { config with dispatchCount := params.renderOpCount }
  else config

end RgpTraceSourceConfig

namespace CaptureConfig

-- ConfigureProfilingAutoCapture and the profiling branch around it.
def profilingEnableParams (config : CaptureConfig) : RdpCaptureProfilingEnableParams :=
  let instrumentation := if config.enableShaderInstrumentation then flagEnableShaderInstrumentation else 0
  match config.autoCaptureMode with
  | .none => ⟨instrumentation, 0, 0, 0, 0⟩
  | .frameIndex => ⟨instrumentation ||| flagUseFrameIndexCapture, config.frameCaptureIndex, 0, 0, 0⟩
  | .dispatchIndex =>
      ⟨instrumentation ||| flagUseDispatchIndexCapture, 0, config.dispatchStartIndex, config.dispatchCount,
        config.dispatchCaptureDelayMs⟩

def profilingParams (config : CaptureConfig) : RdpCaptureProfilingParams :=
  let tracing := if config.enableInstructionTracing then flagEnableInstructionTracing else 0
  let counters := if config.enableCounterCollection then flagEnableCounterCollection else 0
  { getDefaultProfilingParams with
    flags := getDefaultProfilingParams.flags ||| tracing ||| counters
    sqttBufferSize := config.sqttBufferSize
    captureMode := config.rgpCaptureMode
    renderOpCount := config.rgpRenderOpCount }

-- CaptureCli::EnableFeature in the profiling mode: the source's configuration
-- after it, and what it returns.
def enableFeature (config : CaptureConfig) (env : Environment) (source : RgpTraceSourceConfig) :
    RgpTraceSourceConfig × Bool :=
  let enabled := source.enableFeature env config.profilingEnableParams
  if enabled.2 then (enabled.1.applyProfilingParams config.profilingParams, true) else enabled

end CaptureConfig

structure AutoCaptureSettings where
  mode : Rgp.Legacy.AutoCaptureMode
  timeMs : UInt32
  frameIndex : UInt32
  dispatchStartIndex : UInt32
  dispatchCount : UInt32
deriving DecidableEq, Repr

def RgpTraceSourceConfig.autoCapture (config : RgpTraceSourceConfig) : AutoCaptureSettings :=
  ⟨config.autoCaptureMode, config.computeAutoCaptureTimeMs, config.frameCaptureIndex, config.dispatchStartIndex,
    config.dispatchCount⟩

-- The parameter of manual captures that is written over the dispatch count.
theorem apply_auto_capture (config : RgpTraceSourceConfig) (params : RdpCaptureProfilingParams) :
    (config.applyProfilingParams params).autoCapture = { config.autoCapture with
      dispatchCount := if params.captureMode = .dispatch then params.renderOpCount else config.dispatchCount } := by
  rw [RgpTraceSourceConfig.applyProfilingParams]
  by_cases draw : params.captureMode = .draw
  · have apart : params.captureMode ≠ .dispatch := by
      rw [draw]
      decide
    rw [if_pos draw, if_neg apart]
    rfl
  · by_cases dispatch : params.captureMode = .dispatch
    · rw [if_neg draw, if_pos dispatch, if_pos dispatch]
      rfl
    · rw [if_neg draw, if_neg dispatch, if_neg dispatch]
      rfl

theorem apply_keeps_iff (config : RgpTraceSourceConfig) (params : RdpCaptureProfilingParams) :
    (config.applyProfilingParams params).autoCapture = config.autoCapture ↔
      (params.captureMode = .dispatch → params.renderOpCount = config.dispatchCount) := by
  rw [apply_auto_capture]
  by_cases dispatch : params.captureMode = .dispatch
  · simp [dispatch, RgpTraceSourceConfig.autoCapture]
  · simp [dispatch, RgpTraceSourceConfig.autoCapture]

theorem enabled_auto_capture (config : CaptureConfig) (env : Environment) (source : RgpTraceSourceConfig)
    (mode : config.autoCaptureMode = .dispatchIndex) (enabled : (config.enableFeature env source).2 = true) :
    (config.enableFeature env source).1.dispatchStartIndex = config.dispatchStartIndex ∧
      (config.enableFeature env source).1.dispatchCount =
        if config.rgpCaptureMode = .dispatch then config.rgpRenderOpCount else config.dispatchCount := by
  have accepted : (source.enableFeature env config.profilingEnableParams).2 = true := by
    rw [CaptureConfig.enableFeature] at enabled
    split at enabled
    · assumption
    · exact enabled
  have available : env.available = true := by
    by_contra closed
    simp [RgpTraceSourceConfig.enableFeature, closed] at accepted
  have params : config.profilingEnableParams.dispatchStartIndex = config.dispatchStartIndex ∧
      config.profilingEnableParams.dispatchCount = config.dispatchCount := by
    simp [CaptureConfig.profilingEnableParams, mode]
  have settings := apply_auto_capture (source.enableFeature env config.profilingEnableParams).1 config.profilingParams
  have final : (config.enableFeature env source).1 =
      (source.enableFeature env config.profilingEnableParams).1.applyProfilingParams config.profilingParams := by
    simp [CaptureConfig.enableFeature, accepted]
  have configured : (source.enableFeature env config.profilingEnableParams).1 =
      source.configureRgp env config.profilingEnableParams := by
    simp [RgpTraceSourceConfig.enableFeature, available]
  rw [final]
  constructor
  · refine (congrArg AutoCaptureSettings.dispatchStartIndex settings).trans ?_
    rw [configured]
    exact params.1
  · refine (congrArg AutoCaptureSettings.dispatchCount settings).trans ?_
    rw [configured]
    simp only [CaptureConfig.profilingParams, RgpTraceSourceConfig.configureRgp, params.2]

-- The user's dispatch range as it is armed, and the API's own two calls.
theorem dispatch_range_armed_iff (command : CommandLine) (config : CaptureConfig) (startText countText : List Char)
    (start count : UInt32) (env : Environment) (source : RgpTraceSourceConfig)
    (text : command.rgpAutoCapture.map toLower = some ("dispatch".toList ++ ':' :: startText ++ ':' :: countText))
    (startRead : parseNumber startText = some start) (countRead : parseNumber countText = some count)
    (accepted : parseCommandLine command = some config) (enabled : (config.enableFeature env source).2 = true) :
    ((config.enableFeature env source).1.dispatchStartIndex = start ∧
        (config.enableFeature env source).1.dispatchCount = count ↔
      count ≠ 0 ∧ (toLower command.rgpCaptureMode = "dispatch".toList → command.rgpRenderOpCount = count)) ∧
    ∀ (enable : RdpCaptureProfilingEnableParams) (params : RdpCaptureProfilingParams),
      (((source.configureRgp env enable).applyProfilingParams params).autoCapture =
        (source.configureRgp env enable).autoCapture ↔
      (params.captureMode = .dispatch → params.renderOpCount = enable.dispatchCount)) := by
  obtain ⟨mode, started, counted, renderOps, dispatch, some⟩ :=
    parse_command_dispatch command config startText countText start count text startRead countRead accepted
  obtain ⟨armedStart, armedCount⟩ := enabled_auto_capture config env source mode enabled
  refine ⟨?_, fun enable params => apply_keeps_iff _ params⟩
  rw [armedStart, armedCount, started, counted, renderOps, ← dispatch]
  by_cases manual : config.rgpCaptureMode = .dispatch
  · have nonzero := some manual
    simp only [manual, if_true, true_and, forall_const]
    exact ⟨fun same => ⟨same ▸ nonzero, same⟩, fun both => both.2⟩
  · by_cases zero : count = 0
    · simp [manual, zero]
    · simp [manual, zero]

def sourceDefaults : RgpTraceSourceConfig := ⟨false, true, false, false, .none, 0, 1, 0, 1, 0, 0, false, false⟩

def allEnabled : Environment := ⟨true, true, true, false⟩

def dispatchCommand (captureMode : List Char) : CommandLine :=
  ⟨some "dispatch:1:10".toList, 0, captureMode, 1, false, false, false, "default".toList⟩

def dispatchConfig (captureMode : RdpCaptureProfilingCaptureMode) : CaptureConfig :=
  ⟨.dispatchIndex, 0, 1, 10, 0, false, false, false, .default, captureMode, 1⟩

-- Without a capture mode the range is armed as asked for.
theorem ten_dispatches_armed :
    let armed := (CaptureConfig.enableFeature (dispatchConfig .default) allEnabled sourceDefaults).1
    armed.dispatchStartIndex = 1 ∧ armed.dispatchCount = 10 :=
  (dispatch_range_armed_iff (dispatchCommand "default".toList) (dispatchConfig .default) "1".toList "10".toList 1 10
    allEnabled sourceDefaults (by decide) (by decide) (by decide) (by decide) (by decide)).1.mpr (by decide)

-- With the dispatch mode and one render operation a single dispatch is armed.
theorem ten_dispatches_overwritten :
    ¬ ∀ (command : CommandLine) (config : CaptureConfig) (startText countText : List Char) (start count : UInt32)
        (env : Environment) (source : RgpTraceSourceConfig),
      command.rgpAutoCapture.map toLower = some ("dispatch".toList ++ ':' :: startText ++ ':' :: countText) →
      parseNumber startText = some start → parseNumber countText = some count →
      parseCommandLine command = some config → (config.enableFeature env source).2 = true →
      (config.enableFeature env source).1.dispatchStartIndex = start ∧
        (config.enableFeature env source).1.dispatchCount = count := by
  intro armed
  have wrong := armed (dispatchCommand "dispatch".toList) (dispatchConfig .dispatch) "1".toList "10".toList 1 10
    allEnabled sourceDefaults (by decide) (by decide) (by decide) (by decide) (by decide)
  revert wrong
  decide

end RadeonPanel.Cli

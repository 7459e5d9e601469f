import RadeonPanel.Raytracing.ViewModels
import RadeonPanel.TraceSource.Configs

set_option autoImplicit false

namespace RadeonPanel.Profiling

open Userdata
open Raytracing (GlobalShortcut)
open TraceSource (WholeRgpTraceSourceConfig)

def SqttBufferSizeProfiles.custom : SqttBufferSizeProfiles := 5

def kDefaultSpmSampleFrequency : UInt32 := 4096
def kDefaultDispatchStart : UInt32 := 1
def kDefaultDispatchEnd : UInt32 := 10
def kDefaultAutoCaptureTime : UInt32 := 100
def kDefaultFrameCaptureIndex : UInt32 := 5

-- The default shortcut depends on the platform.
structure ModuleEnvironment extends Environment where
  printJson : JsonValue → Text
  defaultShortcut : GlobalShortcut
  supported : SupportedModes

structure ProfilingUserdataViewModel extends BaseUserdataViewModel .rgp where
  autoCaptureMode : AutoCaptureMode
  shouldDelayCapture : Bool
  captureDelay : UInt32
  prelaunchSettingsEditable : Bool
  shaderInstrumentationSupportedUniversally : Bool
  execPopTokensSupported : Bool
  spmCaptureSupported : Bool

-- The module's two view models and the settings of the trace source they share.
structure ProfilingModule where
  config : WholeRgpTraceSourceConfig
  traceSourceViewModel : ProfilingViewModel
  viewModel : ProfilingUserdataViewModel

def ProfilingUserdataViewModel.created : ProfilingUserdataViewModel where
  userdata := blankUserdata
  cachedUserdata := blankUserdata
  autoCaptureMode := .none
  shouldDelayCapture := false
  captureDelay := 100
  prelaunchSettingsEditable := true
  shaderInstrumentationSupportedUniversally := true
  execPopTokensSupported := false
  spmCaptureSupported := true

def ProfilingModule.created (env : ModuleEnvironment) : ProfilingModule where
  config := .created
  traceSourceViewModel := .created env.toEnvironment
  viewModel := .created

structure RgpTraceSourceSupport where
  isSpmCaptureSupported : Bool
  isShaderInstrumentationSupportedUniversally : Bool
  isExecPopTokensSupported : Bool
deriving DecidableEq, Repr

-- What the two steps of a replacement make of the set. Which place the element gets
-- is up to the set.
def replaceMode (modes : CaptureModeSet) (mode : DefaultCaptureMode) : CaptureModeSet :=
  CaptureModeSet.emplace ⟨modes.modes.filter fun a => !a.same mode, modes.distinct.filter _⟩ mode

section Userdata
variable (env : ModuleEnvironment)

def clampDispatchStart (dispatchStart : UInt32) : UInt32 := if dispatchStart < 1 then 1 else dispatchStart

def validateData (userdata : RgpUserdata) : RgpUserdata :=
  { userdata with
    dispatchStartIndex := clampDispatchStart userdata.dispatchStartIndex
    sqttBufferSizeProfile :=
      if userdata.sqttBufferSizeProfile = SqttBufferSizeProfiles.custom then .default else userdata.sqttBufferSizeProfile
    enableLegacyCapture := false }

def initializeDefaults (vm : ProfilingUserdataViewModel) (userdata : RgpUserdata) : RgpUserdata :=
  { userdata with
    outputPath := env.defaultOutputPath
    shouldDelayCapture := vm.shouldDelayCapture
    captureDelay := vm.captureDelay
    enableInstTracing := false
    enableCounters := true
    enableLegacyCapture := false
    disableCaptureTimeout := false
    enableExecPopTokens := false
    sqttBufferSizeProfile := .default
    customSqttBufferSize := 1
    autoCaptureMode := .none
    computeAutoCaptureTimeMs := kDefaultAutoCaptureTime
    dispatchStartIndex := kDefaultDispatchStart
    dispatchCount := kDefaultDispatchEnd
    frameCaptureIndex := kDefaultFrameCaptureIndex
    spmCountersPath := ""
    spmSamplingFrequency := kDefaultSpmSampleFrequency
    shortcutSequence := env.defaultShortcut.sequence
    shortcutNativeKey := env.defaultShortcut.nativeKey }

def onUserdataChanged (vm : ProfilingUserdataViewModel) : ProfilingUserdataViewModel :=
  { vm with
    shouldDelayCapture := vm.userdata.shouldDelayCapture
    captureDelay := vm.userdata.captureDelay
    autoCaptureMode := vm.userdata.autoCaptureMode }

-- What ReceiveUserData assigns once the text is read.
def assignConfig (userdata : RgpUserdata) (config : WholeRgpTraceSourceConfig) : WholeRgpTraceSourceConfig :=
  { config with
    enableSpmCounters := userdata.enableCounters
    enableLegacyCapture := userdata.enableLegacyCapture
    enableInstTracing := userdata.enableInstTracing
    disableCaptureTimeout := userdata.disableCaptureTimeout
    dispatchStartIndex := clampDispatchStart userdata.dispatchStartIndex
    dispatchCount := userdata.dispatchCount
    drawCount := userdata.drawCount
    autoCaptureMode := userdata.autoCaptureMode
    computeAutoCaptureTimeMs := userdata.computeAutoCaptureTimeMs
    frameCaptureIndex := userdata.frameCaptureIndex
    enableExecPopTokens := userdata.enableExecPopTokens
    sqttMemoryLimit := (kSqttProfileSizes[userdata.sqttBufferSizeProfile.toNat]?).getD 0 }

end Userdata

inductive UserdataHandler where
  | sqttProfileIndexChanged (profile : SqttBufferSizeProfiles)
  | shouldDelayCaptureChanged (shouldDelay : Bool)
  | captureShortcutChanged (shortcut : GlobalShortcut)
  | captureDelayChanged (delayMs : UInt32)
  | instructionTracingEnabledChanged (enabled : Bool)
  | legacyCaptureEnabledChanged (enabled : Bool)
  | disableCaptureTimeoutChanged (disabled : Bool)
  | execPopTokensEnabledChanged (enabled : Bool)
  | spmCaptureEnabledChanged (enabled : Bool)
  | autoCaptureModeChanged (mode : AutoCaptureMode)
  | computeAutoCaptureTimeChanged (timeMs : UInt32)
  | dispatchStartChanged (dispatchStart : UInt32)
  | dispatchCountChanged (dispatchCount : UInt32)
  | drawCountChanged (drawCount : UInt32)
  | frameCaptureIndexChanged (frameIndex : UInt32)
  -- Whether the driver takes the setting.
  | shaderInstrumentationEnabledChanged (enabled : Bool) (sets : Bool)
  | traceSupportChanged (args : RgpTraceSourceSupport)
  | updateDefaultCaptureMode (captureMode : DefaultCaptureMode)
  -- Whether the new output directory verifies.
  | outputPathChanged (outputPath : String) (verifies : Bool)
deriving DecidableEq, Repr

namespace ProfilingUserdataViewModel
variable (env : ModuleEnvironment) (vm : ProfilingUserdataViewModel)

def withBase (base : BaseUserdataViewModel .rgp) : ProfilingUserdataViewModel := { vm with toBaseUserdataViewModel := base }

-- The members that a handler sets with or before the userdata.
def handleMembers : UserdataHandler → ProfilingUserdataViewModel
  | .shouldDelayCaptureChanged shouldDelay => { vm with shouldDelayCapture := shouldDelay }
  | .captureDelayChanged delayMs => { vm with captureDelay := delayMs }
  | .autoCaptureModeChanged mode => { vm with autoCaptureMode := mode }
  | .traceSupportChanged args =>
      { vm with
        shaderInstrumentationSupportedUniversally := args.isShaderInstrumentationSupportedUniversally
        execPopTokensSupported := args.isExecPopTokensSupported
        spmCaptureSupported := args.isSpmCaptureSupported }
  | _ => vm

def handleAction (handler : UserdataHandler) (userdata cached : RgpUserdata) : RgpUserdata :=
  match handler with
  | .sqttProfileIndexChanged profile =>
      { userdata with
        sqttBufferSizeProfile := if profile = SqttBufferSizeProfiles.custom then .default else profile }
  | .shouldDelayCaptureChanged shouldDelay => { userdata with shouldDelayCapture := shouldDelay }
  | .captureShortcutChanged shortcut =>
      { userdata with shortcutNativeKey := shortcut.nativeKey, shortcutSequence := shortcut.sequence }
  | .captureDelayChanged delayMs => { userdata with captureDelay := delayMs }
  | .instructionTracingEnabledChanged enabled => { userdata with enableInstTracing := enabled }
  | .legacyCaptureEnabledChanged enabled => { userdata with enableLegacyCapture := enabled }
  | .disableCaptureTimeoutChanged disabled => { userdata with disableCaptureTimeout := disabled }
  | .execPopTokensEnabledChanged enabled => { userdata with enableExecPopTokens := enabled }
  | .spmCaptureEnabledChanged enabled => { userdata with enableCounters := enabled }
  | .autoCaptureModeChanged mode => { userdata with autoCaptureMode := mode }
  | .computeAutoCaptureTimeChanged timeMs => { userdata with computeAutoCaptureTimeMs := timeMs }
  | .dispatchStartChanged dispatchStart => { userdata with dispatchStartIndex := clampDispatchStart dispatchStart }
  | .dispatchCountChanged dispatchCount => { userdata with dispatchCount := dispatchCount }
  | .drawCountChanged drawCount => { userdata with drawCount := drawCount }
  | .frameCaptureIndexChanged frameIndex => { userdata with frameCaptureIndex := frameIndex }
  | .shaderInstrumentationEnabledChanged enabled sets =>
      if sets then
        { userdata with
          enableShaderInstrumentation := enabled
          enableExecPopTokens := enabled && vm.execPopTokensSupported }
      else userdata
  | .traceSupportChanged _ =>
      { userdata with enableExecPopTokens := userdata.enableShaderInstrumentation && vm.execPopTokensSupported }
  | .updateDefaultCaptureMode captureMode =>
      { userdata with defaultCaptureModes := replaceMode userdata.defaultCaptureModes captureMode }
  | .outputPathChanged outputPath verifies =>
      if outputPath = cached.outputPath then userdata
      else { userdata with outputPath := if verifies then outputPath else cached.outputPath }

-- What a handler writes into the settings of the trace source itself.
def handleConfig (handler : UserdataHandler) (userdata : RgpUserdata) (config : WholeRgpTraceSourceConfig) :
    WholeRgpTraceSourceConfig :=
  match handler with
  | .instructionTracingEnabledChanged enabled => { config with enableInstTracing := enabled }
  | .legacyCaptureEnabledChanged enabled => { config with enableLegacyCapture := enabled }
  | .disableCaptureTimeoutChanged disabled => { config with disableCaptureTimeout := disabled }
  | .execPopTokensEnabledChanged enabled => { config with enableExecPopTokens := enabled }
  | .spmCaptureEnabledChanged enabled => { config with enableSpmCounters := enabled }
  | .dispatchCountChanged dispatchCount => { config with dispatchCount := dispatchCount }
  | .drawCountChanged drawCount => { config with drawCount := drawCount }
  | .shaderInstrumentationEnabledChanged enabled sets =>
      if sets then { config with enableExecPopTokens := enabled && vm.execPopTokensSupported } else config
  | .traceSupportChanged _ =>
      { config with enableExecPopTokens := userdata.enableShaderInstrumentation && vm.execPopTokensSupported }
  | _ => config

def initializeDefaultsAndApply : ProfilingUserdataViewModel × List Text :=
  let applied := vm.toBaseUserdataViewModel.initializeDefaultsAndApply env.printJson (initializeDefaults env vm)
  (onUserdataChanged (vm.withBase applied.viewModel), applied.texts)

def loadSerializedData (serializedData : Text) : Bool × ProfilingUserdataViewModel × List Text :=
  let loaded := vm.toBaseUserdataViewModel.loadSerializedData env.printJson env.parseJson env.defaultOutputPath validateData
    (initializeDefaults env vm) serializedData
  (loaded.1, onUserdataChanged (vm.withBase loaded.2.viewModel), loaded.2.texts)

end ProfilingUserdataViewModel

namespace ProfilingModule
variable (env : ModuleEnvironment) (m : ProfilingModule)

def viewModelReceiveUserData (data : Text) : Bool × ProfilingModule :=
  let received := m.traceSourceViewModel.receiveUserData env.toEnvironment
    ⟨m.config.toRgpTraceSourceConfig, env.supported⟩ data
  (received.1,
    { m with
      traceSourceViewModel := received.2.1
      config := { m.config with toRgpTraceSourceConfig := received.2.2.config } })

-- The result does not tell whether the text was read.
def userdataViewModelReceiveUserData (data : Text) : Bool × ProfilingModule :=
  match readUserdata env.toEnvironment data with
  | some userdata => (true, { m with config := assignConfig userdata m.config })
  | none => (true, m)

def serializeData (serializedData : Text) : ProfilingModule :=
  (userdataViewModelReceiveUserData env (viewModelReceiveUserData env m serializedData).2 serializedData).2

def deliver (m : ProfilingModule) (texts : List Text) : ProfilingModule := texts.foldl (serializeData env) m

def loadSerializedData (data : Text) : Bool × ProfilingModule :=
  let traceSource := viewModelReceiveUserData env m data
  if traceSource.1 then
    let userdata := userdataViewModelReceiveUserData env traceSource.2 data
    if userdata.1 then
      let loaded := userdata.2.viewModel.loadSerializedData env data
      (loaded.1, deliver env { userdata.2 with viewModel := loaded.2.1 } loaded.2.2)
    else (false, userdata.2)
  else (false, traceSource.2)

def resetToDefaults : ProfilingModule :=
  let reset := m.viewModel.initializeDefaultsAndApply env
  deliver env { m with viewModel := reset.1 } reset.2

def handle (handler : UserdataHandler) : ProfilingModule :=
  let members := m.viewModel.handleMembers handler
  let applied := members.performUpdate env.printJson (members.handleAction handler)
  deliver env
    { m with
      config := members.handleConfig handler m.viewModel.userdata m.config
      viewModel := members.withBase applied.viewModel }
    applied.texts

def handlePrelaunchSettingsEditableChanged (editable : Bool) : ProfilingModule :=
  { m with viewModel.prelaunchSettingsEditable := editable }

end ProfilingModule

end RadeonPanel.Profiling

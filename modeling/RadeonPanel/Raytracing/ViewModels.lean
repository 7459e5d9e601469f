import RadeonPanel.Base.Numerals
import RadeonPanel.Userdata.BaseViewModel

set_option autoImplicit false

namespace RadeonPanel.Raytracing

open Userdata

structure RraTraceSourceConfig where
  rayHistoryBufferSize : UInt64
  enableRayHistory : Bool
  autoCaptureEnabled : Bool
  autoCaptureDelayMs : UInt32
  enableMarkerCapture : Bool
  isMarkerCaptureSupported : Bool
  markerBeginString : String
  markerEndString : String
deriving DecidableEq, Repr

def RraTraceSourceConfig.created : RraTraceSourceConfig := ⟨0, true, false, 0, false, false, "RRABeginMarker", "RRAEndMarker"⟩

def kRayHistoryBufferSizes : List String := ["268435456", "629145600", "1073741824", "2684354560", "4000000000"]

def defaultBufferSize : String := "1073741824"

def kMarkerCaptureArmDelayMs : UInt32 := 500

structure GlobalShortcut where
  sequence : Int32
  nativeKey : Int32
deriving DecidableEq, Repr

-- What the module has around it. The default shortcut depends on the platform.
structure Environment where
  printJson : JsonValue → Text
  parseJson : Text → Option JsonValue
  defaultOutputPath : String
  defaultShortcut : GlobalShortcut

structure RaytracingUserdataViewModel extends BaseUserdataViewModel .rra where
  enableRayHistory : Bool
  shouldDelayCapture : Bool
  captureDelay : UInt32
  prelaunchSettingsEditable : Bool

-- The module's two view models and the trace source they share. `readsOutside` records
-- a read outside the array of buffer sizes.
structure RaytracingModule where
  config : RraTraceSourceConfig
  outputPath : String
  viewModel : RaytracingUserdataViewModel
  readsOutside : Bool

def blankUserdata : RraUserdata where
  outputPath := ""
  shouldDelayCapture := false
  captureDelay := 100
  shortcutSequence := 0
  shortcutNativeKey := 0
  enableRayHistory := true
  rayHistoryBufferSize := ""
  rayHistoryBufferSizeIndex := rayHistoryBufferIndexDefaultBuffer
  enableMarkerCapture := false
  markerBeginString := "RRABeginMarker"
  markerEndString := "RRAEndMarker"

def RaytracingModule.created : RaytracingModule where
  config := .created
  outputPath := ""
  viewModel :=
    { userdata := blankUserdata
      cachedUserdata := blankUserdata
      enableRayHistory := false
      shouldDelayCapture := false
      captureDelay := 100
      prelaunchSettingsEditable := true }
  readsOutside := false

def strtoull (text : String) : UInt64 := Numerals.strtoull text.toList

-- Markers only take effect while a trace is requested.
def applyMarkerAutoCapture (config : RraTraceSourceConfig) : RraTraceSourceConfig :=
  if config.enableMarkerCapture && config.isMarkerCaptureSupported then
    { config with autoCaptureDelayMs := kMarkerCaptureArmDelayMs, autoCaptureEnabled := true }
  else { config with autoCaptureEnabled := false, autoCaptureDelayMs := 0 }

section Userdata
variable (env : Environment)

def readUserdata (data : Text) : Option RraUserdata :=
  match parse .rra env.parseJson (some data) env.defaultOutputPath blankUserdata with
  | (.ok (), userdata) => some userdata
  | (.error _, _) => none

def validateData (userdata : RraUserdata) : RraUserdata :=
  { userdata with
    rayHistoryBufferSizeIndex := min (max userdata.rayHistoryBufferSizeIndex 0) (UInt32.ofNat kRayHistoryBufferSizes.length - 1)
    rayHistoryBufferSize :=
      if strtoull userdata.rayHistoryBufferSize = 0 then defaultBufferSize else userdata.rayHistoryBufferSize }

def initializeDefaults (vm : RaytracingUserdataViewModel) (userdata : RraUserdata) : RraUserdata :=
  { userdata with
    outputPath := env.defaultOutputPath
    enableRayHistory := true
    rayHistoryBufferSizeIndex := rayHistoryBufferIndexDefaultBuffer
    rayHistoryBufferSize := defaultBufferSize
    shouldDelayCapture := vm.shouldDelayCapture
    captureDelay := vm.captureDelay
    shortcutSequence := env.defaultShortcut.sequence
    shortcutNativeKey := env.defaultShortcut.nativeKey }

def onUserdataChanged (vm : RaytracingUserdataViewModel) : RaytracingUserdataViewModel :=
  { vm with
    enableRayHistory := vm.userdata.enableRayHistory
    shouldDelayCapture := vm.userdata.shouldDelayCapture
    captureDelay := vm.userdata.captureDelay }

end Userdata

inductive Handler where
  | enableRayHistoryChanged (checked : Bool)
  | rayHistoryBufferSizeChanged (bufferSize : String)
  | rayHistoryBufferSizeIndexChanged (index : UInt32)
  | captureShortcutChanged (shortcut : GlobalShortcut)
  | captureDelayChanged (delayMs : UInt32)
  | shouldDelayCaptureChanged (shouldDelay : Bool)
  | enableMarkerCaptureChanged (checked : Bool)
  | markerBeginStringChanged (markerString : String)
  | markerEndStringChanged (markerString : String)
  -- Whether the new output directory verifies.
  | outputPathChanged (outputPath : String) (verifies : Bool)
deriving DecidableEq, Repr

namespace RaytracingUserdataViewModel
variable (env : Environment) (vm : RaytracingUserdataViewModel)

def withBase (base : BaseUserdataViewModel .rra) : RaytracingUserdataViewModel := { vm with toBaseUserdataViewModel := base }

-- The members that a handler sets with the userdata.
def handleMembers : Handler → RaytracingUserdataViewModel
  | .enableRayHistoryChanged checked => { vm with enableRayHistory := checked }
  | .captureDelayChanged delayMs => { vm with captureDelay := delayMs }
  | .shouldDelayCaptureChanged shouldDelay => { vm with shouldDelayCapture := shouldDelay }
  | _ => vm

def handleAction (handler : Handler) (userdata cached : RraUserdata) : RraUserdata :=
  match handler with
  | .enableRayHistoryChanged checked => { userdata with enableRayHistory := checked }
  | .rayHistoryBufferSizeChanged bufferSize => { userdata with rayHistoryBufferSize := bufferSize }
  | .rayHistoryBufferSizeIndexChanged index => { userdata with rayHistoryBufferSizeIndex := index }
  | .captureShortcutChanged shortcut =>
      { userdata with shortcutNativeKey := shortcut.nativeKey, shortcutSequence := shortcut.sequence }
  | .captureDelayChanged delayMs => { userdata with captureDelay := delayMs }
  | .shouldDelayCaptureChanged shouldDelay => { userdata with shouldDelayCapture := shouldDelay }
  | .enableMarkerCaptureChanged checked => { userdata with enableMarkerCapture := checked }
  | .markerBeginStringChanged markerString => { userdata with markerBeginString := markerString }
  | .markerEndStringChanged markerString => { userdata with markerEndString := markerString }
  | .outputPathChanged outputPath verifies =>
      if outputPath = cached.outputPath then userdata
      else { userdata with outputPath := if verifies then outputPath else cached.outputPath }

def handle (handler : Handler) : RaytracingUserdataViewModel × List Text :=
  let applied := vm.performUpdate env.printJson (handleAction handler)
  ((vm.handleMembers handler).withBase applied.viewModel, applied.texts)

def initializeDefaultsAndApply : RaytracingUserdataViewModel × List Text :=
  let applied := vm.toBaseUserdataViewModel.initializeDefaultsAndApply env.printJson (initializeDefaults env vm)
  (onUserdataChanged (vm.withBase applied.viewModel), applied.texts)

def loadSerializedData (serializedData : Text) : Bool × RaytracingUserdataViewModel × List Text :=
  let loaded := vm.toBaseUserdataViewModel.loadSerializedData env.printJson env.parseJson env.defaultOutputPath validateData
    (initializeDefaults env vm) serializedData
  (loaded.1, onUserdataChanged (vm.withBase loaded.2.viewModel), loaded.2.texts)

end RaytracingUserdataViewModel

namespace RaytracingModule
variable (env : Environment) (m : RaytracingModule)

-- The size comes from the index that was read. An index outside the array leaves what
-- is behind it; the receiver after this one writes the size anyway.
def viewModelReceiveUserData (data : Text) : Bool × RaytracingModule :=
  match readUserdata env data with
  | some userdata =>
      let received := { m with outputPath := userdata.outputPath }
      match kRayHistoryBufferSizes[userdata.rayHistoryBufferSizeIndex.toNat]? with
      | some rawBufferSize =>
          let bufferSize := strtoull rawBufferSize
          let used := if bufferSize = 0 then strtoull defaultBufferSize else bufferSize
          (true, { received with config.rayHistoryBufferSize := used })
      | none => (true, { received with readsOutside := true })
  | none => (false, { m with outputPath := env.defaultOutputPath })

-- The size comes from the string that was read.
def userdataViewModelReceiveUserData (data : Text) : Bool × RaytracingModule :=
  match readUserdata env data with
  | some userdata =>
      let config :=
        { m.config with
          enableRayHistory := userdata.enableRayHistory
          rayHistoryBufferSize := strtoull userdata.rayHistoryBufferSize
          enableMarkerCapture := userdata.enableMarkerCapture
          markerBeginString := userdata.markerBeginString
          markerEndString := userdata.markerEndString }
      (true, { m with config := applyMarkerAutoCapture config })
  | none => (true, m)

def serializeData (serializedData : Text) : RaytracingModule :=
  (userdataViewModelReceiveUserData env (viewModelReceiveUserData env m serializedData).2 serializedData).2

def deliver (m : RaytracingModule) (texts : List Text) : RaytracingModule := texts.foldl (serializeData env) m

def loadSerializedData (data : Text) : Bool × RaytracingModule :=
  let traceSource := viewModelReceiveUserData env m data
  if traceSource.1 then
    let userdata := userdataViewModelReceiveUserData env traceSource.2 data
    if userdata.1 then
      let loaded := userdata.2.viewModel.loadSerializedData env data
      (loaded.1, deliver env { userdata.2 with viewModel := loaded.2.1 } loaded.2.2)
    else (false, userdata.2)
  else (false, traceSource.2)

def resetToDefaults : RaytracingModule :=
  let reset := m.viewModel.initializeDefaultsAndApply env
  deliver env { m with viewModel := reset.1 } reset.2

def handle (handler : Handler) : RaytracingModule :=
  let handled := m.viewModel.handle env handler
  deliver env { m with viewModel := handled.1 } handled.2

def handleTraceSupportChanged (isMarkerCaptureSupported : Bool) : RaytracingModule :=
  { m with config := applyMarkerAutoCapture { m.config with isMarkerCaptureSupported := isMarkerCaptureSupported } }

def handlePrelaunchSettingsEditableChanged (editable : Bool) : RaytracingModule :=
  { m with viewModel.prelaunchSettingsEditable := editable }

end RaytracingModule

end RadeonPanel.Raytracing

import RadeonPanel.Rgp.SpmCapture
import RadeonPanel.TraceSource.Types
import RadeonPanel.Userdata.Userdata

set_option autoImplicit false

namespace RadeonPanel.Profiling

open TraceSource Userdata
open Rgp.Legacy (RgpCaptureMode)

def AutoCaptureMode.frameIndex : AutoCaptureMode := 1
def AutoCaptureMode.dispatchIndices : AutoCaptureMode := 2
def AutoCaptureMode.timer : AutoCaptureMode := 3

structure RgpTraceSourceConfig where
  autoCaptureMode : AutoCaptureMode
  computeAutoCaptureTimeMs : UInt32
  dispatchStartIndex : UInt32
  dispatchCount : UInt32
  sqttMemoryLimit : UInt32
  frameCaptureIndex : UInt32
deriving DecidableEq, Repr

def RgpTraceSourceConfig.created : RgpTraceSourceConfig := ⟨.none, 0, 1, 0, 0, 0⟩

def kSqttProfileSizes : List UInt32 := [16, 32, 75, 128, 256]

def rgpCaptureModeCount : Nat := 4

def capturesWith (autoCaptureMode : AutoCaptureMode) (mode : RgpCaptureMode) : Bool :=
  if autoCaptureMode = .none then true
  else if (mode = .frame || mode = .draw) &&
      (autoCaptureMode = AutoCaptureMode.timer || autoCaptureMode = AutoCaptureMode.dispatchIndices) then false
  else !((mode = .dispatch || mode = .draw) && autoCaptureMode = AutoCaptureMode.frameIndex)

def captureModeCandidates (autoCaptureMode : AutoCaptureMode) : List UInt32 :=
  ((List.range rgpCaptureModeCount).map UInt32.ofNat).filter (capturesWith autoCaptureMode)

-- The answer of the RGP trace source, given what its clients support.
def getSupportedCaptureModes (clients : DdConnectionId → Option (UInt32 → Bool)) (autoCaptureMode : AutoCaptureMode)
    (connectionId : DdConnectionId) : List UInt32 :=
  match clients connectionId with
  | some supports => (captureModeCandidates autoCaptureMode).filter supports
  | none => [0]

-- Which modes a connection supports may differ with the auto capture mode.
abbrev SupportedModes := AutoCaptureMode → DdConnectionId → List UInt32

structure RgpTraceSource where
  config : RgpTraceSourceConfig
  supported : SupportedModes

structure CaptureMode where
  text : String
  mode : UInt32
deriving DecidableEq, Repr

def textForCaptureMode (captureMode : RgpCaptureMode) : String :=
  if captureMode = .frame then "Frame"
  else if captureMode = .draw then "Draw"
  else if captureMode = .dispatch then "Dispatch"
  else if captureMode = 0 then "Automatic"
  else "Unknown"

-- The automatic mode is not shown beside others.
def captureModes (raw : List UInt32) : List CaptureMode :=
  (raw.filter fun mode => !(mode = 0 && raw.length > 1)).map fun mode => ⟨textForCaptureMode mode, mode⟩

def apiValue : RadeonPanel.Api → Userdata.Api
  | .unknown => 0
  | .directX12 => 1
  | .directX11 => 2
  | .directX9 => 3
  | .vulkan => 4
  | .openCl => 5
  | .hip => 6
  | .openGl => 7

-- The JSON library, the folder for profiles, and what memory holds where a member is
-- not initialized.
structure Environment where
  parseJson : Text → Option JsonValue
  defaultOutputPath : String
  uninitialized : UInt32

-- `takesFromEmpty` records that the first mode of an empty list was taken.
structure ProfilingViewModel where
  currentStatus : TraceSourceStatus
  connectedAppName : String
  captureTarget : DdConnectionId
  currentConnectionsCache : ConnectionMap
  rawOutputPath : String
  availableCaptureModes : List CaptureMode
  currentCaptureMode : UInt32
  defaultCaptureModes : CaptureModeSet
  isDelayCaptureInProgress : Bool
  takesFromEmpty : Bool

def blankUserdata : RgpUserdata where
  shouldDelayCapture := false
  captureDelay := 100
  shortcutSequence := 0
  shortcutNativeKey := 0
  outputPath := ""
  enableInstTracing := false
  enableCounters := true
  enableLegacyCapture := false
  disableCaptureTimeout := false
  sqttBufferSizeProfile := .default
  customSqttBufferSize := 0
  autoCaptureMode := .none
  computeAutoCaptureTimeMs := 0
  dispatchStartIndex := 1
  dispatchCount := 0
  drawCount := 1
  frameCaptureIndex := 0
  spmCountersPath := ""
  spmSamplingFrequency := 0
  enableShaderInstrumentation := false
  enableExecPopTokens := false
  defaultCaptureModes := .empty

def readUserdata (env : Environment) (data : Text) : Option RgpUserdata :=
  match parse .rgp env.parseJson (some data) env.defaultOutputPath blankUserdata with
  | (.ok (), userdata) => some userdata
  | (.error _, _) => none

-- `begin()` of the map, or none.
def firstConnection (connections : ConnectionMap) : DdConnectionId := (connections.entries.head?.map Prod.fst).getD 0

namespace ProfilingViewModel
variable (vm : ProfilingViewModel)

def created (env : Environment) : ProfilingViewModel :=
  ⟨.default, "", 0, .empty, "", [], env.uninitialized, .empty, false, false⟩

-- The auto capture mode of the userdata changes only a local in the source.
def getDefaultCaptureMode (availableModes : List CaptureMode) (appName : String) (api : RadeonPanel.Api) : Option UInt32 :=
  let front := availableModes.head?.map CaptureMode.mode
  match vm.defaultCaptureModes.modes.find? fun mode => mode.same ⟨appName, apiValue api, 0⟩ with
  | none => front
  | some found => if availableModes.any fun m => m.mode = found.captureMode then some found.captureMode else front

-- What a status event and a new target do alike.
def refreshCaptureModes (source : RgpTraceSource) (target : DdConnectionId) (appName : String) (api : RadeonPanel.Api) :
    ProfilingViewModel :=
  let modes := captureModes (source.supported source.config.autoCaptureMode target)
  let listed := { vm with availableCaptureModes := if vm.availableCaptureModes ≠ modes then modes else vm.availableCaptureModes }
  if modes.any fun m => m.mode = vm.currentCaptureMode then listed
  else match vm.getDefaultCaptureMode modes appName api with
    | some mode => { listed with currentCaptureMode := mode }
    | none => { listed with takesFromEmpty := true }

def processStatusAvailableCaptureModes (source : RgpTraceSource) (newStatus : TraceSourceStatus) : ProfilingViewModel :=
  let captureTarget := firstConnection newStatus.currentConnections
  if captureTarget = 0 then { vm with availableCaptureModes := [⟨"None", 0⟩], currentCaptureMode := 0 }
  else
    vm.refreshCaptureModes source captureTarget newStatus.applicationName
      ((newStatus.currentConnections.at? captureTarget).getD .unknown)

-- The callback of the base class, which is registered first.
def traceSourceOnStatusEvent (newStatus : TraceSourceStatus) : ProfilingViewModel :=
  { vm with
    currentStatus := newStatus
    connectedAppName := newStatus.applicationName
    captureTarget := firstConnection newStatus.currentConnections
    currentConnectionsCache :=
      if vm.currentConnectionsCache.equal newStatus.currentConnections then vm.currentConnectionsCache
      else newStatus.currentConnections }

def onStatusEvent (source : RgpTraceSource) (newStatus : TraceSourceStatus) : ProfilingViewModel :=
  let processed := vm.processStatusAvailableCaptureModes source newStatus
  match newStatus.traceStage with
  | .capturing | .processing | .dumping => { processed with isDelayCaptureInProgress := false }
  | _ => processed

def statusEvent (source : RgpTraceSource) (newStatus : TraceSourceStatus) : ProfilingViewModel :=
  (vm.traceSourceOnStatusEvent newStatus).onStatusEvent source newStatus

def onCaptureTargetChanged (source : RgpTraceSource) (captureTarget : DdConnectionId) : ProfilingViewModel :=
  match vm.currentStatus.currentConnections.at? captureTarget with
  | none => vm
  | some api => vm.refreshCaptureModes source captureTarget vm.currentStatus.applicationName api

def setCaptureTarget (source : RgpTraceSource) (captureTarget : DdConnectionId) : ProfilingViewModel :=
  onCaptureTargetChanged { vm with captureTarget := captureTarget } source captureTarget

def setCaptureMode (mode : UInt32) : ProfilingViewModel := { vm with currentCaptureMode := mode }

def receiveUserData (env : Environment) (source : RgpTraceSource) (data : Text) : Bool × ProfilingViewModel × RgpTraceSource :=
  match readUserdata env data with
  | some userdata =>
      let config :=
        { source.config with
          dispatchStartIndex := if userdata.dispatchStartIndex < 1 then 1 else userdata.dispatchStartIndex
          dispatchCount := userdata.dispatchCount
          autoCaptureMode := userdata.autoCaptureMode
          computeAutoCaptureTimeMs := userdata.computeAutoCaptureTimeMs
          sqttMemoryLimit := (kSqttProfileSizes[userdata.sqttBufferSizeProfile.toNat]?).getD 0
          frameCaptureIndex := userdata.frameCaptureIndex }
      (true, { vm with rawOutputPath := userdata.outputPath, defaultCaptureModes := userdata.defaultCaptureModes },
        { source with config := config })
  | none => (false, { vm with rawOutputPath := env.defaultOutputPath }, source)

def modes : List UInt32 := vm.availableCaptureModes.map CaptureMode.mode

theorem default_mode_listed {available : List CaptureMode} {appName : String} {api : RadeonPanel.Api} {mode : UInt32}
    (taken : vm.getDefaultCaptureMode available appName api = some mode) : mode ∈ available.map CaptureMode.mode := by
  have front : available.head?.map CaptureMode.mode = some mode → mode ∈ available.map CaptureMode.mode := by
    rw [← List.head?_map]
    exact List.mem_of_mem_head?
  unfold getDefaultCaptureMode at taken
  split at taken
  · exact front taken
  · split at taken
    next found _ listed =>
      cases taken
      obtain ⟨m, member, same⟩ := List.any_eq_true.mp listed
      exact List.mem_map.mpr ⟨m, member, of_decide_eq_true same⟩
    · exact front taken

theorem default_mode_none {available : List CaptureMode} {appName : String} {api : RadeonPanel.Api} :
    vm.getDefaultCaptureMode available appName api = none ↔ available = [] := by
  constructor
  · intro missing
    unfold getDefaultCaptureMode at missing
    split at missing
    · exact List.head?_eq_none_iff.mp (Option.map_eq_none_iff.mp missing)
    · split at missing
      · cases missing
      · exact List.head?_eq_none_iff.mp (Option.map_eq_none_iff.mp missing)
  · rintro rfl
    unfold getDefaultCaptureMode
    split <;> rfl

-- What a refresh leaves for the modes that are supported.
structure Refreshed (next : ProfilingViewModel) (available : List CaptureMode) : Prop where
  listed : next.availableCaptureModes = available
  target : next.captureTarget = vm.captureTarget
  status : next.currentStatus = vm.currentStatus
  chosen : available ≠ [] → next.currentCaptureMode ∈ next.modes
  taken : next.takesFromEmpty = (vm.takesFromEmpty || available.isEmpty)

theorem refresh_spec (source : RgpTraceSource) (target : DdConnectionId) (appName : String) (api : RadeonPanel.Api) :
    vm.Refreshed (vm.refreshCaptureModes source target appName api)
      (captureModes (source.supported source.config.autoCaptureMode target)) := by
  unfold refreshCaptureModes
  generalize captureModes (source.supported source.config.autoCaptureMode target) = available
  have same : (if vm.availableCaptureModes ≠ available then available else vm.availableCaptureModes) = available :=
    ite_eq_left_iff.mpr not_not.mp
  simp only [same]
  by_cases current : available.any fun m => m.mode = vm.currentCaptureMode
  · rw [if_pos current]
    obtain ⟨m, member, equal⟩ := List.any_eq_true.mp current
    have filled : available.isEmpty = false := List.isEmpty_eq_false_iff_exists_mem.mpr ⟨m, member⟩
    exact ⟨rfl, rfl, rfl, fun _ => List.mem_map.mpr ⟨m, member, of_decide_eq_true equal⟩, by rw [filled, Bool.or_false]⟩
  · rw [if_neg current]
    cases default : vm.getDefaultCaptureMode available appName api with
    | none =>
        have empty := vm.default_mode_none.mp default
        exact ⟨rfl, rfl, rfl, fun filled => absurd empty filled, by rw [empty, List.isEmpty_nil, Bool.or_true]⟩
    | some mode =>
        have listed := vm.default_mode_listed default
        have filled : available ≠ [] := fun empty => by rw [empty] at listed; cases listed
        exact ⟨rfl, rfl, rfl, fun _ => listed, by rw [List.isEmpty_eq_false_iff.mpr filled, Bool.or_false]⟩

end ProfilingViewModel

end RadeonPanel.Profiling

import RadeonPanel.Userdata.Properties

set_option autoImplicit false

namespace RadeonPanel.Userdata

-- Enumerations of 8 bits, which can hold every value of their type.
abbrev Api := UInt8
abbrev SqttBufferSizeProfiles := UInt8
abbrev AutoCaptureMode := UInt8

def Api.unknown : Api := 0
def SqttBufferSizeProfiles.default : SqttBufferSizeProfiles := 2
def AutoCaptureMode.none : AutoCaptureMode := 0
def rayHistoryBufferIndexDefaultBuffer : UInt32 := 2

@[ext]
structure DefaultCaptureMode where
  application : String
  api : Api
  captureMode : UInt32
deriving DecidableEq, Repr

def DefaultCaptureMode.blank : DefaultCaptureMode := ⟨"", .unknown, 0⟩

-- `operator==` is what the set goes by: it leaves out the mode.
def DefaultCaptureMode.same (a b : DefaultCaptureMode) : Bool := a.application = b.application && a.api = b.api

-- An unordered set in the order of its iteration.
@[ext]
structure CaptureModeSet where
  modes : List DefaultCaptureMode
  distinct : modes.Pairwise fun a b => a.same b = false

namespace CaptureModeSet

def empty : CaptureModeSet := ⟨[], .nil⟩

-- An equal element that is there is kept.
def emplace (s : CaptureModeSet) (mode : DefaultCaptureMode) : CaptureModeSet :=
  if fresh : s.modes.all (fun a => !a.same mode) then
    ⟨s.modes ++ [mode], List.pairwise_append.mpr ⟨s.distinct, List.pairwise_singleton _ _, by simpa using fresh⟩⟩
  else s

theorem emplace_modes (s : CaptureModeSet) (mode : DefaultCaptureMode) :
    (s.emplace mode).modes = if s.modes.all (fun a => !a.same mode) then s.modes ++ [mode] else s.modes := by
  unfold emplace
  split <;> simp_all

end CaptureModeSet

structure TriggerableUserdata where
  shouldDelayCapture : Bool
  captureDelay : UInt32
  shortcutSequence : Int32
  shortcutNativeKey : Int32
deriving DecidableEq, Repr

structure RmvUserdata where
  outputPath : String
deriving DecidableEq, Repr

structure RgdSummaryOptions where
  showMarkerSource : Bool
  expandMarkers : Bool
  pdbSearchPaths : List String
  pdbIncludeSubfolders : Bool
deriving DecidableEq, Repr

structure RgdUserdata where
  outputPath : String
  generateTextSummary : Bool
  generateJsonSummary : Bool
  summaryOptions : RgdSummaryOptions
  enableAdvancedCrash : Bool
  disableSerializeMemOps : Bool
  disableSerializeAluOps : Bool
  collectWaveSgprs : Bool
  collectWaveVgprs : Bool
deriving DecidableEq, Repr

structure RgpUserdata extends TriggerableUserdata where
  outputPath : String
  enableInstTracing : Bool
  enableCounters : Bool
  enableLegacyCapture : Bool
  disableCaptureTimeout : Bool
  sqttBufferSizeProfile : SqttBufferSizeProfiles
  customSqttBufferSize : UInt32
  autoCaptureMode : AutoCaptureMode
  computeAutoCaptureTimeMs : UInt32
  dispatchStartIndex : UInt32
  dispatchCount : UInt32
  drawCount : UInt32
  frameCaptureIndex : UInt32
  spmCountersPath : String
  spmSamplingFrequency : UInt32
  enableShaderInstrumentation : Bool
  enableExecPopTokens : Bool
  defaultCaptureModes : CaptureModeSet

structure RraUserdata extends TriggerableUserdata where
  outputPath : String
  enableRayHistory : Bool
  rayHistoryBufferSize : String
  rayHistoryBufferSizeIndex : UInt32
  enableMarkerCapture : Bool
  markerBeginString : String
  markerEndString : String
deriving DecidableEq, Repr

def isEqual (lhs rhs : TriggerableUserdata) : Bool :=
  rhs.shouldDelayCapture = lhs.shouldDelayCapture && rhs.captureDelay = lhs.captureDelay &&
    rhs.shortcutNativeKey = lhs.shortcutNativeKey && rhs.shortcutSequence = lhs.shortcutSequence

def RmvUserdata.equals (x other : RmvUserdata) : Bool := x.outputPath = other.outputPath

def RgdUserdata.equals (x other : RgdUserdata) : Bool :=
  x.outputPath = other.outputPath && x.generateTextSummary = other.generateTextSummary &&
    x.generateJsonSummary = other.generateJsonSummary &&
    x.summaryOptions.showMarkerSource = other.summaryOptions.showMarkerSource &&
    x.summaryOptions.expandMarkers = other.summaryOptions.expandMarkers &&
    x.summaryOptions.pdbSearchPaths = other.summaryOptions.pdbSearchPaths &&
    x.summaryOptions.pdbIncludeSubfolders = other.summaryOptions.pdbIncludeSubfolders &&
    x.enableAdvancedCrash = other.enableAdvancedCrash && x.disableSerializeMemOps = other.disableSerializeMemOps &&
    x.disableSerializeAluOps = other.disableSerializeAluOps && x.collectWaveSgprs = other.collectWaveSgprs &&
    x.collectWaveVgprs = other.collectWaveVgprs

-- Here the modes of the set's elements count too.
def RgpUserdata.equals (x other : RgpUserdata) : Bool :=
  x.defaultCaptureModes.modes.length = other.defaultCaptureModes.modes.length &&
    x.defaultCaptureModes.modes.all (fun mode =>
      other.defaultCaptureModes.modes.any fun m => m.same mode && m.captureMode = mode.captureMode) &&
    x.outputPath = other.outputPath && isEqual x.toTriggerableUserdata other.toTriggerableUserdata &&
    x.enableInstTracing = other.enableInstTracing && x.enableLegacyCapture = other.enableLegacyCapture &&
    x.enableCounters = other.enableCounters && x.disableCaptureTimeout = other.disableCaptureTimeout &&
    x.enableExecPopTokens = other.enableExecPopTokens && x.sqttBufferSizeProfile = other.sqttBufferSizeProfile &&
    x.customSqttBufferSize = other.customSqttBufferSize && x.autoCaptureMode = other.autoCaptureMode &&
    x.frameCaptureIndex = other.frameCaptureIndex && x.dispatchStartIndex = other.dispatchStartIndex &&
    x.dispatchCount = other.dispatchCount && x.drawCount = other.drawCount &&
    x.computeAutoCaptureTimeMs = other.computeAutoCaptureTimeMs && x.spmCountersPath = other.spmCountersPath &&
    x.spmSamplingFrequency = other.spmSamplingFrequency &&
    x.enableShaderInstrumentation = other.enableShaderInstrumentation

def RraUserdata.equals (x other : RraUserdata) : Bool :=
  x.outputPath = other.outputPath && isEqual x.toTriggerableUserdata other.toTriggerableUserdata &&
    x.enableRayHistory = other.enableRayHistory && x.rayHistoryBufferSize = other.rayHistoryBufferSize &&
    x.rayHistoryBufferSizeIndex = other.rayHistoryBufferSizeIndex &&
    x.enableMarkerCapture = other.enableMarkerCapture && x.markerBeginString = other.markerBeginString &&
    x.markerEndString = other.markerEndString

section Maps
variable {T V : Type} [Scalar V]

def mapped (key : String) (get : T → V) (set : T → V → T) (default : V) : Property T :=
  property key get set (mapScalar (some default))

-- Of the base struct, reached from the struct derived from it.
def mapTriggerableUserdata (get : T → TriggerableUserdata) (set : T → TriggerableUserdata → T) : List (Property T) :=
  [mapped "delay_capture" (fun d => (get d).shouldDelayCapture) (fun d v => set d { get d with shouldDelayCapture := v }) false,
    mapped "capture_delay" (fun d => (get d).captureDelay) (fun d v => set d { get d with captureDelay := v }) 100,
    mapped "shortcut_sequence" (fun d => (get d).shortcutSequence) (fun d v => set d { get d with shortcutSequence := v }) 0,
    mapped "shortcut_native_key" (fun d => (get d).shortcutNativeKey) (fun d v => set d { get d with shortcutNativeKey := v }) 0]

def rmvMaps (defaultOutputPath : String) : List (Property RmvUserdata) :=
  [mapped "output_path" RmvUserdata.outputPath (fun d v => { d with outputPath := v }) defaultOutputPath]

def rraMaps (defaultOutputPath : String) : List (Property RraUserdata) :=
  mapped "output_path" RraUserdata.outputPath (fun d v => { d with outputPath := v }) defaultOutputPath ::
    mapTriggerableUserdata RraUserdata.toTriggerableUserdata (fun d v => { d with toTriggerableUserdata := v }) ++
    [mapped "enable_ray_history" RraUserdata.enableRayHistory (fun d v => { d with enableRayHistory := v }) true,
      mapped "ray_history_buffer_size_custom" RraUserdata.rayHistoryBufferSize
        (fun d v => { d with rayHistoryBufferSize := v }) "0",
      mapped "ray_history_buffer_size_index" RraUserdata.rayHistoryBufferSizeIndex
        (fun d v => { d with rayHistoryBufferSizeIndex := v }) rayHistoryBufferIndexDefaultBuffer,
      mapped "enable_marker_capture" RraUserdata.enableMarkerCapture (fun d v => { d with enableMarkerCapture := v }) false,
      mapped "marker_begin_string" RraUserdata.markerBeginString (fun d v => { d with markerBeginString := v })
        "RRABeginMarker",
      mapped "marker_end_string" RraUserdata.markerEndString (fun d v => { d with markerEndString := v }) "RRAEndMarker"]

-- Without defaults: an item has all three or is not read.
def defaultCaptureModeMaps : List (Property DefaultCaptureMode) :=
  [property "app_name" DefaultCaptureMode.application (fun d v => { d with application := v }) (mapScalar none),
    property "api" DefaultCaptureMode.api (fun d v => { d with api := v }) (mapScalar none),
    property "default_mode" DefaultCaptureMode.captureMode (fun d v => { d with captureMode := v }) (mapScalar none)]

def mapDefaultCaptureMode : Mapping DefaultCaptureMode := mapAll defaultCaptureModeMaps

def rgpMaps (defaultOutputPath : String) : List (Property RgpUserdata) :=
  mapped "output_path" RgpUserdata.outputPath (fun d v => { d with outputPath := v }) defaultOutputPath ::
    mapTriggerableUserdata RgpUserdata.toTriggerableUserdata (fun d v => { d with toTriggerableUserdata := v }) ++
    [mapped "enable_inst_tracing" RgpUserdata.enableInstTracing (fun d v => { d with enableInstTracing := v }) false,
      mapped "enable_counters" RgpUserdata.enableCounters (fun d v => { d with enableCounters := v }) true,
      mapped "enable_legacy_capture" RgpUserdata.enableLegacyCapture (fun d v => { d with enableLegacyCapture := v }) false,
      mapped "disable_capture_timeout" RgpUserdata.disableCaptureTimeout
        (fun d v => { d with disableCaptureTimeout := v }) false,
      mapped "enable_exec_pop_tokens" RgpUserdata.enableExecPopTokens (fun d v => { d with enableExecPopTokens := v }) false,
      mapped "sqtt_buffer_size_profile" RgpUserdata.sqttBufferSizeProfile
        (fun d v => { d with sqttBufferSizeProfile := v }) SqttBufferSizeProfiles.default,
      mapped "sqtt_buffer_custom_size" RgpUserdata.customSqttBufferSize (fun d v => { d with customSqttBufferSize := v }) 0,
      mapped "opencl_auto_trigger" RgpUserdata.autoCaptureMode (fun d v => { d with autoCaptureMode := v })
        AutoCaptureMode.none,
      mapped "frame_capture_index" RgpUserdata.frameCaptureIndex (fun d v => { d with frameCaptureIndex := v }) 0,
      mapped "dispatch_start_index" RgpUserdata.dispatchStartIndex (fun d v => { d with dispatchStartIndex := v }) 1,
      mapped "dispatch_count" RgpUserdata.dispatchCount (fun d v => { d with dispatchCount := v }) 0,
      mapped "draw_count" RgpUserdata.drawCount (fun d v => { d with drawCount := v }) 1,
      mapped "compute_auto_capture_time_ms" RgpUserdata.computeAutoCaptureTimeMs
        (fun d v => { d with computeAutoCaptureTimeMs := v }) 0,
      mapped "spm_counter_path" RgpUserdata.spmCountersPath (fun d v => { d with spmCountersPath := v }) "",
      mapped "spm_counter_frequency" RgpUserdata.spmSamplingFrequency (fun d v => { d with spmSamplingFrequency := v }) 0,
      mapped "enable_shader_instrumentation" RgpUserdata.enableShaderInstrumentation
        (fun d v => { d with enableShaderInstrumentation := v }) false,
      property "default_capture_modes" RgpUserdata.defaultCaptureModes (fun d v => { d with defaultCaptureModes := v })
        (mapArr CaptureModeSet.modes .empty CaptureModeSet.emplace .blank mapDefaultCaptureMode (some .empty))]

def rgdMaps (defaultOutputPath : String) : List (Property RgdUserdata) :=
  [mapped "output_path" RgdUserdata.outputPath (fun d v => { d with outputPath := v }) defaultOutputPath,
    mapped "generate_text_summary" RgdUserdata.generateTextSummary (fun d v => { d with generateTextSummary := v }) false,
    mapped "generate_json_summary" RgdUserdata.generateJsonSummary (fun d v => { d with generateJsonSummary := v }) false,
    mapped "show_marker_source" (fun d : RgdUserdata => d.summaryOptions.showMarkerSource)
      (fun d v => { d with summaryOptions.showMarkerSource := v }) false,
    mapped "expand_markers" (fun d : RgdUserdata => d.summaryOptions.expandMarkers)
      (fun d v => { d with summaryOptions.expandMarkers := v }) false,
    mapped "enable_advanced_crash" RgdUserdata.enableAdvancedCrash (fun d v => { d with enableAdvancedCrash := v }) true,
    property "pdb_search_paths" (fun d : RgdUserdata => d.summaryOptions.pdbSearchPaths)
      (fun d v => { d with summaryOptions.pdbSearchPaths := v })
      (mapArr id [] (fun paths path => paths ++ [path]) "" (mapScalar none) (some [])),
    mapped "pdb_include_subfolders" (fun d : RgdUserdata => d.summaryOptions.pdbIncludeSubfolders)
      (fun d v => { d with summaryOptions.pdbIncludeSubfolders := v }) false,
    mapped "serialize_mem_ops" RgdUserdata.disableSerializeMemOps (fun d v => { d with disableSerializeMemOps := v }) false,
    mapped "serialize_alu_ops" RgdUserdata.disableSerializeAluOps (fun d v => { d with disableSerializeAluOps := v }) false,
    mapped "collect_wave_sgprs" RgdUserdata.collectWaveSgprs (fun d v => { d with collectWaveSgprs := v }) false,
    mapped "collect_wave_vgprs" RgdUserdata.collectWaveVgprs (fun d v => { d with collectWaveVgprs := v }) false]

end Maps

-- The instances of the mapper.
inductive Source where
  | rmv | rgd | rgp | rra
deriving DecidableEq, Repr

namespace Source

def UserdataType : Source → Type
  | .rmv => RmvUserdata
  | .rgd => RgdUserdata
  | .rgp => RgpUserdata
  | .rra => RraUserdata

def map : (source : Source) → String → List (Property source.UserdataType)
  | .rmv => rmvMaps
  | .rgd => rgdMaps
  | .rgp => rgpMaps
  | .rra => rraMaps

def equals : (source : Source) → source.UserdataType → source.UserdataType → Bool
  | .rmv => RmvUserdata.equals
  | .rgd => RgdUserdata.equals
  | .rgp => RgpUserdata.equals
  | .rra => RraUserdata.equals

end Source

-- The texts are bytes; printing and parsing them is the JSON library's.
abbrev Text := List UInt8

section Mapper
variable (source : Source) (printJson : JsonValue → Text) (parseJson : Text → Option JsonValue)

-- Also gives what the output object holds afterwards. A null pointer is `none`.
def parse (data : Option Text) (defaultOutputPath : String) (outData : source.UserdataType) :
    Except String Unit × source.UserdataType :=
  match data with
  | none | some [] => (.error "Data is null or empty", outData)
  | some (byte :: rest) =>
      match parseJson (byte :: rest) with
      | none => (.error "Failed to parse userdata JSON", outData)
      | some json =>
          match mapAll (source.map defaultOutputPath) outData ⟨false, some json⟩ with
          | ((true, read), _) => (.ok (), read)
          | ((false, read), _) => (.error "Failed to map userdata", read)

def serialize (data : source.UserdataType) : Except String Text :=
  match mapAll (source.map "") data ⟨true, some (.object [])⟩ with
  | ((true, _), m) => .ok (m.json.elim "\x7b\x7d".toUTF8.data.toList printJson)
  | ((false, _), _) => .error "Failed to map userdata for serialization"

end Mapper

end RadeonPanel.Userdata

import RadeonPanel.Json.RoundTrip
import RadeonPanel.Rgp.FrameController
import RadeonPanel.Spm.HardwareCounters

set_option autoImplicit false

namespace RadeonPanel.Ubertrace.ConfigText

open Json KeyedValues Userdata
open Rgp.FrameTrigger (FrameControllerConfig RenderOpControllerConfig)
open Spm.CounterHandler (DDGpuProfilingSpmCounterId)

instance : Scalar UInt64 where
  getValue json := (uint64 json).map UInt64.ofNat
  setValue value := .number value.toNat
  get_set value := by simp [uint64_number _ value.toNat_lt]

-- What a part of the configuration does with the mapper that writes it.
abbrev Writer := JsonMapper → Bool × JsonMapper

-- One `mapper[..][..](value)`.
def put {V : Type} (path : List String) (map : Mapping V) (value : V) : Writer := fun m =>
  ((indexPath (map value) path m).1.1, (indexPath (map value) path m).2)

def scalar {V : Type} [Scalar V] (path : List String) (value : V) : Writer := put path (mapScalar none) value

-- `&&` stops at the first that fails.
def both (first second : Writer) : Writer := fun m =>
  if (first m).1 then second (first m).2 else (false, (first m).2)

-- A mapper for a member is handed on.
def inside (key : String) (writer : Writer) : Writer := fun m => m.index key writer

-- How a vector's element is written.
def element {V : Type} (writer : V → Writer) : Mapping V := fun value m => (((writer value m).1, value), (writer value m).2)

def vector {V : Type} (path : List String) (mapItem : Mapping V) (blank : V) (items : List V) : Writer :=
  put path (mapArr id [] pushBack blank mapItem none) items

inductive ControllerConfig where
  | null
  | base (enabled : Bool)
  | frame (config : FrameControllerConfig)
  | renderOp (config : RenderOpControllerConfig)
  | marker (enabled : Bool) (startMarkerString endMarkerString : String)
deriving DecidableEq, Repr

def UbertraceControllerConfig.map (enabled : Bool) : Writer := scalar ["enabled"] enabled

def ControllerConfig.map : ControllerConfig → Writer
  | .null => fun m => (true, m)
  | .base enabled => UbertraceControllerConfig.map enabled
  | .frame config =>
      both (both (both (both (UbertraceControllerConfig.map config.enabled) (scalar ["numPrepFrames"] config.numPrepFrames))
        (scalar ["captureFrameCount"] config.numCaptureFrames)) (scalar ["captureMode"] config.captureMode))
        (scalar ["preparationStartIndex"] config.prepStartIndex)
  | .renderOp config =>
      both (both (both (both (both (UbertraceControllerConfig.map config.enabled) (scalar ["renderOpMode"] config.renderOp))
        (scalar ["numPrepRenderOps"] config.numPrepOps)) (scalar ["captureRenderOpCount"] config.numCaptureOps))
        (scalar ["captureMode"] config.captureMode)) (scalar ["preparationStartRenderOp"] config.prepStartIndex)
  | .marker enabled startMarkerString endMarkerString =>
      both (both (UbertraceControllerConfig.map enabled) (scalar ["startMarkerString"] startMarkerString))
        (scalar ["endMarkerString"] endMarkerString)

structure UbertraceController where
  name : String
  config : ControllerConfig
deriving DecidableEq, Repr

def mapController (controller : UbertraceController) : Writer :=
  both (scalar ["name"] controller.name)
    (match controller.config with
      | .null => fun m => (true, m)
      | config => inside "config" config.map)

structure UbertraceControllerCollection where
  useNewFormat : Bool
  controller : UbertraceController
deriving DecidableEq, Repr

def UbertraceControllerCollection.map (collection : UbertraceControllerCollection) : Writer :=
  if collection.useNewFormat then inside "controller" (mapController collection.controller)
  else vector ["controllers"] (element mapController) ⟨"", .null⟩ [collection.controller]

structure GpuPerf where
  enableSqtt : Bool
  sqttMemoryLimit : UInt64
  enableInstTokens : Bool
  enableExecPopTokens : Bool
  seMask : UInt32
deriving DecidableEq, Repr

structure Spm where
  counters : List DDGpuProfilingSpmCounterId
  sampleFrequency : UInt32
  spmMemoryLimit : UInt32
deriving DecidableEq

inductive SourceConfig where
  | null
  | base
  | enableDisable (enabled : Bool)
  | rayHistory (enabled : Bool) (rayHistoryBufferSize : UInt64)
  | gpuPerf (config : GpuPerf)
  | gpuPerfSpm (config : GpuPerf) (spm : Spm)
deriving DecidableEq

def EnableDisableUberTraceSourceConfig.map (enabled : Bool) : Writer := scalar ["config", "enabled"] enabled

def GpuPerf.map (config : GpuPerf) : Writer :=
  both (both (both (both (both (scalar ["config", "sqtt", "enabled"] config.enableSqtt) (scalar ["config", "spm", "enabled"] false))
    (scalar ["config", "sqtt", "memoryLimitInMb"] config.sqttMemoryLimit))
    (scalar ["config", "sqtt", "enableInstructionTokens"] config.enableInstTokens))
    (scalar ["config", "sqtt", "enableExecPopTokens"] config.enableExecPopTokens))
    (scalar ["config", "sqtt", "seMask"] config.seMask)

def mapCounter (counter : DDGpuProfilingSpmCounterId) : Writer :=
  put [] (mapContainer id [] pushBack none) [counter.blockId, counter.instanceId, counter.eventId]

def SourceConfig.map : SourceConfig → Writer
  | .null => fun m => (true, m)
  | .base => fun m => (true, m)
  | .enableDisable enabled => EnableDisableUberTraceSourceConfig.map enabled
  | .rayHistory enabled rayHistoryBufferSize =>
      both (EnableDisableUberTraceSourceConfig.map enabled) (scalar ["config", "rayHistoryBufferSizeBytes"] rayHistoryBufferSize)
  | .gpuPerf config => config.map
  | .gpuPerfSpm config spm =>
      both (both (both (both config.map (scalar ["config", "spm", "enabled"] true))
        (vector ["config", "spm", "perfCounters"] (element mapCounter) ⟨0, 0, 0⟩ spm.counters))
        (scalar ["config", "spm", "sampleFrequency"] spm.sampleFrequency))
        (scalar ["config", "spm", "memoryLimitInMb"] spm.spmMemoryLimit)

structure UberTraceSource where
  name : String
  config : SourceConfig
deriving DecidableEq

def mapSource (source : UberTraceSource) : Writer := both (scalar ["name"] source.name) source.config.map

structure UberTraceConfig where
  controllers : Option UbertraceControllerCollection
  sources : List UberTraceSource
  enableSingleTokenSqttWrite : Option Bool
deriving DecidableEq

def UberTraceConfig.map (config : UberTraceConfig) : Writer :=
  both (both (vector ["sources"] (element mapSource) ⟨"", .null⟩ config.sources)
    (match config.controllers with
      | none => fun m => (true, m)
      | some controllers => controllers.map))
    (match config.enableSingleTokenSqttWrite with
      | none => fun m => (true, m)
      | some enable => inside "global" (scalar ["enableSingleTokenSqttWrite"] enable))

def serialize (library : Library) (config : UberTraceConfig) : Except String library.Text :=
  let result := config.map JsonMapper.serialize
  match result.1, result.2.json with
  | true, some json => .ok (library.write json)
  | _, _ => .error "Failed to map UberTrace config for serialization"

-- The document that is meant.
def GpuPerf.document (config : GpuPerf) : JsonValue :=
  .object [("enabled", .bool config.enableSqtt), ("memoryLimitInMb", .number config.sqttMemoryLimit.toNat),
    ("enableInstructionTokens", .bool config.enableInstTokens), ("enableExecPopTokens", .bool config.enableExecPopTokens),
    ("seMask", .number config.seMask.toNat)]

def counterDocument (counter : DDGpuProfilingSpmCounterId) : JsonValue :=
  .array [.number counter.blockId.toNat, .number counter.instanceId.toNat, .number counter.eventId.toNat]

def Spm.document (spm : Spm) : JsonValue :=
  .object [("enabled", .bool true), ("perfCounters", .array (spm.counters.map counterDocument)),
    ("sampleFrequency", .number spm.sampleFrequency.toNat), ("memoryLimitInMb", .number spm.spmMemoryLimit.toNat)]

def SourceConfig.document : SourceConfig → Option JsonValue
  | .null => none
  | .base => none
  | .enableDisable enabled => some (.object [("enabled", .bool enabled)])
  | .rayHistory enabled rayHistoryBufferSize =>
      some (.object [("enabled", .bool enabled), ("rayHistoryBufferSizeBytes", .number rayHistoryBufferSize.toNat)])
  | .gpuPerf config => some (.object [("sqtt", config.document), ("spm", .object [("enabled", .bool false)])])
  | .gpuPerfSpm config spm => some (.object [("sqtt", config.document), ("spm", spm.document)])

def withConfig (name : String) (config : Option JsonValue) : JsonValue :=
  .object (("name", .string name) :: (config.map fun document => ("config", document)).toList)

def ControllerConfig.document : ControllerConfig → Option JsonValue
  | .null => none
  | .base enabled => some (.object [("enabled", .bool enabled)])
  | .frame config =>
      some (.object [("enabled", .bool config.enabled), ("numPrepFrames", .number config.numPrepFrames.toNat),
        ("captureFrameCount", .number config.numCaptureFrames.toNat), ("captureMode", .string config.captureMode),
        ("preparationStartIndex", .number config.prepStartIndex.toNat)])
  | .renderOp config =>
      some (.object [("enabled", .bool config.enabled), ("renderOpMode", .string config.renderOp),
        ("numPrepRenderOps", .number config.numPrepOps.toNat), ("captureRenderOpCount", .number config.numCaptureOps.toNat),
        ("captureMode", .string config.captureMode), ("preparationStartRenderOp", .number config.prepStartIndex.toNat)])
  | .marker enabled startMarkerString endMarkerString =>
      some (.object [("enabled", .bool enabled), ("startMarkerString", .string startMarkerString),
        ("endMarkerString", .string endMarkerString)])

def UbertraceController.document (controller : UbertraceController) : JsonValue :=
  withConfig controller.name controller.config.document

def UberTraceSource.document (source : UberTraceSource) : JsonValue := withConfig source.name source.config.document

def UbertraceControllerCollection.member (collection : UbertraceControllerCollection) : String × JsonValue :=
  if collection.useNewFormat then ("controller", collection.controller.document)
  else ("controllers", .array [collection.controller.document])

def UberTraceConfig.document (config : UberTraceConfig) : JsonValue :=
  .object (("sources", .array (config.sources.map UberTraceSource.document)) ::
    (config.controllers.map UbertraceControllerCollection.member).toList ++
    (config.enableSingleTokenSqttWrite.map fun enable => ("global", .object [("enableSingleTokenSqttWrite", .bool enable)])).toList)

-- An object that is written to, and what it is then.
def Writes (writer : Writer) (before after : JsonValue) : Prop := writer ⟨true, some before⟩ = (true, ⟨true, some after⟩)

theorem inside_writes (key : String) (writer : Writer) (members : List (String × JsonValue)) (after : JsonValue)
    (writes : Writes writer ((get members key).getD (.object [])) after) :
    Writes (inside key writer) (.object members) (.object (assign members key after)) := by
  unfold Writes at writes ⊢
  cases present : get members key with
  | some child =>
      rw [present, Option.getD_some] at writes
      simp [inside, JsonMapper.index, JsonMapper.index.write, present, writes]
  | none =>
      rw [present, Option.getD_none] at writes
      simp [inside, JsonMapper.index, JsonMapper.index.write, present, get_assign, writes, assign_assign]

theorem put_cons {V : Type} (key : String) (path : List String) (map : Mapping V) (value : V) :
    put (key :: path) map value = inside key (put path map value) := by
  funext m
  obtain ⟨isSerializing, json⟩ := m
  cases json with
  | none => rfl
  | some json =>
      cases isSerializing with
      | false => rfl
      | true => cases json <;> rfl

theorem put_nil {V : Type} (map : Mapping V) (value : V) (before after : JsonValue)
    (written : map value ⟨true, some before⟩ = ((true, value), ⟨true, some after⟩)) : Writes (put [] map value) before after := by
  simp only [Writes, put, indexPath, written]

theorem scalar_nil {V : Type} [Scalar V] (value : V) (before : JsonValue) : Writes (scalar [] value) before (Scalar.setValue value) :=
  put_nil (mapScalar none) value before _ rfl

-- A value at the end of a path into an object.
theorem scalar_writes {V : Type} [Scalar V] (key : String) (value : V) (members : List (String × JsonValue)) :
    Writes (scalar [key] value) (.object members) (.object (assign members key (Scalar.setValue value))) := by
  unfold scalar
  rw [put_cons]
  exact inside_writes key _ members _ (scalar_nil value _)

theorem both_writes (first second : Writer) (before middle after : JsonValue) (one : Writes first before middle)
    (two : Writes second middle after) : Writes (both first second) before after := by
  unfold Writes at one two ⊢
  simp only [both, one, if_true, two]

theorem skip_writes (before : JsonValue) : Writes (fun m => (true, m)) before before := rfl

theorem scalar_cons {V : Type} [Scalar V] (key next : String) (path : List String) (value : V) :
    scalar (key :: next :: path) value = inside key (scalar (next :: path) value) := put_cons key (next :: path) (mapScalar none) value

theorem vector_cons {V : Type} (key : String) (path : List String) (mapItem : Mapping V) (blank : V) (items : List V) :
    vector (key :: path) mapItem blank items = inside key (vector path mapItem blank items) :=
  put_cons key path (mapArr id [] pushBack blank mapItem none) items

theorem items_written {V : Type} (writer : V → Writer) (document : V → JsonValue) (items : List V)
    (each : ∀ item, Writes (writer item) (.object []) (document item)) :
    writeItems (element writer) items = some (items.map document) := by
  induction items with
  | nil => rfl
  | cons item rest ih =>
      have written := each item
      unfold Writes at written
      simp only [writeItems, element, written, ih, Option.map_some, List.map_cons]

theorem vector_writes {V : Type} (writer : V → Writer) (document : V → JsonValue) (blank : V) (items : List V)
    (each : ∀ item, Writes (writer item) (.object []) (document item)) (before : JsonValue) :
    Writes (vector [] (element writer) blank items) before (.array (items.map document)) := by
  apply put_nil
  simp only [mapArr, id_eq, items_written writer document items each, if_true]

theorem counter_writes (counter : DDGpuProfilingSpmCounterId) : Writes (mapCounter counter) (.object []) (counterDocument counter) :=
  put_nil _ _ _ _ rfl

theorem gpu_perf_writes (name : String) (config : GpuPerf) :
    Writes config.map (.object [("name", .string name)]) (UberTraceSource.document ⟨name, .gpuPerf config⟩) := by
  simp only [GpuPerf.map, scalar_cons]
  have sqtt {V : Type} [Scalar V] (key : String) (value : V) (members : List (String × JsonValue)) (other : JsonValue) :
      Writes (inside "config" (inside "sqtt" (scalar [key] value)))
        (.object [("name", .string name), ("config", .object [("sqtt", .object members), ("spm", other)])])
        (.object [("name", .string name), ("config", .object [("sqtt", .object (assign members key (Scalar.setValue value))), ("spm", other)])]) :=
    inside_writes "config" _ _ _ (inside_writes "sqtt" _ _ _ (scalar_writes key value members))
  refine both_writes _ _ _ _ _ (both_writes _ _ _ _ _ (both_writes _ _ _ _ _ (both_writes _ _ _ _ _ (both_writes _ _ _ _ _
    (inside_writes "config" _ _ _ (inside_writes "sqtt" _ _ _ (scalar_writes "enabled" config.enableSqtt [])))
    (inside_writes "config" _ _ _ (inside_writes "spm" _ _ _ (scalar_writes "enabled" false []))))
    (sqtt "memoryLimitInMb" config.sqttMemoryLimit _ _)) (sqtt "enableInstructionTokens" config.enableInstTokens _ _))
    (sqtt "enableExecPopTokens" config.enableExecPopTokens _ _)) (sqtt "seMask" config.seMask _ _)

theorem source_writes (source : UberTraceSource) : Writes (mapSource source) (.object []) source.document := by
  obtain ⟨name, config⟩ := source
  refine both_writes _ _ _ _ _ (scalar_writes "name" name []) ?_
  cases config with
  | null => exact skip_writes _
  | base => exact skip_writes _
  | enableDisable enabled =>
      simp only [SourceConfig.map, EnableDisableUberTraceSourceConfig.map, scalar_cons]
      exact inside_writes "config" _ _ _ (scalar_writes "enabled" enabled [])
  | rayHistory enabled size =>
      simp only [SourceConfig.map, EnableDisableUberTraceSourceConfig.map, scalar_cons]
      exact both_writes _ _ _ _ _ (inside_writes "config" _ _ _ (scalar_writes "enabled" enabled []))
        (inside_writes "config" _ _ _ (scalar_writes _ size _))
  | gpuPerf config =>
      simp only [SourceConfig.map]
      exact gpu_perf_writes name config
  | gpuPerfSpm config spm =>
      simp only [SourceConfig.map, scalar_cons, vector_cons]
      have inner (key : String) (writer : Writer) (members : List (String × JsonValue)) (value : JsonValue)
          (writes : Writes writer ((get members key).getD (.object [])) value) :
          Writes (inside "config" (inside "spm" (inside key writer)))
            (.object [("name", .string name), ("config", .object [("sqtt", config.document), ("spm", .object members)])])
            (.object [("name", .string name), ("config", .object [("sqtt", config.document), ("spm", .object (assign members key value))])]) :=
        inside_writes "config" _ _ _ (inside_writes "spm" _ _ _ (inside_writes key _ _ _ writes))
      exact both_writes _ _ _ _ _ (both_writes _ _ _ _ _ (both_writes _ _ _ _ _ (both_writes _ _ _ _ _
        (gpu_perf_writes name config) (inner "enabled" _ [("enabled", .bool false)] _ (scalar_nil true _)))
        (inner "perfCounters" _ _ _ (vector_writes mapCounter counterDocument _ spm.counters counter_writes _)))
        (inner "sampleFrequency" _ _ _ (scalar_nil spm.sampleFrequency _)))
        (inner "memoryLimitInMb" _ _ _ (scalar_nil spm.spmMemoryLimit _))

theorem controller_config_writes (config : ControllerConfig) (document : JsonValue) (has : config.document = some document) :
    Writes config.map (.object []) document := by
  cases config with
  | null => cases has
  | base enabled =>
      cases has
      exact scalar_writes "enabled" enabled []
  | frame config =>
      cases has
      exact both_writes _ _ _ _ _ (both_writes _ _ _ _ _ (both_writes _ _ _ _ _ (both_writes _ _ _ _ _
        (scalar_writes "enabled" config.enabled []) (scalar_writes "numPrepFrames" config.numPrepFrames _))
        (scalar_writes "captureFrameCount" config.numCaptureFrames _)) (scalar_writes "captureMode" config.captureMode _))
        (scalar_writes "preparationStartIndex" config.prepStartIndex _)
  | renderOp config =>
      cases has
      exact both_writes _ _ _ _ _ (both_writes _ _ _ _ _ (both_writes _ _ _ _ _ (both_writes _ _ _ _ _ (both_writes _ _ _ _ _
        (scalar_writes "enabled" config.enabled []) (scalar_writes "renderOpMode" config.renderOp _))
        (scalar_writes "numPrepRenderOps" config.numPrepOps _)) (scalar_writes "captureRenderOpCount" config.numCaptureOps _))
        (scalar_writes "captureMode" config.captureMode _)) (scalar_writes "preparationStartRenderOp" config.prepStartIndex _)
  | marker enabled startMarkerString endMarkerString =>
      cases has
      exact both_writes _ _ _ _ _ (both_writes _ _ _ _ _ (scalar_writes "enabled" enabled [])
        (scalar_writes "startMarkerString" startMarkerString _)) (scalar_writes "endMarkerString" endMarkerString _)

theorem controller_writes (controller : UbertraceController) :
    Writes (mapController controller) (.object []) controller.document := by
  obtain ⟨name, config⟩ := controller
  refine both_writes _ _ _ _ _ (scalar_writes "name" name []) ?_
  cases config with
  | null => exact skip_writes _
  | base enabled => exact inside_writes "config" _ _ _ (controller_config_writes (.base enabled) _ rfl)
  | frame config => exact inside_writes "config" _ _ _ (controller_config_writes (.frame config) _ rfl)
  | renderOp config => exact inside_writes "config" _ _ _ (controller_config_writes (.renderOp config) _ rfl)
  | marker enabled first last => exact inside_writes "config" _ _ _ (controller_config_writes (.marker enabled first last) _ rfl)

theorem collection_writes (collection : UbertraceControllerCollection) (sources : JsonValue) :
    Writes collection.map (.object [("sources", sources)]) (.object [("sources", sources), collection.member]) := by
  obtain ⟨useNewFormat, controller⟩ := collection
  cases useNewFormat with
  | true => exact inside_writes "controller" _ _ _ (controller_writes controller)
  | false =>
      simp only [UbertraceControllerCollection.map, vector_cons]
      exact inside_writes "controllers" _ _ _ (vector_writes mapController UbertraceController.document _ [controller] controller_writes _)

theorem config_writes (config : UberTraceConfig) : Writes config.map (.object []) config.document := by
  obtain ⟨controllers, sources, global⟩ := config
  have listed : Writes (vector ["sources"] (element mapSource) ⟨"", .null⟩ sources) (.object [])
      (.object [("sources", .array (sources.map UberTraceSource.document))]) := by
    rw [vector_cons]
    exact inside_writes "sources" _ [] _ (vector_writes mapSource UberTraceSource.document _ sources source_writes _)
  refine both_writes _ _ _ (.object (("sources", .array (sources.map UberTraceSource.document)) ::
    (controllers.map UbertraceControllerCollection.member).toList)) _ (both_writes _ _ _ _ _ listed ?_) ?_
  · cases controllers with
    | none => exact skip_writes _
    | some collection => exact collection_writes collection _
  · cases global with
    | none =>
        simp only [UberTraceConfig.document, Option.map_none, Option.toList_none, List.append_nil]
        exact skip_writes _
    | some enable =>
        have written := inside_writes "global" (scalar ["enableSingleTokenSqttWrite"] enable)
          (("sources", .array (sources.map UberTraceSource.document)) :: (controllers.map UbertraceControllerCollection.member).toList)
          (.object [("enableSingleTokenSqttWrite", .bool enable)])
        cases controllers with
        | none => exact written (scalar_writes _ enable [])
        | some collection =>
            obtain ⟨useNewFormat, controller⟩ := collection
            cases useNewFormat
            · exact written (scalar_writes _ enable [])
            · exact written (scalar_writes _ enable [])

theorem uint32_plain (value : UInt32) : Plain (.number value.toNat) := by
  have small := value.toNat_lt
  exact .number _ (by omega) (by omega)

theorem uint64_plain (value : UInt64) : Plain (.number value.toNat) := by
  have small := value.toNat_lt
  exact .number _ (by omega) (by omega)

theorem object_plain (members : List (String × JsonValue)) (each : members.Forall fun member => Plain member.2) :
    Plain (.object members) :=
  .object members (List.forall_iff_forall_mem.mp each)

theorem array_plain {V : Type} (document : V → JsonValue) (items : List V) (each : ∀ item, Plain (document item)) :
    Plain (.array (items.map document)) := by
  refine .array _ fun json listed => ?_
  obtain ⟨item, _, same⟩ := List.mem_map.mp listed
  rw [← same]
  exact each item

theorem counter_plain (counter : DDGpuProfilingSpmCounterId) : Plain (counterDocument counter) := by
  refine .array _ fun json listed => ?_
  simp only [List.mem_cons, List.not_mem_nil, or_false] at listed
  rcases listed with same | same | same
  all_goals
    rw [same]
    exact uint32_plain _

theorem gpu_perf_plain (config : GpuPerf) : Plain config.document :=
  object_plain _ ⟨.bool _, uint64_plain _, .bool _, .bool _, uint32_plain _⟩

theorem source_config_plain (config : SourceConfig) (document : JsonValue) (has : config.document = some document) :
    Plain document := by
  cases config with
  | null => cases has
  | base => cases has
  | enableDisable enabled =>
      cases has
      exact object_plain _ (.bool _)
  | rayHistory enabled size =>
      cases has
      exact object_plain _ ⟨.bool _, uint64_plain _⟩
  | gpuPerf config =>
      cases has
      exact object_plain _ ⟨gpu_perf_plain config, object_plain _ (.bool _)⟩
  | gpuPerfSpm config spm =>
      cases has
      exact object_plain _ ⟨gpu_perf_plain config,
        object_plain _ ⟨.bool _, array_plain counterDocument spm.counters counter_plain, uint32_plain _, uint32_plain _⟩⟩

theorem controller_config_plain (config : ControllerConfig) (document : JsonValue) (has : config.document = some document) :
    Plain document := by
  cases config with
  | null => cases has
  | base enabled =>
      cases has
      exact object_plain _ (.bool _)
  | frame config =>
      cases has
      exact object_plain _ ⟨.bool _, uint32_plain _, uint32_plain _, .string _, uint32_plain _⟩
  | renderOp config =>
      cases has
      exact object_plain _ ⟨.bool _, .string _, uint32_plain _, uint32_plain _, .string _, uint32_plain _⟩
  | marker enabled first last =>
      cases has
      exact object_plain _ ⟨.bool _, .string _, .string _⟩

theorem with_config_plain (name : String) (config : Option JsonValue) (plain : ∀ document, config = some document → Plain document) :
    Plain (withConfig name config) := by
  cases config with
  | none => exact object_plain _ (.string name)
  | some document => exact object_plain _ ⟨.string name, plain document rfl⟩

theorem config_plain (config : UberTraceConfig) : Plain config.document := by
  refine .object _ fun member listed => ?_
  rcases List.mem_append.mp listed with front | last
  · rcases List.mem_cons.mp front with same | controller
    · rw [same]
      exact array_plain _ config.sources fun source => with_config_plain _ _ (source_config_plain source.config)
    · obtain ⟨collection, _, same⟩ := Option.map_eq_some_iff.mp (Option.mem_toList.mp controller)
      rw [← same]
      have controller := with_config_plain collection.controller.name _ (controller_config_plain collection.controller.config)
      unfold UbertraceControllerCollection.member
      by_cases format : collection.useNewFormat = true
      · rw [if_pos format]
        exact controller
      · rw [if_neg format]
        exact array_plain UbertraceController.document [collection.controller]
          fun one => with_config_plain one.name _ (controller_config_plain one.config)
  · obtain ⟨enable, _, same⟩ := Option.map_eq_some_iff.mp (Option.mem_toList.mp last)
    rw [← same]
    exact object_plain _ (.bool enable)

-- A source with a configuration that maps nothing is written like one without.
def SourceConfig.normal : SourceConfig → SourceConfig
  | .null => .null
  | .base => .null
  | .enableDisable enabled => .enableDisable enabled
  | .rayHistory enabled size => .rayHistory enabled size
  | .gpuPerf config => .gpuPerf config
  | .gpuPerfSpm config spm => .gpuPerfSpm config spm

def UberTraceSource.normal (source : UberTraceSource) : UberTraceSource := { source with config := source.config.normal }

def UberTraceConfig.normal (config : UberTraceConfig) : UberTraceConfig :=
  { config with sources := config.sources.map UberTraceSource.normal }

theorem counters_document (first second : List DDGpuProfilingSpmCounterId) :
    first.map counterDocument = second.map counterDocument ↔ first = second := by
  refine List.map_inj_right fun one other same => ?_
  obtain ⟨block, number, event⟩ := one
  obtain ⟨block', number', event'⟩ := other
  simpa [counterDocument, Int.natCast_inj, UInt32.toNat_inj] using same

theorem gpu_perf_document (first second : GpuPerf) : first.document = second.document ↔ first = second := by
  obtain ⟨sqtt, limit, tokens, pops, mask⟩ := first
  obtain ⟨sqtt', limit', tokens', pops', mask'⟩ := second
  simp [GpuPerf.document, Int.natCast_inj, UInt32.toNat_inj, UInt64.toNat_inj]

theorem spm_document (first second : Spm) : first.document = second.document ↔ first = second := by
  obtain ⟨counters, frequency, limit⟩ := first
  obtain ⟨counters', frequency', limit'⟩ := second
  simp [Spm.document, counters_document, Int.natCast_inj, UInt32.toNat_inj]

-- Configurations of different kinds differ in a key, or in what the key `enabled` of SPM has.
theorem source_config_document (first second : SourceConfig) :
    first.document = second.document ↔ first.normal = second.normal := by
  cases first with
  | null => cases second <;> simp [SourceConfig.document, SourceConfig.normal]
  | base => cases second <;> simp [SourceConfig.document, SourceConfig.normal]
  | enableDisable enabled => cases second <;> simp [SourceConfig.document, SourceConfig.normal]
  | rayHistory enabled size => cases second <;> simp [SourceConfig.document, SourceConfig.normal, Int.natCast_inj, UInt64.toNat_inj]
  | gpuPerf config =>
      cases second with
      | gpuPerf other => simp [SourceConfig.document, SourceConfig.normal, gpu_perf_document]
      | gpuPerfSpm other spm => simp [SourceConfig.document, SourceConfig.normal, Spm.document]
      | _ => simp [SourceConfig.document, SourceConfig.normal]
  | gpuPerfSpm config spm =>
      cases second with
      | gpuPerf other => simp [SourceConfig.document, SourceConfig.normal, Spm.document]
      | gpuPerfSpm other spm' => simp [SourceConfig.document, SourceConfig.normal, gpu_perf_document, spm_document]
      | _ => simp [SourceConfig.document, SourceConfig.normal]

theorem controller_config_document (first second : ControllerConfig) : first.document = second.document ↔ first = second := by
  cases first with
  | null => cases second <;> simp [ControllerConfig.document]
  | base enabled => cases second <;> simp [ControllerConfig.document]
  | frame config =>
      obtain ⟨enabled, prep, count, mode, start⟩ := config
      cases second with
      | frame other =>
          obtain ⟨enabled', prep', count', mode', start'⟩ := other
          simp [ControllerConfig.document, Int.natCast_inj, UInt32.toNat_inj]
      | _ => simp [ControllerConfig.document]
  | renderOp config =>
      obtain ⟨enabled, operation, prep, count, mode, start⟩ := config
      cases second with
      | renderOp other =>
          obtain ⟨enabled', operation', prep', count', mode', start'⟩ := other
          simp [ControllerConfig.document, Int.natCast_inj, UInt32.toNat_inj]
      | _ => simp [ControllerConfig.document]
  | marker enabled first last => cases second <;> simp [ControllerConfig.document]

theorem with_config_inj (name other : String) (first second : Option JsonValue) :
    withConfig name first = withConfig other second ↔ name = other ∧ first = second := by
  cases first <;> cases second <;> simp [withConfig]

theorem source_document (first second : UberTraceSource) : first.document = second.document ↔ first.normal = second.normal := by
  simp only [UberTraceSource.document, with_config_inj, source_config_document, UberTraceSource.normal, UberTraceSource.mk.injEq]

theorem controller_document (first second : UbertraceController) : first.document = second.document ↔ first = second := by
  obtain ⟨name, config⟩ := first
  obtain ⟨name', config'⟩ := second
  simp only [UbertraceController.document, with_config_inj, controller_config_document, UbertraceController.mk.injEq]

theorem collection_member (first second : UbertraceControllerCollection) : first.member = second.member ↔ first = second := by
  obtain ⟨format, controller⟩ := first
  obtain ⟨format', controller'⟩ := second
  cases format <;> cases format' <;> simp [UbertraceControllerCollection.member, controller_document]

theorem sources_document (first second : List UberTraceSource) :
    first.map UberTraceSource.document = second.map UberTraceSource.document ↔
      first.map UberTraceSource.normal = second.map UberTraceSource.normal := by
  induction first generalizing second with
  | nil => cases second <;> simp
  | cons source rest ih =>
      cases second with
      | nil => simp
      | cons other more => simp only [List.map_cons, List.cons.injEq, source_document, ih]

theorem member_keys (collection : UbertraceControllerCollection) : collection.member.1 ≠ "global" := by
  obtain ⟨format, controller⟩ := collection
  cases format <;> simp [UbertraceControllerCollection.member]

theorem config_document (first second : UberTraceConfig) : first.document = second.document ↔ first.normal = second.normal := by
  obtain ⟨controllers, sources, global⟩ := first
  obtain ⟨controllers', sources', global'⟩ := second
  have apart (collection : UbertraceControllerCollection) (value : JsonValue) : collection.member ≠ ("global", value) :=
    fun same => member_keys collection (congrArg Prod.fst same)
  cases controllers <;> cases controllers' <;> cases global <;> cases global' <;>
    simp [UberTraceConfig.document, UberTraceConfig.normal, sources_document, collection_member, apart, Ne.symm (apart _ _),
      and_assoc, and_left_comm, and_comm]

theorem serialize_document (library : Library) (config : UberTraceConfig) :
    serialize library config = .ok (library.write config.document) := by
  have written := config_writes config
  unfold Writes at written
  simp only [serialize, JsonMapper.serialize, written]

-- Every configuration is written, a reader of the text finds what each part of it says under its
-- keys, and two configurations have one text exactly if they differ at most in sources without keys.
theorem config_text_faithful (library : Library) (first second : UberTraceConfig) :
    serialize library first = .ok (library.write first.document) ∧
      library.parse (library.write first.document) = some first.document ∧
      (serialize library first = serialize library second ↔ first.normal = second.normal) := by
  refine ⟨serialize_document library first, library.parse_write _ (config_plain first), ?_⟩
  rw [serialize_document, serialize_document, ← config_document]
  constructor
  · intro same
    have parsed := library.parse_write _ (config_plain first)
    rw [Except.ok.inj same, library.parse_write _ (config_plain second)] at parsed
    exact (Option.some.inj parsed).symm
  · intro same
    rw [same]

end RadeonPanel.Ubertrace.ConfigText

import RadeonPanel.DeviceClocks.ForcePeak

set_option autoImplicit false

namespace RadeonPanel.DeviceClocks

-- Frequencies are in hertz.
structure ClockMode where
  type : ClockModeType
  minGpuFreq : UInt64
  maxGpuFreq : UInt64
  minMemFreq : UInt64
  maxMemFreq : UInt64
deriving DecidableEq, Repr

-- A mode as the driver describes it.
structure ClockModeInfo where
  name : String
  gpuClock : UInt64
  memoryClock : UInt64
deriving DecidableEq, Repr

structure ClockRange where
  min : UInt64
  max : UInt64
deriving DecidableEq, Repr

-- System info of a GPU with its clocks, and the driver's answer to QueryClockModes.
structure SystemGpu where
  name : String
  gpuId : GpuId
  engineClockHz : ClockRange
  memClockHz : ClockRange
  clockModes : Option (List ClockModeInfo)
deriving DecidableEq, Repr

structure DeviceClockGpu where
  gpuName : String
  gpuId : GpuId
  clockModes : List ClockMode
deriving DecidableEq, Repr

def SystemGpu.toInfo (system : SystemGpu) : GpuInfo :=
  ⟨system.name, system.gpuId, system.clockModes.map fun modes => modes.map ClockModeInfo.name⟩

def convertMode (system : SystemGpu) (info : ClockModeInfo) : Option ClockMode :=
  match getClockModeType info.name with
  | .normal => some ⟨.normal, system.engineClockHz.min, system.engineClockHz.max,
      system.memClockHz.min, system.memClockHz.max⟩
  | .stable => some ⟨.stable, info.gpuClock, info.gpuClock, info.memoryClock, info.memoryClock⟩
  | .peak => some ⟨.peak, info.gpuClock, info.gpuClock, info.memoryClock, info.memoryClock⟩
  | .unknown => none

namespace DeviceClockGpu

def create (gpuName : String) (system : SystemGpu) : DeviceClockGpu :=
  ⟨gpuName, system.gpuId, (system.clockModes.getD []).filterMap (convertMode system)⟩

-- The number that a GPU has outside the manager, from its name.
def getId (hash : String → UInt32) (gpu : DeviceClockGpu) : UInt32 := hash gpu.gpuName

def toGpu (gpu : DeviceClockGpu) : Gpu :=
  ⟨gpu.gpuName, gpu.gpuId, gpu.clockModes.map ClockMode.type, none⟩

end DeviceClockGpu

def createDeviceClockGpus (systems : List SystemGpu) : List DeviceClockGpu :=
  systems.zipIdx.map fun entry =>
    .create (gpuNameIdx (systems.map SystemGpu.toInfo) entry.2 entry.1.toInfo) entry.1

theorem convert_mode_type (system : SystemGpu) (info : ClockModeInfo) :
    (convertMode system info).map ClockMode.type =
      if getClockModeType info.name = .unknown then none else some (getClockModeType info.name) := by
  unfold convertMode
  cases getClockModeType info.name <;> rfl

theorem converted_types (system : SystemGpu) (infos : List ClockModeInfo) :
    (infos.filterMap (convertMode system)).map ClockMode.type = convert (infos.map ClockModeInfo.name) := by
  induction infos with
  | nil => rfl
  | cons info rest ih =>
      have type := convert_mode_type system info
      rw [convert] at ih ⊢
      cases converted : convertMode system info with
      | none => simp_all
      | some mode =>
          by_cases unknown : getClockModeType info.name = .unknown
          · simp [converted, unknown] at type
          · have same : mode.type = getClockModeType info.name := by simpa [converted, unknown] using type
            simp [converted, unknown, same, ih]

theorem create_type (gpuName : String) (system : SystemGpu) :
    (DeviceClockGpu.create gpuName system).toGpu = Gpu.create gpuName system.toInfo := by
  cases modes : system.clockModes with
  | none => simp [DeviceClockGpu.create, DeviceClockGpu.toGpu, Gpu.create, SystemGpu.toInfo, modes]
  | some infos =>
      simp [DeviceClockGpu.create, DeviceClockGpu.toGpu, Gpu.create, SystemGpu.toInfo, modes, converted_types]

-- The GPUs of an event are the manager's own, in the same order.
theorem created_gpus (systems : List SystemGpu) :
    (createDeviceClockGpus systems).map DeviceClockGpu.toGpu = createGpus (systems.map SystemGpu.toInfo) := by
  rw [createDeviceClockGpus, createGpus, List.map_map, List.zipIdx_map, List.map_map]
  exact List.map_congr_left fun entry _ => create_type _ entry.1

end RadeonPanel.DeviceClocks

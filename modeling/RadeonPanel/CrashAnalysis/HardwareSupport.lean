import RadeonPanel.TraceSource.AsicInfo
import RadeonPanel.TraceSource.Configs
import RadeonPanel.TraceSource.Types

set_option autoImplicit false

namespace RadeonPanel.CrashAnalysis

open CaptureApi (DriverInfo GpuInfo SystemInfo Text)
open TraceSource Ubertrace

def kUnsupported6750XtRevision : UInt32 := 0x000000C0
def kUnsupported6750XtDevice : UInt32 := 0x000073DF

def kVanGoghHandheldDeviceId : UInt32 := 0x163F
def kVanGoghHandheldRevisionId : UInt32 := 0xAF

def kUnsupportedHandheldDevices : List (UInt32 × UInt32) := [(kVanGoghHandheldDeviceId, kVanGoghHandheldRevisionId)]

def kRgdSupportedApis : List Api := [.directX12, .vulkan]
def kRgdSupportedArchitectures : List GpuArchitecture := [.rdna2, .rdna3, .rdna4]
def kHardwareApuSeries : List GpuSeries := [.rembrandt, .phoenix, .strix, .krackan]
def kHcaAlwaysDisabled : List GpuSeries := [.rembrandt, .phoenix]
def kHcaEnabled2520OrNewer : List UInt32 := [kStrixHaloId, kKrackan1Id, kKrackan2Id]

-- "Windows"
def windowsName : Text := [87, 105, 110, 100, 111, 119, 115]

-- Which of the environment variables that are looked at are set.
structure EnvironmentVariables where
  disableHardwareCompatibilityCheck : Bool
  enableUbertraceCancel : Bool

structure RgdTraceSourceSupportEventArgs where
  isHardwareCrashAnalysisSupported : Bool
  isHardwareApu : Bool
  isGprCaptureSupported : Bool
deriving DecidableEq, Repr

def RgdTraceSourceSupportEventArgs.default : RgdTraceSourceSupportEventArgs := ⟨false, false, false⟩

-- The trace source with what it sets at its base and its client factory.
structure RgdTraceSourceImpl where
  currentHardwareIsApu : Bool
  hardwareCrashAnalysisSupported : Bool
  config : RgdTraceSourceConfig
  disabledReason : DisabledReason
  apiFilter : List Api
  ubertraceEnabled : Bool
  ubertraceFeatures : Option UbertraceFeatures
deriving DecidableEq

namespace RgdTraceSourceImpl

def isCurrentHardwareApu (s : RgdTraceSourceImpl) : Bool := s.currentHardwareIsApu

def isHardwareCrashAnalysisSupported (s : RgdTraceSourceImpl) : Bool := s.hardwareCrashAnalysisSupported

end RgdTraceSourceImpl

section Support
variable (env : EnvironmentVariables) (driver : DriverInfo)

def isGpuUnsupported (gpu : GpuInfo) : Bool :=
  !kRgdSupportedArchitectures.contains (AsicInfo.getGpuArchitecture (AsicInfo.seriesOf gpu)) ||
    (gpu.asic.revision == kUnsupported6750XtRevision && gpu.asic.device == kUnsupported6750XtDevice) ||
    kUnsupportedHandheldDevices.contains (gpu.asic.device, gpu.asic.revision)

def getReasonRgdShouldBeDisabled (systemInfo : SystemInfo) : DisabledReason :=
  if !containsText windowsName systemInfo.os.name then .osUnsupported
  else if isDriverTooOld systemInfo.driver 23 10 then .driverUnsupported
  else if systemInfo.gpus.any fun gpu => !(isGpuUnsupported gpu && !env.disableHardwareCompatibilityCheck) then .enabled
  else .hardwareUnsupported

def isHardwareApu (gpu : GpuInfo) : Bool := kHardwareApuSeries.contains (AsicInfo.seriesOf gpu)

-- That none of the checks of the loop passes the GPU over.
def canAnalyze (gpu : GpuInfo) : Bool :=
  !kHcaAlwaysDisabled.contains (AsicInfo.seriesOf gpu) && !(gpu.asic.device == kStrix1Id && isDriverTooOld driver 25 10) &&
    !(kHcaEnabled2520OrNewer.contains gpu.asic.device && isDriverTooOld driver 25 20)

@[ext]
structure Detected where
  hasGpuSupportingHardwareCrashAnalysis : Bool
  hasOnlyApu : Bool
deriving DecidableEq, Repr

def detectFrom : Detected → List GpuInfo → Detected
  | detected, [] => detected
  | detected, gpu :: rest =>
      let seen := if isHardwareApu gpu then detected else { detected with hasOnlyApu := false }
      if canAnalyze driver gpu then { seen with hasGpuSupportingHardwareCrashAnalysis := true }
      else detectFrom seen rest

def detect (gpus : List GpuInfo) : Detected := detectFrom driver ⟨false, true⟩ gpus

def supportedApis : List Api := if isDriverTooOld driver 23 30 then kRgdSupportedApis.erase .vulkan else kRgdSupportedApis

def ubertraceFeatures : UbertraceFeatures where
  useNewNotReadyCode := !isDriverTooOld driver 24 10
  cancelTraceSupported := !isDriverTooOld driver 24 30 || env.enableUbertraceCancel

def supportArgs (detected : Detected) : RgdTraceSourceSupportEventArgs where
  isHardwareCrashAnalysisSupported := !isDriverTooOld driver 24 30 && detected.hasGpuSupportingHardwareCrashAnalysis
  isHardwareApu := detected.hasOnlyApu
  isGprCaptureSupported := !isDriverTooOld driver 25 20

-- With the event that is posted.
def routerConnectionStatusChanged (s : RgdTraceSourceImpl) (isConnected : Bool) (eSystemInfo : Option SystemInfo) :
    RgdTraceSourceImpl × Option RgdTraceSourceSupportEventArgs :=
  if !isConnected then ({ s with disabledReason := .enabled, apiFilter := kRgdSupportedApis }, none)
  else
    match eSystemInfo with
    | none => ({ s with disabledReason := .encounteredError }, some .default)
    | some systemInfo =>
        let reason := getReasonRgdShouldBeDisabled env systemInfo
        if reason ≠ .enabled then ({ s with disabledReason := reason }, some .default)
        else
          let detected := detect systemInfo.driver systemInfo.gpus
          let args := supportArgs systemInfo.driver detected
          ({ s with
              disabledReason := reason
              apiFilter := supportedApis systemInfo.driver
              ubertraceEnabled := !isDriverTooOld systemInfo.driver 24 20
              ubertraceFeatures := some (ubertraceFeatures env systemInfo.driver)
              currentHardwareIsApu := detected.hasOnlyApu
              hardwareCrashAnalysisSupported := detected.hasGpuSupportingHardwareCrashAnalysis
              config := { s.config with hardwareCrashAnalysisSupported := args.isHardwareCrashAnalysisSupported } },
            some args)

end Support

section Detection
variable (driver : DriverInfo)

theorem detect_from_gpu (detected : Detected) (gpus : List GpuInfo) :
    (detectFrom driver detected gpus).hasGpuSupportingHardwareCrashAnalysis =
      (detected.hasGpuSupportingHardwareCrashAnalysis || gpus.any (canAnalyze driver)) := by
  induction gpus generalizing detected with
  | nil => simp [detectFrom]
  | cons gpu rest ih =>
      rw [detectFrom, List.any_cons]
      cases analyzes : canAnalyze driver gpu with
      | true => simp
      | false =>
          simp only [Bool.false_eq_true, if_false, ih, Bool.false_or]
          split <;> rfl

-- The loop looks no further than to the first GPU that can be analyzed.
theorem detect_from_apu (detected : Detected) (gpus : List GpuInfo) :
    (detectFrom driver detected gpus).hasOnlyApu =
      (detected.hasOnlyApu && (gpus.take (gpus.findIdx (canAnalyze driver) + 1)).all isHardwareApu) := by
  induction gpus generalizing detected with
  | nil => simp [detectFrom]
  | cons gpu rest ih =>
      rw [detectFrom, List.findIdx_cons]
      cases analyzes : canAnalyze driver gpu with
      | true => cases apu : isHardwareApu gpu <;> simp [apu]
      | false =>
          simp only [Bool.false_eq_true, if_false, ih, cond_false, List.take_succ_cons, List.all_cons]
          cases apu : isHardwareApu gpu <;> simp

theorem detect_gpu (gpus : List GpuInfo) :
    (detect driver gpus).hasGpuSupportingHardwareCrashAnalysis = gpus.any (canAnalyze driver) := by
  rw [detect, detect_from_gpu, Bool.false_or]

theorem detect_apu (gpus : List GpuInfo) :
    (detect driver gpus).hasOnlyApu = (gpus.take (gpus.findIdx (canAnalyze driver) + 1)).all isHardwareApu := by
  rw [detect, detect_from_apu, Bool.true_and]

theorem detect_apu_all (gpus : List GpuInfo)
    (covered : (∃ gpu ∈ gpus, canAnalyze driver gpu = true ∧ isHardwareApu gpu = true) → ∀ gpu ∈ gpus, isHardwareApu gpu = true) :
    (detect driver gpus).hasOnlyApu = gpus.all isHardwareApu := by
  rw [detect_apu]
  by_cases all : ∀ gpu ∈ gpus, isHardwareApu gpu = true
  · rw [List.all_eq_true.mpr all, List.all_eq_true.mpr fun gpu seen => all gpu (List.mem_of_mem_take seen)]
  · rw [Bool.eq_false_iff.mpr fun every => all (List.all_eq_true.mp every)]
    by_cases found : gpus.findIdx (canAnalyze driver) < gpus.length
    · have analyzes : canAnalyze driver gpus[gpus.findIdx (canAnalyze driver)] = true := List.findIdx_getElem
      have member := List.getElem_mem found
      refine List.all_eq_false.mpr ⟨_, List.mem_take_iff_getElem.mpr ⟨gpus.findIdx (canAnalyze driver), by omega, rfl⟩, fun apu => ?_⟩
      exact all (covered ⟨_, member, analyzes, apu⟩)
    · rw [List.take_of_length_le (by omega)]
      exact Bool.eq_false_iff.mpr fun every => all (List.all_eq_true.mp every)

-- Where one comes first that is an APU and can be analyzed, the others are not looked at.
theorem detect_apu_first {gpu : GpuInfo} {gpus : List GpuInfo} (analyzes : canAnalyze driver gpu = true) (apu : isHardwareApu gpu = true) :
    (detect driver (gpu :: gpus)).hasOnlyApu = true := by
  rw [detect_apu, List.findIdx_cons, analyzes]
  simp [apu]

-- Where an APU that can be analyzed comes with APUs only, the order makes no difference.
theorem detect_same {gpus all : List GpuInfo} (same : gpus.Perm all)
    (covered : (∃ gpu ∈ all, canAnalyze driver gpu = true ∧ isHardwareApu gpu = true) → ∀ gpu ∈ all, isHardwareApu gpu = true) :
    detect driver gpus = detect driver all := by
  have covered_too : (∃ gpu ∈ gpus, canAnalyze driver gpu = true ∧ isHardwareApu gpu = true) → ∀ gpu ∈ gpus, isHardwareApu gpu = true := by
    intro ⟨gpu, member, found⟩ other listed
    exact covered ⟨gpu, same.mem_iff.mp member, found⟩ other (same.mem_iff.mp listed)
  have gpu_alike : (detect driver gpus).hasGpuSupportingHardwareCrashAnalysis = (detect driver all).hasGpuSupportingHardwareCrashAnalysis := by
    rw [detect_gpu, detect_gpu, same.any_eq]
  have apu_alike : (detect driver gpus).hasOnlyApu = (detect driver all).hasOnlyApu := by
    rw [detect_apu_all driver gpus covered_too, detect_apu_all driver all covered, same.all_eq]
  exact Detected.ext gpu_alike apu_alike

end Detection

section Claim
variable (env : EnvironmentVariables) (s : RgdTraceSourceImpl) (systemInfo : SystemInfo)

def connected (gpus : List GpuInfo) : RgdTraceSourceImpl × Option RgdTraceSourceSupportEventArgs :=
  routerConnectionStatusChanged env s true (some { systemInfo with gpus := gpus })

-- The flag of the event says more where the support is worked out than where it is left at its default.
structure SetOnly : Prop where
  unordered : ∀ gpus, gpus.Perm systemInfo.gpus → connected env s systemInfo gpus = connected env s systemInfo systemInfo.gpus
  posted : ∃ args, (connected env s systemInfo systemInfo.gpus).2 = some args ∧
    (getReasonRgdShouldBeDisabled env systemInfo = .enabled →
      (args.isHardwareApu = true ↔ systemInfo.gpus ≠ [] ∧ ∀ gpu ∈ systemInfo.gpus, isHardwareApu gpu = true)) ∧
    (connected env s systemInfo systemInfo.gpus).1.isHardwareCrashAnalysisSupported = args.isHardwareCrashAnalysisSupported ∧
    (connected env s systemInfo systemInfo.gpus).1.config.hardwareCrashAnalysisSupported = args.isHardwareCrashAnalysisSupported

variable {env s systemInfo}

theorem reason_perm {gpus : List GpuInfo} (same : gpus.Perm systemInfo.gpus) :
    getReasonRgdShouldBeDisabled env { systemInfo with gpus := gpus } = getReasonRgdShouldBeDisabled env systemInfo := by
  simp only [getReasonRgdShouldBeDisabled, same.any_eq]

theorem connected_disabled {gpus : List GpuInfo} (same : gpus.Perm systemInfo.gpus)
    (disabled : getReasonRgdShouldBeDisabled env systemInfo ≠ .enabled) :
    connected env s systemInfo gpus = ({ s with disabledReason := getReasonRgdShouldBeDisabled env systemInfo }, some .default) := by
  simp only [connected, routerConnectionStatusChanged, reason_perm same, Bool.not_true, Bool.false_eq_true, if_false, if_pos disabled]

-- What a connection does of an enabled system depends on the list by what is detected.
def supported (env : EnvironmentVariables) (s : RgdTraceSourceImpl) (driver : DriverInfo) (detected : Detected) :
    RgdTraceSourceImpl × Option RgdTraceSourceSupportEventArgs :=
  ({ s with
      disabledReason := .enabled
      apiFilter := supportedApis driver
      ubertraceEnabled := !isDriverTooOld driver 24 20
      ubertraceFeatures := some (ubertraceFeatures env driver)
      currentHardwareIsApu := detected.hasOnlyApu
      hardwareCrashAnalysisSupported := detected.hasGpuSupportingHardwareCrashAnalysis
      config := { s.config with hardwareCrashAnalysisSupported := (supportArgs driver detected).isHardwareCrashAnalysisSupported } },
    some (supportArgs driver detected))

theorem connected_enabled {gpus : List GpuInfo} (same : gpus.Perm systemInfo.gpus)
    (enabled : getReasonRgdShouldBeDisabled env systemInfo = .enabled) :
    connected env s systemInfo gpus = supported env s systemInfo.driver (detect systemInfo.driver gpus) := by
  simp only [connected, routerConnectionStatusChanged, reason_perm same, enabled, Bool.not_true, Bool.false_eq_true, if_false,
    ne_eq, not_true_eq_false]
  rfl

theorem enabled_some (enabled : getReasonRgdShouldBeDisabled env systemInfo = .enabled) : systemInfo.gpus ≠ [] := by
  intro empty
  simp only [getReasonRgdShouldBeDisabled, empty, List.any_nil, Bool.false_eq_true, if_false] at enabled
  split at enabled
  · cases enabled
  · split at enabled <;> cases enabled

theorem enabled_set_only_iff (enabled : getReasonRgdShouldBeDisabled env systemInfo = .enabled) :
    SetOnly env s systemInfo ↔
      ((∃ gpu ∈ systemInfo.gpus, canAnalyze systemInfo.driver gpu = true) → isDriverTooOld systemInfo.driver 24 30 = false) ∧
      ((∃ gpu ∈ systemInfo.gpus, canAnalyze systemInfo.driver gpu = true ∧ isHardwareApu gpu = true) →
        ∀ gpu ∈ systemInfo.gpus, isHardwareApu gpu = true) := by
  have given := connected_enabled (s := s) (List.Perm.refl systemInfo.gpus) enabled
  have some_gpu := enabled_some enabled
  constructor
  · intro ⟨unordered, args, posted, apu, stored, _⟩
    rw [given] at posted stored
    cases posted
    refine ⟨fun analyzes => ?_, fun ⟨gpu, member, analyzes, is_apu⟩ => ?_⟩
    · have detected : systemInfo.gpus.any (canAnalyze systemInfo.driver) = true := List.any_eq_true.mpr analyzes
      simpa [supported, supportArgs, RgdTraceSourceImpl.isHardwareCrashAnalysisSupported, detect_gpu, detected] using stored
    · obtain ⟨before, behind, split⟩ := List.append_of_mem member
      have front : (gpu :: (before ++ behind)).Perm systemInfo.gpus := split ▸ List.perm_middle.symm
      have same := unordered _ front
      rw [given, connected_enabled front enabled] at same
      have only : (detect systemInfo.driver systemInfo.gpus).hasOnlyApu = true :=
        (congrArg (fun state => state.1.currentHardwareIsApu) same).symm.trans (detect_apu_first _ analyzes is_apu)
      exact ((apu enabled).mp only).2
  · intro ⟨driver, covered⟩
    refine ⟨fun gpus same => ?_, supportArgs systemInfo.driver (detect systemInfo.driver systemInfo.gpus), ?_, ?_⟩
    · rw [given, connected_enabled same enabled, detect_same systemInfo.driver same covered]
    · rw [given]
      rfl
    · rw [given]
      refine ⟨fun _ => ?_, ?_, rfl⟩
      · have only := detect_apu_all systemInfo.driver systemInfo.gpus covered
        simp only [supportArgs, only, List.all_eq_true, ne_eq, some_gpu, not_false_eq_true, true_and]
      · have detected := detect_gpu systemInfo.driver systemInfo.gpus
        simp only [supported, supportArgs, RgdTraceSourceImpl.isHardwareCrashAnalysisSupported, detected]
        cases analyzes : systemInfo.gpus.any (canAnalyze systemInfo.driver) with
        | false => simp
        | true => simp [driver (List.any_eq_true.mp analyzes)]

theorem disabled_set_only_iff (disabled : getReasonRgdShouldBeDisabled env systemInfo ≠ .enabled) :
    SetOnly env s systemInfo ↔ s.hardwareCrashAnalysisSupported = false ∧ s.config.hardwareCrashAnalysisSupported = false := by
  have given := connected_disabled (s := s) (List.Perm.refl systemInfo.gpus) disabled
  constructor
  · intro ⟨_, args, posted, _, stored, configured⟩
    rw [given] at posted stored configured
    cases posted
    exact ⟨stored, configured⟩
  · intro ⟨stored, configured⟩
    refine ⟨fun gpus same => (connected_disabled same disabled).trans given.symm, .default, ?_, ?_⟩
    · rw [given]
    · rw [given]
      exact ⟨fun enabled => absurd enabled disabled, stored, configured⟩

end Claim

theorem support_set_only_iff (env : EnvironmentVariables) (s : RgdTraceSourceImpl) (systemInfo : SystemInfo) :
    SetOnly env s systemInfo ↔
      if getReasonRgdShouldBeDisabled env systemInfo = .enabled then
        ((∃ gpu ∈ systemInfo.gpus, canAnalyze systemInfo.driver gpu = true) → isDriverTooOld systemInfo.driver 24 30 = false) ∧
        ((∃ gpu ∈ systemInfo.gpus, canAnalyze systemInfo.driver gpu = true ∧ isHardwareApu gpu = true) →
          ∀ gpu ∈ systemInfo.gpus, isHardwareApu gpu = true)
      else s.hardwareCrashAnalysisSupported = false ∧ s.config.hardwareCrashAnalysisSupported = false := by
  split
  · exact enabled_set_only_iff ‹_›
  · exact disabled_set_only_iff ‹_›

def createdRgdTraceSource : RgdTraceSourceImpl where
  currentHardwareIsApu := false
  hardwareCrashAnalysisSupported := false
  config := .created
  disabledReason := .hardwareUnsupported
  apiFilter := [.directX12, .vulkan]
  ubertraceEnabled := false
  ubertraceFeatures := none

-- A Strix 1 APU beside a Navi 3 card.
def strixAndNavi : List GpuInfo := [reportedGpu 0x150E kFamilyStrix 0, reportedGpu 0x744C kFamilyNavi3 0]

theorem card_behind_apu_missed :
    ¬SetOnly ⟨false, false⟩ createdRgdTraceSource (reportedSystem windowsName (reportedDriver 25 10) strixAndNavi) := by
  intro only
  have same := only.unordered strixAndNavi.reverse (List.reverse_perm strixAndNavi)
  exact absurd (congrArg (fun state => state.1.currentHardwareIsApu) same) (by decide)

-- A driver before 24.30 with a card that could be analyzed.
example : ¬SetOnly ⟨false, false⟩ createdRgdTraceSource
    (reportedSystem windowsName (reportedDriver 24 20) [reportedGpu 0x744C kFamilyNavi3 0]) := by
  intro only
  obtain ⟨args, posted, _, stored, _⟩ := only.posted
  cases posted
  exact absurd stored (by decide)

end RadeonPanel.CrashAnalysis

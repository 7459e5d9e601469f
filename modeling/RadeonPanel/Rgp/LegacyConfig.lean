import Mathlib.Algebra.Group.Nat.Defs
import RadeonPanel.Rgp.LegacyClient
import RadeonPanel.TraceSource.Configs

set_option autoImplicit false

namespace RadeonPanel.Rgp.Legacy

open TraceSource

inductive TriggerMode where
  | present
  | frameIndex
  | dispatchIndex
deriving DecidableEq, Repr

structure DDGpuProfilingConfig where
  gpuMemoryLimitInMb : UInt32
  numPreparationFrames : UInt32
  enableInstructionTokens : Bool
  allowComputePresents : Bool
  captureDriverCodeObjects : Bool
  enableSpm : Bool
  instructionTraceApiPsoHash : UInt64
  shaderEngineInstructionTraceMask : UInt32
  spmMemoryLimit : UInt32
  spmSampleFrequency : UInt32
  captureMode : TriggerMode
  captureStartIndex : UInt32
  captureStopIndex : UInt32
deriving DecidableEq, Repr

structure RgpTraceSourceConfigPrivate where
  config : WholeRgpTraceSourceConfig
  instTracingSupported : Bool
deriving DecidableEq, Repr

def kDefaultSpmSamplingFreq : UInt32 := 4096
def kSpmMemoryLimit : UInt32 := 128
def kNumPreparationFrames : UInt32 := 4

def kProfilingTimeout : UInt32 := 10000
def kTimeoutEstimatedDispatchTimeMs : UInt32 := 500
def kTimeoutTargetFramerate : Nat := 10

-- The timeout that disables the timeout.
def kNoTimeout : UInt32 := 0xFFFFFFFF

-- What is configured once and what each request asks for.
structure CaptureRequest where
  captureMode : RgpCaptureMode
  config : RgpTraceSourceConfigPrivate
  instTracingMask : UInt32
  spmSupported : Bool
  useFrameCapture : Bool
  autoCaptureMode : AutoCaptureMode
deriving DecidableEq, Repr

namespace CaptureRequest
variable (request : CaptureRequest)

def beginIndex : UInt32 :=
  if request.autoCaptureMode = .dispatchIndices then request.config.config.dispatchStartIndex else 0

def withIndices (rgpConfig : DDGpuProfilingConfig) : DDGpuProfilingConfig :=
  if request.captureMode = .frame then
    if request.useFrameCapture then
      { rgpConfig with
        captureMode := .frameIndex
        captureStartIndex := request.config.config.frameCaptureIndex
        captureStopIndex := request.config.config.frameCaptureIndex + 1 }
    else { rgpConfig with captureMode := .present }
  else
    { rgpConfig with
      captureMode := .dispatchIndex
      captureStartIndex := request.beginIndex
      captureStopIndex := request.beginIndex + request.config.config.dispatchCount }

def generateDdGpuProfilingConfig (rgpConfig : DDGpuProfilingConfig) : DDGpuProfilingConfig :=
  request.withIndices { rgpConfig with
    gpuMemoryLimitInMb := request.config.config.sqttMemoryLimit
    numPreparationFrames := kNumPreparationFrames
    enableInstructionTokens := request.config.instTracingSupported && request.config.config.enableInstTracing
    allowComputePresents := false
    captureDriverCodeObjects := false
    enableSpm := request.spmSupported && request.config.config.enableSpmCounters
    instructionTraceApiPsoHash := 0
    shaderEngineInstructionTraceMask := request.instTracingMask
    spmMemoryLimit := kSpmMemoryLimit
    spmSampleFrequency := kDefaultSpmSamplingFreq }

end CaptureRequest

-- The numbers of single precision that are not negative, as significand and exponent.
structure Binary32 where
  significand : Nat
  exponent : Int
deriving DecidableEq, Repr

namespace Binary32

def roundHalfEven (num den : Nat) : Nat :=
  if 2 * (num % den) < den ∨ (2 * (num % den) = den ∧ num / den % 2 = 0) then num / den else num / den + 1

-- The one nearest to a quotient, with a significand of 24 bits.
def nearest (num den : Nat) : Binary32 :=
  if num = 0 then ⟨0, 0⟩
  else
    let guess : Int := num.log2 - den.log2 - 23
    let exponent := if num * 2 ^ (-guess).toNat < 2 ^ 23 * (den * 2 ^ guess.toNat) then guess - 1 else guess
    ⟨roundHalfEven (num * 2 ^ (-exponent).toNat) (den * 2 ^ exponent.toNat), exponent⟩

def divide (x : Binary32) (n : Nat) : Binary32 := nearest (x.significand * 2 ^ x.exponent.toNat) (n * 2 ^ (-x.exponent).toNat)

def ceil (x : Binary32) : Nat := (x.significand * 2 ^ x.exponent.toNat + (2 ^ (-x.exponent).toNat - 1)) / 2 ^ (-x.exponent).toNat

end Binary32

def estimatedMilliseconds (captureStartIndex : UInt32) : UInt32 :=
  let estimatedSeconds := (Binary32.nearest captureStartIndex.toNat 1).divide kTimeoutTargetFramerate
  UInt32.ofNat estimatedSeconds.ceil * 1000

def getTimeout (captureMode : RgpCaptureMode) (rgpConfig : DDGpuProfilingConfig) (useFrameCapture : Bool)
    (autoCaptureMode : AutoCaptureMode) : UInt32 :=
  if captureMode = .dispatch then
    if autoCaptureMode = .dispatchIndices then kNoTimeout
    else
      let dispatchCount := rgpConfig.captureStopIndex - rgpConfig.captureStartIndex
      max (dispatchCount * kTimeoutEstimatedDispatchTimeMs) kProfilingTimeout
  else if useFrameCapture then max (estimatedMilliseconds rgpConfig.captureStartIndex) kProfilingTimeout
  else kProfilingTimeout

example : [99, 100, 101, 16777217].map estimatedMilliseconds = [10000, 10000, 11000, 1677722000] := by decide

section Claim

-- A disabled timeout is longer than any time.
def Lasts (timeout : UInt32) (time : Nat) : Prop := timeout = kNoTimeout ∨ time ≤ timeout.toNat

namespace CaptureRequest
variable (request : CaptureRequest)

-- The first index and the number of frames or dispatches that are captured, when the
-- driver gets indices at all.
def range : Option (Nat × Nat) :=
  if request.captureMode = .frame then
    if request.useFrameCapture then some (request.config.config.frameCaptureIndex.toNat, 1) else none
  else some (request.beginIndex.toNat, request.config.config.dispatchCount.toNat)

def timeout (rgpConfig : DDGpuProfilingConfig) : UInt32 :=
  getTimeout request.captureMode (request.generateDdGpuProfilingConfig rgpConfig) request.useFrameCapture request.autoCaptureMode

structure NeverWraps (rgpConfig : DDGpuProfilingConfig) : Prop where
  minimum : Lasts (request.timeout rgpConfig) kProfilingTimeout.toNat
  product : request.captureMode = .dispatch →
    Lasts (request.timeout rgpConfig) (request.config.config.dispatchCount.toNat * kTimeoutEstimatedDispatchTimeMs.toNat)
  indices : ∀ first count, request.range = some (first, count) →
    (request.generateDdGpuProfilingConfig rgpConfig).captureStartIndex.toNat = first ∧
      (request.generateDdGpuProfilingConfig rgpConfig).captureStopIndex.toNat = first + count

structure Bounded : Prop where
  product : request.captureMode = .dispatch → request.autoCaptureMode ≠ .dispatchIndices →
    request.config.config.dispatchCount.toNat * kTimeoutEstimatedDispatchTimeMs.toNat < 2 ^ 32
  indices : ∀ first count, request.range = some (first, count) → first + count < 2 ^ 32

variable {request}

theorem dispatch_indices (rgpConfig : DDGpuProfilingConfig) (mode : request.captureMode ≠ .frame) :
    (request.generateDdGpuProfilingConfig rgpConfig).captureStartIndex = request.beginIndex ∧
      (request.generateDdGpuProfilingConfig rgpConfig).captureStopIndex = request.beginIndex + request.config.config.dispatchCount := by
  rw [generateDdGpuProfilingConfig, withIndices, if_neg mode]
  exact ⟨rfl, rfl⟩

theorem frame_indices (rgpConfig : DDGpuProfilingConfig) (mode : request.captureMode = .frame) (byIndex : request.useFrameCapture = true) :
    (request.generateDdGpuProfilingConfig rgpConfig).captureStartIndex = request.config.config.frameCaptureIndex ∧
      (request.generateDdGpuProfilingConfig rgpConfig).captureStopIndex = request.config.config.frameCaptureIndex + 1 := by
  rw [generateDdGpuProfilingConfig, withIndices, if_pos mode, if_pos byIndex]
  exact ⟨rfl, rfl⟩

theorem stop_exact_iff (first count : UInt32) : (first + count).toNat = first.toNat + count.toNat ↔ first.toNat + count.toNat < 2 ^ 32 := by
  rw [UInt32.toNat_add]
  have below : (first.toNat + count.toNat) % 2 ^ 32 < 2 ^ 32 := Nat.mod_lt _ (by decide)
  exact ⟨fun same => same ▸ below, Nat.mod_eq_of_lt⟩

theorem indices_iff (rgpConfig : DDGpuProfilingConfig) (first count : Nat) (placed : request.range = some (first, count)) :
    ((request.generateDdGpuProfilingConfig rgpConfig).captureStartIndex.toNat = first ∧
      (request.generateDdGpuProfilingConfig rgpConfig).captureStopIndex.toNat = first + count) ↔ first + count < 2 ^ 32 := by
  by_cases mode : request.captureMode = .frame
  · rw [range, if_pos mode] at placed
    obtain ⟨byIndex, same⟩ := Option.ite_none_right_eq_some.mp placed
    obtain ⟨rfl, rfl⟩ := Prod.mk.inj (Option.some.inj same)
    obtain ⟨start, stop⟩ := frame_indices rgpConfig mode byIndex
    have next := stop_exact_iff request.config.config.frameCaptureIndex 1
    rw [start, stop]
    exact (and_iff_right rfl).trans next
  · rw [range, if_neg mode] at placed
    obtain ⟨rfl, rfl⟩ := Prod.mk.inj (Option.some.inj placed)
    obtain ⟨start, stop⟩ := dispatch_indices rgpConfig mode
    rw [start, stop, ← stop_exact_iff]
    exact and_iff_right rfl

theorem max_to_nat (a b : UInt32) : (max a b).toNat = max a.toNat b.toNat := by
  rw [UInt32.max_def]
  by_cases less : a ≤ b
  · rw [if_pos less, Nat.max_eq_right (UInt32.le_iff_toNat_le.mp less)]
  · rw [if_neg less, Nat.max_eq_left (Nat.le_of_not_le fun below => less (UInt32.le_iff_toNat_le.mpr below))]

theorem timeout_minimum (rgpConfig : DDGpuProfilingConfig) : Lasts (request.timeout rgpConfig) kProfilingTimeout.toNat := by
  have larger : ∀ estimate : UInt32, Lasts (max estimate kProfilingTimeout) kProfilingTimeout.toNat :=
    fun estimate => .inr (by rw [max_to_nat]; exact Nat.le_max_right ..)
  rw [timeout, getTimeout]
  by_cases mode : request.captureMode = .dispatch
  · rw [if_pos mode]
    by_cases disabled : request.autoCaptureMode = .dispatchIndices
    · rw [if_pos disabled]
      exact .inl rfl
    · rw [if_neg disabled]
      exact larger _
  · rw [if_neg mode]
    by_cases byIndex : request.useFrameCapture = true
    · rw [if_pos byIndex]
      exact larger _
    · rw [if_neg byIndex]
      exact .inr (Nat.le_refl _)

theorem timeout_product_iff (rgpConfig : DDGpuProfilingConfig) (mode : request.captureMode = .dispatch) :
    Lasts (request.timeout rgpConfig) (request.config.config.dispatchCount.toNat * kTimeoutEstimatedDispatchTimeMs.toNat) ↔
      (request.autoCaptureMode ≠ .dispatchIndices →
        request.config.config.dispatchCount.toNat * kTimeoutEstimatedDispatchTimeMs.toNat < 2 ^ 32) := by
  rw [timeout, getTimeout, if_pos mode]
  by_cases disabled : request.autoCaptureMode = .dispatchIndices
  · rw [if_pos disabled]
    exact ⟨fun _ apart => absurd disabled apart, fun _ => .inl rfl⟩
  · have apart : request.captureMode ≠ .frame := by rw [mode]; decide
    obtain ⟨start, stop⟩ := dispatch_indices rgpConfig apart
    rw [if_neg disabled, start, stop, UInt32.add_comm, UInt32.add_sub_cancel, Lasts]
    -- The product is even, so it is never the timeout that disables.
    have product := UInt32.toNat_mul request.config.config.dispatchCount kTimeoutEstimatedDispatchTimeMs
    have limited : (max (request.config.config.dispatchCount * kTimeoutEstimatedDispatchTimeMs) kProfilingTimeout).toNat =
        max (request.config.config.dispatchCount.toNat * 500 % 2 ^ 32) 10000 := by
      rw [max_to_nat, product]
      rfl
    have enabled : max (request.config.config.dispatchCount * kTimeoutEstimatedDispatchTimeMs) kProfilingTimeout ≠ kNoTimeout := by
      intro same
      rw [same, show kNoTimeout.toNat = 4294967295 from rfl] at limited
      omega
    rw [limited, show kTimeoutEstimatedDispatchTimeMs.toNat = 500 from rfl]
    simp only [enabled, disabled, false_or, ne_eq, not_false_eq_true, forall_const]
    constructor
    · intro long
      have below := Nat.mod_lt (request.config.config.dispatchCount.toNat * 500) (show 0 < 2 ^ 32 by decide)
      omega
    · intro small
      rw [Nat.mod_eq_of_lt small]
      exact Nat.le_max_left ..

theorem never_wraps_iff (request : CaptureRequest) (rgpConfig : DDGpuProfilingConfig) :
    request.NeverWraps rgpConfig ↔ request.Bounded := by
  constructor
  · intro exact'
    exact ⟨fun mode => (timeout_product_iff rgpConfig mode).mp (exact'.product mode),
      fun first count placed => (indices_iff rgpConfig first count placed).mp (exact'.indices first count placed)⟩
  · intro bounded
    exact ⟨timeout_minimum rgpConfig, fun mode => (timeout_product_iff rgpConfig mode).mpr (bounded.product mode),
      fun first count placed => (indices_iff rgpConfig first count placed).mpr (bounded.indices first count placed)⟩

def manyDispatches : CaptureRequest where
  captureMode := .dispatch
  config := ⟨{ WholeRgpTraceSourceConfig.created with dispatchCount := 8589935 }, true⟩
  instTracingMask := 1
  spmSupported := false
  useFrameCapture := false
  autoCaptureMode := .none

def zeroedConfig : DDGpuProfilingConfig := ⟨0, 0, false, false, false, false, 0, 0, 0, 0, .present, 0, 0⟩

theorem product_wraps : ¬ manyDispatches.NeverWraps zeroedConfig := by
  intro exact'
  have product := exact'.product rfl
  rw [Lasts] at product
  revert product
  decide

end CaptureRequest

end Claim

end RadeonPanel.Rgp.Legacy

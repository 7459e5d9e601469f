import Mathlib.Algebra.Group.Nat.Defs
import RadeonPanel.CaptureApi.EnableFeature
import RadeonPanel.Cli.ProfilingParams
import RadeonPanel.Profiling.UserdataViewModel
import RadeonPanel.Rgp.LegacyConfig

set_option autoImplicit false

namespace RadeonPanel.Rgp.FrameTrigger

open CaptureApi Profiling TraceSource Userdata
open Rgp.Legacy (RgpCaptureMode kNumPreparationFrames)

inductive UberTraceCaptureType where
  | normal
  | autoCapture
  | delayedAutoCapture
deriving DecidableEq, Repr

structure FrameControllerConfig where
  enabled : Bool
  numPrepFrames : UInt32
  numCaptureFrames : UInt32
  captureMode : String
  prepStartIndex : UInt32
deriving DecidableEq, Repr

structure RenderOpControllerConfig where
  enabled : Bool
  renderOp : String
  numPrepOps : UInt32
  numCaptureOps : UInt32
  captureMode : String
  prepStartIndex : UInt32
deriving DecidableEq, Repr

inductive ControllerConfig where
  | frame (config : FrameControllerConfig)
  | renderOp (config : RenderOpControllerConfig)
deriving DecidableEq, Repr

structure UbertraceController where
  name : String
  config : ControllerConfig
deriving DecidableEq, Repr

def getFrameController (useNewControllerFormat enabled : Bool) (numPrepFrames numCaptureFrames : UInt32) (captureMode : String)
    (prepStartIndex : UInt32) : UbertraceController where
  name := if useNewControllerFormat then "frame" else "framecontroller"
  config := .frame ⟨enabled, numPrepFrames, numCaptureFrames, captureMode, prepStartIndex⟩

def generateController (useNewControllerFormat : Bool) (captureMode : RgpCaptureMode) (captureType : UberTraceCaptureType)
    (config : WholeRgpTraceSourceConfig) : UbertraceController :=
  let isStdAutoCapture := captureType = .autoCapture
  let controllerCaptureMode := if isStdAutoCapture then "absolute" else "relative"
  if captureMode = .frame then
    let prepStartIndex := if isStdAutoCapture then config.frameCaptureIndex - kNumPreparationFrames - 1 else 0
    getFrameController useNewControllerFormat true kNumPreparationFrames 1 controllerCaptureMode prepStartIndex
  else
    let renderOpMode := if captureMode = .draw then "draw" else if captureMode = .dispatch then "dispatch" else ""
    let captureRenderOpCount :=
      if captureMode = .draw then config.drawCount else if captureMode = .dispatch then config.dispatchCount else 1
    let prepStartIndex := if isStdAutoCapture then config.dispatchStartIndex else 0
    ⟨"renderop", .renderOp ⟨true, renderOpMode, 0, captureRenderOpCount, controllerCaptureMode, prepStartIndex⟩⟩

structure AutoCaptureConfig where
  delayMs : UInt32
  captureMode : RgpCaptureMode
deriving DecidableEq, Repr

def getAutoCaptureConfig (config : WholeRgpTraceSourceConfig) : Option AutoCaptureConfig :=
  if config.autoCaptureMode = AutoCaptureMode.frameIndex then some ⟨0, .frame⟩
  else if config.autoCaptureMode = AutoCaptureMode.dispatchIndices then some ⟨0, .dispatch⟩
  else if config.autoCaptureMode = AutoCaptureMode.timer then some ⟨config.computeAutoCaptureTimeMs, .dispatch⟩
  else none

-- The controller of the capture that a client begins by itself. After a delay it is
-- a delayed one.
def autoCaptureController (useNewControllerFormat : Bool) (config : WholeRgpTraceSourceConfig) : Option UbertraceController :=
  (getAutoCaptureConfig config).map fun capture =>
    generateController useNewControllerFormat capture.captureMode (if capture.delayMs = 0 then .autoCapture else .delayedAutoCapture) config

-- The frame after the preparation frames, counted without wrap-around.
def CapturesFrame (index : UInt32) (controller : UbertraceController) : Prop :=
  ∃ config, controller.config = .frame config ∧ config.prepStartIndex.toNat + config.numPrepFrames.toNat + 1 = index.toNat

def kFrameIndexMinimum : UInt32 := 5

theorem prep_start_exact_iff (index : UInt32) :
    (index - kNumPreparationFrames - 1).toNat + kNumPreparationFrames.toNat + 1 = index.toNat ↔ kFrameIndexMinimum ≤ index := by
  have below := index.toNat_lt
  have minimum : kFrameIndexMinimum ≤ index ↔ 5 ≤ index.toNat := UInt32.le_iff_toNat_le
  have wrapped : (index - kNumPreparationFrames - 1).toNat = (index.toNat + 4294967291) % 4294967296 := by
    simp only [kNumPreparationFrames, UInt32.toNat_sub, UInt32.reduceToNat]
    omega
  rw [minimum, wrapped, show kNumPreparationFrames.toNat = 4 from rfl]
  omega

theorem frame_controller_iff (useNewControllerFormat : Bool) (config : WholeRgpTraceSourceConfig) :
    CapturesFrame config.frameCaptureIndex (generateController useNewControllerFormat .frame .autoCapture config) ↔
      kFrameIndexMinimum ≤ config.frameCaptureIndex := by
  rw [← prep_start_exact_iff]
  constructor
  · rintro ⟨frame, same, exact'⟩
    rw [generateController, if_pos rfl] at same
    rw [← ControllerConfig.frame.inj same] at exact'
    exact exact'
  · intro exact'
    exact ⟨_, rfl, exact'⟩

theorem frame_index_controller (useNewControllerFormat : Bool) (config : WholeRgpTraceSourceConfig)
    (mode : config.autoCaptureMode = AutoCaptureMode.frameIndex) :
    autoCaptureController useNewControllerFormat config = some (generateController useNewControllerFormat .frame .autoCapture config) := by
  rw [autoCaptureController, getAutoCaptureConfig, if_pos mode]
  rfl

section FrontEnds
variable (useNewControllerFormat : Bool)

-- The command line takes no index below the minimum.
theorem cli_frame_captured (parts : List (List Char)) (index : UInt32) (config : WholeRgpTraceSourceConfig)
    (accepted : Cli.parseFrameIndex parts = some index) (configured : config.frameCaptureIndex = index) :
    CapturesFrame index (generateController useNewControllerFormat .frame .autoCapture config) := by
  obtain ⟨parsed, _, kept⟩ := Option.bind_eq_some_iff.mp accepted
  obtain ⟨large, same⟩ := Option.ite_none_left_eq_some.mp kept
  rw [← configured]
  refine (frame_controller_iff useNewControllerFormat config).mpr ?_
  rw [configured, ← Option.some.inj same]
  exact UInt32.not_lt.mp large

-- The capture API and the userdata hand the index on as it is.
theorem api_frame_index (s : AdaptedContext) (params : ProfilingEnableParams) (answers : EnableAnswers)
    (config : WholeRgpTraceSourceConfig) (configured : (s.configureRgp params answers).1.rgp = some config) :
    config.frameCaptureIndex = params.frameCaptureIndex ∧ config.autoCaptureMode = profilingAutoCaptureMode params := by
  rw [AdaptedContext.configureRgp] at configured
  cases source : s.rgp with
  | none =>
      simp only [source] at configured
      cases configured
  | some before =>
      simp only [source, AdaptedContext.setShaderInstrumentationEnabled] at configured
      split at configured
      · rw [← Option.some.inj configured]
        exact ⟨rfl, rfl⟩
      · rw [← Option.some.inj configured]
        exact ⟨rfl, rfl⟩

-- Who sets the frame index, with what the configuration is before: the capture API's
-- ConfigureRgp, and the panel with the userdata that it has read.
inductive FrontEnd where
  | captureApi (s : AdaptedContext) (params : ProfilingEnableParams) (answers : EnableAnswers)
  | panel (userdata : RgpUserdata) (before : WholeRgpTraceSourceConfig)

-- The requested index and the configuration, where a capture by frame index is asked for.
def FrontEnd.configure : FrontEnd → Option (UInt32 × WholeRgpTraceSourceConfig)
  | .captureApi s params answers =>
      if flagSet params.flags useFrameIndexCapture then (s.configureRgp params answers).1.rgp.map (params.frameCaptureIndex, ·) else none
  | .panel userdata before =>
      if userdata.autoCaptureMode = AutoCaptureMode.frameIndex then some (userdata.frameCaptureIndex, assignConfig userdata before) else none

theorem front_end_configures (frontEnd : FrontEnd) (index : UInt32) (config : WholeRgpTraceSourceConfig)
    (configured : frontEnd.configure = some (index, config)) :
    config.frameCaptureIndex = index ∧ config.autoCaptureMode = AutoCaptureMode.frameIndex := by
  cases frontEnd with
  | captureApi s params answers =>
      obtain ⟨requested, mapped⟩ := Option.ite_none_right_eq_some.mp configured
      obtain ⟨after, known, same⟩ := Option.map_eq_some_iff.mp mapped
      obtain ⟨rfl, rfl⟩ := Prod.mk.inj same
      obtain ⟨kept, mode⟩ := api_frame_index s params answers after known
      exact ⟨kept, by rw [mode, profilingAutoCaptureMode, if_pos requested]⟩
  | panel userdata before =>
      obtain ⟨requested, same⟩ := Option.ite_none_right_eq_some.mp configured
      obtain ⟨rfl, rfl⟩ := Prod.mk.inj (Option.some.inj same)
      exact ⟨rfl, requested⟩

def RequestedFrameCaptured (index : UInt32) (config : WholeRgpTraceSourceConfig) : Prop :=
  ∃ controller, autoCaptureController useNewControllerFormat config = some controller ∧ CapturesFrame index controller

theorem requested_frame_captured_iff (frontEnd : FrontEnd) (index : UInt32) (config : WholeRgpTraceSourceConfig)
    (configured : frontEnd.configure = some (index, config)) :
    RequestedFrameCaptured useNewControllerFormat index config ↔ kFrameIndexMinimum ≤ index := by
  obtain ⟨rfl, mode⟩ := front_end_configures frontEnd index config configured
  have begun := frame_index_controller useNewControllerFormat config mode
  rw [← frame_controller_iff useNewControllerFormat config]
  constructor
  · rintro ⟨controller, same, captures⟩
    rwa [Option.some.inj (begun.symm.trans same)]
  · intro captures
    exact ⟨_, begun, captures⟩

-- The defaults of the trace source, and the capture API with a request for one frame.
def frameRequest (index : UInt32) : FrontEnd :=
  .captureApi (AdaptedContext.initial true) ⟨useFrameIndexCapture, index, 0, 0, 0⟩ ⟨false, false, true, true⟩

def frameConfig (index : UInt32) : WholeRgpTraceSourceConfig :=
  { WholeRgpTraceSourceConfig.created with
    frameCaptureIndex := index, autoCaptureMode := AutoCaptureMode.frameIndex, dispatchStartIndex := 0 }

theorem tenth_frame_captured : RequestedFrameCaptured true 10 (frameConfig 10) :=
  (requested_frame_captured_iff true (frameRequest 10) 10 (frameConfig 10) (by decide)).mpr (by decide)

theorem fourth_frame_underflows : ¬ ∀ index config, (frameRequest 4).configure = some (index, config) →
    RequestedFrameCaptured true index config := by
  intro captured
  obtain ⟨controller, same, frame, isFrame, exact'⟩ := captured 4 (frameConfig 4) (by decide)
  rw [frame_index_controller true (frameConfig 4) rfl] at same
  rw [← Option.some.inj same] at isFrame
  rw [← ControllerConfig.frame.inj isFrame] at exact'
  revert exact'
  decide

end FrontEnds

end RadeonPanel.Rgp.FrameTrigger

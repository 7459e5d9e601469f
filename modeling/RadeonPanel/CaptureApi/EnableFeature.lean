import RadeonPanel.CaptureApi.CaptureContext
import RadeonPanel.Raytracing.ViewModels
import RadeonPanel.TraceSource.Configs

set_option autoImplicit false

namespace RadeonPanel.CaptureApi

open Interleaving Raytracing TraceSource Userdata
open Profiling (AutoCaptureMode.frameIndex AutoCaptureMode.timer AutoCaptureMode.dispatchIndices)

structure ProfilingEnableParams where
  flags : UInt32
  frameCaptureIndex : UInt32
  dispatchStartIndex : UInt32
  dispatchCount : UInt32
  dispatchCaptureDelayMs : UInt32
deriving DecidableEq, Repr

structure RaytracingEnableParams where
  flags : UInt32
  autoCaptureDelayMs : UInt32
deriving DecidableEq, Repr

-- `pdbSearchPaths` is what stands behind the pointer, `none` a null pointer.
structure CrashAnalysisEnableParams where
  flags : UInt32
  pdbSearchPaths : Option (Nat → Option String)
  numPdbSearchPaths : UInt64

-- The callbacks are numbered; 0 is a zeroed one.
structure FeatureCallbacks where
  traceFinished : Nat
  status : Nat
  progress : Nat
deriving DecidableEq, Repr

-- Of the union's members only the feature's is read.
structure FeatureEnableParams where
  feature : CaptureFeature
  callbacks : FeatureCallbacks
  profiling : ProfilingEnableParams
  raytracing : RaytracingEnableParams
  crashAnalysis : CrashAnalysisEnableParams

def flagSet (flags flag : UInt32) : Bool := flags &&& flag ≠ 0

def useFrameIndexCapture : UInt32 := 1
def useDispatchIndexCapture : UInt32 := 2
def enableShaderInstrumentation : UInt32 := 4

def enableMarkerCapture : UInt32 := 1
def useAutoCapture : UInt32 := 2

def enableEnhancedCrashAnalysis : UInt32 := 1
def showMarkerSource : UInt32 := 8
def expandMarkers : UInt32 := 16
def pdbIncludeSubfolders : UInt32 := 32
def collectWaveSgprs : UInt32 := 64
def collectWaveVgprs : UInt32 := 128

def kMaxPdbSearchPaths : Nat := 1024

-- The context with what the adapters reach: the trace sources that they find
-- (`none` is a null pointer), and what the driver has last accepted from the RGP
-- trace source, which is a setter of its own.
structure AdaptedContext where
  context : CaptureContext
  callbacks : CaptureFeature → FeatureCallbacks
  rgp : Option WholeRgpTraceSourceConfig
  rgd : Option RgdTraceSourceConfig
  rra : Option RraTraceSourceConfig
  shaderInstrumentation : FeatureFlag

-- `shaderAccepted` and `accepted` are the driver's answers to the SetFeature of the
-- RGP trace source and of the context; `singleSqttToken` is the environment variable.
structure EnableAnswers where
  processConnected : Bool
  singleSqttToken : Bool
  shaderAccepted : Bool
  accepted : Bool
deriving DecidableEq, Repr

def requestedShaderFlag (params : ProfilingEnableParams) : FeatureFlag :=
  if flagSet params.flags enableShaderInstrumentation then .enable else .ignore

def profilingAutoCaptureMode (params : ProfilingEnableParams) : AutoCaptureMode :=
  if flagSet params.flags useFrameIndexCapture then AutoCaptureMode.frameIndex
  else if flagSet params.flags useDispatchIndexCapture then
    if params.dispatchCaptureDelayMs > 0 then AutoCaptureMode.timer else AutoCaptureMode.dispatchIndices
  else .none

def ProfilingEnableParams.configure (params : ProfilingEnableParams) (singleSqttToken : Bool)
    (config : WholeRgpTraceSourceConfig) : WholeRgpTraceSourceConfig :=
  { config with
    frameCaptureIndex := params.frameCaptureIndex
    autoCaptureMode := profilingAutoCaptureMode params
    dispatchStartIndex := params.dispatchStartIndex
    dispatchCount := params.dispatchCount
    computeAutoCaptureTimeMs := params.dispatchCaptureDelayMs
    enableSingleTokenSqtt :=
      if singleSqttToken && !config.enableLegacyCapture then true else config.enableSingleTokenSqtt }

def CrashAnalysisEnableParams.searchPaths (params : CrashAnalysisEnableParams) : List String :=
  match params.pdbSearchPaths with
  | none => []
  | some paths => (List.range (min params.numPdbSearchPaths.toNat kMaxPdbSearchPaths)).filterMap paths

def CrashAnalysisEnableParams.configure (params : CrashAnalysisEnableParams) (config : RgdTraceSourceConfig) :
    RgdTraceSourceConfig :=
  { config with
    enableAdvancedCrash := flagSet params.flags enableEnhancedCrashAnalysis
    generateTextSummary := false
    generateJsonSummary := false
    summaryOptions :=
      { showMarkerSource := flagSet params.flags showMarkerSource
        expandMarkers := flagSet params.flags expandMarkers
        pdbSearchPaths := params.searchPaths
        pdbIncludeSubfolders := flagSet params.flags pdbIncludeSubfolders }
    collectWaveSgprs := flagSet params.flags collectWaveSgprs
    collectWaveVgprs := flagSet params.flags collectWaveVgprs }

def RaytracingEnableParams.configure (params : RaytracingEnableParams) (config : RraTraceSourceConfig) :
    RraTraceSourceConfig :=
  if flagSet params.flags useAutoCapture then
    { config with autoCaptureDelayMs := params.autoCaptureDelayMs, autoCaptureEnabled := true }
  else { config with autoCaptureEnabled := false, autoCaptureDelayMs := 0 }

-- Of the surroundings the context's own SetFeature only asks for the driver's answer.
def driverAnswers (answers : EnableAnswers) (configured : CaptureResult) : Answers :=
  ⟨answers.processConnected, configured, answers.accepted⟩

namespace AdaptedContext

def setShaderInstrumentationEnabled (s : AdaptedContext) (flag : FeatureFlag) (accepted : Bool) :
    AdaptedContext × Bool :=
  if accepted then ({ s with shaderInstrumentation := flag }, true) else (s, false)

def configureRgp (s : AdaptedContext) (params : ProfilingEnableParams) (answers : EnableAnswers) :
    AdaptedContext × CaptureResult :=
  match s.rgp with
  | none => (s, .failure)
  | some config =>
      let configured := { s with rgp := some (params.configure answers.singleSqttToken config) }
      let (after, done) :=
        configured.setShaderInstrumentationEnabled (requestedShaderFlag params) answers.shaderAccepted
      (after, if done then .success else .failure)

def configureRgd (s : AdaptedContext) (params : CrashAnalysisEnableParams) : AdaptedContext × CaptureResult :=
  match s.rgd with
  | none => (s, .failure)
  | some config => ({ s with rgd := some (params.configure config) }, .success)

def configureRra (s : AdaptedContext) (params : RaytracingEnableParams) : AdaptedContext × CaptureResult :=
  match s.rra with
  | none => (s, .failure)
  | some config =>
      if flagSet params.flags enableMarkerCapture && !config.isMarkerCaptureSupported then (s, .unsupported)
      else ({ s with rra := some (params.configure config) }, .success)

def setEnabled (s : AdaptedContext) (feature : CaptureFeature) (enabled : Bool) : AdaptedContext :=
  { s with context := s.context.setAdapter feature enabled }

def enableAdapter (s : AdaptedContext) (params : FeatureEnableParams) (answers : EnableAnswers) :
    AdaptedContext × CaptureResult :=
  let called := { s with callbacks := Function.update s.callbacks params.feature params.callbacks }
  let adapted := called.setEnabled params.feature true
  match params.feature with
  | .profiling => adapted.configureRgp params.profiling answers
  | .crashAnalysis => adapted.configureRgd params.crashAnalysis
  | .raytracing => adapted.configureRra params.raytracing
  | .unknown | .memoryTrace => (adapted, .success)

def enableFeature (s : AdaptedContext) (featureParams : Option FeatureEnableParams) (answers : EnableAnswers) :
    AdaptedContext × CaptureResult :=
  match featureParams with
  | none => (s, .invalidParams)
  | some params =>
      if params.feature ∉ s.context.adapters then (s, .invalidParams)
      else if answers.processConnected ∨ params.feature ∈ s.context.enabledFeatures then (s, .notReady)
      else if (params.feature = .crashAnalysis ∧ s.context.enabledFeatures ≠ []) ∨
          .crashAnalysis ∈ s.context.enabledFeatures then (s, .notReady)
      else
        let (adapted, result) := s.enableAdapter params answers
        if result ≠ .success then (adapted, result)
        else
          let (driven, done) := adapted.context.enableDriverFeature params.feature (driverAnswers answers result)
          let after := { adapted with context := driven }
          if !done then (after.setEnabled params.feature false, .failure)
          else
            ({ after with context := { driven with enabledFeatures := params.feature :: driven.enabledFeatures } },
              result)

end AdaptedContext

-- The guards in front of the adapter.
def admits (s : AdaptedContext) (params : FeatureEnableParams) (answers : EnableAnswers) : Prop :=
  params.feature ∈ s.context.adapters ∧ ¬ (answers.processConnected = true ∨ params.feature ∈ s.context.enabledFeatures) ∧
    ¬ ((params.feature = .crashAnalysis ∧ s.context.enabledFeatures ≠ []) ∨ .crashAnalysis ∈ s.context.enabledFeatures)

def configurationFails (s : AdaptedContext) (params : FeatureEnableParams) (answers : EnableAnswers) : Prop :=
  match params.feature with
  | .profiling => s.rgp = none ∨ answers.shaderAccepted = false
  | .crashAnalysis => s.rgd = none
  | .raytracing => ∀ config, s.rra = some config →
      flagSet params.raytracing.flags enableMarkerCapture = true ∧ config.isMarkerCaptureSupported = false
  | .unknown | .memoryTrace => False

def driverRefuses (s : AdaptedContext) (feature : CaptureFeature) (answers : EnableAnswers) : Prop :=
  s.context.hasDriverUtils = false ∨ (driverFeature feature ≠ none ∧ answers.accepted = false)

-- A failure that leaves no trace: where the configuration fails the adapter was
-- left enabled by an earlier call, and where the driver refuses it was not, and
-- the driver has the wanted shader instrumentation already.
def failsWithoutTrace (s : AdaptedContext) (params : FeatureEnableParams) (answers : EnableAnswers) : Prop :=
  admits s params answers →
    (configurationFails s params answers → s.context.adapterEnabled params.feature = true) ∧
    (¬ configurationFails s params answers → driverRefuses s params.feature answers →
      s.context.adapterEnabled params.feature = false ∧
        (params.feature = .profiling → s.shaderInstrumentation = requestedShaderFlag params.profiling))

structure SameEnabled (s after : AdaptedContext) : Prop where
  features : after.context.enabledFeatures = s.context.enabledFeatures
  adapters : after.context.adapterEnabled = s.context.adapterEnabled
  driver : after.context.driverFlags = s.context.driverFlags
  shaderInstrumentation : after.shaderInstrumentation = s.shaderInstrumentation

theorem configure_rgp_spec (s : AdaptedContext) (params : ProfilingEnableParams) (answers : EnableAnswers) :
    (s.configureRgp params answers).1.context = s.context ∧
    ((s.configureRgp params answers).2 = .success ↔ ¬ (s.rgp = none ∨ answers.shaderAccepted = false)) ∧
    (s.configureRgp params answers).1.shaderInstrumentation =
      if (s.configureRgp params answers).2 = .success then requestedShaderFlag params else s.shaderInstrumentation := by
  unfold AdaptedContext.configureRgp AdaptedContext.setShaderInstrumentationEnabled
  cases source : s.rgp with
  | none => simp
  | some config => cases accepted : answers.shaderAccepted <;> simp

theorem configure_rgd_spec (s : AdaptedContext) (params : CrashAnalysisEnableParams) :
    (s.configureRgd params).1.context = s.context ∧ ((s.configureRgd params).2 = .success ↔ ¬ s.rgd = none) ∧
    (s.configureRgd params).1.shaderInstrumentation = s.shaderInstrumentation := by
  unfold AdaptedContext.configureRgd
  cases source : s.rgd with
  | none => simp
  | some config => simp

theorem configure_rra_spec (s : AdaptedContext) (params : RaytracingEnableParams) :
    (s.configureRra params).1.context = s.context ∧
    ((s.configureRra params).2 = .success ↔ ¬ ∀ config, s.rra = some config →
      flagSet params.flags enableMarkerCapture = true ∧ config.isMarkerCaptureSupported = false) ∧
    (s.configureRra params).1.shaderInstrumentation = s.shaderInstrumentation := by
  unfold AdaptedContext.configureRra
  cases source : s.rra with
  | none => simp
  | some config =>
      cases requested : flagSet params.flags enableMarkerCapture <;>
        cases supported : config.isMarkerCaptureSupported <;> simp [supported]

-- The adapter is enabled whatever its configuration says.
theorem enable_adapter_spec (s : AdaptedContext) (params : FeatureEnableParams) (answers : EnableAnswers) :
    (s.enableAdapter params answers).1.context = s.context.setAdapter params.feature true ∧
    ((s.enableAdapter params answers).2 = .success ↔ ¬ configurationFails s params answers) ∧
    (s.enableAdapter params answers).1.shaderInstrumentation =
      if params.feature = .profiling ∧ (s.enableAdapter params answers).2 = .success then
        requestedShaderFlag params.profiling
      else s.shaderInstrumentation := by
  unfold AdaptedContext.enableAdapter configurationFails
  cases feature : params.feature with
  | unknown | memoryTrace => simp [AdaptedContext.setEnabled]
  | profiling =>
      obtain ⟨context, success, shader⟩ := configure_rgp_spec
        (AdaptedContext.setEnabled { s with callbacks := Function.update s.callbacks .profiling params.callbacks }
          .profiling true) params.profiling answers
      refine ⟨context, success, ?_⟩
      simp only [true_and]
      exact shader
  | raytracing =>
      obtain ⟨context, success, shader⟩ := configure_rra_spec
        (AdaptedContext.setEnabled { s with callbacks := Function.update s.callbacks .raytracing params.callbacks }
          .raytracing true) params.raytracing
      refine ⟨context, success, ?_⟩
      rw [if_neg (by simp)]
      exact shader
  | crashAnalysis =>
      obtain ⟨context, success, shader⟩ := configure_rgd_spec
        (AdaptedContext.setEnabled { s with callbacks := Function.update s.callbacks .crashAnalysis params.callbacks }
          .crashAnalysis true) params.crashAnalysis
      refine ⟨context, success, ?_⟩
      rw [if_neg (by simp)]
      exact shader

-- What the earlier model of the context keeps of a call.
theorem enable_feature_refines (s : AdaptedContext) (featureParams : Option FeatureEnableParams)
    (answers : EnableAnswers) :
    ((s.enableFeature featureParams answers).1.context, (s.enableFeature featureParams answers).2) =
      s.context.enableFeature (featureParams.map (·.feature)) (driverAnswers answers
        (featureParams.elim .success fun params => (s.enableAdapter params answers).2)) := by
  cases featureParams with
  | none => rfl
  | some params =>
      obtain ⟨context, success, _⟩ := enable_adapter_spec s params answers
      change _ = s.context.enableFeature (some params.feature) (driverAnswers answers (s.enableAdapter params answers).2)
      simp only [AdaptedContext.enableFeature, CaptureContext.enableFeature]
      by_cases unknown : params.feature ∉ s.context.adapters
      · rw [if_pos unknown, if_pos unknown]
      rw [if_neg unknown, if_neg unknown]
      by_cases busy : answers.processConnected = true ∨ params.feature ∈ s.context.enabledFeatures
      · have busyThere : (driverAnswers answers (s.enableAdapter params answers).2).processConnected = true ∨
            params.feature ∈ s.context.enabledFeatures := busy
        rw [if_pos busy, if_pos busyThere]
      have idleThere : ¬ ((driverAnswers answers (s.enableAdapter params answers).2).processConnected = true ∨
          params.feature ∈ s.context.enabledFeatures) := busy
      rw [if_neg busy, if_neg idleThere]
      by_cases excluded : (params.feature = .crashAnalysis ∧ s.context.enabledFeatures ≠ []) ∨
          .crashAnalysis ∈ s.context.enabledFeatures
      · rw [if_pos excluded, if_pos excluded]
      rw [if_neg excluded, if_neg excluded]
      have adapted : s.context.enableAdapter params.feature (driverAnswers answers (s.enableAdapter params answers).2) =
          ((s.enableAdapter params answers).1.context, (s.enableAdapter params answers).2) := by
        rw [context]
        cases feature : params.feature with
        | profiling | raytracing | crashAnalysis => rfl
        | unknown | memoryTrace => simp [AdaptedContext.enableAdapter, CaptureContext.enableAdapter, feature]
      rw [adapted]
      by_cases failed : (s.enableAdapter params answers).2 ≠ .success
      · rw [if_pos failed, if_pos failed]
      rw [if_neg failed, if_neg failed]
      by_cases refused : (!((s.enableAdapter params answers).1.context.enableDriverFeature params.feature
          (driverAnswers answers (s.enableAdapter params answers).2)).2) = true
      · rw [if_pos refused, if_pos refused]
        rfl
      · rw [if_neg refused, if_neg refused]

-- The ways a call can go.
inductive EnableOutcome (s : AdaptedContext) (params : FeatureEnableParams) (answers : EnableAnswers) :
    AdaptedContext × CaptureResult → Prop where
  | rejected (result : CaptureResult) (guarded : ¬ admits s params answers) :
      EnableOutcome s params answers (s, result)
  | unconfigured (after : AdaptedContext) (result : CaptureResult) (admitted : admits s params answers)
      (fails : configurationFails s params answers) (failed : result ≠ .success)
      (context : after.context = s.context.setAdapter params.feature true)
      (shader : after.shaderInstrumentation = s.shaderInstrumentation) :
      EnableOutcome s params answers (after, result)
  | refused (after : AdaptedContext) (admitted : admits s params answers)
      (configures : ¬ configurationFails s params answers) (refuses : driverRefuses s params.feature answers)
      (context : after.context = s.context.setAdapter params.feature false)
      (shader : after.shaderInstrumentation =
        if params.feature = .profiling then requestedShaderFlag params.profiling else s.shaderInstrumentation) :
      EnableOutcome s params answers (after, .failure)
  | enabled (after : AdaptedContext) (admitted : admits s params answers)
      (configures : ¬ configurationFails s params answers) (accepts : ¬ driverRefuses s params.feature answers) :
      EnableOutcome s params answers (after, .success)

theorem enable_feature_outcome (s : AdaptedContext) (params : FeatureEnableParams) (answers : EnableAnswers) :
    EnableOutcome s params answers (s.enableFeature (some params) answers) := by
  obtain ⟨context, success, shader⟩ := enable_adapter_spec s params answers
  simp only [AdaptedContext.enableFeature]
  by_cases unknown : params.feature ∉ s.context.adapters
  · rw [if_pos unknown]
    exact .rejected _ fun admitted => unknown admitted.1
  rw [if_neg unknown]
  by_cases busy : answers.processConnected = true ∨ params.feature ∈ s.context.enabledFeatures
  · rw [if_pos busy]
    exact .rejected _ fun admitted => admitted.2.1 busy
  rw [if_neg busy]
  by_cases excluded : (params.feature = .crashAnalysis ∧ s.context.enabledFeatures ≠ []) ∨
      .crashAnalysis ∈ s.context.enabledFeatures
  · rw [if_pos excluded]
    exact .rejected _ fun admitted => admitted.2.2 excluded
  rw [if_neg excluded]
  have admitted : admits s params answers := ⟨not_not.mp unknown, busy, excluded⟩
  by_cases failed : (s.enableAdapter params answers).2 ≠ .success
  · rw [if_pos failed]
    rw [if_neg fun both => failed both.2] at shader
    exact .unconfigured _ _ admitted (not_not.mp fun configures => failed (success.mpr configures)) failed context shader
  rw [if_neg failed]
  have configured := not_not.mp failed
  have configures := success.mp configured
  rw [configured, context, CaptureContext.enableDriverFeature]
  obtain ⟨utils, sent, driven⟩ | ⟨refuses, unsent⟩ :=
    set_driver_cases .enable (s.context.setAdapter params.feature true) params.feature (driverAnswers answers .success)
  · rw [driven]
    refine .enabled _ admitted configures ?_
    rintro (missing | ⟨needed, refused⟩)
    · exact absurd (utils.symm.trans missing) (by simp)
    · obtain none | accepted := sent
      · exact needed none
      · exact absurd (accepted.symm.trans refused) (by simp)
  · rw [unsent]
    refine .refused _ admitted configures refuses ?_ ?_
    · simp [AdaptedContext.setEnabled, CaptureContext.setAdapter]
    · simpa [AdaptedContext.setEnabled, configured] using shader

theorem set_adapter_same (c : CaptureContext) (feature : CaptureFeature) (enabled : Bool) :
    (c.setAdapter feature enabled).adapterEnabled = c.adapterEnabled ↔ c.adapterEnabled feature = enabled := by
  rw [CaptureContext.setAdapter, Function.update_eq_self_iff]
  exact eq_comm

theorem enable_feature_atomic_iff (s : AdaptedContext) (featureParams : Option FeatureEnableParams)
    (answers : EnableAnswers) :
    ((s.enableFeature featureParams answers).2 ≠ .success → SameEnabled s (s.enableFeature featureParams answers).1) ↔
      ∀ params, featureParams = some params → failsWithoutTrace s params answers := by
  cases featureParams with
  | none => exact ⟨by simp, fun _ _ => ⟨rfl, rfl, rfl, rfl⟩⟩
  | some params =>
      have single : (∀ other, some params = some other → failsWithoutTrace s other answers) ↔
          failsWithoutTrace s params answers := by simp
      rw [single]
      generalize made : s.enableFeature (some params) answers = outcome
      have outcomes := enable_feature_outcome s params answers
      rw [made] at outcomes
      cases outcomes with
      | rejected result guarded =>
          exact ⟨fun _ admitted => absurd admitted guarded, fun _ _ => ⟨rfl, rfl, rfl, rfl⟩⟩
      | unconfigured after result admitted fails failed context shader =>
          constructor
          · intro same _
            refine ⟨fun _ => ?_, fun configures => absurd fails configures⟩
            have adapters := (same failed).adapters
            rwa [context, set_adapter_same] at adapters
          · intro traceless _
            have already := (traceless admitted).1 fails
            rw [← set_adapter_same, ← context] at already
            exact ⟨by rw [context]; rfl, already, by rw [context]; rfl, shader⟩
      | refused after admitted configures refuses context shader =>
          constructor
          · intro same _
            obtain ⟨_, adapters, _, unchanged⟩ := same (by simp)
            rw [context, set_adapter_same] at adapters
            refine ⟨fun fails => absurd fails configures, fun _ _ => ⟨adapters, fun profiling => ?_⟩⟩
            rw [← unchanged, shader, if_pos profiling]
          · intro traceless _
            obtain ⟨already, sameShader⟩ := (traceless admitted).2 configures refuses
            rw [← set_adapter_same, ← context] at already
            refine ⟨by rw [context]; rfl, already, by rw [context]; rfl, ?_⟩
            rw [shader]
            by_cases profiling : params.feature = .profiling
            · rw [if_pos profiling, sameShader profiling]
            · rw [if_neg profiling]
      | enabled after admitted configures accepts =>
          exact ⟨fun _ _ => ⟨fun fails => absurd fails configures, fun _ refuses => absurd refuses accepts⟩,
            fun _ failed => absurd rfl failed⟩

def AdaptedContext.initial (hasDriverUtils : Bool) : AdaptedContext where
  context := .initial hasDriverUtils
  callbacks := fun _ => ⟨0, 0, 0⟩
  rgp := some .created
  rgd := some .created
  rra := some .created
  shaderInstrumentation := .ignore

def enableParams (feature : CaptureFeature) (flags : UInt32) : FeatureEnableParams where
  feature := feature
  callbacks := ⟨0, 0, 0⟩
  profiling := ⟨flags, 0, 0, 0, 0⟩
  raytracing := ⟨flags, 0⟩
  crashAnalysis := ⟨flags, none, 0⟩

-- A raytracing whose marker capture is not supported leaves its adapter enabled; a
-- profiling that the driver refuses leaves the shader instrumentation on.
theorem failed_enabling_leaves_traces :
    ¬ ∀ (s : AdaptedContext) (featureParams : Option FeatureEnableParams) (answers : EnableAnswers),
      (s.enableFeature featureParams answers).2 ≠ .success → SameEnabled s (s.enableFeature featureParams answers).1 := by
  intro claimed
  have same := claimed (.initial true) (some (enableParams .raytracing enableMarkerCapture)) ⟨false, false, true, true⟩
    (by decide)
  have enabled : true = false := congrFun same.adapters .raytracing
  cases enabled

example : ((AdaptedContext.initial true).enableFeature (some (enableParams .profiling enableShaderInstrumentation))
    ⟨false, false, true, false⟩).1.shaderInstrumentation = .enable := by decide

end RadeonPanel.CaptureApi

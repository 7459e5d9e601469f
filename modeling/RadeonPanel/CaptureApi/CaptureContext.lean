import RadeonPanel.Base.Runs

set_option autoImplicit false

namespace RadeonPanel.CaptureApi

open Interleaving

inductive CaptureFeature where
  | unknown
  | profiling
  | memoryTrace
  | raytracing
  | crashAnalysis
deriving DecidableEq, Repr

inductive CaptureResult where
  | success
  | notReady
  | unknown
  | failure
  | unsupported
  | notFound
  | aborted
  | invalidParams
  | versionMismatch
deriving DecidableEq, Repr

inductive DriverFeature where
  | tracing
  | crashAnalysis
deriving DecidableEq, Repr

inductive FeatureFlag where
  | ignore
  | enable
deriving DecidableEq, Repr

-- `driverFlags` is what the driver has last accepted from the setter
-- "RdpCaptureApi", the only one the context uses.
structure CaptureContext where
  hasDriverUtils : Bool
  adapters : List CaptureFeature
  adapterEnabled : CaptureFeature → Bool
  enabledFeatures : List CaptureFeature
  driverFlags : DriverFeature → FeatureFlag

-- With the adapters that ResolveDependencies creates.
def CaptureContext.initial (hasDriverUtils : Bool) : CaptureContext :=
  { hasDriverUtils := hasDriverUtils
    adapters := [.profiling, .memoryTrace, .raytracing, .crashAnalysis]
    adapterEnabled := fun _ => false
    enabledFeatures := []
    driverFlags := fun _ => .ignore }

-- The answers of a call's surroundings: the process id is not zero, what the
-- adapter's Configure function returns, and whether the driver takes SetFeature.
structure Answers where
  processConnected : Bool
  configured : CaptureResult
  accepted : Bool
deriving DecidableEq, Repr

def driverFeature : CaptureFeature → Option DriverFeature
  | .profiling | .raytracing => some .tracing
  | .crashAnalysis => some .crashAnalysis
  | .unknown | .memoryTrace => none

namespace CaptureContext

def setAdapter (c : CaptureContext) (feature : CaptureFeature) (enabled : Bool) : CaptureContext :=
  { c with adapterEnabled := Function.update c.adapterEnabled feature enabled }

-- Only these three have a configuration that can be refused.
def enableAdapter (c : CaptureContext) (feature : CaptureFeature) (answers : Answers) :
    CaptureContext × CaptureResult :=
  (c.setAdapter feature true,
    match feature with
    | .profiling | .crashAnalysis | .raytracing => answers.configured
    | .unknown | .memoryTrace => .success)

def setDriverFeature (flag : FeatureFlag) (c : CaptureContext) (feature : CaptureFeature) (answers : Answers) :
    CaptureContext × Bool :=
  if !c.hasDriverUtils then (c, false)
  else
    match driverFeature feature with
    | none => (c, true)
    | some driver =>
        if answers.accepted then ({ c with driverFlags := Function.update c.driverFlags driver flag }, true)
        else (c, false)

def enableDriverFeature : CaptureContext → CaptureFeature → Answers → CaptureContext × Bool :=
  setDriverFeature .enable

def disableDriverFeature : CaptureContext → CaptureFeature → Answers → CaptureContext × Bool :=
  setDriverFeature .ignore

-- `none` is a null pointer.
def enableFeature (c : CaptureContext) (params : Option CaptureFeature) (answers : Answers) :
    CaptureContext × CaptureResult :=
  match params with
  | none => (c, .invalidParams)
  | some feature =>
      if feature ∉ c.adapters then (c, .invalidParams)
      else if answers.processConnected ∨ feature ∈ c.enabledFeatures then (c, .notReady)
      else if (feature = .crashAnalysis ∧ c.enabledFeatures ≠ []) ∨ .crashAnalysis ∈ c.enabledFeatures then
        (c, .notReady)
      else
        let (adapted, result) := c.enableAdapter feature answers
        if result ≠ .success then (adapted, result)
        else
          let (driven, done) := adapted.enableDriverFeature feature answers
          if !done then (driven.setAdapter feature false, .failure)
          else ({ driven with enabledFeatures := feature :: driven.enabledFeatures }, result)

-- The result of DisableDriverFeature is dropped.
def disableFeature (c : CaptureContext) (feature : CaptureFeature) (answers : Answers) :
    CaptureContext × CaptureResult :=
  if feature ∉ c.adapters then (c, .invalidParams)
  else if answers.processConnected ∨ feature ∉ c.enabledFeatures then (c, .notReady)
  else
    let driven := ((c.setAdapter feature false).disableDriverFeature feature answers).1
    ({ driven with enabledFeatures := driven.enabledFeatures.filter (· ≠ feature) }, .success)

end CaptureContext

inductive ContextCall where
  | enableFeature (params : Option CaptureFeature) (answers : Answers)
  | disableFeature (feature : CaptureFeature) (answers : Answers)
deriving DecidableEq, Repr

def CaptureContext.call (c : CaptureContext) : ContextCall → CaptureContext × CaptureResult
  | .enableFeature params answers => c.enableFeature params answers
  | .disableFeature feature answers => c.disableFeature feature answers

-- Every call holds state_mutex from beginning to end.
def captureContext (hasDriverUtils : Bool) : Machine CaptureContext ContextCall :=
  ⟨.initial hasDriverUtils, fun c call => some (c.call call).1⟩

def CaptureContext.tracingUsed (c : CaptureContext) : Prop :=
  .profiling ∈ c.enabledFeatures ∨ .raytracing ∈ c.enabledFeatures

-- The driver traces exactly while a feature needs it, and crash analysis is alone.
structure CaptureContext.InStep (c : CaptureContext) : Prop where
  tracing : c.driverFlags .tracing = .enable ↔ c.tracingUsed
  crashAlone : .crashAnalysis ∈ c.enabledFeatures → c.enabledFeatures = [.crashAnalysis]

def sharesTracing : CaptureFeature → Option CaptureFeature
  | .profiling => some .raytracing
  | .raytracing => some .profiling
  | .unknown | .memoryTrace | .crashAnalysis => none

-- The driver must refuse to stop tracing where the other feature still needs it,
-- and only there.
def stopsWithLast (c : CaptureContext) : ContextCall → Prop
  | .enableFeature _ _ => True
  | .disableFeature feature answers =>
      ∀ other, sharesTracing feature = some other → feature ∈ c.enabledFeatures →
        answers.processConnected = false → (other ∈ c.enabledFeatures ↔ answers.accepted = false)

-- What a call has left alone: all but the adapters' own switches.
structure SameFeatures (c d : CaptureContext) : Prop where
  driverUtils : d.hasDriverUtils = c.hasDriverUtils
  adapters : d.adapters = c.adapters
  enabled : d.enabledFeatures = c.enabledFeatures
  flags : d.driverFlags = c.driverFlags

theorem same_features_rfl (c : CaptureContext) : SameFeatures c c := ⟨rfl, rfl, rfl, rfl⟩

def setFlag (flags : DriverFeature → FeatureFlag) (feature : CaptureFeature) (flag : FeatureFlag) :
    DriverFeature → FeatureFlag :=
  match driverFeature feature with
  | none => flags
  | some driver => Function.update flags driver flag

theorem set_driver_cases (flag : FeatureFlag) (c : CaptureContext) (feature : CaptureFeature) (answers : Answers) :
    (c.hasDriverUtils = true ∧ (driverFeature feature = none ∨ answers.accepted = true) ∧
      c.setDriverFeature flag feature answers = ({ c with driverFlags := setFlag c.driverFlags feature flag }, true)) ∨
    ((c.hasDriverUtils = false ∨ (driverFeature feature ≠ none ∧ answers.accepted = false)) ∧
      c.setDriverFeature flag feature answers = (c, false)) := by
  unfold CaptureContext.setDriverFeature setFlag
  by_cases utils : c.hasDriverUtils = true
  · rw [if_neg (by simp [utils])]
    cases driver : driverFeature feature with
    | none => exact .inl ⟨utils, .inl rfl, rfl⟩
    | some d =>
        by_cases accepted : answers.accepted = true
        · exact .inl ⟨utils, .inr accepted, if_pos accepted⟩
        · exact .inr ⟨.inr ⟨by simp, by simpa using accepted⟩, if_neg accepted⟩
  · have missing : c.hasDriverUtils = false := by simpa using utils
    rw [if_pos (by simp [missing])]
    exact .inr ⟨.inl missing, rfl⟩

-- A feature gets enabled under all the guards, or nothing is enabled or sent.
theorem enable_cases (c : CaptureContext) (params : Option CaptureFeature) (answers : Answers) :
    SameFeatures c (c.enableFeature params answers).1 ∨
    ∃ feature, params = some feature ∧ feature ∈ c.adapters ∧ feature ∉ c.enabledFeatures ∧
      (feature = .crashAnalysis → c.enabledFeatures = []) ∧ .crashAnalysis ∉ c.enabledFeatures ∧
      c.hasDriverUtils = true ∧
      (c.enableFeature params answers).1.hasDriverUtils = c.hasDriverUtils ∧
      (c.enableFeature params answers).1.adapters = c.adapters ∧
      (c.enableFeature params answers).1.enabledFeatures = feature :: c.enabledFeatures ∧
      (c.enableFeature params answers).1.driverFlags = setFlag c.driverFlags feature .enable := by
  cases params with
  | none => exact .inl (same_features_rfl c)
  | some feature =>
      simp only [CaptureContext.enableFeature]
      by_cases unknown : feature ∉ c.adapters
      · rw [if_pos unknown]
        exact .inl (same_features_rfl c)
      rw [if_neg unknown]
      by_cases busy : answers.processConnected = true ∨ feature ∈ c.enabledFeatures
      · rw [if_pos busy]
        exact .inl (same_features_rfl c)
      rw [if_neg busy]
      by_cases excluded : (feature = .crashAnalysis ∧ c.enabledFeatures ≠ []) ∨ .crashAnalysis ∈ c.enabledFeatures
      · rw [if_pos excluded]
        exact .inl (same_features_rfl c)
      rw [if_neg excluded]
      by_cases refused : (c.enableAdapter feature answers).2 ≠ .success
      · rw [if_pos refused]
        exact .inl ⟨rfl, rfl, rfl, rfl⟩
      rw [if_neg refused]
      obtain ⟨utils, _, driven⟩ | ⟨_, unsent⟩ :=
        set_driver_cases .enable (c.enableAdapter feature answers).1 feature answers
      · right
        rw [CaptureContext.enableDriverFeature, driven]
        refine ⟨feature, rfl, not_not.mp unknown, fun member => busy (.inr member), fun crash => ?_,
          fun member => excluded (.inr member), utils, rfl, rfl, rfl, rfl⟩
        exact not_not.mp fun others => excluded (.inl ⟨crash, others⟩)
      · left
        rw [CaptureContext.enableDriverFeature, unsent]
        exact ⟨rfl, rfl, rfl, rfl⟩

theorem disable_cases (c : CaptureContext) (feature : CaptureFeature) (answers : Answers) :
    (SameFeatures c (c.disableFeature feature answers).1 ∧
      (feature ∉ c.adapters ∨ answers.processConnected = true ∨ feature ∉ c.enabledFeatures)) ∨
    (answers.processConnected = false ∧ feature ∈ c.enabledFeatures ∧
      (c.disableFeature feature answers).1.hasDriverUtils = c.hasDriverUtils ∧
      (c.disableFeature feature answers).1.adapters = c.adapters ∧
      (c.disableFeature feature answers).1.enabledFeatures = c.enabledFeatures.filter (· ≠ feature) ∧
      (c.disableFeature feature answers).1.driverFlags =
        if c.hasDriverUtils = true ∧ answers.accepted = true then setFlag c.driverFlags feature .ignore
        else c.driverFlags) := by
  unfold CaptureContext.disableFeature
  by_cases unknown : feature ∉ c.adapters
  · rw [if_pos unknown]
    exact .inl ⟨same_features_rfl c, .inl unknown⟩
  rw [if_neg unknown]
  by_cases busy : answers.processConnected = true ∨ feature ∉ c.enabledFeatures
  · rw [if_pos busy]
    exact .inl ⟨same_features_rfl c, .inr busy⟩
  rw [if_neg busy]
  right
  obtain ⟨idle, present⟩ : answers.processConnected = false ∧ feature ∈ c.enabledFeatures := by simpa using busy
  obtain ⟨utils, sent, driven⟩ | ⟨refused, unsent⟩ :=
    set_driver_cases .ignore (c.setAdapter feature false) feature answers
  · rw [CaptureContext.disableDriverFeature, driven]
    refine ⟨idle, present, rfl, rfl, rfl, ?_⟩
    obtain none | accepted := sent
    · simp [setFlag, none, CaptureContext.setAdapter]
    · rw [if_pos ⟨utils, accepted⟩]
      rfl
  · rw [CaptureContext.disableDriverFeature, unsent]
    refine ⟨idle, present, rfl, rfl, rfl, ?_⟩
    obtain noUtils | ⟨_, refused⟩ := refused
    · have missing : c.hasDriverUtils = false := noUtils
      simp [missing, CaptureContext.setAdapter]
    · simp [refused, CaptureContext.setAdapter]

structure CaptureContext.WellFormed (c : CaptureContext) : Prop where
  adapters : c.adapters = [.profiling, .memoryTrace, .raytracing, .crashAnalysis]
  driven : c.enabledFeatures ≠ [] → c.hasDriverUtils = true
  crashAlone : .crashAnalysis ∈ c.enabledFeatures → c.enabledFeatures = [.crashAnalysis]

theorem well_formed_same (c d : CaptureContext) (same : SameFeatures c d) (formed : c.WellFormed) :
    d.WellFormed := by
  refine ⟨same.adapters.trans formed.adapters, ?_, ?_⟩
  · rw [same.enabled, same.driverUtils]
    exact formed.driven
  · rw [same.enabled]
    exact formed.crashAlone

theorem well_formed_call (c : CaptureContext) (call : ContextCall) (formed : c.WellFormed) :
    (c.call call).1.WellFormed := by
  cases call with
  | enableFeature params answers =>
      obtain same | ⟨feature, _, _, _, alone, noCrash, utils, sameUtils, sameAdapters, enabled, _⟩ :=
        enable_cases c params answers
      · exact well_formed_same c _ same formed
      · refine ⟨sameAdapters.trans formed.adapters, fun _ => sameUtils.trans utils, fun member => ?_⟩
        rw [CaptureContext.call, enabled] at member ⊢
        obtain crash | before := List.mem_cons.mp member
        · rw [← crash, alone crash.symm]
        · exact absurd before noCrash
  | disableFeature feature answers =>
      obtain ⟨same, _⟩ | ⟨_, present, sameUtils, sameAdapters, enabled, _⟩ := disable_cases c feature answers
      · exact well_formed_same c _ same formed
      · refine ⟨sameAdapters.trans formed.adapters, fun _ => sameUtils.trans ?_, fun member => ?_⟩
        · exact formed.driven (List.ne_nil_of_mem present)
        · rw [CaptureContext.call, enabled] at member ⊢
          obtain ⟨before, kept⟩ := List.mem_filter.mp member
          have apart : CaptureFeature.crashAnalysis ≠ feature := by simpa using kept
          rw [formed.crashAlone before]
          simp [apart]

theorem reachable_well_formed (hasDriverUtils : Bool) (c : CaptureContext)
    (reach : Reachable (captureContext hasDriverUtils) c) : c.WellFormed := by
  refine reachable_invariant (captureContext hasDriverUtils) CaptureContext.WellFormed ?_ ?_ c reach
  · exact ⟨rfl, fun none => absurd rfl none, by simp [captureContext, CaptureContext.initial]⟩
  · intro c call d formed next
    cases next
    exact well_formed_call c call formed

theorem in_step_same (c d : CaptureContext) (same : SameFeatures c d) : d.InStep ↔ c.InStep := by
  have tracing : d.tracingUsed ↔ c.tracingUsed := by rw [CaptureContext.tracingUsed, same.enabled]; rfl
  constructor
  · intro inStep
    exact ⟨by rw [← tracing, ← same.flags]; exact inStep.tracing, by rw [← same.enabled]; exact inStep.crashAlone⟩
  · intro inStep
    exact ⟨by rw [tracing, same.flags]; exact inStep.tracing, by rw [same.enabled]; exact inStep.crashAlone⟩

theorem enable_in_step (c : CaptureContext) (params : Option CaptureFeature) (answers : Answers)
    (formed : c.WellFormed) (inStep : c.InStep) : (c.enableFeature params answers).1.InStep := by
  have after := well_formed_call c (.enableFeature params answers) formed
  obtain same | ⟨feature, _, _, _, _, _, _, _, _, enabled, flags⟩ := enable_cases c params answers
  · exact (in_step_same c _ same).mpr inStep
  · refine ⟨?_, after.crashAlone⟩
    rw [CaptureContext.tracingUsed, enabled, flags]
    have before := inStep.tracing
    rw [CaptureContext.tracingUsed] at before
    cases feature <;> simp [setFlag, driverFeature, Function.update, before]

-- After a disabling that went through, the flag is right exactly when the driver
-- stopped tracing with the last feature that needed it.
theorem disable_in_step (c : CaptureContext) (feature : CaptureFeature) (answers : Answers)
    (formed : c.WellFormed) (inStep : c.InStep) :
    (c.disableFeature feature answers).1.InStep ↔ stopsWithLast c (.disableFeature feature answers) := by
  have after := well_formed_call c (.disableFeature feature answers) formed
  have before := inStep.tracing
  rw [CaptureContext.tracingUsed] at before
  obtain ⟨same, refused⟩ | ⟨idle, present, _, _, enabled, flags⟩ := disable_cases c feature answers
  · rw [in_step_same c _ same]
    refine ⟨fun _ other shares member idle => ?_, fun _ => inStep⟩
    have known : feature ∈ c.adapters := by
      rw [formed.adapters]
      cases feature <;> simp_all [sharesTracing]
    simp [known, member, idle] at refused
  · have utils := formed.driven (List.ne_nil_of_mem present)
    have matching : (c.disableFeature feature answers).1.InStep ↔
        ((c.disableFeature feature answers).1.driverFlags .tracing = .enable ↔
          (c.disableFeature feature answers).1.tracingUsed) :=
      ⟨fun inStep => inStep.tracing, fun tracing => ⟨tracing, after.crashAlone⟩⟩
    rw [matching, CaptureContext.tracingUsed, enabled, flags]
    cases accepted : answers.accepted <;> cases feature <;>
      simp_all [stopsWithLast, sharesTracing, setFlag, driverFeature, Function.update]

theorem call_in_step (c : CaptureContext) (call : ContextCall) (formed : c.WellFormed) (inStep : c.InStep) :
    (c.call call).1.InStep ↔ stopsWithLast c call := by
  cases call with
  | enableFeature params answers => exact ⟨fun _ => trivial, fun _ => enable_in_step c params answers formed inStep⟩
  | disableFeature feature answers => exact disable_in_step c feature answers formed inStep

theorem tracing_follows_features (hasDriverUtils : Bool) (calls : List ContextCall) :
    Meets (captureContext hasDriverUtils) stopsWithLast (.initial hasDriverUtils) calls ↔
      Always (captureContext hasDriverUtils) CaptureContext.InStep (.initial hasDriverUtils) calls := by
  have start : (CaptureContext.initial hasDriverUtils).InStep :=
    ⟨by simp [CaptureContext.initial, CaptureContext.tracingUsed], by simp [CaptureContext.initial]⟩
  refine keeps_iff_always (captureContext hasDriverUtils) stopsWithLast CaptureContext.InStep start ?_ calls
  intro c call d reach inStep next
  cases next
  exact call_in_step c call (reachable_well_formed hasDriverUtils c reach) inStep

-- Disabling profiling stops the tracing that raytracing still needs.
theorem disabling_one_stops_both : ¬ ∀ hasDriverUtils c, Reachable (captureContext hasDriverUtils) c → c.InStep := by
  intro claimed
  obtain ⟨c, reach, found⟩ := exec_finds (captureContext true)
    [.enableFeature (some .profiling) ⟨false, .success, true⟩, .enableFeature (some .raytracing) ⟨false, .success, true⟩,
      .disableFeature .profiling ⟨false, .success, true⟩]
    (fun c => c.enabledFeatures = [.raytracing] ∧ c.driverFlags .tracing = .ignore) (by decide)
  obtain ⟨enabled, flag⟩ := of_decide_eq_true found
  have needed := (claimed true c reach).tracing.mpr (.inr (by simp [enabled]))
  rw [flag] at needed
  cases needed

end RadeonPanel.CaptureApi

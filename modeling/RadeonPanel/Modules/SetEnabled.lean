import RadeonPanel.CaptureApi.CaptureContext

set_option autoImplicit false

namespace RadeonPanel.Modules

open Interleaving CaptureApi

variable {σ α : Type}

-- The virtual functions of a subclass: what they do to the state that they
-- switch, and whether they succeed. The answers are those of their surroundings.
structure Subclass (σ α : Type) where
  enable : σ → α → σ × Bool
  disable : σ → α → σ × Bool

structure DevToolsModule (σ : Type) where
  isEnabled : Bool
  connectionManagerEnabled : Bool
  switched : σ
deriving DecidableEq, Repr

def DevToolsModule.initial (switched : σ) : DevToolsModule σ :=
  { isEnabled := false
    connectionManagerEnabled := false
    switched := switched }

-- The connection manager is switched before the subclass is asked.
def DevToolsModule.setEnabled (sub : Subclass σ α) (m : DevToolsModule σ) (isEnabled : Bool) (answer : α) :
    DevToolsModule σ × Bool :=
  if m.isEnabled = isEnabled then (m, true)
  else if isEnabled then
    let (switched, enabled) := sub.enable m.switched answer
    ({ isEnabled := enabled, connectionManagerEnabled := isEnabled, switched := switched }, enabled)
  else
    let (switched, disabled) := sub.disable m.switched answer
    ({ isEnabled := !disabled, connectionManagerEnabled := isEnabled, switched := switched }, !(!disabled))

-- DevToolsModule's own functions, which system trace and device clocks keep.
def defaultModule : Subclass Unit Unit :=
  { enable := fun s _ => (s, true)
    disable := fun s _ => (s, true) }

-- What the driver has last accepted from each setter.
structure DriverUtils where
  flags : String → DriverFeature → FeatureFlag

def DriverUtils.initial : DriverUtils := ⟨fun _ _ => .ignore⟩

def DriverUtils.setFeature (d : DriverUtils) (feature : DriverFeature) (flag : FeatureFlag) (setterName : String)
    (accepted : Bool) : DriverUtils × Bool :=
  if accepted then (⟨Function.update d.flags setterName (Function.update (d.flags setterName) feature flag)⟩, true)
  else (d, false)

def driverModule (setterName : String) (feature : DriverFeature) : Subclass DriverUtils Bool :=
  { enable := fun d accepted => d.setFeature feature .enable setterName accepted
    disable := fun d accepted => d.setFeature feature .ignore setterName accepted }

def profilingModule : Subclass DriverUtils Bool := driverModule "Profiling" .tracing

def raytracingModule : Subclass DriverUtils Bool := driverModule "Raytracing" .tracing

def crashAnalysisModule : Subclass DriverUtils Bool := driverModule "CrashAnalysis" .crashAnalysis

structure SetEnabledCall (σ : Type) where
  before : DevToolsModule σ
  requested : Bool
  returned : Bool

structure Session (σ : Type) where
  module : DevToolsModule σ
  lastCall : Option (SetEnabledCall σ)

structure Request (α : Type) where
  isEnabled : Bool
  answer : α

-- Every call holds enabled_mutex_ from beginning to end.
def Session.call (sub : Subclass σ α) (s : Session σ) (request : Request α) : Session σ :=
  let made := s.module.setEnabled sub request.isEnabled request.answer
  ⟨made.1, some ⟨s.module, request.isEnabled, made.2⟩⟩

def session (sub : Subclass σ α) (switched : σ) : Machine (Session σ) (Request α) :=
  ⟨⟨.initial switched, none⟩, fun s request => some (s.call sub request)⟩

structure Session.Whole (s : Session σ) : Prop where
  manager : s.module.connectionManagerEnabled = true ↔ s.module.isEnabled = true
  returned : ∀ call, s.lastCall = some call → (call.returned = true ↔ s.module.isEnabled = call.requested)
  unchanged : ∀ call, s.lastCall = some call → call.returned = false → s.module = call.before

def Subclass.switch (sub : Subclass σ α) (isEnabled : Bool) : σ → α → σ × Bool :=
  if isEnabled then sub.enable else sub.disable

-- A call that asks for a change gets it from the subclass.
def switches (sub : Subclass σ α) (s : Session σ) (request : Request α) : Prop :=
  s.module.isEnabled ≠ request.isEnabled →
    (sub.switch request.isEnabled s.module.switched request.answer).2 = true

theorem set_enabled_cases (sub : Subclass σ α) (m : DevToolsModule σ) (isEnabled : Bool) (answer : α) :
    (m.isEnabled = isEnabled ∧ m.setEnabled sub isEnabled answer = (m, true)) ∨
    (m.isEnabled = (!isEnabled) ∧ m.setEnabled sub isEnabled answer =
      let (switched, done) := sub.switch isEnabled m.switched answer
      (⟨if done then isEnabled else !isEnabled, isEnabled, switched⟩, done)) := by
  unfold DevToolsModule.setEnabled
  by_cases same : m.isEnabled = isEnabled
  · exact .inl ⟨same, if_pos same⟩
  · right
    rw [if_neg same]
    cases isEnabled with
    | true =>
        refine ⟨by simpa using same, ?_⟩
        cases done : (sub.enable m.switched answer).2 <;> simp [Subclass.switch, done]
    | false =>
        refine ⟨by simpa using same, ?_⟩
        cases done : (sub.disable m.switched answer).2 <;> simp [Subclass.switch, done]

-- What SetEnabled returns is right whatever the subclass does.
theorem set_enabled_returns (sub : Subclass σ α) (m : DevToolsModule σ) (isEnabled : Bool) (answer : α) :
    (m.setEnabled sub isEnabled answer).2 = true ↔ (m.setEnabled sub isEnabled answer).1.isEnabled = isEnabled := by
  obtain ⟨same, kept⟩ | ⟨_, switched⟩ := set_enabled_cases sub m isEnabled answer
  · simp [kept, same]
  · rw [switched]
    cases done : (sub.switch isEnabled m.switched answer).2 <;> simp [done]

theorem set_enabled_manager (sub : Subclass σ α) (m : DevToolsModule σ) (isEnabled : Bool) (answer : α)
    (manager : m.connectionManagerEnabled = m.isEnabled) :
    (m.setEnabled sub isEnabled answer).1.connectionManagerEnabled = isEnabled := by
  obtain ⟨same, kept⟩ | ⟨_, switched⟩ := set_enabled_cases sub m isEnabled answer
  · rw [kept, manager, same]
  · rw [switched]

theorem set_enabled_succeeds (sub : Subclass σ α) (s : Session σ) (request : Request α) :
    (s.module.setEnabled sub request.isEnabled request.answer).2 = true ↔ switches sub s request := by
  obtain ⟨same, kept⟩ | ⟨different, switched⟩ :=
    set_enabled_cases sub s.module request.isEnabled request.answer
  · simp [kept, switches, same]
  · rw [switched]
    simp [switches, different]

theorem initial_whole (switched : σ) : Session.Whole ⟨DevToolsModule.initial switched, none⟩ :=
  ⟨Iff.rfl, by simp, by simp⟩

theorem call_whole (sub : Subclass σ α) (s : Session σ) (request : Request α) (whole : s.Whole) :
    (s.call sub request).Whole ↔ switches sub s request := by
  have manager : s.module.connectionManagerEnabled = s.module.isEnabled := by
    rw [Bool.eq_iff_iff]
    exact whole.manager
  have managed := set_enabled_manager sub s.module request.isEnabled request.answer manager
  have returns := set_enabled_returns sub s.module request.isEnabled request.answer
  rw [← set_enabled_succeeds, returns]
  constructor
  · intro after
    refine Eq.trans ?_ managed
    rw [Bool.eq_iff_iff]
    exact after.manager.symm
  · intro done
    refine ⟨?_, ?_, ?_⟩
    · have agree : (s.call sub request).module.connectionManagerEnabled = (s.call sub request).module.isEnabled :=
        managed.trans done.symm
      rw [agree]
    · intro call last
      cases last
      exact returns
    · intro call last failed
      cases last
      exact absurd (returns.mpr done) (by simpa using failed)

theorem enabled_as_a_whole (sub : Subclass σ α) (switched : σ) (requests : List (Request α)) :
    Meets (session sub switched) (switches sub) (session sub switched).init requests ↔
      Always (session sub switched) Session.Whole (session sub switched).init requests := by
  refine keeps_iff_always (session sub switched) (switches sub) Session.Whole (initial_whole switched) ?_ requests
  intro s request t _ whole next
  cases next
  exact call_whole sub s request whole

-- A refused enabling leaves the connection manager enabled.
theorem refused_module_stays_connected :
    ¬ ∀ s, Reachable (session profilingModule .initial) s → s.Whole := by
  intro claimed
  obtain ⟨s, reach, found⟩ := exec_finds (session profilingModule .initial) [⟨true, false⟩]
    (fun s => s.module.connectionManagerEnabled && !s.module.isEnabled) (by decide)
  obtain ⟨connected, disabled⟩ := Bool.and_eq_true_iff.mp found
  rw [(claimed s reach).manager.mp connected] at disabled
  cases disabled

theorem default_module_whole (s : Session Unit) (reach : Reachable (session defaultModule ()) s) : s.Whole := by
  refine reachable_invariant (session defaultModule ()) Session.Whole (initial_whole ()) ?_ s reach
  intro s request t whole next
  cases next
  refine (call_whole defaultModule s request whole).mpr fun _ => ?_
  cases request.isEnabled <;> rfl

theorem driver_switch (setterName : String) (feature : DriverFeature) (isEnabled : Bool) (d : DriverUtils)
    (accepted : Bool) : (driverModule setterName feature).switch isEnabled d accepted =
      d.setFeature feature (if isEnabled then .enable else .ignore) setterName accepted := by
  cases isEnabled <;> rfl

-- The driver and the module never part: a refusal is kept by both.
theorem driver_follows_module (setterName : String) (feature : DriverFeature) (s : Session DriverUtils)
    (reach : Reachable (session (driverModule setterName feature) .initial) s) :
    s.module.switched.flags setterName feature = .enable ↔ s.module.isEnabled = true := by
  refine reachable_invariant (session (driverModule setterName feature) .initial)
    (fun s => s.module.switched.flags setterName feature = .enable ↔ s.module.isEnabled = true) ?_ ?_ s reach
  · simp [session, DevToolsModule.initial, DriverUtils.initial]
  · intro s request t follows next
    cases next
    rw [Session.call]
    obtain ⟨_, kept⟩ | ⟨different, switched⟩ :=
      set_enabled_cases (driverModule setterName feature) s.module request.isEnabled request.answer
    · rw [kept]
      exact follows
    · rw [switched, driver_switch]
      cases accepted : request.answer with
      | true => cases request.isEnabled <;> simp [DriverUtils.setFeature]
      | false =>
          rw [different] at follows
          simpa [DriverUtils.setFeature] using follows

end RadeonPanel.Modules

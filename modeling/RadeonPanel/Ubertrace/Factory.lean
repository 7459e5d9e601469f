import RadeonPanel.Base.History
import RadeonPanel.Ubertrace.Connection

set_option autoImplicit false

namespace RadeonPanel.Ubertrace

open Interleaving

-- The driver's interface object by its identity, and one connection of it.
structure OrchestratorKey where
  ubertraceApi : Nat
  umdConnectionId : UInt64
deriving DecidableEq, Repr

-- An orchestrator stays in the map once it is there, also when all its users are gone.
structure UbertraceUserFactory where
  orchestrators : OrchestratorKey → Option State
  features : Option UbertraceFeatures

def UbertraceUserFactory.initial : UbertraceUserFactory := ⟨fun _ => none, none⟩

def UbertraceUserFactory.orchestrator (f : UbertraceUserFactory) (key : OrchestratorKey) : State :=
  (f.orchestrators key).getD (.initial (f.features.getD .default))

def UbertraceUserFactory.getUser (f : UbertraceUserFactory) (key : OrchestratorKey) :
    UbertraceUserFactory × UbertraceUserId :=
  let s := f.orchestrator key
  let orch := s.orch.getNewUser
  ({ f with orchestrators := Function.update f.orchestrators key (some { s with orch := orch }) }, orch.currentUserId)

def UbertraceUserFactory.setUbertraceFeatures (f : UbertraceUserFactory) (features : UbertraceFeatures) :
    UbertraceUserFactory :=
  { f with features := some features }

inductive FactoryAction where
  | getUser (key : OrchestratorKey)
  | setUbertraceFeatures (features : UbertraceFeatures)
  | orchestrator (key : OrchestratorKey) (action : Action)
deriving DecidableEq, Repr

def factoryStep (f : UbertraceUserFactory) : FactoryAction → Option UbertraceUserFactory
  | .getUser key => some (f.getUser key).1
  | .setUbertraceFeatures features => some (f.setUbertraceFeatures features)
  | .orchestrator key action =>
      (f.orchestrators key).bind fun s => (step s action).map fun t =>
        { f with orchestrators := Function.update f.orchestrators key (some t) }

def factory : Machine UbertraceUserFactory FactoryAction := ⟨.initial, factoryStep⟩

-- What every step inside an orchestrator has to meet, asked of the factory's steps.
def insideOrchestrator (allowed : State → Action → Bool) (f : UbertraceUserFactory) : FactoryAction → Bool
  | .orchestrator key action => (f.orchestrators key).all fun s => allowed s action
  | _ => true

-- Each orchestrator of the factory has only gone through runs of its own.
theorem factory_projects (allowed : State → Action → Bool) (getsUsers : ∀ s, allowed s .getNewUser = true)
    (f : UbertraceUserFactory) (reach : Reach factory (fun f a => insideOrchestrator allowed f a = true) f)
    (key : OrchestratorKey) (s : State) (present : f.orchestrators key = some s) :
    ∃ features, Reach (ubertrace features) (fun s a => allowed s a = true) s := by
  induction reach generalizing key s with
  | init => cases present
  | step f t a before meets next ih =>
      cases a with
      | getUser other =>
          cases next
          by_cases same : key = other
          · subst same
            simp only [UbertraceUserFactory.getUser, Function.update_self, Option.some.injEq] at present
            subst present
            cases known : f.orchestrators key with
            | none =>
                refine ⟨f.features.getD .default, .step _ _ .getNewUser .init (getsUsers _) ?_⟩
                rw [UbertraceUserFactory.orchestrator, known]
                rfl
            | some s =>
                obtain ⟨features, reached⟩ := ih key s known
                refine ⟨features, .step s _ .getNewUser reached (getsUsers s) ?_⟩
                rw [UbertraceUserFactory.orchestrator, known]
                rfl
          · simp only [UbertraceUserFactory.getUser, Function.update_of_ne same] at present
            exact ih key s present
      | setUbertraceFeatures features =>
          cases next
          exact ih key s present
      | orchestrator other action =>
          obtain ⟨old, known, stepped⟩ := Option.bind_eq_some_iff.mp next
          obtain ⟨new, taken, rfl⟩ := Option.map_eq_some_iff.mp stepped
          by_cases same : key = other
          · subst same
            simp only [Function.update_self, Option.some.injEq] at present
            subst present
            obtain ⟨features, reached⟩ := ih key old known
            have allows : allowed old action = true := by simpa [insideOrchestrator, known] using meets
            exact ⟨features, .step old new action reached allows taken⟩
          · simp only [Function.update_of_ne same] at present
            exact ih key s present

-- Whether tracing has been enabled since the newest attempt to connect.
def enabledSinceConnect : List Event → Bool
  | [] => false
  | .driverEnableTracing .success :: _ => true
  | .driverConnect _ :: _ => false
  | _ :: older => enabledSinceConnect older

def EnabledAtSuccess : List Event → Prop :=
  AtEach fun event older => ∀ user, event = .returned (.initializeUser user true) .success →
    enabledSinceConnect older = true

-- The driver connects only an orchestrator that has not enabled tracing before.
def connectsBeforeEnabling (s : State) : Action → Bool
  | .caller id (.driver _) =>
      match s.callers id with
      | .initializeUser _ _ .doInit => !s.orch.enabledTracing
      | _ => true
  | _ => true

structure State.TracingEnabled (s : State) : Prop where
  now : s.orch.enabledTracing = true → enabledSinceConnect s.log = true
  past : EnabledAtSuccess s.log

theorem enabled_elsewhere (events log : List Event)
    (elsewhere : ∀ event ∈ events, event.operation ≠ some .initializeUser) :
    enabledSinceConnect (events ++ log) = enabledSinceConnect log := by
  induction events with
  | nil => rfl
  | cons event rest ih =>
      have here := elsewhere event List.mem_cons_self
      have later := ih fun other member => elsewhere other (List.mem_cons_of_mem _ member)
      cases event with
      | driverConnect _ | driverEnableTracing _ => exact absurd rfl here
      | _ => exact later

theorem enabled_elsewhere_step (s t : State) (events : List Event) (enabled : s.TracingEnabled)
    (same : t.orch.enabledTracing = s.orch.enabledTracing) (log : t.log = events ++ s.log)
    (elsewhere : ∀ event ∈ events, event.operation ≠ some .initializeUser) : t.TracingEnabled := by
  refine ⟨?_, ?_⟩
  · rw [same, log, enabled_elsewhere events s.log elsewhere]
    exact enabled.now
  · rw [log]
    refine at_each_append _ events s.log (fun event member older user isSuccess => ?_) enabled.past
    exact absurd (isSuccess ▸ rfl) (elsewhere event member)

theorem initialize_enabled (o : UbertraceOrchestrator) (free enable : Bool) (user : UbertraceUserId)
    (pc : InitializePc) (answer : Answer) (e : Effect InitializePc) (log : List Event)
    (next : initializeStep o free user enable pc answer = some e)
    (connects : pc = .doInit → o.enabledTracing = false)
    (now : o.enabledTracing = true → enabledSinceConnect log = true) (past : EnabledAtSuccess log) :
    (e.orch.enabledTracing = true → enabledSinceConnect (e.events ++ log) = true) ∧
      EnabledAtSuccess (e.events ++ log) := by
  revert next
  fun_cases initializeStep o free user enable pc answer
  all_goals intro next
  all_goals cases next
  case case2 => exact ⟨now, by simp, past⟩
  case case3 | case4 => exact ⟨now, past⟩
  case case5 | case6 =>
    have disabled := connects rfl
    refine ⟨fun enabled => ?_, by first | exact ⟨by simp, by simp, past⟩ | exact ⟨by simp, past⟩⟩
    exact absurd enabled (by simpa using disabled)
  case case7 needless =>
    refine ⟨now, fun other same => ?_, past⟩
    cases same
    exact now (by simpa using needless)
  case case10 needed refused =>
    refine ⟨fun enabled => ?_, by simp, by simp, past⟩
    have disabled : o.enabledTracing = false := by simp_all
    exact absurd enabled (by simpa using disabled)
  case case11 accepted =>
    rw [not_not.mp accepted]
    exact ⟨fun _ => rfl, fun _ _ => rfl, by simp, past⟩

theorem tracing_enabled_step (s t : State) (a : Action) (enabled : s.TracingEnabled)
    (allowed : connectsBeforeEnabling s a = true) (next : step s a = some t) : t.TracingEnabled := by
  rcases step_cases s t a next with ⟨_, rfl⟩ | ⟨id, call, _, _, rfl⟩ |
    ⟨id, answer, e, rfl, effect, rfl⟩ | ⟨id, answer, e, _, effect, rfl⟩
  · exact ⟨enabled.now, enabled.past⟩
  · exact ⟨enabled.now, enabled.past⟩
  · have footprint := caller_footprint _ _ _ _ _ _ _ _ effect
    by_cases here : (s.callers id).operation = some .initializeUser
    · unfold State.callerEffect at effect
      cases at_ : s.callers id with
      | initializeUser user enable pc =>
          rw [at_] at effect
          obtain ⟨inner, inside, rfl⟩ := Option.map_eq_some_iff.mp effect
          have connects : pc = .doInit → s.orch.enabledTracing = false := by
            rintro rfl
            cases answer with
            | driver result => simpa [connectsBeforeEnabling, at_] using allowed
            | _ => cases inside
          obtain ⟨now, past⟩ := initialize_enabled s.orch s.free enable user pc answer inner s.log inside connects
            enabled.now enabled.past
          exact ⟨now, past⟩
      | _ => simp [at_, CallerPc.operation] at here
    · refine enabled_elsewhere_step s _ e.events enabled (footprint.enabledTracing here) rfl fun event member => ?_
      rw [footprint.events event member]
      exact here
  · have footprint := poller_footprint _ _ _ _ _ (poller_moves _ _ _ _ _ _ effect)
    refine enabled_elsewhere_step s _ e.events enabled footprint.enabledTracing rfl fun event member => ?_
    obtain ofThread | ⟨capture, rfl⟩ := footprint.events event member
    · rw [ofThread]
      simp
    · simp [Event.operation]

theorem reach_tracing_enabled (features : UbertraceFeatures) (s : State)
    (reach : Reach (ubertrace features) (fun s a => connectsBeforeEnabling s a = true) s) : s.TracingEnabled :=
  reach_invariant (ubertrace features) _ State.TracingEnabled ⟨nofun, trivial⟩
    (fun s a t _ enabled allowed next => tracing_enabled_step s t a enabled allowed next) s reach

-- Over all users that the factory has handed out for a connection.
theorem enabled_means_enabled_now (f : UbertraceUserFactory)
    (reach : Reach factory (fun f a => insideOrchestrator connectsBeforeEnabling f a = true) f)
    (key : OrchestratorKey) (s : State) (present : f.orchestrators key = some s) : EnabledAtSuccess s.log := by
  obtain ⟨features, reached⟩ := factory_projects connectsBeforeEnabling (fun _ => rfl) f reach key s present
  exact (reach_tracing_enabled features s reached).past

def onlyKey : OrchestratorKey := ⟨0, 1⟩

def withinKey (actions : List Action) : List FactoryAction := actions.map (.orchestrator onlyKey)

-- The user the factory hands out initialises, disconnects, and a second one follows.
def connectTwice (second : List Action) : List FactoryAction :=
  .getUser onlyKey :: withinKey (connects 0 1) ++ withinKey (disconnects 0 1) ++ .getUser onlyKey :: withinKey second

theorem first_connection_enabled : ∃ f s,
    Reach factory (fun f a => insideOrchestrator connectsBeforeEnabling f a = true) f ∧
    f.orchestrators onlyKey = some s ∧ s.log.head? = some (.returned (.initializeUser 2 true) .success) ∧
    EnabledAtSuccess s.log := by
  obtain ⟨f, reach, found⟩ := exec_if_finds factory (insideOrchestrator connectsBeforeEnabling)
    (.getUser onlyKey :: withinKey (connects 0 1) ++ .getUser onlyKey :: withinKey (joins 0 2))
    (fun f => (f.orchestrators onlyKey).any fun s =>
      s.log.head? = some (.returned (.initializeUser 2 true) .success)) (by decide)
  obtain ⟨s, present, newest⟩ := (Option.any_eq_true _ _).mp found
  exact ⟨f, s, reach, present, by simpa using newest, enabled_means_enabled_now f reach onlyKey s present⟩

-- Connected again, the orchestrator still takes tracing for enabled.
theorem reconnect_skips_enabling : ∃ f s, Reachable factory f ∧ f.orchestrators onlyKey = some s ∧
    ¬ EnabledAtSuccess s.log := by
  obtain ⟨f, reach, found⟩ := exec_finds factory
    (connectTwice [.call 0 (.initializeUser 2 true), .caller 0 .go, .caller 0 (.driver .success), .caller 0 .go])
    (fun f => (f.orchestrators onlyKey).any fun s =>
      s.log.head? = some (.returned (.initializeUser 2 true) .success) ∧ enabledSinceConnect s.log.tail = false)
    (by decide)
  obtain ⟨s, present, shows⟩ := (Option.any_eq_true _ _).mp found
  obtain ⟨succeeds, notEnabled⟩ : s.log.head? = some (.returned (.initializeUser 2 true) .success) ∧
      enabledSinceConnect s.log.tail = false := by simpa using shows
  refine ⟨f, s, reach, present, fun enabled => ?_⟩
  rw [← List.cons_head?_tail succeeds] at enabled
  have now := enabled.1 2 rfl
  rw [notEnabled] at now
  cases now

end RadeonPanel.Ubertrace

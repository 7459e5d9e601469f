import RadeonPanel.Ubertrace.System

set_option autoImplicit false

namespace RadeonPanel.Ubertrace

open UbertraceOrchestrator

inductive Operation where
  | initializeUser
  | disconnect
  | addPreliminarySources
  | addEarlyConfiguration
  | handleDriverState
  | requestAbortTrace
  | prepareForDelayedCapture
  | requestBeginTrace
  | setUserIsDisabled
deriving DecidableEq, Repr

def Call.operation : Call → Operation
  | .initializeUser _ _ => .initializeUser
  | .disconnect _ => .disconnect
  | .addPreliminarySources _ => .addPreliminarySources
  | .addEarlyConfiguration _ => .addEarlyConfiguration
  | .handleDriverState _ _ => .handleDriverState
  | .requestAbortTrace _ => .requestAbortTrace
  | .prepareForDelayedCapture _ => .prepareForDelayedCapture
  | .requestBeginTrace _ _ => .requestBeginTrace
  | .setUserIsDisabled _ _ => .setUserIsDisabled

def CallerPc.operation : CallerPc → Option Operation
  | .outside => none
  | .initializeUser _ _ _ => some .initializeUser
  | .disconnect _ _ => some .disconnect
  | .handleDriverState _ _ _ => some .handleDriverState
  | .requestAbortTrace _ _ => some .requestAbortTrace
  | .requestBeginTrace _ _ _ => some .requestBeginTrace
  | .addPreliminarySources _ => some .addPreliminarySources
  | .addEarlyConfiguration _ => some .addEarlyConfiguration
  | .prepareForDelayedCapture _ => some .prepareForDelayedCapture
  | .setUserIsDisabled _ _ => some .setUserIsDisabled

def FlagWriter.operation : FlagWriter → Option Operation
  | .requestBeginTrace _ => some .requestBeginTrace
  | .requestAbortTrace _ => some .requestAbortTrace
  | .disconnect _ => some .disconnect
  | .initial | .collected => none

-- Which call an event belongs to, none for those of a polling thread. The hook
-- that ends a capture is called by both.
def Event.operation : Event → Option Operation
  | .returned call _ => some call.operation
  | .threw call => some call.operation
  | .disconnected _ => some .disconnect
  | .driverConnect _ => some .initializeUser
  | .driverEnableTracing _ => some .initializeUser
  | .driverDisconnect => some .disconnect
  | .sourcesAdded _ => some .addPreliminarySources
  | .paramsAdded _ => some .addEarlyConfiguration
  | .reachedPostDeviceInit _ => some .handleDriverState
  | .preliminaryConfigured _ _ => some .handleDriverState
  | .storedPollFlag writer _ => writer.operation
  | .tracingStarted _ => some .requestBeginTrace
  | .tracingEnded _ => some .requestBeginTrace
  | .collected _ _ _ | .loopLeft _ _ _ | .delivered _ _ | .finished _ _ => none

-- Which calls may write which part of the orchestrator.
structure Footprint (o : UbertraceOrchestrator) (operation : Option Operation) (next : UbertraceOrchestrator)
    (events : List Event) : Prop where
  features : next.features = o.features
  disabledUsers : operation ≠ some .setUserIsDisabled → next.disabledUsers = o.disabledUsers
  sources : operation ≠ some .addPreliminarySources → operation ≠ some .handleDriverState →
    next.preliminarySources = o.preliminarySources
  params : operation ≠ some .addEarlyConfiguration → operation ≠ some .handleDriverState →
    next.preliminaryGlobalParams = o.preliminaryGlobalParams
  users : operation ≠ some .initializeUser → operation ≠ some .disconnect →
    next.initializedUsers = o.initializedUsers
  enabledTracing : operation ≠ some .initializeUser → next.enabledTracing = o.enabledTracing
  polling : operation ≠ some .disconnect → operation ≠ some .requestAbortTrace →
    operation ≠ some .requestBeginTrace → next.shouldPollForTrace = o.shouldPollForTrace
  events : ∀ event ∈ events, event.operation = operation

theorem initialize_footprint (o : UbertraceOrchestrator) (free enable : Bool) (user : UbertraceUserId)
    (pc : InitializePc) (answer : Answer) (e : Effect InitializePc)
    (next : initializeStep o free user enable pc answer = some e) :
    Footprint o (some .initializeUser) e.orch e.events := by
  revert next
  fun_cases initializeStep o free user enable pc answer
  all_goals intro next
  all_goals cases next
  all_goals constructor
  all_goals first | (intros; rfl) | (intros; contradiction) | simp [Event.operation, Call.operation]

theorem disconnect_footprint (o : UbertraceOrchestrator) (free joined : Bool) (user : UbertraceUserId)
    (pc : DisconnectPc) (answer : Answer) (e : Effect DisconnectPc)
    (next : disconnectStep o free joined user pc answer = some e) :
    Footprint o (some .disconnect) e.orch e.events := by
  revert next
  fun_cases disconnectStep o free joined user pc answer
  all_goals intro next
  all_goals cases next
  all_goals constructor
  all_goals first | (intros; rfl) | (intros; contradiction) | simp [Event.operation, FlagWriter.operation]

theorem handle_driver_state_footprint (o : UbertraceOrchestrator) (free : Bool) (user : UbertraceUserId)
    (state : DdDriverState) (pc : HandleDriverStatePc) (answer : Answer) (e : Effect HandleDriverStatePc)
    (next : handleDriverStateStep o free user state pc answer = some e) :
    Footprint o (some .handleDriverState) e.orch e.events := by
  revert next
  fun_cases handleDriverStateStep o free user state pc answer
  all_goals intro next
  all_goals cases next
  all_goals constructor
  all_goals first | (intros; rfl) | (intros; contradiction) | simp [Event.operation, Call.operation]

theorem request_abort_trace_footprint (o : UbertraceOrchestrator) (free : Bool) (user : UbertraceUserId)
    (pc : RequestAbortTracePc) (answer : Answer) (e : Effect RequestAbortTracePc)
    (next : requestAbortTraceStep o free user pc answer = some e) :
    Footprint o (some .requestAbortTrace) e.orch e.events := by
  revert next
  fun_cases requestAbortTraceStep o free user pc answer
  all_goals intro next
  all_goals cases next
  all_goals constructor
  all_goals first | (intros; rfl) | (intros; contradiction) | simp [Event.operation, Call.operation, FlagWriter.operation]

theorem request_begin_trace_footprint (o : UbertraceOrchestrator) (free joined : Bool) (fresh thread : Nat)
    (user : UbertraceUserId) (config : UbertraceCaptureConfig) (pc : RequestBeginTracePc) (answer : Answer)
    (e : Effect RequestBeginTracePc)
    (next : requestBeginTraceStep o free joined fresh thread user config pc answer = some e) :
    Footprint o (some .requestBeginTrace) e.orch e.events := by
  revert next
  fun_cases requestBeginTraceStep o free joined fresh thread user config pc answer
  all_goals intro next
  all_goals cases next
  case case8 =>
    obtain same | ⟨_, same⟩ := reset_waiting_cases o user
    all_goals simp only [same]
    all_goals constructor
    all_goals first | (intros; rfl) | simp [Event.operation, Call.operation]
  all_goals constructor
  all_goals first | (intros; rfl) | (intros; contradiction) | simp [Event.operation, Call.operation, FlagWriter.operation]

theorem prepared_state (o next : UbertraceOrchestrator) (user : UbertraceUserId) (result : Result)
    (prepared : o.prepareForDelayedCapture user = some (next, result)) :
    next = o ∨ o.userState user = some .idle ∧ (o.disabledUsers user).isSome = false ∧
      next = o.setState .waitingToBeginCapture user := by
  obtain ⟨state, here, prepares⟩ := Option.map_eq_some_iff.mp prepared
  by_cases notReady : state ≠ .idle ∨ (o.disabledUsers user).isSome
  · rw [if_pos notReady] at prepares
    cases prepares
    exact .inl rfl
  · rw [if_neg notReady] at prepares
    cases prepares
    obtain ⟨idle, enabled⟩ := not_or.mp notReady
    rw [not_not.mp idle] at here
    exact .inr ⟨here, by simpa using enabled, rfl⟩

theorem caller_footprint (o : UbertraceOrchestrator) (free joined : Bool) (fresh thread : Nat) (pc : CallerPc)
    (answer : Answer) (e : CallerEffect) (next : callerStep o free joined fresh thread pc answer = some e) :
    Footprint o pc.operation e.orch e.events := by
  refine caller_rule o free joined fresh thread (fun pc _ e => Footprint o pc.operation e.orch e.events)
    ?_ ?_ ?_ ?_ ?_ ?_ ?_ ?_ ?_ ?_ pc answer e next
  · exact fun user enable pc answer e inside => initialize_footprint o free enable user pc answer e inside
  · exact fun user pc answer e inside => disconnect_footprint o free joined user pc answer e inside
  · exact fun user state pc answer e inside => handle_driver_state_footprint o free user state pc answer e inside
  · exact fun user pc answer e inside => request_abort_trace_footprint o free user pc answer e inside
  · exact fun user config pc answer e inside =>
      request_begin_trace_footprint o free joined fresh thread user config pc answer e inside
  · intro sources _
    constructor
    all_goals first | (intros; rfl) | (intros; contradiction) | simp [Event.operation, CallerPc.operation]
  · intro params
    cases params
    all_goals constructor
    all_goals first | (intros; rfl) | (intros; contradiction) | simp [Event.operation, CallerPc.operation]
  · intro user _ _
    constructor
    all_goals first | (intros; rfl) | simp [Event.operation, Call.operation, CallerPc.operation]
  · intro user next result _ prepared
    obtain same | ⟨_, _, same⟩ := prepared_state o next user result prepared
    all_goals simp only [same]
    all_goals constructor
    all_goals first | (intros; rfl) | simp [Event.operation, Call.operation, CallerPc.operation]
  · intro user disabled _
    constructor
    all_goals first | (intros; rfl) | (intros; contradiction)

theorem caller_inside (o : UbertraceOrchestrator) (free joined : Bool) (fresh thread : Nat) (pc : CallerPc)
    (answer : Answer) (e : CallerEffect) (next : callerStep o free joined fresh thread pc answer = some e) :
    pc.operation ≠ none := by
  cases pc with
  | outside => cases next
  | _ => simp [CallerPc.operation]

-- Nothing a polling thread reports comes from a call.
theorem caller_event_operation (o : UbertraceOrchestrator) (free joined : Bool) (fresh thread : Nat) (pc : CallerPc)
    (answer : Answer) (e : CallerEffect) (next : callerStep o free joined fresh thread pc answer = some e)
    (event : Event) (ofThread : event.operation = none) : event ∉ e.events := by
  intro member
  have operation := (caller_footprint o free joined fresh thread pc answer e next).events event member
  exact caller_inside o free joined fresh thread pc answer e next (operation.symm.trans ofThread)

theorem in_call_operation {π : Type} (e : Effect π) (into : π → CallerPc) (operation : Option Operation)
    (agree : ∀ pc, (into pc).operation = operation) :
    (e.inCall into).pc = .outside ∨ (e.inCall into).pc.operation = operation := by
  cases nextEq : e.next with
  | none => exact .inl (by simp only [Effect.inCall, nextEq, Option.elim_none])
  | some pc => exact .inr (by simp only [Effect.inCall, nextEq, Option.elim_some, agree])

theorem caller_keeps_operation (o : UbertraceOrchestrator) (free joined : Bool) (fresh thread : Nat) (pc : CallerPc)
    (answer : Answer) (e : CallerEffect) (next : callerStep o free joined fresh thread pc answer = some e) :
    e.pc = .outside ∨ e.pc.operation = pc.operation :=
  caller_rule o free joined fresh thread (fun pc _ e => e.pc = .outside ∨ e.pc.operation = pc.operation)
    (fun _ _ _ _ e _ => in_call_operation e _ _ fun _ => rfl) (fun _ _ _ e _ => in_call_operation e _ _ fun _ => rfl)
    (fun _ _ _ _ e _ => in_call_operation e _ _ fun _ => rfl) (fun _ _ _ e _ => in_call_operation e _ _ fun _ => rfl)
    (fun _ _ _ _ e _ => in_call_operation e _ _ fun _ => rfl) (fun _ _ => .inl rfl) (fun _ => .inl rfl)
    (fun _ _ _ => .inl rfl) (fun _ _ _ _ _ => .inl rfl) (fun _ _ _ => .inl rfl) pc answer e next

structure PollerFootprint (o next : UbertraceOrchestrator) (events : List Event) : Prop where
  features : next.features = o.features
  sources : next.preliminarySources = o.preliminarySources
  params : next.preliminaryGlobalParams = o.preliminaryGlobalParams
  users : next.initializedUsers = o.initializedUsers
  enabledTracing : next.enabledTracing = o.enabledTracing
  events : ∀ event ∈ events, event.operation = none ∨ ∃ capture, event = .tracingEnded capture

theorem poller_footprint (o : UbertraceOrchestrator) (free : Bool) (thread : Nat) (p : Poller)
    (e : PollerEffect) (move : PollerMove o free thread p e) : PollerFootprint o e.orch e.events := by
  cases move with
  | complete user collected here =>
      by_cases oneShot : p.config.isAutoCapture = true
      · simp only [if_pos oneShot]
        exact ⟨rfl, rfl, rfl, rfl, rfl, by simp⟩
      · simp only [if_neg oneShot]
        exact ⟨rfl, rfl, rfl, rfl, rfl, by simp⟩
  | _ => exact ⟨rfl, rfl, rfl, rfl, rfl, by simp [Event.operation, FlagWriter.operation]⟩

theorem features_step (s t : State) (a : Action) (next : step s a = some t) :
    t.orch.features = s.orch.features := by
  rcases step_cases s t a next with ⟨_, rfl⟩ | ⟨id, call, _, _, rfl⟩ |
    ⟨id, answer, e, _, effect, rfl⟩ | ⟨id, answer, e, _, effect, rfl⟩
  · rfl
  · rfl
  · exact (caller_footprint _ _ _ _ _ _ _ _ effect).features
  · exact (poller_footprint _ _ _ _ _ (poller_moves _ _ _ _ _ _ effect)).features

theorem reachable_features (features : UbertraceFeatures) (s : State)
    (reach : Interleaving.Reachable (ubertrace features) s) : s.orch.features = features :=
  Interleaving.reachable_invariant (ubertrace features) (fun s => s.orch.features = features) rfl
    (fun s a t same next => (features_step s t a next).trans same) s reach

end RadeonPanel.Ubertrace

import RadeonPanel.Ubertrace.Outcome

set_option autoImplicit false

namespace RadeonPanel.Ubertrace

open Interleaving

namespace UbertraceOrchestrator

-- The calls that keep the mutex from their first test to their return, as one function.
def handleDriverState (o : UbertraceOrchestrator) (user : UbertraceUserId) (state : DdDriverState)
    (answer : ConfigAnswer) : UbertraceOrchestrator × Result :=
  if state.value ≤ (o.latestDriverStates user).value then (o, .success)
  else if state ≠ .postDeviceInit then (o.setDriverState user state, .success)
  else ((o.setDriverState user state).dropPreliminary, updateConfiguration answer)

def startPolling (o : UbertraceOrchestrator) (user : UbertraceUserId) (thread : Nat) : UbertraceOrchestrator :=
  { o.setState .capturing user with
    shouldPollForTrace := true, capturingUser := user, tracePollingThread := some thread }

def requestBeginTrace (o : UbertraceOrchestrator) (user : UbertraceUserId) (thread : Nat)
    (configured : ConfigAnswer) (requested : DdResult) : Option (UbertraceOrchestrator × Result) :=
  (o.isReadyForCapture user).map fun ready =>
    if !ready then (o, .notReady)
    else if updateConfiguration configured ≠ .success then
      (o.setState .error invalidUbertraceUserId, updateConfiguration configured)
    else if requested ≠ .success then (o.resetWaiting user, .failure)
    else (o.startPolling user thread, .success)

end UbertraceOrchestrator

-- A call from where it is to its return, with nobody in between: what it leaves
-- and its last event. `answers` is what the outside says at each place.
def complete {π : Type} (call : UbertraceOrchestrator → π → Answer → Option (Effect π)) (answers : π → Answer) :
    Nat → UbertraceOrchestrator → π → Option (UbertraceOrchestrator × Option Event)
  | 0, _, _ => none
  | fuel + 1, o, pc =>
      (call o pc (answers pc)).bind fun e =>
        match e.next with
        | none => some (e.orch, e.events.head?)
        | some next => complete call answers fuel e.orch next

-- The two calls with the mutex free and the previous thread exited.
def handleDriverStateAlone (user : UbertraceUserId) (state : DdDriverState) (o : UbertraceOrchestrator) :
    HandleDriverStatePc → Answer → Option (Effect HandleDriverStatePc) :=
  handleDriverStateStep o true user state

def requestBeginTraceAlone (fresh thread : Nat) (user : UbertraceUserId) (config : UbertraceCaptureConfig)
    (o : UbertraceOrchestrator) : RequestBeginTracePc → Answer → Option (Effect RequestBeginTracePc) :=
  requestBeginTraceStep o true true fresh thread user config

def configures (answer : ConfigAnswer) : HandleDriverStatePc → Answer
  | .lock => .go
  | .configure _ => .config answer

def requests (configured : ConfigAnswer) (requested : DdResult) : RequestBeginTracePc → Answer
  | .configure => .config configured
  | .request _ => .driver requested
  | _ => .go

theorem handle_driver_state_completes (o : UbertraceOrchestrator) (user : UbertraceUserId) (state : DdDriverState)
    (answer : ConfigAnswer) :
    complete (handleDriverStateAlone user state) (configures answer) 2 o .lock =
      some ((o.handleDriverState user state answer).1,
        some (.returned (.handleDriverState user state) (o.handleDriverState user state answer).2)) := by
  unfold UbertraceOrchestrator.handleDriverState
  by_cases known : state.value ≤ (o.latestDriverStates user).value
  · rw [if_pos known]
    simp [complete, configures, handleDriverStateAlone, handleDriverStateStep, known]
  · rw [if_neg known]
    by_cases early : state ≠ .postDeviceInit
    · rw [if_pos early]
      simp [complete, configures, handleDriverStateAlone, handleDriverStateStep, known, early]
    · rw [if_neg early]
      simp [complete, configures, handleDriverStateAlone, handleDriverStateStep, known, early]

theorem complete_goes_on {π : Type} (call : UbertraceOrchestrator → π → Answer → Option (Effect π))
    (answers : π → Answer) (fuel : Nat) (o : UbertraceOrchestrator) (pc next : π) (e : Effect π)
    (taken : call o pc (answers pc) = some e) (goesOn : e.next = some next) :
    complete call answers (fuel + 1) o pc = complete call answers fuel e.orch next := by
  rw [complete, taken, Option.bind_some, goesOn]

theorem complete_returns {π : Type} (call : UbertraceOrchestrator → π → Answer → Option (Effect π))
    (answers : π → Answer) (fuel : Nat) (o : UbertraceOrchestrator) (pc : π) (e : Effect π)
    (taken : call o pc (answers pc) = some e) (returns : e.next = none) :
    complete call answers (fuel + 1) o pc = some (e.orch, e.events.head?) := by
  rw [complete, taken, Option.bind_some, returns]

section

variable (o : UbertraceOrchestrator) (fresh thread : Nat) (user : UbertraceUserId) (config : UbertraceCaptureConfig)
  (configured : ConfigAnswer) (requested : DdResult)

-- Nothing fails once the driver has accepted the request.
theorem accepted_request_completes (capture : Nat) :
    complete (requestBeginTraceAlone fresh thread user config) (requests configured requested) 5 o (.join capture) =
      some (o.startPolling user thread, some (.returned (.requestBeginTrace user config) .success)) := rfl

theorem request_begin_trace_completes :
    complete (requestBeginTraceAlone fresh thread user config) (requests configured requested) 9 o .lock =
      match o.requestBeginTrace user thread configured requested with
      | some (after, result) => some (after, some (.returned (.requestBeginTrace user config) result))
      | none => some (o, some (.threw (.requestBeginTrace user config))) := by
  have goesOn := complete_goes_on (requestBeginTraceAlone fresh thread user config) (requests configured requested)
  have returns := complete_returns (requestBeginTraceAlone fresh thread user config) (requests configured requested)
  unfold UbertraceOrchestrator.requestBeginTrace
  cases ready : o.isReadyForCapture user with
  | none =>
      have throws : requestBeginTraceAlone fresh thread user config o .lock .go =
          some ⟨o, none, .keep, [.threw (.requestBeginTrace user config)]⟩ := by
        simp [requestBeginTraceAlone, requestBeginTraceStep, ready]
      exact returns 8 o .lock _ throws rfl
  | some isReady =>
      cases isReady with
      | false =>
          have notReady : requestBeginTraceAlone fresh thread user config o .lock .go =
              some ⟨o, none, .keep, [.returned (.requestBeginTrace user config) .notReady]⟩ := by
            simp [requestBeginTraceAlone, requestBeginTraceStep, ready]
          exact returns 8 o .lock _ notReady rfl
      | true =>
          have locks : requestBeginTraceAlone fresh thread user config o .lock .go =
              some ⟨o, some .configure, .acquire, []⟩ := by
            simp [requestBeginTraceAlone, requestBeginTraceStep, ready]
          rw [Option.map_some, Bool.not_true, if_neg Bool.false_ne_true]
          refine (goesOn 8 o .lock .configure _ locks rfl).trans ?_
          by_cases failed : updateConfiguration configured ≠ .success
          · have fails : requestBeginTraceAlone fresh thread user config o .configure (.config configured) =
                some ⟨o.setState .error invalidUbertraceUserId, none, .release,
                  [.returned (.requestBeginTrace user config) (updateConfiguration configured)]⟩ := by
              simp [requestBeginTraceAlone, requestBeginTraceStep, failed]
            rw [if_pos failed]
            exact returns 7 o .configure _ fails rfl
          · have accepts : requestBeginTraceAlone fresh thread user config o .configure (.config configured) =
                some ⟨o, some .started, .keep, []⟩ := by
              simp [requestBeginTraceAlone, requestBeginTraceStep, not_not.mp failed]
            rw [if_neg failed]
            refine (goesOn 7 o .configure .started _ accepts rfl).trans ?_
            refine (goesOn 6 o .started (.request fresh) ⟨o, some (.request fresh), .keep, [.tracingStarted fresh]⟩
              rfl rfl).trans ?_
            by_cases refused : requested ≠ .success
            · have refuses : requestBeginTraceAlone fresh thread user config o (.request fresh) (.driver requested) =
                  some ⟨o.resetWaiting user, none, .release,
                    [.returned (.requestBeginTrace user config) .failure, .tracingEnded fresh]⟩ := by
                simp [requestBeginTraceAlone, requestBeginTraceStep, refused]
              rw [if_pos refused]
              exact returns 5 o (.request fresh) _ refuses rfl
            · have agrees : requestBeginTraceAlone fresh thread user config o (.request fresh) (.driver requested) =
                  some ⟨o, some (.join fresh), .keep, []⟩ := by
                simp [requestBeginTraceAlone, requestBeginTraceStep, not_not.mp refused]
              rw [if_neg refused]
              refine (goesOn 5 o (.request fresh) (.join fresh) _ agrees rfl).trans ?_
              exact accepted_request_completes o fresh thread user config configured requested fresh

end

-- What the client may expect of everybody else: its user starts to wait only in
-- its own `prepareForDelayedCapture`, and a user's entry stays.
def Relies (user : UbertraceUserId) (o next : UbertraceOrchestrator) : Prop :=
  (next.getUserState user = .waitingToBeginCapture → o.getUserState user = .waitingToBeginCapture) ∧
    ((o.userState user).isSome = true → (next.userState user).isSome = true)

instance (user : UbertraceUserId) (o next : UbertraceOrchestrator) : Decidable (Relies user o next) :=
  inferInstanceAs (Decidable (_ ∧ _))

section

variable (user other : UbertraceUserId) (o : UbertraceOrchestrator)

theorem relies_same (next : UbertraceOrchestrator) (same : next.userState = o.userState) : Relies user o next := by
  simp only [Relies, UbertraceOrchestrator.getUserState, same]
  exact ⟨id, id⟩

theorem relies_set (state : ClientState) (settled : state ≠ .waitingToBeginCapture) :
    Relies user o (o.setState state other) := by
  rw [Relies, UbertraceOrchestrator.get_user_state_set, UbertraceOrchestrator.set_state_lookup]
  by_cases same : user = other
  · rw [if_pos same, if_pos same]
    exact ⟨fun waiting => absurd waiting settled, fun _ => rfl⟩
  · rw [if_neg same, if_neg same]
    exact ⟨id, id⟩

theorem relies_touch : Relies user o (o.touchUserState other) := by
  rw [Relies, UbertraceOrchestrator.get_user_state_touch]
  refine ⟨id, fun present => ?_⟩
  simp only [UbertraceOrchestrator.touchUserState, Function.update_apply]
  split
  · rfl
  · exact present

theorem relies_reset : Relies user o (o.resetWaiting other) := by
  obtain same | ⟨_, same⟩ := UbertraceOrchestrator.reset_waiting_cases o other
  · rw [same]
    exact relies_same user o o rfl
  · rw [same]
    exact relies_set user other o .idle nofun

theorem initialize_relies (free enable : Bool) (pc : InitializePc) (answer : Answer) (e : Effect InitializePc)
    (next : initializeStep o free other enable pc answer = some e) : Relies user o e.orch := by
  revert next
  fun_cases initializeStep o free other enable pc answer
  all_goals intro next
  all_goals cases next
  all_goals first
    | exact relies_same user o _ rfl
    | exact relies_touch user other o
    | exact relies_set user other o _ (by simp)

theorem disconnect_relies (free joined : Bool) (pc : DisconnectPc) (answer : Answer) (e : Effect DisconnectPc)
    (next : disconnectStep o free joined other pc answer = some e) : Relies user o e.orch := by
  revert next
  fun_cases disconnectStep o free joined other pc answer
  all_goals intro next
  all_goals cases next
  all_goals first
    | exact relies_same user o _ rfl
    | exact relies_set user invalidUbertraceUserId o _ (by simp)

theorem handle_driver_state_relies (free : Bool) (state : DdDriverState) (pc : HandleDriverStatePc) (answer : Answer)
    (e : Effect HandleDriverStatePc) (next : handleDriverStateStep o free other state pc answer = some e) :
    Relies user o e.orch := by
  revert next
  fun_cases handleDriverStateStep o free other state pc answer
  all_goals intro next
  all_goals cases next
  all_goals exact relies_same user o _ rfl

theorem request_abort_trace_relies (free : Bool) (pc : RequestAbortTracePc) (answer : Answer)
    (e : Effect RequestAbortTracePc) (next : requestAbortTraceStep o free other pc answer = some e) :
    Relies user o e.orch := by
  revert next
  fun_cases requestAbortTraceStep o free other pc answer
  all_goals intro next
  all_goals cases next
  all_goals first
    | exact relies_same user o _ rfl
    | exact relies_set user other o _ (by simp)

theorem request_begin_trace_relies (free joined : Bool) (fresh thread : Nat) (config : UbertraceCaptureConfig)
    (pc : RequestBeginTracePc) (answer : Answer) (e : Effect RequestBeginTracePc)
    (next : requestBeginTraceStep o free joined fresh thread other config pc answer = some e) :
    Relies user o e.orch := by
  revert next
  fun_cases requestBeginTraceStep o free joined fresh thread other config pc answer
  all_goals intro next
  all_goals cases next
  all_goals first
    | exact relies_same user o _ rfl
    | exact relies_reset user other o
    | exact relies_set user other o _ (by simp)
    | exact relies_set user invalidUbertraceUserId o _ (by simp)

theorem poller_relies (free : Bool) (thread : Nat) (p : Poller) (e : PollerEffect)
    (move : PollerMove o free thread p e) : Relies user o e.orch := by
  have final : ClientState.finalState p.config.isAutoCapture ≠ .waitingToBeginCapture := by
    cases p.config.isAutoCapture <;> nofun
  cases move with
  | complete completed collected here =>
      by_cases oneShot : p.config.isAutoCapture = true
      · simp only [if_pos oneShot]
        exact relies_set user completed _ .done nofun
      · simp only [if_neg oneShot]
        exact relies_same user o o rfl
  | completed completed here | handedOver completed here | aborted completed here =>
      exact relies_set user completed o _ final
  | writing here => exact relies_set user _ o .dumping nofun
  | chunksFailed completed here => exact relies_set user completed o .idle nofun
  | postProcess completed here => exact relies_set user completed o .postProcessing nofun
  | abort completed here => exact relies_set user invalidUbertraceUserId o .busy nofun
  | cancelFailed completed here => exact relies_set user completed o .error nofun
  | _ => exact relies_same user o _ rfl

end

theorem caller_relies (user : UbertraceUserId) (o : UbertraceOrchestrator) (free joined : Bool) (fresh thread : Nat)
    (pc : CallerPc) (answer : Answer) (e : CallerEffect) (other : pc ≠ .prepareForDelayedCapture user)
    (next : callerStep o free joined fresh thread pc answer = some e) : Relies user o e.orch := by
  revert other
  refine caller_rule o free joined fresh thread
    (fun pc _ e => pc ≠ .prepareForDelayedCapture user → Relies user o e.orch)
    ?_ ?_ ?_ ?_ ?_ ?_ ?_ ?_ ?_ ?_ pc answer e next
  · exact fun other enable pc answer e inside _ => initialize_relies user other o free enable pc answer e inside
  · exact fun other pc answer e inside _ => disconnect_relies user other o free joined pc answer e inside
  · exact fun other state pc answer e inside _ => handle_driver_state_relies user other o free state pc answer e inside
  · exact fun other pc answer e inside _ => request_abort_trace_relies user other o free pc answer e inside
  · exact fun other config pc answer e inside _ =>
      request_begin_trace_relies user other o free joined fresh thread config pc answer e inside
  · exact fun sources _ _ => relies_same user o _ rfl
  · intro params _
    cases params <;> exact relies_same user o _ rfl
  · exact fun other _ _ _ => relies_same user o o rfl
  · intro other next result _ prepared apart
    obtain same | ⟨_, _, same⟩ := prepared_state o next other result prepared
    · rw [same]
      exact relies_same user o o rfl
    · have different : user ≠ other := by
        rintro rfl
        exact apart rfl
      simp only [same, Relies, UbertraceOrchestrator.get_user_state_set, if_neg different,
        UbertraceOrchestrator.set_state_elsewhere _ _ _ _ different]
      exact ⟨id, id⟩
  · exact fun other disabled _ _ => relies_set user other _ .disabled nofun

-- Every step of the orchestrator's threads is one that the client may expect.
theorem others_relied_on (user : UbertraceUserId) (s t : State) (a : Action) (next : step s a = some t)
    (other : ∀ id answer, a = .caller id answer → s.callers id ≠ .prepareForDelayedCapture user) :
    Relies user s.orch t.orch := by
  rcases step_cases s t a next with ⟨_, rfl⟩ | ⟨id, call, _, _, rfl⟩ |
    ⟨id, answer, e, same, effect, rfl⟩ | ⟨id, answer, e, _, effect, rfl⟩
  · exact relies_same user _ _ rfl
  · exact relies_same user _ _ rfl
  · exact caller_relies user _ _ _ _ _ _ _ _ (other id answer same) effect
  · exact poller_relies user _ _ _ _ _ (poller_moves _ _ _ _ _ _ effect)

end RadeonPanel.Ubertrace

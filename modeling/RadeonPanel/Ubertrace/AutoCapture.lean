import RadeonPanel.Base.Tickets
import RadeonPanel.Ubertrace.Client

set_option autoImplicit false

namespace RadeonPanel.Ubertrace

open Interleaving

structure UbertraceAutoCaptureConfig where
  delayMs : UInt32
  captureMode : UInt32
deriving DecidableEq, Repr

-- What `GenerateCaptureConfig` says and fills in.
structure Generated where
  result : Result
  ubertraceConfig : UberTraceConfig
  onCompleted : Bool

-- What a request of the client meets outside of it. `capture` and `thread` are
-- the numbers its first hook and its polling thread get.
structure RequestAnswers where
  generateCaptureConfig : UInt32 → UberTraceCaptureType → Generated
  configured : ConfigAnswer
  requested : DdResult
  capture : Nat
  thread : Nat

-- Where an auto capture is between `BeginAutoCapture` and its outcome.
inductive AutoCapture where
  | beginning (config : UbertraceAutoCaptureConfig)
  | waiting (config : UbertraceAutoCaptureConfig)
  | polling (p : Poller)
  | done

def AutoCapture.working : AutoCapture → Bool
  | .beginning _ | .waiting _ => true
  | .polling p => !p.pc.settled
  | .done => false

structure UbertraceClient where
  user : UbertraceUserId
  additionalChunkWriter : Bool

-- `connection` is the auto capture that the connection's thread is about to begin,
-- `timer` the one the timer's thread waits for, and `aborting` where a
-- `RequestAbortTrace` of the user is. The reports are those to the client utilities.
structure ClientRun where
  orch : UbertraceOrchestrator
  captures : Tickets AutoCapture Delivery
  connection : Option Nat
  timer : Option Nat
  aborting : Option RequestAbortTracePc

def ClientRun.initial (features : UbertraceFeatures) : ClientRun where
  orch := .new features
  captures := .empty .done
  connection := none
  timer := none
  aborting := none

-- Cancelling joins the timer's thread, so that its callback has returned.
def ClientRun.cancelTimer (s : ClientRun) : ClientRun :=
  match s.timer with
  | none => s
  | some id => { s with captures := s.captures.move id .done [.traceCompleted .aborted ""], timer := none }

-- A timer that still waits is cancelled first.
def ClientRun.startTimer (s : ClientRun) (id : Nat) (config : UbertraceAutoCaptureConfig) : ClientRun :=
  { s.cancelTimer with captures := s.cancelTimer.captures.move id (.waiting config) [], timer := some id }

namespace UbertraceClient

variable (c : UbertraceClient) (s : ClientRun)

def captureConfig (captureType : UberTraceCaptureType) (generated : Generated) : UbertraceCaptureConfig :=
  ⟨captureType, generated.ubertraceConfig, generated.onCompleted, c.additionalChunkWriter⟩

def requestBeginTrace (o : UbertraceOrchestrator) (captureMode : UInt32) (captureType : UberTraceCaptureType)
    (a : RequestAnswers) : Option (UbertraceOrchestrator × Result) :=
  if (a.generateCaptureConfig captureMode captureType).result ≠ .success then
    some (o, (a.generateCaptureConfig captureMode captureType).result)
  else o.requestBeginTrace c.user a.thread a.configured a.requested

-- The request for an auto capture and what its caller reports when it is refused.
-- An exception leaves every caller without a report.
def request (id : Nat) (config : UbertraceAutoCaptureConfig) (captureType : UberTraceCaptureType)
    (refused : List Delivery) (a : RequestAnswers) : ClientRun :=
  match c.requestBeginTrace s.orch config.captureMode captureType a with
  | none => { s with captures := s.captures.move id .done [] }
  | some (o, result) =>
      if result ≠ .success then { s with orch := o, captures := s.captures.move id .done refused }
      else
        { s with
          orch := o
          captures := s.captures.move id (.polling (.start c.user a.capture
            (c.captureConfig captureType (a.generateCaptureConfig config.captureMode captureType)))) [] }

-- `auto` is the answer of `GetAutoCaptureConfig`. The one caller of the source drops the results.
def handleDriverState (state : DdDriverState) (answer : ConfigAnswer) (auto : Option UbertraceAutoCaptureConfig) :
    ClientRun :=
  match s.orch.handleDriverState c.user state answer with
  | (o, result) =>
      if result ≠ .success then { s with orch := o }
      else if state ≠ .postDeviceInit then { s with orch := o }
      else
        match auto with
        | none => { s with orch := o }
        | some config =>
            { s with orch := o, captures := s.captures.begin (.beginning config), connection := some s.captures.begun }

def beginAutoCapture (id : Nat) (config : UbertraceAutoCaptureConfig) (a : RequestAnswers) : ClientRun :=
  if config.delayMs = 0 then c.request s id config .autoCapture [] a
  else
    match s.orch.prepareForDelayedCapture c.user with
    | none => { s with captures := s.captures.move id .done [] }
    | some (o, result) =>
        if result ≠ .success then { s with orch := o, captures := s.captures.move id .done [] }
        else ClientRun.startTimer { s with orch := o } id config

def timerTriggered (id : Nat) (config : UbertraceAutoCaptureConfig) (a : RequestAnswers) : ClientRun :=
  c.request { s with timer := none } id config .delayedAutoCapture [.traceCompleted .error ""] a

end UbertraceClient

-- `others` is any step of anybody else. The client's own steps are those of the
-- connection's thread, the timer's, a capture's and the window's.
inductive ClientAction where
  | others (next : UbertraceOrchestrator)
  | handleDriverState (state : DdDriverState) (answer : ConfigAnswer) (auto : Option UbertraceAutoCaptureConfig)
  | beginAutoCapture (a : RequestAnswers)
  | timerTriggered (a : RequestAnswers)
  | poll (id : Nat) (free : Bool) (answer : Answer)
  | requestAbortTrace
  | abort
  | disconnect

def Event.delivery : Event → Option Delivery
  | .delivered _ delivery => some delivery
  | _ => none

-- After the timer is cancelled, disconnecting touches nothing of the user's state.
def clientStep (c : UbertraceClient) (s : ClientRun) : ClientAction → Option ClientRun
  | .others next => if Relies c.user s.orch next then some { s with orch := next } else none
  | .handleDriverState state answer auto =>
      if s.connection.isSome then none else some (c.handleDriverState s state answer auto)
  | .beginAutoCapture a =>
      match s.connection with
      | none => none
      | some id =>
          match s.captures.place id with
          | .beginning config => some { c.beginAutoCapture s id config a with connection := none }
          | _ => none
  | .timerTriggered a =>
      match s.timer with
      | none => none
      | some id =>
          match s.captures.place id with
          | .waiting config => some (c.timerTriggered s id config a)
          | _ => none
  | .poll id free answer =>
      match s.captures.place id with
      | .polling p =>
          (pollerStep s.orch free id p answer).map fun e =>
            { s with orch := e.orch, captures := s.captures.move id (.polling e.poller) (e.events.filterMap Event.delivery) }
      | _ => none
  | .requestAbortTrace => if s.aborting.isSome then none else some { s.cancelTimer with aborting := some .supported }
  | .abort =>
      match s.aborting with
      | none => none
      | some pc =>
          (requestAbortTraceStep s.orch true c.user pc .go).map fun e => { s with orch := e.orch, aborting := e.next }
  | .disconnect => some s.cancelTimer

def ubertraceClient (c : UbertraceClient) (features : UbertraceFeatures) : Machine ClientRun ClientAction :=
  ⟨.initial features, clientStep c⟩

namespace UbertraceClient

variable (c : UbertraceClient) (o : UbertraceOrchestrator) (captureMode : UInt32)
  (captureType : UberTraceCaptureType) (a : RequestAnswers)

def accepted : Bool :=
  (a.generateCaptureConfig captureMode captureType).result = .success ∧ o.isReadyForCapture c.user = some true ∧
    updateConfiguration a.configured = .success ∧ a.requested = .success

-- Whether a request gets to where a waiting user's state is changed. The error of
-- a failed configuration is entered for the invalid user only.
def reachesState : Bool :=
  (a.generateCaptureConfig captureMode captureType).result = .success ∧ o.disabledUsers c.user = none ∧
    (updateConfiguration a.configured = .success ∨ c.user = invalidUbertraceUserId)

end UbertraceClient

-- The three ways a request of the client can go.
inductive RequestOutcome (c : UbertraceClient) (o : UbertraceOrchestrator) (captureMode : UInt32)
    (captureType : UberTraceCaptureType) (a : RequestAnswers) : Option (UbertraceOrchestrator × Result) → Prop where
  | threw (absent : o.userState c.user = none) : RequestOutcome c o captureMode captureType a none
  | refused (next : UbertraceOrchestrator) (result : Result) (failed : result ≠ .success)
      (refuses : c.accepted o captureMode captureType a = false) (relies : Relies c.user o next)
      (waits : next.getUserState c.user = .waitingToBeginCapture ↔ o.getUserState c.user = .waitingToBeginCapture ∧
        c.reachesState o captureMode captureType a = false) :
      RequestOutcome c o captureMode captureType a (some (next, result))
  | started (accepts : c.accepted o captureMode captureType a = true) :
      RequestOutcome c o captureMode captureType a (some (o.startPolling c.user a.thread, .success))

theorem ready_waiting (o : UbertraceOrchestrator) (user : UbertraceUserId) (ready : Bool)
    (isReady : o.isReadyForCapture user = some ready) (waiting : o.getUserState user = .waitingToBeginCapture) :
    ready = true ↔ o.disabledUsers user = none := by
  obtain ⟨state, here, rfl⟩ := Option.map_eq_some_iff.mp isReady
  rw [UbertraceOrchestrator.getUserState, here, Option.getD_some] at waiting
  simp [waiting]

theorem reset_not_waiting (o : UbertraceOrchestrator) (user : UbertraceUserId) :
    (o.resetWaiting user).getUserState user ≠ .waitingToBeginCapture := by
  unfold UbertraceOrchestrator.resetWaiting
  by_cases waiting : o.getUserState user = .waitingToBeginCapture
  · rw [if_pos waiting, UbertraceOrchestrator.get_user_state_set, if_pos rfl]
    nofun
  · rwa [if_neg waiting]

theorem request_outcome (c : UbertraceClient) (o : UbertraceOrchestrator) (captureMode : UInt32)
    (captureType : UberTraceCaptureType) (a : RequestAnswers) :
    RequestOutcome c o captureMode captureType a (c.requestBeginTrace o captureMode captureType a) := by
  unfold UbertraceClient.requestBeginTrace
  by_cases generated : (a.generateCaptureConfig captureMode captureType).result ≠ .success
  · rw [if_pos generated]
    refine .refused o _ generated (by simp [UbertraceClient.accepted, generated]) (relies_same c.user o o rfl) ?_
    simp [UbertraceClient.reachesState, generated]
  · rw [if_neg generated]
    have fits := not_not.mp generated
    unfold UbertraceOrchestrator.requestBeginTrace
    cases isReady : o.isReadyForCapture c.user with
    | none => exact .threw (Option.map_eq_none_iff.mp isReady)
    | some ready =>
        have readiness := ready_waiting o c.user ready isReady
        rw [Option.map_some]
        cases ready with
        | false =>
            refine .refused o .notReady nofun (by simp [UbertraceClient.accepted, isReady]) (relies_same c.user o o rfl) ?_
            refine ⟨fun waiting => ⟨waiting, ?_⟩, fun waiting => waiting.1⟩
            have disabled : o.disabledUsers c.user ≠ none := fun none => nomatch (readiness waiting).mpr none
            simp [UbertraceClient.reachesState, disabled]
        | true =>
            rw [Bool.not_true, if_neg Bool.false_ne_true]
            by_cases failed : updateConfiguration a.configured ≠ .success
            · rw [if_pos failed]
              refine .refused _ _ failed (by simp [UbertraceClient.accepted, failed])
                (relies_set c.user invalidUbertraceUserId o .error nofun) ?_
              rw [UbertraceOrchestrator.get_user_state_set]
              by_cases invalid : c.user = invalidUbertraceUserId
              · rw [if_pos invalid]
                refine ⟨nofun, fun waiting => ?_⟩
                have enabled := (readiness waiting.1).mp rfl
                have reaches : c.reachesState o captureMode captureType a = true :=
                  decide_eq_true ⟨fits, enabled, .inr invalid⟩
                rw [reaches] at waiting
                cases waiting.2
              · rw [if_neg invalid]
                refine ⟨fun waiting => ⟨waiting, ?_⟩, fun waiting => waiting.1⟩
                simp [UbertraceClient.reachesState, failed, invalid]
            · rw [if_neg failed]
              have configured := not_not.mp failed
              by_cases declined : a.requested ≠ .success
              · rw [if_pos declined]
                refine .refused _ _ nofun (by simp [UbertraceClient.accepted, declined]) (relies_reset c.user c.user o) ?_
                refine ⟨fun waiting => absurd waiting (reset_not_waiting o c.user), fun waiting => ?_⟩
                have enabled := (readiness waiting.1).mp rfl
                have reaches : c.reachesState o captureMode captureType a = true :=
                  decide_eq_true ⟨fits, enabled, .inl configured⟩
                rw [reaches] at waiting
                cases waiting.2
              · rw [if_neg declined]
                exact .started (by simp [UbertraceClient.accepted, fits, isReady, configured, not_not.mp declined])

-- The state a capture's first polling thread leaves its user in.
theorem start_polling_state (o : UbertraceOrchestrator) (user : UbertraceUserId) (thread : Nat) :
    (o.startPolling user thread).getUserState user = .capturing := by
  show (o.setState .capturing user).getUserState user = .capturing
  rw [UbertraceOrchestrator.get_user_state_set, if_pos rfl]

theorem start_polling_relies (o : UbertraceOrchestrator) (user : UbertraceUserId) (thread : Nat) :
    Relies user o (o.startPolling user thread) :=
  relies_set user user o .capturing nofun

-- The three ways a request leaves the client in.
inductive RequestMove (c : UbertraceClient) (s : ClientRun) (id : Nat) (config : UbertraceAutoCaptureConfig)
    (captureType : UberTraceCaptureType) (refused : List Delivery) (a : RequestAnswers) : ClientRun → Prop where
  | threw (absent : s.orch.userState c.user = none) :
      RequestMove c s id config captureType refused a { s with captures := s.captures.move id .done [] }
  | refused (next : UbertraceOrchestrator) (refuses : c.accepted s.orch config.captureMode captureType a = false)
      (relies : Relies c.user s.orch next)
      (waits : next.getUserState c.user = .waitingToBeginCapture ↔
        s.orch.getUserState c.user = .waitingToBeginCapture ∧
          c.reachesState s.orch config.captureMode captureType a = false) :
      RequestMove c s id config captureType refused a
        { s with orch := next, captures := s.captures.move id .done refused }
  | started (p : Poller) (accepts : c.accepted s.orch config.captureMode captureType a = true) (polls : p.pc = .check) :
      RequestMove c s id config captureType refused a
        { s with orch := s.orch.startPolling c.user a.thread, captures := s.captures.move id (.polling p) [] }

theorem request_moves (c : UbertraceClient) (s : ClientRun) (id : Nat) (config : UbertraceAutoCaptureConfig)
    (captureType : UberTraceCaptureType) (refused : List Delivery) (a : RequestAnswers) :
    RequestMove c s id config captureType refused a (c.request s id config captureType refused a) := by
  have outcome := request_outcome c s.orch config.captureMode captureType a
  unfold UbertraceClient.request
  generalize c.requestBeginTrace s.orch config.captureMode captureType a = answer at outcome
  cases outcome with
  | threw absent => exact .threw absent
  | refused next result failed refuses relies waits =>
      simp only [if_pos failed]
      exact .refused next refuses relies waits
  | started accepts =>
      simp only [ne_eq, not_true_eq_false, if_false]
      exact .started _ accepts rfl

theorem prepared_outcome (o next : UbertraceOrchestrator) (user : UbertraceUserId) (result : Result)
    (prepared : o.prepareForDelayedCapture user = some (next, result)) :
    result = .success ∧ o.userState user = some .idle ∧ o.disabledUsers user = none ∧
        next = o.setState .waitingToBeginCapture user ∨
      result ≠ .success ∧ next = o ∧ ¬ (o.userState user = some .idle ∧ o.disabledUsers user = none) := by
  obtain ⟨state, here, prepares⟩ := Option.map_eq_some_iff.mp prepared
  by_cases notReady : state ≠ .idle ∨ (o.disabledUsers user).isSome
  · rw [if_pos notReady] at prepares
    cases prepares
    refine .inr ⟨nofun, rfl, fun ready => ?_⟩
    rw [here, Option.some.injEq] at ready
    obtain busy | disabled := notReady
    · exact busy ready.1
    · rw [ready.2] at disabled
      cases disabled
  · rw [if_neg notReady] at prepares
    cases prepares
    obtain ⟨idle, enabled⟩ := not_or.mp notReady
    rw [not_not.mp idle] at here
    exact .inl ⟨rfl, here, by simpa using enabled, rfl⟩

-- The steps of a client and of those around it.
inductive ClientMove (c : UbertraceClient) (s : ClientRun) : ClientAction → ClientRun → Prop where
  | others (o : UbertraceOrchestrator) (relies : Relies c.user s.orch o) :
      ClientMove c s (.others o) { s with orch := o }
  | handled (state : DdDriverState) (answer : ConfigAnswer) (auto : Option UbertraceAutoCaptureConfig)
      (o : UbertraceOrchestrator) (relies : Relies c.user s.orch o) :
      ClientMove c s (.handleDriverState state answer auto) { s with orch := o }
  | begun (state : DdDriverState) (answer : ConfigAnswer) (config : UbertraceAutoCaptureConfig)
      (o : UbertraceOrchestrator) (relies : Relies c.user s.orch o) (free : s.connection = none) :
      ClientMove c s (.handleDriverState state answer (some config))
        { s with orch := o, captures := s.captures.begin (.beginning config), connection := some s.captures.begun }
  | immediate (id : Nat) (config : UbertraceAutoCaptureConfig) (a : RequestAnswers) (t : ClientRun)
      (connection : s.connection = some id) (here : s.captures.place id = .beginning config) (now : config.delayMs = 0)
      (moves : RequestMove c s id config .autoCapture [] a t) :
      ClientMove c s (.beginAutoCapture a) { t with connection := none }
  | dropped (id : Nat) (config : UbertraceAutoCaptureConfig) (a : RequestAnswers)
      (connection : s.connection = some id) (here : s.captures.place id = .beginning config) (later : config.delayMs ≠ 0)
      (notReady : ¬ (s.orch.userState c.user = some .idle ∧ s.orch.disabledUsers c.user = none)) :
      ClientMove c s (.beginAutoCapture a) { s with captures := s.captures.move id .done [], connection := none }
  | delayed (id : Nat) (config : UbertraceAutoCaptureConfig) (a : RequestAnswers)
      (connection : s.connection = some id) (here : s.captures.place id = .beginning config) (later : config.delayMs ≠ 0)
      (ready : s.orch.userState c.user = some .idle ∧ s.orch.disabledUsers c.user = none) :
      ClientMove c s (.beginAutoCapture a)
        { ClientRun.startTimer { s with orch := s.orch.setState .waitingToBeginCapture c.user } id config with
          connection := none }
  | triggered (id : Nat) (config : UbertraceAutoCaptureConfig) (a : RequestAnswers) (t : ClientRun)
      (timer : s.timer = some id) (here : s.captures.place id = .waiting config)
      (moves : RequestMove c { s with timer := none } id config .delayedAutoCapture [.traceCompleted .error ""] a t) :
      ClientMove c s (.timerTriggered a) t
  | polled (id : Nat) (free : Bool) (answer : Answer) (p : Poller) (e : PollerEffect)
      (here : s.captures.place id = .polling p) (move : PollerMove s.orch free id p e) :
      ClientMove c s (.poll id free answer)
        { s with orch := e.orch, captures := s.captures.move id (.polling e.poller) (e.events.filterMap Event.delivery) }
  | requested (idle : s.aborting = none) :
      ClientMove c s .requestAbortTrace { s.cancelTimer with aborting := some .supported }
  | aborts (pc : RequestAbortTracePc) (e : Effect RequestAbortTracePc) (here : s.aborting = some pc)
      (step : requestAbortTraceStep s.orch true c.user pc .go = some e) :
      ClientMove c s .abort { s with orch := e.orch, aborting := e.next }
  | disconnects : ClientMove c s .disconnect s.cancelTimer

theorem handle_driver_state_states (o : UbertraceOrchestrator) (user : UbertraceUserId) (state : DdDriverState)
    (answer : ConfigAnswer) : (o.handleDriverState user state answer).1.userState = o.userState := by
  unfold UbertraceOrchestrator.handleDriverState
  split
  · rfl
  · split <;> rfl

theorem handle_driver_state_moves (c : UbertraceClient) (s : ClientRun) (state : DdDriverState) (answer : ConfigAnswer)
    (auto : Option UbertraceAutoCaptureConfig) (free : s.connection = none) :
    ClientMove c s (.handleDriverState state answer auto) (c.handleDriverState s state answer auto) := by
  have relies := relies_same c.user s.orch _ (handle_driver_state_states s.orch c.user state answer)
  unfold UbertraceClient.handleDriverState
  generalize s.orch.handleDriverState c.user state answer = handled at relies
  obtain ⟨o, result⟩ := handled
  by_cases failed : result ≠ .success
  · simp only [if_pos failed]
    exact .handled state answer auto o relies
  · by_cases early : state ≠ .postDeviceInit
    · simp only [if_neg failed, if_pos early]
      exact .handled state answer auto o relies
    · simp only [if_neg failed, if_neg early]
      cases auto with
      | none => exact .handled state answer none o relies
      | some config => exact .begun state answer config o relies free

theorem begin_auto_capture_moves (c : UbertraceClient) (s : ClientRun) (id : Nat) (config : UbertraceAutoCaptureConfig)
    (a : RequestAnswers) (connection : s.connection = some id) (here : s.captures.place id = .beginning config) :
    ClientMove c s (.beginAutoCapture a) { c.beginAutoCapture s id config a with connection := none } := by
  unfold UbertraceClient.beginAutoCapture
  by_cases now : config.delayMs = 0
  · rw [if_pos now]
    exact .immediate id config a _ connection here now (request_moves c s id config .autoCapture [] a)
  · rw [if_neg now]
    cases prepares : s.orch.prepareForDelayedCapture c.user with
    | none =>
        have absent : s.orch.userState c.user = none := Option.map_eq_none_iff.mp prepares
        exact .dropped id config a connection here now fun ready => by
          rw [absent] at ready
          cases ready.1
    | some prepared =>
        obtain ⟨o, result⟩ := prepared
        obtain ⟨rfl, idle, enabled, rfl⟩ | ⟨failed, rfl, notReady⟩ := prepared_outcome s.orch o c.user result prepares
        · exact .delayed id config a connection here now ⟨idle, enabled⟩
        · simp only [if_pos failed]
          exact .dropped id config a connection here now notReady

theorem client_moves (c : UbertraceClient) (s t : ClientRun) (a : ClientAction) (next : clientStep c s a = some t) :
    ClientMove c s a t := by
  cases a with
  | others o =>
      by_cases relies : Relies c.user s.orch o
      · rw [clientStep, if_pos relies] at next
        cases next
        exact .others o relies
      · rw [clientStep, if_neg relies] at next
        cases next
  | handleDriverState state answer auto =>
      cases connection : s.connection with
      | none =>
          simp only [clientStep, connection, Option.isSome_none, Bool.false_eq_true, if_false, Option.some.injEq] at next
          subst next
          exact handle_driver_state_moves c s state answer auto connection
      | some id =>
          simp only [clientStep, connection, Option.isSome_some, if_true] at next
          cases next
  | beginAutoCapture a =>
      cases connection : s.connection with
      | none =>
          simp only [clientStep, connection] at next
          cases next
      | some id =>
          simp only [clientStep, connection] at next
          split at next
          · cases next
            exact begin_auto_capture_moves c s id _ a connection ‹_›
          · cases next
  | timerTriggered a =>
      cases timer : s.timer with
      | none =>
          simp only [clientStep, timer] at next
          cases next
      | some id =>
          simp only [clientStep, timer] at next
          split at next
          · cases next
            exact .triggered id _ a _ timer ‹_› (request_moves c { s with timer := none } id _ _ _ a)
          · cases next
  | poll id free answer =>
      simp only [clientStep] at next
      split at next
      · obtain ⟨e, effect, rfl⟩ := Option.map_eq_some_iff.mp next
        exact .polled id free answer _ e ‹_› (poller_moves _ _ _ _ _ _ effect)
      · cases next
  | requestAbortTrace =>
      cases idle : s.aborting with
      | none =>
          simp only [clientStep, idle, Option.isSome_none, Bool.false_eq_true, if_false, Option.some.injEq] at next
          subst next
          exact .requested idle
      | some pc =>
          simp only [clientStep, idle, Option.isSome_some, if_true] at next
          cases next
  | abort =>
      cases here : s.aborting with
      | none =>
          simp only [clientStep, here] at next
          cases next
      | some pc =>
          simp only [clientStep, here] at next
          obtain ⟨e, effect, rfl⟩ := Option.map_eq_some_iff.mp next
          exact .aborts pc e here effect
  | disconnect =>
      cases next
      exact .disconnects

end RadeonPanel.Ubertrace

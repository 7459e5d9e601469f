import RadeonPanel.Base.Exclusive
import RadeonPanel.Ubertrace.Orchestrator

set_option autoImplicit false

namespace RadeonPanel.Ubertrace

open Interleaving (LockUse)

inductive Call where
  | initializeUser (user : UbertraceUserId) (enableTracing : Bool)
  | disconnect (user : UbertraceUserId)
  | addPreliminarySources (sources : List UberTraceSource)
  | addEarlyConfiguration (params : Option UberTraceGlobalParams)
  | handleDriverState (user : UbertraceUserId) (state : DdDriverState)
  | requestAbortTrace (user : UbertraceUserId)
  | prepareForDelayedCapture (user : UbertraceUserId)
  | requestBeginTrace (user : UbertraceUserId) (config : UbertraceCaptureConfig)
  | setUserIsDisabled (user : UbertraceUserId) (disabled : Bool)
deriving DecidableEq, Repr

inductive FlagWriter where
  | initial
  | requestBeginTrace (user : UbertraceUserId)
  | requestAbortTrace (user : UbertraceUserId)
  | disconnect (user : UbertraceUserId)
  | collected
deriving DecidableEq, Repr

inductive Delivery where
  | onCompleted (path : String)
  | traceCompleted (status : TraceCompletionStatus) (path : String)
deriving DecidableEq, Repr

-- What an observer of the program sees: results of the calls, calls of the
-- driver, of the hooks and of the client utilities, and stores to the flag the
-- polling loop tests. `finished` marks the end of a capture's completion section.
inductive Event where
  | returned (call : Call) (result : Result)
  | disconnected (user : UbertraceUserId)
  | threw (call : Call)
  | driverConnect (result : DdResult)
  | driverEnableTracing (result : DdResult)
  | driverDisconnect
  | sourcesAdded (sources : List UberTraceSource)
  | paramsAdded (params : UberTraceGlobalParams)
  | reachedPostDeviceInit (user : UbertraceUserId)
  | preliminaryConfigured (config : UberTraceConfig) (result : Result)
  | storedPollFlag (writer : FlagWriter) (value : Bool)
  | tracingStarted (capture : Nat)
  | tracingEnded (capture : Nat)
  | collected (thread : Nat) (result : DdResult) (chunks : Option Result)
  | loopLeft (thread : Nat) (owner : UbertraceUserId) (collected : Bool)
  | delivered (thread : Nat) (delivery : Delivery)
  | finished (user : UbertraceUserId) (isAutoCapture : Bool)
deriving DecidableEq, Repr

-- What the outside decides in a step. Steps that ask nothing take `go`.
inductive Answer where
  | go
  | driver (result : DdResult)
  | config (answer : ConfigAnswer)
  | stream (path : String)
  | writing
  | collected (result : DdResult) (chunks : Option Result)
  | timedOut
deriving DecidableEq, Repr

-- The effect of one step of a call. `next` is where the call goes on, none when
-- it returns. The newest event comes first.
structure Effect (π : Type) where
  orch : UbertraceOrchestrator
  next : Option π
  lock : LockUse
  events : List Event

inductive InitializePc where
  | lock
  | doInit
  | enableTracing
deriving DecidableEq, Repr

-- The lock is taken at the first step and kept until the call returns, so that
-- only the driver's calls split the function.
def initializeStep (o : UbertraceOrchestrator) (free : Bool) (user : UbertraceUserId) (enable : Bool) :
    InitializePc → Answer → Option (Effect InitializePc)
  | .lock, .go =>
      if !free then none
      else if o.getUserState user = .error then
        some ⟨o.touchUserState user, none, .keep, [.returned (.initializeUser user enable) .failure]⟩
      else if (insert user o.initializedUsers).card = 1 then
        some ⟨(o.touchUserState user).addInitializedUser user, some .doInit, .acquire, []⟩
      else some ⟨(o.touchUserState user).addInitializedUser user, some .enableTracing, .acquire, []⟩
  | .doInit, .driver result =>
      if result ≠ .success then
        some ⟨o.setState .error user, none, .release,
          [.returned (.initializeUser user enable) .failure, .driverConnect result]⟩
      else some ⟨o, some .enableTracing, .keep, [.driverConnect result]⟩
  | .enableTracing, .go =>
      if !enable || o.enabledTracing then
        some ⟨o.setState .idle user, none, .release, [.returned (.initializeUser user enable) .success]⟩
      else none
  | .enableTracing, .driver result =>
      if !enable || o.enabledTracing then none
      else if result ≠ .success then
        some ⟨o.setState .error user, none, .release,
          [.returned (.initializeUser user enable) .failure, .driverEnableTracing result]⟩
      else
        some ⟨{ o.setState .idle user with enabledTracing := true }, none, .release,
          [.returned (.initializeUser user enable) .success, .driverEnableTracing result]⟩
  | _, _ => none

inductive DisconnectPc where
  | entry
  | count (shouldJoin : Bool)
  | stop
  | join
  | erase
  | empty
  | driver
  | done
deriving DecidableEq, Repr

-- Only the count and the last state change take the lock. `joinable` and `join`
-- are one step: it waits until the joinable thread has exited. Two joins that
-- race on the thread object itself are outside the model.
def disconnectStep (o : UbertraceOrchestrator) (free joined : Bool) (user : UbertraceUserId) :
    DisconnectPc → Answer → Option (Effect DisconnectPc)
  | .entry, .go => some ⟨o, some (.count (user = o.capturingUser)), .keep, []⟩
  | .count shouldJoin, .go =>
      if !free then none
      else if shouldJoin || (o.initializedUsers.card = 1 && user ∈ o.initializedUsers) then
        some ⟨o, some .stop, .keep, []⟩
      else some ⟨o, some .erase, .keep, []⟩
  | .stop, .go =>
      some ⟨{ o with shouldPollForTrace := false }, some .join, .keep, [.storedPollFlag (.disconnect user) false]⟩
  | .join, .go =>
      if !joined then none else some ⟨{ o with tracePollingThread := none }, some .erase, .keep, []⟩
  | .erase, .go =>
      some ⟨{ o with initializedUsers := o.initializedUsers.erase user }, some .empty, .keep, []⟩
  | .empty, .go =>
      if o.initializedUsers = ∅ then some ⟨o, some .driver, .keep, []⟩
      else some ⟨o, none, .keep, [.disconnected user]⟩
  | .driver, .go => some ⟨o, some .done, .keep, [.driverDisconnect]⟩
  | .done, .go =>
      if !free then none
      else some ⟨o.setState .done invalidUbertraceUserId, none, .keep, [.disconnected user]⟩
  | _, _ => none

inductive HandleDriverStatePc where
  | lock
  | configure (config : UberTraceConfig)
deriving DecidableEq, Repr

def handleDriverStateStep (o : UbertraceOrchestrator) (free : Bool) (user : UbertraceUserId)
    (state : DdDriverState) : HandleDriverStatePc → Answer → Option (Effect HandleDriverStatePc)
  | .lock, .go =>
      if !free then none
      else if state.value ≤ (o.latestDriverStates user).value then
        some ⟨o, none, .keep, [.returned (.handleDriverState user state) .success]⟩
      else if state ≠ .postDeviceInit then
        some ⟨o.setDriverState user state, none, .keep, [.returned (.handleDriverState user state) .success]⟩
      else
        some ⟨(o.setDriverState user state).dropPreliminary, some (.configure o.preliminaryConfig), .acquire,
          [.reachedPostDeviceInit user]⟩
  | .configure config, .config answer =>
      let result := updateConfiguration answer
      some ⟨o, none, .release,
        [.returned (.handleDriverState user state) result, .preliminaryConfigured config result]⟩
  | _, _ => none

inductive RequestAbortTracePc where
  | supported
  | state
  | idle
  | stop
deriving DecidableEq, Repr

-- `isAbortTraceSupported` reads the state without the lock; `getUserState` and
-- `setState` take it for themselves.
def requestAbortTraceStep (o : UbertraceOrchestrator) (free : Bool) (user : UbertraceUserId) :
    RequestAbortTracePc → Answer → Option (Effect RequestAbortTracePc)
  | .supported, .go =>
      match o.isAbortTraceSupported user with
      | none => some ⟨o, none, .keep, [.threw (.requestAbortTrace user)]⟩
      | some false => some ⟨o, none, .keep, [.returned (.requestAbortTrace user) .unsupported]⟩
      | some true => some ⟨o, some .state, .keep, []⟩
  | .state, .go =>
      if !free then none
      else if o.getUserState user = .waitingToBeginCapture then some ⟨o, some .idle, .keep, []⟩
      else some ⟨o, some .stop, .keep, []⟩
  | .idle, .go =>
      if !free then none
      else some ⟨o.setState .idle user, none, .keep, [.returned (.requestAbortTrace user) .success]⟩
  | .stop, .go =>
      some ⟨{ o with shouldPollForTrace := false }, none, .keep,
        [.returned (.requestAbortTrace user) .success, .storedPollFlag (.requestAbortTrace user) false]⟩
  | _, _ => none

inductive RequestBeginTracePc where
  | lock
  | configure
  | started
  | request (capture : Nat)
  | join (capture : Nat)
  | poll (capture : Nat)
  | capturing (capture : Nat)
  | owner (capture : Nat)
  | thread (capture : Nat)
deriving DecidableEq, Repr

-- `fresh` numbers the capture whose hook is called. The call holds the lock from
-- its readiness test to its return, also while it waits for the previous thread.
def requestBeginTraceStep (o : UbertraceOrchestrator) (free joined : Bool) (fresh thread : Nat)
    (user : UbertraceUserId) (config : UbertraceCaptureConfig) :
    RequestBeginTracePc → Answer → Option (Effect RequestBeginTracePc)
  | .lock, .go =>
      if !free then none
      else
        match o.isReadyForCapture user with
        | none => some ⟨o, none, .keep, [.threw (.requestBeginTrace user config)]⟩
        | some false => some ⟨o, none, .keep, [.returned (.requestBeginTrace user config) .notReady]⟩
        | some true => some ⟨o, some .configure, .acquire, []⟩
  | .configure, .config answer =>
      let result := updateConfiguration answer
      if result ≠ .success then
        some ⟨o.setState .error invalidUbertraceUserId, none, .release,
          [.returned (.requestBeginTrace user config) result]⟩
      else some ⟨o, some .started, .keep, []⟩
  | .started, .go => some ⟨o, some (.request fresh), .keep, [.tracingStarted fresh]⟩
  | .request capture, .driver result =>
      if result ≠ .success then
        some ⟨o.resetWaiting user, none, .release,
          [.returned (.requestBeginTrace user config) .failure, .tracingEnded capture]⟩
      else some ⟨o, some (.join capture), .keep, []⟩
  | .join capture, .go =>
      if !joined then none else some ⟨{ o with tracePollingThread := none }, some (.poll capture), .keep, []⟩
  | .poll capture, .go =>
      some ⟨{ o with shouldPollForTrace := true }, some (.capturing capture), .keep,
        [.storedPollFlag (.requestBeginTrace user) true]⟩
  | .capturing capture, .go => some ⟨o.setState .capturing user, some (.owner capture), .keep, []⟩
  | .owner capture, .go => some ⟨{ o with capturingUser := user }, some (.thread capture), .keep, []⟩
  | .thread _, .go =>
      some ⟨{ o with tracePollingThread := some thread }, none, .release,
        [.returned (.requestBeginTrace user config) .success]⟩
  | _, _ => none

end RadeonPanel.Ubertrace

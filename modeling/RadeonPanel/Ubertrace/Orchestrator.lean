import Mathlib.Data.Finset.Card
import Mathlib.Logic.Function.Basic
import RadeonPanel.Ubertrace.Types

set_option autoImplicit false

namespace RadeonPanel.Ubertrace

-- The fields of the source's class that its functions decide on. Polling threads
-- are numbered in the order they are started, and `tracePollingThread` is the
-- number of the joinable one. Listeners of state changes are not modelled.
structure UbertraceOrchestrator where
  features : UbertraceFeatures
  disabledUsers : UbertraceUserId → Option ClientState
  latestDriverStates : UbertraceUserId → DdDriverState
  preliminarySources : List UberTraceSource
  preliminaryGlobalParams : Option UberTraceGlobalParams
  currentUserId : UbertraceUserId
  capturingUser : UbertraceUserId
  initializedUsers : Finset UbertraceUserId
  enabledTracing : Bool
  shouldPollForTrace : Bool
  tracePollingThread : Option Nat
  userState : UbertraceUserId → Option ClientState

namespace UbertraceOrchestrator

def new (features : UbertraceFeatures) : UbertraceOrchestrator where
  features := features
  disabledUsers := fun _ => none
  latestDriverStates := fun _ => .unknown
  preliminarySources := []
  preliminaryGlobalParams := none
  currentUserId := invalidUbertraceUserId
  capturingUser := invalidUbertraceUserId
  initializedUsers := ∅
  enabledTracing := false
  shouldPollForTrace := false
  tracePollingThread := none
  userState := fun _ => none

def getNewUser (o : UbertraceOrchestrator) : UbertraceOrchestrator :=
  { o with currentUserId := o.currentUserId + 1 }

def setState (o : UbertraceOrchestrator) (state : ClientState) (user : UbertraceUserId) : UbertraceOrchestrator :=
  { o with userState := Function.update o.userState user (some state) }

def getUserState (o : UbertraceOrchestrator) (user : UbertraceUserId) : ClientState :=
  (o.userState user).getD .disabled

-- A request the driver has refused.
def resetWaiting (o : UbertraceOrchestrator) (user : UbertraceUserId) : UbertraceOrchestrator :=
  if o.getUserState user = .waitingToBeginCapture then o.setState .idle user else o

-- `user_state_[user]` inserts the first enumerator for a user without an entry.
def touchUserState (o : UbertraceOrchestrator) (user : UbertraceUserId) : UbertraceOrchestrator :=
  { o with userState := Function.update o.userState user (some (o.getUserState user)) }

def addInitializedUser (o : UbertraceOrchestrator) (user : UbertraceUserId) : UbertraceOrchestrator :=
  { o with initializedUsers := insert user o.initializedUsers }

-- `user_state_.at(user)` throws for a user without an entry, here `none`.
def isReadyForCapture (o : UbertraceOrchestrator) (user : UbertraceUserId) : Option Bool :=
  (o.userState user).map fun state =>
    state = .idle ∨ (state = .waitingToBeginCapture ∧ ¬ (o.disabledUsers user).isSome)

def isAbortTraceSupported (o : UbertraceOrchestrator) (user : UbertraceUserId) : Option Bool :=
  (o.userState user).map fun state => if !isCapturing state then true else o.features.cancelTraceSupported

def setUserIsDisabled (o : UbertraceOrchestrator) (user : UbertraceUserId) (disabled : Bool)
    (state : ClientState) : UbertraceOrchestrator :=
  let users :=
    if disabled then
      -- `insert` keeps the entry that is already there.
      if (o.disabledUsers user).isSome then o.disabledUsers else Function.update o.disabledUsers user (some state)
    else if o.disabledUsers user = some state then Function.update o.disabledUsers user none
    else o.disabledUsers
  { o with disabledUsers := users }.setState state user

def prepareForDelayedCapture (o : UbertraceOrchestrator) (user : UbertraceUserId) :
    Option (UbertraceOrchestrator × Result) :=
  (o.userState user).map fun state =>
    if state ≠ .idle ∨ (o.disabledUsers user).isSome then (o, .notReady)
    else (o.setState .waitingToBeginCapture user, .success)

def addPreliminarySources (o : UbertraceOrchestrator) (sources : List UberTraceSource) : UbertraceOrchestrator :=
  { o with preliminarySources := o.preliminarySources ++ sources }

def addEarlyConfiguration (o : UbertraceOrchestrator) (params : Option UberTraceGlobalParams) :
    UbertraceOrchestrator :=
  match params with
  | none => o
  | some params => { o with preliminaryGlobalParams := some params }

def setDriverState (o : UbertraceOrchestrator) (user : UbertraceUserId) (state : DdDriverState) :
    UbertraceOrchestrator :=
  { o with latestDriverStates := Function.update o.latestDriverStates user state }

-- The configuration that is moved out of the orchestrator, and what is left.
def preliminaryConfig (o : UbertraceOrchestrator) : UberTraceConfig :=
  ⟨o.preliminarySources, o.preliminaryGlobalParams⟩

def dropPreliminary (o : UbertraceOrchestrator) : UbertraceOrchestrator :=
  { o with preliminarySources := [], preliminaryGlobalParams := none }

end UbertraceOrchestrator

-- The outside's part in updating the configuration: the serializer's verdict,
-- and the driver's when there is something to send.
inductive ConfigAnswer where
  | notSerialized
  | sent (result : DdResult)
deriving DecidableEq, Repr

def updateConfiguration : ConfigAnswer → Result
  | .notSerialized => .failure
  | .sent result => if result ≠ .success then .failure else .success

namespace UbertraceOrchestrator

variable (o : UbertraceOrchestrator) (state : ClientState) (user other : UbertraceUserId)

@[simp] theorem set_state_here : (o.setState state user).userState user = some state :=
  Function.update_self _ _ _

theorem set_state_elsewhere (different : other ≠ user) :
    (o.setState state user).userState other = o.userState other :=
  Function.update_of_ne different _ _

theorem set_state_lookup : (o.setState state user).userState other =
    if other = user then some state else o.userState other :=
  Function.update_apply _ _ _ _

theorem get_user_state_set : (o.setState state user).getUserState other =
    if other = user then state else o.getUserState other := by
  simp only [getUserState, set_state_lookup]
  split <;> rfl

theorem get_user_state_touch : (o.touchUserState user).getUserState other = o.getUserState other := by
  simp only [getUserState, touchUserState, Function.update_apply]
  by_cases same : other = user
  · rw [if_pos same, same, Option.getD_some]
  · rw [if_neg same]

theorem set_state_settled (settled : state.inCapture = false)
    (capturing : ((o.setState state user).getUserState other).inCapture = true) :
    (o.getUserState other).inCapture = true := by
  rw [get_user_state_set] at capturing
  by_cases same : other = user
  · rw [if_pos same, settled] at capturing
    cases capturing
  · rwa [if_neg same] at capturing

@[simp] theorem set_state_enabled_tracing : (o.setState state user).enabledTracing = o.enabledTracing := rfl

-- The states are all that a refused request may change.
theorem reset_waiting_cases : o.resetWaiting user = o ∨
    o.getUserState user = .waitingToBeginCapture ∧ o.resetWaiting user = o.setState .idle user := by
  unfold resetWaiting
  by_cases waiting : o.getUserState user = .waitingToBeginCapture
  · rw [if_pos waiting]
    exact .inr ⟨waiting, rfl⟩
  · rw [if_neg waiting]
    exact .inl rfl

@[simp] theorem reset_waiting_capturing_user : (o.resetWaiting user).capturingUser = o.capturingUser := by
  obtain same | ⟨_, same⟩ := reset_waiting_cases o user <;> rw [same]; rfl

@[simp] theorem reset_waiting_thread : (o.resetWaiting user).tracePollingThread = o.tracePollingThread := by
  obtain same | ⟨_, same⟩ := reset_waiting_cases o user <;> rw [same]; rfl

@[simp] theorem reset_waiting_polling : (o.resetWaiting user).shouldPollForTrace = o.shouldPollForTrace := by
  obtain same | ⟨_, same⟩ := reset_waiting_cases o user <;> rw [same]; rfl

theorem reset_waiting_settled (capturing : ((o.resetWaiting user).getUserState other).inCapture = true) :
    (o.getUserState other).inCapture = true := by
  obtain same | ⟨_, same⟩ := reset_waiting_cases o user
  · rwa [same] at capturing
  · rw [same] at capturing
    exact set_state_settled o .idle user other rfl capturing

end UbertraceOrchestrator

end RadeonPanel.Ubertrace

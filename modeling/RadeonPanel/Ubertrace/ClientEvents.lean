import Mathlib.Data.List.Chain
import RadeonPanel.Base.Runs
import RadeonPanel.Ubertrace.Types

set_option autoImplicit false

namespace RadeonPanel.Ubertrace.ClientEvents

open Interleaving

structure ClientStateChangeEventArgs where
  newState : ClientState
  oldState : ClientState
deriving DecidableEq, Repr

structure UbertraceUser where
  userId : UbertraceUserId
  state : ClientState
deriving DecidableEq, Repr

-- `state` is that of the base class. RGP's client is the one that sets it.
structure UbertraceClient where
  isRgp : Bool
  state : ClientState
  user : UbertraceUser
deriving DecidableEq, Repr

def UbertraceClient.getState (c : UbertraceClient) : ClientState := c.user.state

-- `posted` are the events of the client, the newest first.
structure State where
  client : UbertraceClient
  posted : List ClientStateChangeEventArgs
deriving DecidableEq, Repr

namespace State

def create (isRgp : Bool) (userId : UbertraceUserId) : State := ⟨⟨isRgp, .idle, ⟨userId, .idle⟩⟩, []⟩

def postClientStateChangeEvent (s : State) (args : ClientStateChangeEventArgs) : State :=
  { s with posted := args :: s.posted }

-- `SetState` of the base class.
def setState (s : State) (newState : ClientState) : State :=
  let currentState := s.client.state
  { s with client := { s.client with state := newState } }.postClientStateChangeEvent ⟨newState, currentState⟩

def onUbertraceUserStateChangedEvent (s : State) (args : ClientStateChangeEventArgs) : State :=
  s.postClientStateChangeEvent ⟨args.newState, args.oldState⟩

def onOrchestratorStateChangedEvent (s : State) (state : ClientState) : State :=
  let oldState := s.client.user.state
  { s with client := { s.client with user := { s.client.user with state := state } }
    }.onUbertraceUserStateChangedEvent ⟨state, oldState⟩

-- The state that RGP's client gives itself. `supported` is what
-- IsGpuSupportedForRgp says of the active GPU.
def gpuState (supported : Bool) : ClientState := if supported then .idle else .disabled

-- What follows in the base class goes through the orchestrator.
def handleDriverState (s : State) (state : DdDriverState) (supported : Bool) : State :=
  if s.client.isRgp && state = .postDeviceInit then s.setState (gpuState supported) else s

def onActiveGpuUpdate (s : State) (supported : Bool) : State :=
  if s.client.isRgp && (s.client.state = .idle || s.client.state = .disabled) then s.setState (gpuState supported)
  else s

end State

-- `orchestratorSetState` is every SetState of the orchestrator that the client
-- shares: initialization, captures, aborts, disabling and the other users.
inductive Action where
  | orchestratorSetState (state : ClientState) (relevantUser : UbertraceUserId)
  | handleDriverState (state : DdDriverState) (supported : Bool)
  | onActiveGpuUpdate (supported : Bool)
deriving DecidableEq, Repr

def State.next (s : State) : Action → Option State
  | .orchestratorSetState state relevantUser =>
      if relevantUser = s.client.user.userId then some (s.onOrchestratorStateChangedEvent state) else some s
  | .handleDriverState state supported => some (s.handleDriverState state supported)
  | .onActiveGpuUpdate supported => some (s.onActiveGpuUpdate supported)

def ubertraceClient (isRgp : Bool) (userId : UbertraceUserId) : Machine State Action :=
  ⟨.create isRgp userId, State.next⟩

def Follows (later earlier : ClientStateChangeEventArgs) : Prop := later.oldState = earlier.newState

-- The last event's state is the client's, and every event starts where the one
-- before has ended.
structure State.Agrees (s : State) : Prop where
  current : ∀ args ∈ s.posted.head?, s.client.getState = args.newState
  chained : s.posted.IsChain Follows

-- A state of the base class that is also the user's.
def State.postsUserState (s : State) (supported : Bool) : Prop :=
  s.client.getState = State.gpuState supported ∧ (s.posted ≠ [] → s.client.state = s.client.getState)

def postsActualState (s : State) : Action → Prop
  | .orchestratorSetState _ _ => True
  | .handleDriverState state supported =>
      s.client.isRgp = true → state = .postDeviceInit → s.postsUserState supported
  | .onActiveGpuUpdate supported =>
      s.client.isRgp = true → s.client.state = .idle ∨ s.client.state = .disabled → s.postsUserState supported

theorem agrees_posted (s : State) (args : ClientStateChangeEventArgs) (agrees : s.Agrees) (client : UbertraceClient) :
    ({ s with client := client }.postClientStateChangeEvent args).Agrees ↔
      client.getState = args.newState ∧ (s.posted ≠ [] → args.oldState = s.client.getState) := by
  obtain ⟨current, chained⟩ := agrees
  constructor
  · rintro ⟨now, follows⟩
    refine ⟨now args rfl, fun some => ?_⟩
    cases posted : s.posted with
    | nil => exact absurd posted some
    | cons last older =>
        simp only [State.postClientStateChangeEvent, posted] at follows
        have here : args.oldState = last.newState := (List.isChain_cons_cons.mp follows).1
        rw [here]
        exact (current last (by rw [posted]; rfl)).symm
  · rintro ⟨now, starts⟩
    refine ⟨fun last first => ?_, ?_⟩
    · cases first
      exact now
    · cases posted : s.posted with
      | nil =>
          simp only [State.postClientStateChangeEvent]
          exact .singleton args
      | cons last older =>
          simp only [State.postClientStateChangeEvent]
          refine List.isChain_cons_cons.mpr ⟨?_, posted ▸ chained⟩
          have ended := current last (by rw [posted]; rfl)
          exact (starts (by simp [posted])).trans ended

theorem agrees_set_state (s : State) (supported : Bool) (agrees : s.Agrees) :
    (s.setState (State.gpuState supported)).Agrees ↔ s.postsUserState supported :=
  agrees_posted s ⟨State.gpuState supported, s.client.state⟩ agrees { s.client with state := State.gpuState supported }

theorem agrees_user_changed (s : State) (state : ClientState) (agrees : s.Agrees) :
    (s.onOrchestratorStateChangedEvent state).Agrees :=
  (agrees_posted s ⟨state, s.client.user.state⟩ agrees
    { s.client with user := { s.client.user with state := state } }).mpr ⟨rfl, fun _ => rfl⟩

theorem agrees_step (s t : State) (a : Action) (agrees : s.Agrees) (next : s.next a = some t) :
    t.Agrees ↔ postsActualState s a := by
  cases a with
  | orchestratorSetState state relevantUser =>
      rw [postsActualState, iff_true]
      rw [State.next] at next
      split at next
      · cases next
        exact agrees_user_changed s state agrees
      · cases next
        exact agrees
  | handleDriverState state supported =>
      cases next
      rw [State.handleDriverState, postsActualState]
      by_cases posts : s.client.isRgp = true ∧ state = .postDeviceInit
      · simpa [posts] using agrees_set_state s supported agrees
      · rw [if_neg (by simpa using posts)]
        exact ⟨fun _ isRgp init => absurd ⟨isRgp, init⟩ posts, fun _ => agrees⟩
  | onActiveGpuUpdate supported =>
      cases next
      rw [State.onActiveGpuUpdate, postsActualState]
      by_cases posts : s.client.isRgp = true ∧ (s.client.state = .idle ∨ s.client.state = .disabled)
      · rw [if_pos (by simpa using posts), agrees_set_state s supported agrees]
        exact ⟨fun holds _ _ => holds, fun holds => holds posts.1 posts.2⟩
      · rw [if_neg (by simpa using posts)]
        exact ⟨fun _ isRgp free => absurd ⟨isRgp, free⟩ posts, fun _ => agrees⟩

theorem created_agrees (isRgp : Bool) (userId : UbertraceUserId) : (State.create isRgp userId).Agrees :=
  ⟨fun _ first => by simp [State.create] at first, .nil⟩

theorem posted_states_actual (isRgp : Bool) (userId : UbertraceUserId) (actions : List Action) :
    Meets (ubertraceClient isRgp userId) postsActualState (.create isRgp userId) actions ↔
      Always (ubertraceClient isRgp userId) State.Agrees (.create isRgp userId) actions :=
  keeps_iff_always (ubertraceClient isRgp userId) _ State.Agrees (created_agrees isRgp userId)
    (fun s a t _ agrees next => agrees_step s t a agrees next) actions

theorem kind_kept (s t : State) (a : Action) (next : s.next a = some t) : t.client.isRgp = s.client.isRgp := by
  cases a with
  | orchestratorSetState state relevantUser =>
      simp only [State.next] at next
      split at next <;> cases next <;> rfl
  | handleDriverState state supported =>
      cases next
      rw [State.handleDriverState]
      split <;> rfl
  | onActiveGpuUpdate supported =>
      cases next
      rw [State.onActiveGpuUpdate]
      split <;> rfl

-- Only RGP's client has a state of its own to post.
theorem other_clients_agree (userId : UbertraceUserId) (s : State)
    (reach : Reachable (ubertraceClient false userId) s) : s.Agrees := by
  refine (reachable_invariant (ubertraceClient false userId) (fun s => s.client.isRgp = false ∧ s.Agrees)
    ⟨rfl, created_agrees false userId⟩ (fun s a t holds next => ?_) s reach).2
  obtain ⟨other, agrees⟩ := holds
  have posts : postsActualState s a := by cases a <;> simp [postsActualState, other]
  exact ⟨(kind_kept s t a next).trans other, (agrees_step s t a agrees next).mpr posts⟩

-- Initialized, then on a GPU that RGP does not support: the event says disabled,
-- GetState still says idle.
theorem unsupported_gpu_posted_only : ¬ ∀ isRgp userId s, Reachable (ubertraceClient isRgp userId) s → s.Agrees := by
  intro claimed
  obtain ⟨s, reach, found⟩ := exec_finds (ubertraceClient true 1)
    [.orchestratorSetState .idle 1, .handleDriverState .postDeviceInit false]
    (fun s => s.posted.head? = some ⟨.disabled, .idle⟩ ∧ s.client.getState = .idle) (by decide)
  have values : s.posted.head? = some ⟨.disabled, .idle⟩ ∧ s.client.getState = .idle := of_decide_eq_true found
  have current := (claimed true 1 s reach).current _ values.1
  rw [values.2] at current
  cases current

end RadeonPanel.Ubertrace.ClientEvents

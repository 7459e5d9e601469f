import RadeonPanel.Ubertrace.Locking

set_option autoImplicit false

namespace RadeonPanel.Ubertrace

open Interleaving
open UbertraceOrchestrator

-- The part of a request that follows the join of the previous thread.
def RequestBeginTracePc.starting : RequestBeginTracePc → Bool
  | .poll _ | .capturing _ | .owner _ | .thread _ => true
  | _ => false

def CallerPc.startingFor : CallerPc → Option UbertraceUserId
  | .requestBeginTrace user _ pc => if pc.starting then some user else none
  | _ => none

-- The user whose state already shows the capture that the request starts.
def CallerPc.capturingFor : CallerPc → Option UbertraceUserId
  | .requestBeginTrace user _ (.owner _) => some user
  | .requestBeginTrace user _ (.thread _) => some user
  | _ => none

def PollerPc.alive : PollerPc → Bool
  | .absent | .exited => false
  | _ => true

-- Until the exchange the thread works for whoever `capturingUser` names.
def PollerPc.polling : PollerPc → Bool
  | .check | .collect | .exchange _ => true
  | _ => false

def PollerPc.completingFor : PollerPc → Option UbertraceUserId
  | .complete user _ | .success user | .postProcess user | .abort user | .cancel user => some user
  | _ => none

def Poller.user (o : UbertraceOrchestrator) (p : Poller) : Option UbertraceUserId :=
  if p.pc.polling then some o.capturingUser else p.pc.completingFor

theorem poller_user_alive (o : UbertraceOrchestrator) (p : Poller) (user : UbertraceUserId)
    (worksFor : p.user o = some user) : p.pc.alive = true := by
  revert worksFor
  unfold Poller.user
  cases p.pc <;> simp [PollerPc.polling, PollerPc.completingFor, PollerPc.alive]

-- What a step does that does not belong to the start of a capture.
structure QuietStep (o : UbertraceOrchestrator) (joined : Bool) (e : CallerEffect) : Prop where
  capturingUser : e.orch.capturingUser = o.capturingUser
  thread : e.orch.tracePollingThread = o.tracePollingThread ∨ joined = true ∧ e.orch.tracePollingThread = none
  states : ∀ user, (e.orch.getUserState user).inCapture = true → (o.getUserState user).inCapture = true
  pc : e.pc.startingFor = none
  spawned : e.spawned = none
  refused : ∀ user config, .returned (.requestBeginTrace user config) .success ∉ e.events

inductive StartStep (o : UbertraceOrchestrator) (joined : Bool) (thread : Nat) (user : UbertraceUserId)
    (config : UbertraceCaptureConfig) (capture : Nat) : RequestBeginTracePc → CallerEffect → Prop where
  | join (waited : joined = true) : StartStep o joined thread user config capture (.join capture)
      ⟨{ o with tracePollingThread := none }, .requestBeginTrace user config (.poll capture), .keep, [], none⟩
  | poll : StartStep o joined thread user config capture (.poll capture)
      ⟨{ o with shouldPollForTrace := true }, .requestBeginTrace user config (.capturing capture), .keep,
        [.storedPollFlag (.requestBeginTrace user) true], none⟩
  | capturing : StartStep o joined thread user config capture (.capturing capture)
      ⟨o.setState .capturing user, .requestBeginTrace user config (.owner capture), .keep, [], none⟩
  | owner : StartStep o joined thread user config capture (.owner capture)
      ⟨{ o with capturingUser := user }, .requestBeginTrace user config (.thread capture), .keep, [], none⟩
  | thread : StartStep o joined thread user config capture (.thread capture)
      ⟨{ o with tracePollingThread := some thread }, .outside, .release,
        [.returned (.requestBeginTrace user config) .success], some (.start user capture config)⟩

theorem request_begin_cases (o : UbertraceOrchestrator) (free joined : Bool) (fresh thread : Nat)
    (user : UbertraceUserId) (config : UbertraceCaptureConfig) (pc : RequestBeginTracePc) (answer : Answer)
    (e : Effect RequestBeginTracePc)
    (inside : requestBeginTraceStep o free joined fresh thread user config pc answer = some e) :
    let whole : CallerEffect := { e.inCall (.requestBeginTrace user config) with spawned := spawnedBy user config pc }
    (pc.starting = false ∧ QuietStep o joined whole) ∨
      ∃ capture, StartStep o joined thread user config capture pc whole := by
  revert inside
  fun_cases requestBeginTraceStep o free joined fresh thread user config pc answer
  all_goals intro inside
  all_goals cases inside
  case case5 => exact .inl ⟨rfl, rfl, .inl rfl, fun other => set_state_settled o .error _ other rfl, rfl, rfl,
    fun _ _ member => by simp_all⟩
  case case8 => exact .inl ⟨rfl, reset_waiting_capturing_user o user, .inl (reset_waiting_thread o user),
    reset_waiting_settled o user, rfl, rfl, by simp⟩
  all_goals first
    | exact .inl ⟨rfl, rfl, .inl rfl, fun _ capturing => capturing, rfl, rfl, by simp⟩
    | exact .inr ⟨_, .join (by simp_all)⟩
    | exact .inr ⟨_, .poll⟩
    | exact .inr ⟨_, .capturing⟩
    | exact .inr ⟨_, .owner⟩
    | exact .inr ⟨_, .thread⟩

theorem touch_settled (o : UbertraceOrchestrator) (user other : UbertraceUserId)
    (capturing : ((o.touchUserState user).getUserState other).inCapture = true) :
    (o.getUserState other).inCapture = true := by
  rwa [get_user_state_touch] at capturing

theorem initialize_quiet (o : UbertraceOrchestrator) (free joined enable : Bool) (user : UbertraceUserId)
    (pc : InitializePc) (answer : Answer) (e : Effect InitializePc)
    (next : initializeStep o free user enable pc answer = some e) :
    QuietStep o joined (e.inCall (.initializeUser user enable)) := by
  revert next
  fun_cases initializeStep o free user enable pc answer
  all_goals intro next
  all_goals cases next
  all_goals first
    | exact ⟨rfl, .inl rfl, fun _ capturing => capturing, rfl, rfl, by simp⟩
    | exact ⟨rfl, .inl rfl, touch_settled o user, rfl, rfl, by simp⟩
    | exact ⟨rfl, .inl rfl, fun other => set_state_settled o _ user other rfl, rfl, rfl, by simp⟩

theorem disconnect_quiet (o : UbertraceOrchestrator) (free joined : Bool) (user : UbertraceUserId)
    (pc : DisconnectPc) (answer : Answer) (e : Effect DisconnectPc)
    (next : disconnectStep o free joined user pc answer = some e) :
    QuietStep o joined (e.inCall (.disconnect user)) := by
  revert next
  fun_cases disconnectStep o free joined user pc answer
  all_goals intro next
  all_goals cases next
  all_goals first
    | exact ⟨rfl, .inl rfl, fun _ capturing => capturing, rfl, rfl, by simp⟩
    | exact ⟨rfl, .inr ⟨by simp_all, rfl⟩, fun _ capturing => capturing, rfl, rfl, by simp⟩
    | exact ⟨rfl, .inl rfl, fun other => set_state_settled o _ _ other rfl, rfl, rfl, by simp⟩

theorem handle_driver_state_quiet (o : UbertraceOrchestrator) (free joined : Bool) (user : UbertraceUserId)
    (state : DdDriverState) (pc : HandleDriverStatePc) (answer : Answer) (e : Effect HandleDriverStatePc)
    (next : handleDriverStateStep o free user state pc answer = some e) :
    QuietStep o joined (e.inCall (.handleDriverState user state)) := by
  revert next
  fun_cases handleDriverStateStep o free user state pc answer
  all_goals intro next
  all_goals cases next
  all_goals exact ⟨rfl, .inl rfl, fun _ capturing => capturing, rfl, rfl, by simp⟩

theorem request_abort_trace_quiet (o : UbertraceOrchestrator) (free joined : Bool) (user : UbertraceUserId)
    (pc : RequestAbortTracePc) (answer : Answer) (e : Effect RequestAbortTracePc)
    (next : requestAbortTraceStep o free user pc answer = some e) :
    QuietStep o joined (e.inCall (.requestAbortTrace user)) := by
  revert next
  fun_cases requestAbortTraceStep o free user pc answer
  all_goals intro next
  all_goals cases next
  all_goals first
    | exact ⟨rfl, .inl rfl, fun _ capturing => capturing, rfl, rfl, by simp⟩
    | exact ⟨rfl, .inl rfl, fun other => set_state_settled o _ _ other rfl, rfl, rfl, by simp⟩

theorem prepare_for_delayed_capture_quiet (o : UbertraceOrchestrator) (joined : Bool) (user : UbertraceUserId)
    (next : UbertraceOrchestrator) (result : Result) (events : List Event)
    (refused : ∀ other config, .returned (.requestBeginTrace other config) .success ∉ events)
    (prepared : o.prepareForDelayedCapture user = some (next, result)) :
    QuietStep o joined ⟨next, .outside, .keep, events, none⟩ := by
  obtain ⟨state, _, prepares⟩ := Option.map_eq_some_iff.mp prepared
  by_cases notReady : state ≠ .idle ∨ (o.disabledUsers user).isSome
  · rw [if_pos notReady] at prepares
    cases prepares
    exact ⟨rfl, .inl rfl, fun _ capturing => capturing, rfl, rfl, refused⟩
  · rw [if_neg notReady] at prepares
    cases prepares
    exact ⟨rfl, .inl rfl, fun other => set_state_settled o _ _ other rfl, rfl, rfl, refused⟩

-- Every step of every call is quiet, or one of the five that start a capture.
theorem caller_cases (o : UbertraceOrchestrator) (free joined : Bool) (fresh thread : Nat) (pc : CallerPc)
    (answer : Answer) (e : CallerEffect) (next : callerStep o free joined fresh thread pc answer = some e) :
    (pc.startingFor = none ∧ QuietStep o joined e) ∨
    ∃ user config at_ capture, pc = .requestBeginTrace user config at_ ∧
      StartStep o joined thread user config capture at_ e := by
  refine caller_rule o free joined fresh thread
    (fun pc _ e => (pc.startingFor = none ∧ QuietStep o joined e) ∨ ∃ user config at_ capture,
      pc = .requestBeginTrace user config at_ ∧ StartStep o joined thread user config capture at_ e)
    ?_ ?_ ?_ ?_ ?_ ?_ ?_ ?_ ?_ ?_ pc answer e next
  · intro user enable pc answer e inside
    exact .inl ⟨rfl, initialize_quiet o free joined enable user pc answer e inside⟩
  · intro user pc answer e inside
    exact .inl ⟨rfl, disconnect_quiet o free joined user pc answer e inside⟩
  · intro user state pc answer e inside
    exact .inl ⟨rfl, handle_driver_state_quiet o free joined user state pc answer e inside⟩
  · intro user pc answer e inside
    exact .inl ⟨rfl, request_abort_trace_quiet o free joined user pc answer e inside⟩
  · intro user config pc answer e inside
    obtain ⟨early, quiet⟩ | ⟨capture, starts⟩ :=
      request_begin_cases o free joined fresh thread user config pc answer e inside
    · exact .inl ⟨by simp only [CallerPc.startingFor, early, Bool.false_eq_true, if_false], quiet⟩
    · exact .inr ⟨user, config, pc, capture, rfl, starts⟩
  · intro sources _
    exact .inl ⟨rfl, rfl, .inl rfl, fun _ capturing => capturing, rfl, rfl, by simp⟩
  · intro params
    cases params <;> exact .inl ⟨rfl, rfl, .inl rfl, fun _ capturing => capturing, rfl, rfl, by simp⟩
  · intro user _ _
    exact .inl ⟨rfl, rfl, .inl rfl, fun _ capturing => capturing, rfl, rfl, by simp⟩
  · intro user next result _ prepared
    exact .inl ⟨rfl, prepare_for_delayed_capture_quiet o joined user next result _ (by simp) prepared⟩
  · intro user disabled _
    exact .inl ⟨rfl, rfl, .inl rfl, fun other => set_state_settled _ _ _ other rfl, rfl, rfl, by simp⟩

-- What every step of a polling thread does. It can only show a capture for the
-- user it works for, and it takes that back before it stops working for it.
structure PollerStep (o : UbertraceOrchestrator) (p : Poller) (e : PollerEffect) : Prop where
  owner : e.poller.owner = p.owner
  thread : e.orch.tracePollingThread = o.tracePollingThread
  alive : p.pc.alive = true
  user : ∀ user, e.poller.user e.orch = some user → p.user o = some user
  capturingUser : e.orch.capturingUser = o.capturingUser ∨ p.pc.polling = true ∧ e.poller.pc.polling = false
  states : ∀ user, (e.orch.getUserState user).inCapture = true →
    (o.getUserState user).inCapture = true ∨ p.user o = some user
  released : e.poller.user e.orch = none → ∀ user, p.user o = some user →
    (e.orch.getUserState user).inCapture = false

theorem set_state_elsewhere_or_here (o : UbertraceOrchestrator) (state : ClientState) (user other : UbertraceUserId)
    (capturing : ((o.setState state user).getUserState other).inCapture = true) :
    (o.getUserState other).inCapture = true ∨ some user = some other := by
  rw [get_user_state_set] at capturing
  by_cases same : other = user
  · exact .inr (congrArg some same.symm)
  · rw [if_neg same] at capturing
    exact .inl capturing

theorem set_state_released (o : UbertraceOrchestrator) (state : ClientState) (user other : UbertraceUserId)
    (settled : state.inCapture = false) (same : some user = some other) :
    ((o.setState state user).getUserState other).inCapture = false := by
  cases same
  rw [get_user_state_set, if_pos rfl]
  exact settled

-- The three ways a completion section ends.
theorem completion_step (o : UbertraceOrchestrator) (p : Poller) (user : UbertraceUserId) (state : ClientState)
    (events : List Event) (working : p.user o = some user) (settled : state.inCapture = false) :
    PollerStep o p ⟨o.setState state user, { p with pc := .ended }, .release, events⟩ := by
  refine ⟨rfl, rfl, poller_user_alive o p user working, fun other works => ?_, .inl rfl, fun other => ?_,
    fun _ other => ?_⟩
  · cases works
  · rw [working]
    exact set_state_elsewhere_or_here o state user other
  · rw [working]
    exact set_state_released o state user other settled

theorem post_processed_same (p : Poller) (chunks : Option Result) :
    (p.postProcessed chunks).owner = p.owner ∧ (p.postProcessed chunks).capture = p.capture ∧
      (p.postProcessed chunks).config = p.config := by
  unfold Poller.postProcessed
  split
  · exact ⟨rfl, rfl, rfl⟩
  · split <;> exact ⟨rfl, rfl, rfl⟩

theorem poller_keeps (o : UbertraceOrchestrator) (free : Bool) (thread : Nat) (p : Poller)
    (e : PollerEffect) (move : PollerMove o free thread p e) :
    e.poller.owner = p.owner ∧ e.poller.capture = p.capture ∧ e.poller.config = p.config ∧ e.poller.pc ≠ .absent := by
  cases move with
  | retry result chunks here | collect chunks here =>
      obtain ⟨owner, capture, config⟩ := post_processed_same p chunks
      exact ⟨owner, capture, config, nofun⟩
  | complete user collected here => cases collected <;> exact ⟨rfl, rfl, rfl, nofun⟩
  | writing here | cancelRetry user here => exact ⟨rfl, rfl, rfl, by rw [here]; nofun⟩
  | _ => exact ⟨rfl, rfl, rfl, nofun⟩

theorem polling_user (o : UbertraceOrchestrator) (p : Poller) (polls : p.pc.polling = true) :
    p.user o = some o.capturingUser := by
  simp only [Poller.user, polls, if_true]

theorem completing_user (o : UbertraceOrchestrator) (p : Poller) (user : UbertraceUserId)
    (polls : p.pc.polling = false) (completes : p.pc.completingFor = some user) : p.user o = some user := by
  simp only [Poller.user, polls, completes, Bool.false_eq_true, if_false]

-- A move that leaves the states alone and keeps working for the same user.
theorem working_step (o next : UbertraceOrchestrator) (p q : Poller) (use : LockUse) (events : List Event)
    (owner : q.owner = p.owner) (thread : next.tracePollingThread = o.tracePollingThread)
    (user : UbertraceUserId) (working : p.user o = some user) (goesOn : q.user next = some user)
    (capturingUser : next.capturingUser = o.capturingUser ∨ p.pc.polling = true ∧ q.pc.polling = false)
    (states : ∀ other, (next.getUserState other).inCapture = true →
      (o.getUserState other).inCapture = true ∨ some user = some other) :
    PollerStep o p ⟨next, q, use, events⟩ := by
  refine ⟨owner, thread, poller_user_alive o p user working, fun other works => ?_, capturingUser, ?_,
    fun idle => ?_⟩
  · rw [working, ← goesOn]
    exact works
  · rw [working]
    exact states
  · rw [goesOn] at idle
    cases idle

theorem poller_cases (o : UbertraceOrchestrator) (free : Bool) (thread : Nat) (p : Poller)
    (e : PollerEffect) (move : PollerMove o free thread p e) : PollerStep o p e := by
  have same : ∀ other, (o.getUserState other).inCapture = true →
      (o.getUserState other).inCapture = true ∨ some o.capturingUser = some other := fun _ => .inl
  cases move with
  | poll path here | stop here =>
      have working := polling_user o p (by rw [here]; rfl)
      exact working_step o _ p _ _ _ rfl rfl _ working rfl (.inl rfl) same
  | writing here =>
      have working := polling_user o p (by rw [here]; rfl)
      refine working_step o _ p _ _ _ rfl rfl _ working ?_ (.inl rfl) ?_
      · exact polling_user _ p (by rw [here]; rfl)
      · exact set_state_elsewhere_or_here o .dumping o.capturingUser
  | retry result chunks here | collect chunks here =>
      have working := polling_user o p (by rw [here]; rfl)
      have owner := (post_processed_same p chunks).1
      exact working_step o _ p _ _ _ owner rfl _ working rfl (.inl rfl) same
  | exchange collected here =>
      have working := polling_user o p (by rw [here]; rfl)
      exact working_step o _ p _ _ _ rfl rfl _ working rfl (.inr ⟨by rw [here]; rfl, rfl⟩) same
  | complete user collected here =>
      have working := completing_user o p user (by rw [here]; rfl) (by rw [here]; rfl)
      refine working_step o _ p _ _ _ rfl ?_ user working ?_ (.inl ?_) fun other capturing => .inl ?_
      · split <;> rfl
      · cases collected <;> rfl
      · split <;> rfl
      · split at capturing
        · exact set_state_settled _ .done user other rfl capturing
        · exact capturing
  | chunksFailed user here | completed user here | handedOver user here | aborted user here
  | cancelFailed user here =>
      have working := completing_user o p user (by rw [here]; rfl) (by rw [here]; rfl)
      exact completion_step o p user _ _ working (by first | rfl | exact final_state_settled _)
  | postProcess user here =>
      have working := completing_user o p user (by rw [here]; rfl) (by rw [here]; rfl)
      exact working_step o _ p _ _ _ rfl rfl user working rfl (.inl rfl)
        (set_state_elsewhere_or_here o .postProcessing user)
  | abort user here =>
      have working := completing_user o p user (by rw [here]; rfl) (by rw [here]; rfl)
      exact working_step o _ p _ _ _ rfl rfl user working rfl (.inl rfl)
        (fun other capturing => .inl (set_state_settled o .busy _ other rfl capturing))
  | cancelRetry user here =>
      have working := completing_user o p user (by rw [here]; rfl) (by rw [here]; rfl)
      exact working_step o _ p _ _ _ rfl rfl user working working (.inl rfl) (fun _ => .inl)
  | ended here =>
      have idle : p.user o = none := by rw [Poller.user, here]; rfl
      refine ⟨rfl, rfl, by rw [here]; rfl, nofun, .inl rfl, fun _ => .inl, fun _ user works => ?_⟩
      rw [idle] at works
      cases works

-- One live polling thread at most, and it is the one a join would wait for. It
-- works for the user that started it, and a user only shows a capture while its
-- request is about to start a thread or a thread works for it.
structure State.Owned (s : State) : Prop where
  handle : ∀ thread, (s.pollers thread).pc.alive = true → s.orch.tracePollingThread = some thread
  starting : ∀ id user, (s.callers id).startingFor = some user → s.orch.tracePollingThread = none
  worker : ∀ thread user, (s.pollers thread).user s.orch = some user → user = (s.pollers thread).owner
  claimed : ∀ id user config capture, s.callers id = .requestBeginTrace user config (.thread capture) →
    s.orch.capturingUser = user
  capturing : ∀ user, (s.orch.getUserState user).inCapture = true →
    (∃ id, (s.callers id).capturingFor = some user) ∨ ∃ thread, (s.pollers thread).user s.orch = some user

theorem poller_user_same (o next : UbertraceOrchestrator) (p : Poller)
    (same : next.capturingUser = o.capturingUser) : p.user next = p.user o := by
  rw [Poller.user, Poller.user, same]

theorem starting_holds_lock (pc : CallerPc) (user : UbertraceUserId) (starting : pc.startingFor = some user) :
    pc.holdsLock = true := by
  cases pc with
  | requestBeginTrace other config pc =>
      cases pc with
      | lock => cases starting
      | _ => rfl
  | _ => cases starting

theorem capturing_starting (pc : CallerPc) (user : UbertraceUserId) (capturing : pc.capturingFor = some user) :
    pc.startingFor = some user := by
  cases pc with
  | requestBeginTrace other config pc =>
      cases pc with
      | owner capture | thread capture => exact capturing
      | _ => cases capturing
  | _ => cases capturing

theorem start_step_starting (o : UbertraceOrchestrator) (joined : Bool) (thread : Nat) (user : UbertraceUserId)
    (config : UbertraceCaptureConfig) (capture : Nat) (pc : RequestBeginTracePc) (e : CallerEffect)
    (starts : StartStep o joined thread user config capture pc e) : pc.holdsLock = true := by
  cases starts <;> rfl

theorem starting_unique (s : State) (locked : s.Locked) (a b : Nat) (user : UbertraceUserId)
    (starting : (s.callers a).startingFor = some user) (inside : (s.callers b).holdsLock = true) : a = b := by
  have aInside : s.holds (.caller a) := starting_holds_lock _ user starting
  exact Task.caller.inj (guarded_unique s.mutex s.holds locked (.caller a) (.caller b) aInside inside)

theorem joined_all_exited (s : State) (owned : s.Owned) (joined : s.joined = true) (thread : Nat) :
    (s.pollers thread).pc.alive = false := by
  by_contra alive
  have handle := owned.handle thread (by simpa only [Bool.not_eq_false] using alive)
  rw [State.joined, handle] at joined
  have exited : (s.pollers thread).pc = .exited := by simpa only [decide_eq_true_eq] using joined
  rw [exited] at alive
  exact alive rfl

theorem starting_all_exited (s : State) (owned : s.Owned) (id : Nat) (user : UbertraceUserId)
    (starting : (s.callers id).startingFor = some user) (thread : Nat) :
    (s.pollers thread).pc.alive = false := by
  by_contra alive
  have handle := owned.handle thread (by simpa only [Bool.not_eq_false] using alive)
  rw [owned.starting id user starting] at handle
  cases handle

theorem owned_call (s : State) (id : Nat) (call : Call) (owned : s.Owned) (outside : s.callers id = .outside) :
    State.Owned { s with callers := Function.update s.callers id (.enter call) } := by
  have elsewhere : ∀ other user, (Function.update s.callers id (.enter call) other).startingFor = some user →
      (s.callers other).startingFor = some user := by
    intro other user starting
    by_cases same : other = id
    · rw [same, Function.update_self] at starting
      cases call <;> cases starting
    · rwa [Function.update_of_ne same] at starting
  refine ⟨owned.handle, ?_, owned.worker, ?_, ?_⟩
  · intro other user starting
    exact owned.starting other user (elsewhere other user starting)
  · intro other user config capture here
    by_cases same : other = id
    · simp only [same, Function.update_self] at here
      cases call <;> cases here
    · simp only [Function.update_of_ne same] at here
      exact owned.claimed other user config capture here
  · intro user shows
    obtain ⟨other, capturing⟩ | works := owned.capturing user shows
    · have apart : other ≠ id := by
        rintro rfl
        rw [outside] at capturing
        cases capturing
      exact .inl ⟨other, by simpa only [Function.update_of_ne apart] using capturing⟩
    · exact .inr works

theorem owned_quiet (s : State) (id : Nat) (e : CallerEffect) (owned : s.Owned)
    (elsewhere : (s.callers id).startingFor = none) (quiet : QuietStep s.orch s.joined e) :
    (s.applyCaller id e).Owned := by
  have pollers := apply_caller_pollers s id e quiet.spawned
  have users : ∀ p : Poller, p.user (s.applyCaller id e).orch = p.user s.orch :=
    fun p => poller_user_same _ _ p quiet.capturingUser
  have others : ∀ other user, ((s.applyCaller id e).callers other).startingFor = some user →
      other ≠ id ∧ (s.applyCaller id e).callers other = s.callers other := by
    intro other user starting
    have apart : other ≠ id := by
      rintro rfl
      simp only [State.applyCaller, Function.update_self, quiet.pc] at starting
      cases starting
    exact ⟨apart, Function.update_of_ne apart _ _⟩
  refine ⟨?_, ?_, ?_, ?_, ?_⟩
  · intro thread alive
    rw [pollers] at alive
    obtain same | ⟨joined, _⟩ := quiet.thread
    · exact same.trans (owned.handle thread alive)
    · rw [joined_all_exited s owned joined thread] at alive
      cases alive
  · intro other user starting
    obtain ⟨_, unchanged⟩ := others other user starting
    rw [unchanged] at starting
    obtain same | ⟨_, none⟩ := quiet.thread
    · exact same.trans (owned.starting other user starting)
    · exact none
  · intro thread user works
    rw [pollers, users] at works
    rw [pollers]
    exact owned.worker thread user works
  · intro other user config capture here
    obtain ⟨_, unchanged⟩ := others other user (by rw [here]; rfl)
    rw [unchanged] at here
    exact quiet.capturingUser.trans (owned.claimed other user config capture here)
  · intro user shows
    obtain ⟨other, capturing⟩ | ⟨thread, works⟩ := owned.capturing user (quiet.states user shows)
    · have apart : other ≠ id := by
        rintro rfl
        rw [capturing_starting _ user capturing] at elsewhere
        cases elsewhere
      refine .inl ⟨other, ?_⟩
      rwa [show (s.applyCaller id e).callers other = s.callers other from Function.update_of_ne apart _ _]
    · refine .inr ⟨thread, ?_⟩
      rwa [pollers, users]

-- While a capture is being started no thread lives, so that only the request
-- itself can account for what the states show.
theorem owned_starting (s : State) (id : Nat) (e : CallerEffect) (locked : s.Locked)
    (inside : (s.callers id).holdsLock = true) (exited : ∀ thread, (s.pollers thread).pc.alive = false)
    (spawned : e.spawned = none) (thread : e.orch.tracePollingThread = none)
    (claims : ∀ user config capture, e.pc = .requestBeginTrace user config (.thread capture) →
      e.orch.capturingUser = user)
    (shows : ∀ user, (e.orch.getUserState user).inCapture = true → e.pc.capturingFor = some user) :
    (s.applyCaller id e).Owned := by
  have pollers := apply_caller_pollers s id e spawned
  have here : (s.applyCaller id e).callers id = e.pc := Function.update_self _ _ _
  refine ⟨?_, fun _ _ _ => thread, ?_, ?_, ?_⟩
  · intro other alive
    rw [pollers, exited other] at alive
    cases alive
  · intro other user works
    rw [pollers] at works
    have alive := poller_user_alive _ _ user works
    rw [exited other] at alive
    cases alive
  · intro other user config capture at_
    by_cases same : other = id
    · rw [same, here] at at_
      exact claims user config capture at_
    · have unchanged : (s.applyCaller id e).callers other = s.callers other := Function.update_of_ne same _ _
      rw [unchanged] at at_
      exact absurd (starting_unique s locked other id user (by rw [at_]; rfl) inside) same
  · intro user capturing
    exact .inl ⟨id, by rw [here]; exact shows user capturing⟩

theorem owned_thread (s : State) (id : Nat) (user : UbertraceUserId) (config : UbertraceCaptureConfig)
    (capture : Nat) (locked : s.Locked) (owned : s.Owned)
    (here : s.callers id = .requestBeginTrace user config (.thread capture)) :
    (s.applyCaller id ⟨{ s.orch with tracePollingThread := some s.threads }, .outside, .release,
      [.returned (.requestBeginTrace user config) .success], some (.start user capture config)⟩).Owned := by
  have starting : (s.callers id).startingFor = some user := by rw [here]; rfl
  have exited := starting_all_exited s owned id user starting
  have alone : ∀ other next, (s.callers other).startingFor = some next → other = id := by
    intro other next starts
    exact starting_unique s locked other id next starts (starting_holds_lock _ user starting)
  have claimed := owned.claimed id user config capture here
  have nobody : ∀ other next, (Function.update s.callers id .outside other).startingFor ≠ some next := by
    intro other next starts
    by_cases same : other = id
    · rw [same, Function.update_self] at starts
      cases starts
    · rw [Function.update_of_ne same] at starts
      exact same (alone other next starts)
  refine ⟨?_, ?_, ?_, ?_, ?_⟩
  · intro thread alive
    by_cases same : thread = s.threads
    · exact congrArg some same.symm
    · simp only [State.applyCaller, Option.elim_some, Function.update_of_ne same, exited thread] at alive
      cases alive
  · intro other next starts
    exact absurd starts (nobody other next)
  · intro thread next works
    by_cases same : thread = s.threads
    · subst same
      simp only [State.applyCaller, Option.elim_some, Function.update_self] at works ⊢
      cases works
      exact claimed
    · simp only [State.applyCaller, Option.elim_some, Function.update_of_ne same] at works
      have alive := poller_user_alive _ _ next works
      rw [exited thread] at alive
      cases alive
  · intro other next config capture at_
    have starts : (Function.update s.callers id .outside other).startingFor = some next := by
      rw [show Function.update s.callers id .outside other = _ from at_]
      rfl
    exact absurd starts (nobody other next)
  · intro next shows
    obtain ⟨other, capturing⟩ | ⟨thread, works⟩ := owned.capturing next shows
    · have same := alone other next (capturing_starting _ next capturing)
      rw [same, here] at capturing
      refine .inr ⟨s.threads, ?_⟩
      simp only [State.applyCaller, Option.elim_some, Function.update_self]
      rw [← capturing]
      exact congrArg some claimed
    · have alive := poller_user_alive _ _ next works
      rw [exited thread] at alive
      cases alive

theorem owned_start (s : State) (id : Nat) (user : UbertraceUserId) (config : UbertraceCaptureConfig)
    (pc : RequestBeginTracePc) (capture : Nat) (e : CallerEffect) (locked : s.Locked) (owned : s.Owned)
    (here : s.callers id = .requestBeginTrace user config pc)
    (starts : StartStep s.orch s.joined s.threads user config capture pc e) : (s.applyCaller id e).Owned := by
  have inside : (s.callers id).holdsLock = true := by
    rw [here]
    exact start_step_starting _ _ _ _ _ _ _ _ starts
  -- What a state shows before the step is the request's own doing, too.
  have before : (∀ thread, (s.pollers thread).pc.alive = false) → ∀ next,
      (s.orch.getUserState next).inCapture = true → (s.callers id).capturingFor = some next := by
    intro exited next shows
    obtain ⟨other, capturing⟩ | ⟨thread, works⟩ := owned.capturing next shows
    · rwa [← starting_unique s locked other id next (capturing_starting _ next capturing) inside]
    · have alive := poller_user_alive _ _ next works
      rw [exited thread] at alive
      cases alive
  cases starts with
  | join waited =>
      have exited := joined_all_exited s owned waited
      refine owned_starting s id _ locked inside exited rfl rfl nofun fun next shows => ?_
      have impossible := before exited next shows
      rw [here] at impossible
      cases impossible
  | poll =>
      have exited := starting_all_exited s owned id user (by rw [here]; rfl)
      have handle := owned.starting id user (by rw [here]; rfl)
      refine owned_starting s id _ locked inside exited rfl handle nofun fun next shows => ?_
      have impossible := before exited next shows
      rw [here] at impossible
      cases impossible
  | capturing =>
      have exited := starting_all_exited s owned id user (by rw [here]; rfl)
      have handle := owned.starting id user (by rw [here]; rfl)
      refine owned_starting s id _ locked inside exited rfl handle nofun fun next shows => ?_
      obtain elsewhere | same := set_state_elsewhere_or_here s.orch .capturing user next shows
      · have impossible := before exited next elsewhere
        rw [here] at impossible
        cases impossible
      · exact same
  | owner =>
      have exited := starting_all_exited s owned id user (by rw [here]; rfl)
      have handle := owned.starting id user (by rw [here]; rfl)
      refine owned_starting s id _ locked inside exited rfl handle ?_ fun next shows => ?_
      · intro next other capture same
        cases same
        rfl
      · have mine := before exited next shows
        rwa [here] at mine
  | thread => exact owned_thread s id user config capture locked owned here

theorem owned_poller (s : State) (id : Nat) (e : PollerEffect) (owned : s.Owned)
    (moves : PollerStep s.orch (s.pollers id) e) (unlessStarting : ∀ caller user,
      (s.callers caller).startingFor = some user → (s.pollers id).pc.alive = false) :
    (s.applyPoller id e).Owned := by
  have mine := owned.handle id moves.alive
  have others : ∀ other, other ≠ id → (s.pollers other).pc.alive = false := by
    intro other apart
    by_contra alive
    have handle := owned.handle other (by simpa only [Bool.not_eq_false] using alive)
    rw [mine] at handle
    exact apart (Option.some.inj handle).symm
  have nobody : ∀ caller user, (s.callers caller).startingFor ≠ some user := by
    intro caller user starting
    have exited := unlessStarting caller user starting
    rw [moves.alive] at exited
    cases exited
  have here : (s.applyPoller id e).pollers id = e.poller := Function.update_self _ _ _
  have elsewhere : ∀ other, other ≠ id → (s.applyPoller id e).pollers other = s.pollers other :=
    fun other apart => Function.update_of_ne apart _ _
  refine ⟨?_, ?_, ?_, ?_, ?_⟩
  · intro other alive
    by_cases same : other = id
    · rw [same]
      exact moves.thread.trans mine
    · rw [elsewhere other same, others other same] at alive
      cases alive
  · intro caller user starting
    exact absurd starting (nobody caller user)
  · intro other user works
    by_cases same : other = id
    · subst same
      rw [here] at works ⊢
      rw [moves.owner]
      exact owned.worker other user (moves.user user works)
    · rw [elsewhere other same] at works
      have alive := poller_user_alive _ _ user works
      rw [others other same] at alive
      cases alive
  · intro caller user config capture at_
    exact absurd (show (s.callers caller).startingFor = some user by
      rw [show s.callers caller = _ from at_]; rfl) (nobody caller user)
  · intro user shows
    have worked : (s.pollers id).user s.orch = some user := by
      obtain before | works := moves.states user shows
      · obtain ⟨caller, capturing⟩ | ⟨other, works⟩ := owned.capturing user before
        · exact absurd (capturing_starting _ user capturing) (nobody caller user)
        · by_cases same : other = id
          · rwa [← same]
          · have alive := poller_user_alive _ _ user works
            rw [others other same] at alive
            cases alive
      · exact works
    refine .inr ⟨id, ?_⟩
    rw [here]
    cases goesOn : e.poller.user e.orch with
    | none =>
        have released := moves.released goesOn user worked
        rw [show e.orch.getUserState user = (s.applyPoller id e).orch.getUserState user from rfl, shows] at released
        cases released
    | some next =>
        have same := moves.user next goesOn
        rw [worked] at same
        exact goesOn.trans same.symm

theorem owned_step (s t : State) (a : Action) (locked : s.Locked) (owned : s.Owned) (next : step s a = some t) :
    t.Owned := by
  rcases step_cases s t a next with ⟨_, rfl⟩ | ⟨id, call, _, outside, rfl⟩ |
    ⟨id, answer, e, _, effect, rfl⟩ | ⟨id, answer, e, _, effect, rfl⟩
  · exact ⟨owned.handle, owned.starting, owned.worker, owned.claimed, owned.capturing⟩
  · exact owned_call s id call owned outside
  · obtain ⟨elsewhere, quiet⟩ | ⟨user, config, pc, capture, here, starts⟩ := caller_cases _ _ _ _ _ _ _ _ effect
    · exact owned_quiet s id e owned elsewhere quiet
    · exact owned_start s id user config pc capture e locked owned here starts
  · have moves := poller_cases _ _ _ _ _ (poller_moves _ _ _ _ _ _ effect)
    exact owned_poller s id e owned moves fun caller user starting =>
      starting_all_exited s owned caller user starting id

theorem reachable_owned (features : UbertraceFeatures) (s : State)
    (reach : Reachable (ubertrace features) s) : s.Owned := by
  refine reach_invariant (ubertrace features) unrestricted State.Owned ⟨nofun, nofun, nofun, nofun, nofun⟩ ?_ s reach
  intro s a t before owned _ next
  exact owned_step s t a (reachable_locked features s before) owned next

theorem poller_returns_nothing (o : UbertraceOrchestrator) (free : Bool) (thread : Nat) (p : Poller)
    (e : PollerEffect) (move : PollerMove o free thread p e) (call : Call) (result : Result) :
    .returned call result ∉ e.events := by
  cases move <;> simp

-- A request succeeds in one step only, the one that starts the polling thread.
theorem begin_success_cases (s t : State) (a : Action) (new : List Event) (user : UbertraceUserId)
    (config : UbertraceCaptureConfig) (next : step s a = some t) (log : t.log = new ++ s.log)
    (succeeds : .returned (.requestBeginTrace user config) .success ∈ new) :
    ∃ id capture, s.callers id = .requestBeginTrace user config (.thread capture) ∧
      t = s.applyCaller id ⟨{ s.orch with tracePollingThread := some s.threads }, .outside, .release,
        [.returned (.requestBeginTrace user config) .success], some (.start user capture config)⟩ := by
  rcases step_cases s t a next with ⟨_, rfl⟩ | ⟨id, call, _, outside, rfl⟩ |
    ⟨id, answer, e, _, effect, rfl⟩ | ⟨id, answer, e, _, effect, rfl⟩
  · rw [List.self_eq_append_left.mp log] at succeeds
    cases succeeds
  · rw [List.self_eq_append_left.mp log] at succeeds
    cases succeeds
  · rw [← List.append_cancel_right log] at succeeds
    obtain ⟨_, quiet⟩ | ⟨other, otherConfig, pc, capture, here, starts⟩ := caller_cases _ _ _ _ _ _ _ _ effect
    · exact absurd succeeds (quiet.refused user config)
    · cases starts with
      | thread =>
          obtain ⟨same, sameConfig⟩ : user = other ∧ config = otherConfig := by simpa using succeeds
          subst same sameConfig
          exact ⟨id, capture, here, rfl⟩
      | _ => simp at succeeds
  · rw [← List.append_cancel_right log] at succeeds
    exact absurd succeeds (poller_returns_nothing _ _ _ _ _ (poller_moves _ _ _ _ _ _ effect) _ _)

-- A capture lasts from the moment the user's state shows it until its thread has exited.
def State.captureInProgress (s : State) (user : UbertraceUserId) : Prop :=
  (s.orch.getUserState user).inCapture = true ∨
    ∃ thread, (s.pollers thread).pc.alive = true ∧ (s.pollers thread).owner = user

theorem capturing_unique (s : State) (locked : s.Locked) (owned : s.Owned) (a b : UbertraceUserId)
    (aShows : (s.orch.getUserState a).inCapture = true) (bShows : (s.orch.getUserState b).inCapture = true) :
    a = b := by
  have apart : ∀ caller thread x y, (s.callers caller).capturingFor = some x →
      (s.pollers thread).user s.orch = some y → a = b := by
    intro caller thread x y capturing works
    have exited := starting_all_exited s owned caller x (capturing_starting _ x capturing) thread
    rw [poller_user_alive _ _ y works] at exited
    cases exited
  obtain ⟨i, aCaller⟩ | ⟨m, aPoller⟩ := owned.capturing a aShows
  · obtain ⟨j, bCaller⟩ | ⟨n, bPoller⟩ := owned.capturing b bShows
    · have aStarts := capturing_starting _ a aCaller
      have bStarts := capturing_starting _ b bCaller
      have same := starting_unique s locked i j a aStarts (starting_holds_lock _ b bStarts)
      rw [same, bCaller] at aCaller
      exact (Option.some.inj aCaller).symm
    · exact apart i n a b aCaller bPoller
  · obtain ⟨j, bCaller⟩ | ⟨n, bPoller⟩ := owned.capturing b bShows
    · exact apart j m b a bCaller aPoller
    · have aHandle := owned.handle m (poller_user_alive _ _ a aPoller)
      have bHandle := owned.handle n (poller_user_alive _ _ b bPoller)
      rw [aHandle] at bHandle
      rw [Option.some.inj bHandle, bPoller] at aPoller
      exact (Option.some.inj aPoller).symm

theorem begin_success_alone (s t : State) (a : Action) (new : List Event) (user other : UbertraceUserId)
    (config : UbertraceCaptureConfig) (locked : s.Locked) (owned : s.Owned) (after : t.Owned)
    (next : step s a = some t) (log : t.log = new ++ s.log)
    (succeeds : .returned (.requestBeginTrace user config) .success ∈ new) (different : other ≠ user) :
    ¬ s.captureInProgress other ∧ ¬ t.captureInProgress other := by
  obtain ⟨id, capture, here, rfl⟩ := begin_success_cases s t a new user config next log succeeds
  have exited := starting_all_exited s owned id user (by rw [here]; rfl)
  have quiet : (s.orch.getUserState other).inCapture ≠ true := by
    intro shows
    obtain ⟨caller, capturing⟩ | ⟨thread, works⟩ := owned.capturing other shows
    · have same := starting_unique s locked caller id other (capturing_starting _ other capturing) (by rw [here]; rfl)
      rw [same, here] at capturing
      exact different (Option.some.inj capturing).symm
    · have alive := poller_user_alive _ _ other works
      rw [exited thread] at alive
      cases alive
  refine ⟨?_, ?_⟩
  · rintro (shows | ⟨thread, alive, _⟩)
    · exact quiet shows
    · rw [exited thread] at alive
      cases alive
  · rintro (shows | ⟨thread, alive, owner⟩)
    · exact quiet shows
    · have fresh := after.handle thread alive
      cases fresh
      simp only [State.applyCaller, Option.elim_some, Function.update_self] at owner
      exact different owner.symm

theorem captures_exclude_each_other (features : UbertraceFeatures) (s : State)
    (reach : Reachable (ubertrace features) s) :
    (∀ a b, (s.orch.getUserState a).inCapture = true → (s.orch.getUserState b).inCapture = true → a = b) ∧
    ∀ action t new user config, step s action = some t → t.log = new ++ s.log →
      .returned (.requestBeginTrace user config) .success ∈ new →
      ∀ other, other ≠ user → ¬ s.captureInProgress other ∧ ¬ t.captureInProgress other := by
  have locked := reachable_locked features s reach
  have owned := reachable_owned features s reach
  refine ⟨capturing_unique s locked owned, ?_⟩
  intro action t new user config next log succeeds other different
  have after := owned_step s t action locked owned next
  exact begin_success_alone s t action new user other config locked owned after next log succeeds different

theorem first_capture_excludes_others : ∃ s, Reachable (ubertrace .default) s ∧
    s.orch.getUserState 1 = .capturing ∧ s.orch.initializedUsers = {1, 2} ∧
    ∀ other, (s.orch.getUserState other).inCapture = true → other = 1 := by
  obtain ⟨s, reach, found⟩ := exec_finds (ubertrace .default) (connects 0 1 ++ joins 0 2 ++ begins 0 1 manualCapture)
    (fun s => s.orch.getUserState 1 = .capturing ∧ s.orch.initializedUsers = {1, 2}) (by decide)
  obtain ⟨capturing, users⟩ : s.orch.getUserState 1 = .capturing ∧ s.orch.initializedUsers = {1, 2} := by
    simpa using found
  refine ⟨s, reach, capturing, users, fun other shows => ?_⟩
  exact (captures_exclude_each_other .default s reach).1 other 1 shows (by rw [capturing]; rfl)

end RadeonPanel.Ubertrace

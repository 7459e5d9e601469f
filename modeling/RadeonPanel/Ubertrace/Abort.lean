import RadeonPanel.Base.History
import RadeonPanel.Ubertrace.Ownership

set_option autoImplicit false

namespace RadeonPanel.Ubertrace

open Interleaving

-- The flag the polling loop tests, as its stores leave it, newest store first.
def pollFlag : List Event → Bool
  | [] => false
  | .storedPollFlag _ value :: _ => value
  | _ :: older => pollFlag older

-- Who has stopped the polling: the first store of false since the last store of true.
def stopCause : List Event → Option FlagWriter
  | [] => some .initial
  | .storedPollFlag _ true :: _ => none
  | .storedPollFlag writer false :: older => some ((stopCause older).getD writer)
  | _ :: older => stopCause older

def CallerPc.startedFor : CallerPc → Option UbertraceUserId
  | .requestBeginTrace user _ (.capturing _) => some user
  | .requestBeginTrace user _ (.owner _) => some user
  | .requestBeginTrace user _ (.thread _) => some user
  | _ => none

def PollerPc.looping : PollerPc → Bool
  | .check | .collect => true
  | _ => false

-- The user whose capture a store to the flag would stop now: that of the request
-- which has just set it, or that of the thread which is in its loop.
def State.polledUsers (s : State) : List UbertraceUserId :=
  (match s.mutex with
    | some (.caller id) => (s.callers id).startedFor.toList
    | _ => []) ++
  match s.orch.tracePollingThread with
    | some thread => if (s.pollers thread).pc.looping then [(s.pollers thread).owner] else []
    | none => []

-- An abort that gets as far as the flag, with the flag still set, does so only for
-- the user's own capture, and only where the driver can cancel.
def abortsOwnCapture (s : State) : Action → Bool
  | .caller id _ =>
      match s.callers id with
      | .requestAbortTrace user .stop =>
          !s.orch.shouldPollForTrace ||
            s.polledUsers.all fun owner => owner = user && s.orch.features.cancelTraceSupported
      | _ => true
  | _ => true

-- Where a polling loop is left without a trace and an abort has stopped the polling.
def AbortsReachOwner (features : UbertraceFeatures) : List Event → Prop :=
  AtEach fun event older => ∀ thread owner user, event = .loopLeft thread owner false →
    stopCause older = some (.requestAbortTrace user) → user = owner ∧ features.cancelTraceSupported = true

theorem poll_flag_cause (log : List Event) : pollFlag log = true ↔ stopCause log = none := by
  induction log with
  | nil => simp [pollFlag, stopCause]
  | cons event older ih =>
      cases event with
      | storedPollFlag writer value => cases value <;> simp [pollFlag, stopCause]
      | _ => exact ih

theorem no_store_keeps_flag (events log : List Event) (silent : ∀ writer value, .storedPollFlag writer value ∉ events) :
    pollFlag (events ++ log) = pollFlag log ∧ stopCause (events ++ log) = stopCause log := by
  induction events with
  | nil => exact ⟨rfl, rfl⟩
  | cons event rest ih =>
      have later := ih fun writer value member => silent writer value (List.mem_cons_of_mem _ member)
      cases event with
      | storedPollFlag writer value => exact absurd List.mem_cons_self (silent writer value)
      | _ => exact later

theorem aborts_reach_owner_append (features : UbertraceFeatures) (events log : List Event)
    (stays : ∀ thread owner, .loopLeft thread owner false ∉ events) (reached : AbortsReachOwner features log) :
    AbortsReachOwner features (events ++ log) := by
  refine at_each_append _ events log (fun event member older thread owner user same => ?_) reached
  subst same
  exact absurd member (stays thread owner)

-- The steps of a call that store to the flag.
inductive StoreStep (o : UbertraceOrchestrator) : CallerPc → CallerEffect → Prop where
  | none (pc : CallerPc) (e : CallerEffect) (same : e.orch.shouldPollForTrace = o.shouldPollForTrace)
      (silent : ∀ writer value, .storedPollFlag writer value ∉ e.events) : StoreStep o pc e
  | disconnect (user : UbertraceUserId) (e : CallerEffect) (stored : e.orch.shouldPollForTrace = false)
      (events : e.events = [.storedPollFlag (.disconnect user) false]) : StoreStep o (.disconnect user .stop) e
  | abort (user : UbertraceUserId) (e : CallerEffect) (stored : e.orch.shouldPollForTrace = false)
      (events : e.events = [.returned (.requestAbortTrace user) .success,
        .storedPollFlag (.requestAbortTrace user) false]) : StoreStep o (.requestAbortTrace user .stop) e
  | begin (user : UbertraceUserId) (config : UbertraceCaptureConfig) (capture : Nat) (e : CallerEffect)
      (stored : e.orch.shouldPollForTrace = true)
      (events : e.events = [.storedPollFlag (.requestBeginTrace user) true]) :
      StoreStep o (.requestBeginTrace user config (.poll capture)) e

theorem no_store_elsewhere (o : UbertraceOrchestrator) (pc : CallerPc) (e : CallerEffect)
    (footprint : Footprint o pc.operation e.orch e.events) (noDisconnect : pc.operation ≠ some .disconnect)
    (noAbort : pc.operation ≠ some .requestAbortTrace) (noBegin : pc.operation ≠ some .requestBeginTrace)
    (inside : pc.operation ≠ none) : StoreStep o pc e := by
  refine .none pc e (footprint.polling noDisconnect noAbort noBegin) fun writer value member => ?_
  have operation := footprint.events _ member
  cases writer with
  | requestBeginTrace user => exact noBegin operation.symm
  | requestAbortTrace user => exact noAbort operation.symm
  | disconnect user => exact noDisconnect operation.symm
  | initial | collected => exact inside operation.symm

theorem caller_stores (o : UbertraceOrchestrator) (free joined : Bool) (fresh thread : Nat) (pc : CallerPc)
    (answer : Answer) (e : CallerEffect) (next : callerStep o free joined fresh thread pc answer = some e) :
    StoreStep o pc e := by
  have footprint := caller_footprint o free joined fresh thread pc answer e next
  cases pc with
  | outside => cases next
  | disconnect user pc =>
      obtain ⟨inner, inside, rfl⟩ := Option.map_eq_some_iff.mp next
      revert inside
      clear next footprint
      fun_cases disconnectStep o free joined user pc answer
      all_goals intro inside
      all_goals cases inside
      all_goals first
        | exact .none _ _ rfl (by simp)
        | exact .disconnect user _ rfl rfl
  | requestAbortTrace user pc =>
      obtain ⟨inner, inside, rfl⟩ := Option.map_eq_some_iff.mp next
      revert inside
      clear next footprint
      fun_cases requestAbortTraceStep o free user pc answer
      all_goals intro inside
      all_goals cases inside
      all_goals first
        | exact .none _ _ rfl (by simp)
        | exact .abort user _ rfl rfl
  | requestBeginTrace user config pc =>
      obtain ⟨inner, inside, rfl⟩ := Option.map_eq_some_iff.mp next
      revert inside
      clear next footprint
      fun_cases requestBeginTraceStep o free joined fresh thread user config pc answer
      all_goals intro inside
      all_goals cases inside
      all_goals first
        | exact .none _ _ rfl (by simp)
        | exact .none _ _ (UbertraceOrchestrator.reset_waiting_polling o user) (by simp)
        | exact .begin user config _ _ rfl rfl
  | _ =>
      exact no_store_elsewhere o _ e footprint (by simp [CallerPc.operation]) (by simp [CallerPc.operation])
        (by simp [CallerPc.operation]) (by simp [CallerPc.operation])

-- Somebody's capture depends on the flag.
def State.Polls (s : State) (user : UbertraceUserId) : Prop :=
  (∃ id, (s.callers id).startedFor = some user) ∨
    ∃ thread, (s.pollers thread).pc.looping = true ∧ (s.pollers thread).owner = user

theorem started_starting (pc : CallerPc) (user : UbertraceUserId) (started : pc.startedFor = some user) :
    pc.startingFor = some user := by
  cases pc with
  | requestBeginTrace other config pc =>
      cases pc with
      | capturing _ | owner _ | thread _ => exact started
      | _ => cases started
  | _ => cases started

theorem looping_alive (pc : PollerPc) (looping : pc.looping = true) : pc.alive = true := by
  cases pc <;> first | rfl | cases looping

theorem polls_known (s : State) (locked : s.Locked) (owned : s.Owned) (user : UbertraceUserId)
    (polls : s.Polls user) : user ∈ s.polledUsers := by
  obtain ⟨id, started⟩ | ⟨thread, looping, owner⟩ := polls
  · have inside : s.holds (.caller id) := starting_holds_lock _ user (started_starting _ user started)
    have mutex := (locked (.caller id)).mp inside
    simp only [State.polledUsers, mutex, started, Option.toList_some]
    exact List.mem_append_left _ List.mem_cons_self
  · have handle := owned.handle thread (looping_alive _ looping)
    simp only [State.polledUsers, handle, looping, if_true, owner]
    exact List.mem_append_right _ List.mem_cons_self

theorem polls_after_caller (s : State) (id : Nat) (answer : Answer) (e : CallerEffect) (user : UbertraceUserId)
    (effect : s.callerEffect id answer = some e) (polls : (s.applyCaller id e).Polls user) :
    s.Polls user ∨ e.events = [.storedPollFlag (.requestBeginTrace user) true] := by
  obtain ⟨_, quiet⟩ | ⟨starter, config, pc, capture, here, starts⟩ := caller_cases _ _ _ _ _ _ _ _ effect
  · obtain ⟨other, started⟩ | ⟨thread, looping, owner⟩ := polls
    · by_cases same : other = id
      · have starting := started_starting _ user started
        rw [same] at starting
        simp only [State.applyCaller, Function.update_self, quiet.pc] at starting
        cases starting
      · simp only [State.applyCaller, Function.update_of_ne same] at started
        exact .inl (.inl ⟨other, started⟩)
    · simp only [State.applyCaller, quiet.spawned, Option.elim_none] at looping owner
      exact .inl (.inr ⟨thread, looping, owner⟩)
  · obtain ⟨other, started⟩ | ⟨thread, looping, owner⟩ := polls
    · by_cases same : other = id
      · rw [same] at started
        simp only [State.applyCaller, Function.update_self] at started
        cases starts with
        | join | thread => cases started
        | poll =>
            cases started
            exact .inr rfl
        | capturing | owner => exact .inl (.inl ⟨id, by rw [here]; exact started⟩)
      · simp only [State.applyCaller, Function.update_of_ne same] at started
        exact .inl (.inl ⟨other, started⟩)
    · cases starts with
      | thread =>
          by_cases fresh : thread = s.threads
          · simp only [State.applyCaller, Option.elim_some, fresh, Function.update_self] at owner
            refine .inl (.inl ⟨id, ?_⟩)
            rw [here, ← owner]
            rfl
          · simp only [State.applyCaller, Option.elim_some, Function.update_of_ne fresh] at looping owner
            exact .inl (.inr ⟨thread, looping, owner⟩)
      | _ => exact .inl (.inr ⟨thread, looping, owner⟩)

theorem looping_before (o : UbertraceOrchestrator) (free : Bool) (thread : Nat) (p : Poller)
    (e : PollerEffect) (move : PollerMove o free thread p e) (looping : e.poller.pc.looping = true) :
    p.pc.looping = true := by
  cases move with
  | poll path here | retry result chunks here | writing here =>
      rw [here]
      rfl
  | cancelRetry user here => exact looping
  | complete user collected here => cases collected <;> cases looping
  | _ => cases looping

theorem polls_after_poller (s : State) (id : Nat) (e : PollerEffect) (user : UbertraceUserId)
    (move : PollerMove s.orch s.free id (s.pollers id) e) (polls : (s.applyPoller id e).Polls user) :
    s.Polls user := by
  obtain ⟨other, started⟩ | ⟨thread, looping, owner⟩ := polls
  · exact .inl ⟨other, started⟩
  · by_cases same : thread = id
    · subst same
      simp only [State.applyPoller, Function.update_self] at looping owner
      refine .inr ⟨thread, looping_before _ _ _ _ _ move looping, ?_⟩
      rw [← owner]
      exact (poller_cases _ _ _ _ _ move).owner.symm
    · simp only [State.applyPoller, Function.update_of_ne same] at looping owner
      exact .inr ⟨thread, looping, owner⟩

structure State.AbortsSafely (s : State) : Prop where
  flag : s.orch.shouldPollForTrace = pollFlag s.log
  cause : ∀ user, stopCause s.log = some (.requestAbortTrace user) → ∀ owner, s.Polls owner →
    user = owner ∧ s.orch.features.cancelTraceSupported = true
  past : AbortsReachOwner s.orch.features s.log

theorem aborts_safely_caller (s : State) (id : Nat) (answer : Answer) (e : CallerEffect) (locked : s.Locked)
    (owned : s.Owned) (safe : s.AbortsSafely) (allowed : abortsOwnCapture s (.caller id answer) = true)
    (effect : s.callerEffect id answer = some e) : (s.applyCaller id e).AbortsSafely := by
  have features : e.orch.features = s.orch.features := (caller_footprint _ _ _ _ _ _ _ _ effect).features
  have past : AbortsReachOwner e.orch.features (e.events ++ s.log) := by
    rw [features]
    exact aborts_reach_owner_append _ _ _ (fun thread owner =>
      caller_event_operation _ _ _ _ _ _ _ _ effect (.loopLeft thread owner false) rfl) safe.past
  have before : ∀ owner, (s.applyCaller id e).Polls owner →
      s.Polls owner ∨ e.events = [.storedPollFlag (.requestBeginTrace owner) true] :=
    fun owner => polls_after_caller s id answer e owner effect
  have stores := caller_stores _ _ _ _ _ _ _ _ effect
  generalize here : s.callers id = pc at stores
  cases stores with
  | none _ _ same silent =>
      obtain ⟨flag, cause⟩ := no_store_keeps_flag e.events s.log silent
      refine ⟨(same.trans safe.flag).trans flag.symm, ?_, past⟩
      intro user stopped owner polls
      rw [State.applyCaller, cause] at stopped
      obtain old | begins := before owner polls
      · rw [State.applyCaller, features]
        exact safe.cause user stopped owner old
      · exact absurd (begins ▸ List.mem_cons_self) (silent (.requestBeginTrace owner) true)
  | disconnect user _ stored events =>
      refine ⟨by rw [State.applyCaller, stored, events]; rfl, ?_, past⟩
      intro stopper stopped owner polls
      rw [State.applyCaller, features]
      obtain old | begins := before owner polls
      · refine safe.cause stopper ?_ owner old
        simp only [State.applyCaller, events, List.cons_append, List.nil_append, stopCause] at stopped
        cases earlier : stopCause s.log with
        | none => simp [earlier] at stopped
        | some writer => simpa [earlier] using stopped
      · rw [events] at begins
        cases begins
  | abort user _ stored events =>
      refine ⟨by rw [State.applyCaller, stored, events]; rfl, ?_, past⟩
      intro stopper stopped owner polls
      rw [State.applyCaller, features]
      obtain old | begins := before owner polls
      · simp only [State.applyCaller, events, List.cons_append, List.nil_append, stopCause] at stopped
        cases earlier : stopCause s.log with
        | none =>
            -- This abort is what stops the polling.
            obtain rfl : user = stopper := by simpa [earlier] using stopped
            have polling := safe.flag.trans ((poll_flag_cause s.log).mpr earlier)
            simp only [abortsOwnCapture, here, polling, Bool.not_true, Bool.false_or, List.all_eq_true,
              Bool.and_eq_true, decide_eq_true_eq] at allowed
            obtain ⟨same, supported⟩ := allowed owner (polls_known s locked owned owner old)
            exact ⟨same.symm, supported⟩
        | some writer => exact safe.cause stopper (by simpa [earlier] using stopped) owner old
      · rw [events] at begins
        cases begins
  | begin user config capture _ stored events =>
      refine ⟨by rw [State.applyCaller, stored, events]; rfl, ?_, past⟩
      intro stopper stopped
      rw [State.applyCaller, events] at stopped
      cases stopped

theorem aborts_safely_poller (s : State) (id : Nat) (e : PollerEffect) (safe : s.AbortsSafely)
    (move : PollerMove s.orch s.free id (s.pollers id) e) : (s.applyPoller id e).AbortsSafely := by
  have features : e.orch.features = s.orch.features := (poller_footprint _ _ _ _ _ move).features
  have before : ∀ owner, (s.applyPoller id e).Polls owner → s.Polls owner :=
    fun owner => polls_after_poller s id e owner move
  have carry : (∀ writer value, .storedPollFlag writer value ∉ e.events) →
      e.orch.shouldPollForTrace = s.orch.shouldPollForTrace →
      AbortsReachOwner s.orch.features (e.events ++ s.log) → (s.applyPoller id e).AbortsSafely := by
    intro silent same past
    obtain ⟨flag, cause⟩ := no_store_keeps_flag e.events s.log silent
    refine ⟨(same.trans safe.flag).trans flag.symm, ?_, ?_⟩
    · intro user stopped owner polls
      rw [State.applyPoller, cause] at stopped
      rw [State.applyPoller, features]
      exact safe.cause user stopped owner (before owner polls)
    · rw [State.applyPoller, features]
      exact past
  cases move with
  | stop here stopped =>
      refine carry (by simp) rfl ⟨fun thread owner user same cause => ?_, safe.past⟩
      cases same
      exact safe.cause user cause _ (.inr ⟨id, by rw [here]; rfl, rfl⟩)
  | collect chunks here =>
      refine ⟨rfl, ?_, aborts_reach_owner_append _ _ _ (by simp) safe.past⟩
      intro user stopped owner polls
      refine safe.cause user ?_ owner (before owner polls)
      simp only [State.applyPoller, List.cons_append, List.nil_append, stopCause] at stopped
      cases earlier : stopCause s.log with
      | none => simp [earlier] at stopped
      | some writer => simpa [earlier] using stopped
  | complete user collected here =>
      refine carry (by simp) ?_ (aborts_reach_owner_append _ _ _ (by simp) safe.past)
      split <;> rfl
  | _ => exact carry (by simp) rfl (aborts_reach_owner_append _ _ _ (by simp) safe.past)

theorem reach_aborts_safely (features : UbertraceFeatures) (s : State)
    (reach : Reach (ubertrace features) (fun s a => abortsOwnCapture s a = true) s) : s.AbortsSafely := by
  refine reach_invariant (ubertrace features) _ State.AbortsSafely ⟨rfl, ?_, trivial⟩ ?_ s reach
  · intro user stopped
    cases stopped
  · intro s a t earlier safe allowed next
    have reachable := reach_reachable _ _ s earlier
    have locked := reachable_locked features s reachable
    have owned := reachable_owned features s reachable
    rcases step_cases s t a next with ⟨_, rfl⟩ | ⟨id, call, _, outside, rfl⟩ |
      ⟨id, answer, e, rfl, effect, rfl⟩ | ⟨id, answer, e, _, effect, rfl⟩
    · exact ⟨safe.flag, safe.cause, safe.past⟩
    · refine ⟨safe.flag, fun user stopped owner polls => safe.cause user stopped owner ?_, safe.past⟩
      obtain ⟨other, started⟩ | looping := polls
      · by_cases same : other = id
        · simp only [same, Function.update_self] at started
          cases call <;> cases started
        · exact .inl ⟨other, by simpa only [Function.update_of_ne same] using started⟩
      · exact .inr looping
    · exact aborts_safely_caller s id answer e locked owned safe allowed effect
    · exact aborts_safely_poller s id e safe (poller_moves _ _ _ _ _ _ effect)

def aborts (id : Nat) (user : UbertraceUserId) : List Action :=
  [.call id (.requestAbortTrace user), .caller id .go, .caller id .go, .caller id .go]

end RadeonPanel.Ubertrace

import RadeonPanel.Ubertrace.Ownership

set_option autoImplicit false

namespace RadeonPanel.Ubertrace

open Interleaving

def CallerPc.joining : CallerPc → Bool
  | .requestBeginTrace _ _ (.join _) => true
  | .disconnect _ .join => true
  | _ => false

-- A thread in front of its completion section cannot exit without the mutex.
def PollerPc.mustLock : PollerPc → Bool
  | .check | .collect | .exchange _ | .complete _ _ => true
  | _ => false

def State.Deadlocked (s : State) : Prop :=
  ∃ id thread, s.mutex = some (.caller id) ∧ (s.callers id).joining = true ∧
    s.orch.tracePollingThread = some thread ∧ (s.pollers thread).pc.mustLock = true

-- The driver accepts a new trace only after the thread of the previous one has
-- entered its completion section.
def AcceptsWhenCompleting (s : State) (a : Action) : Prop :=
  ∀ id user config capture, a = .caller id (.driver .success) →
    s.callers id = .requestBeginTrace user config (.request capture) →
    ∀ thread, (s.pollers thread).pc.mustLock = false

def State.JoinsSafely (s : State) : Prop :=
  ∀ id user config capture, s.callers id = .requestBeginTrace user config (.join capture) →
    ∀ thread, (s.pollers thread).pc.mustLock = false

theorem must_lock_alive (pc : PollerPc) (must : pc.mustLock = true) : pc.alive = true := by
  cases pc <;> first | rfl | cases must

theorem must_lock_before (o : UbertraceOrchestrator) (free : Bool) (thread : Nat) (p : Poller)
    (e : PollerEffect) (move : PollerMove o free thread p e) (must : e.poller.pc.mustLock = true) :
    p.pc.mustLock = true := by
  cases move with
  | complete user collected here => rw [here]; rfl
  | writing here | cancelRetry user here => exact must
  | poll path here | stop here | retry result chunks here | collect chunks here | exchange collected here =>
      rw [here]
      rfl
  | _ => cases must

-- The thread needs the mutex until somebody gives it the chance to take it.
theorem must_lock_after (o : UbertraceOrchestrator) (thread : Nat) (p : Poller)
    (e : PollerEffect) (move : PollerMove o false thread p e) (must : p.pc.mustLock = true) :
    e.lock = .keep ∧ e.poller.pc.mustLock = true := by
  cases move with
  | poll path here | stop here | retry result chunks here | collect chunks here | exchange collected here =>
      exact ⟨rfl, rfl⟩
  | writing here unlocked | complete user collected here unlocked => cases unlocked
  | cancelRetry user here => exact ⟨rfl, must⟩
  | chunksFailed user here | postProcess user here | completed user here | handedOver user here
  | abort user here | aborted user here | cancelFailed user here | ended here =>
      rw [here] at must
      cases must

theorem joining_waits (o : UbertraceOrchestrator) (free : Bool) (fresh thread : Nat) (pc : CallerPc)
    (answer : Answer) (e : CallerEffect) (next : callerStep o free false fresh thread pc answer = some e) :
    pc.joining = false := by
  cases pc with
  | requestBeginTrace user config pc =>
      cases pc with
      | join capture => cases answer <;> cases next
      | _ => rfl
  | disconnect user pc =>
      cases pc with
      | join => cases answer <;> cases next
      | _ => rfl
  | _ => rfl

theorem request_reaches_join (o : UbertraceOrchestrator) (free joined : Bool) (fresh thread : Nat)
    (user : UbertraceUserId) (config : UbertraceCaptureConfig) (pc : RequestBeginTracePc) (answer : Answer)
    (e : Effect RequestBeginTracePc) (capture : Nat)
    (next : requestBeginTraceStep o free joined fresh thread user config pc answer = some e)
    (reaches : e.next = some (.join capture)) : pc = .request capture ∧ answer = .driver .success := by
  revert next
  fun_cases requestBeginTraceStep o free joined fresh thread user config pc answer
  all_goals intro next
  all_goals cases next
  all_goals cases reaches
  rename_i accepted
  exact ⟨rfl, congrArg Answer.driver (not_not.mp accepted)⟩

theorem in_call_reaches {π : Type} (e : Effect π) (into : π → CallerPc) (pc : CallerPc) (inside : pc ≠ .outside)
    (reaches : (e.inCall into).pc = pc) : ∃ next, e.next = some next ∧ into next = pc := by
  cases nextEq : e.next with
  | none =>
      simp only [Effect.inCall, nextEq, Option.elim_none] at reaches
      exact absurd reaches.symm inside
  | some next => exact ⟨next, rfl, by simpa only [Effect.inCall, nextEq, Option.elim_some] using reaches⟩

theorem caller_reaches_join (o : UbertraceOrchestrator) (free joined : Bool) (fresh thread : Nat) (pc : CallerPc)
    (answer : Answer) (e : CallerEffect) (user : UbertraceUserId) (config : UbertraceCaptureConfig) (capture : Nat)
    (next : callerStep o free joined fresh thread pc answer = some e)
    (reaches : e.pc = .requestBeginTrace user config (.join capture)) :
    pc = .requestBeginTrace user config (.request capture) ∧ answer = .driver .success := by
  revert reaches
  have elsewhere : ∀ {π : Type} (e : Effect π) (into : π → CallerPc),
      (∀ pc, into pc ≠ .requestBeginTrace user config (.join capture)) →
      (e.inCall into).pc ≠ .requestBeginTrace user config (.join capture) := by
    intro π e into never reaches
    obtain ⟨here, _, same⟩ := in_call_reaches e into _ (by simp) reaches
    exact never here same
  have outside : CallerPc.outside ≠ .requestBeginTrace user config (.join capture) := by simp
  refine caller_rule o free joined fresh thread
    (fun pc answer e => e.pc = .requestBeginTrace user config (.join capture) →
      pc = .requestBeginTrace user config (.request capture) ∧ answer = .driver .success)
    ?_ ?_ ?_ ?_ ?_ (fun _ _ reaches => absurd reaches outside) (fun _ reaches => absurd reaches outside)
    (fun _ _ _ reaches => absurd reaches outside) (fun _ _ _ _ _ reaches => absurd reaches outside)
    (fun _ _ _ reaches => absurd reaches outside) pc answer e next
  · intro _ _ _ _ e _ reaches
    exact absurd reaches (elsewhere e _ (by simp))
  · intro _ _ _ e _ reaches
    exact absurd reaches (elsewhere e _ (by simp))
  · intro _ _ _ _ e _ reaches
    exact absurd reaches (elsewhere e _ (by simp))
  · intro _ _ _ e _ reaches
    exact absurd reaches (elsewhere e _ (by simp))
  · intro other otherConfig pc answer e inside reaches
    obtain ⟨here, goesOn, same⟩ := in_call_reaches e _ _ (by simp) reaches
    cases same
    obtain ⟨rfl, rfl⟩ := request_reaches_join o free joined fresh thread user config pc answer e capture inside goesOn
    exact ⟨rfl, rfl⟩

theorem joins_safely_step (s t : State) (a : Action) (locked : s.Locked) (safe : s.JoinsSafely)
    (accepts : AcceptsWhenCompleting s a) (next : step s a = some t) : t.JoinsSafely := by
  rcases step_cases s t a next with ⟨_, rfl⟩ | ⟨id, call, _, outside, rfl⟩ |
    ⟨id, answer, e, rfl, effect, rfl⟩ | ⟨id, answer, e, _, effect, rfl⟩
  · exact safe
  · intro other user config capture here
    by_cases same : other = id
    · simp only [same, Function.update_self] at here
      cases call <;> cases here
    · simp only [Function.update_of_ne same] at here
      exact safe other user config capture here
  · intro other user config capture here
    by_cases same : other = id
    · simp only [same, State.applyCaller, Function.update_self] at here
      obtain ⟨before, rfl⟩ := caller_reaches_join _ _ _ _ _ _ _ _ _ _ _ effect here
      have settled := accepts id user config capture rfl before
      obtain ⟨_, quiet⟩ | ⟨_, _, _, _, at_, starts⟩ := caller_cases _ _ _ _ _ _ _ _ effect
      · simpa only [State.applyCaller, quiet.spawned, Option.elim_none] using settled
      · rw [before] at at_
        cases at_
        cases starts
    · simp only [State.applyCaller, Function.update_of_ne same] at here
      have settled := safe other user config capture here
      obtain ⟨_, quiet⟩ | ⟨_, _, _, _, at_, starts⟩ := caller_cases _ _ _ _ _ _ _ _ effect
      · simpa only [State.applyCaller, quiet.spawned, Option.elim_none] using settled
      · -- Both would be inside the mutex.
        have mine : s.holds (.caller id) := by
          rw [State.holds, at_]
          exact start_step_starting _ _ _ _ _ _ _ _ starts
        have theirs : s.holds (.caller other) := by
          rw [State.holds, here]
          rfl
        exact absurd (Task.caller.inj (guarded_unique _ _ locked _ _ theirs mine)) same
  · intro other user config capture here thread
    have settled := safe other user config capture here
    by_cases same : thread = id
    · subst same
      by_contra must
      rw [Bool.not_eq_false] at must
      simp only [State.applyPoller, Function.update_self] at must
      have before := must_lock_before _ _ _ _ _ (poller_moves _ _ _ _ _ _ effect) must
      rw [settled thread] at before
      cases before
    · simpa only [State.applyPoller, Function.update_of_ne same] using settled thread

theorem reach_joins_safely (features : UbertraceFeatures) (s : State)
    (reach : Reach (ubertrace features) AcceptsWhenCompleting s) : s.JoinsSafely := by
  refine reach_invariant (ubertrace features) AcceptsWhenCompleting State.JoinsSafely nofun ?_ s reach
  intro s a t before safe accepts next
  have locked := reachable_locked features s (reach_reachable _ _ s before)
  exact joins_safely_step s t a locked safe accepts next

-- The joins of `Disconnect` do not count: they wait without the mutex.
theorem deadlocked_in_request (s : State) (locked : s.Locked) (deadlocked : s.Deadlocked) :
    ∃ id user config capture thread, s.callers id = .requestBeginTrace user config (.join capture) ∧
      (s.pollers thread).pc.mustLock = true := by
  obtain ⟨id, thread, owner, joining, _, must⟩ := deadlocked
  have inside : (s.callers id).holdsLock = true := (locked (.caller id)).mpr owner
  cases here : s.callers id with
  | requestBeginTrace user config pc =>
      rw [here] at joining
      cases pc with
      | join capture => exact ⟨id, user, config, capture, thread, here, must⟩
      | _ => cases joining
  | disconnect user pc =>
      rw [here] at inside
      cases inside
  | _ =>
      rw [here] at joining
      cases joining

theorem accepts_when_completing_sound (features : UbertraceFeatures) (s : State)
    (reach : Reach (ubertrace features) AcceptsWhenCompleting s) : ¬ s.Deadlocked := by
  intro deadlocked
  have locked := reachable_locked features s (reach_reachable _ _ s reach)
  obtain ⟨id, user, config, capture, thread, here, must⟩ := deadlocked_in_request s locked deadlocked
  rw [reach_joins_safely features s reach id user config capture here thread] at must
  cases must

theorem accepts_when_completing_exact (features : UbertraceFeatures) (s : State) (a : Action) (t : State)
    (reach : Reachable (ubertrace features) s) (next : step s a = some t) (free : ¬ t.Deadlocked) :
    AcceptsWhenCompleting s a := by
  rintro id user config capture rfl here thread
  by_contra must
  rw [Bool.not_eq_false] at must
  have locked := reachable_locked features s reach
  have handle := (reachable_owned features s reach).handle thread (must_lock_alive _ must)
  have owner := (locked (.caller id)).mp (by rw [State.holds, here]; rfl)
  refine free ⟨id, thread, ?_⟩
  simp only [step, State.callerEffect, here, callerStep, requestBeginTraceStep, ne_eq, not_true_eq_false,
    if_false, Option.map_some, Option.some.injEq] at next
  subst next
  refine ⟨owner, ?_, handle, must⟩
  simp only [State.applyCaller, Function.update_self]
  rfl

theorem join_waits_without_need_iff (features : UbertraceFeatures) (actions : List Action) :
    Meets (ubertrace features) AcceptsWhenCompleting (ubertrace features).init actions ↔
      Always (ubertrace features) (fun s => ¬ s.Deadlocked) (ubertrace features).init actions :=
  ⟨meets_always (ubertrace features) AcceptsWhenCompleting _ (accepts_when_completing_sound features) _ .init actions,
    always_meets (ubertrace features) AcceptsWhenCompleting _
      (fun s a t reach _ next free => accepts_when_completing_exact features s a t reach next free) actions⟩

-- Nobody can end the wait: no step leads out of a deadlocked state.
theorem deadlock_persists (s t : State) (a : Action) (locked : s.Locked) (owned : s.Owned)
    (deadlocked : s.Deadlocked) (next : step s a = some t) : t.Deadlocked := by
  obtain ⟨id, thread, owner, joining, handle, must⟩ := deadlocked
  have taken : s.free = false := by simp only [State.free, owner, reduceCtorEq, decide_false]
  have waits : s.joined = false := by
    have running : (s.pollers thread).pc ≠ .exited := by
      intro exited
      rw [exited] at must
      cases must
    simp only [State.joined, handle, running, decide_false]
  rcases step_cases s t a next with ⟨_, rfl⟩ | ⟨other, call, _, outside, rfl⟩ |
    ⟨other, answer, e, _, effect, rfl⟩ | ⟨other, answer, e, _, effect, rfl⟩
  · exact ⟨id, thread, owner, joining, handle, must⟩
  · have apart : id ≠ other := by
      rintro rfl
      rw [outside] at joining
      cases joining
    exact ⟨id, thread, owner, by simpa only [Function.update_of_ne apart] using joining, handle, must⟩
  · have inside : (s.callers id).holdsLock = true := (locked (.caller id)).mpr owner
    have apart : id ≠ other := by
      rintro rfl
      rw [State.callerEffect, waits] at effect
      rw [joining_waits _ _ _ _ _ _ _ effect] at joining
      cases joining
    have legal := caller_lock _ _ _ _ _ _ _ _ effect
    obtain ⟨_, quiet⟩ | ⟨_, _, _, _, at_, starts⟩ := caller_cases _ _ _ _ _ _ _ _ effect
    · refine ⟨id, thread, ?_, ?_, ?_, ?_⟩
      · cases use : e.lock with
        | keep => simpa only [State.applyCaller, use, LockUse.apply] using owner
        | acquire =>
            rw [use, LockUse.Legal, taken] at legal
            exact absurd legal.1 (by simp)
        | release =>
            rw [use] at legal
            exact absurd (Task.caller.inj (guarded_unique _ _ locked (.caller id) (.caller other) inside legal.1)) apart
      · simpa only [State.applyCaller, Function.update_of_ne apart] using joining
      · obtain same | ⟨joined, _⟩ := quiet.thread
        · exact same.trans handle
        · rw [waits] at joined
          cases joined
      · simpa only [State.applyCaller, quiet.spawned, Option.elim_none] using must
    · have theirs : s.holds (.caller other) := by
        rw [State.holds, at_]
        exact start_step_starting _ _ _ _ _ _ _ _ starts
      exact absurd (Task.caller.inj (guarded_unique _ _ locked (.caller id) (.caller other) inside theirs)) apart
  · have moves := poller_moves _ _ _ _ _ _ effect
    have same : other = thread := by
      have mine := owned.handle other (poller_cases _ _ _ _ _ moves).alive
      rw [handle] at mine
      exact (Option.some.inj mine).symm
    subst same
    rw [taken] at moves
    obtain ⟨keep, still⟩ := must_lock_after _ _ _ _ moves must
    refine ⟨id, other, ?_, joining, (poller_cases _ _ _ _ _ moves).thread.trans handle, ?_⟩
    · simpa only [State.applyPoller, keep, LockUse.apply] using owner
    · simpa only [State.applyPoller, Function.update_self] using still

-- The second user's request waits for the first user's thread, which still polls.
theorem second_request_deadlocks : ∃ s, Reachable (ubertrace .default) s ∧ s.Deadlocked := by
  obtain ⟨s, reach, found⟩ := exec_finds (ubertrace .default)
    (connects 0 1 ++ joins 0 2 ++ begins 0 1 manualCapture ++ (begins 0 2 manualCapture).take 5)
    (fun s => s.mutex = some (.caller 0) ∧ (s.callers 0).joining ∧ s.orch.tracePollingThread = some 0 ∧
      (s.pollers 0).pc.mustLock) (by decide)
  exact ⟨s, reach, 0, 0, by simpa using found⟩

end RadeonPanel.Ubertrace

import RadeonPanel.Base.History
import RadeonPanel.Ubertrace.Ownership

set_option autoImplicit false

namespace RadeonPanel.Ubertrace

open Interleaving
open UbertraceOrchestrator

def OneShot : List Event → Prop :=
  AtEach fun event older => ∀ user config, event = .returned (.requestBeginTrace user config) .success →
    .finished user true ∉ older

-- The states from which a request may go on, now or after a preparation.
def ClientState.eligible : ClientState → Bool
  | .idle | .waitingToBeginCapture => true
  | _ => false

def CallerPc.beginningFor : CallerPc → Option UbertraceUserId
  | .requestBeginTrace user _ pc => if pc.holdsLock then some user else none
  | _ => none

-- What makes a finished user eligible again: a failed chunk writer, a second
-- `Initialize`, and an abort that has seen the user waiting before the capture.
def keepsFinished (s : State) : Action → Bool
  | .poller id _ =>
      match (s.pollers id).pc with
      | .success _ => !(s.pollers id).config.isAutoCapture || (s.pollers id).additionalChunkResult = .success
      | _ => true
  | .caller id answer =>
      match s.callers id, answer with
      | .initializeUser user _ .enableTracing, .go => .finished user true ∉ s.log
      | .initializeUser user _ .enableTracing, .driver .success => .finished user true ∉ s.log
      | .requestAbortTrace user .idle, _ => .finished user true ∉ s.log
      | _, _ => true
  | _ => true

theorem eligible_elsewhere (o : UbertraceOrchestrator) (state : ClientState) (user other : UbertraceUserId)
    (ineligible : state.eligible = false)
    (eligible : ((o.setState state user).getUserState other).eligible = true) :
    (o.getUserState other).eligible = true := by
  rw [get_user_state_set] at eligible
  by_cases same : other = user
  · rw [if_pos same, ineligible] at eligible
    cases eligible
  · rwa [if_neg same] at eligible

theorem eligible_here_or_elsewhere (o : UbertraceOrchestrator) (state : ClientState) (user other : UbertraceUserId)
    (eligible : ((o.setState state user).getUserState other).eligible = true) :
    (o.getUserState other).eligible = true ∨ other = user := by
  rw [get_user_state_set] at eligible
  by_cases same : other = user
  · exact .inr same
  · rw [if_neg same] at eligible
    exact .inl eligible

-- Who may have become eligible by a step of a call.
inductive Revives (user : UbertraceUserId) : CallerPc → Answer → Prop where
  | initializeGo (enable : Bool) : Revives user (.initializeUser user enable .enableTracing) .go
  | initializeDriver (enable : Bool) : Revives user (.initializeUser user enable .enableTracing) (.driver .success)
  | abort : Revives user (.requestAbortTrace user .idle) .go

theorem revives_forbidden (s : State) (id : Nat) (answer : Answer) (user : UbertraceUserId)
    (revives : Revives user (s.callers id) answer) (allowed : keepsFinished s (.caller id answer) = true) :
    .finished user true ∉ s.log := by
  generalize here : s.callers id = pc at revives
  cases revives <;> simpa [keepsFinished, here] using allowed

section

variable (o : UbertraceOrchestrator) (free joined : Bool) (user other : UbertraceUserId)

theorem initialize_eligible (enable : Bool) (pc : InitializePc) (answer : Answer) (e : Effect InitializePc)
    (next : initializeStep o free other enable pc answer = some e)
    (eligible : (e.orch.getUserState user).eligible = true) :
    (o.getUserState user).eligible = true ∨ Revives user (.initializeUser other enable pc) answer := by
  revert next eligible
  fun_cases initializeStep o free other enable pc answer
  all_goals intro next eligible
  all_goals cases next
  case case2 | case3 | case4 => exact .inl (by rwa [← get_user_state_touch o other user])
  case case5 | case10 => exact .inl (eligible_elsewhere o .error other user rfl eligible)
  case case6 => exact .inl eligible
  case case7 =>
    obtain before | rfl := eligible_here_or_elsewhere o .idle other user eligible
    · exact .inl before
    · exact .inr (.initializeGo enable)
  case case11 accepted =>
    rw [not_not.mp accepted]
    obtain before | rfl := eligible_here_or_elsewhere o .idle other user eligible
    · exact .inl before
    · exact .inr (.initializeDriver enable)

theorem disconnect_eligible (pc : DisconnectPc) (answer : Answer) (e : Effect DisconnectPc)
    (next : disconnectStep o free joined other pc answer = some e)
    (eligible : (e.orch.getUserState user).eligible = true) : (o.getUserState user).eligible = true := by
  revert next eligible
  fun_cases disconnectStep o free joined other pc answer
  all_goals intro next eligible
  all_goals cases next
  case case13 => exact eligible_elsewhere o .done _ user rfl eligible
  all_goals exact eligible

theorem handle_driver_state_eligible (state : DdDriverState) (pc : HandleDriverStatePc) (answer : Answer)
    (e : Effect HandleDriverStatePc) (next : handleDriverStateStep o free other state pc answer = some e)
    (eligible : (e.orch.getUserState user).eligible = true) : (o.getUserState user).eligible = true := by
  revert next eligible
  fun_cases handleDriverStateStep o free other state pc answer
  all_goals intro next eligible
  all_goals cases next
  all_goals exact eligible

theorem request_abort_trace_eligible (pc : RequestAbortTracePc) (answer : Answer) (e : Effect RequestAbortTracePc)
    (next : requestAbortTraceStep o free other pc answer = some e)
    (eligible : (e.orch.getUserState user).eligible = true) :
    (o.getUserState user).eligible = true ∨ Revives user (.requestAbortTrace other pc) answer := by
  revert next eligible
  fun_cases requestAbortTraceStep o free other pc answer
  all_goals intro next eligible
  all_goals cases next
  case case8 =>
    obtain before | rfl := eligible_here_or_elsewhere o .idle other user eligible
    · exact .inl before
    · exact .inr .abort
  all_goals exact .inl eligible

theorem request_begin_trace_eligible (fresh thread : Nat) (config : UbertraceCaptureConfig)
    (pc : RequestBeginTracePc) (answer : Answer) (e : Effect RequestBeginTracePc)
    (next : requestBeginTraceStep o free joined fresh thread other config pc answer = some e)
    (eligible : (e.orch.getUserState user).eligible = true) : (o.getUserState user).eligible = true := by
  revert next eligible
  fun_cases requestBeginTraceStep o free joined fresh thread other config pc answer
  all_goals intro next eligible
  all_goals cases next
  case case5 => exact eligible_elsewhere o .error _ user rfl eligible
  case case8 =>
    obtain same | ⟨waiting, same⟩ := reset_waiting_cases o other
    · simpa only [same] using eligible
    · simp only [same] at eligible
      obtain before | rfl := eligible_here_or_elsewhere o .idle other user eligible
      · exact before
      · rw [waiting]
        rfl
  case case13 => exact eligible_elsewhere o .capturing other user rfl eligible
  all_goals exact eligible

theorem prepared_eligible (next : UbertraceOrchestrator) (result : Result)
    (prepared : o.prepareForDelayedCapture other = some (next, result))
    (eligible : (next.getUserState user).eligible = true) : (o.getUserState user).eligible = true := by
  obtain same | ⟨idle, _, same⟩ := prepared_state o next other result prepared
  · rwa [same] at eligible
  · rw [same] at eligible
    obtain before | rfl := eligible_here_or_elsewhere o .waitingToBeginCapture other user eligible
    · exact before
    · rw [getUserState, idle]
      rfl

theorem caller_eligible (fresh thread : Nat) (pc : CallerPc) (answer : Answer) (e : CallerEffect)
    (next : callerStep o free joined fresh thread pc answer = some e)
    (eligible : (e.orch.getUserState user).eligible = true) :
    (o.getUserState user).eligible = true ∨ Revives user pc answer := by
  revert eligible
  refine caller_rule o free joined fresh thread (fun pc answer e => (e.orch.getUserState user).eligible = true →
    (o.getUserState user).eligible = true ∨ Revives user pc answer) ?_ ?_ ?_ ?_ ?_ ?_ ?_ ?_ ?_ ?_ pc answer e next
  · exact fun other enable pc answer e inside => initialize_eligible o free user other enable pc answer e inside
  · exact fun other pc answer e inside eligible =>
      .inl (disconnect_eligible o free joined user other pc answer e inside eligible)
  · exact fun other state pc answer e inside eligible =>
      .inl (handle_driver_state_eligible o free user other state pc answer e inside eligible)
  · exact fun other pc answer e inside => request_abort_trace_eligible o free user other pc answer e inside
  · exact fun other config pc answer e inside eligible =>
      .inl (request_begin_trace_eligible o free joined user other fresh thread config pc answer e inside eligible)
  · exact fun _ _ => .inl
  · intro params eligible
    cases params <;> exact .inl eligible
  · exact fun _ _ _ => .inl
  · exact fun other next result _ prepared eligible =>
      .inl (prepared_eligible o user other next result prepared eligible)
  · exact fun other disabled _ eligible => .inl (eligible_elsewhere _ .disabled other user rfl eligible)

end

theorem ready_eligible (o : UbertraceOrchestrator) (user : UbertraceUserId)
    (ready : o.isReadyForCapture user = some true) : (o.getUserState user).eligible = true := by
  obtain ⟨state, here, able⟩ := Option.map_eq_some_iff.mp ready
  rw [getUserState, here]
  obtain idle | ⟨waiting, _⟩ : state = .idle ∨ state = .waitingToBeginCapture ∧ ¬ (o.disabledUsers user).isSome := by
    simpa using able
  · rw [idle]
    rfl
  · rw [waiting]
    rfl

theorem request_begin_trace_beginning (o : UbertraceOrchestrator) (free joined : Bool) (fresh thread : Nat)
    (user : UbertraceUserId) (config : UbertraceCaptureConfig) (pc : RequestBeginTracePc) (answer : Answer)
    (e : Effect RequestBeginTracePc)
    (next : requestBeginTraceStep o free joined fresh thread user config pc answer = some e)
    (goesOn : e.next ≠ none) : pc.holdsLock = true ∨ (o.getUserState user).eligible = true := by
  revert next goesOn
  fun_cases requestBeginTraceStep o free joined fresh thread user config pc answer
  all_goals intro next goesOn
  all_goals cases next
  case case2 | case3 => exact absurd rfl goesOn
  case case4 ready => exact .inr (ready_eligible o user ready)
  all_goals exact .inl rfl

theorem caller_beginning (o : UbertraceOrchestrator) (free joined : Bool) (fresh thread : Nat) (pc : CallerPc)
    (answer : Answer) (e : CallerEffect) (user : UbertraceUserId)
    (next : callerStep o free joined fresh thread pc answer = some e) (begins : e.pc.beginningFor = some user) :
    pc.beginningFor = some user ∨ (o.getUserState user).eligible = true := by
  revert begins
  have elsewhere : ∀ {π : Type} (e : Effect π) (into : π → CallerPc), (∀ pc, (into pc).beginningFor = none) →
      (e.inCall into).pc.beginningFor ≠ some user := by
    intro π e into never begins
    cases nextEq : e.next with
    | none => simp [Effect.inCall, nextEq, CallerPc.beginningFor] at begins
    | some pc => simp [Effect.inCall, nextEq, never pc] at begins
  refine caller_rule o free joined fresh thread (fun pc _ e => e.pc.beginningFor = some user →
      pc.beginningFor = some user ∨ (o.getUserState user).eligible = true)
    (fun _ _ _ _ e _ begins => absurd begins (elsewhere e _ fun _ => rfl))
    (fun _ _ _ e _ begins => absurd begins (elsewhere e _ fun _ => rfl))
    (fun _ _ _ _ e _ begins => absurd begins (elsewhere e _ fun _ => rfl))
    (fun _ _ _ e _ begins => absurd begins (elsewhere e _ fun _ => rfl))
    ?_ (by intros; contradiction) (by intros; contradiction) (by intros; contradiction) (by intros; contradiction)
    (by intros; contradiction) pc answer e next
  intro starter config pc answer e inside begins
  cases nextEq : e.next with
  | none => simp [Effect.inCall, nextEq, CallerPc.beginningFor] at begins
  | some after =>
      obtain ⟨_, rfl⟩ : after.holdsLock = true ∧ starter = user := by
        simpa [Effect.inCall, nextEq, CallerPc.beginningFor] using begins
      have before := request_begin_trace_beginning o free joined fresh thread starter config pc answer e inside
        (by rw [nextEq]; simp)
      exact before.imp_left fun held => by rw [CallerPc.beginningFor, if_pos held]

theorem poller_eligible (o : UbertraceOrchestrator) (free : Bool) (thread : Nat) (p : Poller)
    (e : PollerEffect) (move : PollerMove o free thread p e) (user : UbertraceUserId)
    (eligible : (e.orch.getUserState user).eligible = true) :
    (o.getUserState user).eligible = true ∨ p.user o = some user := by
  have mine : ∀ other state, p.pc.polling = false → p.pc.completingFor = some other →
      ((o.setState state other).getUserState user).eligible = true →
      (o.getUserState user).eligible = true ∨ p.user o = some user := by
    intro other state polls completes shows
    rw [completing_user o p other polls completes]
    exact (eligible_here_or_elsewhere o state other user shows).imp_right fun same => congrArg some same.symm
  cases move with
  | writing here => exact .inl (eligible_elsewhere o .dumping _ user rfl eligible)
  | complete other collected here =>
      refine .inl ?_
      split at eligible
      · exact eligible_elsewhere _ .done other user rfl eligible
      · exact eligible
  | abort other here => exact .inl (eligible_elsewhere o .busy _ user rfl eligible)
  | chunksFailed other here | postProcess other here | completed other here | handedOver other here
  | aborted other here | cancelFailed other here =>
      exact mine other _ (by rw [here]; rfl) (by rw [here]; rfl) eligible
  | _ => exact .inl eligible

theorem finished_newest (thread : Nat) (user other : UbertraceUserId) (isAutoCapture : Bool) (delivery : Delivery)
    (member : .finished user true ∈ [Event.finished other isAutoCapture, .delivered thread delivery]) :
    user = other ∧ isAutoCapture = true := by
  obtain same | later := List.mem_cons.mp member
  · cases same
    exact ⟨rfl, rfl⟩
  · simp at later

theorem poller_finishes (o : UbertraceOrchestrator) (free : Bool) (thread : Nat) (p : Poller)
    (e : PollerEffect) (move : PollerMove o free thread p e) (user : UbertraceUserId)
    (finishes : .finished user true ∈ e.events)
    (written : p.pc = .success user → p.config.isAutoCapture = true → p.additionalChunkResult = .success) :
    p.pc.holdsLock = true ∧ e.poller.user e.orch = none ∧ (e.orch.getUserState user).eligible = false := by
  cases move with
  | chunksFailed other here failed =>
      obtain ⟨rfl, auto⟩ := finished_newest thread user other _ _ finishes
      exact absurd (written here auto) failed
  | completed other here | handedOver other here | aborted other here =>
      obtain ⟨rfl, auto⟩ := finished_newest thread user other _ _ finishes
      refine ⟨by rw [here]; rfl, rfl, ?_⟩
      rw [get_user_state_set, if_pos rfl, auto]
      rfl
  | cancelFailed other here =>
      obtain ⟨rfl, _⟩ := finished_newest thread user other _ _ finishes
      refine ⟨by rw [here]; rfl, rfl, ?_⟩
      rw [get_user_state_set, if_pos rfl]
      rfl
  | _ => simp at finishes

-- Nothing is left that could begin another capture for the user.
structure State.Retired (s : State) (user : UbertraceUserId) : Prop where
  ineligible : (s.orch.getUserState user).eligible = false
  request : ∀ id, (s.callers id).beginningFor ≠ some user
  worker : ∀ thread, (s.pollers thread).user s.orch ≠ some user

structure State.FinishedRetired (s : State) : Prop where
  retired : ∀ user, .finished user true ∈ s.log → s.Retired user
  past : OneShot s.log

theorem one_shot_append (events log : List Event)
    (refused : ∀ user config, .returned (.requestBeginTrace user config) .success ∉ events)
    (past : OneShot log) : OneShot (events ++ log) := by
  refine at_each_append _ events log (fun event member older user config same => ?_) past
  subst same
  exact absurd member (refused user config)

theorem beginning_holds_lock (pc : CallerPc) (user : UbertraceUserId) (begins : pc.beginningFor = some user) :
    pc.holdsLock = true := by
  cases pc with
  | requestBeginTrace other config pc =>
      by_cases held : pc.holdsLock = true
      · exact held
      · rw [CallerPc.beginningFor, if_neg held] at begins
        cases begins
  | _ => cases begins

-- A step of a call changes the users of threads only by starting one.
theorem worker_after_caller (s : State) (id : Nat) (answer : Answer) (e : CallerEffect) (owned : s.Owned)
    (effect : s.callerEffect id answer = some e) (thread : Nat) (user : UbertraceUserId)
    (works : ((s.applyCaller id e).pollers thread).user e.orch = some user) :
    (s.pollers thread).user s.orch = some user ∨ (s.callers id).beginningFor = some user := by
  obtain ⟨_, quiet⟩ | ⟨starter, config, pc, capture, here, starts⟩ := caller_cases _ _ _ _ _ _ _ _ effect
  · simp only [State.applyCaller, quiet.spawned, Option.elim_none] at works
    rw [poller_user_same s.orch e.orch _ quiet.capturingUser] at works
    exact .inl works
  · have exited : ∀ other, (s.pollers other).pc.alive = false := by
      cases starts with
      | join waited => exact joined_all_exited s owned waited
      | _ => exact starting_all_exited s owned id starter (by rw [here]; rfl)
    cases starts with
    | thread =>
        by_cases fresh : thread = s.threads
        · simp only [State.applyCaller, Option.elim_some, fresh, Function.update_self] at works
          obtain rfl : s.orch.capturingUser = user := Option.some.inj works
          refine .inr ?_
          rw [owned.claimed id starter config capture here, here]
          rfl
        · simp only [State.applyCaller, Option.elim_some, Function.update_of_ne fresh] at works
          have alive := poller_user_alive _ _ user works
          rw [exited thread] at alive
          cases alive
    | _ =>
        have alive := poller_user_alive _ _ user works
        have dead := exited thread
        simp only [State.applyCaller, Option.elim_none] at alive
        rw [dead] at alive
        cases alive

theorem retired_caller (s : State) (id : Nat) (answer : Answer) (e : CallerEffect) (owned : s.Owned)
    (finished : s.FinishedRetired) (allowed : keepsFinished s (.caller id answer) = true)
    (effect : s.callerEffect id answer = some e) : (s.applyCaller id e).FinishedRetired := by
  refine ⟨fun user member => ?_, ?_⟩
  · have old : .finished user true ∈ s.log := by
      obtain new | old := List.mem_append.mp member
      · exact absurd new (caller_event_operation _ _ _ _ _ _ _ _ effect _ rfl)
      · exact old
    have retired := finished.retired user old
    have notEligible : (s.orch.getUserState user).eligible ≠ true := by simp [retired.ineligible]
    refine ⟨?_, fun other begins => ?_, fun thread works => ?_⟩
    · by_contra eligible
      rw [Bool.not_eq_false] at eligible
      obtain before | revives := caller_eligible _ _ _ user _ _ _ _ e effect eligible
      · exact notEligible before
      · exact revives_forbidden s id answer user revives allowed old
    · by_cases same : other = id
      · rw [same] at begins
        simp only [State.applyCaller, Function.update_self] at begins
        obtain before | eligible := caller_beginning _ _ _ _ _ _ _ e user effect begins
        · exact retired.request id before
        · exact notEligible eligible
      · simp only [State.applyCaller, Function.update_of_ne same] at begins
        exact retired.request other begins
    · obtain before | begins := worker_after_caller s id answer e owned effect thread user works
      · exact retired.worker thread before
      · exact retired.request id begins
  · obtain ⟨_, quiet⟩ | ⟨starter, config, pc, capture, here, starts⟩ := caller_cases _ _ _ _ _ _ _ _ effect
    · exact one_shot_append _ _ quiet.refused finished.past
    · cases starts with
      | thread =>
          refine ⟨fun user other same member => ?_, finished.past⟩
          cases same
          exact (finished.retired starter member).request id (by rw [here]; rfl)
      | _ => exact one_shot_append _ _ (by simp) finished.past

theorem retired_poller (s : State) (id : Nat) (answer : Answer) (e : PollerEffect) (locked : s.Locked)
    (owned : s.Owned) (finished : s.FinishedRetired)
    (allowed : keepsFinished s (.poller id answer) = true) (move : PollerMove s.orch s.free id (s.pollers id) e) :
    (s.applyPoller id e).FinishedRetired := by
  have moves := poller_cases _ _ _ _ _ move
  have others : ∀ thread user, thread ≠ id → (s.pollers thread).user e.orch ≠ some user := by
    intro thread user apart works
    have mine := owned.handle id moves.alive
    rw [owned.handle thread (poller_user_alive _ _ user works)] at mine
    exact apart (Option.some.inj mine)
  refine ⟨fun user member => ?_, one_shot_append _ _ (fun _ _ => poller_returns_nothing _ _ _ _ _ move _ _) finished.past⟩
  obtain new | old := List.mem_append.mp member
  · have written : (s.pollers id).pc = .success user → (s.pollers id).config.isAutoCapture = true →
        (s.pollers id).additionalChunkResult = .success := by
      intro here auto
      simpa [keepsFinished, here, auto] using allowed
    obtain ⟨holds, idle, ineligible⟩ := poller_finishes _ _ _ _ _ move user new written
    refine ⟨ineligible, fun caller begins => ?_, fun thread works => ?_⟩
    · -- The completion section and a request past its first step exclude each other.
      have inside : s.holds (.caller caller) := beginning_holds_lock (s.callers caller) user begins
      cases guarded_unique s.mutex s.holds locked (.caller caller) (.poller id) inside holds
    · by_cases same : thread = id
      · rw [same] at works
        simp only [State.applyPoller, Function.update_self, idle] at works
        cases works
      · simp only [State.applyPoller, Function.update_of_ne same] at works
        exact others thread user same works
  · have retired := finished.retired user old
    refine ⟨?_, retired.request, fun thread works => ?_⟩
    · by_contra eligible
      rw [Bool.not_eq_false] at eligible
      obtain before | works := poller_eligible _ _ _ _ _ move user eligible
      · rw [retired.ineligible] at before
        cases before
      · exact retired.worker id works
    · by_cases same : thread = id
      · rw [same] at works
        simp only [State.applyPoller, Function.update_self] at works
        exact retired.worker id (moves.user user works)
      · simp only [State.applyPoller, Function.update_of_ne same] at works
        exact others thread user same works

theorem reach_finished_retired (features : UbertraceFeatures) (s : State)
    (reach : Reach (ubertrace features) (fun s a => keepsFinished s a = true) s) : s.FinishedRetired := by
  refine reach_invariant (ubertrace features) _ State.FinishedRetired ⟨nofun, trivial⟩ ?_ s reach
  intro s a t before finished allowed next
  have reachable := reach_reachable _ _ s before
  have locked := reachable_locked features s reachable
  have owned := reachable_owned features s reachable
  rcases step_cases s t a next with ⟨_, rfl⟩ | ⟨id, call, _, outside, rfl⟩ |
    ⟨id, answer, e, rfl, effect, rfl⟩ | ⟨id, answer, e, rfl, effect, rfl⟩
  · refine ⟨fun user member => ?_, finished.past⟩
    obtain ⟨ineligible, request, worker⟩ := finished.retired user member
    exact ⟨ineligible, request, worker⟩
  · refine ⟨fun user member => ?_, finished.past⟩
    obtain ⟨ineligible, request, worker⟩ := finished.retired user member
    refine ⟨ineligible, fun other begins => ?_, worker⟩
    by_cases same : other = id
    · simp only [same, Function.update_self] at begins
      cases call <;> cases begins
    · simp only [Function.update_of_ne same] at begins
      exact request other begins
  · exact retired_caller s id answer e owned finished allowed effect
  · exact retired_poller s id answer e locked owned finished allowed (poller_moves _ _ _ _ _ _ effect)

-- After its auto capture a user never begins a capture again.
theorem auto_captures_one_shot (features : UbertraceFeatures) (s : State)
    (reach : Reach (ubertrace features) (fun s a => keepsFinished s a = true) s) : OneShot s.log :=
  (reach_finished_retired features s reach).past

theorem finished_user_not_ready : ∃ s,
    Reach (ubertrace .default) (fun s a => keepsFinished s a = true) s ∧ .finished 1 true ∈ s.log ∧
    s.log.head? = some (.returned (.requestBeginTrace 1 autoCapture) .notReady) ∧ OneShot s.log := by
  obtain ⟨s, reach, found⟩ := exec_if_finds (ubertrace .default) keepsFinished
    (connects 0 1 ++ begins 0 1 autoCapture ++ collects 0 .success ++ (begins 0 1 autoCapture).take 2)
    (fun s => .finished 1 true ∈ s.log ∧
      s.log.head? = some (.returned (.requestBeginTrace 1 autoCapture) .notReady)) (by decide)
  obtain ⟨finished, refused⟩ : .finished 1 true ∈ s.log ∧
      s.log.head? = some (.returned (.requestBeginTrace 1 autoCapture) .notReady) := by simpa using found
  exact ⟨s, reach, finished, refused, auto_captures_one_shot .default s reach⟩

-- The failed chunk writer makes the user idle, and the disabled mark does not count for an idle user.
theorem failed_chunks_begin_again : ∃ s, Reachable (ubertrace .default) s ∧ ¬ OneShot s.log := by
  obtain ⟨s, reach, found⟩ := exec_finds (ubertrace .default)
    (connects 0 1 ++ begins 0 1 autoCapture ++ collects 0 .failure ++ begins 0 1 autoCapture)
    (fun s => .finished 1 true ∈ s.log.tail ∧
      s.log.head? = some (.returned (.requestBeginTrace 1 autoCapture) .success)) (by decide)
  obtain ⟨finished, succeeds⟩ : .finished 1 true ∈ s.log.tail ∧
      s.log.head? = some (.returned (.requestBeginTrace 1 autoCapture) .success) := by simpa using found
  refine ⟨s, reach, fun past => ?_⟩
  rw [← List.cons_head?_tail succeeds] at past
  exact past.1 1 autoCapture rfl finished

end RadeonPanel.Ubertrace

import RadeonPanel.Ubertrace.Placement

set_option autoImplicit false

namespace RadeonPanel.Ubertrace

open Interleaving

-- An abort that has not yet passed the place where it sets a waiting user back.
def ClientRun.resets (s : ClientRun) : Bool :=
  s.aborting = some .supported ∨ s.aborting = some .state ∨ s.aborting = some .idle

-- Every auto capture that nobody works on any more has one reported outcome, and
-- the user waits only while a timer does, or an abort is about to set it back.
structure ClientRun.Reported (c : UbertraceClient) (s : ClientRun) : Prop where
  outcomes : s.captures.Accounted AutoCapture.working
  timed : ∀ id config, s.captures.place id = .waiting config → s.timer = some id
  waits : s.orch.getUserState c.user = .waitingToBeginCapture → s.timer.isSome = true ∨ s.resets = true

-- A failure before the capture is only survived where it is reported and the
-- user's state is set back.
def failsReported (c : UbertraceClient) (s : ClientRun) : ClientAction → Bool
  | .beginAutoCapture a =>
      match s.connection.map s.captures.place with
      | some (.beginning config) =>
          if config.delayMs = 0 then c.accepted s.orch config.captureMode .autoCapture a
          else s.orch.userState c.user = some .idle ∧ s.orch.disabledUsers c.user = none
      | _ => true
  | .timerTriggered a =>
      match s.timer.map s.captures.place with
      | some (.waiting config) =>
          s.orch.getUserState c.user = .waitingToBeginCapture →
            s.resets = true ∨ c.reachesState s.orch config.captureMode .delayedAutoCapture a = true
      | _ => true
  | .abort =>
      s.aborting = some .supported → s.orch.getUserState c.user = .waitingToBeginCapture → s.timer = none →
        s.orch.features.cancelTraceSupported = true
  | .disconnect => s.orch.getUserState c.user = .waitingToBeginCapture → s.resets = true
  | _ => true

-- A polling thread reports in the move that settles it, and in no other.
theorem polled_reports (o : UbertraceOrchestrator) (free : Bool) (thread : Nat) (p : Poller) (e : PollerEffect)
    (move : PollerMove o free thread p e) :
    (e.poller.pc.settled = p.pc.settled ∧ e.events.filterMap Event.delivery = []) ∨
    (p.pc.settled = false ∧ e.poller.pc.settled = true ∧ ∃ delivery, e.events.filterMap Event.delivery = [delivery]) := by
  cases move with
  | complete user collected here => cases collected <;> exact .inl ⟨by rw [here]; rfl, rfl⟩
  | writing here | cancelRetry user here => exact .inl ⟨rfl, rfl⟩
  | poll path here | stop here | retry result chunks here | collect chunks here | exchange collected here
  | postProcess user here | abort user here | ended here => exact .inl ⟨by rw [here]; rfl, rfl⟩
  | chunksFailed user here | completed user here | handedOver user here | aborted user here
  | cancelFailed user here => exact .inr ⟨by rw [here]; rfl, rfl, _, rfl⟩

theorem accepted_present (c : UbertraceClient) (o : UbertraceOrchestrator) (captureMode : UInt32)
    (captureType : UberTraceCaptureType) (a : RequestAnswers)
    (accepts : c.accepted o captureMode captureType a = true) : o.userState c.user ≠ none := by
  intro absent
  obtain ⟨_, ready, _⟩ := of_decide_eq_true accepts
  rw [UbertraceOrchestrator.isReadyForCapture, absent] at ready
  cases ready

theorem accounted_cancel (c : UbertraceClient) (s : ClientRun) (placed : s.Placed c)
    (accounted : s.captures.Accounted AutoCapture.working) : s.cancelTimer.captures.Accounted AutoCapture.working := by
  unfold ClientRun.cancelTimer
  cases timer : s.timer with
  | none => exact accounted
  | some id =>
      obtain ⟨begun, config, waits⟩ := placed.timer id timer
      exact move_reported _ _ id .done begun accounted (by rw [waits]; rfl) rfl _

theorem cancel_elsewhere (s : ClientRun) (id : Nat) (apart : s.timer ≠ some id) :
    s.cancelTimer.captures.place id = s.captures.place id := by
  unfold ClientRun.cancelTimer
  cases timer : s.timer with
  | none => rfl
  | some other =>
      refine move_elsewhere _ _ _ _ _ ?_
      rintro rfl
      exact apart timer

theorem abort_unsupported (o : UbertraceOrchestrator) (user : UbertraceUserId)
    (waiting : o.getUserState user = .waitingToBeginCapture) (unsupported : o.features.cancelTraceSupported = false) :
    o.isAbortTraceSupported user = some false := by
  unfold UbertraceOrchestrator.getUserState at waiting
  cases here : o.userState user with
  | none =>
      rw [here] at waiting
      cases waiting
  | some state =>
      rw [here, Option.getD_some] at waiting
      simp [UbertraceOrchestrator.isAbortTraceSupported, here, waiting, isCapturing, unsupported]

-- An abort that passes its support test sets a waiting user back.
theorem abort_waits (c : UbertraceClient) (s : ClientRun) (pc : RequestAbortTracePc) (e : Effect RequestAbortTracePc)
    (here : s.aborting = some pc) (step : requestAbortTraceStep s.orch true c.user pc .go = some e)
    (waits : s.orch.getUserState c.user = .waitingToBeginCapture → s.timer.isSome = true ∨ s.resets = true)
    (allowed : pc = .supported → s.orch.getUserState c.user = .waitingToBeginCapture → s.timer = none →
      s.orch.features.cancelTraceSupported = true)
    (waiting : e.orch.getUserState c.user = .waitingToBeginCapture) :
    s.timer.isSome = true ∨ ClientRun.resets { s with orch := e.orch, aborting := e.next } = true := by
  cases pc with
  | supported =>
      simp only [requestAbortTraceStep] at step
      cases supports : s.orch.isAbortTraceSupported c.user with
      | none =>
          rw [supports] at step
          cases step
          rw [UbertraceOrchestrator.getUserState, Option.map_eq_none_iff.mp supports] at waiting
          cases waiting
      | some supported =>
          rw [supports] at step
          cases supported with
          | true =>
              cases step
              exact .inr rfl
          | false =>
              cases step
              by_contra lost
              have noTimer : s.timer = none := by simpa using (not_or.mp lost).1
              have cancels := allowed rfl waiting noTimer
              obtain ⟨state, known, unsupported⟩ := Option.map_eq_some_iff.mp supports
              rw [cancels] at unsupported
              split at unsupported <;> cases unsupported
  | state =>
      simp only [requestAbortTraceStep, Bool.not_true, Bool.false_eq_true, if_false] at step
      by_cases waitsNow : s.orch.getUserState c.user = .waitingToBeginCapture
      · rw [if_pos waitsNow] at step
        cases step
        exact .inr rfl
      · rw [if_neg waitsNow] at step
        cases step
        exact absurd waiting waitsNow
  | idle =>
      cases step
      rw [UbertraceOrchestrator.get_user_state_set, if_pos rfl] at waiting
      cases waiting
  | stop =>
      cases step
      obtain timer | resets := waits waiting
      · exact .inl timer
      · rw [ClientRun.resets, here] at resets
        cases resets

-- A request that starts a polling thread reports nothing yet.
theorem accounted_starts (c : UbertraceClient) (s : ClientRun) (id : Nat) (p : Poller) (polls : p.pc = .check)
    (begun : id < s.captures.begun) (reported : s.Reported c) (works : (s.captures.place id).working = true) :
    (s.captures.move id (.polling p) []).Accounted AutoCapture.working :=
  move_silent _ _ id _ begun reported.outcomes (by rw [works]; simp [AutoCapture.working, polls, PollerPc.settled])

theorem accounted_polls (c : UbertraceClient) (s : ClientRun) (id : Nat) (free : Bool) (p : Poller) (e : PollerEffect)
    (here : s.captures.place id = .polling p) (begun : id < s.captures.begun) (reported : s.Reported c)
    (move : PollerMove s.orch free id p e) :
    (s.captures.move id (.polling e.poller) (e.events.filterMap Event.delivery)).Accounted AutoCapture.working := by
  obtain ⟨same, silent⟩ | ⟨before, after, delivery, single⟩ := polled_reports _ _ _ _ _ move
  · rw [silent]
    exact move_silent _ _ id _ begun reported.outcomes (by simp [here, AutoCapture.working, same])
  · rw [single]
    have worked : (s.captures.place id).working = true := by simp [here, AutoCapture.working, before]
    have rests : (AutoCapture.polling e.poller).working = false := by simp [AutoCapture.working, after]
    exact move_reported _ _ id _ begun reported.outcomes worked rests delivery

-- The timer that a delayed capture starts ends the one before it.
theorem accounted_delays (c : UbertraceClient) (s : ClientRun) (id : Nat) (config : UbertraceAutoCaptureConfig) (placed : s.Placed c)
    (reported : s.Reported c) (connection : s.connection = some id) (here : s.captures.place id = .beginning config) :
    (ClientRun.startTimer { s with orch := s.orch.setState .waitingToBeginCapture c.user } id config).captures.Accounted
      AutoCapture.working := by
  have present : ((s.orch.setState .waitingToBeginCapture c.user).userState c.user).isSome = true := by
    rw [UbertraceOrchestrator.set_state_here]
    rfl
  have prepared := placed_orch c s _ placed fun _ => present
  have begun := ((placed_cancel c _ prepared).connection id (by rwa [cancel_connection])).1
  have apart : s.timer ≠ some id := fun timer => timer_not_connection c s placed id id connection timer rfl
  refine move_silent _ _ id _ begun (accounted_cancel c _ prepared reported.outcomes) ?_
  rw [cancel_elsewhere { s with orch := s.orch.setState .waitingToBeginCapture c.user } id apart]
  show true = (s.captures.place id).working
  rw [here]
  rfl

theorem reported_step (c : UbertraceClient) (s t : ClientRun) (a : ClientAction) (placed : s.Placed c)
    (reported : s.Reported c) (allowed : failsReported c s a = true) (move : ClientMove c s a t) : t.Reported c := by
  have placedAfter := placed_step c s t a placed move
  cases move with
  | others o relies | handled state answer auto o relies =>
      exact ⟨reported.outcomes, placedAfter.timed, fun waiting => reported.waits (relies.1 waiting)⟩
  | begun state answer config o relies free =>
      refine ⟨?_, placedAfter.timed, fun waiting => reported.waits (relies.1 waiting)⟩
      exact begin_accounted _ _ _ rfl reported.outcomes
  | immediate id config a t connection here now moves =>
      have accepts : c.accepted s.orch config.captureMode .autoCapture a = true := by
        simpa only [failsReported, connection, Option.map_some, here, if_pos now] using allowed
      have begun := (placed.connection id connection).1
      cases moves with
      | threw absent => exact absurd absent (accepted_present _ _ _ _ _ accepts)
      | refused next refuses relies waits =>
          rw [refuses] at accepts
          cases accepts
      | started p _ polls =>
          refine ⟨?_, placedAfter.timed, fun waiting => ?_⟩
          · exact accounted_starts c s id p polls begun reported (by rw [here]; rfl)
          · rw [start_polling_state] at waiting
            cases waiting
  | dropped id config a connection here later notReady =>
      simp only [failsReported, connection, Option.map_some, here, if_neg later, decide_eq_true_eq] at allowed
      exact absurd allowed notReady
  | delayed id config a connection here later ready =>
      exact ⟨accounted_delays c s id config placed reported connection here, placedAfter.timed, fun _ => .inl rfl⟩
  | triggered id config a t timer here moves =>
      obtain ⟨begun, _⟩ := placed.timer id timer
      cases moves with
      | threw absent =>
          have present := placed.present (by rw [timer]; rfl)
          rw [absent] at present
          cases present
      | refused next refuses relies waits =>
          refine ⟨?_, placedAfter.timed, fun waiting => ?_⟩
          · exact move_reported _ _ id .done begun reported.outcomes (by rw [here]; rfl) rfl _
          · obtain ⟨before, misses⟩ := waits.mp waiting
            have survives : s.orch.getUserState c.user = .waitingToBeginCapture →
                s.resets = true ∨ c.reachesState s.orch config.captureMode .delayedAutoCapture a = true := by
              simpa only [failsReported, timer, Option.map_some, here, decide_eq_true_eq] using allowed
            obtain resets | reaches := survives before
            · exact .inr resets
            · exact absurd (reaches.symm.trans misses) nofun
      | started p _ polls =>
          refine ⟨?_, placedAfter.timed, fun waiting => ?_⟩
          · exact accounted_starts c s id p polls begun reported (by rw [here]; rfl)
          · rw [start_polling_state] at waiting
            cases waiting
  | polled id free answer p e here move =>
      have begun := polling_begun c s placed id p here
      exact ⟨accounted_polls c s id free p e here begun reported move, placedAfter.timed,
        fun waiting => reported.waits ((poller_relies c.user _ _ _ _ _ move).1 waiting)⟩
  | requested idle => exact ⟨accounted_cancel c s placed reported.outcomes, placedAfter.timed, fun _ => .inr rfl⟩
  | aborts pc e here step =>
      refine ⟨reported.outcomes, placedAfter.timed, abort_waits c s pc e here step reported.waits ?_⟩
      rintro rfl
      simpa only [failsReported, here, decide_eq_true_eq, forall_const] using allowed
  | disconnects =>
      refine ⟨accounted_cancel c s placed reported.outcomes, placedAfter.timed, fun waiting => .inr ?_⟩
      rw [cancel_orch] at waiting
      rw [ClientRun.resets, cancel_aborting]
      exact (of_decide_eq_true allowed : s.orch.getUserState c.user = .waitingToBeginCapture → s.resets = true) waiting

theorem fails_reported_sound (c : UbertraceClient) (features : UbertraceFeatures) (s : ClientRun)
    (reach : Reach (ubertraceClient c features) (fun s a => failsReported c s a = true) s) : s.Reported c := by
  refine reach_invariant (ubertraceClient c features) _ (ClientRun.Reported c) ?_ ?_ s reach
  · exact ⟨empty_accounted _ _, nofun, nofun⟩
  · intro s a t before reported allowed next
    have placed := reachable_placed c features s (reach_reachable _ _ s before)
    exact reported_step c s t a placed reported allowed (client_moves c s t a next)

theorem fails_reported_exact (c : UbertraceClient) (features : UbertraceFeatures) (s : ClientRun) (a : ClientAction)
    (t : ClientRun) (reach : Reachable (ubertraceClient c features) s) (reported : s.Reported c)
    (next : clientStep c s a = some t) (reportedAfter : t.Reported c) : failsReported c s a = true := by
  have placed := reachable_placed c features s reach
  have outcomes := reportedAfter.outcomes
  cases client_moves c s t a next with
  | others o relies | handled state answer auto o relies | begun state answer config o relies free => rfl
  | immediate id config a t connection here now moves =>
      obtain ⟨begun, _⟩ := placed.connection id connection
      simp only [failsReported, connection, Option.map_some, here, if_pos now]
      cases moves with
      | threw absent | refused next refuses relies waits =>
          exact absurd outcomes (move_unreported _ _ id .done begun reported.outcomes (by rw [here]; rfl) rfl)
      | started p accepts polls => exact accepts
  | dropped id config a connection here later notReady =>
      obtain ⟨begun, _⟩ := placed.connection id connection
      exact absurd outcomes (move_unreported _ _ id .done begun reported.outcomes (by rw [here]; rfl) rfl)
  | delayed id config a connection here later ready =>
      simp only [failsReported, connection, Option.map_some, here, if_neg later]
      exact decide_eq_true ready
  | triggered id config a t timer here moves =>
      obtain ⟨begun, _⟩ := placed.timer id timer
      simp only [failsReported, timer, Option.map_some, here, decide_eq_true_eq]
      intro waiting
      cases moves with
      | threw absent =>
          have present := placed.present (by rw [timer]; rfl)
          rw [absent] at present
          cases present
      | refused next refuses relies waits =>
          by_contra lost
          obtain ⟨keeps, misses⟩ := not_or.mp lost
          have waitsOn := waits.mpr ⟨waiting, by simpa using misses⟩
          obtain timer | resets := reportedAfter.waits waitsOn
          · cases timer
          · exact keeps resets
      | started p accepts polls =>
          obtain ⟨generated, ready, configured, _⟩ := of_decide_eq_true accepts
          have enabled := (ready_waiting s.orch c.user true ready waiting).mp rfl
          exact .inr (decide_eq_true ⟨generated, enabled, .inl configured⟩)
  | polled id free answer p e here move => rfl
  | requested idle => rfl
  | aborts pc e here step =>
      simp only [failsReported, decide_eq_true_eq]
      intro supported waiting noTimer
      by_contra unsupported
      rw [here, Option.some.injEq] at supported
      subst supported
      rw [Bool.not_eq_true] at unsupported
      simp only [requestAbortTraceStep, abort_unsupported s.orch c.user waiting unsupported, Option.some.injEq] at step
      subst step
      obtain timer | resets := reportedAfter.waits waiting
      · rw [noTimer] at timer
        cases timer
      · cases resets
  | disconnects =>
      refine decide_eq_true fun waiting => ?_
      obtain timer | resets := reportedAfter.waits (by rwa [cancel_orch])
      · rw [cancel_timer] at timer
        cases timer
      · rwa [ClientRun.resets, cancel_aborting] at resets

theorem auto_captures_reported_iff (c : UbertraceClient) (features : UbertraceFeatures) (actions : List ClientAction) :
    Meets (ubertraceClient c features) (fun s a => failsReported c s a = true)
        (ubertraceClient c features).init actions ↔
      Always (ubertraceClient c features) (ClientRun.Reported c) (ubertraceClient c features).init actions :=
  ⟨meets_always (ubertraceClient c features) _ _ (fails_reported_sound c features) _ .init actions,
    always_meets (ubertraceClient c features) _ _ (fails_reported_exact c features) actions⟩

-- A client whose user has been initialized, and one whose capture configuration
-- is refused.
def idleUser : ClientAction := .others ((UbertraceOrchestrator.new .default).setState .idle 1)

def unsupportedMode : RequestAnswers := ⟨fun _ _ => ⟨.unsupported, ⟨[], none⟩, false⟩, .sent .success, .success, 0, 0⟩

-- The same refusal: without a delay nobody is told, with a delay the user stays
-- waiting although its timer is gone.
theorem refused_captures_unreported :
    (∃ s, Reachable (ubertraceClient ⟨1, false⟩ .default) s ∧ s.captures.begun = 1 ∧
      (s.captures.place 0).working = false ∧ s.captures.reportsOf 0 = [] ∧ ¬ s.Reported ⟨1, false⟩) ∧
    ∃ s, Reachable (ubertraceClient ⟨1, false⟩ .default) s ∧ s.captures.reportsOf 0 = [.traceCompleted .error ""] ∧
      s.orch.getUserState 1 = .waitingToBeginCapture ∧ s.timer = none ∧ ¬ s.Reported ⟨1, false⟩ := by
  constructor
  · obtain ⟨s, reach, found⟩ := exec_finds (ubertraceClient ⟨1, false⟩ .default)
      [idleUser, .handleDriverState .postDeviceInit (.sent .success) (some ⟨0, 0⟩), .beginAutoCapture unsupportedMode]
      (fun s => s.captures.begun = 1 ∧ (s.captures.place 0).working = false ∧ s.captures.reportsOf 0 = []) (by decide)
    obtain ⟨begun, done, silent⟩ := of_decide_eq_true found
    refine ⟨s, reach, begun, done, silent, fun reported => ?_⟩
    obtain ⟨report, single⟩ := reported.outcomes.settled 0 (by omega) done
    rw [silent] at single
    cases single
  · obtain ⟨s, reach, found⟩ := exec_finds (ubertraceClient ⟨1, false⟩ .default)
      [idleUser, .handleDriverState .postDeviceInit (.sent .success) (some ⟨1000, 0⟩), .beginAutoCapture unsupportedMode,
        .timerTriggered unsupportedMode]
      (fun s => s.captures.reportsOf 0 = [.traceCompleted .error ""] ∧
        s.orch.getUserState 1 = .waitingToBeginCapture ∧ s.timer = none ∧ s.aborting = none) (by decide)
    obtain ⟨told, waiting, noTimer, noAbort⟩ := of_decide_eq_true found
    refine ⟨s, reach, told, waiting, noTimer, fun reported => ?_⟩
    obtain timer | resets := reported.waits waiting
    · rw [noTimer] at timer
      cases timer
    · rw [ClientRun.resets, noAbort] at resets
      cases resets

end RadeonPanel.Ubertrace

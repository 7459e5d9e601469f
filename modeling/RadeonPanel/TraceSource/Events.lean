import RadeonPanel.TraceSource.Consistency

set_option autoImplicit false

namespace RadeonPanel.TraceSource

open EventChannel Interleaving RadeonPanel.Ubertrace

theorem update_flows (s : State) (glance : Glance) : Flows s.status (s.updateTraceSourceStatus glance).status :=
  push_flows s.status _

theorem run_flows (s t : State) (id : DdConnectionId) (answer : Answer) (pc after : Pc)
    (run : s.run id answer pc = some (t, after)) :
    Flows s.status t.status ∧ t.completion = s.completion ∧ t.progress = s.progress ∧ t.shutdown = s.shutdown := by
  cases pc with
  | outside => cases run
  | connectedUpdate | disconnectedUpdate | boundUpdate =>
      cases run
      exact ⟨update_flows s answer.glance, rfl, rfl, rfl⟩
  | disconnectClient | handleDriverState =>
      cases run
      exact ⟨.inl rfl, rfl, rfl, rfl⟩
  | connected | initializeClient | disconnecting | getBoundClient =>
      simp only [State.run] at run
      split at run <;> cases run <;> exact ⟨.inl rfl, rfl, rfl, rfl⟩
  | connecting connection =>
      cases run
      unfold State.connect
      split <;> exact ⟨.inl rfl, rfl, rfl, rfl⟩
  | initClientIfNeeded state =>
      simp only [State.run] at run
      repeat' split at run
      all_goals cases run; exact ⟨.inl rfl, rfl, rfl, rfl⟩
  | bind b state =>
      simp only [State.run, State.bindClient] at run
      split at run <;> cases run <;> exact ⟨.inl rfl, rfl, rfl, rfl⟩

theorem report_flows (s : State) (thread : Nat) (kind : ReportKind) (glance : Glance) :
    Flows s.status (s.report thread kind glance).status := by
  cases kind with
  | performProcessing progress => exact push_flows s.status _
  | _ => exact .inl rfl

-- Only the destructor stops a channel.
theorem channels_flow (s t : State) (a : Action) (alive : a ≠ .shutDown) (next : s.next a = some t) :
    (Flows s.status t.status ∧ Flows s.completion t.completion ∧ Flows s.progress t.progress) ∧
    t.shutdown = s.shutdown := by
  have still : Flows s.status s.status ∧ Flows s.completion s.completion ∧ Flows s.progress s.progress :=
    ⟨.inl rfl, .inl rfl, .inl rfl⟩
  cases a with
  | onDriverConnected info =>
      obtain ⟨_, _, rfl⟩ := State.next_connected s t info next
      exact ⟨still, rfl⟩
  | onDriverDisconnected | onDriverStateChanged =>
      obtain ⟨_, rfl⟩ := (State.start_some s t _ _).mp next
      exact ⟨still, rfl⟩
  | run id answer =>
      obtain ⟨u, after, run, rfl⟩ := State.next_run s t id answer next
      obtain ⟨status, completion, progress, shutdown⟩ := run_flows s u id answer _ after run
      exact ⟨⟨status, .inl completion, .inl progress⟩, shutdown⟩
  | setState | queryStatus | setAllClientsDisabledReason =>
      simp only [State.next] at next
      split at next <;> cases next <;> exact ⟨still, rfl⟩
  | report thread kind glance =>
      simp only [State.next] at next
      split at next <;> cases next
      exact ⟨⟨report_flows s thread kind glance, .inl rfl, .inl rfl⟩, rfl⟩
  | runSetter glance =>
      simp only [State.next] at next
      split at next <;> cases next
      exact ⟨⟨update_flows s glance, .inl rfl, .inl rfl⟩, rfl⟩
  | runChange thread glance =>
      obtain ⟨u, change, run, rfl⟩ := State.next_change s t thread glance next
      cases at_ : s.changes thread with
      | updating client =>
          rw [at_] at run
          cases run
          exact ⟨⟨update_flows s glance, .inl rfl, .inl rfl⟩, rfl⟩
      | idle =>
          rw [at_] at run
          cases run
      | posting | checking =>
          rw [at_] at run
          cases run
          exact ⟨still, rfl⟩
  | setAbortSupported | setDisabledReason | setApiFilter =>
      cases next
      exact ⟨still, rfl⟩
  | traceCompleted status path id =>
      cases next
      exact ⟨⟨.inl rfl, push_flows s.completion _, .inl rfl⟩, rfl⟩
  | pushReport thread =>
      obtain ⟨report, _, rfl⟩ := Option.map_eq_some_iff.mp next
      exact ⟨⟨.inl rfl, .inl rfl, push_flows s.progress _⟩, rfl⟩
  | turn kind turn =>
      obtain ⟨status, completion, progress, rfl, flows⟩ := State.turn_flows s t turn kind next
      exact ⟨flows, rfl⟩
  | shutDown => exact absurd rfl alive

theorem channels_move (s t : State) (a : Action) (next : s.next a = some t) :
    Moved s.status t.status ∧ Moved s.completion t.completion ∧ Moved s.progress t.progress := by
  by_cases stops : a = .shutDown
  · subst stops
    obtain ⟨status, completion, progress, shutdown, rfl, moves⟩ := State.shut_down_moves s t next
    exact moves
  · obtain ⟨⟨status, completion, progress⟩, _⟩ := channels_flow s t a stops next
    exact ⟨flows_moved _ _ status, flows_moved _ _ completion, flows_moved _ _ progress⟩

structure State.Lossless (s : State) : Prop where
  status : s.status.Lossless
  completion : s.completion.Lossless
  progress : s.progress.Lossless

theorem reachable_lossless (s : State) (reach : Reachable traceSource s) : s.Lossless := by
  apply reachable_invariant traceSource State.Lossless ⟨initial_lossless, initial_lossless, initial_lossless⟩ _ s reach
  intro s a t lossless next
  obtain ⟨status, completion, progress⟩ := channels_move s t a next
  exact ⟨moved_lossless _ _ lossless.status status, moved_lossless _ _ lossless.completion completion,
    moved_lossless _ _ lossless.progress progress⟩

-- How far the destructor has come is how far the channels have been stopped and joined.
def State.Ordered (s : State) : Prop :=
  match s.shutdown with
  | .running => s.status.exit = false ∧ s.completion.exit = false ∧ s.progress.exit = false
  | .joiningStatus => s.completion.exit = false ∧ s.progress.exit = false
  | .joiningCompletion => s.status.reader = .exited ∧ s.progress.exit = false
  | .joiningProgress => s.status.reader = .exited ∧ s.completion.reader = .exited
  | .finished => s.status.reader = .exited ∧ s.completion.reader = .exited ∧ s.progress.reader = .exited

theorem shut_down_ordered (s t : State) (ordered : s.Ordered) (next : s.shutDown = some t) : t.Ordered := by
  unfold State.shutDown at next
  unfold State.Ordered at ordered
  cases stage : s.shutdown with
  | running =>
      rw [stage] at next ordered
      obtain ⟨status, _, rfl⟩ := Option.map_eq_some_iff.mp next
      exact ordered.2
  | joiningStatus =>
      rw [stage] at next ordered
      obtain ⟨joined, stopped⟩ := Option.ite_none_right_eq_some.mp next
      obtain ⟨completion, _, rfl⟩ := Option.map_eq_some_iff.mp stopped
      exact ⟨(exited_iff s.status).mp joined, ordered.2⟩
  | joiningCompletion =>
      rw [stage] at next ordered
      obtain ⟨joined, stopped⟩ := Option.ite_none_right_eq_some.mp next
      obtain ⟨progress, _, rfl⟩ := Option.map_eq_some_iff.mp stopped
      exact ⟨ordered.1, (exited_iff s.completion).mp joined⟩
  | joiningProgress =>
      rw [stage] at next ordered
      obtain ⟨joined, same⟩ := Option.ite_none_right_eq_some.mp next
      cases same
      exact ⟨ordered.1, ordered.2, (exited_iff s.progress).mp joined⟩
  | finished =>
      rw [stage] at next
      cases next

theorem ordered_step (s t : State) (a : Action) (ordered : s.Ordered) (next : s.next a = some t) : t.Ordered := by
  by_cases stops : a = .shutDown
  · subst stops
    exact shut_down_ordered s t ordered next
  · obtain ⟨⟨status, completion, progress⟩, shutdown⟩ := channels_flow s t a stops next
    unfold State.Ordered at ordered ⊢
    rw [shutdown, flows_exit _ _ status, flows_exit _ _ completion, flows_exit _ _ progress]
    have first := exited_stays _ _ (flows_moved _ _ status)
    have second := exited_stays _ _ (flows_moved _ _ completion)
    have third := exited_stays _ _ (flows_moved _ _ progress)
    cases stage : s.shutdown with
    | running | joiningStatus =>
        rw [stage] at ordered
        exact ordered
    | joiningCompletion =>
        rw [stage] at ordered
        exact ⟨first ordered.1, ordered.2⟩
    | joiningProgress =>
        rw [stage] at ordered
        exact ⟨first ordered.1, second ordered.2⟩
    | finished =>
        rw [stage] at ordered
        exact ⟨first ordered.1, second ordered.2.1, third ordered.2.2⟩

theorem reachable_ordered (s : State) (reach : Reachable traceSource s) : s.Ordered :=
  reachable_invariant traceSource State.Ordered ⟨rfl, rfl, rfl⟩
    (fun s a t ordered next => ordered_step s t a ordered next) s reach

-- The events of an earlier state that were pushed before the channels were stopped.
structure State.Since (s early : State) : Prop where
  status : s.status.Since early.status.pushed
  completion : s.completion.Since early.completion.pushed
  progress : s.progress.Since early.progress.pushed

theorem since_run (early s t : State) (actions : List Action) (since : s.Since early)
    (run : exec traceSource s actions = some t) : t.Since early := by
  induction actions generalizing s with
  | nil =>
      cases run
      exact since
  | cons a rest ih =>
      obtain ⟨u, next, remaining⟩ := Option.bind_eq_some_iff.mp run
      obtain ⟨status, completion, progress⟩ := channels_move s u a next
      apply ih u _ remaining
      exact ⟨since_moved _ _ _ since.status status, since_moved _ _ _ since.completion completion,
        since_moved _ _ _ since.progress progress⟩

theorem running_since (s : State) (lossless : s.Lossless) (ordered : s.Ordered) (running : s.shutdown = .running) :
    s.Since s := by
  unfold State.Ordered at ordered
  rw [running] at ordered
  exact ⟨since_now _ lossless.status ordered.1, since_now _ lossless.completion ordered.2.1,
    since_now _ lossless.progress ordered.2.2⟩

-- All three kinds of events, whatever the threads do. When the destructor has
-- returned, each event that was pushed before it began has been delivered.
theorem events_delivered (s : State) (reach : Reachable traceSource s) :
    (s.status.Faithful ∧ s.completion.Faithful ∧ s.progress.Faithful) ∧
    (s.shutdown = .running → ∀ actions t, exec traceSource s actions = some t → t.shutdown = .finished →
      s.status.pushed <+: t.status.rounds.map Round.event ∧
      s.completion.pushed <+: t.completion.rounds.map Round.event ∧
      s.progress.pushed <+: t.progress.rounds.map Round.event) := by
  have lossless := reachable_lossless s reach
  refine ⟨⟨?_, ?_, ?_⟩, ?_⟩
  · exact lossless_faithful s.status lossless.status
  · exact lossless_faithful s.completion lossless.completion
  · exact lossless_faithful s.progress lossless.progress
  · intro running actions t run finished
    have later := exec_reachable traceSource actions s t reach run
    have delivers := reachable_lossless t later
    have since := since_run s s t actions (running_since s lossless (reachable_ordered s reach) running) run
    have ordered := reachable_ordered t later
    unfold State.Ordered at ordered
    rw [finished] at ordered
    obtain ⟨status, completion, progress⟩ := ordered
    exact ⟨exited_since _ _ delivers.status since.status status,
      exited_since _ _ delivers.completion since.completion completion,
      exited_since _ _ delivers.progress since.progress progress⟩

def readsTimes (kind : EventKind) (times : Nat) : List Action := List.replicate times (.turn kind .read)

def completion (id : DdConnectionId) : TraceCompletionEventArgs := ⟨⟨.completed, "", id⟩⟩

-- The second listener comes after the first delivery, and the shutdown before the second one.
def twoCompletions : List Action :=
  [.turn .completion (.register ⟨true⟩), .traceCompleted .completed "" 7] ++ readsTimes .completion 4 ++
    [.turn .completion (.register ⟨true⟩), .traceCompleted .completed "" 8]

def shutsDown : List Action :=
  .shutDown :: readsTimes .status 1 ++ .shutDown :: readsTimes .completion 6 ++ .shutDown :: readsTimes .progress 1 ++
    [.shutDown]

theorem completions_delivered : ∃ s t, Reachable traceSource s ∧ exec traceSource s shutsDown = some t ∧
    t.completion.heard 0 = [completion 7, completion 8] ∧ t.completion.heard 1 = [completion 8] ∧
    s.completion.pushed = [completion 7, completion 8] ∧
    s.completion.pushed <+: t.completion.rounds.map Round.event := by
  obtain ⟨s, t, reach, found, run, later⟩ := exec_finds_later traceSource twoCompletions shutsDown
    (fun s => s.shutdown = .running ∧ s.completion.pushed = [completion 7, completion 8])
    (fun t => t.shutdown = .finished ∧ t.completion.heard 0 = [completion 7, completion 8] ∧
      t.completion.heard 1 = [completion 8]) (by decide)
  obtain ⟨running, pushed⟩ := of_decide_eq_true found
  obtain ⟨finished, first, second⟩ := of_decide_eq_true later
  have delivered := (events_delivered s reach).2 running shutsDown t run finished
  exact ⟨s, t, reach, run, first, second, pushed, delivered.2.1⟩

end RadeonPanel.TraceSource

import RadeonPanel.Ubertrace.AutoCapture

set_option autoImplicit false

namespace RadeonPanel.Ubertrace

open Interleaving

-- In any run: who has which auto capture in hand.
structure ClientRun.Placed (c : UbertraceClient) (s : ClientRun) : Prop where
  connection : ∀ id, s.connection = some id → id < s.captures.begun ∧ ∃ config, s.captures.place id = .beginning config
  timer : ∀ id, s.timer = some id → id < s.captures.begun ∧ ∃ config, s.captures.place id = .waiting config
  timed : ∀ id config, s.captures.place id = .waiting config → s.timer = some id
  unbegun : ∀ id, s.captures.begun ≤ id → s.captures.place id = .done
  present : s.timer.isSome = true → (s.orch.userState c.user).isSome = true

section

variable (c : UbertraceClient) (s : ClientRun)

theorem cancel_timer : s.cancelTimer.timer = none := by
  unfold ClientRun.cancelTimer
  cases timer : s.timer with
  | none => exact timer
  | some id => rfl

theorem cancel_orch : s.cancelTimer.orch = s.orch := by
  unfold ClientRun.cancelTimer
  cases s.timer <;> rfl

theorem cancel_connection : s.cancelTimer.connection = s.connection := by
  unfold ClientRun.cancelTimer
  cases s.timer <;> rfl

theorem cancel_aborting : s.cancelTimer.aborting = s.aborting := by
  unfold ClientRun.cancelTimer
  cases s.timer <;> rfl

theorem placed_orch (o : UbertraceOrchestrator) (placed : s.Placed c)
    (present : (s.orch.userState c.user).isSome = true → (o.userState c.user).isSome = true) :
    ClientRun.Placed c { s with orch := o } :=
  ⟨placed.connection, placed.timer, placed.timed, placed.unbegun, fun timer => present (placed.present timer)⟩

-- One auto capture changes hands.
theorem placed_move (t : ClientRun) (id : Nat) (p : AutoCapture) (new : List Delivery) (placed : s.Placed c)
    (begun : id < s.captures.begun) (captures : t.captures = s.captures.move id p new)
    (connection : ∀ other, t.connection = some other → s.connection = some other ∧ other ≠ id)
    (timer : ∀ other, t.timer = some other → s.timer = some other ∧ other ≠ id ∨ other = id ∧ ∃ config, p = .waiting config)
    (timed : ∀ config, p = .waiting config → t.timer = some id)
    (keeps : ∀ other, other ≠ id → s.timer = some other → t.timer = some other)
    (present : t.timer.isSome = true → (t.orch.userState c.user).isSome = true) : t.Placed c := by
  refine ⟨fun other here => ?_, fun other here => ?_, fun other config waits => ?_, fun other later => ?_, present⟩
  · obtain ⟨before, apart⟩ := connection other here
    rw [captures, move_elsewhere _ _ _ _ _ apart]
    exact placed.connection other before
  · rw [captures]
    obtain ⟨before, apart⟩ | ⟨rfl, waits⟩ := timer other here
    · rw [move_elsewhere _ _ _ _ _ apart]
      exact placed.timer other before
    · rw [move_here]
      exact ⟨begun, waits⟩
  · by_cases same : other = id
    · rw [same, captures, move_here] at waits
      rw [same]
      exact timed config waits
    · rw [captures, move_elsewhere _ _ _ _ _ same] at waits
      exact keeps other same (placed.timed other config waits)
  · rw [captures] at later ⊢
    have apart : other ≠ id := by
      rintro rfl
      exact absurd begun (Nat.not_lt.mpr later)
    rw [move_elsewhere _ _ _ _ _ apart]
    exact placed.unbegun other later

theorem timer_not_connection (placed : s.Placed c) (id other : Nat) (connection : s.connection = some id)
    (timer : s.timer = some other) : other ≠ id := by
  rintro rfl
  obtain ⟨_, config, begins⟩ := placed.connection other connection
  obtain ⟨_, config', waits⟩ := placed.timer other timer
  rw [begins] at waits
  cases waits

theorem placed_cancel (placed : s.Placed c) : s.cancelTimer.Placed c := by
  cases timer : s.timer with
  | none =>
      have same : s.cancelTimer = s := by rw [ClientRun.cancelTimer, timer]
      rwa [same]
  | some id =>
      have same : s.cancelTimer =
          { s with captures := s.captures.move id .done [.traceCompleted .aborted ""], timer := none } := by
        rw [ClientRun.cancelTimer, timer]
      rw [same]
      refine placed_move c s _ id .done _ placed (placed.timer id timer).1 rfl (fun other here => ⟨here, ?_⟩)
        nofun nofun (fun other apart before => ?_) nofun
      · exact (timer_not_connection c s placed other id here timer).symm
      · rw [timer] at before
        exact absurd (Option.some.inj before).symm apart

-- The connection's thread has begun its auto capture, or given it up.
theorem placed_begun (id : Nat) (o : UbertraceOrchestrator) (p : AutoCapture) (new : List Delivery)
    (placed : s.Placed c) (connection : s.connection = some id) (settles : ∀ config, p ≠ .waiting config)
    (present : (s.orch.userState c.user).isSome = true → (o.userState c.user).isSome = true) :
    ClientRun.Placed c { s with orch := o, captures := s.captures.move id p new, connection := none } := by
  refine placed_move c s _ id p new placed (placed.connection id connection).1 rfl nofun
    (fun other timer => .inl ⟨timer, ?_⟩)
    (fun config waits => absurd waits (settles config)) (fun _ _ before => before)
    (fun timer => present (placed.present timer))
  exact timer_not_connection c s placed id other connection timer

theorem placed_triggered (id : Nat) (o : UbertraceOrchestrator) (p : AutoCapture) (new : List Delivery)
    (placed : s.Placed c) (timer : s.timer = some id) (settles : ∀ config, p ≠ .waiting config) :
    ClientRun.Placed c { s with orch := o, captures := s.captures.move id p new, timer := none } := by
  refine placed_move c s _ id p new placed (placed.timer id timer).1 rfl (fun other here => ⟨here, ?_⟩) nofun
    (fun config waits => absurd waits (settles config)) (fun other apart before => ?_) nofun
  · exact (timer_not_connection c s placed other id here timer).symm
  · rw [timer] at before
    exact absurd (Option.some.inj before).symm apart

theorem placed_started (id : Nat) (config : UbertraceAutoCaptureConfig) (placed : s.Placed c)
    (connection : s.connection = some id) (present : (s.orch.userState c.user).isSome = true) :
    ClientRun.Placed c { s.startTimer id config with connection := none } := by
  have cancelled := placed_cancel c s placed
  have begun := (cancelled.connection id (by rwa [cancel_connection])).1
  refine placed_move c s.cancelTimer _ id (.waiting config) [] cancelled begun rfl nofun (fun other timer => .inr ?_)
    (fun _ _ => rfl) (fun other apart before => ?_) (fun _ => ?_)
  · exact ⟨(Option.some.inj timer).symm, config, rfl⟩
  · rw [cancel_timer] at before
    cases before
  · show (s.cancelTimer.orch.userState c.user).isSome = true
    rwa [cancel_orch]

end

theorem polling_begun (c : UbertraceClient) (s : ClientRun) (placed : s.Placed c) (id : Nat) (p : Poller)
    (here : s.captures.place id = .polling p) : id < s.captures.begun := by
  by_contra later
  rw [placed.unbegun id (Nat.not_lt.mp later)] at here
  cases here

theorem placed_step (c : UbertraceClient) (s t : ClientRun) (a : ClientAction) (placed : s.Placed c)
    (move : ClientMove c s a t) : t.Placed c := by
  cases move with
  | others o relies | handled state answer auto o relies => exact placed_orch c s o placed relies.2
  | begun state answer config o relies free =>
      refine ⟨fun id here => ?_, fun id timer => ?_, fun id other waits => ?_, fun id later => ?_,
        fun timer => relies.2 (placed.present timer)⟩
      · cases here
        exact ⟨Nat.lt_succ_self _, config, begin_here _ _⟩
      · obtain ⟨before, waits⟩ := placed.timer id timer
        rw [begin_elsewhere _ _ _ (Nat.ne_of_lt before)]
        exact ⟨Nat.lt_succ_of_lt before, waits⟩
      · by_cases last : id = s.captures.begun
        · rw [last, begin_here] at waits
          cases waits
        · rw [begin_elsewhere _ _ _ last] at waits
          exact placed.timed id other waits
      · have bound : s.captures.begun + 1 ≤ id := later
        rw [begin_elsewhere _ _ _ (by omega)]
        exact placed.unbegun id (by omega)
  | immediate id config a t connection here now moves =>
      cases moves with
      | threw absent => exact placed_begun c s id s.orch _ _ placed connection nofun fun present => present
      | refused next _ relies _ => exact placed_begun c s id next _ _ placed connection nofun relies.2
      | started p accepts polls =>
          exact placed_begun c s id _ _ _ placed connection nofun (start_polling_relies s.orch c.user _).2
  | dropped id config a connection here later notReady =>
      exact placed_begun c s id s.orch _ _ placed connection nofun fun present => present
  | delayed id config a connection here later ready =>
      have present : ((s.orch.setState .waitingToBeginCapture c.user).userState c.user).isSome = true := by
        rw [UbertraceOrchestrator.set_state_here]
        rfl
      exact placed_started c _ id config (placed_orch c s _ placed fun _ => present) connection present
  | triggered id config a t timer here moves =>
      cases moves with
      | threw absent => exact placed_triggered c s id s.orch _ _ placed timer nofun
      | refused next _ relies _ => exact placed_triggered c s id next _ _ placed timer nofun
      | started p accepts polls => exact placed_triggered c s id _ _ _ placed timer nofun
  | polled id free answer p e here move =>
      have begun := polling_begun c s placed id p here
      refine placed_move c s _ id _ _ placed begun rfl (fun other connection => ⟨connection, ?_⟩)
        (fun other timer => .inl ⟨timer, ?_⟩) nofun (fun _ _ before => before)
        (fun timer => (poller_relies c.user s.orch free id p e move).2 (placed.present timer))
      · rintro rfl
        obtain ⟨_, config, begins⟩ := placed.connection other connection
        rw [here] at begins
        cases begins
      · rintro rfl
        obtain ⟨_, config, waits⟩ := placed.timer other timer
        rw [here] at waits
        cases waits
  | requested idle =>
      have cancelled := placed_cancel c s placed
      exact ⟨cancelled.connection, cancelled.timer, cancelled.timed, cancelled.unbegun, cancelled.present⟩
  | aborts pc e here step =>
      have relies := request_abort_trace_relies c.user c.user s.orch true pc .go e step
      have after := placed_orch c s e.orch placed relies.2
      exact ⟨after.connection, after.timer, after.timed, after.unbegun, after.present⟩
  | disconnects => exact placed_cancel c s placed

theorem reachable_placed (c : UbertraceClient) (features : UbertraceFeatures) (s : ClientRun)
    (reach : Reachable (ubertraceClient c features) s) : s.Placed c :=
  reachable_invariant (ubertraceClient c features) (ClientRun.Placed c)
    ⟨nofun, nofun, nofun, fun _ _ => rfl, nofun⟩
    (fun s t' t placed next => placed_step c s t t' placed (client_moves c s t t' next)) s reach

end RadeonPanel.Ubertrace

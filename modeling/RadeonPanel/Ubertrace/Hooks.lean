import RadeonPanel.Base.Brackets
import RadeonPanel.Ubertrace.Ownership

set_option autoImplicit false

namespace RadeonPanel.Ubertrace

open Interleaving

-- The calls of the two hooks, oldest first.
def hooks : List Event → List (Bracket Nat)
  | [] => []
  | .tracingStarted capture :: older => hooks older ++ [.opened capture]
  | .tracingEnded capture :: older => hooks older ++ [.closed capture]
  | _ :: older => hooks older

def RequestBeginTracePc.capture : RequestBeginTracePc → Option Nat
  | .request capture | .join capture | .poll capture | .capturing capture | .owner capture | .thread capture =>
      some capture
  | .lock | .configure | .started => none

def CallerPc.capture : CallerPc → Option Nat
  | .requestBeginTrace _ _ pc => pc.capture
  | _ => none

-- Who still has to call the second hook of a capture.
def State.Holds (s : State) (capture : Nat) : Prop :=
  (∃ id, (s.callers id).capture = some capture) ∨
    ∃ thread, (s.pollers thread).pc.alive = true ∧ (s.pollers thread).capture = capture

-- The first hook is called when the previous thread has exited.
def startsAfterExit (s : State) : Action → Bool
  | .caller id _ =>
      match s.callers id with
      | .requestBeginTrace _ _ .started => s.joined
      | _ => true
  | _ => true

theorem hooks_silent (events log : List Event)
    (silent : ∀ capture, .tracingStarted capture ∉ events ∧ .tracingEnded capture ∉ events) :
    hooks (events ++ log) = hooks log ∧ started (events ++ log) = started log := by
  induction events with
  | nil => exact ⟨rfl, rfl⟩
  | cons event rest ih =>
      have later := ih fun capture =>
        ⟨fun member => (silent capture).1 (List.mem_cons_of_mem _ member),
          fun member => (silent capture).2 (List.mem_cons_of_mem _ member)⟩
      cases event with
      | tracingStarted capture => exact absurd List.mem_cons_self (silent capture).1
      | tracingEnded capture => exact absurd List.mem_cons_self (silent capture).2
      | _ => exact later

-- The steps of a call that call a hook or hand a capture on.
inductive HookStep (fresh : Nat) : CallerPc → CallerEffect → Prop where
  | quiet (pc : CallerPc) (e : CallerEffect) (same : e.pc.capture = pc.capture) (spawned : e.spawned = none)
      (silent : ∀ capture, .tracingStarted capture ∉ e.events ∧ .tracingEnded capture ∉ e.events) :
      HookStep fresh pc e
  | started (user : UbertraceUserId) (config : UbertraceCaptureConfig) (e : CallerEffect)
      (next : e.pc = .requestBeginTrace user config (.request fresh)) (spawned : e.spawned = none)
      (events : e.events = [.tracingStarted fresh]) : HookStep fresh (.requestBeginTrace user config .started) e
  | refused (user : UbertraceUserId) (config : UbertraceCaptureConfig) (capture : Nat) (e : CallerEffect)
      (next : e.pc = .outside) (spawned : e.spawned = none)
      (events : e.events = [.returned (.requestBeginTrace user config) .failure, .tracingEnded capture]) :
      HookStep fresh (.requestBeginTrace user config (.request capture)) e
  | thread (user : UbertraceUserId) (config : UbertraceCaptureConfig) (capture : Nat) (e : CallerEffect)
      (next : e.pc = .outside) (spawned : e.spawned = some (.start user capture config))
      (events : e.events = [.returned (.requestBeginTrace user config) .success]) :
      HookStep fresh (.requestBeginTrace user config (.thread capture)) e

theorem hook_step_elsewhere (o : UbertraceOrchestrator) (free joined : Bool) (fresh thread : Nat) (pc : CallerPc)
    (answer : Answer) (e : CallerEffect) (next : callerStep o free joined fresh thread pc answer = some e)
    (elsewhere : pc.operation ≠ some .requestBeginTrace) : HookStep fresh pc e := by
  have footprint := caller_footprint o free joined fresh thread pc answer e next
  have none : ∀ pc : CallerPc, pc.operation ≠ some .requestBeginTrace → pc.capture = none := by
    intro pc apart
    cases pc with
    | requestBeginTrace _ _ _ => exact absurd rfl apart
    | _ => rfl
  have after : e.pc.operation ≠ some .requestBeginTrace := by
    obtain outside | same := caller_keeps_operation o free joined fresh thread pc answer e next
    · rw [outside]
      nofun
    · rwa [same]
  refine .quiet pc e ((none _ after).trans (none _ elsewhere).symm) ?_ fun capture => ⟨fun member => ?_, fun member => ?_⟩
  · cases spawned : e.spawned with
    | none => rfl
    | some p =>
        obtain ⟨user, config, capture, rfl, _⟩ := caller_spawned o free joined fresh thread pc answer e p next spawned
        exact absurd rfl elsewhere
  · exact elsewhere (footprint.events _ member).symm
  · exact elsewhere (footprint.events _ member).symm

theorem request_hooks (o : UbertraceOrchestrator) (free joined : Bool) (fresh thread : Nat)
    (user : UbertraceUserId) (config : UbertraceCaptureConfig) (pc : RequestBeginTracePc) (answer : Answer)
    (e : Effect RequestBeginTracePc)
    (next : requestBeginTraceStep o free joined fresh thread user config pc answer = some e) :
    HookStep fresh (.requestBeginTrace user config pc)
      { e.inCall (.requestBeginTrace user config) with spawned := spawnedBy user config pc } := by
  revert next
  fun_cases requestBeginTraceStep o free joined fresh thread user config pc answer
  all_goals intro next
  all_goals cases next
  case case7 => exact .started user config _ rfl rfl rfl
  case case8 capture _ _ => exact .refused user config capture _ rfl rfl rfl
  case case15 capture => exact .thread user config capture _ rfl rfl rfl
  all_goals exact .quiet _ _ rfl rfl (by simp)

theorem caller_hooks (o : UbertraceOrchestrator) (free joined : Bool) (fresh thread : Nat) (pc : CallerPc)
    (answer : Answer) (e : CallerEffect) (next : callerStep o free joined fresh thread pc answer = some e) :
    HookStep fresh pc e := by
  by_cases elsewhere : pc.operation = some .requestBeginTrace
  · cases pc with
    | requestBeginTrace user config pc =>
        obtain ⟨inner, inside, rfl⟩ := Option.map_eq_some_iff.mp next
        exact request_hooks o free joined fresh thread user config pc answer inner inside
    | _ => cases elsewhere
  · exact hook_step_elsewhere o free joined fresh thread pc answer e next elsewhere

theorem capture_holds_lock (pc : CallerPc) (capture : Nat) (holds : pc.capture = some capture) :
    pc.holdsLock = true := by
  cases pc with
  | requestBeginTrace user config pc =>
      cases pc with
      | lock => cases holds
      | _ => rfl
  | _ => cases holds

theorem poller_hooks (o : UbertraceOrchestrator) (free : Bool) (thread : Nat) (p : Poller)
    (e : PollerEffect) (move : PollerMove o free thread p e) :
    (e.poller.pc = .exited ∧ e.events = [.tracingEnded p.capture]) ∨
    (e.poller.pc.alive = true ∧
      ∀ capture, .tracingStarted capture ∉ e.events ∧ .tracingEnded capture ∉ e.events) := by
  cases move with
  | ended here => exact .inl ⟨rfl, rfl⟩
  | complete user collected here => cases collected <;> exact .inr ⟨rfl, by simp⟩
  | writing here | cancelRetry user here => exact .inr ⟨by rw [here]; rfl, by simp⟩
  | _ => exact .inr ⟨rfl, by simp⟩

theorem alive_unique (s : State) (owned : s.Owned) (a b : Nat) (aAlive : (s.pollers a).pc.alive = true)
    (bAlive : (s.pollers b).pc.alive = true) : a = b := by
  have handle := owned.handle a aAlive
  rw [owned.handle b bAlive] at handle
  exact (Option.some.inj handle).symm

-- A caller inside the mutex is the only one that can hold a capture.
theorem capture_unique (s : State) (locked : s.Locked) (a b : Nat) (capture : Nat)
    (holds : (s.callers a).capture = some capture) (inside : (s.callers b).holdsLock = true) : a = b := by
  have aInside : s.holds (.caller a) := capture_holds_lock _ capture holds
  exact Task.caller.inj (guarded_unique s.mutex s.holds locked (.caller a) (.caller b) aInside inside)

section

variable (s : State) (id : Nat) (e : CallerEffect)

theorem capture_quiet (same : e.pc.capture = (s.callers id).capture) (other : Nat) :
    ((s.applyCaller id e).callers other).capture = (s.callers other).capture := by
  by_cases mine : other = id
  · rw [mine, ← same]
    simp only [State.applyCaller, Function.update_self]
  · simp only [State.applyCaller, Function.update_of_ne mine]

theorem holds_quiet (same : e.pc.capture = (s.callers id).capture) (spawned : e.spawned = none) (capture : Nat) :
    (s.applyCaller id e).Holds capture ↔ s.Holds capture := by
  simp only [State.Holds, capture_quiet s id e same, apply_caller_pollers s id e spawned]

-- After a step of the caller that has the mutex, no other caller holds a capture.
theorem capture_after (locked : s.Locked) (inside : (s.callers id).holdsLock = true) (other capture : Nat)
    (held : ((s.applyCaller id e).callers other).capture = some capture) : e.pc.capture = some capture := by
  by_cases mine : other = id
  · rw [mine] at held
    simpa only [State.applyCaller, Function.update_self] using held
  · simp only [State.applyCaller, Function.update_of_ne mine] at held
    exact absurd (capture_unique s locked other id capture held inside) mine

theorem holds_after (locked : s.Locked) (inside : (s.callers id).holdsLock = true) (capture : Nat)
    (holds : (s.applyCaller id e).Holds capture) : e.pc.capture = some capture ∨
      ∃ thread, ((s.applyCaller id e).pollers thread).pc.alive = true ∧
        ((s.applyCaller id e).pollers thread).capture = capture := by
  obtain ⟨other, held⟩ | works := holds
  · exact .inl (capture_after s id e locked inside other capture held)
  · exact .inr works

-- Once that caller has left its call, only a polling thread holds one.
theorem capture_outside (locked : s.Locked) (inside : (s.callers id).holdsLock = true) (next : e.pc = .outside)
    (other capture : Nat) : ((s.applyCaller id e).callers other).capture ≠ some capture := by
  intro held
  have mine := capture_after s id e locked inside other capture held
  rw [next] at mine
  cases mine

theorem holds_outside (locked : s.Locked) (inside : (s.callers id).holdsLock = true) (next : e.pc = .outside) (capture : Nat)
    (holds : (s.applyCaller id e).Holds capture) : ∃ thread, ((s.applyCaller id e).pollers thread).pc.alive = true ∧
      ((s.applyCaller id e).pollers thread).capture = capture := by
  obtain ⟨other, held⟩ | works := holds
  · exact absurd held (capture_outside s id e locked inside next other capture)
  · exact works

-- The thread that a request starts is the only one that works.
theorem spawned_alone (exited : ∀ thread, (s.pollers thread).pc.alive = false) (p : Poller)
    (spawned : e.spawned = some p) (thread : Nat)
    (alive : ((s.applyCaller id e).pollers thread).pc.alive = true) : (s.applyCaller id e).pollers thread = p := by
  by_cases new : thread = s.threads
  · rw [new]
    simp only [State.applyCaller, spawned, Option.elim_some, Function.update_self]
  · simp only [State.applyCaller, spawned, Option.elim_some, Function.update_of_ne new, exited thread] at alive
    cases alive

end

structure State.HooksAlternate (s : State) : Prop where
  closed : (∀ capture, ¬ s.Holds capture) → Closed (hooks s.log)
  isOpen : ∀ capture, s.Holds capture → OpenFor capture (hooks s.log)
  alone : ∀ id capture, (s.callers id).capture = some capture → ∀ thread, (s.pollers thread).pc.alive = false

theorem hooks_alternate (s : State) (alternate : s.HooksAlternate) : Alternates (hooks s.log) := by
  by_cases held : ∃ capture, s.Holds capture
  · obtain ⟨capture, holds⟩ := held
    exact .inr ⟨capture, alternate.isOpen capture holds⟩
  · exact .inl (alternate.closed fun capture holds => held ⟨capture, holds⟩)

theorem alternate_caller (s : State) (id : Nat) (answer : Answer) (e : CallerEffect) (locked : s.Locked)
    (owned : s.Owned) (alternate : s.HooksAlternate) (allowed : startsAfterExit s (.caller id answer) = true)
    (effect : s.callerEffect id answer = some e) : (s.applyCaller id e).HooksAlternate := by
  have step := caller_hooks _ _ _ _ _ _ _ _ effect
  generalize here : s.callers id = pc at step
  cases step with
  | quiet _ _ same spawned silent =>
      have same : e.pc.capture = (s.callers id).capture := by rw [here]; exact same
      have holds := holds_quiet s id e same spawned
      have sameHooks : hooks (s.applyCaller id e).log = hooks s.log := (hooks_silent e.events s.log silent).1
      refine ⟨fun none => ?_, fun capture held => ?_, fun other capture held thread => ?_⟩
      · rw [sameHooks]
        exact alternate.closed fun capture held => none capture ((holds capture).mpr held)
      · rw [sameHooks]
        exact alternate.isOpen capture ((holds capture).mp held)
      · rw [apply_caller_pollers s id e spawned]
        rw [capture_quiet s id e same] at held
        exact alternate.alone other capture held thread
  | started user config _ next spawned events =>
      have inside : (s.callers id).holdsLock = true := by rw [here]; rfl
      have exited := joined_all_exited s owned (by simpa [startsAfterExit, here] using allowed)
      have noneBefore : ∀ capture, ¬ s.Holds capture := by
        rintro capture (⟨other, held⟩ | ⟨thread, alive, _⟩)
        · have mine := capture_unique s locked other id capture held inside
          rw [mine, here] at held
          cases held
        · rw [exited thread] at alive
          cases alive
      have opens : OpenFor (started s.log) (hooks (s.applyCaller id e).log) := by
        simp only [State.applyCaller, events, List.cons_append, List.nil_append, hooks]
        exact closed_open _ _ (alternate.closed noneBefore)
      have pollers := apply_caller_pollers s id e spawned
      refine ⟨fun none => ?_, fun capture held => ?_, fun _ _ _ thread => by rw [pollers]; exact exited thread⟩
      · refine absurd (.inl ⟨id, ?_⟩) (none (started s.log))
        simp only [State.applyCaller, Function.update_self, next]
        rfl
      · obtain mine | ⟨thread, alive, _⟩ := holds_after s id e locked inside capture held
        · rw [next] at mine
          cases mine
          exact opens
        · rw [pollers, exited thread] at alive
          cases alive
  | refused user config capture _ next spawned events =>
      have inside : (s.callers id).holdsLock = true := by rw [here]; rfl
      have held : (s.callers id).capture = some capture := by rw [here]; rfl
      have exited := alternate.alone id capture held
      have closes : Closed (hooks (s.applyCaller id e).log) := by
        simp only [State.applyCaller, events, List.cons_append, List.nil_append, hooks]
        exact open_close capture _ (alternate.isOpen capture (.inl ⟨id, held⟩))
      have noneAfter : ∀ other, ¬ (s.applyCaller id e).Holds other := by
        intro other holds
        obtain ⟨thread, alive, _⟩ := holds_outside s id e locked inside next other holds
        rw [apply_caller_pollers s id e spawned, exited thread] at alive
        cases alive
      refine ⟨fun _ => closes, fun other holds => absurd holds (noneAfter other), fun other k holds => ?_⟩
      exact absurd (.inl ⟨other, holds⟩) (noneAfter k)
  | thread user config capture _ next spawned events =>
      have inside : (s.callers id).holdsLock = true := by rw [here]; rfl
      have held : (s.callers id).capture = some capture := by rw [here]; rfl
      have exited := alternate.alone id capture held
      have opens : OpenFor capture (hooks (s.applyCaller id e).log) := by
        simp only [State.applyCaller, events, List.cons_append, List.nil_append, hooks]
        exact alternate.isOpen capture (.inl ⟨id, held⟩)
      have fresh : (s.applyCaller id e).pollers s.threads = .start user capture config := by
        simp only [State.applyCaller, spawned, Option.elim_some, Function.update_self]
      refine ⟨fun none => ?_, fun other holds => ?_, fun other k holds => ?_⟩
      · exact absurd (.inr ⟨s.threads, by rw [fresh]; rfl, by rw [fresh]; rfl⟩) (none capture)
      · obtain ⟨thread, alive, same⟩ := holds_outside s id e locked inside next other holds
        rw [spawned_alone s id e exited _ spawned thread alive] at same
        rw [← same]
        exact opens
      · exact absurd holds (capture_outside s id e locked inside next other k)

theorem holds_poller (s : State) (id : Nat) (e : PollerEffect) (move : PollerMove s.orch s.free id (s.pollers id) e)
    (goesOn : e.poller.pc.alive = true) (capture : Nat) : (s.applyPoller id e).Holds capture ↔ s.Holds capture := by
  have before := (poller_cases _ _ _ _ _ move).alive
  have same := (poller_keeps _ _ _ _ _ move).2.1
  have pollers : ∀ thread, ((s.applyPoller id e).pollers thread).pc.alive = (s.pollers thread).pc.alive ∧
      ((s.applyPoller id e).pollers thread).capture = (s.pollers thread).capture := by
    intro thread
    by_cases mine : thread = id
    · subst mine
      simp only [State.applyPoller, Function.update_self]
      exact ⟨goesOn.trans before.symm, same⟩
    · simp only [State.applyPoller, Function.update_of_ne mine]
      exact ⟨trivial, trivial⟩
  simp only [State.Holds, pollers]
  rfl

theorem alternate_poller (s : State) (id : Nat) (e : PollerEffect) (owned : s.Owned)
    (alternate : s.HooksAlternate) (move : PollerMove s.orch s.free id (s.pollers id) e) :
    (s.applyPoller id e).HooksAlternate := by
  have alive := (poller_cases _ _ _ _ _ move).alive
  have noCaller : ∀ caller capture, (s.callers caller).capture ≠ some capture := by
    intro caller capture held
    rw [alternate.alone caller capture held id] at alive
    cases alive
  obtain ⟨exits, events⟩ | ⟨goesOn, silent⟩ := poller_hooks _ _ _ _ _ move
  · have closes : Closed (hooks (s.applyPoller id e).log) := by
      simp only [State.applyPoller, events, List.cons_append, List.nil_append, hooks]
      exact open_close _ _ (alternate.isOpen _ (.inr ⟨id, alive, rfl⟩))
    refine ⟨fun _ => closes, fun capture holds => ?_, fun caller capture held => absurd held (noCaller caller capture)⟩
    obtain ⟨caller, held⟩ | ⟨thread, still, _⟩ := holds
    · exact absurd held (noCaller caller capture)
    · by_cases mine : thread = id
      · rw [mine] at still
        simp only [State.applyPoller, Function.update_self, exits] at still
        cases still
      · simp only [State.applyPoller, Function.update_of_ne mine] at still
        exact absurd (alive_unique s owned thread id still alive) mine
  · have holds := holds_poller s id e move goesOn
    have sameHooks : hooks (s.applyPoller id e).log = hooks s.log := (hooks_silent e.events s.log silent).1
    refine ⟨fun none => ?_, fun capture held => ?_, fun caller capture held => absurd held (noCaller caller capture)⟩
    · rw [sameHooks]
      exact alternate.closed fun capture held => none capture ((holds capture).mpr held)
    · rw [sameHooks]
      exact alternate.isOpen capture ((holds capture).mp held)

-- A new call neither calls a hook nor holds a capture.
theorem holds_call (s : State) (id : Nat) (call : Call) (outside : s.callers id = .outside) (other : Nat) :
    (Function.update s.callers id (.enter call) other).capture = (s.callers other).capture := by
  by_cases mine : other = id
  · rw [mine, Function.update_self, outside]
    cases call <;> rfl
  · rw [Function.update_of_ne mine]

theorem starts_after_exit_sound (features : UbertraceFeatures) (s : State)
    (reach : Reach (ubertrace features) (fun s a => startsAfterExit s a = true) s) : Alternates (hooks s.log) := by
  refine hooks_alternate s (reach_invariant (ubertrace features) _ State.HooksAlternate ?_ ?_ s reach)
  · refine ⟨fun _ => closed_nil, ?_, nofun⟩
    rintro capture (⟨id, held⟩ | ⟨thread, alive, _⟩)
    · cases held
    · cases alive
  · intro s a t before alternate allowed next
    have reachable := reach_reachable _ _ s before
    have locked := reachable_locked features s reachable
    have owned := reachable_owned features s reachable
    rcases step_cases s t a next with ⟨_, rfl⟩ | ⟨id, call, _, outside, rfl⟩ |
      ⟨id, answer, e, rfl, effect, rfl⟩ | ⟨id, answer, e, _, effect, rfl⟩
    · exact ⟨alternate.closed, alternate.isOpen, alternate.alone⟩
    · have same := holds_call s id call outside
      refine ⟨fun none => alternate.closed ?_, fun capture holds => alternate.isOpen capture ?_, ?_⟩
      · simpa only [State.Holds, same] using none
      · simpa only [State.Holds, same] using holds
      · intro other capture held
        exact alternate.alone other capture (by rwa [← same other])
    · exact alternate_caller s id answer e locked owned alternate allowed effect
    · exact alternate_poller s id e owned alternate (poller_moves _ _ _ _ _ _ effect)

-- In any run, allowed or not: whoever holds a capture has begun it and not ended it.
structure State.HoldersOpen (s : State) : Prop where
  bounded : ∀ capture, (.opened capture ∈ hooks s.log ∨ .closed capture ∈ hooks s.log) → capture < started s.log
  held : ∀ capture, s.Holds capture → .opened capture ∈ hooks s.log ∧ .closed capture ∉ hooks s.log
  apart : ∀ id thread capture, (s.callers id).capture = some capture → (s.pollers thread).pc.alive = true →
    (s.pollers thread).capture ≠ capture
  present : ∀ thread, s.orch.tracePollingThread = some thread → (s.pollers thread).pc ≠ .absent

theorem present_caller (s : State) (id : Nat) (answer : Answer) (e : CallerEffect)
    (effect : s.callerEffect id answer = some e)
    (present : ∀ thread, s.orch.tracePollingThread = some thread → (s.pollers thread).pc ≠ .absent) (thread : Nat)
    (handle : (s.applyCaller id e).orch.tracePollingThread = some thread) :
    ((s.applyCaller id e).pollers thread).pc ≠ .absent := by
  obtain ⟨_, quiet⟩ | ⟨_, _, _, _, _, starts⟩ := caller_cases _ _ _ _ _ _ _ _ effect
  · rw [apply_caller_pollers s id e quiet.spawned]
    obtain same | ⟨_, none⟩ := quiet.thread
    · exact present thread (same.symm.trans handle)
    · rw [show (s.applyCaller id e).orch = e.orch from rfl, none] at handle
      cases handle
  · cases starts with
    | join => cases handle
    | thread =>
        cases handle
        simp only [State.applyCaller, Option.elim_some, Function.update_self, Poller.start, ne_eq, reduceCtorEq,
          not_false_eq_true]
    | _ => exact present thread handle

-- A capture that is opened is a new one.
theorem bounded_opening (log : List Event)
    (bounded : ∀ other, (.opened other ∈ hooks log ∨ .closed other ∈ hooks log) → other < started log) (other : Nat)
    (mentioned : .opened other ∈ hooks (.tracingStarted (started log) :: log) ∨
      .closed other ∈ hooks (.tracingStarted (started log) :: log)) :
    other < started (.tracingStarted (started log) :: log) := by
  simp only [hooks, List.mem_append, List.mem_singleton, Bracket.opened.injEq, reduceCtorEq, or_false] at mentioned
  obtain (old | rfl) | old := mentioned
  · exact Nat.lt_succ_of_lt (bounded other (.inl old))
  · exact Nat.lt_succ_self _
  · exact Nat.lt_succ_of_lt (bounded other (.inr old))

theorem open_opening (log : List Event) (capture other : Nat)
    (isOpen : (.opened other ∈ hooks log ∨ other = capture) ∧ .closed other ∉ hooks log) :
    .opened other ∈ hooks (.tracingStarted capture :: log) ∧ .closed other ∉ hooks (.tracingStarted capture :: log) := by
  simpa only [hooks, List.mem_append, List.mem_singleton, Bracket.opened.injEq, reduceCtorEq, or_false] using isOpen

-- Closing a capture that was opened mentions no new one, and leaves the others open.
theorem bounded_closing (log : List Event) (capture : Nat) (opens : .opened capture ∈ hooks log)
    (bounded : ∀ other, (.opened other ∈ hooks log ∨ .closed other ∈ hooks log) → other < started log) (other : Nat)
    (mentioned : .opened other ∈ hooks (.tracingEnded capture :: log) ∨
      .closed other ∈ hooks (.tracingEnded capture :: log)) : other < started log := by
  simp only [hooks, List.mem_append, List.mem_singleton, Bracket.closed.injEq, reduceCtorEq, or_false] at mentioned
  obtain old | old | rfl := mentioned
  · exact bounded other (.inl old)
  · exact bounded other (.inr old)
  · exact bounded other (.inl opens)

theorem open_closing (log : List Event) (capture other : Nat) (different : other ≠ capture)
    (isOpen : .opened other ∈ hooks log ∧ .closed other ∉ hooks log) :
    .opened other ∈ hooks (.tracingEnded capture :: log) ∧ .closed other ∉ hooks (.tracingEnded capture :: log) := by
  simp only [hooks, List.mem_append, List.mem_singleton, Bracket.closed.injEq, reduceCtorEq, or_false]
  exact ⟨isOpen.1, not_or.mpr ⟨isOpen.2, different⟩⟩

theorem holders_caller (s : State) (id : Nat) (answer : Answer) (e : CallerEffect) (locked : s.Locked)
    (owned : s.Owned) (holders : s.HoldersOpen) (effect : s.callerEffect id answer = some e) :
    (s.applyCaller id e).HoldersOpen := by
  have step := caller_hooks _ _ _ _ _ _ _ _ effect
  have present := present_caller s id answer e effect holders.present
  generalize here : s.callers id = pc at step
  cases step with
  | quiet _ _ same spawned silent =>
      have same : e.pc.capture = (s.callers id).capture := by rw [here]; exact same
      obtain ⟨sameHooks, sameStarted⟩ := hooks_silent e.events s.log silent
      have holds := holds_quiet s id e same spawned
      refine ⟨?_, fun capture held => ?_, fun other thread capture held alive => ?_, present⟩
      · simp only [State.applyCaller, sameHooks, sameStarted]
        exact holders.bounded
      · simp only [State.applyCaller, sameHooks]
        exact holders.held capture ((holds capture).mp held)
      · rw [apply_caller_pollers s id e spawned] at alive ⊢
        rw [capture_quiet s id e same] at held
        exact holders.apart other thread capture held alive
  | started user config _ next spawned events =>
      have inside : (s.callers id).holdsLock = true := by rw [here]; rfl
      have pollers := apply_caller_pollers s id e spawned
      have log : (s.applyCaller id e).log = .tracingStarted (started s.log) :: s.log := by
        simp only [State.applyCaller, events, List.cons_append, List.nil_append]
      have unused : .closed (started s.log) ∉ hooks s.log := fun member =>
        absurd (holders.bounded _ (.inr member)) (lt_irrefl _)
      have older : ∀ capture, s.Holds capture → capture ≠ started s.log := by
        rintro capture holds rfl
        exact absurd (holders.bounded _ (.inl (holders.held _ holds).1)) (lt_irrefl _)
      refine ⟨fun capture mentioned => ?_, fun capture holds => ?_, fun other thread capture held alive => ?_, present⟩
      · rw [log] at mentioned ⊢
        exact bounded_opening s.log holders.bounded capture mentioned
      · rw [log]
        obtain mine | ⟨thread, alive, same⟩ := holds_after s id e locked inside capture holds
        · rw [next] at mine
          cases mine
          exact open_opening s.log _ _ ⟨.inr rfl, unused⟩
        · rw [pollers] at alive same
          obtain ⟨opens, notClosed⟩ := holders.held capture (.inr ⟨thread, alive, same⟩)
          exact open_opening s.log _ _ ⟨.inl opens, notClosed⟩
      · have mine := capture_after s id e locked inside other capture held
        rw [pollers] at alive ⊢
        rw [next] at mine
        cases mine
        exact older _ (.inr ⟨thread, alive, rfl⟩)
  | refused user config capture _ next spawned events =>
      have inside : (s.callers id).holdsLock = true := by rw [here]; rfl
      have mine : (s.callers id).capture = some capture := by rw [here]; rfl
      have pollers := apply_caller_pollers s id e spawned
      have log : (s.applyCaller id e).log = .returned (.requestBeginTrace user config) .failure ::
          .tracingEnded capture :: s.log := by
        simp only [State.applyCaller, events, List.cons_append, List.nil_append]
      refine ⟨fun other mentioned => ?_, fun other holds => ?_, fun other thread k held _ => ?_, present⟩
      · rw [log] at mentioned ⊢
        exact bounded_closing s.log capture (holders.held capture (.inl ⟨id, mine⟩)).1 holders.bounded other mentioned
      · rw [log]
        obtain ⟨thread, alive, same⟩ := holds_outside s id e locked inside next other holds
        rw [pollers] at alive same
        have different : other ≠ capture := same ▸ holders.apart id thread capture mine alive
        exact open_closing s.log capture other different (holders.held other (.inr ⟨thread, alive, same⟩))
      · exact absurd held (capture_outside s id e locked inside next other k)
  | thread user config capture _ next spawned events =>
      have inside : (s.callers id).holdsLock = true := by rw [here]; rfl
      have mine : (s.callers id).capture = some capture := by rw [here]; rfl
      have exited := starting_all_exited s owned id user (by rw [here]; rfl)
      have log : (s.applyCaller id e).log = .returned (.requestBeginTrace user config) .success :: s.log := by
        simp only [State.applyCaller, events, List.cons_append, List.nil_append]
      refine ⟨?_, fun other holds => ?_, fun other thread k held _ => ?_, present⟩
      · rw [log]
        exact holders.bounded
      · rw [log]
        obtain ⟨thread, alive, same⟩ := holds_outside s id e locked inside next other holds
        rw [spawned_alone s id e exited _ spawned thread alive] at same
        rw [← same]
        exact holders.held capture (.inl ⟨id, mine⟩)
      · exact absurd held (capture_outside s id e locked inside next other k)

theorem holders_poller (s : State) (id : Nat) (e : PollerEffect) (owned : s.Owned) (holders : s.HoldersOpen)
    (move : PollerMove s.orch s.free id (s.pollers id) e) : (s.applyPoller id e).HoldersOpen := by
  have alive := (poller_cases _ _ _ _ _ move).alive
  have kept := poller_keeps _ _ _ _ _ move
  have present : ∀ thread, (s.applyPoller id e).orch.tracePollingThread = some thread →
      ((s.applyPoller id e).pollers thread).pc ≠ .absent := by
    intro thread handle
    have before := (poller_cases _ _ _ _ _ move).thread.symm.trans handle
    by_cases mine : thread = id
    · rw [mine]
      simpa only [State.applyPoller, Function.update_self] using kept.2.2.2
    · simpa only [State.applyPoller, Function.update_of_ne mine] using holders.present thread before
  have workers : ∀ thread, ((s.applyPoller id e).pollers thread).pc.alive = true → thread = id := by
    intro thread still
    by_contra different
    simp only [State.applyPoller, Function.update_of_ne different] at still
    exact different (alive_unique s owned thread id still alive)
  obtain ⟨exits, events⟩ | ⟨goesOn, silent⟩ := poller_hooks _ _ _ _ _ move
  · have log : (s.applyPoller id e).log = .tracingEnded (s.pollers id).capture :: s.log := by
      simp only [State.applyPoller, events, List.cons_append, List.nil_append]
    have dead : ∀ thread, ((s.applyPoller id e).pollers thread).pc.alive = false := by
      intro thread
      by_contra still
      rw [Bool.not_eq_false] at still
      have mine := workers thread still
      rw [mine] at still
      simp only [State.applyPoller, Function.update_self, exits] at still
      cases still
    have opens := (holders.held _ (.inr ⟨id, alive, rfl⟩)).1
    refine ⟨fun other mentioned => ?_, fun other holds => ?_, fun _ thread _ _ still => ?_, present⟩
    · rw [log] at mentioned ⊢
      exact bounded_closing s.log (s.pollers id).capture opens holders.bounded other mentioned
    · rw [log]
      obtain ⟨caller, held⟩ | ⟨thread, still, _⟩ := holds
      · have different := (holders.apart caller id other held alive).symm
        exact open_closing s.log _ other different (holders.held other (.inl ⟨caller, held⟩))
      · rw [dead thread] at still
        cases still
    · rw [dead thread] at still
      cases still
  · obtain ⟨sameHooks, sameStarted⟩ := hooks_silent e.events s.log silent
    have holds := holds_poller s id e move goesOn
    refine ⟨?_, fun capture held => ?_, fun caller thread capture held still => ?_, present⟩
    · simp only [State.applyPoller, sameHooks, sameStarted]
      exact holders.bounded
    · simp only [State.applyPoller, sameHooks]
      exact holders.held capture ((holds capture).mp held)
    · have mine := workers thread still
      rw [mine]
      simp only [State.applyPoller, Function.update_self, kept.2.1]
      exact holders.apart caller id capture held alive

theorem reachable_holders_open (features : UbertraceFeatures) (s : State)
    (reach : Reachable (ubertrace features) s) : s.HoldersOpen := by
  refine reach_invariant (ubertrace features) unrestricted State.HoldersOpen ?_ ?_ s reach
  · refine ⟨?_, ?_, nofun, nofun⟩
    · rintro capture (member | member) <;> cases member
    · rintro capture (⟨id, held⟩ | ⟨thread, alive, _⟩)
      · cases held
      · cases alive
  · intro s a t before holders _ next
    have locked := reachable_locked features s before
    have owned := reachable_owned features s before
    rcases step_cases s t a next with ⟨_, rfl⟩ | ⟨id, call, _, outside, rfl⟩ |
      ⟨id, answer, e, _, effect, rfl⟩ | ⟨id, answer, e, _, effect, rfl⟩
    · exact ⟨holders.bounded, holders.held, holders.apart, holders.present⟩
    · have same := holds_call s id call outside
      refine ⟨holders.bounded, fun capture holds => holders.held capture ?_, ?_, holders.present⟩
      · simpa only [State.Holds, same] using holds
      · intro other thread capture held alive
        exact holders.apart other thread capture (by rwa [← same other]) alive
    · exact holders_caller s id answer e locked owned holders effect
    · exact holders_poller s id e owned holders (poller_moves _ _ _ _ _ _ effect)

-- A hook called earlier than that opens a session inside the previous one.
theorem starts_after_exit_exact (features : UbertraceFeatures) (s : State) (a : Action) (t : State)
    (reach : Reachable (ubertrace features) s) (next : step s a = some t) (alternates : Alternates (hooks t.log)) :
    startsAfterExit s a = true := by
  by_contra early
  rw [Bool.not_eq_true] at early
  have holders := reachable_holders_open features s reach
  unfold startsAfterExit at early
  split at early
  · rename_i id answer
    split at early
    · rename_i user config here
      have log : t.log = .tracingStarted (started s.log) :: s.log := by
        obtain ⟨e, effect, rfl⟩ := Option.map_eq_some_iff.mp next
        rw [State.callerEffect, here] at effect
        cases answer <;> cases effect
        rfl
      obtain ⟨thread, handle, runs⟩ : ∃ thread, s.orch.tracePollingThread = some thread ∧
          (s.pollers thread).pc ≠ .exited := by
        unfold State.joined at early
        split at early
        · cases early
        · rename_i thread handle
          exact ⟨thread, handle, by simpa using early⟩
      have alive : (s.pollers thread).pc.alive = true := by
        have present := holders.present thread handle
        cases pc : (s.pollers thread).pc with
        | absent => exact absurd pc present
        | exited => exact absurd pc runs
        | _ => rfl
      obtain ⟨opens, notClosed⟩ := holders.held _ (.inr ⟨thread, alive, rfl⟩)
      rw [log] at alternates
      have closed : Closed (hooks s.log) := alternates_opened (started s.log) _ alternates
      exact notClosed (closed_closes _ _ closed opens)
    · cases early
  · cases early

theorem hooks_alternate_iff (features : UbertraceFeatures) (actions : List Action) :
    Meets (ubertrace features) (fun s a => startsAfterExit s a = true) (ubertrace features).init actions ↔
      Always (ubertrace features) (fun s => Alternates (hooks s.log)) (ubertrace features).init actions :=
  ⟨meets_always (ubertrace features) _ _ (starts_after_exit_sound features) _ .init actions,
    always_meets (ubertrace features) _ _
      (fun s a t reach _ next alternates => starts_after_exit_exact features s a t reach next alternates) actions⟩

-- The first capture is complete, its thread has given the mutex back and has not
-- yet called the second hook when the next request calls the first one.
theorem hooks_overlap : ∃ s, Reachable (ubertrace .default) s ∧ hooks s.log = [.opened 0, .opened 1, .closed 0] ∧
    ¬ Alternates (hooks s.log) := by
  obtain ⟨s, reach, found⟩ := exec_finds (ubertrace .default)
    (connects 0 1 ++ begins 0 1 manualCapture ++ (collects 0 .success).take 5 ++ (begins 0 1 manualCapture).take 4 ++
      [.poller 0 .go]) (fun s => hooks s.log = [.opened 0, .opened 1, .closed 0]) (by decide)
  have overlap : hooks s.log = [.opened 0, .opened 1, .closed 0] := by simpa using found
  refine ⟨s, reach, overlap, ?_⟩
  rw [overlap]
  rintro (⟨done, same⟩ | ⟨i, done, same⟩)
  · cases done with
    | nil => cases same
    | cons first rest => simp [sessions, session] at same
  · cases done with
    | nil => cases same
    | cons first rest => simp [sessions, session] at same

end RadeonPanel.Ubertrace

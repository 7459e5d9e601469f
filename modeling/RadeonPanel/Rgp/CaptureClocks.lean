import RadeonPanel.DeviceClocks.ForcePeak
import RadeonPanel.Ubertrace.Footprint
import RadeonPanel.Ubertrace.Hooks

set_option autoImplicit false

namespace RadeonPanel.Rgp.CaptureClocks

open Interleaving Ubertrace
open DeviceClocks (GpuId DriverAnswer Modes)

-- Which hook is called among the events of a step: the first or the second.
def calledHook (events : List Event) : Option Bool :=
  events.findSome? fun event =>
    match event with
    | .tracingStarted _ => some true
    | .tracingEnded _ => some false
    | _ => none

-- The hooks belong to the client whose user asked for the capture.
def hookOf (s : Ubertrace.State) : Ubertrace.Action → Option (UbertraceUserId × Bool)
  | .caller id answer =>
      match s.callers id, s.callerEffect id answer with
      | .requestBeginTrace user _ _, some e => (calledHook e.events).map (user, ·)
      | _, _ => none
  | .poller id answer =>
      match s.pollerEffect id answer with
      | some e => (calledHook e.events).map ((s.pollers id).owner, ·)
      | none => none
  | _ => none

-- The orchestrators of all connections and the clocks that they share.
structure State where
  traces : DdConnectionId → Ubertrace.State
  clocks : DeviceClocks.State

inductive Action where
  | trace (connection : DdConnectionId) (action : Ubertrace.Action) (answers : GpuId → DriverAnswer)
  | clocks (action : DeviceClocks.Action)

section

variable (isRgp : DdConnectionId → UbertraceUserId → Bool)

-- `TracingStarted` and `TracingEnded` of the RGP client; those of the other clients are empty.
def State.forcePeak (s : State) (connection : DdConnectionId) (action : Ubertrace.Action)
    (answers : GpuId → DriverAnswer) : DeviceClocks.State :=
  match hookOf (s.traces connection) action with
  | some (user, forcePeak) =>
      if isRgp connection user then s.clocks.setForcePeak connection forcePeak answers else s.clocks
  | none => s.clocks

-- Nobody else calls `SetForcePeak`.
def State.next (hash : String → UInt32) (s : State) : Action → Option State
  | .trace connection action answers =>
      (Ubertrace.step (s.traces connection) action).map fun t =>
        ⟨Function.update s.traces connection t, s.forcePeak isRgp connection action answers⟩
  | .clocks (.setForcePeak _ _ _) => none
  | .clocks action => (s.clocks.next hash action).map fun clocks => { s with clocks := clocks }

def captureClocks (features : DdConnectionId → UbertraceFeatures) (hash : String → UInt32) (modes : Modes) :
    Machine State Action :=
  ⟨⟨fun connection => .initial (features connection), .initial modes⟩, State.next isRgp hash⟩

end

def State.forced (s : State) : List DdConnectionId := s.clocks.manager.forcePeakUmdConnectionIds

section

variable (mine : UbertraceUserId → Bool)

def Captures : CallerPc → Prop
  | .requestBeginTrace user _ pc => mine user = true ∧ pc.capture ≠ none
  | _ => False

-- One of these users has a capture between its two hooks.
def UnderWay (s : Ubertrace.State) : Prop :=
  (∃ id, Captures mine (s.callers id)) ∨
    ∃ thread, (s.pollers thread).pc.alive = true ∧ mine (s.pollers thread).owner = true

-- What a step does to the captures of these users.
inductive Moves (s t : Ubertrace.State) : Option (UbertraceUserId × Bool) → Prop where
  | quiet (hook : Option (UbertraceUserId × Bool)) (none : ∀ called, hook = some called → mine called.1 = false)
      (same : UnderWay mine t ↔ UnderWay mine s) : Moves s t hook
  | opened (user : UbertraceUserId) (isMine : mine user = true) (begun : UnderWay mine t) : Moves s t (some (user, true))
  | closed (user : UbertraceUserId) (isMine : mine user = true) : Moves s t (some (user, false))

end

theorem called_silent (events : List Event)
    (silent : ∀ capture, .tracingStarted capture ∉ events ∧ .tracingEnded capture ∉ events) :
    calledHook events = none := by
  rw [calledHook, List.findSome?_eq_none_iff]
  intro event member
  cases event with
  | tracingStarted capture => exact absurd member (silent capture).1
  | tracingEnded capture => exact absurd member (silent capture).2
  | _ => rfl

-- A caller stays with the user and the configuration that it was called with.
theorem caller_user (o : UbertraceOrchestrator) (free joined : Bool) (fresh thread : Nat) (pc : CallerPc)
    (answer : Answer) (e : CallerEffect) (next : callerStep o free joined fresh thread pc answer = some e)
    (user : UbertraceUserId) (config : UbertraceCaptureConfig) (after : RequestBeginTracePc)
    (here : e.pc = .requestBeginTrace user config after) : ∃ before, pc = .requestBeginTrace user config before := by
  obtain outside | same := caller_keeps_operation o free joined fresh thread pc answer e next
  · rw [outside] at here
    cases here
  · rw [here] at same
    cases pc with
    | requestBeginTrace first second before =>
        obtain ⟨inner, _, rfl⟩ := Option.map_eq_some_iff.mp next
        cases place : inner.next with
        | none =>
            rw [show ({ inner.inCall (.requestBeginTrace first second) with
              spawned := spawnedBy first second before } : CallerEffect).pc = .outside by simp [Effect.inCall, place]] at here
            cases here
        | some p =>
            rw [show ({ inner.inCall (.requestBeginTrace first second) with
              spawned := spawnedBy first second before } : CallerEffect).pc = .requestBeginTrace first second p by
                simp [Effect.inCall, place]] at here
            cases here
            exact ⟨before, rfl⟩
    | _ => cases same

section

variable (mine : UbertraceUserId → Bool) (s : Ubertrace.State) (id : Nat)

-- The capture is the one of a given caller, of another one or of a thread.
theorem under_way_split : UnderWay mine s ↔ Captures mine (s.callers id) ∨ (∃ other, other ≠ id ∧ Captures mine (s.callers other)) ∨
    ∃ thread, (s.pollers thread).pc.alive = true ∧ mine (s.pollers thread).owner = true := by
  constructor
  · rintro (⟨other, captures⟩ | works)
    · by_cases same : other = id
      · rw [same] at captures
        exact .inl captures
      · exact .inr (.inl ⟨other, same, captures⟩)
    · exact .inr (.inr works)
  · rintro (captures | ⟨other, _, captures⟩ | works)
    · exact .inl ⟨id, captures⟩
    · exact .inl ⟨other, captures⟩
    · exact .inr works

theorem under_way_caller (e : CallerEffect) (spawned : e.spawned = none) :
    UnderWay mine (s.applyCaller id e) ↔ Captures mine e.pc ∨ (∃ other, other ≠ id ∧ Captures mine (s.callers other)) ∨
      ∃ thread, (s.pollers thread).pc.alive = true ∧ mine (s.pollers thread).owner = true := by
  have others : (∃ other, other ≠ id ∧ Captures mine ((s.applyCaller id e).callers other)) ↔
      ∃ other, other ≠ id ∧ Captures mine (s.callers other) :=
    exists_congr fun other => and_congr_right fun apart => by simp only [State.applyCaller, Function.update_of_ne apart]
  rw [under_way_split mine _ id, others, apply_caller_pollers s id e spawned]
  simp only [State.applyCaller, Function.update_self]

theorem under_way_same (e : CallerEffect) (spawned : e.spawned = none)
    (same : Captures mine e.pc ↔ Captures mine (s.callers id)) :
    UnderWay mine (s.applyCaller id e) ↔ UnderWay mine s := by
  rw [under_way_caller mine s id e spawned, under_way_split mine s id, same]

-- A request hands its capture to the thread that it starts.
theorem under_way_spawned (e : CallerEffect) (numbered : s.Numbered) (user : UbertraceUserId) (capture : Nat)
    (config : UbertraceCaptureConfig) (spawned : e.spawned = some (.start user capture config))
    (leaves : ¬ Captures mine e.pc) (held : Captures mine (s.callers id) ↔ mine user = true) :
    UnderWay mine (s.applyCaller id e) ↔ UnderWay mine s := by
  have absent : (s.pollers s.threads).pc.alive = false := by
    rw [numbered s.threads (le_refl _)]
    rfl
  have pollers : (s.applyCaller id e).pollers =
      Function.update s.pollers s.threads (.start user capture config) := by
    simp only [State.applyCaller, spawned, Option.elim_some]
  have threads : (∃ thread, ((s.applyCaller id e).pollers thread).pc.alive = true ∧
        mine ((s.applyCaller id e).pollers thread).owner = true) ↔
      mine user = true ∨ ∃ thread, (s.pollers thread).pc.alive = true ∧ mine (s.pollers thread).owner = true := by
    rw [pollers]
    constructor
    · rintro ⟨thread, alive, isMine⟩
      by_cases new : thread = s.threads
      · rw [new, Function.update_self] at isMine
        exact .inl isMine
      · rw [Function.update_of_ne new] at alive isMine
        exact .inr ⟨thread, alive, isMine⟩
    · rintro (isMine | ⟨thread, alive, isMine⟩)
      · exact ⟨s.threads, by rw [Function.update_self]; rfl, by rwa [Function.update_self]⟩
      · have old : thread ≠ s.threads := by
          rintro rfl
          rw [absent] at alive
          cases alive
        exact ⟨thread, by rwa [Function.update_of_ne old], by rwa [Function.update_of_ne old]⟩
  have others : (∃ other, other ≠ id ∧ Captures mine ((s.applyCaller id e).callers other)) ↔
      ∃ other, other ≠ id ∧ Captures mine (s.callers other) :=
    exists_congr fun other => and_congr_right fun apart => by simp only [State.applyCaller, Function.update_of_ne apart]
  have outside : ¬ Captures mine ((s.applyCaller id e).callers id) := by
    simpa only [State.applyCaller, Function.update_self] using leaves
  rw [under_way_split mine _ id, under_way_split mine s id, others, threads, held, or_iff_right outside, or_left_comm]

theorem under_way_poller (e : PollerEffect) (owner : e.poller.owner = (s.pollers id).owner)
    (same : e.poller.pc.alive = true ∧ (s.pollers id).pc.alive = true ∨ mine (s.pollers id).owner = false) :
    UnderWay mine (s.applyPoller id e) ↔ UnderWay mine s := by
  refine or_congr Iff.rfl (exists_congr fun thread => ?_)
  by_cases moved : thread = id
  · subst moved
    simp only [State.applyPoller, Function.update_self, owner]
    obtain ⟨after, before⟩ | other := same
    · rw [after, before]
    · simp [other]
  · simp only [State.applyPoller, Function.update_of_ne moved]

end

theorem hook_of_caller (s : Ubertrace.State) (id : Nat) (answer : Answer) (e : CallerEffect)
    (effect : s.callerEffect id answer = some e) : hookOf s (.caller id answer) =
      match s.callers id with
      | .requestBeginTrace user _ _ => (calledHook e.events).map (user, ·)
      | _ => none := by
  rw [hookOf, effect]
  cases s.callers id <;> rfl

theorem caller_moves (mine : UbertraceUserId → Bool) (s : Ubertrace.State) (id : Nat) (answer : Answer) (e : CallerEffect)
    (numbered : s.Numbered) (effect : s.callerEffect id answer = some e) :
    Moves mine s (s.applyCaller id e) (hookOf s (.caller id answer)) := by
  have kept := caller_user _ _ _ _ _ _ _ _ effect
  have step := caller_hooks _ _ _ _ _ _ _ _ effect
  rw [hook_of_caller s id answer e effect]
  generalize here : s.callers id = pc at step kept
  cases step with
  | quiet _ _ same spawned silent =>
      have captures : Captures mine e.pc ↔ Captures mine (s.callers id) := by
        rw [here]
        constructor
        · intro holds
          cases after : e.pc with
          | requestBeginTrace first config p =>
              obtain ⟨before, rfl⟩ := kept first config p after
              rw [after] at holds same
              exact ⟨holds.1, fun none => holds.2 (same.trans none)⟩
          | _ =>
              rw [after] at holds
              exact holds.elim
        · intro holds
          cases pc with
          | requestBeginTrace first config p =>
              cases after : e.pc with
              | requestBeginTrace second other q =>
                  obtain ⟨before, whose⟩ := kept second other q after
                  cases whose
                  rw [after] at same
                  exact ⟨holds.1, fun none => holds.2 (same.symm.trans none)⟩
              | _ =>
                  rw [after] at same
                  exact absurd same.symm holds.2
          | _ => exact holds.elim
      refine .quiet _ (fun called some => ?_) (under_way_same mine s id e spawned captures)
      rw [called_silent e.events silent] at some
      cases pc <;> cases some
  | started user config _ next spawned events =>
      have called : calledHook e.events = some true := by rw [events]; rfl
      simp only [called, Option.map_some]
      cases isMine : mine user with
      | true =>
          refine .opened user isMine ((under_way_caller mine s id e spawned).mpr (.inl ?_))
          rw [next]
          exact ⟨isMine, nofun⟩
      | false =>
          refine .quiet _ (fun called some => ?_) (under_way_same mine s id e spawned ?_)
          · cases some
            exact isMine
          · simp [next, here, Captures, isMine]
  | refused user config capture _ next spawned events =>
      have called : calledHook e.events = some false := by rw [events]; rfl
      simp only [called, Option.map_some]
      cases isMine : mine user with
      | true => exact .closed user isMine
      | false =>
          refine .quiet _ (fun called some => ?_) (under_way_same mine s id e spawned ?_)
          · cases some
            exact isMine
          · simp [next, here, Captures, isMine]
  | thread user config capture _ next spawned events =>
      have called : calledHook e.events = none := by rw [events]; rfl
      simp only [called, Option.map_none]
      refine .quiet _ nofun (under_way_spawned mine s id e numbered user capture config spawned ?_ ?_)
      · simp [next, Captures]
      · simp [here, Captures, RequestBeginTracePc.capture]

theorem poller_step_moves (mine : UbertraceUserId → Bool) (s : Ubertrace.State) (id : Nat) (answer : Answer) (e : PollerEffect)
    (effect : s.pollerEffect id answer = some e) :
    Moves mine s (s.applyPoller id e) (hookOf s (.poller id answer)) := by
  have move := poller_moves _ _ _ _ _ _ effect
  have owner := (poller_keeps _ _ _ _ _ move).1
  have alive := (poller_cases _ _ _ _ _ move).alive
  rw [hookOf, effect]
  obtain ⟨exits, events⟩ | ⟨goesOn, silent⟩ := poller_hooks _ _ _ _ _ move
  · have called : calledHook e.events = some false := by rw [events]; rfl
    simp only [called, Option.map_some]
    cases isMine : mine (s.pollers id).owner with
    | true => exact .closed _ isMine
    | false =>
        refine .quiet _ (fun called some => ?_) (under_way_poller mine s id e owner (.inr isMine))
        cases some
        exact isMine
  · simp only [called_silent e.events silent, Option.map_none]
    exact .quiet _ nofun (under_way_poller mine s id e owner (.inl ⟨goesOn, alive⟩))

theorem step_moves (mine : UbertraceUserId → Bool) (s t : Ubertrace.State) (a : Ubertrace.Action) (numbered : s.Numbered)
    (next : Ubertrace.step s a = some t) : Moves mine s t (hookOf s a) := by
  rcases step_cases s t a next with ⟨rfl, rfl⟩ | ⟨id, call, rfl, outside, rfl⟩ |
    ⟨id, answer, e, rfl, effect, rfl⟩ | ⟨id, answer, e, rfl, effect, rfl⟩
  · exact .quiet _ nofun Iff.rfl
  · refine .quiet _ nofun (or_congr (exists_congr fun other => ?_) Iff.rfl)
    by_cases called : other = id
    · simp only [called, Function.update_self, outside]
      cases call <;> simp [Captures, CallerPc.enter, RequestBeginTracePc.capture]
    · simp only [Function.update_of_ne called]
  · exact caller_moves mine s id answer e numbered effect
  · exact poller_step_moves mine s id answer e effect

theorem under_way_holds (mine : UbertraceUserId → Bool) (s : Ubertrace.State) (underWay : UnderWay mine s) :
    ∃ capture, s.Holds capture := by
  obtain ⟨id, captures⟩ | ⟨thread, alive, _⟩ := underWay
  · cases here : s.callers id with
    | requestBeginTrace user config pc =>
        rw [here] at captures
        obtain ⟨capture, held⟩ := Option.ne_none_iff_exists'.mp captures.2
        exact ⟨capture, .inl ⟨id, by rw [here]; exact held⟩⟩
    | _ =>
        rw [here] at captures
        exact captures.elim
  · exact ⟨_, .inr ⟨thread, alive, rfl⟩⟩

theorem closed_last (s t : Ubertrace.State) (a : Ubertrace.Action) (user : UbertraceUserId)
    (next : Ubertrace.step s a = some t) (hook : hookOf s a = some (user, false)) :
    ∃ capture, hooks t.log = hooks s.log ++ [.closed capture] := by
  rcases step_cases s t a next with ⟨rfl, rfl⟩ | ⟨id, call, rfl, outside, rfl⟩ |
    ⟨id, answer, e, rfl, effect, rfl⟩ | ⟨id, answer, e, rfl, effect, rfl⟩
  · cases hook
  · cases hook
  · have step := caller_hooks _ _ _ _ _ _ _ _ effect
    rw [hook_of_caller s id answer e effect] at hook
    have called : calledHook e.events = some false := by
      cases here : s.callers id with
      | requestBeginTrace first config pc =>
          rw [here] at hook
          obtain ⟨closes, found, same⟩ := Option.map_eq_some_iff.mp hook
          cases same
          exact found
      | _ =>
          rw [here] at hook
          cases hook
    generalize s.callers id = pc at step
    cases step with
    | quiet _ _ same spawned silent =>
        rw [called_silent e.events silent] at called
        cases called
    | started _ _ _ next spawned events =>
        rw [events] at called
        cases called
    | refused _ _ capture _ next spawned events =>
        exact ⟨capture, by simp only [State.applyCaller, events, List.cons_append, List.nil_append, hooks]⟩
    | thread _ _ capture _ next spawned events =>
        rw [events] at called
        cases called
  · rw [hookOf, effect] at hook
    obtain ⟨_, events⟩ | ⟨_, silent⟩ := poller_hooks _ _ _ _ _ (poller_moves _ _ _ _ _ _ effect)
    · exact ⟨(s.pollers id).capture, by simp only [State.applyPoller, events, List.cons_append, List.nil_append, hooks]⟩
    · simp [called_silent e.events silent] at hook

-- Where the captures follow each other, none is left after a second hook.
theorem closed_over (mine : UbertraceUserId → Bool) (s t : Ubertrace.State) (a : Ubertrace.Action) (user : UbertraceUserId)
    (next : Ubertrace.step s a = some t) (hook : hookOf s a = some (user, false)) (holders : t.HoldersOpen)
    (alternates : Alternates (hooks t.log)) : ¬ UnderWay mine t := by
  intro underWay
  obtain ⟨capture, held⟩ := under_way_holds mine t underWay
  obtain ⟨opens, notClosed⟩ := holders.held capture held
  obtain ⟨other, last⟩ := closed_last s t a user next hook
  obtain closed | ⟨i, done, same⟩ := alternates
  · exact notClosed (closed_closes capture _ closed opens)
  · rw [last] at same
    cases (List.append_inj' same rfl).2

section

variable (m : DeviceClocks.DeviceClocksManager) (id other : DdConnectionId) (forcePeak : Bool)

theorem mem_update_forcing : other ∈ (m.updateForcing id forcePeak).forcePeakUmdConnectionIds ↔
    if other = id then forcePeak = true else other ∈ m.forcePeakUmdConnectionIds := by
  unfold DeviceClocks.DeviceClocksManager.updateForcing
  by_cases same : other = id
  · cases forcePeak <;> simp [same]
  · cases forcePeak <;> simp [same]

theorem set_force_peak_ids (s : DeviceClocks.State) (answers : GpuId → DriverAnswer) :
    (s.setForcePeak id forcePeak answers).manager.forcePeakUmdConnectionIds =
      (s.manager.updateForcing id forcePeak).forcePeakUmdConnectionIds := by
  have value : (s.manager.setForcePeak id forcePeak answers s.modes).value.forcePeakUmdConnectionIds =
      (s.manager.updateForcing id forcePeak).forcePeakUmdConnectionIds := by
    unfold DeviceClocks.DeviceClocksManager.setForcePeak
    dsimp only
    split <;> rfl
  unfold DeviceClocks.State.setForcePeak
  dsimp only
  split
  · exact value
  · split <;> exact value

end

section

variable (isRgp : DdConnectionId → UbertraceUserId → Bool) (s : State) (connection : DdConnectionId)
  (action : Ubertrace.Action) (answers : GpuId → DriverAnswer)

theorem force_peak_other (other : DdConnectionId) (apart : other ≠ connection) :
    other ∈ (s.forcePeak isRgp connection action answers).manager.forcePeakUmdConnectionIds ↔ other ∈ s.forced := by
  unfold State.forcePeak
  split
  · split
    · rw [set_force_peak_ids, mem_update_forcing, if_neg apart]
      exact Iff.rfl
    · exact Iff.rfl
  · exact Iff.rfl

theorem force_peak_quiet (none : ∀ called, hookOf (s.traces connection) action = some called → isRgp connection called.1 = false) :
    s.forcePeak isRgp connection action answers = s.clocks := by
  unfold State.forcePeak
  split
  · rename_i user forcePeak hook
    rw [if_neg (by rw [none _ hook]; exact Bool.false_ne_true)]
  · rfl

theorem force_peak_called (user : UbertraceUserId) (forcePeak : Bool)
    (hook : hookOf (s.traces connection) action = some (user, forcePeak)) (isMine : isRgp connection user = true) :
    connection ∈ (s.forcePeak isRgp connection action answers).manager.forcePeakUmdConnectionIds ↔ forcePeak = true := by
  unfold State.forcePeak
  rw [hook]
  simp only [isMine, if_true]
  rw [set_force_peak_ids, mem_update_forcing, if_pos rfl]

end

theorem clocks_keep_forced (hash : String → UInt32) (s t : DeviceClocks.State) (a : DeviceClocks.Action)
    (apart : ∀ id forcePeak answers, a ≠ .setForcePeak id forcePeak answers) (next : s.next hash a = some t) :
    t.manager.forcePeakUmdConnectionIds = s.manager.forcePeakUmdConnectionIds := by
  cases a with
  | setForcePeak id forcePeak answers => exact absurd rfl (apart id forcePeak answers)
  | requestMode gpuId mode answers =>
      cases next
      rw [DeviceClocks.request_mode_manager]
  | routerConnected info =>
      rw [DeviceClocks.State.next] at next
      split at next
      · cases next
        unfold DeviceClocks.DeviceClocksManager.onRouterConnected
        split <;> rfl
      · cases next
  | routerDisconnected => cases next; rfl
  | deviceChanged gpu mode => cases next; rfl

-- The steps there are, and what they do to the connections that force the clocks.
theorem next_cases (isRgp : DdConnectionId → UbertraceUserId → Bool) (hash : String → UInt32) (s t : State) (a : Action)
    (next : s.next isRgp hash a = some t) :
    (∃ connection action answers u, a = .trace connection action answers ∧ Ubertrace.step (s.traces connection) action = some u ∧
      t = ⟨Function.update s.traces connection u, s.forcePeak isRgp connection action answers⟩) ∨
    ∃ action clocks, a = .clocks action ∧ s.clocks.next hash action = some clocks ∧ t = { s with clocks := clocks } ∧
      t.forced = s.forced := by
  cases a with
  | trace connection action answers =>
      obtain ⟨u, step, rfl⟩ := Option.map_eq_some_iff.mp next
      exact .inl ⟨connection, action, answers, u, rfl, step, rfl⟩
  | clocks action =>
      right
      by_cases forces : ∃ id forcePeak answers, action = .setForcePeak id forcePeak answers
      · obtain ⟨id, forcePeak, answers, rfl⟩ := forces
        cases next
      · have apart : ∀ id forcePeak answers, action ≠ .setForcePeak id forcePeak answers :=
          fun id forcePeak answers same => forces ⟨id, forcePeak, answers, same⟩
        have taken : (s.clocks.next hash action).map (fun clocks => { s with clocks := clocks }) = some t := by
          rw [← next]
          cases action with
          | setForcePeak id forcePeak answers => exact absurd rfl (apart id forcePeak answers)
          | _ => rfl
        obtain ⟨clocks, step, rfl⟩ := Option.map_eq_some_iff.mp taken
        exact ⟨action, clocks, rfl, step, rfl, clocks_keep_forced hash s.clocks clocks action apart step⟩

section

variable (isRgp : DdConnectionId → UbertraceUserId → Bool) (features : DdConnectionId → UbertraceFeatures)
  (hash : String → UInt32) (modes : Modes)

-- Each connection's part of a run is a run of its orchestrator.
theorem traces_reach (allowed : State → Action → Prop) (own : Ubertrace.State → Ubertrace.Action → Prop)
    (gives : ∀ s connection action answers, allowed s (.trace connection action answers) → own (s.traces connection) action)
    (s : State) (reach : Reach (captureClocks isRgp features hash modes) allowed s) (connection : DdConnectionId) :
    Reach (ubertrace (features connection)) own (s.traces connection) := by
  refine reach_invariant (captureClocks isRgp features hash modes) allowed
    (fun s => ∀ connection, Reach (ubertrace (features connection)) own (s.traces connection)) (fun _ => .init) ?_ s reach
    connection
  intro s a t _ before meets next other
  obtain ⟨connection, action, answers, u, rfl, step, rfl⟩ | ⟨action, clocks, rfl, _, rfl, _⟩ := next_cases isRgp hash s t a next
  · by_cases moved : other = connection
    · simp only [moved, Function.update_self]
      exact .step _ u action (before connection) (gives s connection action answers meets) step
    · simp only [Function.update_of_ne moved]
      exact before other
  · exact before other

theorem trace_reachable (allowed : State → Action → Prop) (s : State)
    (reach : Reach (captureClocks isRgp features hash modes) allowed s) (connection : DdConnectionId) :
    Reachable (ubertrace (features connection)) (s.traces connection) :=
  traces_reach isRgp features hash modes allowed unrestricted (fun _ _ _ _ _ => trivial) s reach connection

-- What a step of a connection does to its captures and its own place among the forcing ones.
theorem trace_forced (s : State) (connection : DdConnectionId) (action : Ubertrace.Action) (answers : GpuId → DriverAnswer)
    (u : Ubertrace.State) (numbered : (s.traces connection).Numbered)
    (step : Ubertrace.step (s.traces connection) action = some u) (forced : List DdConnectionId)
    (same : forced = (s.forcePeak isRgp connection action answers).manager.forcePeakUmdConnectionIds) :
    (connection ∈ forced ↔ connection ∈ s.forced) ∧
        (UnderWay (isRgp connection) u ↔ UnderWay (isRgp connection) (s.traces connection)) ∨
      connection ∈ forced ∧ UnderWay (isRgp connection) u ∨
      connection ∉ forced ∧ ∃ user, hookOf (s.traces connection) action = some (user, false) := by
  subst same
  have moves := step_moves (isRgp connection) (s.traces connection) u action numbered step
  generalize here : hookOf (s.traces connection) action = hook at moves
  cases moves with
  | quiet _ none keeps =>
      rw [← here] at none
      rw [force_peak_quiet isRgp s connection action answers none]
      exact .inl ⟨Iff.rfl, keeps⟩
  | opened user isMine begun =>
      exact .inr (.inl ⟨(force_peak_called isRgp s connection action answers user true here isMine).mpr rfl, begun⟩)
  | closed user isMine =>
      refine .inr (.inr ⟨fun member => ?_, user, rfl⟩)
      cases (force_peak_called isRgp s connection action answers user false here isMine).mp member

-- The clocks are forced for a capture only, whatever the order of the threads.
theorem forced_under_way (s : State) (reach : Reachable (captureClocks isRgp features hash modes) s)
    (connection : DdConnectionId) (forces : connection ∈ s.forced) : UnderWay (isRgp connection) (s.traces connection) := by
  refine reach_invariant (captureClocks isRgp features hash modes) unrestricted
    (fun s => ∀ connection ∈ s.forced, UnderWay (isRgp connection) (s.traces connection)) nofun ?_ s reach connection forces
  intro s a t before holds _ next other forces
  obtain ⟨connection, action, answers, u, rfl, step, rfl⟩ | ⟨action, clocks, rfl, _, rfl, same⟩ := next_cases isRgp hash s t a next
  · by_cases moved : other = connection
    · subst moved
      have numbered := reachable_numbered (features other) _ (trace_reachable isRgp features hash modes _ s before other)
      simp only [Function.update_self]
      obtain ⟨member, keeps⟩ | ⟨_, begun⟩ | ⟨absent, _⟩ := trace_forced isRgp s other action answers u numbered step _ rfl
      · exact keeps.mpr (holds other (member.mp forces))
      · exact begun
      · exact absurd forces absent
    · simp only [Function.update_of_ne moved]
      exact holds other ((force_peak_other isRgp s connection action answers other moved).mp forces)
  · rw [same] at forces
    exact holds other forces

end

-- No first hook is called before the thread of the capture before has exited.
def oneByOne (s : State) : Action → Prop
  | .trace connection action _ => startsAfterExit (s.traces connection) action = true
  | .clocks _ => True

section

variable (isRgp : DdConnectionId → UbertraceUserId → Bool) (features : DdConnectionId → UbertraceFeatures)
  (hash : String → UInt32) (modes : Modes)

theorem under_way_forced (s : State) (reach : Reach (captureClocks isRgp features hash modes) oneByOne s)
    (connection : DdConnectionId) (underWay : UnderWay (isRgp connection) (s.traces connection)) : connection ∈ s.forced := by
  refine reach_invariant (captureClocks isRgp features hash modes) oneByOne
    (fun s => ∀ connection, UnderWay (isRgp connection) (s.traces connection) → connection ∈ s.forced) ?_ ?_ s reach connection
    underWay
  · rintro connection (⟨id, captures⟩ | ⟨thread, alive, _⟩)
    · exact captures.elim
    · cases alive
  · intro s a t before holds meets next other underWay
    obtain ⟨connection, action, answers, u, rfl, step, rfl⟩ | ⟨action, clocks, rfl, _, rfl, same⟩ := next_cases isRgp hash s t a next
    · by_cases moved : other = connection
      · subst moved
        have sequential := traces_reach isRgp features hash modes oneByOne (fun s a => startsAfterExit s a = true)
          (fun _ _ _ _ meets => meets) s before other
        have after : Reach (ubertrace (features other)) (fun s a => startsAfterExit s a = true) u :=
          .step _ u action sequential meets step
        have numbered := reachable_numbered (features other) _ (reach_reachable _ _ _ sequential)
        simp only [Function.update_self] at underWay
        obtain ⟨member, keeps⟩ | ⟨forces, _⟩ | ⟨_, user, hook⟩ := trace_forced isRgp s other action answers u numbered step _ rfl
        · exact member.mpr (holds other (keeps.mp underWay))
        · exact forces
        · have holders := reachable_holders_open (features other) u (reach_reachable _ _ _ after)
          have alternates := starts_after_exit_sound (features other) u after
          exact absurd underWay (closed_over (isRgp other) (s.traces other) u action user step hook holders alternates)
      · simp only [Function.update_of_ne moved] at underWay
        exact (force_peak_other isRgp s connection action answers other moved).mpr (holds other underWay)
    · rw [same]
      exact holds other underWay

end

-- The cached modes are the right ones at the first hook, and at the second one the undo reaches all of them.
def keepsModes (isRgp : DdConnectionId → UbertraceUserId → Bool) (s : State) : Action → Prop
  | .trace connection action answers =>
      match hookOf (s.traces connection) action with
      | some (user, forcePeak) =>
          isRgp connection user = true → DeviceClocks.keepsModes s.clocks (.setForcePeak connection forcePeak answers)
      | none => True
  | .clocks action => DeviceClocks.keepsModes s.clocks action

instance (s : State) : (a : Action) → Decidable (oneByOne s a)
  | .trace _ _ _ => inferInstanceAs (Decidable (_ = true))
  | .clocks _ => inferInstanceAs (Decidable True)

instance (isRgp : DdConnectionId → UbertraceUserId → Bool) (s : State) : (a : Action) → Decidable (keepsModes isRgp s a)
  | .trace connection action answers =>
      match hook : hookOf (s.traces connection) action with
      | some (user, forcePeak) =>
          decidable_of_iff
            (isRgp connection user = true → DeviceClocks.keepsModes s.clocks (.setForcePeak connection forcePeak answers))
            (by simp only [keepsModes, hook])
      | none => isTrue (by simp only [keepsModes, hook])
  | .clocks action => DeviceClocks.decidableKeeps s.clocks action

theorem clocks_remember (isRgp : DdConnectionId → UbertraceUserId → Bool) (features : DdConnectionId → UbertraceFeatures)
    (hash : String → UInt32) (modes : Modes) (s : State)
    (reach : Reach (captureClocks isRgp features hash modes) (keepsModes isRgp) s) : s.clocks.Remembers := by
  refine reach_invariant (captureClocks isRgp features hash modes) (keepsModes isRgp) (fun s => s.clocks.Remembers) ?_ ?_ s reach
  · exact ⟨List.nodup_nil, nofun, nofun⟩
  · intro s a t _ remembers keeps next
    obtain ⟨connection, action, answers, u, rfl, _, rfl⟩ | ⟨action, clocks, rfl, step, rfl, _⟩ := next_cases isRgp hash s t a next
    · dsimp only
      unfold State.forcePeak
      split
      · rename_i user forcePeak hook
        simp only [keepsModes, hook] at keeps
        split
        · rename_i isMine
          exact DeviceClocks.remembers_step hash s.clocks _ (.setForcePeak connection forcePeak answers) remembers
            (keeps isMine) rfl
        · exact remembers
      · exact remembers
    · exact DeviceClocks.remembers_step hash s.clocks clocks action remembers keeps step

section

variable (isRgp : DdConnectionId → UbertraceUserId → Bool) (features : DdConnectionId → UbertraceFeatures)
  (hash : String → UInt32) (modes : Modes)

theorem no_peak_left (s : State) (reach : Reachable (captureClocks isRgp features hash modes) s) :
    (∀ connection ∈ s.forced, UnderWay (isRgp connection) (s.traces connection)) ∧
      (s.clocks.manager.isForcingPeak = true → ∃ connection, UnderWay (isRgp connection) (s.traces connection)) := by
  have forced := forced_under_way isRgp features hash modes s reach
  refine ⟨forced, fun forcing => ?_⟩
  have some : s.forced ≠ [] := by simpa [DeviceClocks.DeviceClocksManager.isForcingPeak, State.forced] using forcing
  obtain ⟨connection, member⟩ := List.exists_mem_of_ne_nil s.forced some
  exact ⟨connection, forced connection member⟩

end

def profiled : List Action :=
  .clocks (.routerConnected (some DeviceClocks.twoGpus)) ::
    (connects 0 1 ++ begins 0 1 manualCapture).map (.trace 5 · fun _ => DeviceClocks.takes .peak)

-- The clocks stay up for as long as the profile of the connection 5 runs.
theorem profile_forced : ∃ s, Reachable (captureClocks (fun _ _ => true) (fun _ => .default) (fun _ => 0) fun _ => .normal) s ∧
    5 ∈ s.forced ∧ UnderWay (fun _ => true) (s.traces 5) := by
  obtain ⟨s, reach, found⟩ := exec_if_finds
    (captureClocks (fun _ _ => true) (fun _ => .default) (fun _ => 0) fun _ => .normal) (fun _ _ => true) profiled
    (fun s => s.forced = [5]) (by decide)
  have forced : 5 ∈ s.forced := by rw [of_decide_eq_true found]; exact List.mem_singleton_self 5
  have reachable := reach_reachable _ _ s reach
  exact ⟨s, reachable, forced, (no_peak_left _ _ _ _ s reachable).1 5 forced⟩

def profileEnded : List Action := (collects 0 .success).map (.trace 5 · fun _ => DeviceClocks.takes .normal)

end RadeonPanel.Rgp.CaptureClocks

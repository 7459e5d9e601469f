import RadeonPanel.Base.Runs
import RadeonPanel.Ubertrace.Polling

set_option autoImplicit false

namespace RadeonPanel.Ubertrace

open Interleaving

-- Where a thread that uses the orchestrator is. The calls without a counter of
-- their own are one critical section, or one store.
inductive CallerPc where
  | outside
  | initializeUser (user : UbertraceUserId) (enable : Bool) (pc : InitializePc)
  | disconnect (user : UbertraceUserId) (pc : DisconnectPc)
  | handleDriverState (user : UbertraceUserId) (state : DdDriverState) (pc : HandleDriverStatePc)
  | requestAbortTrace (user : UbertraceUserId) (pc : RequestAbortTracePc)
  | requestBeginTrace (user : UbertraceUserId) (config : UbertraceCaptureConfig) (pc : RequestBeginTracePc)
  | addPreliminarySources (sources : List UberTraceSource)
  | addEarlyConfiguration (params : Option UberTraceGlobalParams)
  | prepareForDelayedCapture (user : UbertraceUserId)
  | setUserIsDisabled (user : UbertraceUserId) (disabled : Bool)
deriving DecidableEq, Repr

def CallerPc.enter : Call → CallerPc
  | .initializeUser user enable => .initializeUser user enable .lock
  | .disconnect user => .disconnect user .entry
  | .addPreliminarySources sources => .addPreliminarySources sources
  | .addEarlyConfiguration params => .addEarlyConfiguration params
  | .handleDriverState user state => .handleDriverState user state .lock
  | .requestAbortTrace user => .requestAbortTrace user .supported
  | .prepareForDelayedCapture user => .prepareForDelayedCapture user
  | .requestBeginTrace user config => .requestBeginTrace user config .lock
  | .setUserIsDisabled user disabled => .setUserIsDisabled user disabled

structure CallerEffect where
  orch : UbertraceOrchestrator
  pc : CallerPc
  lock : LockUse
  events : List Event
  spawned : Option Poller

def Effect.inCall {π : Type} (e : Effect π) (into : π → CallerPc) : CallerEffect :=
  ⟨e.orch, e.next.elim .outside into, e.lock, e.events, none⟩

section

variable {π : Type} (e : Effect π) (into : π → CallerPc)

@[simp] theorem in_call_orch : (e.inCall into).orch = e.orch := rfl
@[simp] theorem in_call_events : (e.inCall into).events = e.events := rfl
@[simp] theorem in_call_lock : (e.inCall into).lock = e.lock := rfl
@[simp] theorem in_call_spawned : (e.inCall into).spawned = none := rfl

end

-- The last step of `RequestBeginTrace` starts the polling thread.
def spawnedBy (user : UbertraceUserId) (config : UbertraceCaptureConfig) : RequestBeginTracePc → Option Poller
  | .thread capture => some (.start user capture config)
  | _ => none

def callerStep (o : UbertraceOrchestrator) (free joined : Bool) (fresh thread : Nat) (pc : CallerPc)
    (answer : Answer) : Option CallerEffect :=
  match pc, answer with
  | .outside, _ => none
  | .initializeUser user enable pc, answer =>
      (initializeStep o free user enable pc answer).map (·.inCall (.initializeUser user enable))
  | .disconnect user pc, answer => (disconnectStep o free joined user pc answer).map (·.inCall (.disconnect user))
  | .handleDriverState user state pc, answer =>
      (handleDriverStateStep o free user state pc answer).map (·.inCall (.handleDriverState user state))
  | .requestAbortTrace user pc, answer =>
      (requestAbortTraceStep o free user pc answer).map (·.inCall (.requestAbortTrace user))
  | .requestBeginTrace user config pc, answer =>
      (requestBeginTraceStep o free joined fresh thread user config pc answer).map fun e =>
        { e.inCall (.requestBeginTrace user config) with spawned := spawnedBy user config pc }
  | .addPreliminarySources sources, .go =>
      if !free then none
      else some ⟨o.addPreliminarySources sources, .outside, .keep, [.sourcesAdded sources], none⟩
  | .addEarlyConfiguration params, .go =>
      some ⟨o.addEarlyConfiguration params, .outside, .keep, (params.map .paramsAdded).toList, none⟩
  | .prepareForDelayedCapture user, .go =>
      if !free then none
      else
        match o.prepareForDelayedCapture user with
        | none => some ⟨o, .outside, .keep, [.threw (.prepareForDelayedCapture user)], none⟩
        | some (o, result) =>
            some ⟨o, .outside, .keep, [.returned (.prepareForDelayedCapture user) result], none⟩
  | .setUserIsDisabled user disabled, .go =>
      if !free then none else some ⟨o.setUserIsDisabled user disabled .disabled, .outside, .keep, [], none⟩
  | _, _ => none

-- What holds of the steps of every call holds of every step of a caller.
theorem caller_rule (o : UbertraceOrchestrator) (free joined : Bool) (fresh thread : Nat)
    (holds : CallerPc → Answer → CallerEffect → Prop)
    (inInitialize : ∀ user enable pc answer e, initializeStep o free user enable pc answer = some e →
      holds (.initializeUser user enable pc) answer (e.inCall (.initializeUser user enable)))
    (inDisconnect : ∀ user pc answer e, disconnectStep o free joined user pc answer = some e →
      holds (.disconnect user pc) answer (e.inCall (.disconnect user)))
    (inHandleDriverState : ∀ user state pc answer e, handleDriverStateStep o free user state pc answer = some e →
      holds (.handleDriverState user state pc) answer (e.inCall (.handleDriverState user state)))
    (inRequestAbortTrace : ∀ user pc answer e, requestAbortTraceStep o free user pc answer = some e →
      holds (.requestAbortTrace user pc) answer (e.inCall (.requestAbortTrace user)))
    (inRequestBeginTrace : ∀ user config pc answer e,
      requestBeginTraceStep o free joined fresh thread user config pc answer = some e →
      holds (.requestBeginTrace user config pc) answer
        { e.inCall (.requestBeginTrace user config) with spawned := spawnedBy user config pc })
    (sourcesAdded : ∀ sources, free = true → holds (.addPreliminarySources sources) .go
      ⟨o.addPreliminarySources sources, .outside, .keep, [.sourcesAdded sources], none⟩)
    (paramsAdded : ∀ params, holds (.addEarlyConfiguration params) .go
      ⟨o.addEarlyConfiguration params, .outside, .keep, (params.map .paramsAdded).toList, none⟩)
    (notPrepared : ∀ user, free = true → o.prepareForDelayedCapture user = none →
      holds (.prepareForDelayedCapture user) .go ⟨o, .outside, .keep, [.threw (.prepareForDelayedCapture user)], none⟩)
    (prepared : ∀ user next result, free = true → o.prepareForDelayedCapture user = some (next, result) →
      holds (.prepareForDelayedCapture user) .go
        ⟨next, .outside, .keep, [.returned (.prepareForDelayedCapture user) result], none⟩)
    (userDisabled : ∀ user disabled, free = true → holds (.setUserIsDisabled user disabled) .go
      ⟨o.setUserIsDisabled user disabled .disabled, .outside, .keep, [], none⟩)
    (pc : CallerPc) (answer : Answer) (e : CallerEffect)
    (next : callerStep o free joined fresh thread pc answer = some e) : holds pc answer e := by
  cases pc with
  | outside => cases next
  | initializeUser user enable pc =>
      obtain ⟨inner, inside, rfl⟩ := Option.map_eq_some_iff.mp next
      exact inInitialize user enable pc answer inner inside
  | disconnect user pc =>
      obtain ⟨inner, inside, rfl⟩ := Option.map_eq_some_iff.mp next
      exact inDisconnect user pc answer inner inside
  | handleDriverState user state pc =>
      obtain ⟨inner, inside, rfl⟩ := Option.map_eq_some_iff.mp next
      exact inHandleDriverState user state pc answer inner inside
  | requestAbortTrace user pc =>
      obtain ⟨inner, inside, rfl⟩ := Option.map_eq_some_iff.mp next
      exact inRequestAbortTrace user pc answer inner inside
  | requestBeginTrace user config pc =>
      obtain ⟨inner, inside, rfl⟩ := Option.map_eq_some_iff.mp next
      exact inRequestBeginTrace user config pc answer inner inside
  | addPreliminarySources sources =>
      cases answer <;> cases free <;> cases next
      exact sourcesAdded sources rfl
  | addEarlyConfiguration params =>
      cases answer <;> cases next
      exact paramsAdded params
  | prepareForDelayedCapture user =>
      cases answer <;> cases free <;> try cases next
      simp only [callerStep, Bool.not_true, Bool.false_eq_true, if_false] at next
      cases outcome : o.prepareForDelayedCapture user with
      | none =>
          rw [outcome] at next
          cases next
          exact notPrepared user rfl outcome
      | some pair =>
          rw [outcome] at next
          cases next
          exact prepared user pair.1 pair.2 rfl outcome
  | setUserIsDisabled user disabled =>
      cases answer <;> cases free <;> cases next
      exact userDisabled user disabled rfl

inductive Task where
  | caller (id : Nat)
  | poller (id : Nat)
deriving DecidableEq, Repr

structure State where
  orch : UbertraceOrchestrator
  mutex : Option Task
  callers : Nat → CallerPc
  pollers : Nat → Poller
  threads : Nat
  log : List Event

def State.initial (features : UbertraceFeatures) : State where
  orch := .new features
  mutex := none
  callers := fun _ => .outside
  pollers := fun _ => .absent
  threads := 0
  log := []

inductive Action where
  | getNewUser
  | call (caller : Nat) (call : Call)
  | caller (id : Nat) (answer : Answer)
  | poller (id : Nat) (answer : Answer)
deriving DecidableEq, Repr

def State.free (s : State) : Bool := s.mutex = none

def State.joined (s : State) : Bool :=
  match s.orch.tracePollingThread with
  | none => true
  | some thread => (s.pollers thread).pc = .exited

-- The captures of a connection are numbered by their calls of the first hook.
def started : List Event → Nat
  | [] => 0
  | .tracingStarted _ :: older => started older + 1
  | _ :: older => started older

def State.applyCaller (s : State) (id : Nat) (e : CallerEffect) : State where
  orch := e.orch
  mutex := e.lock.apply (.caller id) s.mutex
  callers := Function.update s.callers id e.pc
  pollers := e.spawned.elim s.pollers (Function.update s.pollers s.threads)
  threads := e.spawned.elim s.threads fun _ => s.threads + 1
  log := e.events ++ s.log

theorem apply_caller_pollers (s : State) (id : Nat) (e : CallerEffect) (spawned : e.spawned = none) :
    (s.applyCaller id e).pollers = s.pollers := by
  simp only [State.applyCaller, spawned, Option.elim_none]

def State.applyPoller (s : State) (id : Nat) (e : PollerEffect) : State where
  orch := e.orch
  mutex := e.lock.apply (.poller id) s.mutex
  callers := s.callers
  pollers := Function.update s.pollers id e.poller
  threads := s.threads
  log := e.events ++ s.log

def State.callerEffect (s : State) (id : Nat) (answer : Answer) : Option CallerEffect :=
  callerStep s.orch s.free s.joined (started s.log) s.threads (s.callers id) answer

def State.pollerEffect (s : State) (id : Nat) (answer : Answer) : Option PollerEffect :=
  pollerStep s.orch s.free id (s.pollers id) answer

def step (s : State) : Action → Option State
  | .getNewUser => some { s with orch := s.orch.getNewUser }
  | .call id call =>
      if s.callers id = .outside then some { s with callers := Function.update s.callers id (.enter call) } else none
  | .caller id answer => (s.callerEffect id answer).map (s.applyCaller id)
  | .poller id answer => (s.pollerEffect id answer).map (s.applyPoller id)

def ubertrace (features : UbertraceFeatures) : Machine State Action := ⟨.initial features, step⟩

-- The steps of a caller whose calls succeed: the first user's `Initialize`, that
-- of a later one, and `RequestBeginTrace`.
def connects (id : Nat) (user : UbertraceUserId) : List Action :=
  [.call id (.initializeUser user true), .caller id .go, .caller id (.driver .success), .caller id (.driver .success)]

def joins (id : Nat) (user : UbertraceUserId) : List Action :=
  [.call id (.initializeUser user true), .caller id .go, .caller id .go]

def begins (id : Nat) (user : UbertraceUserId) (config : UbertraceCaptureConfig) : List Action :=
  [.call id (.requestBeginTrace user config), .caller id .go, .caller id (.config (.sent .success)), .caller id .go,
    .caller id (.driver .success), .caller id .go, .caller id .go, .caller id .go, .caller id .go, .caller id .go]

-- A thread that collects its trace in the first round, and the result of the writer.
def collects (thread : Nat) (chunks : Result) : List Action :=
  [.poller thread (.stream "trace"), .poller thread (.collected .success (some chunks)), .poller thread .go,
    .poller thread .go, .poller thread .go, .poller thread .go]

def manualCapture : UbertraceCaptureConfig := ⟨.normal, ⟨[], none⟩, false, false⟩
def autoCapture : UbertraceCaptureConfig := ⟨.autoCapture, ⟨[], none⟩, false, true⟩

theorem step_cases (s t : State) (a : Action) (next : step s a = some t) :
    (a = .getNewUser ∧ t = { s with orch := s.orch.getNewUser }) ∨
    (∃ id call, a = .call id call ∧ s.callers id = .outside ∧
      t = { s with callers := Function.update s.callers id (.enter call) }) ∨
    (∃ id answer e, a = .caller id answer ∧ s.callerEffect id answer = some e ∧ t = s.applyCaller id e) ∨
    (∃ id answer e, a = .poller id answer ∧ s.pollerEffect id answer = some e ∧ t = s.applyPoller id e) := by
  cases a with
  | getNewUser => exact .inl ⟨rfl, (Option.some.inj next).symm⟩
  | call id call =>
      by_cases outside : s.callers id = .outside
      · rw [step, if_pos outside] at next
        exact .inr (.inl ⟨id, call, rfl, outside, (Option.some.inj next).symm⟩)
      · rw [step, if_neg outside] at next
        cases next
  | caller id answer =>
      obtain ⟨e, effect, same⟩ := Option.map_eq_some_iff.mp next
      exact .inr (.inr (.inl ⟨id, answer, e, rfl, effect, same.symm⟩))
  | poller id answer =>
      obtain ⟨e, effect, same⟩ := Option.map_eq_some_iff.mp next
      exact .inr (.inr (.inr ⟨id, answer, e, rfl, effect, same.symm⟩))

theorem caller_spawned (o : UbertraceOrchestrator) (free joined : Bool) (fresh thread : Nat) (pc : CallerPc)
    (answer : Answer) (e : CallerEffect) (p : Poller)
    (next : callerStep o free joined fresh thread pc answer = some e) (spawned : e.spawned = some p) :
    ∃ user config capture, pc = .requestBeginTrace user config (.thread capture) ∧ p = .start user capture config := by
  revert spawned
  refine caller_rule o free joined fresh thread (fun pc _ e => e.spawned = some p → ∃ user config capture,
    pc = .requestBeginTrace user config (.thread capture) ∧ p = .start user capture config)
    ?_ ?_ ?_ ?_ ?_ ?_ ?_ ?_ ?_ ?_ pc answer e next
  case refine_5 =>
    intro user config pc answer e _ spawned
    cases pc <;> cases spawned
    exact ⟨user, config, _, rfl, rfl⟩
  all_goals intros; contradiction

-- Threads are numbered in the order of their start.
def State.Numbered (s : State) : Prop := ∀ thread, s.threads ≤ thread → s.pollers thread = .absent

theorem poller_present (o : UbertraceOrchestrator) (free : Bool) (thread : Nat) (p : Poller) (answer : Answer)
    (e : PollerEffect) (next : pollerStep o free thread p answer = some e) : p ≠ .absent := by
  rintro rfl
  cases answer <;> cases next

theorem numbered_step (s t : State) (a : Action) (numbered : s.Numbered) (next : step s a = some t) :
    t.Numbered := by
  rcases step_cases s t a next with ⟨_, rfl⟩ | ⟨id, call, _, _, rfl⟩ |
    ⟨id, answer, e, _, effect, rfl⟩ | ⟨id, answer, e, _, effect, rfl⟩
  · exact numbered
  · exact numbered
  · intro thread after
    cases spawned : e.spawned with
    | none =>
        simp only [State.applyCaller, spawned, Option.elim_none] at after ⊢
        exact numbered thread after
    | some p =>
        simp only [State.applyCaller, spawned, Option.elim_some] at after ⊢
        rw [Function.update_of_ne (by omega)]
        exact numbered thread (by omega)
  · intro thread after
    have present := poller_present _ _ _ _ _ _ effect
    have apart : thread ≠ id := by
      rintro rfl
      exact present (numbered thread after)
    simp only [State.applyPoller, Function.update_of_ne apart]
    exact numbered thread after

theorem reachable_numbered (features : UbertraceFeatures) (s : State)
    (reach : Reachable (ubertrace features) s) : s.Numbered :=
  reachable_invariant (ubertrace features) State.Numbered (fun _ _ => rfl)
    (fun s a t => numbered_step s t a) s reach

end RadeonPanel.Ubertrace

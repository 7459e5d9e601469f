import RadeonPanel.Frontend.ConnectionModel

set_option autoImplicit false

namespace RadeonPanel.Frontend.Connection

open Interleaving

-- Whether a thread at this point takes the mutex once more, whatever the tool answers.
def OpPc.mustLock (reconnecting : Bool) : OpPc → Bool
  | .connect _ | .connecting _ (some _) | .connectFailed | .disconnect | .disconnecting (some _) => true
  | .disconnecting none | .disconnected => reconnecting
  | .routerFailed _ | .connecting _ none | .notConnected | .done => false

-- After this answer the operation takes the mutex before it goes on.
def Answer.needsLock : Answer → Bool
  | .connects success => !success
  | .calls _ => true
  | .go | .creates _ _ => false

namespace State
variable (s : State)

def mustLock : Bool := s.connectionThread.any (·.pc.mustLock s.currentlyReconnecting)

def Deadlocked : Prop := s.ui = .setTimeoutJoin ∧ s.mustLock = true

-- `SetDisableClientTimeout` finds the connection established only when the thread
-- has no section under the mutex in front of it, and the thread gets none while
-- it is being joined.
def LocksSafely : Action → Prop
  | .ui .go => s.ui = .setTimeout → s.connectionState = .connected → s.mustLock = false
  | .thread answer => s.ui = .setTimeoutJoin → answer.needsLock = false
  | _ => True

structure Joining : Prop where
  connected : s.ui = .setTimeoutJoin → s.connectionState = .connected
  settled : s.connectionState = .connected → s.currentlyReconnecting = false

theorem run_joining (callback : Callback) (unlocked : s.free = true) : (s.run callback).Joining := by
  refine ⟨fun joins => absurd (s.run_ui callback ▸ joins) (s.not_joining unlocked), fun connected => ?_⟩
  cases callback with
  | onRouterConnected => rfl
  | onRouterDisconnected => cases connected

variable {s} {was : Option ConnectArgs} {pc next : OpPc} {answer : Answer} {t : State}

theorem move_joining (joining : s.Joining) (move : s.OperationMove was pc answer t next) : t.Joining := by
  cases move with
  | connectCalled args callback unlocked | disconnectCalled callback unlocked => exact s.run_joining callback unlocked
  | refused | routerFailed | notConnected => exact ⟨joining.connected, fun _ => rfl⟩
  | goesAhead attempt created loads router unlocked =>
      exact ⟨fun joins => absurd joins (s.not_joining unlocked), nofun⟩
  | connectFailed unlocked | disconnects unlocked =>
      exact ⟨fun joins => absurd joins (s.not_joining unlocked), nofun⟩
  | reconnects again => exact ⟨joining.connected, joining.settled⟩
  | _ => exact joining

theorem call_not_joining (call : Call) (idle : s.ui = .idle) : (s.call call).ui ≠ .setTimeoutJoin := by
  cases call with
  | createTool created registered callbacksAdded => simp only [State.call, idle, ne_eq, reduceCtorEq, not_false_eq_true]
  | setDisableClientTimeout setting =>
      by_cases same : s.disableClientTimeout = setting
      · simp only [State.call, if_pos same, idle, ne_eq, reduceCtorEq, not_false_eq_true]
      · simp only [State.call, if_neg same, ne_eq, reduceCtorEq, not_false_eq_true]
  | _ => nofun

theorem call_settled (call : Call) (joining : s.Joining) (connected : (s.call call).connectionState = .connected) :
    (s.call call).currentlyReconnecting = false := by
  cases call with
  | setDisableClientTimeout setting =>
      by_cases same : s.disableClientTimeout = setting
      · rw [State.call, if_pos same] at connected ⊢
        exact joining.settled connected
      · rw [State.call, if_neg same] at connected ⊢
        exact joining.settled connected
  | _ => exact joining.settled connected

theorem step_joining (s : State) (a : Action) (t : State) (joining : s.Joining) (next : s.step a = some t) :
    t.Joining := by
  obtain ⟨call, rfl, idle, rfl⟩ | ⟨answer, rfl, move⟩ | ⟨answer, op, made, rfl, here, move, rfl⟩ |
    ⟨callback, rfl, tool, unlocked, rfl⟩ := s.step_cases a t next
  · exact ⟨fun joins => absurd joins (call_not_joining call idle), call_settled call joining⟩
  · cases move with
    | applies here connected => exact ⟨fun _ => connected, joining.settled⟩
    | operates pc answer made here move => exact ⟨nofun, (move_joining joining move).settled⟩
    | disconnected here | ended here => exact ⟨nofun, joining.settled⟩
    | _ => exact ⟨nofun, joining.settled⟩
  · have after := move_joining joining move
    exact ⟨after.connected, after.settled⟩
  · exact s.run_joining callback unlocked

theorem reachable_joining (s : State) (reach : Reachable connectionModel s) : s.Joining :=
  reachable_invariant connectionModel Joining ⟨nofun, nofun⟩ step_joining s reach

-- While the mutex is taken, only such an answer puts an operation in front of a
-- section under it.
theorem taken_needs_lock (taken : s.free = false) (settled : s.currentlyReconnecting = false)
    (move : s.OperationMove was pc answer t next) : next.mustLock t.currentlyReconnecting = answer.needsLock := by
  cases move with
  | routerFailed | connectCalls | connects | fails | notConnected | disconnectCalls | ended => rfl
  | disconnected => exact settled
  | reconnects again => simp only [settled, Bool.false_eq_true] at again
  | refused _ _ _ unlocked | noRouter _ _ _ _ unlocked | goesAhead _ _ _ _ unlocked | connectCalled _ _ unlocked
  | connectFailed unlocked | nothingConnected unlocked | disconnects unlocked | disconnectCalled _ unlocked =>
      simp only [taken, Bool.false_eq_true] at unlocked

theorem taken_stays_locked (taken : s.free = false) (must : pc.mustLock s.currentlyReconnecting = true)
    (move : s.OperationMove was pc answer t next) : next.mustLock t.currentlyReconnecting = true := by
  cases move with
  | disconnectCalls | reconnects => rfl
  | disconnected => exact must
  | ended once =>
      rw [once] at must
      cases must
  | routerFailed | connectCalls | connects | fails | notConnected => cases must
  | refused _ _ _ unlocked | noRouter _ _ _ _ unlocked | goesAhead _ _ _ _ unlocked | connectCalled _ _ unlocked
  | connectFailed unlocked | nothingConnected unlocked | disconnects unlocked | disconnectCalled _ unlocked =>
      simp only [taken, Bool.false_eq_true] at unlocked

theorem ui_elsewhere (answer : Answer) (before : s.ui ≠ .setTimeout) (after : t.ui ≠ .setTimeoutJoin) :
    ¬ t.Deadlocked ↔ s.LocksSafely (.ui answer) := by
  refine ⟨fun _ => ?_, fun _ deadlocked => after deadlocked.1⟩
  cases answer with
  | go => exact fun here => absurd here before
  | _ => trivial

theorem ui_locks_safely (s t : State) (answer : Answer) (move : s.UiMove answer t) :
    ¬ t.Deadlocked ↔ s.LocksSafely (.ui answer) := by
  cases move with
  | applies here connected =>
      change ¬ (_ ∧ s.mustLock = true) ↔ _
      simp only [true_and, Bool.not_eq_true, LocksSafely, here, connected, forall_const]
  | leaves here elsewhere => exact ⟨fun _ _ connected => absurd connected elsewhere, fun _ => nofun⟩
  | connects args here | disconnects here | joins here | disconnected here | ended here =>
      exact ui_elsewhere .go (by simp only [here, ne_eq, reduceCtorEq, not_false_eq_true]) nofun
  | operates pc answer made here =>
      exact ui_elsewhere answer (by simp only [here, ne_eq, reduceCtorEq, not_false_eq_true]) nofun

theorem keeps_iff_locks_safely (s : State) (a : Action) (t : State) (reach : Reachable connectionModel s)
    (next : s.step a = some t) : ¬ t.Deadlocked ↔ s.LocksSafely a := by
  have joining := reachable_joining s reach
  obtain ⟨call, rfl, idle, rfl⟩ | ⟨answer, rfl, move⟩ | ⟨answer, op, made, rfl, here, move, rfl⟩ |
    ⟨callback, rfl, tool, unlocked, rfl⟩ := s.step_cases a t next
  · exact ⟨fun _ => trivial, fun _ deadlocked => call_not_joining call idle deadlocked.1⟩
  · exact ui_locks_safely s t answer move
  · have stays := move_ui move
    by_cases joins : s.ui = .setTimeoutJoin
    · have taken : s.free = false := by simp only [free, joins, ne_eq, not_true_eq_false, decide_false]
      have needs := taken_needs_lock taken (joining.settled (joining.connected joins)) move
      simp only [Deadlocked, stays, joins, true_and, mustLock, Option.any_some, needs, LocksSafely,
        forall_const, Bool.not_eq_true]
    · simp only [Deadlocked, stays, joins, false_and, not_false_eq_true, LocksSafely, false_implies]
  · refine ⟨fun _ => trivial, fun _ deadlocked => s.not_joining unlocked ?_⟩
    rw [← s.run_ui callback]
    exact deadlocked.1

end State

theorem join_without_need_iff (actions : List Action) :
    Meets connectionModel State.LocksSafely connectionModel.init actions ↔
      Always connectionModel (fun s => ¬ s.Deadlocked) connectionModel.init actions :=
  keeps_iff_always connectionModel State.LocksSafely (fun s => ¬ s.Deadlocked) nofun
    (fun s a t reach _ next => State.keeps_iff_locks_safely s a t reach next) actions

-- No step ends the wait.
theorem deadlock_persists (s t : State) (a : Action) (deadlocked : s.Deadlocked) (next : s.step a = some t) :
    t.Deadlocked := by
  obtain ⟨joins, must⟩ := deadlocked
  have taken : s.free = false := by simp only [State.free, joins, ne_eq, not_true_eq_false, decide_false]
  obtain ⟨op, thread, must⟩ := (Option.any_eq_true _ _).mp must
  obtain ⟨call, rfl, idle, rfl⟩ | ⟨answer, rfl, move⟩ | ⟨answer, running, made, rfl, here, move, rfl⟩ |
    ⟨callback, rfl, tool, unlocked, rfl⟩ := s.step_cases a t next
  · rw [joins] at idle
    cases idle
  · cases move with
    | joins here joined =>
        simp only [State.joined, thread, Option.all_some, decide_eq_true_eq] at joined
        rw [joined] at must
        cases must
    | applies here | leaves here | connects args here | disconnects here | disconnected here | ended here
    | operates pc answer made here =>
        rw [joins] at here
        cases here
  · obtain rfl : op = running := Option.some.inj (thread.symm.trans here)
    have stays := State.move_ui move
    have still : made.2.mustLock made.1.currentlyReconnecting = true := State.taken_stays_locked taken must move
    exact ⟨stays.trans joins, still⟩
  · rw [taken] at unlocked
    cases unlocked

-- `DisconnectTool` has started the thread, which has not locked the mutex yet when
-- the timeout is changed.
theorem timeout_change_deadlocks : ∃ s, Reachable connectionModel s ∧ s.Deadlocked := by
  obtain ⟨s, reach, found⟩ := exec_finds connectionModel
    [.call (.createTool true true true), .call (.connectToolLocal false), .ui .go,
      .thread (.creates .success fun _ => .success), .thread (.connects true), .callback .onRouterConnected,
      .call .disconnectTool, .ui .go, .call (.setDisableClientTimeout true), .ui .go]
    (fun s => s.ui = .setTimeoutJoin ∧ s.mustLock) (by decide)
  exact ⟨s, reach, by simpa only [State.Deadlocked, Bool.decide_and, Bool.and_eq_true, decide_eq_true_eq] using found⟩

end RadeonPanel.Frontend.Connection

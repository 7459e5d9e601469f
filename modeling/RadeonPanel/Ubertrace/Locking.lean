import RadeonPanel.Ubertrace.Footprint

set_option autoImplicit false

namespace RadeonPanel.Ubertrace

open Interleaving

def InitializePc.holdsLock : InitializePc → Bool
  | .lock => false
  | _ => true

def HandleDriverStatePc.holdsLock : HandleDriverStatePc → Bool
  | .lock => false
  | _ => true

def RequestBeginTracePc.holdsLock : RequestBeginTracePc → Bool
  | .lock => false
  | _ => true

def CallerPc.holdsLock : CallerPc → Bool
  | .initializeUser _ _ pc => pc.holdsLock
  | .handleDriverState _ _ pc => pc.holdsLock
  | .requestBeginTrace _ _ pc => pc.holdsLock
  | _ => false

def PollerPc.holdsLock : PollerPc → Bool
  | .success _ | .postProcess _ | .abort _ | .cancel _ => true
  | _ => false

def State.holds (s : State) : Task → Prop
  | .caller id => (s.callers id).holdsLock = true
  | .poller id => (s.pollers id).pc.holdsLock = true

def State.Locked (s : State) : Prop := Guarded s.mutex s.holds

theorem free_iff (s : State) : s.free = true ↔ s.mutex = none := by
  simp only [State.free, decide_eq_true_eq]

theorem enter_outside_lock (call : Call) : (CallerPc.enter call).holdsLock = false := by
  cases call <;> rfl

theorem initialize_lock (o : UbertraceOrchestrator) (free enable : Bool) (user : UbertraceUserId)
    (pc : InitializePc) (answer : Answer) (e : Effect InitializePc)
    (next : initializeStep o free user enable pc answer = some e) :
    e.lock.Legal (free = true) (pc.holdsLock = true) ((e.next.elim false (·.holdsLock)) = true) := by
  revert next
  fun_cases initializeStep o free user enable pc answer
  all_goals intro next
  all_goals cases next
  all_goals simp_all [LockUse.Legal, InitializePc.holdsLock]

theorem disconnect_lock (o : UbertraceOrchestrator) (free joined : Bool) (user : UbertraceUserId)
    (pc : DisconnectPc) (answer : Answer) (e : Effect DisconnectPc)
    (next : disconnectStep o free joined user pc answer = some e) : e.lock = .keep := by
  revert next
  fun_cases disconnectStep o free joined user pc answer
  all_goals intro next
  all_goals cases next
  all_goals rfl

theorem handle_driver_state_lock (o : UbertraceOrchestrator) (free : Bool) (user : UbertraceUserId)
    (state : DdDriverState) (pc : HandleDriverStatePc) (answer : Answer) (e : Effect HandleDriverStatePc)
    (next : handleDriverStateStep o free user state pc answer = some e) :
    e.lock.Legal (free = true) (pc.holdsLock = true) ((e.next.elim false (·.holdsLock)) = true) := by
  revert next
  fun_cases handleDriverStateStep o free user state pc answer
  all_goals intro next
  all_goals cases next
  all_goals simp_all [LockUse.Legal, HandleDriverStatePc.holdsLock]

theorem request_abort_trace_lock (o : UbertraceOrchestrator) (free : Bool) (user : UbertraceUserId)
    (pc : RequestAbortTracePc) (answer : Answer) (e : Effect RequestAbortTracePc)
    (next : requestAbortTraceStep o free user pc answer = some e) : e.lock = .keep := by
  revert next
  fun_cases requestAbortTraceStep o free user pc answer
  all_goals intro next
  all_goals cases next
  all_goals rfl

theorem request_begin_trace_lock (o : UbertraceOrchestrator) (free joined : Bool) (fresh thread : Nat)
    (user : UbertraceUserId) (config : UbertraceCaptureConfig) (pc : RequestBeginTracePc) (answer : Answer)
    (e : Effect RequestBeginTracePc)
    (next : requestBeginTraceStep o free joined fresh thread user config pc answer = some e) :
    e.lock.Legal (free = true) (pc.holdsLock = true) ((e.next.elim false (·.holdsLock)) = true) := by
  revert next
  fun_cases requestBeginTraceStep o free joined fresh thread user config pc answer
  all_goals intro next
  all_goals cases next
  all_goals simp_all [LockUse.Legal, RequestBeginTracePc.holdsLock]

theorem in_call_holds_lock {π : Type} (e : Effect π) (into : π → CallerPc) (inside : π → Bool)
    (agree : ∀ pc, (into pc).holdsLock = inside pc) :
    (e.inCall into).pc.holdsLock = e.next.elim false inside := by
  cases nextEq : e.next with
  | none => simp only [Effect.inCall, nextEq, Option.elim_none]; rfl
  | some pc => simp only [Effect.inCall, nextEq, Option.elim_some, agree]

theorem keep_lock {π : Type} (e : Effect π) (into : π → CallerPc) (keep : e.lock = .keep) (free : Prop)
    (outside : ∀ pc, (into pc).holdsLock = false) :
    e.lock.Legal free (false = true) ((e.inCall into).pc.holdsLock = true) := by
  rw [in_call_holds_lock e into (fun _ => false) outside, keep]
  cases e.next <;> exact Iff.rfl

theorem caller_lock (o : UbertraceOrchestrator) (free joined : Bool) (fresh thread : Nat)
    (pc : CallerPc) (answer : Answer) (e : CallerEffect)
    (next : callerStep o free joined fresh thread pc answer = some e) :
    e.lock.Legal (free = true) (pc.holdsLock = true) (e.pc.holdsLock = true) := by
  refine caller_rule o free joined fresh thread
    (fun pc _ e => e.lock.Legal (free = true) (pc.holdsLock = true) (e.pc.holdsLock = true))
    ?_ ?_ ?_ ?_ ?_ (fun _ _ => Iff.rfl) (fun _ => Iff.rfl) (fun _ _ _ => Iff.rfl) (fun _ _ _ _ _ => Iff.rfl)
    (fun _ _ _ => Iff.rfl) pc answer e next
  · intro user enable pc answer e inside
    rw [in_call_holds_lock e _ InitializePc.holdsLock (fun _ => rfl)]
    exact initialize_lock o free enable user pc answer e inside
  · intro user pc answer e inside
    exact keep_lock e _ (disconnect_lock o free joined user pc answer e inside) _ (fun _ => rfl)
  · intro user state pc answer e inside
    rw [in_call_holds_lock e _ HandleDriverStatePc.holdsLock (fun _ => rfl)]
    exact handle_driver_state_lock o free user state pc answer e inside
  · intro user pc answer e inside
    exact keep_lock e _ (request_abort_trace_lock o free user pc answer e inside) _ (fun _ => rfl)
  · intro user config pc answer e inside
    have legal := request_begin_trace_lock o free joined fresh thread user config pc answer e inside
    rwa [← in_call_holds_lock e (.requestBeginTrace user config) RequestBeginTracePc.holdsLock (fun _ => rfl)] at legal

theorem poller_lock (o : UbertraceOrchestrator) (free : Bool) (thread : Nat) (p : Poller)
    (e : PollerEffect) (move : PollerMove o free thread p e) :
    e.lock.Legal (free = true) (p.pc.holdsLock = true) (e.poller.pc.holdsLock = true) := by
  cases move with
  | complete user collected here unlocked =>
      cases collected <;> simp [LockUse.Legal, PollerPc.holdsLock, here, unlocked]
  | _ => simp_all [LockUse.Legal, PollerPc.holdsLock]

theorem spawned_outside_lock (s : State) (id thread : Nat) (e : CallerEffect) {answer : Answer}
    (effect : s.callerEffect id answer = some e) (numbered : s.Numbered) :
    (s.applyCaller id e).holds (.poller thread) ↔ s.holds (.poller thread) := by
  cases spawned : e.spawned with
  | none => simp only [State.holds, State.applyCaller, spawned, Option.elim_none]
  | some p =>
      obtain ⟨user, config, capture, _, rfl⟩ := caller_spawned _ _ _ _ _ _ _ _ _ effect spawned
      by_cases fresh : thread = s.threads
      · subst fresh
        simp only [State.holds, State.applyCaller, spawned, Option.elim_some, Function.update_self,
          numbered s.threads (le_refl _)]
        exact Iff.rfl
      · simp only [State.holds, State.applyCaller, spawned, Option.elim_some, Function.update_of_ne fresh]

-- Every step takes, keeps and gives back the mutex as its counter says.
theorem locked_step (s t : State) (a : Action) (numbered : s.Numbered) (locked : s.Locked)
    (next : step s a = some t) : t.Locked := by
  rcases step_cases s t a next with ⟨_, rfl⟩ | ⟨id, call, _, outside, rfl⟩ |
    ⟨id, answer, e, _, effect, rfl⟩ | ⟨id, answer, e, _, effect, rfl⟩
  · exact locked
  · intro task
    rw [← locked task]
    cases task with
    | poller other => exact Iff.rfl
    | caller other =>
        by_cases same : other = id
        · subst other
          simp only [State.holds, Function.update_self, enter_outside_lock, outside]
          exact Iff.rfl
        · simp only [State.holds, Function.update_of_ne same]
  · have legal := caller_lock _ _ _ _ _ _ _ _ effect
    refine guarded_step s.mutex s.holds _ (.caller id) e.lock locked ?_ ?_
    · simpa only [State.holds, State.applyCaller, Function.update_self, free_iff] using legal
    · rintro (other | other) different
      · have apart : other ≠ id := fun same => different (congrArg Task.caller same)
        simp only [State.holds, State.applyCaller, Function.update_of_ne apart]
      · exact spawned_outside_lock s id other e effect numbered
  · have legal := poller_lock _ _ _ _ _ (poller_moves _ _ _ _ _ _ effect)
    refine guarded_step s.mutex s.holds _ (.poller id) e.lock locked ?_ ?_
    · simpa only [State.holds, State.applyPoller, Function.update_self, free_iff] using legal
    · rintro (other | other) different
      · exact Iff.rfl
      · have apart : other ≠ id := fun same => different (congrArg Task.poller same)
        simp only [State.holds, State.applyPoller, Function.update_of_ne apart]

theorem reachable_locked (features : UbertraceFeatures) (s : State)
    (reach : Reachable (ubertrace features) s) : s.Locked := by
  refine reach_invariant (ubertrace features) unrestricted State.Locked ?_ ?_ s reach
  · rintro (id | id) <;> exact ⟨nofun, nofun⟩
  · intro s a t before locked _ next
    exact locked_step s t a (reachable_numbered features s before) locked next

end RadeonPanel.Ubertrace

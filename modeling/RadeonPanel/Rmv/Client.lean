import Mathlib.Data.List.Count
import RadeonPanel.Base.Runs
import RadeonPanel.Ubertrace.Types

set_option autoImplicit false

namespace RadeonPanel.Rmv

open Interleaving RadeonPanel.Ubertrace

-- The answer of the driver's QueryStatus.
inductive MemoryTraceStatus where
  | failed
  | unknown
  | running
  | other
deriving DecidableEq, Repr

def getMemoryTracingClientState : MemoryTraceStatus → ClientState
  | .failed => .error
  | .running => .capturing
  | .unknown => .error
  | .other => .done

-- The driver's thread calls Initialize, HandleDriverState and Disconnect; any
-- number of other threads dump or abort.
inductive Who where
  | driver
  | caller (id : Nat)
deriving DecidableEq, Repr

-- What EndTracing is called for.
inductive Purpose where
  | dump
  | abort
  | leave
deriving DecidableEq, Repr

-- In front of each access to the client's state or to the driver.
inductive Pc where
  | outside
  | enable
  | enabled (succeeded : Bool)
  | initialized (succeeded : Bool) (new : ClientState)
  | checkCapturing
  | endTracing (purpose : Purpose)
  | queryEnded (purpose : Purpose)
  | setEnded (purpose : Purpose) (new : ClientState) (succeeded : Bool)
  | checkDone
  | transfer
  | report (status : TraceCompletionStatus)
  | setDone
  | disconnect
  | checkError
  | checkReached
  | disableTracing
deriving DecidableEq, Repr

-- Only a bound client can be found by callers.
inductive Phase where
  | created
  | bound
  | failed
  | disconnected
deriving DecidableEq, Repr

inductive Event where
  | endedTracing (who : Who) (purpose : Purpose) (succeeded : Bool)
  | passedDone (who : Who)
  | transferred (who : Who) (succeeded : Bool)
  | traceCompleted (who : Who) (status : TraceCompletionStatus)
  | disabledTracing
deriving DecidableEq, Repr

-- `log` is newest first.
structure Client where
  state : ClientState
  hasReachedPostDeviceInit : Bool
  phase : Phase
  log : List Event
deriving DecidableEq, Repr

def Client.record (c : Client) (event : Event) : Client := { c with log := event :: c.log }

-- Of the driver; a step reads the part that it asks for. `chunksWritten` is the
-- result of the additional chunk writer.
structure Answer where
  accepted : Bool
  status : MemoryTraceStatus
  chunksWritten : Bool
deriving DecidableEq, Repr

-- A dump on disconnect goes on with the rest of Disconnect.
def afterDump : Who → Pc
  | .driver => .checkReached
  | .caller _ => .outside

def afterEnd (who : Who) (succeeded : Bool) : Purpose → Pc
  | .dump => if succeeded then .checkDone else afterDump who
  | .abort => if succeeded then .report .aborted else .outside
  | .leave => .disableTracing

def dumpStatus (answer : Answer) : TraceCompletionStatus :=
  if answer.accepted && answer.chunksWritten then .completed else .error

def Client.run (who : Who) (answer : Answer) (c : Client) : Pc → Option (Client × Pc)
  | .outside => none
  | .enable => some (c, .enabled answer.accepted)
  | .enabled succeeded => some (c, .initialized succeeded (getMemoryTracingClientState answer.status))
  | .initialized succeeded new =>
      some ({ c with state := new, phase := if succeeded then .bound else .failed }, .outside)
  | .checkCapturing => some (c, if c.state ≠ .capturing then afterDump who else .endTracing .dump)
  | .endTracing purpose =>
      some (c.record (.endedTracing who purpose answer.accepted),
        if answer.accepted then .queryEnded purpose else .setEnded purpose .error false)
  | .queryEnded purpose => some (c, .setEnded purpose (getMemoryTracingClientState answer.status) true)
  | .setEnded purpose new succeeded => some ({ c with state := new }, afterEnd who succeeded purpose)
  | .checkDone =>
      if c.state ≠ .done then some (c, afterDump who)
      else some (c.record (.passedDone who), .transfer)
  | .transfer => some (c.record (.transferred who answer.accepted), .report (dumpStatus answer))
  | .report status =>
      some (c.record (.traceCompleted who status), if status = .aborted then .outside else .setDone)
  | .setDone => some ({ c with state := .done }, afterDump who)
  | .disconnect =>
      some (c, if getMemoryTracingClientState answer.status = .capturing then .checkError else .checkReached)
  | .checkError =>
      some (c, if c.hasReachedPostDeviceInit ∧ c.state ≠ .error then .checkCapturing else .checkReached)
  | .checkReached => some (c, if !c.hasReachedPostDeviceInit then .endTracing .leave else .disableTracing)
  | .disableTracing => some (c.record .disabledTracing, .outside)

inductive Call where
  | initializeClient
  | handleDriverState (state : DdDriverState)
  | disconnect
  | requestDump
  | requestAbortTrace
deriving DecidableEq, Repr

-- OnDriverDisconnected takes the client away before it calls Disconnect.
def Client.start (c : Client) : Who → Call → Option (Client × Pc)
  | .driver, .initializeClient => if c.phase = .created then some (c, .enable) else none
  | .driver, .handleDriverState state =>
      if c.phase = .bound then
        some ({ c with
          hasReachedPostDeviceInit := c.hasReachedPostDeviceInit || decide (state = .postDeviceInit) }, .outside)
      else none
  | .driver, .disconnect => if c.phase = .bound then some ({ c with phase := .disconnected }, .disconnect) else none
  | .caller _, .requestDump => if c.phase = .bound then some (c, .checkCapturing) else none
  | .caller _, .requestAbortTrace => if c.phase = .bound then some (c, .endTracing .abort) else none
  | _, _ => none

structure State where
  client : Client
  pcs : Who → Pc

inductive Action where
  | start (who : Who) (call : Call)
  | run (who : Who) (answer : Answer)
  | writing (who : Who)
deriving DecidableEq, Repr

-- During a transfer the writer may report that it is writing.
def State.next (s : State) : Action → Option State
  | .start who call =>
      if s.pcs who = .outside then
        (s.client.start who call).map fun r => ⟨r.1, Function.update s.pcs who r.2⟩
      else none
  | .run who answer =>
      (s.client.run who answer (s.pcs who)).map fun r => ⟨r.1, Function.update s.pcs who r.2⟩
  | .writing who =>
      if s.pcs who = .transfer then some { s with client := { s.client with state := .dumping } } else none

def rmvClient : Machine State Action :=
  ⟨⟨⟨.idle, false, .created, []⟩, fun _ => .outside⟩, State.next⟩

-- Whose calls got to the branch that reports, who transferred and who reported.
def decides : Event → Option Who
  | .endedTracing who .abort true => some who
  | .passedDone who => some who
  | _ => none

def transfers : Event → Option Who
  | .transferred who _ => some who
  | _ => none

def reports : Event → Option (Who × TraceCompletionStatus)
  | .traceCompleted who status => some (who, status)
  | _ => none

def deciders (log : List Event) : List Who := log.filterMap decides

def transferrers (log : List Event) : List Who := log.filterMap transfers

def completions (log : List Event) : List (Who × TraceCompletionStatus) := log.filterMap reports

-- An abort whose EndTracing succeeds, or a dump that finds the client done, comes
-- to it before any other call did.
def decidesFirst (s : State) : Action → Bool
  | .run who answer =>
      match s.pcs who with
      | .endTracing .abort => !answer.accepted || (deciders s.client.log).isEmpty
      | .checkDone => decide (s.client.state ≠ .done) || (deciders s.client.log).isEmpty
      | _ => true
  | .start _ _ => true
  | .writing _ => true

def reporters (log : List Event) : List Who := (completions log).map Prod.fst

-- Past the branch that reports, and not yet there.
def owesReport : Pc → Nat
  | .queryEnded .abort => 1
  | .setEnded .abort _ true => 1
  | .transfer => 1
  | .report _ => 1
  | _ => 0

def owesTransfer : Pc → Nat
  | .transfer => 1
  | _ => 0

-- Every decision of a thread is a report, made or still owed.
structure Settles (who : Who) (pc : Pc) (log : List Event) : Prop where
  reported : (reporters log).count who + owesReport pc = (deciders log).count who
  transferred : (transferrers log).count who + owesTransfer pc ≤ (deciders log).count who

theorem settles_silent (who : Who) (before after : Pc) (log : List Event) (settles : Settles who before log)
    (report : owesReport after = owesReport before) (transfer : owesTransfer after = owesTransfer before) :
    Settles who after log :=
  ⟨report ▸ settles.reported, transfer ▸ settles.transferred⟩

theorem filter_map_cons {α β : Type} (f : α → Option β) (a : α) (rest : List α) :
    (a :: rest).filterMap f = (f a).toList ++ rest.filterMap f := by
  cases found : f a <;> simp [found]

theorem settles_recorded (who : Who) (before after : Pc) (event : Event) (log : List Event)
    (settles : Settles who before log)
    (report : ((reports event).toList.map Prod.fst).count who + owesReport after =
      owesReport before + (decides event).toList.count who)
    (transfer : (transfers event).toList.count who + owesTransfer after ≤
      owesTransfer before + (decides event).toList.count who) : Settles who after (event :: log) := by
  obtain ⟨reported, transferred⟩ := settles
  constructor
  · rw [reporters, completions] at reported ⊢
    rw [deciders] at reported ⊢
    rw [filter_map_cons, filter_map_cons, List.map_append, List.count_append, List.count_append]
    omega
  · rw [transferrers, deciders] at transferred ⊢
    rw [filter_map_cons, filter_map_cons, List.count_append, List.count_append]
    omega

theorem after_dump_owes (who : Who) : owesReport (afterDump who) = 0 ∧ owesTransfer (afterDump who) = 0 := by
  cases who <;> exact ⟨rfl, rfl⟩

theorem run_settles (who : Who) (answer : Answer) (c d : Client) (pc next : Pc)
    (run : c.run who answer pc = some (d, next)) (settles : Settles who pc c.log) :
    Settles who next d.log := by
  obtain ⟨noReport, noTransfer⟩ := after_dump_owes who
  cases pc with
  | outside => cases run
  | enable | enabled | initialized =>
      cases run
      exact settles_silent who _ _ _ settles rfl rfl
  | checkCapturing =>
      cases run
      split
      · exact settles_silent who _ _ _ settles noReport noTransfer
      · exact settles_silent who _ _ _ settles rfl rfl
  | endTracing purpose =>
      cases run
      apply settles_recorded who _ _ _ _ settles
      · cases purpose <;> cases answer.accepted <;> simp [reports, decides, owesReport]
      · cases purpose <;> cases answer.accepted <;> simp [transfers, decides, owesTransfer]
  | queryEnded purpose =>
      cases run
      cases purpose <;> exact settles_silent who _ _ _ settles rfl rfl
  | setEnded purpose new succeeded =>
      cases run
      cases purpose with
      | dump =>
          cases succeeded with
          | true => exact settles_silent who _ _ _ settles rfl rfl
          | false => exact settles_silent who _ _ _ settles noReport noTransfer
      | abort | leave => cases succeeded <;> exact settles_silent who _ _ _ settles rfl rfl
  | checkDone =>
      rw [Client.run] at run
      split at run
      · cases run
        exact settles_silent who _ _ _ settles noReport noTransfer
      · cases run
        exact settles_recorded who _ _ _ _ settles (by simp [reports, decides, owesReport])
          (by simp [transfers, decides, owesTransfer])
  | transfer =>
      cases run
      exact settles_recorded who _ _ _ _ settles (by simp [reports, decides, owesReport])
        (by simp [transfers, decides, owesTransfer])
  | report status =>
      cases run
      apply settles_recorded who _ _ _ _ settles
      · split <;> simp [reports, decides, owesReport]
      · split <;> simp [transfers, decides, owesTransfer]
  | setDone =>
      cases run
      exact settles_silent who _ _ _ settles noReport noTransfer
  | disconnect | checkError | checkReached =>
      cases run
      split <;> exact settles_silent who _ _ _ settles rfl rfl
  | disableTracing =>
      cases run
      exact settles_recorded who _ _ _ _ settles (by simp [reports, decides, owesReport])
        (by simp [transfers, decides, owesTransfer])

theorem run_elsewhere (who other : Who) (answer : Answer) (c d : Client) (pc next here : Pc)
    (run : c.run who answer pc = some (d, next)) (apart : other ≠ who) (settles : Settles other here c.log) :
    Settles other here d.log := by
  have recorded (event : Event) (reported : ((reports event).toList.map Prod.fst).count other = 0)
      (transferred : (transfers event).toList.count other = 0)
      (decided : (decides event).toList.count other = 0) : Settles other here (event :: c.log) :=
    settles_recorded other here here event c.log settles (by omega) (by omega)
  cases pc with
  | outside => cases run
  | endTracing purpose =>
      cases run
      apply recorded _ (by simp [reports]) (by simp [transfers])
      cases purpose <;> cases answer.accepted <;> simp [decides, apart.symm]
  | checkDone =>
      rw [Client.run] at run
      split at run
      · cases run
        exact settles
      · cases run
        exact recorded _ (by simp [reports]) (by simp [transfers]) (by simp [decides, apart.symm])
  | transfer =>
      cases run
      exact recorded _ (by simp [reports]) (by simp [transfers, apart.symm]) (by simp [decides])
  | report status =>
      cases run
      exact recorded _ (by simp [reports, apart.symm]) (by simp [transfers]) (by simp [decides])
  | disableTracing =>
      cases run
      exact recorded _ (by simp [reports]) (by simp [transfers]) (by simp [decides])
  | _ =>
      cases run
      exact settles

theorem start_settles (who : Who) (call : Call) (c d : Client) (pc : Pc) (start : c.start who call = some (d, pc)) :
    d.log = c.log ∧ owesReport pc = 0 ∧ owesTransfer pc = 0 := by
  cases who <;> cases call <;> simp only [Client.start, Option.ite_none_right_eq_some, reduceCtorEq] at start <;>
    (obtain ⟨_, same⟩ := start; cases same; exact ⟨rfl, rfl, rfl⟩)

def State.Settled (s : State) : Prop := ∀ who, Settles who (s.pcs who) s.client.log

theorem settled_step (s t : State) (a : Action) (settled : s.Settled) (next : s.next a = some t) : t.Settled := by
  intro who
  cases a with
  | start starter call =>
      rw [State.next, Option.ite_none_right_eq_some] at next
      obtain ⟨outside, started⟩ := next
      obtain ⟨⟨client, pc⟩, start, rfl⟩ := Option.map_eq_some_iff.mp started
      obtain ⟨sameLog, noReport, noTransfer⟩ := start_settles starter call _ _ _ start
      simp only [sameLog]
      by_cases same : who = starter
      · subst same
        rw [Function.update_self]
        have idle := settled who
        rw [outside] at idle
        exact settles_silent who _ _ _ idle noReport noTransfer
      · rw [Function.update_of_ne same]
        exact settled who
  | run runner answer =>
      obtain ⟨⟨client, pc⟩, run, rfl⟩ := Option.map_eq_some_iff.mp next
      by_cases same : who = runner
      · subst same
        simp only [Function.update_self]
        exact run_settles who answer _ _ _ _ run (settled who)
      · simp only [Function.update_of_ne same]
        exact run_elsewhere runner who answer _ _ _ _ _ run same (settled who)
  | writing writer =>
      rw [State.next, Option.ite_none_right_eq_some] at next
      obtain ⟨_, same⟩ := next
      cases same
      exact settled who

theorem reachable_settled (s : State) (reach : Reachable rmvClient s) : s.Settled :=
  reachable_invariant rmvClient State.Settled (fun _ => ⟨rfl, Nat.le_refl 0⟩)
    (fun s a t settled next => settled_step s t a settled next) s reach

theorem deciders_record (c : Client) (event : Event) :
    deciders (c.record event).log = (decides event).toList ++ deciders c.log := filter_map_cons decides event c.log

-- A step comes to no report, or it is the one that the condition is about.
theorem run_deciders (who : Who) (answer : Answer) (c d : Client) (pc next : Pc)
    (run : c.run who answer pc = some (d, next)) :
    deciders d.log = deciders c.log ∨
    (deciders d.log = who :: deciders c.log ∧
      (pc = .endTracing .abort ∧ answer.accepted = true ∨ pc = .checkDone ∧ c.state = .done)) := by
  cases pc with
  | outside => cases run
  | endTracing purpose =>
      cases run
      rw [deciders_record]
      cases purpose <;> cases accepted : answer.accepted <;> simp [decides]
  | checkDone =>
      rw [Client.run] at run
      split at run
      · cases run
        exact .inl rfl
      · rename_i done
        cases run
        exact .inr ⟨rfl, .inr ⟨rfl, not_not.mp done⟩⟩
  | _ =>
      cases run
      exact .inl rfl

theorem decides_once (s t : State) (a : Action) (few : (deciders s.client.log).length ≤ 1)
    (first : decidesFirst s a = true) (next : s.next a = some t) : (deciders t.client.log).length ≤ 1 := by
  cases a with
  | start starter call =>
      rw [State.next, Option.ite_none_right_eq_some] at next
      obtain ⟨⟨client, pc⟩, start, rfl⟩ := Option.map_eq_some_iff.mp next.2
      simpa only [(start_settles starter call _ _ _ start).1] using few
  | run runner answer =>
      obtain ⟨⟨client, pc⟩, run, rfl⟩ := Option.map_eq_some_iff.mp next
      obtain same | ⟨more, decided⟩ := run_deciders runner answer _ _ _ _ run
      · simpa only [same] using few
      · have none : deciders s.client.log = [] := by
          obtain ⟨aborts, accepted⟩ | ⟨dumps, done⟩ := decided
          · simpa [decidesFirst, aborts, accepted] using first
          · simpa [decidesFirst, dumps, done] using first
        simp only [more, none, List.length_singleton, Nat.le_refl]
  | writing writer =>
      rw [State.next, Option.ite_none_right_eq_some] at next
      obtain ⟨_, same⟩ := next
      cases same
      exact few

theorem at_most_deciders (s : State) (settled : s.Settled) :
    (completions s.client.log).length ≤ (deciders s.client.log).length ∧
    (transferrers s.client.log).length ≤ (deciders s.client.log).length := by
  have reported : (reporters s.client.log).Subperm (deciders s.client.log) := by
    apply List.subperm_ext_iff.mpr
    intro who _
    have settles := (settled who).reported
    omega
  have transferred : (transferrers s.client.log).Subperm (deciders s.client.log) := by
    apply List.subperm_ext_iff.mpr
    intro who _
    have settles := (settled who).transferred
    omega
  have sameLength : (reporters s.client.log).length = (completions s.client.log).length := List.length_map _
  exact ⟨sameLength ▸ reported.length_le, transferred.length_le⟩

def ends : Answer := ⟨true, .other, true⟩

def runs (who : Who) (steps : Nat) : List Action := List.replicate steps (.run who ends)

def initializes : List Action :=
  [.start .driver .initializeClient, .run .driver ends, .run .driver ⟨true, .running, true⟩, .run .driver ends]

end RadeonPanel.Rmv

import Mathlib.Data.List.Chain
import RadeonPanel.TraceSource.Bookkeeping
import RadeonPanel.TraceSource.Events

set_option autoImplicit false

namespace RadeonPanel.TraceSource

open EventChannel Interleaving RadeonPanel.Ubertrace

-- The call has changed a list, and its update is still to come.
def Pc.owesUpdate : Pc → Bool
  | .connectedUpdate | .disconnectClient _ | .disconnectedUpdate | .boundUpdate _ => true
  | _ => false

def Change.client : Change → Option ClientId
  | .idle => none
  | .posting client _ | .checking client _ | .updating client => some client

def State.ChangePending (s : State) : Prop :=
  (∃ id, (s.calls id).owesUpdate = true) ∨
  (∃ thread, ∃ b ∈ s.source.clients, (s.changes thread).client = some b.client) ∨
  0 < s.setters

def Follows (earlier later : TraceSourceStatusEventArgs) : Prop := later.oldStatus = earlier.newStatus

instance decidableFollows (earlier later : TraceSourceStatusEventArgs) : Decidable (Follows earlier later) :=
  inferInstanceAs (Decidable (later.oldStatus = earlier.newStatus))

-- What every listener hears is a chain. When nothing is pending or on its way,
-- the last status it has heard is the one that QueryStatus tells, and in the
-- fields that the comparison leaves out, too, unless they have changed silently.
def State.StatusFollowed (s : State) : Prop :=
  (∀ listener, (s.status.heard listener).IsChain Follows) ∧
  (¬ s.ChangePending → s.status.Drained → ∀ listener event, (s.status.heard listener).getLast? = some event →
    ∀ glance, event.newStatus.equal (s.queryStatus glance).newStatus = true ∧
      (s.silent = false → event.newStatus = (s.queryStatus glance).newStatus))

-- No step of PerformProcessing reports progress.
def keepsStatus : Action → Bool
  | .report _ (.performProcessing _) _ => false
  | _ => true

structure Chained (pushed : List TraceSourceStatusEventArgs) (previous : TraceSourceStatus) : Prop where
  chain : pushed.IsChain Follows
  last : ∀ event, pushed.getLast? = some event → event.newStatus = previous

theorem push_chained (pushed : List TraceSourceStatusEventArgs) (previous new : TraceSourceStatus)
    (chained : Chained pushed previous) : Chained (pushed ++ [⟨new, previous⟩]) new := by
  refine ⟨?_, ?_⟩
  · refine chained.chain.append (List.isChain_singleton _) fun earlier last later first => ?_
    cases first
    exact (chained.last earlier last).symm
  · intro event last
    rw [List.getLast?_concat] at last
    cases last
    rfl

-- What is remembered as the previous status is what would be built now.
structure State.CaughtUp (s : State) : Prop where
  view : TraceSourceStatus.SameView s.source.previousStatus (s.queryStatus .present).newStatus
  whole : s.silent = false → s.source.previousStatus = (s.queryStatus .present).newStatus

structure State.Tells (s : State) : Prop where
  registered : ∀ b ∈ s.source.clients, s.registered b.client = true
  chained : Chained s.status.pushed s.source.previousStatus
  caughtUp : ¬ s.ChangePending → s.CaughtUp

-- A change that is not finished is the only thing that a read can miss.
theorem read_present (s : State) (missed : ClientId → Option Nat) (client : ClientId)
    (still : ∀ thread, (s.changes thread).before client = none) : s.stateRead missed client = s.states client := by
  unfold State.stateRead
  split
  · rfl
  · rename_i thread _
    rw [still thread]
    rfl

theorem reads_agree (s : State) (glance : Glance)
    (still : ∀ b ∈ s.source.clients, ∀ thread, (s.changes thread).before b.client = none) :
    BaseTraceSource.Agree s.source.clients (s.reads glance) (s.reads .present) := by
  refine ⟨?_, ?_, ?_, fun _ _ => rfl⟩
  · exact fun b member => read_present s glance.stage b.client (still b member)
  · exact fun b member => read_present s glance.reason b.client (still b member)
  · exact fun b member => read_present s glance.connection b.client (still b member)

theorem query_present (s : State) (glance : Glance)
    (still : ∀ b ∈ s.source.clients, ∀ thread, (s.changes thread).before b.client = none) :
    (s.queryStatus glance).newStatus = (s.queryStatus .present).newStatus :=
  BaseTraceSource.build_congr s.source _ _ (reads_agree s glance still)

theorem before_client (change : Change) (client : ClientId) (other : change.client ≠ some client) :
    change.before client = none := by
  cases change with
  | idle | updating => rfl
  | posting owner old | checking owner old =>
      have apart : owner ≠ client := by simpa [Change.client] using other
      rw [Change.before, if_neg apart]

theorem nothing_missed (s : State) (done : ¬ s.ChangePending) :
    ∀ b ∈ s.source.clients, ∀ thread, (s.changes thread).before b.client = none := by
  intro b member thread
  apply before_client
  intro changing
  exact done (.inr (.inl ⟨thread, b, member, changing⟩))

theorem update_tells (s : State) (glance : Glance) (tells : s.Tells) :
    Chained (s.updateTraceSourceStatus glance).status.pushed (s.updateTraceSourceStatus glance).source.previousStatus ∧
    ((∀ b ∈ s.source.clients, ∀ thread, (s.changes thread).before b.client = none) →
      (s.updateTraceSourceStatus glance).CaughtUp) := by
  refine ⟨push_chained _ _ _ tells.chained, fun still => ?_⟩
  have now := query_present s glance still
  have same : (s.updateTraceSourceStatus glance).source.previousStatus =
      ((s.updateTraceSourceStatus glance).queryStatus .present).newStatus := now
  refine ⟨?_, fun _ => same⟩
  rw [same]
  exact ⟨rfl, rfl, rfl, rfl, rfl⟩

theorem caught_same (s t : State) (caught : s.CaughtUp) (previous : t.source.previousStatus = s.source.previousStatus)
    (silent : t.silent = s.silent)
    (built : (t.queryStatus .present).newStatus = (s.queryStatus .present).newStatus) : t.CaughtUp := by
  constructor
  · rw [previous, built]
    exact caught.view
  · rw [previous, built, silent]
    exact caught.whole

-- Changes that show in a field that statuses are not compared in.
theorem caught_silent (s t : State) (caught : s.CaughtUp) (previous : t.source.previousStatus = s.source.previousStatus)
    (silent : t.silent = true) (clients : t.source.clients = s.source.clients)
    (unsupported : t.source.unsupportedClients = s.source.unsupportedClients) (states : t.states = s.states) :
    t.CaughtUp := by
  have same : TraceSourceStatus.SameView (s.queryStatus .present).newStatus (t.queryStatus .present).newStatus := by
    apply BaseTraceSource.view_congr s.source t.source _ _ clients unsupported
    · intro b _
      exact congrFun states.symm b.client
    · intro b _
      exact congrFun states.symm b.client
  constructor
  · rw [previous]
    exact ⟨caught.view.connections.trans same.connections, caught.view.dumped.trans same.dumped,
      caught.view.total.trans same.total, caught.view.stage.trans same.stage,
      caught.view.progress.trans same.progress⟩
  · rw [silent]
    intro wrong
    cases wrong

theorem tells_kept (s t : State) (tells : s.Tells) (clients : t.source.clients = s.source.clients)
    (registered : t.registered = s.registered) (pushed : t.status.pushed = s.status.pushed)
    (previous : t.source.previousStatus = s.source.previousStatus)
    (caughtUp : ¬ t.ChangePending → t.CaughtUp) : t.Tells := by
  refine ⟨?_, ?_, caughtUp⟩
  · rw [clients, registered]
    exact tells.registered
  · rw [pushed, previous]
    exact tells.chained

-- The four ways in which a step may leave `Tells` true.
theorem tells_quiet (s t : State) (tells : s.Tells) (clients : t.source.clients = s.source.clients)
    (registered : t.registered = s.registered) (pushed : t.status.pushed = s.status.pushed)
    (previous : t.source.previousStatus = s.source.previousStatus) (pending : s.ChangePending → t.ChangePending)
    (silent : t.silent = s.silent)
    (built : ¬ t.ChangePending → (t.queryStatus .present).newStatus = (s.queryStatus .present).newStatus) :
    t.Tells := by
  refine tells_kept s t tells clients registered pushed previous fun done => ?_
  have before := tells.caughtUp fun before => done (pending before)
  exact caught_same s t before previous silent (built done)

theorem tells_silent (s t : State) (tells : s.Tells) (clients : t.source.clients = s.source.clients)
    (unsupported : t.source.unsupportedClients = s.source.unsupportedClients) (states : t.states = s.states)
    (registered : t.registered = s.registered) (pushed : t.status.pushed = s.status.pushed)
    (previous : t.source.previousStatus = s.source.previousStatus) (pending : s.ChangePending → t.ChangePending)
    (silent : t.silent = true) : t.Tells := by
  refine tells_kept s t tells clients registered pushed previous fun done => ?_
  have before := tells.caughtUp fun before => done (pending before)
  exact caught_silent s t before previous silent clients unsupported states

theorem tells_pending (s t : State) (tells : s.Tells)
    (registered : ∀ b ∈ t.source.clients, t.registered b.client = true)
    (pushed : t.status.pushed = s.status.pushed) (previous : t.source.previousStatus = s.source.previousStatus)
    (pending : t.ChangePending) : t.Tells := by
  refine ⟨registered, ?_, fun done => absurd pending done⟩
  rw [pushed, previous]
  exact tells.chained

-- `t` is the state after the update apart from the place of the thread that made it.
theorem tells_update (s t : State) (glance : Glance) (tells : s.Tells)
    (source : t.source = (s.updateTraceSourceStatus glance).source) (status : t.status = (s.updateTraceSourceStatus glance).status)
    (registered : t.registered = s.registered) (states : t.states = s.states)
    (abortSupported : t.abortSupported = s.abortSupported) (silent : t.silent = false)
    (missed : ∀ thread client, (t.changes thread).before client = none → (s.changes thread).before client = none) :
    t.Tells := by
  obtain ⟨chained, caughtUp⟩ := update_tells s glance tells
  refine ⟨?_, ?_, fun done => ?_⟩
  · rw [source, registered]
    exact tells.registered
  · rw [source, status]
    exact chained
  · have still : ∀ b ∈ s.source.clients, ∀ thread, (s.changes thread).before b.client = none := by
      intro b member thread
      apply missed
      apply nothing_missed t done
      rw [source]
      exact member
    apply caught_same (s.updateTraceSourceStatus glance) t (caughtUp still) (by rw [source]) silent
    simp only [State.queryStatus, State.reads, source, abortSupported]
    have sameStates : t.stateRead (fun _ => none) = (s.updateTraceSourceStatus glance).stateRead fun _ => none :=
      funext fun client => congrFun states client
    simp only [Glance.present, sameStates]
    rfl

theorem pending_moved (s t : State) (id : DdConnectionId) (pc : Pc) (calls : t.calls = Function.update s.calls id pc)
    (quiet : (s.calls id).owesUpdate = false) (clients : t.source.clients = s.source.clients)
    (changes : t.changes = s.changes) (setters : t.setters = s.setters) (pending : s.ChangePending) :
    t.ChangePending := by
  rcases pending with ⟨other, owing⟩ | ⟨thread, b, member, changing⟩ | setting
  · refine .inl ⟨other, ?_⟩
    rw [calls]
    by_cases same : other = id
    · rw [same, quiet] at owing
      cases owing
    · rw [Function.update_of_ne same]
      exact owing
  · refine .inr (.inl ⟨thread, b, ?_, ?_⟩)
    · rw [clients]
      exact member
    · rw [changes]
      exact changing
  · rw [← setters] at setting
    exact .inr (.inr setting)

theorem owing_pending (t : State) (id : DdConnectionId) (owes : (t.calls id).owesUpdate = true) : t.ChangePending :=
  .inl ⟨id, owes⟩

-- A step of a call that changes nothing that a status shows.
theorem tells_passed (s : State) (id : DdConnectionId) (after : Pc) (connected : DdConnectionId → Bool)
    (lives : List Life) (tells : s.Tells) (quiet : (s.calls id).owesUpdate = false) :
    ({ s with calls := Function.update s.calls id after, connected := connected, lives := lives } : State).Tells := by
  have pending := pending_moved s { s with calls := Function.update s.calls id after } id after rfl quiet rfl rfl rfl
  exact tells_quiet s _ tells rfl rfl rfl rfl pending rfl fun _ => rfl

theorem connect_lists (s : State) (connection : ClientConnection) (created : ClientState × Bool) :
    (s.connect connection created).source.clients = s.source.clients ∧
    (s.connect connection created).registered = s.registered ∧
    (s.connect connection created).status = s.status ∧
    (s.connect connection created).source.previousStatus = s.source.previousStatus := by
  unfold State.connect
  split <;> exact ⟨rfl, rfl, rfl, rfl⟩

theorem bind_status (s : State) (id : DdConnectionId) (b : BoundClient) (state : DdDriverState) :
    (s.bindClient id b state).1.status = s.status := by
  unfold State.bindClient
  dsimp only
  split <;> rfl

theorem tells_disconnecting (s t : State) (id : DdConnectionId) (answer : Answer) (after : Pc) (tells : s.Tells)
    (run : s.run id answer .disconnecting = some (t, after)) :
    ({ t with calls := Function.update t.calls id after } : State).Tells := by
  have result : t = { s with source := s.source.removeConnection id } ∧ after.owesUpdate = true := by
    simp only [State.run] at run
    split at run <;> cases run <;> exact ⟨rfl, rfl⟩
  obtain ⟨rfl, owes⟩ := result
  refine tells_pending s _ tells ?_ rfl rfl ?_
  · intro b member
    exact tells.registered b ((Keyed.remove_sublist _ _ _).subset member)
  · apply owing_pending _ id
    simpa only [Function.update_self] using owes

theorem tells_init (s t : State) (id : DdConnectionId) (answer : Answer) (state : DdDriverState) (after : Pc)
    (tells : s.Tells) (quiet : (s.calls id).owesUpdate = false)
    (run : s.run id answer (.initClientIfNeeded state) = some (t, after)) :
    ({ t with calls := Function.update t.calls id after } : State).Tells := by
  simp only [State.run] at run
  split at run
  · cases run
    exact tells_passed s id _ _ _ tells quiet
  · split at run
    · cases run
      exact tells_passed s id _ _ _ tells quiet
    · cases run
      exact tells_silent s _ tells rfl rfl rfl rfl rfl rfl (pending_moved s _ id _ rfl quiet rfl rfl rfl) rfl

theorem tells_bind (s t : State) (id : DdConnectionId) (b : BoundClient) (state : DdDriverState) (after : Pc) (tells : s.Tells)
    (booked : s.Booked) (pc : s.calls id = .bind b state) (result : s.bindClient id b state = (t, after)) :
    ({ t with calls := Function.update t.calls id after } : State).Tells := by
  obtain ⟨place, located, keeps⟩ := booked.tracked id
  rw [pc] at located
  subst located
  obtain ⟨bound, registered, source, _⟩ := steps_bind s id b state booked.owned keeps
  have status := bind_status s id b state
  rw [result] at bound registered source status
  have clients : t.source.clients = s.source.clients ++ [b] := congrArg BaseTraceSource.clients source
  have previous := congrArg BaseTraceSource.previousStatus source
  have registers : t.registered = Function.update s.registered b.client true := registered
  refine tells_pending s _ tells ?_ (congrArg Channel.pushed status) previous ?_
  · simp only [clients, registers]
    intro c member
    obtain old | new := List.mem_append.mp member
    · by_cases same : c.client = b.client
      · rw [same, Function.update_self]
      · rw [Function.update_of_ne same]
        exact tells.registered c old
    · rw [List.mem_singleton.mp new, Function.update_self]
  · apply owing_pending _ id
    simp only [Function.update_self, show after = .boundUpdate state from bound]
    rfl

theorem tells_run (s t : State) (id : DdConnectionId) (answer : Answer) (after : Pc) (tells : s.Tells)
    (booked : s.Booked) (run : s.run id answer (s.calls id) = some (t, after)) :
    ({ t with calls := Function.update t.calls id after } : State).Tells := by
  cases pc : s.calls id with
  | outside =>
      rw [pc] at run
      cases run
  | connected connection =>
      have quiet : (s.calls id).owesUpdate = false := by rw [pc]; rfl
      rw [pc] at run
      simp only [State.run] at run
      split at run <;> cases run <;> exact tells_passed s id _ _ _ tells quiet
  | connecting connection =>
      rw [pc] at run
      cases run
      obtain ⟨clients, registered, status, previous⟩ := connect_lists s connection answer.created
      refine tells_pending s _ tells ?_ (congrArg Channel.pushed status) previous ?_
      · simp only [clients, registered]
        exact tells.registered
      · apply owing_pending _ id
        simp [Pc.owesUpdate]
  | connectedUpdate | disconnectedUpdate | boundUpdate =>
      rw [pc] at run
      cases run
      exact tells_update s _ answer.glance tells rfl rfl rfl rfl rfl rfl fun _ _ same => same
  | disconnecting =>
      rw [pc] at run
      exact tells_disconnecting s t id answer after tells run
  | disconnectClient b =>
      rw [pc] at run
      cases run
      refine tells_pending s _ tells tells.registered rfl rfl ?_
      apply owing_pending _ id
      simp [Pc.owesUpdate]
  | initClientIfNeeded state =>
      have quiet : (s.calls id).owesUpdate = false := by rw [pc]; rfl
      rw [pc] at run
      exact tells_init s t id answer state after tells quiet run
  | initializeClient b state =>
      have quiet : (s.calls id).owesUpdate = false := by rw [pc]; rfl
      rw [pc] at run
      simp only [State.run] at run
      split at run <;> cases run <;> exact tells_passed s id _ _ _ tells quiet
  | bind b state =>
      rw [pc] at run
      exact tells_bind s t id b state after tells booked pc (Option.some.inj run)
  | getBoundClient state =>
      have quiet : (s.calls id).owesUpdate = false := by rw [pc]; rfl
      rw [pc] at run
      simp only [State.run] at run
      split at run <;> cases run <;> exact tells_passed s id _ _ _ tells quiet
  | handleDriverState client state =>
      have quiet : (s.calls id).owesUpdate = false := by rw [pc]; rfl
      rw [pc] at run
      cases run
      exact tells_passed s id _ _ _ tells quiet

theorem pending_changed (s t : State) (thread : Nat) (change : Change)
    (changes : t.changes = Function.update s.changes thread change)
    (keeps : ∀ b ∈ s.source.clients, (s.changes thread).client = some b.client → change.client = some b.client)
    (calls : t.calls = s.calls) (clients : t.source.clients = s.source.clients) (setters : t.setters = s.setters)
    (pending : s.ChangePending) : t.ChangePending := by
  rcases pending with ⟨id, owing⟩ | ⟨other, b, member, changing⟩ | setting
  · rw [← calls] at owing
    exact .inl ⟨id, owing⟩
  · refine .inr (.inl ⟨other, b, clients ▸ member, ?_⟩)
    rw [changes]
    by_cases same : other = thread
    · subst same
      rw [Function.update_self]
      exact keeps b member changing
    · rw [Function.update_of_ne same]
      exact changing
  · rw [← setters] at setting
    exact .inr (.inr setting)

theorem pending_same (s t : State) (calls : t.calls = s.calls) (clients : t.source.clients = s.source.clients)
    (changes : t.changes = s.changes) (setters : t.setters = s.setters) (pending : s.ChangePending) : t.ChangePending := by
  apply pending_changed s t 0 (s.changes 0) _ (fun _ _ same => same) calls clients setters pending
  rw [changes, Function.update_eq_self]

-- The change goes on for as long as the client that changes is in the list.
theorem tells_goes_on (s : State) (thread : Nat) (client : ClientId) (change : Change) (tells : s.Tells)
    (here : (s.changes thread).client = some client)
    (goesOn : ∀ b ∈ s.source.clients, b.client = client → change.client = some client) :
    ({ s with changes := Function.update s.changes thread change } : State).Tells := by
  refine tells_quiet s _ tells rfl rfl rfl rfl ?_ rfl fun _ => rfl
  refine pending_changed s _ thread _ rfl ?_ rfl rfl rfl
  intro b member changing
  rw [here, Option.some.injEq] at changing
  rw [← changing]
  exact goesOn b member changing.symm

theorem tells_change (s t : State) (thread : Nat) (glance : Glance) (change : Change) (tells : s.Tells)
    (run : s.runChange glance (s.changes thread) = some (t, change)) :
    ({ t with changes := Function.update t.changes thread change } : State).Tells := by
  cases at_ : s.changes thread with
  | idle =>
      rw [at_] at run
      cases run
  | posting client old =>
      rw [at_] at run
      cases run
      apply tells_goes_on s thread client _ tells (by rw [at_]; rfl)
      rintro b member rfl
      rw [if_pos (tells.registered b member)]
      rfl
  | checking client old =>
      rw [at_] at run
      cases run
      apply tells_goes_on s thread client _ tells (by rw [at_]; rfl)
      intro b member _
      have present : s.source.clients.isEmpty = false := List.isEmpty_eq_false_iff.mpr (List.ne_nil_of_mem member)
      rw [present]
      rfl
  | updating client =>
      rw [at_] at run
      cases run
      refine tells_update s _ glance tells rfl rfl rfl rfl rfl rfl fun other c missed => ?_
      by_cases same : other = thread
      · rw [same, at_]
        rfl
      · have unchanged : Function.update s.changes thread .idle other = s.changes other := Function.update_of_ne same _ _
        exact (congrArg (Change.before c) unchanged).symm.trans missed

theorem tells_set_state (s : State) (thread : Nat) (client : ClientId) (state : ClientState) (tells : s.Tells)
    (idle : s.changes thread = .idle) :
    ({ s with
      states := Function.update s.states client state
      changes := Function.update s.changes thread (.posting client (s.states client)) } : State).Tells := by
  refine tells_quiet s _ tells rfl rfl rfl rfl ?_ rfl fun done => ?_
  · refine pending_changed s _ thread _ rfl ?_ rfl rfl rfl
    intro b _ changing
    rw [idle] at changing
    cases changing
  · -- Otherwise the change itself would be pending.
    have apart : ∀ b ∈ s.source.clients, b.client ≠ client := by
      intro b member same
      refine done (.inr (.inl ⟨thread, b, member, ?_⟩))
      simp only [Function.update_self, same]
      rfl
    have agree : ∀ b ∈ s.source.clients, Function.update s.states client state b.client = s.states b.client :=
      fun b member => Function.update_of_ne (apart b member) _ _
    exact BaseTraceSource.build_congr s.source _ _ ⟨agree, agree, agree, fun _ _ => rfl⟩

theorem turn_status_pushed (s t : State) (turn : Turn) (kind : EventKind) (next : s.turn turn kind = some t) :
    t.status.pushed = s.status.pushed := by
  cases kind with
  | status =>
      obtain ⟨status, moved, rfl⟩ := Option.map_eq_some_iff.mp next
      exact turn_pushed _ _ _ moved
  | completion | progress =>
      obtain ⟨_, _, rfl⟩ := Option.map_eq_some_iff.mp next
      rfl

theorem shut_down_pushed (s t : State) (next : s.shutDown = some t) : t.status.pushed = s.status.pushed := by
  unfold State.shutDown at next
  generalize s.shutdown = stage at next
  cases stage with
  | running =>
      obtain ⟨status, stopped, rfl⟩ := Option.map_eq_some_iff.mp next
      exact stop_pushed _ _ stopped
  | joiningStatus | joiningCompletion =>
      obtain ⟨_, joined⟩ := Option.ite_none_right_eq_some.mp next
      obtain ⟨_, _, rfl⟩ := Option.map_eq_some_iff.mp joined
      rfl
  | joiningProgress =>
      obtain ⟨_, joined⟩ := Option.ite_none_right_eq_some.mp next
      cases joined
      rfl
  | finished => cases next

-- A step beside the calls, the changes and the updates.
theorem tells_aside (s : State) (apis : List Api) (previous : TraceCaptureProgress)
    (reporters : Nat → Option Report) (status : Channel TraceSourceStatusEventArgs)
    (completion : Channel TraceCompletionEventArgs) (progress : Channel TraceCaptureProgressEventArgs)
    (shutdown : Shutdown) (tells : s.Tells) (pushed : status.pushed = s.status.pushed) :
    ({ s with
      source := { s.source with supportedApis := apis, previousProgress := previous }
      reporters := reporters
      status := status
      completion := completion
      progress := progress
      shutdown := shutdown } : State).Tells :=
  tells_quiet s _ tells rfl rfl pushed rfl (pending_same s _ rfl rfl rfl rfl) rfl fun _ => rfl

theorem tells_step (s t : State) (a : Action) (tells : s.Tells) (booked : s.Booked) (keeps : keepsStatus a = true)
    (next : s.next a = some t) : t.Tells := by
  cases a with
  | onDriverConnected info =>
      obtain ⟨_, outside, rfl⟩ := State.next_connected s t info next
      exact tells_passed s _ _ _ _ tells (by rw [outside]; rfl)
  | onDriverDisconnected id =>
      obtain ⟨outside, rfl⟩ := (State.start_some s t _ _).mp next
      exact tells_passed s id _ _ _ tells (by rw [outside]; rfl)
  | onDriverStateChanged id state =>
      obtain ⟨outside, rfl⟩ := (State.start_some s t _ _).mp next
      exact tells_passed s id _ _ _ tells (by rw [outside]; rfl)
  | run id answer =>
      obtain ⟨u, after, run, rfl⟩ := State.next_run s t id answer next
      exact tells_run s u id answer after tells booked run
  | setState thread client state =>
      simp only [State.next] at next
      split at next <;> cases next
      rename_i free
      exact tells_set_state s thread client state tells free.1
  | runChange thread glance =>
      obtain ⟨u, change, run, rfl⟩ := State.next_change s t thread glance next
      exact tells_change s u thread glance change tells run
  | setAbortSupported | setDisabledReason =>
      cases next
      exact tells_silent s _ tells rfl rfl rfl rfl rfl rfl (pending_same s _ rfl rfl rfl rfl) rfl
  | setAllClientsDisabledReason reason =>
      simp only [State.next] at next
      split at next <;> cases next
      · exact tells_pending s _ tells tells.registered rfl rfl (.inr (.inr (Nat.succ_pos _)))
      · exact tells
  | runSetter glance =>
      simp only [State.next] at next
      split at next <;> cases next
      exact tells_update s _ glance tells rfl rfl rfl rfl rfl rfl fun _ _ same => same
  | setApiFilter | traceCompleted =>
      cases next
      exact tells_aside s _ _ _ _ _ _ _ tells rfl
  | queryStatus =>
      simp only [State.next] at next
      split at next <;> cases next
      exact tells
  | report thread kind glance =>
      simp only [State.next] at next
      split at next <;> cases next
      cases kind with
      | performProcessing => cases keeps
      | _ => exact tells_aside s _ _ _ _ _ _ _ tells rfl
  | pushReport thread =>
      obtain ⟨report, _, rfl⟩ := Option.map_eq_some_iff.mp next
      exact tells_aside s _ _ _ _ _ _ _ tells rfl
  | turn kind turn =>
      have pushed := turn_status_pushed s t turn kind next
      obtain ⟨_, _, _, rfl, _⟩ := State.turn_flows s t turn kind next
      exact tells_aside s _ _ _ _ _ _ _ tells pushed
  | shutDown =>
      have pushed := shut_down_pushed s t next
      obtain ⟨_, _, _, _, rfl, _⟩ := State.shut_down_moves s t next
      exact tells_aside s _ _ _ _ _ _ _ tells pushed

theorem initial_tells : State.initial.Tells := by
  refine ⟨?_, ⟨List.isChain_nil, ?_⟩, fun _ => ⟨⟨rfl, rfl, rfl, rfl, rfl⟩, ?_⟩⟩
  · intro b member
    cases member
  · intro event last
    cases last
  · intro wrong
    cases wrong

theorem reach_tells (s : State) (reach : Reach traceSource (fun _ a => keepsStatus a = true) s) : s.Tells := by
  refine reach_invariant traceSource _ State.Tells initial_tells ?_ s reach
  intro s a t before tells keeps next
  exact tells_step s t a tells (reachable_booked s (reach_reachable _ _ s before)) keeps next

theorem suffix_last {α : Type} (l whole : List α) (suffix : l <:+ whole) (a : α) (last : l.getLast? = some a) :
    whole.getLast? = some a := by
  obtain ⟨earlier, rfl⟩ := suffix
  rw [List.getLast?_append, last]
  rfl

theorem status_followed (s : State) (reach : Reach traceSource (fun _ a => keepsStatus a = true) s) :
    s.StatusFollowed := by
  have tells := reach_tells s reach
  have lossless := (reachable_lossless s (reach_reachable _ _ s reach)).status
  refine ⟨fun listener => ?_, fun done drained listener event last glance => ?_⟩
  · obtain ⟨earlier, later, split⟩ := heard_within s.status lossless listener
    have chain := tells.chained.chain
    rw [← split] at chain
    exact chain.left_of_append.right_of_append
  · have pushed := suffix_last _ _ (heard_drained s.status lossless drained listener) event last
    have previous := tells.chained.last event pushed
    have caught := tells.caughtUp done
    rw [query_present s glance (nothing_missed s done), previous]
    exact ⟨TraceSourceStatus.same_view_equal _ _ caught.view, caught.whole⟩

def listens : List Action := [.turn .status (.register ⟨true⟩)]

-- A driver that connects and disconnects, and both of its events delivered.
def comesAndGoes : List Action :=
  listens ++ .onDriverConnected ⟨7, 100, "", none⟩ :: runs 7 3 ++ .onDriverDisconnected 7 :: runs 7 2 ++
    readsTimes .status 9

theorem two_events_followed : ∃ s, Reach traceSource (fun _ a => keepsStatus a = true) s ∧
    (s.status.heard 0).length = 2 ∧ s.status.Drained ∧ s.StatusFollowed := by
  obtain ⟨s, reach, found⟩ := exec_if_finds traceSource (fun _ a => keepsStatus a) comesAndGoes
    (fun s => (s.status.heard 0).length = 2 ∧ s.status.queue = [] ∧ s.status.reader.inHand = []) (by decide)
  obtain ⟨two, empty, noneInHand⟩ := of_decide_eq_true found
  exact ⟨s, reach, two, ⟨empty, noneInHand⟩, status_followed s reach⟩

-- The same driver, and a processing step that reports before the event of the connection is delivered.
def reportsProcessing : List Action :=
  listens ++ .onDriverConnected ⟨7, 100, "", none⟩ :: runs 7 3 ++ .report 0 (.performProcessing 0) .present ::
    readsTimes .status 8

theorem processing_breaks_chain : ¬ ∀ s, Reachable traceSource s → s.StatusFollowed := by
  intro claimed
  obtain ⟨s, reach, broken⟩ := exec_finds traceSource reportsProcessing
    (fun s => ¬ (s.status.heard 0).IsChain Follows) (by decide)
  exact of_decide_eq_true broken ((claimed s reach).1 0)

end RadeonPanel.TraceSource

import RadeonPanel.Base.EventChannel
import RadeonPanel.Base.Runs
import RadeonPanel.TraceSource.Status

set_option autoImplicit false

namespace RadeonPanel.TraceSource

open EventChannel Interleaving RadeonPanel.Ubertrace

-- The calls of a connection come one after the other. Each constructor stands in
-- front of a section under the client lock, of a call of the client, or of an
-- update of the status.
inductive Pc where
  | outside
  | connected (connection : ClientConnection)
  | connecting (connection : ClientConnection)
  | connectedUpdate
  | disconnecting
  | disconnectClient (b : BoundClient)
  | disconnectedUpdate
  | initClientIfNeeded (state : DdDriverState)
  | initializeClient (b : BoundClient) (state : DdDriverState)
  | bind (b : BoundClient) (state : DdDriverState)
  | boundUpdate (state : DdDriverState)
  | getBoundClient (state : DdDriverState)
  | handleDriverState (client : ClientId) (state : DdDriverState)
deriving DecidableEq

-- A thread that changes the state of a client: the state is written, then posted
-- to the listeners of the client, and OnClientStateChangeEvent looks for clients
-- before it updates the status.
inductive Change where
  | idle
  | posting (client : ClientId) (old : ClientState)
  | checking (client : ClientId) (old : ClientState)
  | updating (client : ClientId)
deriving DecidableEq, Repr

-- A status that is built meanwhile may still have seen the old state.
def Change.before (client : ClientId) : Change → Option ClientState
  | .posting other old | .checking other old => if other = client then some old else none
  | _ => none

-- For each place that asks a client for its state the change that it missed, if any.
structure Glance where
  stage : ClientId → Option Nat
  reason : ClientId → Option Nat
  connection : ClientId → Option Nat

def Glance.present : Glance := ⟨fun _ => none, fun _ => none, fun _ => none⟩

inductive ReportKind where
  | emitPostProcessEvent (text : String) (progress : Rat)
  | reportCaptureProgress (progress : WritingProgress)
  | writerProgress (progress : WritingProgress)
  | performProcessing (progress : Rat)
deriving DecidableEq

def ReportKind.stage : ReportKind → TraceSourceStage
  | .emitPostProcessEvent _ _ => .processing
  | .reportCaptureProgress _ => .capturing
  | .writerProgress _ => .dumping
  | .performProcessing _ => .processing

-- `GetByteWriter` and `GetRdfWriter` put the progress into the status as well.
def writingStatus (status : TraceSourceStatus) (progress : WritingProgress) : TraceSourceStatus :=
  if status.traceStage = .dumping then
    { status with
      totalBytesToDump := progress.totalBytesToDump
      numBytesDumped := progress.numBytesDumped
      stageProgress := progress.progress }
  else status

def ReportKind.newProgress (status : TraceSourceStatus) : ReportKind → TraceCaptureProgress
  | .emitPostProcessEvent text progress => ⟨status, 0, 0, progress, text⟩
  | .reportCaptureProgress progress =>
      ⟨status, progress.numBytesDumped, progress.totalBytesToDump, progress.progress, ""⟩
  | .writerProgress progress =>
      ⟨writingStatus status progress, progress.numBytesDumped, progress.totalBytesToDump, progress.progress, ""⟩
  | .performProcessing progress => ⟨status, 0, 0, progress, ""⟩

-- EmitPostProcessEvent leaves the old progress empty.
def ReportKind.oldProgress (previous : TraceCaptureProgress) : ReportKind → TraceCaptureProgress
  | .emitPostProcessEvent _ _ => .default
  | _ => previous

-- PerformProcessing does not keep its progress.
def ReportKind.keptProgress (previous new : TraceCaptureProgress) : ReportKind → TraceCaptureProgress
  | .performProcessing _ => previous
  | _ => new

-- A progress event that is built, but not yet pushed.
structure Report where
  kind : ReportKind
  newProgress : TraceCaptureProgress
deriving DecidableEq

inductive EventKind where
  | status
  | completion
  | progress
deriving DecidableEq, Repr

-- Where the destructor is: it stops and joins one thread after the other.
inductive Shutdown where
  | running
  | joiningStatus
  | joiningCompletion
  | joiningProgress
  | finished
deriving DecidableEq, Repr

inductive Life where
  | created (id : DdConnectionId) (client : ClientId)
  | initialized (client : ClientId)
  | failed (client : ClientId)
  | disconnected (client : ClientId)
deriving DecidableEq, Repr

-- `changes` and `reporters` are further threads, `setters` those in front of the
-- update in SetAllClientsDisabledReason. `connected` says of an id whether its
-- OnDriverDisconnected is still to return. `silent` (something that a status
-- shows has changed, and no update follows) and `lives` only record.
structure State where
  source : BaseTraceSource
  calls : DdConnectionId → Pc
  connected : DdConnectionId → Bool
  states : ClientId → ClientState
  abortSupported : ClientId → Bool
  registered : ClientId → Bool
  nextClient : ClientId
  changes : Nat → Change
  setters : Nat
  reporters : Nat → Option Report
  status : Channel TraceSourceStatusEventArgs
  completion : Channel TraceCompletionEventArgs
  progress : Channel TraceCaptureProgressEventArgs
  shutdown : Shutdown
  silent : Bool
  lives : List Life

def State.initial : State where
  source := .initial
  calls := fun _ => .outside
  connected := fun _ => false
  states := fun _ => .idle
  abortSupported := fun _ => false
  registered := fun _ => false
  nextClient := 0
  changes := fun _ => .idle
  setters := 0
  reporters := fun _ => none
  status := .initial
  completion := .initial
  progress := .initial
  shutdown := .running
  silent := true
  lives := []

-- What the outside answers to the step of a call.
structure Answer where
  glance : Glance
  created : ClientState × Bool
  initDriverState : DdDriverState
  initialized : Result

inductive Action where
  | onDriverConnected (info : DdConnectionInfo)
  | onDriverDisconnected (id : DdConnectionId)
  | onDriverStateChanged (id : DdConnectionId) (state : DdDriverState)
  | run (id : DdConnectionId) (answer : Answer)
  | setState (thread : Nat) (client : ClientId) (state : ClientState)
  | runChange (thread : Nat) (glance : Glance)
  | setAbortSupported (client : ClientId) (supported : Bool)
  | setAllClientsDisabledReason (reason : DisabledReason)
  | runSetter (glance : Glance)
  | setDisabledReason (reason : DisabledReason)
  | setApiFilter (apis : List Api)
  | report (thread : Nat) (kind : ReportKind) (glance : Glance)
  | pushReport (thread : Nat)
  | traceCompleted (status : TraceCompletionStatus) (path : String) (id : DdConnectionId)
  | queryStatus (glance : Glance)
  | turn (kind : EventKind) (turn : Turn)
  | shutDown

namespace BaseTraceSource

variable (s : BaseTraceSource) (id : DdConnectionId)

def findClient : Option BoundClient := Keyed.lookup BoundClient.umdConnectionId s.clients id

def findPendingClient : Option BoundClient := Keyed.lookup BoundClient.umdConnectionId s.pendingClients id

-- The locked section of OnDriverDisconnected.
def removeConnection : BaseTraceSource :=
  { s with
    clients := Keyed.remove BoundClient.umdConnectionId s.clients id
    unsupportedClients := eraseConnection s.unsupportedClients id
    pendingClients := Keyed.remove BoundClient.umdConnectionId s.pendingClients id }

def removePendingClient : BaseTraceSource :=
  { s with pendingClients := Keyed.remove BoundClient.umdConnectionId s.pendingClients id }

end BaseTraceSource

namespace State

def stateRead (s : State) (missed : ClientId → Option Nat) (client : ClientId) : ClientState :=
  match missed client with
  | none => s.states client
  | some thread => ((s.changes thread).before client).getD (s.states client)

def reads (s : State) (glance : Glance) : Reads :=
  ⟨s.stateRead glance.stage, s.stateRead glance.reason, s.stateRead glance.connection, s.abortSupported⟩

def updateTraceSourceStatus (s : State) (glance : Glance) : State :=
  let newStatus := s.source.buildCurrentStatus (s.reads glance)
  { s with
    source := { s.source with previousStatus := newStatus }
    status := s.status.push ⟨newStatus, s.source.previousStatus⟩
    silent := false }

def record (s : State) (event : Life) : State := { s with lives := event :: s.lives }

def createClient (s : State) (connection : ClientConnection) (created : ClientState × Bool) : State :=
  { s with
    source := { s.source with pendingClients := s.source.pendingClients ++ [⟨connection, s.nextClient⟩] }
    states := Function.update s.states s.nextClient created.1
    abortSupported := Function.update s.abortSupported s.nextClient created.2
    nextClient := s.nextClient + 1
    lives := .created connection.umdConnectionId s.nextClient :: s.lives }

-- The first locked section of OnDriverConnected.
def connect (s : State) (connection : ClientConnection) (created : ClientState × Bool) : State :=
  if connection.api ∈ s.source.supportedApis then s.createClient connection created
  else { s with source := { s.source with unsupportedClients := s.source.unsupportedClients ++ [connection] } }

def bindClient (s : State) (id : DdConnectionId) (b : BoundClient) (state : DdDriverState) : State × Pc :=
  let source := { s.source with clients := s.source.clients ++ [b] }
  match source.findClient id with
  | none => ({ s with source := source }, .getBoundClient state)
  | some bound =>
      ({ s with source := source, registered := Function.update s.registered bound.client true }, .boundUpdate state)

def run (s : State) (id : DdConnectionId) (answer : Answer) : Pc → Option (State × Pc)
  | .outside => none
  | .connected connection =>
      if s.source.systemDisabledReason ≠ .enabled then some (s, .outside) else some (s, .connecting connection)
  | .connecting connection => some (s.connect connection answer.created, .connectedUpdate)
  | .connectedUpdate => some (s.updateTraceSourceStatus answer.glance, .outside)
  | .disconnecting =>
      match s.source.findClient id with
      | some b => some ({ s with source := s.source.removeConnection id }, .disconnectClient b)
      | none => some ({ s with source := s.source.removeConnection id }, .disconnectedUpdate)
  | .disconnectClient b => some (s.record (.disconnected b.client), .disconnectedUpdate)
  | .disconnectedUpdate =>
      some ({ s.updateTraceSourceStatus answer.glance with connected := Function.update s.connected id false }, .outside)
  | .initClientIfNeeded state =>
      match s.source.findPendingClient id with
      | none => some (s, .getBoundClient state)
      | some b =>
          if state ≠ answer.initDriverState then some (s, .getBoundClient state)
          else some ({ s with source := s.source.removePendingClient id, silent := true }, .initializeClient b state)
  | .initializeClient b state =>
      if answer.initialized ≠ .success then some (s.record (.failed b.client), .getBoundClient state)
      else some (s.record (.initialized b.client), .bind b state)
  | .bind b state => some (s.bindClient id b state)
  | .boundUpdate state => some (s.updateTraceSourceStatus answer.glance, .getBoundClient state)
  | .getBoundClient state =>
      match s.source.findClient id with
      | none => some (s, .outside)
      | some b => some (s, .handleDriverState b.client state)
  | .handleDriverState _ _ => some (s, .outside)

def start (s : State) (id : DdConnectionId) (pc : Pc) : Option State :=
  if s.calls id = .outside then some { s with calls := Function.update s.calls id pc } else none

def runChange (s : State) (glance : Glance) : Change → Option (State × Change)
  | .idle => none
  | .posting client old => some (s, if s.registered client then .checking client old else .idle)
  | .checking client _ => some (s, if s.source.clients.isEmpty then .idle else .updating client)
  | .updating _ => some (s.updateTraceSourceStatus glance, .idle)

def buildReport (s : State) (kind : ReportKind) (glance : Glance) : TraceSourceStatus :=
  s.source.buildStatusWithStage (s.reads glance) kind.stage

-- PerformProcessing also pushes a status event, with an empty old status.
def report (s : State) (thread : Nat) (kind : ReportKind) (glance : Glance) : State :=
  let status := s.buildReport kind glance
  { s with
    reporters := Function.update s.reporters thread (some ⟨kind, kind.newProgress status⟩)
    status :=
      match kind with
      | .performProcessing _ => s.status.push ⟨status, .default⟩
      | _ => s.status }

def pushReport (s : State) (thread : Nat) (report : Report) : State :=
  { s with
    reporters := Function.update s.reporters thread none
    progress := s.progress.push ⟨report.newProgress, report.kind.oldProgress s.source.previousProgress⟩
    source := { s.source with
      previousProgress := report.kind.keptProgress s.source.previousProgress report.newProgress } }

-- What QueryStatus tells every listener.
def queryStatus (s : State) (glance : Glance) : TraceSourceStatusEventArgs :=
  ⟨s.source.buildCurrentStatus (s.reads glance), s.source.previousStatus⟩

def turn (s : State) (turn : Turn) : EventKind → Option State
  | .status => (s.status.turn turn).map fun status => { s with status := status }
  | .completion => (s.completion.turn turn).map fun completion => { s with completion := completion }
  | .progress => (s.progress.turn turn).map fun progress => { s with progress := progress }

def shutDown (s : State) : Option State :=
  match s.shutdown with
  | .running => s.status.stop.map fun status => { s with status := status, shutdown := .joiningStatus }
  | .joiningStatus =>
      if s.status.exited then
        s.completion.stop.map fun completion => { s with completion := completion, shutdown := .joiningCompletion }
      else none
  | .joiningCompletion =>
      if s.completion.exited then
        s.progress.stop.map fun progress => { s with progress := progress, shutdown := .joiningProgress }
      else none
  | .joiningProgress => if s.progress.exited then some { s with shutdown := .finished } else none
  | .finished => none

-- An id is the id of one connection at a time.
def next (s : State) : Action → Option State
  | .onDriverConnected info =>
      if s.connected info.umdConnectionId then none
      else
        (s.start info.umdConnectionId (.connected info.connection)).map fun t =>
          { t with connected := Function.update t.connected info.umdConnectionId true }
  | .onDriverDisconnected id => s.start id .disconnecting
  | .onDriverStateChanged id state => s.start id (.initClientIfNeeded state)
  | .run id answer =>
      (s.run id answer (s.calls id)).map fun (t, pc) => { t with calls := Function.update t.calls id pc }
  | .setState thread client state =>
      if s.changes thread = .idle ∧ client < s.nextClient then
        some { s with
          states := Function.update s.states client state
          changes := Function.update s.changes thread (.posting client (s.states client)) }
      else none
  | .runChange thread glance =>
      (s.runChange glance (s.changes thread)).map fun (t, change) =>
        { t with changes := Function.update t.changes thread change }
  | .setAbortSupported client supported =>
      some { s with abortSupported := Function.update s.abortSupported client supported, silent := true }
  | .setAllClientsDisabledReason reason =>
      if reason ≠ .enabled then
        some { s with source := { s.source with clientDisabledReason := reason }, setters := s.setters + 1 }
      else some s
  | .runSetter glance =>
      match s.setters with
      | 0 => none
      | left + 1 => some { s.updateTraceSourceStatus glance with setters := left }
  | .setDisabledReason reason =>
      some { s with source := { s.source with systemDisabledReason := reason }, silent := true }
  | .setApiFilter apis => some { s with source := { s.source with supportedApis := apis } }
  | .report thread kind glance => if s.reporters thread = none then some (s.report thread kind glance) else none
  | .pushReport thread => (s.reporters thread).map fun report => s.pushReport thread report
  | .traceCompleted status path id => some { s with completion := s.completion.push ⟨⟨status, path, id⟩⟩ }
  | .queryStatus _ => if s.status.locked then none else some s
  | .turn kind turn => s.turn turn kind
  | .shutDown => s.shutDown

theorem start_some (s t : State) (id : DdConnectionId) (pc : Pc) :
    s.start id pc = some t ↔ s.calls id = .outside ∧ { s with calls := Function.update s.calls id pc } = t := by
  simp [start]

theorem next_connected (s t : State) (info : DdConnectionInfo) (next : s.next (.onDriverConnected info) = some t) :
    s.connected info.umdConnectionId = false ∧ s.calls info.umdConnectionId = .outside ∧
    t = { s with
      calls := Function.update s.calls info.umdConnectionId (.connected info.connection)
      connected := Function.update s.connected info.umdConnectionId true } := by
  simp only [State.next] at next
  split at next
  · cases next
  · rename_i fresh
    obtain ⟨u, started, rfl⟩ := Option.map_eq_some_iff.mp next
    obtain ⟨outside, rfl⟩ := (start_some s u _ _).mp started
    exact ⟨Bool.eq_false_iff.mpr fresh, outside, rfl⟩

theorem next_run (s t : State) (id : DdConnectionId) (answer : Answer) (next : s.next (.run id answer) = some t) :
    ∃ u pc, s.run id answer (s.calls id) = some (u, pc) ∧ t = { u with calls := Function.update u.calls id pc } := by
  obtain ⟨⟨u, pc⟩, run, rfl⟩ := Option.map_eq_some_iff.mp next
  exact ⟨u, pc, run, rfl⟩

theorem next_change (s t : State) (thread : Nat) (glance : Glance)
    (next : s.next (.runChange thread glance) = some t) :
    ∃ u change, s.runChange glance (s.changes thread) = some (u, change) ∧
      t = { u with changes := Function.update u.changes thread change } := by
  obtain ⟨⟨u, change⟩, run, rfl⟩ := Option.map_eq_some_iff.mp next
  exact ⟨u, change, run, rfl⟩

theorem turn_flows (s t : State) (turn : Turn) (kind : EventKind) (next : s.turn turn kind = some t) :
    ∃ status completion progress, t = { s with status := status, completion := completion, progress := progress } ∧
      Flows s.status status ∧ Flows s.completion completion ∧ Flows s.progress progress := by
  cases kind with
  | status =>
      obtain ⟨status, moved, rfl⟩ := Option.map_eq_some_iff.mp next
      exact ⟨status, _, _, rfl, EventChannel.turn_flows _ _ _ moved, .inl rfl, .inl rfl⟩
  | completion =>
      obtain ⟨completion, moved, rfl⟩ := Option.map_eq_some_iff.mp next
      exact ⟨_, completion, _, rfl, .inl rfl, EventChannel.turn_flows _ _ _ moved, .inl rfl⟩
  | progress =>
      obtain ⟨progress, moved, rfl⟩ := Option.map_eq_some_iff.mp next
      exact ⟨_, _, progress, rfl, .inl rfl, .inl rfl, EventChannel.turn_flows _ _ _ moved⟩

theorem shut_down_moves (s t : State) (next : s.shutDown = some t) :
    ∃ status completion progress shutdown,
      t = { s with status := status, completion := completion, progress := progress, shutdown := shutdown } ∧
      Moved s.status status ∧ Moved s.completion completion ∧ Moved s.progress progress := by
  unfold shutDown at next
  generalize s.shutdown = stage at next
  cases stage with
  | running =>
      obtain ⟨status, stopped, rfl⟩ := Option.map_eq_some_iff.mp next
      exact ⟨status, _, _, _, rfl, .inr ⟨.stop, stopped⟩, .inl rfl, .inl rfl⟩
  | joiningStatus =>
      obtain ⟨_, joined⟩ := Option.ite_none_right_eq_some.mp next
      obtain ⟨completion, stopped, rfl⟩ := Option.map_eq_some_iff.mp joined
      exact ⟨_, completion, _, _, rfl, .inl rfl, .inr ⟨.stop, stopped⟩, .inl rfl⟩
  | joiningCompletion =>
      obtain ⟨_, joined⟩ := Option.ite_none_right_eq_some.mp next
      obtain ⟨progress, stopped, rfl⟩ := Option.map_eq_some_iff.mp joined
      exact ⟨_, _, progress, _, rfl, .inl rfl, .inl rfl, .inr ⟨.stop, stopped⟩⟩
  | joiningProgress =>
      obtain ⟨_, joined⟩ := Option.ite_none_right_eq_some.mp next
      cases joined
      exact ⟨_, _, _, .finished, rfl, .inl rfl, .inl rfl, .inl rfl⟩
  | finished => cases next

end State

def traceSource : Machine State Action := ⟨.initial, State.next⟩

end RadeonPanel.TraceSource

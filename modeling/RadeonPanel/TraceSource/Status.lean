import RadeonPanel.TraceSource.Types

set_option autoImplicit false

namespace RadeonPanel.TraceSource

open RadeonPanel.Ubertrace

-- Which client object it is.
abbrev ClientId := Nat

structure BoundClient where
  connInfo : ClientConnection
  client : ClientId
deriving DecidableEq

def BoundClient.umdConnectionId (b : BoundClient) : DdConnectionId := b.connInfo.umdConnectionId

structure BaseTraceSource where
  supportedApis : List Api
  systemDisabledReason : DisabledReason
  clientDisabledReason : DisabledReason
  pendingClients : List BoundClient
  clients : List BoundClient
  unsupportedClients : List ClientConnection
  previousStatus : TraceSourceStatus
  previousProgress : TraceCaptureProgress
deriving DecidableEq

def BaseTraceSource.initial : BaseTraceSource :=
  ⟨[.vulkan, .directX12], .enabled, .noReason, [], [], [], .default, .default⟩

-- What the clients answer while one status is built: their state is asked for in
-- three places and may have changed in between.
structure Reads where
  stage : ClientId → ClientState
  reason : ClientId → ClientState
  connection : ClientId → ClientState
  abortTraceSupported : ClientId → Bool

namespace BaseTraceSource

variable (s : BaseTraceSource) (reads : Reads)

def highestState (first : BoundClient) (rest : List BoundClient) : ClientState :=
  rest.foldl (fun highest b => maxState highest (reads.stage b.client)) (reads.stage first.client)

def getTraceSourceStage : TraceSourceStage :=
  match s.clients with
  | first :: rest => clientStateToTraceSourceStage (highestState reads first rest)
  | [] => if !s.unsupportedClients.isEmpty then .disabled else .disconnected

def connectionForProcessInfo : Option ClientConnection :=
  match s.clients, s.unsupportedClients, s.pendingClients with
  | b :: _, _, _ => some b.connInfo
  | [], connection :: _, _ => some connection
  | [], [], b :: _ => some b.connInfo
  | [], [], [] => none

def fillProcessInfo (status : TraceSourceStatus) : TraceSourceStatus :=
  match s.connectionForProcessInfo with
  | some connInfo => { status with pid := connInfo.clientPid, applicationName := connInfo.clientName }
  | none => { status with pid := 0, applicationName := "" }

def fillDisabledReason (status : TraceSourceStatus) : TraceSourceStatus :=
  if s.systemDisabledReason ≠ .enabled then { status with disabledReason := s.systemDisabledReason }
  else if s.clients ≠ [] then
    if s.clients.any fun b => reads.reason b.client ≠ .disabled then status
    else { status with disabledReason := s.clientDisabledReason }
  else if s.unsupportedClients ≠ [] then { status with disabledReason := .apiUnsupported }
  else status

def leftOut : ClientState → Bool
  | .done | .disabled | .error => true
  | _ => false

def fillConnection (connections : ConnectionMap) (b : BoundClient) : ConnectionMap :=
  if leftOut (reads.connection b.client) then connections
  else connections.insert b.umdConnectionId b.connInfo.api

def fillCurrentConnections (status : TraceSourceStatus) : TraceSourceStatus :=
  { status with currentConnections := s.clients.foldl (fillConnection reads) status.currentConnections }

def fillAbortSupported (status : TraceSourceStatus) : TraceSourceStatus :=
  { status with
    abortTraceSupported := s.clients.foldl (fun supported b => supported && reads.abortTraceSupported b.client) true }

-- The overload with an explicit stage; the other one asks for the stage first.
def buildStatusWithStage (stage : TraceSourceStage) : TraceSourceStatus :=
  let newStatus := TraceSourceStatus.default.changeStage stage
  let newStatus := s.fillProcessInfo newStatus
  let newStatus := s.fillDisabledReason reads newStatus
  let newStatus := s.fillCurrentConnections reads newStatus
  s.fillAbortSupported reads newStatus

def buildCurrentStatus : TraceSourceStatus := s.buildStatusWithStage reads (s.getTraceSourceStage reads)

@[simp] theorem process_info_keeps (status : TraceSourceStatus) :
    (s.fillProcessInfo status).traceStage = status.traceStage ∧
    (s.fillProcessInfo status).disabledReason = status.disabledReason ∧
    (s.fillProcessInfo status).currentConnections = status.currentConnections ∧
    (s.fillProcessInfo status).numBytesDumped = status.numBytesDumped ∧
    (s.fillProcessInfo status).totalBytesToDump = status.totalBytesToDump ∧
    (s.fillProcessInfo status).stageProgress = status.stageProgress := by
  unfold fillProcessInfo
  split <;> exact ⟨rfl, rfl, rfl, rfl, rfl, rfl⟩

@[simp] theorem disabled_reason_keeps (status : TraceSourceStatus) :
    (s.fillDisabledReason reads status).traceStage = status.traceStage ∧
    (s.fillDisabledReason reads status).currentConnections = status.currentConnections ∧
    (s.fillDisabledReason reads status).numBytesDumped = status.numBytesDumped ∧
    (s.fillDisabledReason reads status).totalBytesToDump = status.totalBytesToDump ∧
    (s.fillDisabledReason reads status).stageProgress = status.stageProgress := by
  unfold fillDisabledReason
  repeat' split
  all_goals exact ⟨rfl, rfl, rfl, rfl, rfl⟩

theorem built_stage (stage : TraceSourceStage) : (s.buildStatusWithStage reads stage).traceStage = stage := by
  simp [buildStatusWithStage, fillAbortSupported, fillCurrentConnections, TraceSourceStatus.changeStage]

-- The other fields that two statuses are compared in.
theorem built_view (stage : TraceSourceStage) :
    (s.buildStatusWithStage reads stage).numBytesDumped = 0 ∧
    (s.buildStatusWithStage reads stage).totalBytesToDump = 0 ∧
    (s.buildStatusWithStage reads stage).stageProgress = 0 ∧
    (s.buildStatusWithStage reads stage).currentConnections = s.clients.foldl (fillConnection reads) .empty := by
  cases stage <;>
    simp [buildStatusWithStage, fillAbortSupported, fillCurrentConnections, TraceSourceStatus.changeStage,
      TraceSourceStatus.default]

theorem fold_max_read (rest : List BoundClient) (highest : ClientState) :
    rest.foldl (fun highest b => maxState highest (reads.stage b.client)) highest = highest ∨
    ∃ b ∈ rest, reads.stage b.client =
      rest.foldl (fun highest b => maxState highest (reads.stage b.client)) highest := by
  induction rest generalizing highest with
  | nil => exact .inl rfl
  | cons b rest ih =>
      rw [List.foldl_cons]
      obtain same | ⟨c, member, found⟩ := ih (maxState highest (reads.stage b.client))
      · rw [same]
        obtain kept | raised := max_state_cases highest (reads.stage b.client)
        · exact .inl kept
        · exact .inr ⟨b, List.mem_cons_self, raised.symm⟩
      · exact .inr ⟨c, List.mem_cons_of_mem _ member, found⟩

theorem highest_state_read (first : BoundClient) (rest : List BoundClient) :
    ∃ b ∈ first :: rest, reads.stage b.client = highestState reads first rest := by
  obtain same | ⟨b, member, found⟩ := fold_max_read reads rest (reads.stage first.client)
  · exact ⟨first, List.mem_cons_self, same.symm⟩
  · exact ⟨b, List.mem_cons_of_mem _ member, found⟩

-- Only what the clients in the list answer counts.
structure Agree (clients : List BoundClient) (r q : Reads) : Prop where
  stage : ∀ b ∈ clients, r.stage b.client = q.stage b.client
  reason : ∀ b ∈ clients, r.reason b.client = q.reason b.client
  connection : ∀ b ∈ clients, r.connection b.client = q.connection b.client
  abort : ∀ b ∈ clients, r.abortTraceSupported b.client = q.abortTraceSupported b.client

theorem stage_congr (r q : Reads) (same : ∀ b ∈ s.clients, r.stage b.client = q.stage b.client) :
    s.getTraceSourceStage r = s.getTraceSourceStage q := by
  unfold getTraceSourceStage
  cases clients : s.clients with
  | nil => rfl
  | cons first rest =>
      rw [clients] at same
      have later : highestState r first rest = highestState q first rest := by
        rw [highestState, highestState, same first List.mem_cons_self]
        exact List.foldl_ext _ _ _ fun highest b member => by rw [same b (List.mem_cons_of_mem _ member)]
      exact congrArg clientStateToTraceSourceStage later

theorem connections_congr (r q : Reads) (same : ∀ b ∈ s.clients, r.connection b.client = q.connection b.client)
    (connections : ConnectionMap) :
    s.clients.foldl (fillConnection r) connections = s.clients.foldl (fillConnection q) connections := by
  refine List.foldl_ext _ _ _ fun filled b member => ?_
  rw [fillConnection, fillConnection, same b member]

theorem reason_congr (r q : Reads) (same : ∀ b ∈ s.clients, r.reason b.client = q.reason b.client)
    (status : TraceSourceStatus) : s.fillDisabledReason r status = s.fillDisabledReason q status := by
  have anyOther : (s.clients.any fun b => r.reason b.client ≠ .disabled) =
      s.clients.any fun b => q.reason b.client ≠ .disabled := by
    rw [Bool.eq_iff_iff]
    simp only [List.any_eq_true, decide_eq_true_eq]
    exact exists_congr fun b => and_congr_right fun member => by rw [same b member]
  rw [fillDisabledReason, fillDisabledReason, anyOther]

theorem build_congr (r q : Reads) (agree : Agree s.clients r q) : s.buildCurrentStatus r = s.buildCurrentStatus q := by
  have abort : s.clients.foldl (fun supported b => supported && r.abortTraceSupported b.client) true =
      s.clients.foldl (fun supported b => supported && q.abortTraceSupported b.client) true :=
    List.foldl_ext _ _ _ fun supported b member => by rw [agree.abort b member]
  simp only [buildCurrentStatus, buildStatusWithStage, fillCurrentConnections, fillAbortSupported]
  rw [stage_congr s r q agree.stage, reason_congr s r q agree.reason, connections_congr s r q agree.connection, abort]

-- What statuses are compared in depends on the lists of initialized and of
-- unsupported clients alone.
theorem view_congr (other : BaseTraceSource) (r q : Reads) (clients : other.clients = s.clients)
    (unsupported : other.unsupportedClients = s.unsupportedClients)
    (stage : ∀ b ∈ s.clients, r.stage b.client = q.stage b.client)
    (connection : ∀ b ∈ s.clients, r.connection b.client = q.connection b.client) :
    TraceSourceStatus.SameView (s.buildCurrentStatus r) (other.buildCurrentStatus q) := by
  have sameStage : other.getTraceSourceStage q = s.getTraceSourceStage q := by
    rw [getTraceSourceStage, getTraceSourceStage, clients, unsupported]
  obtain ⟨dumped, total, progress, connections⟩ := built_view s r (s.getTraceSourceStage r)
  obtain ⟨otherDumped, otherTotal, otherProgress, otherConnections⟩ := built_view other q (other.getTraceSourceStage q)
  refine ⟨?_, dumped.trans otherDumped.symm, total.trans otherTotal.symm, ?_, progress.trans otherProgress.symm⟩
  · rw [buildCurrentStatus, buildCurrentStatus, connections, otherConnections, clients]
    exact connections_congr s r q connection _
  · rw [buildCurrentStatus, buildCurrentStatus, built_stage, built_stage, sameStage]
    exact stage_congr s r q stage

end BaseTraceSource

end RadeonPanel.TraceSource

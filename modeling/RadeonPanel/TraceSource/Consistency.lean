import RadeonPanel.TraceSource.System

set_option autoImplicit false

namespace RadeonPanel.TraceSource

open EventChannel Interleaving RadeonPanel.Ubertrace

namespace BaseTraceSource

variable (s : BaseTraceSource) (reads : Reads)

theorem stage_disconnected (state : ClientState) : clientStateToTraceSourceStage state ≠ .disconnected := by
  cases state <;> simp [clientStateToTraceSourceStage]

theorem stage_determines (a b : ClientState)
    (same : clientStateToTraceSourceStage a = clientStateToTraceSourceStage b) : a = b := by
  cases a <;> cases b <;> first | rfl | cases same

theorem disconnected_iff :
    s.getTraceSourceStage reads = .disconnected ↔ s.clients = [] ∧ s.unsupportedClients = [] := by
  unfold getTraceSourceStage
  cases s.clients with
  | cons first rest => simp [stage_disconnected]
  | nil => cases s.unsupportedClients <;> simp

theorem stage_of_client (state : ClientState) (active : state.inCapture = true)
    (stage : s.getTraceSourceStage reads = clientStateToTraceSourceStage state) :
    ∃ b ∈ s.clients, reads.stage b.client = state := by
  unfold getTraceSourceStage at stage
  cases clients : s.clients with
  | cons first rest =>
      rw [clients] at stage
      obtain ⟨b, member, read⟩ := highest_state_read reads first rest
      exact ⟨b, member, read.trans (stage_determines _ _ stage)⟩
  | nil =>
      rw [clients] at stage
      dsimp only at stage
      split at stage <;> cases state <;> cases active <;> cases stage

theorem fill_reason_given (status : TraceSourceStatus) (given : s.clientDisabledReason ≠ .enabled)
    (before : status.disabledReason ≠ .enabled) : (s.fillDisabledReason reads status).disabledReason ≠ .enabled := by
  unfold fillDisabledReason
  by_cases system : s.systemDisabledReason ≠ .enabled
  · rw [if_pos system]
    exact system
  · rw [if_neg system]
    by_cases present : s.clients ≠ []
    · rw [if_pos present]
      split
      · exact before
      · exact given
    · rw [if_neg present]
      split
      · simp
      · exact before

theorem disabled_has_reason (stage : TraceSourceStage) (given : s.clientDisabledReason ≠ .enabled)
    (disabled : stage = .disabled) : (s.buildStatusWithStage reads stage).disabledReason ≠ .enabled := by
  subst disabled
  have filled := fill_reason_given s reads (s.fillProcessInfo (TraceSourceStatus.default.changeStage .disabled)) given
  apply filled
  rw [(process_info_keeps s _).2.1]
  simp [TraceSourceStatus.changeStage, TraceSourceStatus.default]

def Lists (clients : List BoundClient) (connections : ConnectionMap) : Prop :=
  ∀ entry ∈ connections.entries, ∃ b ∈ clients, b.umdConnectionId = entry.1 ∧ b.connInfo.api = entry.2 ∧
    leftOut (reads.connection b.client) = false

theorem fill_connections_list (clients before : List BoundClient) (connections : ConnectionMap)
    (lists : Lists reads before connections) :
    Lists reads (before ++ clients) (clients.foldl (fillConnection reads) connections) := by
  induction clients generalizing before connections with
  | nil => simpa using lists
  | cons b rest ih =>
      rw [List.foldl_cons, List.append_cons]
      apply ih
      intro entry member
      have known (old : entry ∈ connections.entries) : ∃ c ∈ before ++ [b], c.umdConnectionId = entry.1 ∧
          c.connInfo.api = entry.2 ∧ leftOut (reads.connection c.client) = false := by
        obtain ⟨c, present, same⟩ := lists entry old
        exact ⟨c, List.mem_append_left _ present, same⟩
      unfold fillConnection at member
      split at member
      · exact known member
      · rename_i shown
        obtain old | new := ConnectionMap.insert_entries _ _ _ entry member
        · exact known old
        · exact ⟨b, by simp, by simp [new], by simp [new], by simpa using shown⟩

theorem built_connections (stage : TraceSourceStage) :
    Lists reads s.clients (s.buildStatusWithStage reads stage).currentConnections := by
  rw [(built_view s reads stage).2.2.2]
  apply fill_connections_list reads s.clients [] .empty
  intro entry member
  cases member

-- What the fields of a status say about the clients, and about each other.
structure Consistent (status : TraceSourceStatus) : Prop where
  disconnected : status.traceStage = .disconnected ↔ s.clients = [] ∧ s.unsupportedClients = []
  disabled : status.traceStage = .disabled → status.disabledReason ≠ .enabled
  connections : Lists reads s.clients status.currentConnections
  active : ∀ state, state.inCapture = true → status.traceStage = clientStateToTraceSourceStage state →
    ∃ b ∈ s.clients, reads.stage b.client = state

theorem current_consistent (given : s.clientDisabledReason ≠ .enabled) :
    s.Consistent reads (s.buildCurrentStatus reads) := by
  have stage := built_stage s reads (s.getTraceSourceStage reads)
  refine ⟨?_, ?_, built_connections s reads _, ?_⟩
  · rw [buildCurrentStatus, stage]
    exact disconnected_iff s reads
  · rw [buildCurrentStatus, stage]
    exact disabled_has_reason s reads _ given
  · rw [buildCurrentStatus, stage]
    exact stage_of_client s reads

end BaseTraceSource

theorem run_disabled_reason (s t : State) (id : DdConnectionId) (answer : Answer) (pc after : Pc)
    (run : s.run id answer pc = some (t, after)) : t.source.clientDisabledReason = s.source.clientDisabledReason := by
  cases pc with
  | outside => cases run
  | connectedUpdate | disconnectClient | disconnectedUpdate | boundUpdate | handleDriverState =>
      cases run
      rfl
  | connected | initializeClient =>
      simp only [State.run] at run
      split at run <;> cases run <;> rfl
  | connecting connection =>
      cases run
      unfold State.connect
      split <;> rfl
  | disconnecting | getBoundClient =>
      simp only [State.run] at run
      split at run <;> cases run <;> rfl
  | initClientIfNeeded state =>
      simp only [State.run] at run
      repeat' split at run
      all_goals cases run; rfl
  | bind b state =>
      simp only [State.run, State.bindClient] at run
      split at run <;> cases run <;> rfl

theorem client_reason_step (s t : State) (a : Action) (given : s.source.clientDisabledReason ≠ .enabled)
    (next : s.next a = some t) : t.source.clientDisabledReason ≠ .enabled := by
  cases a with
  | onDriverConnected info =>
      obtain ⟨_, _, rfl⟩ := State.next_connected s t info next
      exact given
  | onDriverDisconnected | onDriverStateChanged =>
      obtain ⟨_, rfl⟩ := (State.start_some s t _ _).mp next
      exact given
  | run id answer =>
      obtain ⟨u, pc, run, rfl⟩ := State.next_run s t id answer next
      exact run_disabled_reason s u id answer _ pc run ▸ given
  | setState | report | queryStatus =>
      simp only [State.next] at next
      split at next <;> cases next
      exact given
  | runChange thread glance =>
      obtain ⟨u, change, run, rfl⟩ := State.next_change s t thread glance next
      cases at_ : s.changes thread <;> rw [at_] at run <;> cases run <;> exact given
  | setAllClientsDisabledReason reason =>
      simp only [State.next] at next
      split at next
      · rename_i valid
        cases next
        exact valid
      · cases next
        exact given
  | runSetter glance =>
      simp only [State.next] at next
      split at next <;> cases next
      exact given
  | setAbortSupported | setDisabledReason | setApiFilter | traceCompleted =>
      cases next
      exact given
  | pushReport thread =>
      obtain ⟨report, _, rfl⟩ := Option.map_eq_some_iff.mp next
      exact given
  | turn kind turn =>
      obtain ⟨_, _, _, rfl, _⟩ := State.turn_flows s t turn kind next
      exact given
  | shutDown =>
      obtain ⟨_, _, _, _, rfl, _⟩ := State.shut_down_moves s t next
      exact given

theorem client_reason_given (s : State) (reach : Reachable traceSource s) :
    s.source.clientDisabledReason ≠ .enabled :=
  reachable_invariant traceSource (fun s => s.source.clientDisabledReason ≠ .enabled) (by decide)
    (fun s a t given next => client_reason_step s t a given next) s reach

-- Whatever the clients answer. A stage that is given to the overload is kept as
-- it is; the rest of the status follows the clients there, too.
theorem status_consistent (s : State) (reach : Reachable traceSource s) (reads : Reads) :
    s.source.Consistent reads (s.source.buildCurrentStatus reads) ∧
    ∀ stage, (s.source.buildStatusWithStage reads stage).traceStage = stage ∧
      (stage = .disabled → (s.source.buildStatusWithStage reads stage).disabledReason ≠ .enabled) ∧
      BaseTraceSource.Lists reads s.source.clients (s.source.buildStatusWithStage reads stage).currentConnections := by
  have given := client_reason_given s reach
  refine ⟨s.source.current_consistent reads given, fun stage => ⟨?_, ?_, ?_⟩⟩
  · exact s.source.built_stage reads stage
  · exact s.source.disabled_has_reason reads stage given
  · exact s.source.built_connections reads stage

def agrees : Answer := ⟨.present, (.idle, true), .platformInit, .success⟩

def runs (id : DdConnectionId) (steps : Nat) : List Action := List.replicate steps (.run id agrees)

-- A driver connects, and its client is initialized.
def connects (id : DdConnectionId) : List Action :=
  .onDriverConnected ⟨id, 100, "", none⟩ :: runs id 3 ++ .onDriverStateChanged id .platformInit :: runs id 6

def changesState (client : ClientId) (state : ClientState) : List Action :=
  .setState 0 client state :: List.replicate 3 (.runChange 0 .present)

def capturesOnce : List Action := .setApiFilter [.unknown] :: connects 7 ++ changesState 0 .capturing

theorem capturing_client_shown : ∃ s, Reachable traceSource s ∧
    (s.source.buildCurrentStatus (s.reads .present)).traceStage = .capturing ∧
    s.source.Consistent (s.reads .present) (s.source.buildCurrentStatus (s.reads .present)) := by
  obtain ⟨s, reach, found⟩ := exec_finds traceSource capturesOnce
    (fun s => (s.source.buildCurrentStatus (s.reads .present)).traceStage = .capturing) (by decide)
  exact ⟨s, reach, of_decide_eq_true found, (status_consistent s reach _).1⟩

-- A progress report of a post-processing step without any client.
theorem given_stage_without_client : ¬ ∀ s, Reachable traceSource s → ∀ reads,
    s.source.Consistent reads (s.source.buildCurrentStatus reads) ∧
    ∀ stage, s.source.Consistent reads (s.source.buildStatusWithStage reads stage) := by
  intro claimed
  have consistent := (claimed State.initial .init (State.initial.reads .present)).2 .processing
  obtain ⟨b, member, _⟩ := consistent.active .postProcessing rfl (BaseTraceSource.built_stage _ _ _)
  cases member

end RadeonPanel.TraceSource

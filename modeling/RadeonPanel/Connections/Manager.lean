import RadeonPanel.Base.Runs
import RadeonPanel.Connections.Types

set_option autoImplicit false

namespace RadeonPanel.Connections

open Interleaving RadeonPanel.Ubertrace

structure ClientConnectionManager where
  isEnabled : Bool
  pendingConnections : List ClientConnection
  currentConnections : List ClientConnection
deriving DecidableEq, Repr

namespace ClientConnectionManager

def hasExistingConnection (m : ClientConnectionManager) (id : DdConnectionId) : Bool :=
  (findConnection m.pendingConnections id).isSome || (findConnection m.currentConnections id).isSome

def onDriverConnected (m : ClientConnectionManager) (info : DdConnectionInfo) : ClientConnectionManager :=
  if !m.isEnabled then m
  else if m.hasExistingConnection info.umdConnectionId then m
  else { m with pendingConnections := m.pendingConnections ++ [info.connection] }

-- Not only while enabled, so that a connection doesn't get stuck connected.
def onDriverDisconnected (m : ClientConnectionManager) (id : DdConnectionId) : ClientConnectionManager :=
  { m with
    pendingConnections := eraseConnection m.pendingConnections id
    currentConnections := eraseConnection m.currentConnections id }

-- The first part of OnDriverStateChanged, with the new should_update_subscriber.
def joinCurrent (connecting : DdDriverState) (m : ClientConnectionManager) (id : DdConnectionId)
    (state : DdDriverState) : ClientConnectionManager × Bool :=
  if state = connecting then
    match findConnection m.pendingConnections id with
    | some c =>
        ({ m with
          pendingConnections := eraseConnection m.pendingConnections id
          currentConnections := m.currentConnections ++ [c] }, true)
    | none => (m, false)
  else (m, false)

def markReached (c : ClientConnection) : ClientConnection := { c with hasReachedPostDeviceInit := true }

-- Its second part.
def reachPostDeviceInit (m : ClientConnectionManager) (id : DdConnectionId) (state : DdDriverState)
    (shouldUpdate : Bool) : ClientConnectionManager × Bool :=
  if state = .postDeviceInit then
    match findConnection m.currentConnections id with
    | some _ => ({ m with currentConnections := updateConnection m.currentConnections id markReached }, true)
    | none => (m, shouldUpdate)
  else (m, shouldUpdate)

def onDriverStateChanged (connecting : DdDriverState) (m : ClientConnectionManager) (id : DdConnectionId)
    (state : DdDriverState) : ClientConnectionManager × Bool :=
  reachPostDeviceInit (m.joinCurrent connecting id state).1 id state (m.joinCurrent connecting id state).2

end ClientConnectionManager

inductive Event where
  | setEnabled (enabled : Bool)
  | onDriverConnected (info : DdConnectionInfo)
  | onDriverDisconnected (id : DdConnectionId)
  | onDriverStateChanged (id : DdConnectionId) (state : DdDriverState)
deriving DecidableEq, Repr

-- Both histories newest first. `updates` are the arguments of the calls of
-- UpdateClientConnections.
structure State where
  manager : ClientConnectionManager
  events : List Event
  updates : List (List ClientConnection)
deriving DecidableEq, Repr

def State.initial : State := ⟨⟨false, [], []⟩, [], []⟩

-- The manager after an event, and whether it tells the subscriber.
def handle (connecting : DdDriverState) (m : ClientConnectionManager) : Event → ClientConnectionManager × Bool
  | .setEnabled enabled => ({ m with isEnabled := enabled }, false)
  | .onDriverConnected info => (m.onDriverConnected info, false)
  | .onDriverDisconnected id => (m.onDriverDisconnected id, true)
  | .onDriverStateChanged id state => m.onDriverStateChanged connecting id state

def State.next (connecting : DdDriverState) (s : State) (event : Event) : State :=
  let (manager, shouldUpdate) := handle connecting s.manager event
  ⟨manager, event :: s.events,
    if shouldUpdate then manager.currentConnections :: s.updates else s.updates⟩

-- `connecting` is what the subscriber's GetConnectingDriverState returns.
def connectionManager (connecting : DdDriverState) : Machine State Event :=
  ⟨.initial, fun s event => some (s.next connecting event)⟩

-- What the events alone say, newest first: no state of the manager is used.
def enabledAfter : List Event → Bool
  | [] => false
  | .setEnabled enabled :: _ => enabled
  | _ :: rest => enabledAfter rest

def connectedAfter (id : DdConnectionId) : List Event → Bool
  | [] => false
  | .onDriverConnected info :: rest =>
      connectedAfter id rest || (decide (info.umdConnectionId = id) && enabledAfter rest)
  | .onDriverDisconnected other :: rest => decide (id ≠ other) && connectedAfter id rest
  | _ :: rest => connectedAfter id rest

def currentAfter (connecting : DdDriverState) (id : DdConnectionId) : List Event → Bool
  | [] => false
  | .onDriverDisconnected other :: rest => decide (id ≠ other) && currentAfter connecting id rest
  | .onDriverStateChanged other state :: rest =>
      currentAfter connecting id rest ||
        (decide (other = id ∧ state = connecting) && connectedAfter id rest)
  | _ :: rest => currentAfter connecting id rest

-- A POSTDEVICEINIT was received for the present connection of this id.
def receivedAfter (id : DdConnectionId) : List Event → Bool
  | [] => false
  | .onDriverDisconnected other :: rest => decide (id ≠ other) && receivedAfter id rest
  | .onDriverStateChanged other state :: rest =>
      receivedAfter id rest ||
        (decide (other = id ∧ state = .postDeviceInit) && connectedAfter id rest)
  | _ :: rest => receivedAfter id rest

-- The same, counting only what came while the connection was a current one, the
-- event that made it current included.
def receivedWhileCurrent (connecting : DdDriverState) (id : DdConnectionId) : List Event → Bool
  | [] => false
  | .onDriverDisconnected other :: rest => decide (id ≠ other) && receivedWhileCurrent connecting id rest
  | .onDriverStateChanged other state :: rest =>
      receivedWhileCurrent connecting id rest ||
        (decide (other = id ∧ state = .postDeviceInit) &&
          currentAfter connecting id (.onDriverStateChanged other state :: rest))
  | _ :: rest => receivedWhileCurrent connecting id rest

theorem current_connected (connecting : DdDriverState) (id : DdConnectionId) (events : List Event)
    (current : currentAfter connecting id events = true) : connectedAfter id events = true := by
  induction events with
  | nil => simp [currentAfter] at current
  | cons event rest ih =>
      cases event <;> simp_all [currentAfter, connectedAfter]
      obtain earlier | now := current
      · exact ih earlier
      · exact now.2

theorem received_current (connecting : DdDriverState) (id : DdConnectionId) (events : List Event)
    (received : receivedWhileCurrent connecting id events = true) :
    currentAfter connecting id events = true := by
  induction events with
  | nil => simp [receivedWhileCurrent] at received
  | cons event rest ih =>
      cases event with
      | onDriverStateChanged other state =>
          rw [receivedWhileCurrent, Bool.or_eq_true, Bool.and_eq_true] at received
          obtain earlier | now := received
          · simp [currentAfter, ih earlier]
          · exact now.2
      | _ => simp_all [receivedWhileCurrent, currentAfter]

-- With the default connecting state nothing can come too early.
theorem received_at_default (id : DdConnectionId) (events : List Event) :
    receivedWhileCurrent .postDeviceInit id events = receivedAfter id events := by
  induction events with
  | nil => rfl
  | cons event rest ih =>
      cases event with
      | onDriverStateChanged other state =>
          have connected := current_connected .postDeviceInit id rest
          rw [receivedWhileCurrent, receivedAfter, currentAfter, ih]
          cases current : currentAfter .postDeviceInit id rest <;> grind
      | _ => simp_all [receivedWhileCurrent, receivedAfter]

def ClientConnectionManager.ids (m : ClientConnectionManager) : List DdConnectionId :=
  connectionIds (m.pendingConnections ++ m.currentConnections)

theorem ids_apart (m : ClientConnectionManager) :
    m.ids = connectionIds m.pendingConnections ++ connectionIds m.currentConnections := List.map_append

theorem manager_ids (m : ClientConnectionManager) (id : DdConnectionId) :
    id ∈ m.ids ↔ id ∈ connectionIds m.pendingConnections ∨ id ∈ connectionIds m.currentConnections := by
  rw [ids_apart, List.mem_append]

theorem existing_ids (m : ClientConnectionManager) (id : DdConnectionId) :
    m.hasExistingConnection id = true ↔ id ∈ m.ids := by
  rw [ClientConnectionManager.hasExistingConnection, Bool.or_eq_true, manager_ids]
  have present (connections : List ClientConnection) :
      (findConnection connections id).isSome = true ↔ id ∈ connectionIds connections := by
    rw [Option.isSome_iff_ne_none, ne_eq, findConnection, Keyed.lookup_none, not_not]
  rw [present, present]

theorem connect_cases (m : ClientConnectionManager) (info : DdConnectionInfo) :
    (m.isEnabled = true ∧ info.umdConnectionId ∉ m.ids ∧
      m.onDriverConnected info = { m with pendingConnections := m.pendingConnections ++ [info.connection] }) ∨
    ((m.isEnabled = false ∨ info.umdConnectionId ∈ m.ids) ∧ m.onDriverConnected info = m) := by
  rw [← existing_ids]
  unfold ClientConnectionManager.onDriverConnected
  cases m.isEnabled <;> cases m.hasExistingConnection info.umdConnectionId <;> simp

theorem connect_ids (m : ClientConnectionManager) (info : DdConnectionInfo) (id : DdConnectionId) :
    id ∈ (m.onDriverConnected info).ids ↔ id ∈ m.ids ∨ info.umdConnectionId = id ∧ m.isEnabled = true := by
  obtain ⟨enabled, _, taken⟩ | ⟨refused, same⟩ := connect_cases m info
  · rw [taken, manager_ids, manager_ids]
    simp [enabled, eq_comm, or_right_comm]
  · rw [same]
    constructor
    · exact .inl
    · intro either
      obtain before | ⟨sameId, enabled⟩ := either
      · exact before
      · obtain disabled | present := refused
        · rw [disabled] at enabled
          cases enabled
        · exact sameId ▸ present

theorem connect_distinct (m : ClientConnectionManager) (info : DdConnectionInfo) (distinct : m.ids.Nodup) :
    (m.onDriverConnected info).ids.Nodup := by
  obtain ⟨_, fresh, taken⟩ | ⟨_, same⟩ := connect_cases m info
  · have moved : (m.onDriverConnected info).ids.Perm (info.umdConnectionId :: m.ids) := by
      rw [taken, ids_apart, ids_apart, connection_ids_add, List.append_assoc]
      exact List.perm_middle
    exact moved.nodup_iff.mpr (List.nodup_cons.mpr ⟨fresh, distinct⟩)
  · rwa [same]

theorem disconnect_current (m : ClientConnectionManager) (id other : DdConnectionId) (distinct : m.ids.Nodup) :
    other ∈ connectionIds (m.onDriverDisconnected id).currentConnections ↔
      other ≠ id ∧ other ∈ connectionIds m.currentConnections := by
  rw [ids_apart] at distinct
  exact Keyed.remaining_keys _ _ _ (List.nodup_append.mp distinct).2.1 other

theorem disconnect_ids (m : ClientConnectionManager) (id other : DdConnectionId) (distinct : m.ids.Nodup) :
    other ∈ (m.onDriverDisconnected id).ids ↔ other ≠ id ∧ other ∈ m.ids := by
  rw [manager_ids, manager_ids, disconnect_current m id other distinct, and_or_left]
  rw [ids_apart] at distinct
  exact or_congr_left (Keyed.remaining_keys _ _ _ (List.nodup_append.mp distinct).1 other)

theorem disconnect_distinct (m : ClientConnectionManager) (id : DdConnectionId) (distinct : m.ids.Nodup) :
    (m.onDriverDisconnected id).ids.Nodup := by
  have fewer : ((m.onDriverDisconnected id).ids).Sublist m.ids :=
    ((Keyed.remove_sublist _ _ _).append (Keyed.remove_sublist _ _ _)).map _
  exact List.Nodup.sublist fewer distinct

theorem join_cases (connecting : DdDriverState) (m : ClientConnectionManager) (id : DdConnectionId)
    (state : DdDriverState) :
    (state = connecting ∧ ∃ c ∈ m.pendingConnections, c.umdConnectionId = id ∧
      m.joinCurrent connecting id state =
        ({ m with
          pendingConnections := eraseConnection m.pendingConnections id
          currentConnections := m.currentConnections ++ [c] }, true)) ∨
    ((state ≠ connecting ∨ id ∉ connectionIds m.pendingConnections) ∧
      m.joinCurrent connecting id state = (m, false)) := by
  unfold ClientConnectionManager.joinCurrent
  by_cases same : state = connecting
  · rw [if_pos same]
    cases found : findConnection m.pendingConnections id with
    | none => exact .inr ⟨.inr ((Keyed.lookup_none _ _ _).mp found), rfl⟩
    | some c =>
        obtain ⟨member, sameId⟩ := Keyed.lookup_mem _ _ _ _ found
        exact .inl ⟨same, c, member, sameId, rfl⟩
  · rw [if_neg same]
    exact .inr ⟨.inl same, rfl⟩

theorem join_ids (connecting : DdDriverState) (m : ClientConnectionManager) (id : DdConnectionId)
    (state : DdDriverState) : (m.joinCurrent connecting id state).1.ids.Perm m.ids := by
  obtain ⟨_, c, member, rfl, moved⟩ | ⟨_, same⟩ := join_cases connecting m id state
  · have present : c.umdConnectionId ∈ connectionIds m.pendingConnections := List.mem_map_of_mem member
    rw [moved, ids_apart, ids_apart, connection_ids_add, erased_ids, ← List.append_assoc]
    apply (List.perm_append_singleton c.umdConnectionId _).trans
    exact (List.perm_cons_erase present).symm.append_right _
  · rw [same]

theorem join_keeps (connecting : DdDriverState) (m : ClientConnectionManager) (id : DdConnectionId)
    (state : DdDriverState) :
    (m.joinCurrent connecting id state).1.isEnabled = m.isEnabled ∧
    (m.joinCurrent connecting id state).1.pendingConnections.Sublist m.pendingConnections := by
  obtain ⟨_, c, _, _, moved⟩ | ⟨_, same⟩ := join_cases connecting m id state
  · rw [moved]
    exact ⟨rfl, Keyed.remove_sublist _ _ _⟩
  · rw [same]
    exact ⟨rfl, List.Sublist.refl _⟩

theorem join_current (connecting : DdDriverState) (m : ClientConnectionManager) (id : DdConnectionId)
    (state : DdDriverState) (other : DdConnectionId) :
    other ∈ connectionIds (m.joinCurrent connecting id state).1.currentConnections ↔
      other ∈ connectionIds m.currentConnections ∨
        (id = other ∧ state = connecting) ∧ other ∈ connectionIds m.pendingConnections := by
  obtain ⟨sameState, c, member, rfl, moved⟩ | ⟨unmoved, same⟩ := join_cases connecting m id state
  · have present : c.umdConnectionId ∈ connectionIds m.pendingConnections := List.mem_map_of_mem member
    rw [moved, connection_ids_add, List.mem_append, List.mem_singleton]
    grind
  · rw [same]
    grind

theorem reach_cases (m : ClientConnectionManager) (id : DdConnectionId) (state : DdDriverState)
    (shouldUpdate : Bool) :
    (state = .postDeviceInit ∧ m.reachPostDeviceInit id state shouldUpdate =
      ({ m with currentConnections :=
          updateConnection m.currentConnections id ClientConnectionManager.markReached }, true)) ∨
    ((state ≠ .postDeviceInit ∨ id ∉ connectionIds m.currentConnections) ∧
      m.reachPostDeviceInit id state shouldUpdate = (m, shouldUpdate)) := by
  unfold ClientConnectionManager.reachPostDeviceInit
  by_cases same : state = .postDeviceInit
  · rw [if_pos same]
    cases found : findConnection m.currentConnections id with
    | none => exact .inr ⟨.inr ((Keyed.lookup_none _ _ _).mp found), rfl⟩
    | some c => exact .inl ⟨same, rfl⟩
  · rw [if_neg same]
    exact .inr ⟨.inl same, rfl⟩

theorem reach_keeps (m : ClientConnectionManager) (id : DdConnectionId) (state : DdDriverState)
    (shouldUpdate : Bool) :
    (m.reachPostDeviceInit id state shouldUpdate).1.isEnabled = m.isEnabled ∧
    (m.reachPostDeviceInit id state shouldUpdate).1.pendingConnections = m.pendingConnections ∧
    connectionIds (m.reachPostDeviceInit id state shouldUpdate).1.currentConnections =
      connectionIds m.currentConnections := by
  obtain ⟨_, reached⟩ | ⟨_, same⟩ := reach_cases m id state shouldUpdate
  · rw [reached]
    exact ⟨rfl, rfl, Keyed.modify_keys _ _ _ _ fun _ same => same⟩
  · rw [same]
    exact ⟨rfl, rfl, rfl⟩

theorem reach_ids (m : ClientConnectionManager) (id : DdConnectionId) (state : DdDriverState)
    (shouldUpdate : Bool) : (m.reachPostDeviceInit id state shouldUpdate).1.ids = m.ids := by
  obtain ⟨_, pending, current⟩ := reach_keeps m id state shouldUpdate
  rw [ids_apart, ids_apart, pending, current]

-- What the two lists are, said by the events alone.
structure State.Faithful (connecting : DdDriverState) (s : State) : Prop where
  distinct : s.manager.ids.Nodup
  enabled : s.manager.isEnabled = enabledAfter s.events
  present : ∀ id, id ∈ s.manager.ids ↔ connectedAfter id s.events = true
  current : ∀ id, id ∈ connectionIds s.manager.currentConnections ↔ currentAfter connecting id s.events = true
  unreached : ∀ c ∈ s.manager.pendingConnections, c.hasReachedPostDeviceInit = false
  reached : ∀ c ∈ s.manager.currentConnections,
    c.hasReachedPostDeviceInit = receivedWhileCurrent connecting c.umdConnectionId s.events

theorem faithful_enabled (connecting : DdDriverState) (s : State) (enabled : Bool)
    (faithful : s.Faithful connecting) : (s.next connecting (.setEnabled enabled)).Faithful connecting :=
  { distinct := faithful.distinct
    enabled := rfl
    present := faithful.present
    current := faithful.current
    unreached := faithful.unreached
    reached := faithful.reached }

theorem faithful_connected (connecting : DdDriverState) (s : State) (info : DdConnectionInfo)
    (faithful : s.Faithful connecting) : (s.next connecting (.onDriverConnected info)).Faithful connecting := by
  have kept : (s.manager.onDriverConnected info).isEnabled = s.manager.isEnabled ∧
      (s.manager.onDriverConnected info).currentConnections = s.manager.currentConnections ∧
      ∀ c ∈ (s.manager.onDriverConnected info).pendingConnections,
        c ∈ s.manager.pendingConnections ∨ c = info.connection := by
    obtain ⟨_, _, taken⟩ | ⟨_, same⟩ := connect_cases s.manager info
    · rw [taken]
      simp
    · rw [same]
      exact ⟨rfl, rfl, fun c member => .inl member⟩
  obtain ⟨enabled, current, pending⟩ := kept
  refine ⟨connect_distinct s.manager info faithful.distinct, enabled.trans faithful.enabled, fun id => ?_,
    fun id => ?_, fun c member => ?_, fun c member => ?_⟩
  · apply (connect_ids s.manager info id).trans
    simp [State.next, connectedAfter, faithful.present id, faithful.enabled]
  · exact (iff_of_eq (congrArg (id ∈ connectionIds ·) current)).trans (faithful.current id)
  · obtain before | rfl := pending c member
    · exact faithful.unreached c before
    · rfl
  · exact faithful.reached c (current ▸ member)

theorem faithful_disconnected (connecting : DdDriverState) (s : State) (id : DdConnectionId)
    (faithful : s.Faithful connecting) : (s.next connecting (.onDriverDisconnected id)).Faithful connecting := by
  have distinct := faithful.distinct
  refine ⟨disconnect_distinct s.manager id distinct, faithful.enabled, fun other => ?_,
    fun other => ?_, fun c member => ?_, fun c member => ?_⟩
  · apply (disconnect_ids s.manager id other distinct).trans
    simp [State.next, connectedAfter, faithful.present other]
  · apply (disconnect_current s.manager id other distinct).trans
    simp [State.next, currentAfter, faithful.current other]
  · exact faithful.unreached c ((Keyed.remove_sublist _ _ _).subset member)
  · have apart : c.umdConnectionId ≠ id :=
      ((disconnect_current s.manager id _ distinct).mp (List.mem_map_of_mem member)).1
    rw [faithful.reached c ((Keyed.remove_sublist _ _ _).subset member)]
    simp [State.next, receivedWhileCurrent, apart]

-- What came before it became current does not count for a connection.
theorem join_reached (connecting : DdDriverState) (s : State) (id : DdConnectionId) (state : DdDriverState)
    (faithful : s.Faithful connecting) (c : ClientConnection)
    (member : c ∈ (s.manager.joinCurrent connecting id state).1.currentConnections) :
    c.hasReachedPostDeviceInit = receivedWhileCurrent connecting c.umdConnectionId s.events := by
  obtain ⟨_, joining, pending, _, moved⟩ | ⟨_, same⟩ := join_cases connecting s.manager id state
  · rw [moved, List.mem_append, List.mem_singleton] at member
    obtain before | rfl := member
    · exact faithful.reached c before
    · have notCurrent : c.umdConnectionId ∉ connectionIds s.manager.currentConnections := by
        have distinct := faithful.distinct
        rw [ids_apart] at distinct
        exact List.disjoint_of_nodup_append distinct (List.mem_map_of_mem pending)
      have notReceived := mt (received_current connecting c.umdConnectionId s.events)
        (mt (faithful.current _).mpr notCurrent)
      rw [faithful.unreached c pending]
      exact (Bool.eq_false_iff.mpr notReceived).symm
  · exact faithful.reached c (by rwa [same] at member)

theorem reached_members (m : ClientConnectionManager) (id : DdConnectionId) (state : DdDriverState)
    (shouldUpdate : Bool) (distinct : m.ids.Nodup) (c : ClientConnection)
    (member : c ∈ (m.reachPostDeviceInit id state shouldUpdate).1.currentConnections) :
    ∃ before ∈ m.currentConnections, before.umdConnectionId = c.umdConnectionId ∧
      c.hasReachedPostDeviceInit =
        (before.hasReachedPostDeviceInit || decide (id = c.umdConnectionId ∧ state = .postDeviceInit)) := by
  rw [ids_apart] at distinct
  obtain ⟨sameState, reached⟩ | ⟨unreached, same⟩ := reach_cases m id state shouldUpdate
  · rw [reached] at member
    obtain ⟨apart, before⟩ | ⟨before, old, sameId, rfl⟩ :=
      Keyed.modify_mem _ _ _ _ (List.nodup_append.mp distinct).2.1 c member
    · exact ⟨c, before, rfl, by simp [apart.symm]⟩
    · exact ⟨before, old, rfl, by simp [ClientConnectionManager.markReached, sameId, sameState]⟩
  · rw [same] at member
    refine ⟨c, member, rfl, ?_⟩
    have missing : ¬(id = c.umdConnectionId ∧ state = .postDeviceInit) := by
      intro ⟨sameId, sameState⟩
      obtain otherState | absent := unreached
      · exact otherState sameState
      · exact absent (sameId ▸ List.mem_map_of_mem member)
    simp [missing]

theorem faithful_state_changed (connecting : DdDriverState) (s : State) (id : DdConnectionId)
    (state : DdDriverState) (faithful : s.Faithful connecting) :
    (s.next connecting (.onDriverStateChanged id state)).Faithful connecting := by
  have joined := join_ids connecting s.manager id state
  have joinedDistinct := joined.nodup_iff.mpr faithful.distinct
  obtain ⟨enabled, pending⟩ := join_keeps connecting s.manager id state
  obtain ⟨sameEnabled, samePending, sameCurrent⟩ := reach_keeps (s.manager.joinCurrent connecting id state).1 id
    state (s.manager.joinCurrent connecting id state).2
  have sameIds := reach_ids (s.manager.joinCurrent connecting id state).1 id state
    (s.manager.joinCurrent connecting id state).2
  have current (other : DdConnectionId) :
      other ∈ connectionIds (s.manager.onDriverStateChanged connecting id state).1.currentConnections ↔
        currentAfter connecting other (.onDriverStateChanged id state :: s.events) = true := by
    rw [ClientConnectionManager.onDriverStateChanged, sameCurrent, join_current]
    have present := faithful.present other
    rw [manager_ids] at present
    have before := faithful.current other
    rw [currentAfter, Bool.or_eq_true, Bool.and_eq_true, decide_eq_true_iff, ← before, ← present]
    grind
  refine ⟨?_, ?_, fun other => ?_, current, fun c member => ?_, fun c member => ?_⟩
  · exact (iff_of_eq (congrArg List.Nodup sameIds)).mpr joinedDistinct
  · exact (sameEnabled.trans enabled).trans faithful.enabled
  · apply (iff_of_eq (congrArg (other ∈ ·) sameIds)).trans
    exact joined.mem_iff.trans (faithful.present other)
  · exact faithful.unreached c (pending.subset (samePending ▸ member))
  · obtain ⟨before, old, sameId, flag⟩ := reached_members _ _ _ _ joinedDistinct c member
    have isCurrent := (current c.umdConnectionId).mp (List.mem_map_of_mem member)
    rw [flag, join_reached connecting s id state faithful before old, sameId]
    simp only [State.next, receivedWhileCurrent, isCurrent, Bool.and_true]

theorem faithful_next (connecting : DdDriverState) (s : State) (event : Event)
    (faithful : s.Faithful connecting) : (s.next connecting event).Faithful connecting := by
  cases event with
  | setEnabled enabled => exact faithful_enabled connecting s enabled faithful
  | onDriverConnected info => exact faithful_connected connecting s info faithful
  | onDriverDisconnected id => exact faithful_disconnected connecting s id faithful
  | onDriverStateChanged id state => exact faithful_state_changed connecting s id state faithful

theorem reachable_faithful (connecting : DdDriverState) (s : State)
    (reach : Reachable (connectionManager connecting) s) : s.Faithful connecting := by
  refine reachable_invariant (connectionManager connecting) (State.Faithful connecting) ?_ ?_ s reach
  · exact ⟨List.nodup_nil, rfl, by simp [connectionManager, State.initial, ids_apart, Keyed.keys, connectedAfter],
      by simp [connectionManager, State.initial, Keyed.keys, currentAfter], nofun, nofun⟩
  · intro s event t faithful next
    cases next
    exact faithful_next connecting s event faithful

theorem silent_unchanged (connecting : DdDriverState) (m : ClientConnectionManager) (event : Event)
    (silent : (handle connecting m event).2 = false) :
    (handle connecting m event).1.currentConnections = m.currentConnections := by
  cases event with
  | setEnabled enabled => rfl
  | onDriverConnected info =>
      obtain ⟨_, _, taken⟩ | ⟨_, same⟩ := connect_cases m info
      · simp only [handle, taken]
      · simp only [handle, same]
  | onDriverDisconnected id => cases silent
  | onDriverStateChanged id state =>
      simp only [handle, ClientConnectionManager.onDriverStateChanged] at silent ⊢
      obtain ⟨_, reached⟩ | ⟨_, unreached⟩ := reach_cases (m.joinCurrent connecting id state).1 id state
        (m.joinCurrent connecting id state).2
      · rw [reached] at silent
        cases silent
      · rw [unreached] at silent ⊢
        obtain ⟨_, c, _, _, moved⟩ | ⟨_, same⟩ := join_cases connecting m id state
        · rw [moved] at silent
          cases silent
        · rw [same]

-- A notification carries the current list of its moment, and without one the
-- list that the subscriber knows is still the current one.
theorem next_reports (connecting : DdDriverState) (s : State) (event : Event) :
    (s.next connecting event).updates = (s.next connecting event).manager.currentConnections :: s.updates ∨
    (s.next connecting event).updates = s.updates ∧
      (s.next connecting event).manager.currentConnections = s.manager.currentConnections := by
  cases told : (handle connecting s.manager event).2 with
  | true => exact .inl (by simp [State.next, told])
  | false => exact .inr ⟨by simp [State.next, told], silent_unchanged connecting s.manager event told⟩

theorem connections_tracked (connecting : DdDriverState) (s : State)
    (reach : Reachable (connectionManager connecting) s) :
    (connectionIds (s.manager.pendingConnections ++ s.manager.currentConnections)).Nodup ∧
    (∀ id, id ∈ connectionIds (s.manager.pendingConnections ++ s.manager.currentConnections) ↔
      connectedAfter id s.events = true) ∧
    (∀ c ∈ s.manager.currentConnections,
      (c.hasReachedPostDeviceInit = true ↔
        receivedWhileCurrent connecting c.umdConnectionId s.events = true) ∧
      (connecting = .postDeviceInit →
        (c.hasReachedPostDeviceInit = true ↔ receivedAfter c.umdConnectionId s.events = true))) ∧
    ∀ event t, (connectionManager connecting).step s event = some t →
      t.updates = t.manager.currentConnections :: s.updates ∨
      t.updates = s.updates ∧ t.manager.currentConnections = s.manager.currentConnections := by
  have faithful := reachable_faithful connecting s reach
  refine ⟨faithful.distinct, faithful.present, fun c member => ?_, fun event t next => ?_⟩
  · have flag := faithful.reached c member
    constructor
    · rw [flag]
    · intro default
      rw [flag, default, received_at_default]
  · cases next
    exact next_reports connecting s event

def gameInfo (id : DdConnectionId) : DdConnectionInfo := ⟨id, 100, "game", none⟩

theorem early_subscriber_tracked : ∃ s, Reachable (connectionManager .platformInit) s ∧
    connectionIds s.manager.currentConnections = [7] ∧ connectedAfter 7 s.events = true ∧
    ∀ c ∈ s.manager.currentConnections, c.hasReachedPostDeviceInit = true ↔
      receivedWhileCurrent .platformInit c.umdConnectionId s.events = true := by
  obtain ⟨s, reach, found⟩ := exec_finds (connectionManager .platformInit)
    [.setEnabled true, .onDriverConnected (gameInfo 7), .onDriverStateChanged 7 .platformInit,
      .onDriverStateChanged 7 .postDeviceInit]
    (fun s => connectionIds s.manager.pendingConnections = [] ∧ connectionIds s.manager.currentConnections = [7])
    (by decide)
  obtain ⟨_, current⟩ : connectionIds s.manager.pendingConnections = [] ∧
      connectionIds s.manager.currentConnections = [7] := by simpa using found
  obtain ⟨_, present, flags, _⟩ := connections_tracked .platformInit s reach
  refine ⟨s, reach, current, (present 7).mp ?_, fun c member => (flags c member).1⟩
  exact (manager_ids s.manager 7).mpr (.inr (by simp [current]))

-- A POSTDEVICEINIT that comes before the connecting state leaves no trace.
theorem early_state_forgotten : ¬ ∀ connecting s, connecting.value ≤ DdDriverState.postDeviceInit.value →
    Reachable (connectionManager connecting) s → ∀ c ∈ s.manager.currentConnections,
      (c.hasReachedPostDeviceInit = true ↔ receivedAfter c.umdConnectionId s.events = true) := by
  intro claimed
  obtain ⟨s, reach, found⟩ := exec_finds (connectionManager .platformInit)
    [.setEnabled true, .onDriverConnected (gameInfo 7), .onDriverStateChanged 7 .postDeviceInit,
      .onDriverStateChanged 7 .platformInit]
    (fun s => s.manager.currentConnections = [(gameInfo 7).connection] ∧ receivedAfter 7 s.events) (by decide)
  obtain ⟨current, received⟩ : s.manager.currentConnections = [(gameInfo 7).connection] ∧
      receivedAfter 7 s.events = true := by simpa using found
  have flag := (claimed .platformInit s (by decide) reach _ (by rw [current]; exact List.mem_cons_self)).mpr received
  cases flag

end RadeonPanel.Connections

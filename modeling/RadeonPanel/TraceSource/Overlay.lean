import RadeonPanel.Base.KeyedValues
import RadeonPanel.Overlay.Manager
import RadeonPanel.TraceSource.System

set_option autoImplicit false

namespace RadeonPanel.TraceSource.Overlay

open Interleaving RadeonPanel.Overlay RadeonPanel.Ubertrace

def clientStateToOverlayState : ClientState → OverlayState
  | .disabled => .disabled
  | .error => .error
  | .done => .done
  | .busy => .busy
  | .idle => .idle
  | .waitingToBeginCapture => .waitingToBeginCapture
  | .capturing => .capturing
  | .postProcessing => .processing
  | .dumping => .dumping

theorem overlay_state_injective (a b : ClientState) (same : clientStateToOverlayState a = clientStateToOverlayState b) :
    a = b := by
  cases a <;> cases b <;> first | rfl | cases same

-- `going` is a connection whose OnDriverDisconnected has taken the client out of
-- the lists and not returned yet.
inductive Connection where
  | none
  | made
  | going (client : Option ClientId)
deriving DecidableEq, Repr

-- `states` is what GetState returns. `pushed` are the calls of UpdateFeatureState
-- for the source's feature, the newest first.
structure State where
  source : BaseTraceSource
  connections : DdConnectionId → Connection
  states : ClientId → ClientState
  registered : ClientId → Bool
  nextClient : ClientId
  pushed : List (DdConnectionId × OverlayState)

def State.initial : State := ⟨.initial, fun _ => .none, fun _ => .idle, fun _ => false, 0, []⟩

namespace State

def updateFeatureState (s : State) (id : DdConnectionId) (state : OverlayState) : State :=
  { s with pushed := (id, state) :: s.pushed }

def onDriverConnected (s : State) (info : DdConnectionInfo) (created : ClientState) : State :=
  let connection := info.connection
  if s.source.systemDisabledReason ≠ .enabled then s.updateFeatureState connection.umdConnectionId .disabled
  else if connection.api ∈ s.source.supportedApis then
    { s with
      source := { s.source with pendingClients := s.source.pendingClients ++ [⟨connection, s.nextClient⟩] }
      states := Function.update s.states s.nextClient created
      nextClient := s.nextClient + 1 }
  else
    { s.updateFeatureState connection.umdConnectionId .disabled with
      source := { s.source with unsupportedClients := s.source.unsupportedClients ++ [connection] } }

def handleDeveloperModeOverlay (s : State) (b : BoundClient) : State :=
  s.updateFeatureState b.umdConnectionId (clientStateToOverlayState (s.states b.client))

def bindClient (s : State) (id : DdConnectionId) (b : BoundClient) : State :=
  let s := { s with source := { s.source with clients := s.source.clients ++ [b] } }
  match s.source.findClient id with
  | none => s
  | some bound => { s with registered := Function.update s.registered bound.client true }.handleDeveloperModeOverlay bound

-- `reached` says whether the driver state is the one the client wants.
def initClientIfNeeded (s : State) (id : DdConnectionId) (reached : Bool) (initialized : Result) : State :=
  match s.source.findPendingClient id with
  | none => s
  | some b =>
      if !reached then s
      else
        let s := { s with source := s.source.removePendingClient id }
        if initialized ≠ .success then s else s.bindClient id b

-- The event does not say which client has changed.
def onClientStateChangeEvent (s : State) (newState : ClientState) : State :=
  match s.source.clients with
  | [] => s
  | front :: _ => s.updateFeatureState front.umdConnectionId (clientStateToOverlayState newState)

-- A client posts the state that it has got. Of RGP's client GetState may return
-- another one.
def setState (s : State) (client : ClientId) (posted state : ClientState) : State :=
  let s := { s with states := Function.update s.states client state }
  if s.registered client then s.onClientStateChangeEvent posted else s

def onDriverDisconnected (s : State) (id : DdConnectionId) : State :=
  { s with
    source := s.source.removeConnection id
    connections := Function.update s.connections id (.going ((s.source.findClient id).map BoundClient.client)) }

-- With the return the client that was disconnected is destroyed.
def disconnectReturns (s : State) (id : DdConnectionId) (client : Option ClientId) : State :=
  { s with
    connections := Function.update s.connections id .none
    registered := fun other => s.registered other && client ≠ some other }

end State

inductive Action where
  | onDriverConnected (info : DdConnectionInfo) (created : ClientState)
  | initClientIfNeeded (id : DdConnectionId) (reached : Bool) (initialized : Result)
  | setState (client : ClientId) (posted state : ClientState)
  | onDriverDisconnected (id : DdConnectionId)
  | disconnectReturns (id : DdConnectionId)
  | setDisabledReason (reason : DisabledReason)
  | setApiFilter (apis : List Api)

-- An id is the id of one connection at a time.
def State.next (s : State) : Action → Option State
  | .onDriverConnected info created =>
      match s.connections info.umdConnectionId with
      | .none =>
          let s := { s with connections := Function.update s.connections info.umdConnectionId .made }
          some (s.onDriverConnected info created)
      | .made => none
      | .going _ => none
  | .initClientIfNeeded id reached initialized => some (s.initClientIfNeeded id reached initialized)
  | .setState client posted state => if client < s.nextClient then some (s.setState client posted state) else none
  | .onDriverDisconnected id => if s.connections id = .made then some (s.onDriverDisconnected id) else none
  | .disconnectReturns id =>
      match s.connections id with
      | .none => none
      | .made => none
      | .going client => some (s.disconnectReturns id client)
  | .setDisabledReason reason => some { s with source := { s.source with systemDisabledReason := reason } }
  | .setApiFilter apis => some { s with source := { s.source with supportedApis := apis } }

def overlayPushes : Machine State Action := ⟨.initial, State.next⟩

def State.lastPushed (s : State) (id : DdConnectionId) : Option OverlayState := KeyedValues.get s.pushed id

def State.Agrees (s : State) : Prop :=
  ∀ b ∈ s.source.clients, s.lastPushed b.umdConnectionId = some (clientStateToOverlayState (s.states b.client))

def listed (s : State) (client : ClientId) : Prop := client ∈ s.source.clients.map BoundClient.client

-- The client that posts is the first one and posts the state it is in. Of another
-- client the post only does no harm if it changes nothing.
def postsOwn (s : State) : Action → Prop
  | .setState client posted state =>
      s.registered client = true → ∀ front ∈ s.source.clients.head?,
        if front.client = client then posted = state
        else s.states front.client = posted ∧ (listed s client → s.states client = state)
  | .onDriverConnected _ _ => True
  | .initClientIfNeeded _ _ _ => True
  | .onDriverDisconnected _ => True
  | .disconnectReturns _ => True
  | .setDisabledReason _ => True
  | .setApiFilter _ => True

abbrev BaseTraceSource.bound (source : BaseTraceSource) : List BoundClient := source.pendingClients ++ source.clients

structure State.WellFormed (s : State) : Prop where
  numbers : ((BaseTraceSource.bound s.source).map BoundClient.client).Nodup
  ids : ((BaseTraceSource.bound s.source).map BoundClient.umdConnectionId).Nodup
  made : ∀ b ∈ BaseTraceSource.bound s.source, s.connections b.umdConnectionId = .made
  below : ∀ b ∈ BaseTraceSource.bound s.source, b.client < s.nextClient
  registered : ∀ b ∈ s.source.clients, s.registered b.client = true
  gone : ∀ id client, s.connections id = .going (some client) →
    client < s.nextClient ∧ ∀ b ∈ BaseTraceSource.bound s.source, b.client ≠ client

theorem removed_sublist (source : BaseTraceSource) (id : DdConnectionId) :
    (BaseTraceSource.bound (source.removeConnection id)).Sublist (BaseTraceSource.bound source) :=
  (Keyed.remove_sublist _ _ _).append (Keyed.remove_sublist _ _ _)

theorem removed_ids (source : BaseTraceSource) (id : DdConnectionId)
    (distinct : ((BaseTraceSource.bound source).map BoundClient.umdConnectionId).Nodup) :
    ∀ b ∈ BaseTraceSource.bound (source.removeConnection id), b.umdConnectionId ≠ id := by
  rw [List.map_append] at distinct
  intro b member
  obtain pending | bound := List.mem_append.mp member
  · have kept := List.mem_map_of_mem (f := BoundClient.umdConnectionId) pending
    exact ((Keyed.remaining_keys _ _ _ distinct.of_append_left _).mp kept).1
  · have kept := List.mem_map_of_mem (f := BoundClient.umdConnectionId) bound
    exact ((Keyed.remaining_keys _ _ _ distinct.of_append_right _).mp kept).1

theorem bound_moved (source : BaseTraceSource) (id : DdConnectionId) (b : BoundClient)
    (found : source.findPendingClient id = some b) :
    (BaseTraceSource.bound { source.removePendingClient id with clients := source.clients ++ [b] }).Perm
      (BaseTraceSource.bound source) := by
  have perm := Keyed.remove_perm BoundClient.umdConnectionId source.pendingClients id b found
  have moved : ((Keyed.remove BoundClient.umdConnectionId source.pendingClients id) ++ (source.clients ++ [b])).Perm
      (b :: Keyed.remove BoundClient.umdConnectionId source.pendingClients id ++ source.clients) := by
    rw [← List.append_assoc]
    exact List.perm_append_singleton b _
  exact moved.trans (perm.symm.append_right _)

theorem bind_finds (source : BaseTraceSource) (b : BoundClient)
    (distinct : ((source.clients ++ [b]).map BoundClient.umdConnectionId).Nodup) :
    { source with clients := source.clients ++ [b] }.findClient b.umdConnectionId = some b :=
  Keyed.lookup_of_mem BoundClient.umdConnectionId _ b distinct (by simp)

theorem init_cases (s : State) (id : DdConnectionId) (reached : Bool) (initialized : Result)
    (formed : s.WellFormed) :
    s.initClientIfNeeded id reached initialized = s ∨
    ∃ b, s.source.findPendingClient id = some b ∧ b.umdConnectionId = id ∧
      (s.initClientIfNeeded id reached initialized = { s with source := s.source.removePendingClient id } ∨
       s.initClientIfNeeded id reached initialized =
         { s with
           source := { s.source.removePendingClient id with clients := s.source.clients ++ [b] }
           registered := Function.update s.registered b.client true
           pushed := (id, clientStateToOverlayState (s.states b.client)) :: s.pushed }) := by
  unfold State.initClientIfNeeded
  cases found : s.source.findPendingClient id with
  | none => exact .inl rfl
  | some b =>
      obtain ⟨_, sameId⟩ := Keyed.lookup_mem _ _ _ b found
      cases reached with
      | false => exact .inl rfl
      | true =>
          right
          refine ⟨b, rfl, sameId, ?_⟩
          by_cases success : initialized = .success
          · right
            have distinct : ((s.source.clients ++ [b]).map BoundClient.umdConnectionId).Nodup := by
              have moved := ((bound_moved s.source id b found).map BoundClient.umdConnectionId).nodup_iff.mpr formed.ids
              rw [List.map_append] at moved
              exact moved.of_append_right
            have finds := bind_finds (s.source.removePendingClient id) b distinct
            have here : { s.source.removePendingClient id with clients := s.source.clients ++ [b] }.findClient id =
                some b := sameId ▸ finds
            subst sameId
            simp only [success, State.bindClient, State.handleDeveloperModeOverlay, State.updateFeatureState]
            rw [show (s.source.removePendingClient b.umdConnectionId).clients = s.source.clients from rfl, here]
            rfl
          · left
            simp [success]

theorem formed_sublist (s : State) (source : BaseTraceSource) (formed : s.WellFormed)
    (sublist : (BaseTraceSource.bound source).Sublist (BaseTraceSource.bound s.source))
    (clients : ∀ b ∈ source.clients, b ∈ s.source.clients) : { s with source := source }.WellFormed where
  numbers := formed.numbers.sublist (sublist.map _)
  ids := formed.ids.sublist (sublist.map _)
  made := fun b member => formed.made b (sublist.subset member)
  below := fun b member => formed.below b (sublist.subset member)
  registered := fun b member => formed.registered b (clients b member)
  gone := fun id client going =>
    ⟨(formed.gone id client going).1, fun b member => (formed.gone id client going).2 b (sublist.subset member)⟩

theorem connect_cases (s t : State) (info : DdConnectionInfo) (created : ClientState)
    (next : s.next (.onDriverConnected info created) = some t) :
    s.connections info.umdConnectionId = .none ∧
    ((∃ unsupported, t =
      { s with
        source := { s.source with unsupportedClients := unsupported }
        connections := Function.update s.connections info.umdConnectionId .made
        pushed := (info.umdConnectionId, .disabled) :: s.pushed }) ∨
    t =
      { s with
        source := { s.source with pendingClients := s.source.pendingClients ++ [⟨info.connection, s.nextClient⟩] }
        connections := Function.update s.connections info.umdConnectionId .made
        states := Function.update s.states s.nextClient created
        nextClient := s.nextClient + 1 }) := by
  cases fresh : s.connections info.umdConnectionId with
  | made => simp [State.next, fresh] at next
  | going client => simp [State.next, fresh] at next
  | none =>
      simp only [State.next, fresh, Option.some.injEq] at next
      refine ⟨rfl, ?_⟩
      subst next
      by_cases disabled : s.source.systemDisabledReason = .enabled
      · by_cases supported : info.connection.api ∈ s.source.supportedApis
        · exact .inr (by simp [State.onDriverConnected, disabled, supported])
        · exact .inl ⟨s.source.unsupportedClients ++ [info.connection],
            by simp [State.onDriverConnected, State.updateFeatureState, disabled, supported]⟩
      · exact .inl ⟨s.source.unsupportedClients,
          by simp [State.onDriverConnected, State.updateFeatureState, disabled]⟩

theorem unused_id (s : State) (id : DdConnectionId) (formed : s.WellFormed) (fresh : s.connections id = .none) :
    ∀ b ∈ BaseTraceSource.bound s.source, b.umdConnectionId ≠ id := by
  intro b member same
  have made := formed.made b member
  rw [same, fresh] at made
  cases made

theorem created_last (source : BaseTraceSource) (new : BoundClient) :
    (BaseTraceSource.bound { source with pendingClients := source.pendingClients ++ [new] }).Perm
      (new :: BaseTraceSource.bound source) :=
  (List.perm_append_singleton new _).append_right _

theorem formed_connected (s t : State) (info : DdConnectionInfo) (created : ClientState) (formed : s.WellFormed)
    (next : s.next (.onDriverConnected info created) = some t) : t.WellFormed := by
  obtain ⟨fresh, outcome⟩ := connect_cases s t info created next
  have apart := unused_id s _ formed fresh
  have made : ∀ b ∈ BaseTraceSource.bound s.source,
      Function.update s.connections info.umdConnectionId .made b.umdConnectionId = .made := by
    intro b member
    rw [Function.update_of_ne (apart b member)]
    exact formed.made b member
  have gone : ∀ id client, Function.update s.connections info.umdConnectionId .made id = .going (some client) →
      client < s.nextClient ∧ ∀ b ∈ BaseTraceSource.bound s.source, b.client ≠ client := by
    intro id client going
    by_cases same : id = info.umdConnectionId
    · rw [same, Function.update_self] at going
      cases going
    · rw [Function.update_of_ne same] at going
      exact formed.gone id client going
  obtain ⟨_, rfl⟩ | rfl := outcome
  · exact ⟨formed.numbers, formed.ids, made, formed.below, formed.registered, gone⟩
  · have perm := created_last s.source ⟨info.connection, s.nextClient⟩
    refine ⟨?_, ?_, fun b member => ?_, fun b member => ?_, formed.registered, fun id client going => ?_⟩
    · refine (perm.map BoundClient.client).nodup_iff.mpr (List.nodup_cons.mpr ⟨fun listed => ?_, formed.numbers⟩)
      obtain ⟨b, member, same⟩ := List.mem_map.mp listed
      exact absurd same (Nat.ne_of_lt (formed.below b member))
    · refine (perm.map BoundClient.umdConnectionId).nodup_iff.mpr
        (List.nodup_cons.mpr ⟨fun listed => ?_, formed.ids⟩)
      obtain ⟨b, member, same⟩ := List.mem_map.mp listed
      exact apart b member same
    · obtain rfl | before := List.mem_cons.mp (perm.mem_iff.mp member)
      · exact Function.update_self _ _ _
      · exact made b before
    · obtain rfl | before := List.mem_cons.mp (perm.mem_iff.mp member)
      · exact Nat.lt_succ_self _
      · exact Nat.lt_succ_of_lt (formed.below b before)
    · obtain ⟨older, apart⟩ := gone id client going
      refine ⟨Nat.lt_succ_of_lt older, fun b member => ?_⟩
      obtain rfl | before := List.mem_cons.mp (perm.mem_iff.mp member)
      · exact Nat.ne_of_gt older
      · exact apart b before

theorem formed_init (s : State) (id : DdConnectionId) (reached : Bool) (initialized : Result)
    (formed : s.WellFormed) : (s.initClientIfNeeded id reached initialized).WellFormed := by
  obtain same | ⟨b, found, _, same | same⟩ := init_cases s id reached initialized formed
  · rw [same]
    exact formed
  · rw [same]
    exact formed_sublist s _ formed ((Keyed.remove_sublist _ _ _).append (List.Sublist.refl _)) fun _ member => member
  · rw [same]
    have perm := bound_moved s.source id b found
    have registered : ∀ c ∈ s.source.clients ++ [b], Function.update s.registered b.client true c.client = true := by
      intro c member
      by_cases sameClient : c.client = b.client
      · rw [sameClient, Function.update_self]
      · rw [Function.update_of_ne sameClient]
        obtain before | here := List.mem_append.mp member
        · exact formed.registered c before
        · exact absurd (congrArg BoundClient.client (List.mem_singleton.mp here)) sameClient
    exact ⟨(perm.map _).nodup_iff.mpr formed.numbers, (perm.map _).nodup_iff.mpr formed.ids,
      fun c member => formed.made c (perm.mem_iff.mp member), fun c member => formed.below c (perm.mem_iff.mp member),
      registered, fun id client going => ⟨(formed.gone id client going).1,
        fun c member => (formed.gone id client going).2 c (perm.mem_iff.mp member)⟩⟩

theorem set_state_cases (s : State) (client : ClientId) (posted state : ClientState) :
    ∃ pushed, s.setState client posted state =
        { s with states := Function.update s.states client state, pushed := pushed } ∧
      ((s.registered client = false ∨ s.source.clients = []) ∧ pushed = s.pushed ∨
        s.registered client = true ∧ ∃ front rest, s.source.clients = front :: rest ∧
          pushed = (front.umdConnectionId, clientStateToOverlayState posted) :: s.pushed) := by
  cases registered : s.registered client with
  | false => exact ⟨s.pushed, by simp [State.setState, registered], .inl ⟨.inl rfl, rfl⟩⟩
  | true =>
      cases clients : s.source.clients with
      | nil =>
          exact ⟨s.pushed, by simp [State.setState, registered, State.onClientStateChangeEvent, clients],
            .inl ⟨.inr rfl, rfl⟩⟩
      | cons front rest =>
          exact ⟨_, by simp [State.setState, registered, State.onClientStateChangeEvent, clients,
            State.updateFeatureState], .inr ⟨rfl, front, rest, rfl, rfl⟩⟩

theorem formed_disconnected (s : State) (id : DdConnectionId) (formed : s.WellFormed) (made : s.connections id = .made) :
    (s.onDriverDisconnected id).WellFormed := by
  have sublist := removed_sublist s.source id
  have apart := removed_ids s.source id formed.ids
  have without := formed_sublist s (s.source.removeConnection id) formed sublist
    fun b member => (Keyed.remove_sublist _ _ _).subset member
  refine ⟨without.numbers, without.ids, fun b member => ?_, without.below, without.registered,
    fun other client going => ?_⟩
  · simp only [State.onDriverDisconnected, Function.update_of_ne (apart b member)]
    exact without.made b member
  · by_cases same : other = id
    · subst same
      simp only [State.onDriverDisconnected, Function.update_self, Connection.going.injEq] at going
      obtain ⟨removed, found, rfl⟩ := Option.map_eq_some_iff.mp going
      obtain ⟨member, sameId⟩ := Keyed.lookup_mem _ _ _ removed found
      have wasBound := List.mem_append_right s.source.pendingClients member
      refine ⟨formed.below removed wasBound, fun b left sameClient => ?_⟩
      have same := List.inj_on_of_nodup_map formed.numbers (sublist.subset left) wasBound sameClient
      exact apart b left (same ▸ sameId)
    · simp only [State.onDriverDisconnected, Function.update_of_ne same] at going
      exact without.gone other client going

theorem formed_step (s t : State) (a : Action) (formed : s.WellFormed) (next : s.next a = some t) : t.WellFormed := by
  cases a with
  | onDriverConnected info created => exact formed_connected s t info created formed next
  | initClientIfNeeded id reached initialized =>
      cases next
      exact formed_init s id reached initialized formed
  | setState client posted state =>
      obtain ⟨_, same⟩ := Option.ite_none_right_eq_some.mp next
      cases same
      obtain ⟨pushed, same, _⟩ := set_state_cases s client posted state
      rw [same]
      exact ⟨formed.numbers, formed.ids, formed.made, formed.below, formed.registered, formed.gone⟩
  | onDriverDisconnected id =>
      obtain ⟨made, same⟩ := Option.ite_none_right_eq_some.mp next
      cases same
      exact formed_disconnected s id formed made
  | disconnectReturns id =>
      cases going : s.connections id with
      | none => simp [State.next, going] at next
      | made => simp [State.next, going] at next
      | going client =>
          simp only [State.next, going, Option.some.injEq] at next
          subst next
          refine ⟨formed.numbers, formed.ids, fun b member => ?_, formed.below, fun b member => ?_,
            fun other removed goes => ?_⟩
          · have made := formed.made b member
            have apart : b.umdConnectionId ≠ id := by
              intro same
              rw [same, going] at made
              cases made
            simpa [State.disconnectReturns, apart] using made
          · have kept : client ≠ some b.client := by
              rintro rfl
              exact (formed.gone id b.client going).2 b (List.mem_append_right _ member) rfl
            simp [State.disconnectReturns, formed.registered b member, kept]
          · by_cases same : other = id
            · simp [State.disconnectReturns, same] at goes
            · simp only [State.disconnectReturns, Function.update_of_ne same] at goes
              exact formed.gone other removed goes
  | setDisabledReason reason =>
      cases next
      exact ⟨formed.numbers, formed.ids, formed.made, formed.below, formed.registered, formed.gone⟩
  | setApiFilter apis =>
      cases next
      exact ⟨formed.numbers, formed.ids, formed.made, formed.below, formed.registered, formed.gone⟩

theorem pushed_elsewhere (s t : State) (id : DdConnectionId) (state : OverlayState)
    (pushed : t.pushed = (id, state) :: s.pushed) (other : DdConnectionId) (apart : other ≠ id) :
    t.lastPushed other = s.lastPushed other := by
  rw [State.lastPushed, pushed, KeyedValues.get_cons, if_neg (Ne.symm apart)]
  rfl

theorem pushed_here (t : State) (id : DdConnectionId) (state : OverlayState) (older : List (DdConnectionId × OverlayState))
    (pushed : t.pushed = (id, state) :: older) : t.lastPushed id = some state := by
  rw [State.lastPushed, pushed, KeyedValues.get_cons, if_pos rfl]

-- What a registered client's post does while `front` is the first of the list.
def State.heard (s : State) (front : BoundClient) (client : ClientId) (posted state : ClientState) : State :=
  { s with
    states := Function.update s.states client state
    pushed := (front.umdConnectionId, clientStateToOverlayState posted) :: s.pushed }

theorem heard_front (s : State) (front : BoundClient) (client : ClientId) (posted state : ClientState) :
    (s.heard front client posted state).lastPushed front.umdConnectionId = some (clientStateToOverlayState posted) :=
  pushed_here _ _ _ _ rfl

theorem heard_states (s : State) (front : BoundClient) (client : ClientId) (posted state : ClientState) :
    (s.heard front client posted state).states = Function.update s.states client state := rfl

section

variable (s : State) (formed : s.WellFormed)

include formed

theorem listed_client (a b : BoundClient) (first : a ∈ s.source.clients) (second : b ∈ s.source.clients) :
    (a.client = b.client → a = b) ∧ (a.umdConnectionId = b.umdConnectionId → a = b) :=
  ⟨fun same => List.inj_on_of_nodup_map formed.numbers (List.mem_append_right _ first)
    (List.mem_append_right _ second) same,
   fun same => List.inj_on_of_nodup_map formed.ids (List.mem_append_right _ first)
    (List.mem_append_right _ second) same⟩

theorem agrees_connected (t : State) (info : DdConnectionInfo) (created : ClientState) (agrees : s.Agrees)
    (next : s.next (.onDriverConnected info created) = some t) : t.Agrees := by
  obtain ⟨fresh, outcome⟩ := connect_cases s t info created next
  have apart := unused_id s _ formed fresh
  intro b member
  obtain ⟨_, rfl⟩ | rfl := outcome
  · rw [pushed_elsewhere s _ _ _ rfl _ (apart b (List.mem_append_right _ member))]
    exact agrees b member
  · have older := formed.below b (List.mem_append_right _ member)
    have kept := Function.update_of_ne (Nat.ne_of_lt older) created s.states
    exact (agrees b member).trans (congrArg (some ∘ clientStateToOverlayState) kept.symm)

theorem agrees_init (id : DdConnectionId) (reached : Bool) (initialized : Result) (agrees : s.Agrees) :
    (s.initClientIfNeeded id reached initialized).Agrees := by
  obtain same | ⟨b, found, sameId, same | same⟩ := init_cases s id reached initialized formed
  · rw [same]
    exact agrees
  · rw [same]
    exact agrees
  · rw [same]
    intro c member
    obtain before | here := List.mem_append.mp member
    · have pending := (Keyed.lookup_mem _ _ _ b found).1
      have apart : c.umdConnectionId ≠ id := by
        rw [← sameId]
        have distinct := formed.ids
        rw [List.map_append] at distinct
        exact fun same => (List.disjoint_of_nodup_append distinct) (List.mem_map_of_mem pending)
          (same ▸ List.mem_map_of_mem before)
      rw [pushed_elsewhere s _ _ _ rfl _ apart]
      exact agrees c before
    · rw [List.mem_singleton.mp here, sameId]
      exact pushed_here _ _ _ _ rfl

theorem agrees_unheard (client : ClientId) (state : ClientState)
    (silent : s.registered client = false ∨ s.source.clients = []) (agrees : s.Agrees) :
    State.Agrees { s with states := Function.update s.states client state } := by
  intro b member
  have apart : b.client ≠ client := by
    intro sameClient
    obtain unregistered | empty := silent
    · rw [← sameClient, formed.registered b member] at unregistered
      cases unregistered
    · rw [empty] at member
      cases member
  have kept := Function.update_of_ne apart state s.states
  exact (agrees b member).trans (congrArg (some ∘ clientStateToOverlayState) kept.symm)

section Heard
variable (front : BoundClient) (client : ClientId) (posted state : ClientState) (first : front ∈ s.source.clients)
  (agrees : s.Agrees)
include first agrees

theorem heard_elsewhere (b : BoundClient) (member : b ∈ s.source.clients) (apart : b ≠ front) :
    (s.heard front client posted state).lastPushed b.umdConnectionId =
      some (clientStateToOverlayState (s.states b.client)) := by
  have otherId : b.umdConnectionId ≠ front.umdConnectionId :=
    fun sameId => apart ((listed_client s formed b front member first).2 sameId)
  rw [pushed_elsewhere s _ front.umdConnectionId (clientStateToOverlayState posted) rfl b.umdConnectionId otherId]
  exact agrees b member

theorem agrees_heard_own (own : front.client = client) :
    (s.heard front client posted state).Agrees ↔ posted = state := by
  constructor
  · intro after
    have here := after front first
    rw [heard_front, heard_states, own, Function.update_self, Option.some.injEq] at here
    exact overlay_state_injective _ _ here
  · rintro rfl b member
    by_cases isFront : b = front
    · rw [isFront, heard_front, heard_states, own, Function.update_self]
    · have apart : b.client ≠ client :=
        fun sameClient => isFront ((listed_client s formed b front member first).1 (sameClient.trans own.symm))
      rw [heard_elsewhere s formed front client posted posted first agrees b member isFront, heard_states,
        Function.update_of_ne apart]

theorem agrees_heard_other (other : front.client ≠ client) :
    (s.heard front client posted state).Agrees ↔
      s.states front.client = posted ∧ (listed s client → s.states client = state) := by
  have elsewhere := heard_elsewhere s formed front client posted state first agrees
  constructor
  · intro after
    have here := after front first
    rw [heard_front, heard_states, Function.update_of_ne other, Option.some.injEq] at here
    refine ⟨(overlay_state_injective _ _ here).symm, fun isListed => ?_⟩
    obtain ⟨b, member, sameClient⟩ := List.mem_map.mp isListed
    have apart : b ≠ front := fun isFront => other (isFront ▸ sameClient)
    have there := after b member
    rw [elsewhere b member apart, heard_states, sameClient, Function.update_self, Option.some.injEq] at there
    exact overlay_state_injective _ _ there
  · rintro ⟨frontState, unchanged⟩ b member
    by_cases isFront : b = front
    · rw [isFront, heard_front, heard_states, Function.update_of_ne other, frontState]
    · rw [elsewhere b member isFront, heard_states]
      by_cases sameClient : b.client = client
      · rw [sameClient, Function.update_self, unchanged (List.mem_map.mpr ⟨b, member, sameClient⟩)]
      · rw [Function.update_of_ne sameClient]

end Heard

-- A post leaves the listed clients right exactly if it is the first client's own.
theorem agrees_set_state (client : ClientId) (posted state : ClientState) (agrees : s.Agrees) :
    (s.setState client posted state).Agrees ↔ postsOwn s (.setState client posted state) := by
  obtain ⟨pushed, same, ⟨silent, rfl⟩ | ⟨registered, front, rest, clients, rfl⟩⟩ := set_state_cases s client posted state
  · have holds : postsOwn s (.setState client posted state) := by
      intro registered front first
      obtain unregistered | empty := silent
      · rw [registered] at unregistered
        cases unregistered
      · rw [empty] at first
        cases first
    rw [same]
    exact ⟨fun _ => holds, fun _ => agrees_unheard s formed client state silent agrees⟩
  · have first : front ∈ s.source.clients := clients ▸ List.mem_cons_self
    have meaning : postsOwn s (.setState client posted state) ↔
        if front.client = client then posted = state
        else s.states front.client = posted ∧ (listed s client → s.states client = state) := by
      simp [postsOwn, registered, clients]
    rw [meaning, same]
    by_cases own : front.client = client
    · rw [if_pos own]
      exact agrees_heard_own s formed front client posted state first agrees own
    · rw [if_neg own]
      exact agrees_heard_other s formed front client posted state first agrees own

end

theorem agrees_step (s t : State) (a : Action) (formed : s.WellFormed) (agrees : s.Agrees)
    (own : postsOwn s a) (next : s.next a = some t) : t.Agrees := by
  cases a with
  | onDriverConnected info created => exact agrees_connected s formed t info created agrees next
  | initClientIfNeeded id reached initialized =>
      cases next
      exact agrees_init s formed id reached initialized agrees
  | setState client posted state =>
      obtain ⟨_, same⟩ := Option.ite_none_right_eq_some.mp next
      cases same
      exact (agrees_set_state s formed client posted state agrees).mpr own
  | onDriverDisconnected id =>
      obtain ⟨_, same⟩ := Option.ite_none_right_eq_some.mp next
      cases same
      exact fun b member => agrees b ((Keyed.remove_sublist _ _ _).subset member)
  | disconnectReturns id =>
      cases going : s.connections id with
      | none => simp [State.next, going] at next
      | made => simp [State.next, going] at next
      | going client =>
          simp only [State.next, going, Option.some.injEq] at next
          subst next
          exact agrees
  | setDisabledReason reason =>
      cases next
      exact agrees
  | setApiFilter apis =>
      cases next
      exact agrees

theorem own_only_if (s t : State) (a : Action) (formed : s.WellFormed) (agrees : s.Agrees)
    (next : s.next a = some t) (after : t.Agrees) : postsOwn s a := by
  cases a with
  | setState client posted state =>
      obtain ⟨_, same⟩ := Option.ite_none_right_eq_some.mp next
      cases same
      exact (agrees_set_state s formed client posted state agrees).mp after
  | onDriverConnected info created => trivial
  | initClientIfNeeded id reached initialized => trivial
  | onDriverDisconnected id => trivial
  | disconnectReturns id => trivial
  | setDisabledReason reason => trivial
  | setApiFilter apis => trivial

theorem formed_reachable (s : State) (reach : Reachable overlayPushes s) : s.WellFormed := by
  refine reachable_invariant overlayPushes State.WellFormed ?_ (fun s a t formed next => formed_step s t a formed next)
    s reach
  exact ⟨List.nodup_nil, List.nodup_nil, by simp [overlayPushes, State.initial, BaseTraceSource.initial],
    by simp [overlayPushes, State.initial, BaseTraceSource.initial],
    by simp [overlayPushes, State.initial, BaseTraceSource.initial], by simp [overlayPushes, State.initial]⟩

theorem overlay_states_own (actions : List Action) :
    Meets overlayPushes postsOwn .initial actions ↔ Always overlayPushes State.Agrees .initial actions := by
  have start : State.initial.Agrees := by simp [State.Agrees, State.initial, BaseTraceSource.initial]
  refine keeps_iff_always overlayPushes postsOwn State.Agrees start (fun s a t reach agrees next => ?_) actions
  have formed := formed_reachable s reach
  constructor
  · exact own_only_if s t a formed agrees next
  · exact fun own => agrees_step s t a formed agrees own next

def vulkanApp (id : DdConnectionId) : DdConnectionInfo := ⟨id, 100, "app", some "Vulkan"⟩

-- The second client starts a capture, and the first one's overlay says so.
theorem second_client_pushed_as_first : ¬ ∀ s, Reachable overlayPushes s → s.Agrees := by
  intro claimed
  obtain ⟨s, reach, found⟩ := exec_finds overlayPushes
    [.onDriverConnected (vulkanApp 1) .idle, .initClientIfNeeded 1 true .success,
      .onDriverConnected (vulkanApp 2) .idle, .initClientIfNeeded 2 true .success, .setState 1 .capturing .capturing]
    (fun s => s.source.clients.map (fun b => (b.umdConnectionId, s.states b.client)) = [(1, .idle), (2, .capturing)] ∧
      s.lastPushed 1 = some .capturing) (by decide)
  have values : s.source.clients.map (fun b => (b.umdConnectionId, s.states b.client)) = [(1, .idle), (2, .capturing)] ∧
      s.lastPushed 1 = some .capturing := of_decide_eq_true found
  have first : (1, ClientState.idle) ∈ s.source.clients.map fun b => (b.umdConnectionId, s.states b.client) := by
    rw [values.1]
    exact List.mem_cons_self
  obtain ⟨b, member, same⟩ := List.mem_map.mp first
  obtain ⟨sameId, idle⟩ := Prod.mk.inj same
  have agrees := claimed s reach b member
  rw [sameId, values.2, idle] at agrees
  cases agrees

end RadeonPanel.TraceSource.Overlay

import RadeonPanel.Base.History
import RadeonPanel.Base.Lease
import RadeonPanel.Ubertrace.Locking

set_option autoImplicit false

namespace RadeonPanel.Ubertrace

open Interleaving

-- The connection as its users and the driver see it: who has it, how often it was
-- made and how often it was given up.
def ledger : List Event → Lease UbertraceUserId
  | [] => .empty
  | .returned (.initializeUser user _) .success :: older =>
      { ledger older with holders := insert user (ledger older).holders }
  | .disconnected user :: older => { ledger older with holders := (ledger older).holders.erase user }
  | .driverConnect .success :: older => { ledger older with opened := (ledger older).opened + 1 }
  | .driverDisconnect :: older => { ledger older with closed := (ledger older).closed + 1 }
  | _ :: older => ledger older

def connectionOpen : List Event → Bool
  | [] => false
  | .driverConnect .success :: _ => true
  | .driverDisconnect :: _ => false
  | _ :: older => connectionOpen older

def ConnectedAtSuccess : List Event → Prop :=
  AtEach fun event older => ∀ user enable, event = .returned (.initializeUser user enable) .success →
    connectionOpen older = true

-- The calls a connection's thread makes: a user without the connection asks for
-- it, a user that has it gives it up, one call after the other.
def onConnectionThread (s : State) : Action → Bool
  | .call id (.initializeUser user _) => id = 0 && user ∉ (ledger s.log).holders
  | .call id (.disconnect user) => id = 0 && user ∈ (ledger s.log).holders
  | _ => true

def initializeSucceeds (s : State) : Action → Bool
  | .caller id (.driver result) =>
      match s.callers id with
      | .initializeUser _ _ _ => result = .success
      | _ => true
  | _ => true

def connectsReliably (s : State) (a : Action) : Bool := onConnectionThread s a && initializeSucceeds s a

def CallerPc.connecting (pc : CallerPc) : Bool :=
  pc.operation = some .initializeUser || pc.operation = some .disconnect

structure Settled (users : Finset UbertraceUserId) (l : Lease UbertraceUserId) (isOpen : Bool) : Prop where
  users : users = l.holders
  balanced : l.Balanced
  isOpen : isOpen = true ↔ l.holders ≠ ∅

structure Joining (user : UbertraceUserId) (users : Finset UbertraceUserId) (l : Lease UbertraceUserId)
    (isOpen : Bool) : Prop where
  users : users = insert user l.holders
  balanced : Lease.Balanced { l with holders := insert user l.holders }
  isOpen : isOpen = true

structure Leaving (user : UbertraceUserId) (users : Finset UbertraceUserId) (l : Lease UbertraceUserId)
    (isOpen : Bool) : Prop where
  held : user ∈ l.holders
  users : users = l.holders.erase user
  balanced : l.Balanced
  isOpen : isOpen = true

-- What the registered users and the history say while the connection's thread is at `pc`.
def ConnectionAt (pc : CallerPc) (users : Finset UbertraceUserId) (l : Lease UbertraceUserId) (isOpen : Bool) : Prop :=
  match pc with
  | .initializeUser user _ .lock => user ∉ l.holders ∧ Settled users l isOpen
  | .initializeUser user _ .doInit => users = {user} ∧ l.holders = ∅ ∧ l.Balanced
  | .initializeUser user _ .enableTracing => Joining user users l isOpen
  | .disconnect user .empty => Leaving user users l isOpen
  | .disconnect user .driver => users = ∅ ∧ Leaving user users l isOpen
  | .disconnect user .done =>
      users = l.holders.erase user ∧ users = ∅ ∧ isOpen = false ∧
        Lease.Balanced { l with holders := l.holders.erase user }
  | .disconnect user _ => user ∈ l.holders ∧ Settled users l isOpen
  | _ => Settled users l isOpen

theorem connection_elsewhere (pc : CallerPc) (users : Finset UbertraceUserId) (l : Lease UbertraceUserId)
    (isOpen : Bool) (elsewhere : pc.connecting = false) : ConnectionAt pc users l isOpen ↔ Settled users l isOpen := by
  cases pc with
  | initializeUser _ _ _ | disconnect _ _ => cases elsewhere
  | _ => exact Iff.rfl

theorem ledger_elsewhere (events log : List Event) (elsewhere : ∀ event ∈ events,
    event.operation ≠ some .initializeUser ∧ event.operation ≠ some .disconnect) :
    ledger (events ++ log) = ledger log ∧ connectionOpen (events ++ log) = connectionOpen log := by
  induction events with
  | nil => exact ⟨rfl, rfl⟩
  | cons event rest ih =>
      obtain ⟨noInitialize, noDisconnect⟩ := elsewhere event List.mem_cons_self
      have later := ih fun other member => elsewhere other (List.mem_cons_of_mem _ member)
      cases event with
      | driverConnect _ => exact absurd rfl noInitialize
      | disconnected _ | driverDisconnect => exact absurd rfl noDisconnect
      | returned call result =>
          cases call with
          | initializeUser _ _ => exact absurd rfl noInitialize
          | _ => exact later
      | _ => exact later

theorem connected_elsewhere (events log : List Event) (elsewhere : ∀ event ∈ events,
    event.operation ≠ some .initializeUser ∧ event.operation ≠ some .disconnect)
    (connected : ConnectedAtSuccess log) : ConnectedAtSuccess (events ++ log) := by
  refine at_each_append _ events log (fun event member older user enable same => ?_) connected
  exact absurd (same ▸ rfl) (elsewhere event member).1

section

variable (user : UbertraceUserId) (users : Finset UbertraceUserId) (l : Lease UbertraceUserId) (isOpen : Bool)

theorem join_first (absent : user ∉ l.holders) (settled : Settled users l isOpen)
    (single : (insert user users).card = 1) : insert user users = {user} ∧ l.holders = ∅ ∧ l.Balanced := by
  have fresh : user ∉ users := by rwa [settled.users]
  rw [Finset.card_insert_of_notMem fresh] at single
  have none : users = ∅ := Finset.card_eq_zero.mp (by omega)
  rw [none]
  exact ⟨rfl, settled.users.symm.trans none, settled.balanced⟩

theorem join_later (absent : user ∉ l.holders) (settled : Settled users l isOpen)
    (several : (insert user users).card ≠ 1) : Joining user (insert user users) l isOpen := by
  have fresh : user ∉ users := by rwa [settled.users]
  rw [Finset.card_insert_of_notMem fresh] at several
  have used : l.holders ≠ ∅ := by
    rw [← settled.users]
    intro none
    rw [none] at several
    exact several rfl
  have balanced := join_balanced l user settled.balanced
  rw [Lease.join, if_neg used] at balanced
  exact ⟨by rw [settled.users], balanced, settled.isOpen.mpr used⟩

theorem connect_joining (single : users = {user}) (unused : l.holders = ∅) (balanced : l.Balanced) :
    Joining user users { l with opened := l.opened + 1 } true := by
  have joined := join_balanced l user balanced
  rw [Lease.join, if_pos unused] at joined
  exact ⟨by rw [single, unused]; rfl, joined, rfl⟩

theorem joining_settled (joining : Joining user users l isOpen) :
    Settled users { l with holders := insert user l.holders } isOpen := by
  refine ⟨joining.users, joining.balanced, fun _ => ?_, fun _ => joining.isOpen⟩
  exact Finset.insert_ne_empty user _

theorem settled_leaving (held : user ∈ l.holders) (settled : Settled users l isOpen) :
    Leaving user (users.erase user) l isOpen :=
  ⟨held, by rw [settled.users], settled.balanced, settled.isOpen.mpr (Finset.ne_empty_of_mem held)⟩

theorem leaving_settled (leaving : Leaving user users l isOpen) (others : users ≠ ∅) :
    Settled users { l with holders := l.holders.erase user } isOpen := by
  have remain : l.holders.erase user ≠ ∅ := leaving.users ▸ others
  have balanced := leave_balanced l user leaving.held leaving.balanced
  rw [Lease.leave, if_neg remain] at balanced
  exact ⟨leaving.users, balanced, fun _ => remain, fun _ => leaving.isOpen⟩

theorem leaving_closed (leaving : Leaving user users l isOpen) (last : users = ∅) :
    Lease.Balanced ⟨l.holders.erase user, l.opened, l.closed + 1⟩ := by
  have gone : l.holders.erase user = ∅ := leaving.users ▸ last
  have balanced := leave_balanced l user leaving.held leaving.balanced
  rwa [Lease.leave, if_pos gone] at balanced

theorem closed_settled (erased : users = l.holders.erase user) (last : users = ∅) (given : isOpen = false)
    (balanced : Lease.Balanced { l with holders := l.holders.erase user }) :
    Settled users { l with holders := l.holders.erase user } isOpen := by
  subst given
  exact ⟨erased, balanced, nofun, fun used => absurd (erased.symm.trans last) used⟩

end

theorem initialize_connection (o : UbertraceOrchestrator) (free enable : Bool) (user : UbertraceUserId)
    (pc : InitializePc) (answer : Answer) (e : Effect InitializePc) (log : List Event)
    (next : initializeStep o free user enable pc answer = some e)
    (reliable : ∀ result, answer = .driver result → result = .success)
    (connection : ConnectionAt (.initializeUser user enable pc) o.initializedUsers (ledger log) (connectionOpen log))
    (connected : ConnectedAtSuccess log) :
    ConnectionAt (e.inCall (.initializeUser user enable)).pc e.orch.initializedUsers (ledger (e.events ++ log))
      (connectionOpen (e.events ++ log)) ∧ ConnectedAtSuccess (e.events ++ log) := by
  revert next
  fun_cases initializeStep o free user enable pc answer
  all_goals intro next
  all_goals cases next
  case case2 => exact ⟨connection.2, by simp, connected⟩
  case case3 single => exact ⟨join_first user _ _ _ connection.1 connection.2 single, connected⟩
  case case4 several => exact ⟨join_later user _ _ _ connection.1 connection.2 several, connected⟩
  case case5 refused => exact absurd (reliable _ rfl) refused
  case case6 accepted =>
    rw [not_not.mp accepted]
    obtain ⟨single, unused, balanced⟩ := connection
    exact ⟨connect_joining user _ _ single unused balanced, by simp, connected⟩
  case case7 => exact ⟨joining_settled user _ _ _ connection, fun _ _ _ => connection.isOpen, connected⟩
  case case10 refused => exact absurd (reliable _ rfl) refused
  case case11 => exact ⟨joining_settled user _ _ _ connection, fun _ _ _ => connection.isOpen, by simp, connected⟩

theorem disconnect_connection (o : UbertraceOrchestrator) (free joined : Bool) (user : UbertraceUserId)
    (pc : DisconnectPc) (answer : Answer) (e : Effect DisconnectPc) (log : List Event)
    (next : disconnectStep o free joined user pc answer = some e)
    (connection : ConnectionAt (.disconnect user pc) o.initializedUsers (ledger log) (connectionOpen log))
    (connected : ConnectedAtSuccess log) :
    ConnectionAt (e.inCall (.disconnect user)).pc e.orch.initializedUsers (ledger (e.events ++ log))
      (connectionOpen (e.events ++ log)) ∧ ConnectedAtSuccess (e.events ++ log) := by
  revert next
  fun_cases disconnectStep o free joined user pc answer
  all_goals intro next
  all_goals cases next
  case case5 => exact ⟨connection, by simp, connected⟩
  case case8 => exact ⟨settled_leaving user _ _ _ connection.1 connection.2, connected⟩
  case case9 last => exact ⟨⟨last, connection⟩, connected⟩
  case case10 others => exact ⟨leaving_settled user _ _ _ connection others, by simp, connected⟩
  case case11 =>
    obtain ⟨last, leaving⟩ := connection
    exact ⟨⟨leaving.users, last, rfl, leaving_closed user _ _ _ leaving last⟩, by simp, connected⟩
  case case13 =>
    obtain ⟨erased, last, given, balanced⟩ := connection
    exact ⟨closed_settled user _ _ _ erased last given balanced, by simp, connected⟩
  all_goals exact ⟨connection, connected⟩

structure State.Connected (s : State) : Prop where
  here : ConnectionAt (s.callers 0) s.orch.initializedUsers (ledger s.log) (connectionOpen s.log)
  alone : ∀ id, id ≠ 0 → (s.callers id).connecting = false
  past : ConnectedAtSuccess s.log

theorem connected_call (s : State) (id : Nat) (call : Call) (connected : s.Connected)
    (outside : s.callers id = .outside) (allowed : connectsReliably s (.call id call) = true) :
    State.Connected { s with callers := Function.update s.callers id (.enter call) } := by
  rw [connectsReliably, Bool.and_eq_true] at allowed
  obtain ⟨here, alone, past⟩ := connected
  by_cases mine : id = 0
  · subst mine
    refine ⟨?_, fun other apart => ?_, past⟩
    · simp only [Function.update_self]
      rw [outside] at here
      cases call with
      | initializeUser user enable =>
          have absent : user ∉ (ledger s.log).holders := by simpa [onConnectionThread] using allowed.1
          exact ⟨absent, here⟩
      | disconnect user =>
          have held : user ∈ (ledger s.log).holders := by simpa [onConnectionThread] using allowed.1
          exact ⟨held, here⟩
      | _ => exact here
    · simp only [Function.update_of_ne apart]
      exact alone other apart
  · refine ⟨by simpa only [Function.update_of_ne (Ne.symm mine)] using here, fun other apart => ?_, past⟩
    by_cases same : other = id
    · simp only [same, Function.update_self]
      cases call with
      | initializeUser user enable | disconnect user => simp [onConnectionThread, mine] at allowed
      | _ => rfl
    · simp only [Function.update_of_ne same]
      exact alone other apart

-- A step that belongs neither to `Initialize` nor to `Disconnect`.
theorem connected_elsewhere_step (s t : State) (events : List Event) (connected : s.Connected)
    (users : t.orch.initializedUsers = s.orch.initializedUsers) (log : t.log = events ++ s.log)
    (elsewhere : ∀ event ∈ events, event.operation ≠ some .initializeUser ∧ event.operation ≠ some .disconnect)
    (here : t.callers 0 = s.callers 0 ∨ (s.callers 0).connecting = false ∧ (t.callers 0).connecting = false)
    (alone : ∀ id, id ≠ 0 → (t.callers id).connecting = false) : t.Connected := by
  obtain ⟨sameLedger, sameOpen⟩ := ledger_elsewhere events s.log elsewhere
  refine ⟨?_, alone, by rw [log]; exact connected_elsewhere events s.log elsewhere connected.past⟩
  rw [users, log, sameLedger, sameOpen]
  obtain same | ⟨before, after⟩ := here
  · rw [same]
    exact connected.here
  · have settled := (connection_elsewhere _ _ _ _ before).mp connected.here
    exact (connection_elsewhere _ _ _ _ after).mpr settled

theorem connecting_operation (pc : CallerPc) (elsewhere : pc.connecting = false) :
    pc.operation ≠ some .initializeUser ∧ pc.operation ≠ some .disconnect := by
  simpa [CallerPc.connecting] using elsewhere

theorem connected_caller (s : State) (id : Nat) (answer : Answer) (e : CallerEffect) (connected : s.Connected)
    (allowed : connectsReliably s (.caller id answer) = true) (effect : s.callerEffect id answer = some e) :
    (s.applyCaller id e).Connected := by
  have footprint := caller_footprint _ _ _ _ _ _ _ _ effect
  have keeps : (s.callers id).connecting = false → e.pc.connecting = false := by
    intro before
    obtain ⟨noInitialize, noDisconnect⟩ := connecting_operation _ before
    obtain outside | same := caller_keeps_operation _ _ _ _ _ _ _ _ effect
    · rw [outside]
      rfl
    · simp [CallerPc.connecting, same, noInitialize, noDisconnect]
  have alone : ∀ other, other ≠ 0 → ((s.applyCaller id e).callers other).connecting = false := by
    intro other apart
    by_cases same : other = id
    · subst same
      simp only [State.applyCaller, Function.update_self]
      exact keeps (connected.alone other apart)
    · simp only [State.applyCaller, Function.update_of_ne same]
      exact connected.alone other apart
  by_cases elsewhere : (s.callers id).connecting = false
  · obtain ⟨noInitialize, noDisconnect⟩ := connecting_operation _ elsewhere
    refine connected_elsewhere_step s _ e.events connected (footprint.users noInitialize noDisconnect) rfl ?_ ?_ alone
    · intro event member
      rw [footprint.events event member]
      exact ⟨noInitialize, noDisconnect⟩
    · by_cases mine : id = 0
      · subst mine
        refine .inr ⟨elsewhere, ?_⟩
        simp only [State.applyCaller, Function.update_self]
        exact keeps elsewhere
      · exact .inl (Function.update_of_ne (Ne.symm mine) _ _)
  · obtain rfl : id = 0 := by
      by_contra apart
      exact elsewhere (connected.alone id apart)
    have here := connected.here
    rw [connectsReliably, Bool.and_eq_true] at allowed
    obtain ⟨connection, past⟩ : ConnectionAt e.pc e.orch.initializedUsers (ledger (e.events ++ s.log))
        (connectionOpen (e.events ++ s.log)) ∧ ConnectedAtSuccess (e.events ++ s.log) := by
      unfold State.callerEffect at effect
      cases at_ : s.callers 0 with
      | initializeUser user enable pc =>
          rw [at_] at effect here
          obtain ⟨inner, inside, rfl⟩ := Option.map_eq_some_iff.mp effect
          refine initialize_connection _ _ enable user pc answer inner s.log inside ?_ here connected.past
          rintro result rfl
          simpa [initializeSucceeds, at_] using allowed.2
      | disconnect user pc =>
          rw [at_] at effect here
          obtain ⟨inner, inside, rfl⟩ := Option.map_eq_some_iff.mp effect
          exact disconnect_connection _ _ _ user pc answer inner s.log inside here connected.past
      | _ => exact absurd (by rw [at_]; rfl) elsewhere
    refine ⟨?_, alone, past⟩
    simp only [State.applyCaller, Function.update_self]
    exact connection

theorem reach_connected (features : UbertraceFeatures) (s : State)
    (reach : Reach (ubertrace features) (fun s a => connectsReliably s a = true) s) : s.Connected := by
  refine reach_invariant (ubertrace features) _ State.Connected ⟨?_, fun _ _ => rfl, trivial⟩ ?_ s reach
  · exact ⟨rfl, empty_balanced, nofun, fun used => absurd rfl used⟩
  · intro s a t _ connected allowed next
    rcases step_cases s t a next with ⟨_, rfl⟩ | ⟨id, call, rfl, outside, rfl⟩ |
      ⟨id, answer, e, rfl, effect, rfl⟩ | ⟨id, answer, e, _, effect, rfl⟩
    · exact ⟨connected.here, connected.alone, connected.past⟩
    · exact connected_call s id call connected outside allowed
    · exact connected_caller s id answer e connected allowed effect
    · have footprint := poller_footprint _ _ _ _ _ (poller_moves _ _ _ _ _ _ effect)
      refine connected_elsewhere_step s _ e.events connected footprint.users rfl ?_ (.inl rfl) connected.alone
      intro event member
      obtain ofThread | ⟨capture, rfl⟩ := footprint.events event member
      · rw [ofThread]
        exact ⟨nofun, nofun⟩
      · exact ⟨nofun, nofun⟩

-- Every user that `Initialize` accepts has the connection, and when all have
-- given it up it has been given up as often as it was made.
theorem connection_follows_users (features : UbertraceFeatures) (s : State)
    (reach : Reach (ubertrace features) (fun s a => connectsReliably s a = true) s) :
    ConnectedAtSuccess s.log ∧
      ((∀ id, (s.callers id).connecting = false) → (ledger s.log).holders = ∅ →
        (ledger s.log).opened = (ledger s.log).closed) := by
  have connected := reach_connected features s reach
  refine ⟨connected.past, fun elsewhere unused => ?_⟩
  have settled := (connection_elsewhere _ _ _ _ (elsewhere 0)).mp connected.here
  exact balanced_unused _ settled.balanced unused

def disconnects (id : Nat) (user : UbertraceUserId) : List Action :=
  .call id (.disconnect user) :: List.replicate 8 (.caller id .go)

theorem two_users_connect_once : ∃ s,
    Reach (ubertrace .default) (fun s a => connectsReliably s a = true) s ∧
    (ledger s.log).opened = 1 ∧ (ledger s.log).closed = 1 ∧
    ConnectedAtSuccess s.log ∧ ((∀ id, (s.callers id).connecting = false) → (ledger s.log).holders = ∅ →
      (ledger s.log).opened = (ledger s.log).closed) := by
  obtain ⟨s, reach, found⟩ := exec_if_finds (ubertrace .default) connectsReliably
    (connects 0 1 ++ joins 0 2 ++ (disconnects 0 1).take 5 ++ disconnects 0 2)
    (fun s => (ledger s.log).opened = 1 ∧ (ledger s.log).closed = 1) (by decide)
  obtain ⟨opened, closed⟩ : (ledger s.log).opened = 1 ∧ (ledger s.log).closed = 1 := by simpa using found
  exact ⟨s, reach, opened, closed, connection_follows_users .default s reach⟩

-- The first user's connect fails, and the second one is told that it has the connection.
theorem failed_connect_counts : ∃ s, Reach (ubertrace .default) (fun s a => onConnectionThread s a = true) s ∧
    ¬ ConnectedAtSuccess s.log := by
  obtain ⟨s, reach, found⟩ := exec_if_finds (ubertrace .default) onConnectionThread
    ([.call 0 (.initializeUser 1 false), .caller 0 .go, .caller 0 (.driver (.other 1))] ++
      [.call 0 (.initializeUser 2 false), .caller 0 .go, .caller 0 .go])
    (fun s => s.log.head? = some (.returned (.initializeUser 2 false) .success) ∧ connectionOpen s.log.tail = false)
    (by decide)
  obtain ⟨succeeds, closed⟩ : s.log.head? = some (.returned (.initializeUser 2 false) .success) ∧
      connectionOpen s.log.tail = false := by simpa using found
  refine ⟨s, reach, fun connected => ?_⟩
  rw [← List.cons_head?_tail succeeds] at connected
  have isOpen := connected.1 2 false rfl
  rw [closed] at isOpen
  cases isOpen

end RadeonPanel.Ubertrace

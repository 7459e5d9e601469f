import Mathlib.Data.List.Count
import RadeonPanel.TraceSource.Consistency

set_option autoImplicit false

namespace RadeonPanel.TraceSource

open EventChannel Interleaving RadeonPanel.Ubertrace

-- The part of the state that the three callbacks of the driver keep.
structure Book where
  pending : List BoundClient
  clients : List BoundClient
  unsupported : List ClientConnection
  connected : DdConnectionId → Bool
  nextClient : ClientId
  lives : List Life

def State.book (s : State) : Book :=
  ⟨s.source.pendingClients, s.source.clients, s.source.unsupportedClients, s.connected, s.nextClient, s.lives⟩

-- Where the connection of an id is: in one of the lists, or its client in the
-- hand of the running call, initialized or not.
inductive Place where
  | nowhere
  | pending (b : BoundClient)
  | inHand (b : BoundClient) (initialized : Bool)
  | active (b : BoundClient)
  | unsupported (connection : ClientConnection)

structure Entries where
  pending : List BoundClient
  clients : List BoundClient
  unsupported : List ClientConnection

def Place.entries : Place → Entries
  | .nowhere | .inHand _ _ => ⟨[], [], []⟩
  | .pending b => ⟨[b], [], []⟩
  | .active b => ⟨[], [b], []⟩
  | .unsupported connection => ⟨[], [], [connection]⟩

def Place.bound : Place → Option BoundClient
  | .pending b | .inHand b _ | .active b => some b
  | .nowhere | .unsupported _ => none

-- Whether the client is the one that the place holds, and initialized then.
def Place.holds (client : ClientId) : Place → Option Bool
  | .pending b => if b.client = client then some false else none
  | .inHand b initialized => if b.client = client then some initialized else none
  | .active b => if b.client = client then some true else none
  | .nowhere | .unsupported _ => none

def Place.listed : Place → Bool
  | .inHand _ _ => false
  | _ => true

namespace Book

def entries (book : Book) (id : DdConnectionId) : Entries :=
  ⟨Keyed.only BoundClient.umdConnectionId book.pending id, Keyed.only BoundClient.umdConnectionId book.clients id,
    Keyed.only ClientConnection.umdConnectionId book.unsupported id⟩

def initializations (book : Book) (client : ClientId) : Nat := book.lives.count (.initialized client)

def disconnects (book : Book) (client : ClientId) : Nat := book.lives.count (.disconnected client)

-- A client that is held has not been disconnected, the others have been if they
-- were initialized.
def Settles (book : Book) (client : ClientId) : Option Bool → Prop
  | some initialized => book.initializations client = initialized.toNat ∧ book.disconnects client = 0
  | none => book.disconnects client = book.initializations client ∧ book.initializations client ≤ 1

structure Keeps (book : Book) (id : DdConnectionId) (place : Place) : Prop where
  unconnected : book.connected id = false → place = .nowhere
  entries : book.entries id = place.entries
  owned : ∀ b, place.bound = some b → b.umdConnectionId = id ∧ Life.created id b.client ∈ book.lives
  settles : ∀ client, Life.created id client ∈ book.lives → book.Settles client (place.holds client)

-- A client is created once, for one connection.
structure Owned (book : Book) : Prop where
  owner : ∀ id other client, Life.created id client ∈ book.lives → Life.created other client ∈ book.lives → id = other
  born : ∀ id client, Life.created id client ∈ book.lives → client < book.nextClient
  unborn : ∀ client, (∀ id, Life.created id client ∉ book.lives) →
    book.initializations client = 0 ∧ book.disconnects client = 0

-- What the step of one connection leaves to the others.
structure Elsewhere (before after : Book) (id : DdConnectionId) : Prop where
  connected : ∀ other, other ≠ id → after.connected other = before.connected other
  entries : ∀ other, other ≠ id → after.entries other = before.entries other
  created : ∀ other client, other ≠ id →
    (Life.created other client ∈ after.lives ↔ Life.created other client ∈ before.lives)
  counts : ∀ other client, other ≠ id → Life.created other client ∈ before.lives →
    after.initializations client = before.initializations client ∧ after.disconnects client = before.disconnects client

theorem settles_same (before after : Book) (client : ClientId) (held : Option Bool)
    (initialized : after.initializations client = before.initializations client)
    (disconnected : after.disconnects client = before.disconnects client)
    (settles : before.Settles client held) : after.Settles client held := by
  cases held with
  | none => exact ⟨disconnected.trans (settles.1.trans initialized.symm), initialized ▸ settles.2⟩
  | some now => exact ⟨initialized.trans settles.1, disconnected.trans settles.2⟩

theorem keeps_elsewhere (before after : Book) (id other : DdConnectionId) (place : Place)
    (elsewhere : Elsewhere before after id) (apart : other ≠ id) (keeps : before.Keeps other place) :
    after.Keeps other place := by
  refine ⟨?_, ?_, ?_, ?_⟩
  · rw [elsewhere.connected other apart]
    exact keeps.unconnected
  · rw [elsewhere.entries other apart]
    exact keeps.entries
  · intro b bound
    rw [elsewhere.created other b.client apart]
    exact keeps.owned b bound
  · intro client created
    have before_ := (elsewhere.created other client apart).mp created
    obtain ⟨initialized, disconnected⟩ := elsewhere.counts other client apart before_
    exact settles_same before after client _ initialized disconnected (keeps.settles client before_)

def record (book : Book) (event : Life) : Book := { book with lives := event :: book.lives }

def createClient (book : Book) (connection : ClientConnection) : Book :=
  { book with
    pending := book.pending ++ [⟨connection, book.nextClient⟩]
    nextClient := book.nextClient + 1
    lives := .created connection.umdConnectionId book.nextClient :: book.lives }

def addUnsupported (book : Book) (connection : ClientConnection) : Book :=
  { book with unsupported := book.unsupported ++ [connection] }

def addClient (book : Book) (b : BoundClient) : Book := { book with clients := book.clients ++ [b] }

def removeConnection (book : Book) (id : DdConnectionId) : Book :=
  { book with
    pending := Keyed.remove BoundClient.umdConnectionId book.pending id
    clients := Keyed.remove BoundClient.umdConnectionId book.clients id
    unsupported := eraseConnection book.unsupported id }

def removePending (book : Book) (id : DdConnectionId) : Book :=
  { book with pending := Keyed.remove BoundClient.umdConnectionId book.pending id }

variable (book : Book) (id : DdConnectionId)

@[simp] theorem record_counts (event : Life) (client : ClientId) :
    (book.record event).initializations client =
      book.initializations client + (if event = .initialized client then 1 else 0) ∧
    (book.record event).disconnects client =
      book.disconnects client + (if event = .disconnected client then 1 else 0) := by
  simp [initializations, disconnects, record, List.count_cons]

-- An event in the life of a client of this connection is none in the lives of
-- the clients of the others.
theorem record_elsewhere (event : Life) (client : ClientId) (owned : book.Owned)
    (created : Life.created id client ∈ book.lives)
    (about : event = .initialized client ∨ event = .failed client ∨ event = .disconnected client) :
    Elsewhere book (book.record event) id := by
  refine ⟨fun _ _ => rfl, fun _ _ => rfl, ?_, ?_⟩
  · intro other c _
    rcases about with rfl | rfl | rfl <;> simp [record]
  · intro other c apart before_
    have different : client ≠ c := by
      rintro rfl
      exact apart (owned.owner other id client before_ created)
    rcases about with rfl | rfl | rfl <;> simp [different]

theorem record_owned (event : Life) (client : ClientId) (owned : book.Owned)
    (created : Life.created id client ∈ book.lives)
    (about : event = .initialized client ∨ event = .failed client ∨ event = .disconnected client) :
    (book.record event).Owned := by
  obtain ⟨owner, born, unborn⟩ := owned
  have same (other : DdConnectionId) (c : ClientId) :
      Life.created other c ∈ (book.record event).lives ↔ Life.created other c ∈ book.lives := by
    rcases about with rfl | rfl | rfl <;> simp [record]
  refine ⟨?_, ?_, ?_⟩
  · intro one other c first second
    exact owner one other c ((same one c).mp first) ((same other c).mp second)
  · intro other c member
    exact born other c ((same other c).mp member)
  · intro c never
    have neverBefore (other : DdConnectionId) : Life.created other c ∉ book.lives :=
      fun member => never other ((same other c).mpr member)
    have different : client ≠ c := by
      rintro rfl
      exact neverBefore id created
    have none := unborn c neverBefore
    rcases about with rfl | rfl | rfl <;> simpa [different] using none

-- The three events in the life of the client in hand.
theorem keeps_record (b : BoundClient) (before now : Bool) (after : Place) (event : Life)
    (keeps : book.Keeps id (.inHand b before))
    (about : ∀ c, b.client ≠ c → event ≠ .initialized c ∧ event ≠ .disconnected c)
    (unborn : ∀ c, event ≠ .created id c) (place : after = .nowhere ∨ after = .inHand b now)
    (settles : (book.record event).Settles b.client (after.holds b.client)) : (book.record event).Keeps id after := by
  have created (c : ClientId) : Life.created id c ∈ (book.record event).lives ↔ Life.created id c ∈ book.lives := by
    simp [record, (unborn c).symm]
  refine ⟨?_, ?_, ?_, ?_⟩
  · intro unconnected
    cases keeps.unconnected unconnected
  · rcases place with rfl | rfl <;> exact keeps.entries
  · intro c bound
    rcases place with rfl | rfl
    · cases bound
    · cases bound
      exact ⟨(keeps.owned b rfl).1, (created b.client).mpr (keeps.owned b rfl).2⟩
  · intro c member
    by_cases same : b.client = c
    · exact same ▸ settles
    · obtain ⟨notInitialized, notDisconnected⟩ := about c same
      have none : after.holds c = (Place.inHand b before).holds c := by
        rcases place with rfl | rfl <;> simp [Place.holds, same]
      rw [none]
      exact settles_same book _ c _ (by simp [notInitialized]) (by simp [notDisconnected])
        (keeps.settles c ((created c).mp member))

theorem keeps_initialized (b : BoundClient) (keeps : book.Keeps id (.inHand b false)) :
    (book.record (.initialized b.client)).Keeps id (.inHand b true) := by
  have settles := keeps.settles b.client (keeps.owned b rfl).2
  simp only [Place.holds, if_pos, Settles, Bool.toNat_false] at settles
  apply keeps_record book id b false true _ _ keeps
  · intro c different
    simp [different]
  · simp
  · exact .inr rfl
  · simp [Place.holds, Settles, settles]

theorem keeps_failed (b : BoundClient) (keeps : book.Keeps id (.inHand b false)) :
    (book.record (.failed b.client)).Keeps id .nowhere := by
  have settles := keeps.settles b.client (keeps.owned b rfl).2
  simp only [Place.holds, if_pos, Settles, Bool.toNat_false] at settles
  apply keeps_record book id b false false _ _ keeps
  · simp
  · simp
  · exact .inl rfl
  · simp [Place.holds, Settles, settles]

theorem keeps_disconnected (b : BoundClient) (keeps : book.Keeps id (.inHand b true)) :
    (book.record (.disconnected b.client)).Keeps id .nowhere := by
  have settles := keeps.settles b.client (keeps.owned b rfl).2
  simp only [Place.holds, if_pos, Settles, Bool.toNat_true] at settles
  apply keeps_record book id b true true _ _ keeps
  · intro c different
    simp [different]
  · simp
  · exact .inl rfl
  · simp [Place.holds, Settles, settles]

-- A move between the lists and the hand: no event, and the client stays with the connection.
theorem keeps_moved (after : Book) (before now : Place) (keeps : book.Keeps id before)
    (connected : after.connected = book.connected) (lives : after.lives = book.lives)
    (unconnected : book.connected id = false → now = .nowhere) (entries : after.entries id = now.entries)
    (bound : now.bound = before.bound) (holds : ∀ client, now.holds client = before.holds client) :
    after.Keeps id now := by
  refine ⟨?_, entries, ?_, ?_⟩
  · rw [connected]
    exact unconnected
  · intro b held
    rw [lives]
    exact keeps.owned b (bound ▸ held)
  · intro client created
    rw [lives] at created
    rw [holds client]
    exact settles_same book after client _ (by rw [initializations, lives, initializations])
      (by rw [disconnects, lives, disconnects]) (keeps.settles client created)

-- A pending client is dropped before it was initialized.
theorem keeps_dropped (after : Book) (b : BoundClient) (keeps : book.Keeps id (.pending b))
    (lives : after.lives = book.lives) (entries : after.entries id = ⟨[], [], []⟩) : after.Keeps id .nowhere := by
  refine ⟨fun _ => rfl, entries, ?_, ?_⟩
  · intro c bound
    cases bound
  · intro client created
    rw [lives] at created
    apply settles_same book after client none (by rw [initializations, lives, initializations])
      (by rw [disconnects, lives, disconnects])
    have settles := keeps.settles client created
    by_cases same : b.client = client
    · rw [Place.holds, if_pos same] at settles
      obtain ⟨initialized, disconnected⟩ := settles
      exact ⟨disconnected.trans initialized.symm, Nat.le_trans (Nat.le_of_eq initialized) (Nat.zero_le 1)⟩
    · rw [Place.holds, if_neg same] at settles
      exact settles

theorem moved_elsewhere (after : Book) (connected : after.connected = book.connected)
    (lives : after.lives = book.lives) (entries : ∀ other, other ≠ id → after.entries other = book.entries other) :
    Elsewhere book after id := by
  refine ⟨?_, entries, ?_, ?_⟩
  · intro other _
    rw [connected]
  · intro other client _
    rw [lives]
  · intro other client _ _
    rw [initializations, disconnects, lives]
    exact ⟨rfl, rfl⟩

theorem moved_owned (after : Book) (sameNext : after.nextClient = book.nextClient) (lives : after.lives = book.lives)
    (owned : book.Owned) : after.Owned := by
  obtain ⟨owner, born, unborn⟩ := owned
  constructor
  · rw [lives]
    exact owner
  · rw [lives, sameNext]
    exact born
  · intro client never
    rw [initializations, disconnects, lives]
    exact unborn client (lives ▸ never)

theorem remove_connection_entries (other : DdConnectionId) :
    (book.removeConnection id).entries other =
      if other = id then
        ⟨(book.entries id).pending.tail, (book.entries id).clients.tail, (book.entries id).unsupported.tail⟩
      else book.entries other := by
  simp only [entries, removeConnection, eraseConnection, Keyed.only_remove]
  split <;> rfl

theorem remove_pending_entries (other : DdConnectionId) :
    (book.removePending id).entries other =
      if other = id then { book.entries id with pending := (book.entries id).pending.tail }
      else book.entries other := by
  simp only [entries, removePending, Keyed.only_remove]
  split
  · rename_i same
    subst same
    rfl
  · rfl

theorem add_unsupported_entries (connection : ClientConnection) (other : DdConnectionId) :
    (book.addUnsupported connection).entries other =
      { book.entries other with
        unsupported := (book.entries other).unsupported ++
          if connection.umdConnectionId = other then [connection] else [] } := by
  simp only [entries, addUnsupported, Keyed.only_add]

theorem add_client_entries (b : BoundClient) (other : DdConnectionId) :
    (book.addClient b).entries other =
      { book.entries other with
        clients := (book.entries other).clients ++ if b.umdConnectionId = other then [b] else [] } := by
  simp only [entries, addClient, Keyed.only_add]

theorem create_client_entries (connection : ClientConnection) (other : DdConnectionId) :
    (book.createClient connection).entries other =
      { book.entries other with
        pending := (book.entries other).pending ++
          if connection.umdConnectionId = other then [⟨connection, book.nextClient⟩] else [] } := by
  simp only [entries, createClient, Keyed.only_add]
  rfl

theorem created_counts (connection : ClientConnection) (client : ClientId) :
    (book.createClient connection).initializations client = book.initializations client ∧
    (book.createClient connection).disconnects client = book.disconnects client := by
  simp [initializations, disconnects, createClient]

theorem never_created (owned : book.Owned) (other : DdConnectionId) :
    Life.created other book.nextClient ∉ book.lives := by
  intro member
  exact Nat.lt_irrefl _ (owned.born other book.nextClient member)

theorem keeps_created (connection : ClientConnection) (owned : book.Owned)
    (connected : book.connected connection.umdConnectionId = true)
    (keeps : book.Keeps connection.umdConnectionId .nowhere) :
    (book.createClient connection).Keeps connection.umdConnectionId (.pending ⟨connection, book.nextClient⟩) := by
  refine ⟨?_, ?_, ?_, ?_⟩
  · intro unconnected
    exact absurd (connected.symm.trans unconnected) (by simp)
  · rw [create_client_entries, keeps.entries, if_pos rfl]
    rfl
  · rintro b bound
    cases bound
    exact ⟨rfl, List.mem_cons_self⟩
  · intro client created
    obtain ⟨initialized, disconnected⟩ := created_counts book connection client
    by_cases new : book.nextClient = client
    · subst new
      have none := owned.unborn book.nextClient (never_created book owned)
      rw [Place.holds, if_pos rfl]
      exact ⟨initialized.trans none.1, disconnected.trans none.2⟩
    · have before_ : Life.created connection.umdConnectionId client ∈ book.lives := by
        simpa [createClient, Ne.symm new] using created
      rw [Place.holds, if_neg new]
      exact settles_same book _ client _ initialized disconnected (keeps.settles client before_)

theorem created_elsewhere (connection : ClientConnection) :
    Elsewhere book (book.createClient connection) connection.umdConnectionId := by
  refine ⟨fun _ _ => rfl, ?_, ?_, ?_⟩
  · intro other apart
    rw [create_client_entries, if_neg apart.symm, List.append_nil]
  · intro other client apart
    simp [createClient, apart]
  · intro other client _ _
    exact created_counts book connection client

theorem created_owned (connection : ClientConnection) (owned : book.Owned) : (book.createClient connection).Owned := by
  have fresh := never_created book owned
  obtain ⟨owner, born, unborn⟩ := owned
  refine ⟨?_, ?_, ?_⟩
  · intro one other client first second
    simp only [createClient, List.mem_cons, Life.created.injEq] at first second
    obtain ⟨rfl, rfl⟩ | first := first
    · obtain ⟨rfl, _⟩ | second := second
      · rfl
      · exact absurd second (fresh other)
    · obtain ⟨_, rfl⟩ | second := second
      · exact absurd first (fresh one)
      · exact owner one other client first second
  · intro other client member
    simp only [createClient, List.mem_cons, Life.created.injEq] at member
    obtain ⟨_, rfl⟩ | member := member
    · exact Nat.lt_succ_self _
    · exact Nat.lt_succ_of_lt (born other client member)
  · intro client never
    obtain ⟨initialized, disconnected⟩ := created_counts book connection client
    have none := unborn client fun id member => never id (List.mem_cons_of_mem _ member)
    exact ⟨initialized.trans none.1, disconnected.trans none.2⟩

end Book

-- Which places the connection of an id may be in while its call is there.
def Located (id : DdConnectionId) (connected : Bool) (place : Place) : Pc → Prop
  | .connected connection | .connecting connection =>
      connection.umdConnectionId = id ∧ connected = true ∧ place = .nowhere
  | .disconnectClient b => place = .inHand b true
  | .disconnectedUpdate => place = .nowhere
  | .initializeClient b _ => place = .inHand b false
  | .bind b _ => place = .inHand b true
  | _ => place.listed = true

def State.Tracked (s : State) (id : DdConnectionId) : Prop :=
  ∃ place, Located id (s.connected id) place (s.calls id) ∧ s.book.Keeps id place

structure State.Booked (s : State) : Prop where
  tracked : ∀ id, s.Tracked id
  owned : s.book.Owned

theorem find_client_entries (s : State) (id : DdConnectionId) :
    s.source.findClient id = (s.book.entries id).clients.head? :=
  Keyed.lookup_only BoundClient.umdConnectionId s.source.clients id

theorem find_pending_entries (s : State) (id : DdConnectionId) :
    s.source.findPendingClient id = (s.book.entries id).pending.head? :=
  Keyed.lookup_only BoundClient.umdConnectionId s.source.pendingClients id

-- What a step of a call makes of the book, and what the other connections see of it.
structure Steps (s t : State) (id : DdConnectionId) (after : Pc) : Prop where
  here : ∃ place, Located id (t.connected id) place after ∧ t.book.Keeps id place
  elsewhere : Book.Elsewhere s.book t.book id
  calls : t.calls = s.calls
  owned : t.book.Owned

-- A step that only moves entries between the lists of its connection.
theorem steps_moved (s t : State) (id : DdConnectionId) (place : Place) (after : Pc) (owned : s.book.Owned)
    (calls : t.calls = s.calls) (connected : t.connected = s.connected) (sameNext : t.nextClient = s.nextClient)
    (lives : t.lives = s.lives) (entries : ∀ other, other ≠ id → t.book.entries other = s.book.entries other)
    (located : Located id (t.connected id) place after) (keeps : t.book.Keeps id place) : Steps s t id after :=
  ⟨⟨place, located, keeps⟩, Book.moved_elsewhere s.book id t.book connected lives entries, calls,
    Book.moved_owned s.book t.book sameNext lives owned⟩

theorem steps_quiet (s t : State) (id : DdConnectionId) (place : Place) (after : Pc) (sameBook : t.book = s.book)
    (calls : t.calls = s.calls) (owned : s.book.Owned) (located : Located id (s.connected id) place after)
    (keeps : s.book.Keeps id place) : Steps s t id after := by
  have connected : t.connected = s.connected := congrArg Book.connected sameBook
  have sameNext : t.nextClient = s.nextClient := congrArg Book.nextClient sameBook
  have lives : t.lives = s.lives := congrArg Book.lives sameBook
  apply steps_moved s t id place after owned calls connected sameNext lives
  · intro other _
    rw [sameBook]
  · rw [connected]
    exact located
  · rw [sameBook]
    exact keeps

theorem steps_connecting (s : State) (id : DdConnectionId) (connection : ClientConnection)
    (created : ClientState × Bool) (owned : s.book.Owned) (same : connection.umdConnectionId = id)
    (connected : s.connected id = true) (keeps : s.book.Keeps id .nowhere) :
    Steps s (s.connect connection created) id .connectedUpdate := by
  subst same
  unfold State.connect
  split
  · have after := Book.keeps_created s.book connection owned connected keeps
    exact ⟨⟨.pending _, rfl, after⟩, Book.created_elsewhere s.book connection, rfl,
      Book.created_owned s.book connection owned⟩
  · have entries := Book.add_unsupported_entries s.book connection
    refine steps_moved s _ _ (.unsupported connection) _ owned rfl rfl rfl rfl (fun other apart => ?_) rfl ?_
    · exact (entries other).trans (by rw [if_neg apart.symm, List.append_nil])
    · apply Book.keeps_moved s.book _ (s.book.addUnsupported connection) .nowhere _ keeps rfl rfl
      · intro unconnected
        exact absurd (connected.symm.trans unconnected) (by simp)
      · rw [entries, keeps.entries, if_pos rfl]
        rfl
      · rfl
      · exact fun _ => rfl

theorem steps_disconnecting (s t : State) (id : DdConnectionId) (answer : Answer) (after : Pc) (place : Place)
    (owned : s.book.Owned) (listed : place.listed = true) (keeps : s.book.Keeps id place)
    (run : s.run id answer .disconnecting = some (t, after)) : Steps s t id after := by
  have source : t = { s with source := s.source.removeConnection id } := by
    simp only [State.run] at run
    split at run <;> cases run <;> rfl
  have found := find_client_entries s id
  rw [keeps.entries] at found
  subst source
  have elsewhere (other : DdConnectionId) (apart : other ≠ id) :
      (s.book.removeConnection id).entries other = s.book.entries other := by
    rw [Book.remove_connection_entries, if_neg apart]
  have removed : (s.book.removeConnection id).entries id = ⟨[], [], []⟩ := by
    rw [Book.remove_connection_entries, if_pos rfl, keeps.entries]
    cases place <;> rfl
  have steps (now : Place) (after : Pc) := steps_moved s { s with source := s.source.removeConnection id } id now after
    owned rfl rfl rfl rfl elsewhere
  have moves (now : Place) := Book.keeps_moved s.book id (s.book.removeConnection id) place now keeps rfl rfl
  simp only [State.run, found] at run
  cases place with
  | inHand => cases listed
  | nowhere | unsupported =>
      cases run
      exact steps .nowhere _ rfl (moves .nowhere (fun _ => rfl) removed rfl fun _ => rfl)
  | pending b =>
      cases run
      exact steps .nowhere _ rfl (Book.keeps_dropped s.book id _ b keeps rfl removed)
  | active b =>
      cases run
      refine steps (.inHand b true) _ rfl (moves (.inHand b true) ?_ removed rfl fun _ => rfl)
      intro unconnected
      cases keeps.unconnected unconnected

theorem steps_init (s t : State) (id : DdConnectionId) (answer : Answer) (state : DdDriverState) (after : Pc)
    (place : Place) (owned : s.book.Owned) (listed : place.listed = true) (keeps : s.book.Keeps id place)
    (run : s.run id answer (.initClientIfNeeded state) = some (t, after)) : Steps s t id after := by
  have found := find_pending_entries s id
  rw [keeps.entries] at found
  simp only [State.run, found] at run
  cases place with
  | inHand => cases listed
  | nowhere | unsupported | active =>
      cases run
      exact steps_quiet s s id _ _ rfl rfl owned listed keeps
  | pending b =>
      simp only [Place.entries, List.head?_cons] at run
      split at run <;> cases run
      · exact steps_quiet s s id _ _ rfl rfl owned listed keeps
      · have entries := Book.remove_pending_entries s.book id
        refine steps_moved s _ id (.inHand b false) _ owned rfl rfl rfl rfl (fun other apart => ?_) rfl ?_
        · exact (entries other).trans (if_neg apart)
        · apply Book.keeps_moved s.book id (s.book.removePending id) _ _ keeps rfl rfl
          · intro unconnected
            cases keeps.unconnected unconnected
          · rw [entries, if_pos rfl, keeps.entries]
            rfl
          · rfl
          · exact fun _ => rfl

theorem steps_bind (s : State) (id : DdConnectionId) (b : BoundClient) (state : DdDriverState)
    (owned : s.book.Owned) (keeps : s.book.Keeps id (.inHand b true)) :
    (s.bindClient id b state).2 = .boundUpdate state ∧
    (s.bindClient id b state).1.registered = Function.update s.registered b.client true ∧
    (s.bindClient id b state).1.source = { s.source with clients := s.source.clients ++ [b] } ∧
    Steps s (s.bindClient id b state).1 id (.boundUpdate state) := by
  have sameId := (keeps.owned b rfl).1
  have entries : (s.book.addClient b).entries id = ⟨[], [b], []⟩ := by
    rw [Book.add_client_entries, keeps.entries, if_pos sameId]
    rfl
  have elsewhere (other : DdConnectionId) (apart : other ≠ id) :
      (s.book.addClient b).entries other = s.book.entries other := by
    have different : b.umdConnectionId ≠ other := fun again => apart (again.symm.trans sameId)
    rw [Book.add_client_entries, if_neg different, List.append_nil]
  have found : ({ s.source with clients := s.source.clients ++ [b] } : BaseTraceSource).findClient id = some b := by
    have listed := find_client_entries { s with source := { s.source with clients := s.source.clients ++ [b] } } id
    have same : ({ s with source := { s.source with clients := s.source.clients ++ [b] } } : State).book =
        s.book.addClient b := rfl
    rw [same, entries] at listed
    exact listed
  simp only [State.bindClient, found]
  refine ⟨trivial, trivial, trivial, steps_moved s _ id (.active b) _ owned rfl rfl rfl rfl elsewhere rfl ?_⟩
  refine Book.keeps_moved s.book id (s.book.addClient b) _ (.active b) keeps rfl rfl ?_ entries rfl fun _ => rfl
  intro unconnected
  cases keeps.unconnected unconnected

theorem steps_record (s : State) (id : DdConnectionId) (b : BoundClient) (initialized : Bool) (event : Life)
    (place : Place) (after : Pc) (owned : s.book.Owned) (keeps : s.book.Keeps id (.inHand b initialized))
    (about : event = .initialized b.client ∨ event = .failed b.client ∨ event = .disconnected b.client)
    (located : Located id (s.connected id) place after) (now : (s.book.record event).Keeps id place) :
    Steps s (s.record event) id after := by
  have created := (keeps.owned b rfl).2
  exact ⟨⟨place, located, now⟩, Book.record_elsewhere s.book id event b.client owned created about, rfl,
    Book.record_owned s.book id event b.client owned created about⟩

theorem steps_run (s t : State) (id : DdConnectionId) (answer : Answer) (after : Pc) (booked : s.Booked)
    (run : s.run id answer (s.calls id) = some (t, after)) : Steps s t id after := by
  obtain ⟨place, located, keeps⟩ := booked.tracked id
  have owned := booked.owned
  cases pc : s.calls id with
  | outside =>
      rw [pc] at run
      cases run
  | connected connection =>
      rw [pc] at run located
      obtain ⟨same, connected, rfl⟩ := located
      simp only [State.run] at run
      split at run <;> cases run
      · exact steps_quiet s s id .nowhere _ rfl rfl owned rfl keeps
      · exact steps_quiet s s id .nowhere _ rfl rfl owned ⟨same, connected, rfl⟩ keeps
  | connecting connection =>
      rw [pc] at run located
      obtain ⟨same, connected, rfl⟩ := located
      cases run
      exact steps_connecting s id connection answer.created owned same connected keeps
  | connectedUpdate | boundUpdate =>
      rw [pc] at run located
      cases run
      exact steps_quiet s _ id place _ rfl rfl owned located keeps
  | disconnecting =>
      rw [pc] at run located
      exact steps_disconnecting s t id answer after place owned located keeps run
  | handleDriverState client state =>
      rw [pc] at run located
      cases run
      exact steps_quiet s _ id place _ rfl rfl owned located keeps
  | getBoundClient state =>
      rw [pc] at run located
      simp only [State.run] at run
      split at run <;> cases run <;> exact steps_quiet s _ id place _ rfl rfl owned located keeps
  | disconnectClient b =>
      rw [pc] at run located
      subst located
      cases run
      have now := Book.keeps_disconnected s.book id b keeps
      exact steps_record s id b true _ _ _ owned keeps (.inr (.inr rfl)) rfl now
  | disconnectedUpdate =>
      rw [pc] at run located
      subst located
      cases run
      refine ⟨⟨.nowhere, rfl, ?_⟩, ?_, rfl, ?_⟩
      · exact ⟨fun _ => rfl, keeps.entries, keeps.owned, keeps.settles⟩
      · refine ⟨?_, fun _ _ => rfl, fun _ _ _ => Iff.rfl, fun _ _ _ _ => ⟨rfl, rfl⟩⟩
        intro other apart
        exact Function.update_of_ne apart _ _
      · exact ⟨owned.owner, owned.born, owned.unborn⟩
  | initClientIfNeeded state =>
      rw [pc] at run located
      exact steps_init s t id answer state after place owned located keeps run
  | initializeClient b state =>
      rw [pc] at run located
      subst located
      simp only [State.run] at run
      split at run <;> cases run
      · have now := Book.keeps_failed s.book id b keeps
        exact steps_record s id b false _ .nowhere _ owned keeps (.inr (.inl rfl)) rfl now
      · have now := Book.keeps_initialized s.book id b keeps
        exact steps_record s id b false _ _ _ owned keeps (.inl rfl) rfl now
  | bind b state =>
      rw [pc] at run located
      subst located
      obtain ⟨bound, _, _, steps⟩ := steps_bind s id b state owned keeps
      have result : s.bindClient id b state = (t, after) := Option.some.inj run
      rw [result] at bound steps
      dsimp only at bound
      subst bound
      exact steps

theorem tracked_listed (s : State) (id : DdConnectionId) (outside : s.calls id = .outside) (tracked : s.Tracked id) :
    ∃ place, place.listed = true ∧ s.book.Keeps id place := by
  obtain ⟨place, located, keeps⟩ := tracked
  rw [outside] at located
  exact ⟨place, located, keeps⟩

theorem booked_started (s : State) (id : DdConnectionId) (pc : Pc) (booked : s.Booked)
    (outside : s.calls id = .outside) (free : ∀ place, place.listed = true → Located id (s.connected id) place pc) :
    ({ s with calls := Function.update s.calls id pc } : State).Booked := by
  refine ⟨fun other => ?_, booked.owned⟩
  by_cases same : other = id
  · subst same
    obtain ⟨place, listed, keeps⟩ := tracked_listed s other outside (booked.tracked other)
    refine ⟨place, ?_, keeps⟩
    simp only [Function.update_self]
    exact free place listed
  · obtain ⟨place, located, keeps⟩ := booked.tracked other
    refine ⟨place, ?_, keeps⟩
    simp only [Function.update_of_ne same]
    exact located

theorem booked_connected (s : State) (info : DdConnectionInfo) (booked : s.Booked)
    (fresh : s.connected info.umdConnectionId = false) :
    ({ s with
      calls := Function.update s.calls info.umdConnectionId (.connected info.connection)
      connected := Function.update s.connected info.umdConnectionId true } : State).Booked := by
  refine ⟨fun other => ?_, ⟨booked.owned.owner, booked.owned.born, booked.owned.unborn⟩⟩
  obtain ⟨place, located, keeps⟩ := booked.tracked other
  by_cases same : other = info.umdConnectionId
  · subst same
    have nowhere := keeps.unconnected fresh
    subst nowhere
    refine ⟨.nowhere, ?_, ⟨fun _ => rfl, keeps.entries, keeps.owned, keeps.settles⟩⟩
    simp only [Function.update_self]
    exact ⟨rfl, rfl, rfl⟩
  · refine ⟨place, ?_, ⟨?_, keeps.entries, keeps.owned, keeps.settles⟩⟩
    · simp only [Function.update_of_ne same]
      exact located
    · intro unconnected
      apply keeps.unconnected
      simpa only [State.book, Function.update_of_ne same] using unconnected

theorem booked_run (s t : State) (id : DdConnectionId) (answer : Answer) (after : Pc) (booked : s.Booked)
    (run : s.run id answer (s.calls id) = some (t, after)) :
    ({ t with calls := Function.update t.calls id after } : State).Booked := by
  obtain ⟨here, elsewhere, calls, owned⟩ := steps_run s t id answer after booked run
  refine ⟨fun other => ?_, owned⟩
  by_cases same : other = id
  · subst same
    obtain ⟨place, located, keeps⟩ := here
    refine ⟨place, ?_, keeps⟩
    simp only [Function.update_self]
    exact located
  · obtain ⟨place, located, keeps⟩ := booked.tracked other
    refine ⟨place, ?_, Book.keeps_elsewhere s.book t.book id other place elsewhere same keeps⟩
    have connected : t.connected other = s.connected other := elsewhere.connected other same
    simp only [Function.update_of_ne same, calls, connected]
    exact located

theorem booked_same (s t : State) (booked : s.Booked) (sameBook : t.book = s.book) (calls : t.calls = s.calls) :
    t.Booked := by
  have connected : t.connected = s.connected := congrArg Book.connected sameBook
  refine ⟨fun id => ?_, sameBook ▸ booked.owned⟩
  obtain ⟨place, located, keeps⟩ := booked.tracked id
  refine ⟨place, ?_, sameBook ▸ keeps⟩
  rw [calls, connected]
  exact located

theorem booked_step (s t : State) (a : Action) (booked : s.Booked) (next : s.next a = some t) : t.Booked := by
  cases a with
  | onDriverConnected info =>
      obtain ⟨fresh, _, rfl⟩ := State.next_connected s t info next
      exact booked_connected s info booked fresh
  | onDriverDisconnected id =>
      obtain ⟨outside, rfl⟩ := (State.start_some s t id _).mp next
      exact booked_started s id _ booked outside fun _ listed => listed
  | onDriverStateChanged id state =>
      obtain ⟨outside, rfl⟩ := (State.start_some s t id _).mp next
      exact booked_started s id _ booked outside fun _ listed => listed
  | run id answer =>
      obtain ⟨u, after, run, rfl⟩ := State.next_run s t id answer next
      exact booked_run s u id answer after booked run
  | setState | report | queryStatus | setAllClientsDisabledReason =>
      simp only [State.next] at next
      split at next <;> cases next <;> exact booked_same s _ booked rfl rfl
  | runSetter glance =>
      simp only [State.next] at next
      split at next <;> cases next
      exact booked_same s _ booked rfl rfl
  | runChange thread glance =>
      obtain ⟨u, change, run, rfl⟩ := State.next_change s t thread glance next
      cases at_ : s.changes thread <;> rw [at_] at run <;> cases run <;> exact booked_same s _ booked rfl rfl
  | setAbortSupported | setDisabledReason | setApiFilter | traceCompleted =>
      cases next
      exact booked_same s _ booked rfl rfl
  | pushReport thread =>
      obtain ⟨report, _, rfl⟩ := Option.map_eq_some_iff.mp next
      exact booked_same s _ booked rfl rfl
  | turn kind turn =>
      obtain ⟨_, _, _, rfl, _⟩ := State.turn_flows s t turn kind next
      exact booked_same s _ booked rfl rfl
  | shutDown =>
      obtain ⟨_, _, _, _, rfl, _⟩ := State.shut_down_moves s t next
      exact booked_same s _ booked rfl rfl

theorem initial_booked : State.initial.Booked := by
  refine ⟨fun id => ⟨.nowhere, rfl, fun _ => rfl, rfl, ?_, ?_⟩, ?_, ?_, ?_⟩
  · intro b bound
    cases bound
  · intro client created
    cases created
  · intro one other client created
    cases created
  · intro id client created
    cases created
  · exact fun _ _ => ⟨rfl, rfl⟩

theorem reachable_booked (s : State) (reach : Reachable traceSource s) : s.Booked :=
  reachable_invariant traceSource State.Booked initial_booked (fun s a t booked next => booked_step s t a booked next)
    s reach

def State.pendingIds (s : State) : List DdConnectionId := Keyed.keys BoundClient.umdConnectionId s.source.pendingClients

def State.clientIds (s : State) : List DdConnectionId := Keyed.keys BoundClient.umdConnectionId s.source.clients

def State.unsupportedIds (s : State) : List DdConnectionId := connectionIds s.source.unsupportedClients

def State.ids (s : State) : List DdConnectionId := s.pendingIds ++ s.clientIds ++ s.unsupportedIds

theorem ids_count (s : State) (id : DdConnectionId) :
    s.ids.count id = (s.book.entries id).pending.length + (s.book.entries id).clients.length +
      (s.book.entries id).unsupported.length := by
  rw [State.ids, List.count_append, List.count_append, State.pendingIds, State.clientIds, State.unsupportedIds,
    connectionIds, Keyed.count_keys, Keyed.count_keys, Keyed.count_keys]
  rfl

def Pc.inHand : Pc → Option BoundClient
  | .disconnectClient b | .initializeClient b _ | .bind b _ => some b
  | _ => none

-- The client is in a list, or in the hand of the call of its connection.
def State.Holds (s : State) (id : DdConnectionId) (client : ClientId) : Prop :=
  ∃ b, b.client = client ∧ (b ∈ s.source.pendingClients ∨ b ∈ s.source.clients ∨ (s.calls id).inHand = some b)

theorem place_holds (s : State) (id : DdConnectionId) (place : Place) (client : ClientId)
    (located : Located id (s.connected id) place (s.calls id)) (keeps : s.book.Keeps id place)
    (held : place.holds client ≠ none) : s.Holds id client := by
  have entries := keeps.entries
  have listed (l : List BoundClient) (b : BoundClient) (only : Keyed.only BoundClient.umdConnectionId l id = [b]) :
      b ∈ l := by
    have member : b ∈ Keyed.only BoundClient.umdConnectionId l id := by simp [only]
    exact ((Keyed.mem_only _ _ _ _).mp member).1
  cases place with
  | nowhere | unsupported => exact absurd rfl held
  | pending b =>
      have same : b.client = client := by simpa [Place.holds] using held
      exact ⟨b, same, .inl (listed _ b (congrArg Entries.pending entries))⟩
  | active b =>
      have same : b.client = client := by simpa [Place.holds] using held
      exact ⟨b, same, .inr (.inl (listed _ b (congrArg Entries.clients entries)))⟩
  | inHand b initialized =>
      have same : b.client = client := by simpa [Place.holds] using held
      refine ⟨b, same, .inr (.inr ?_)⟩
      cases pc : s.calls id with
      | disconnectClient | initializeClient | bind =>
          rw [pc] at located
          cases located
          rfl
      | connected | connecting =>
          rw [pc] at located
          cases located.2.2
      | _ =>
          rw [pc] at located
          cases located

theorem settled_counts (s : State) (booked : s.Booked) (client : ClientId) :
    s.book.disconnects client ≤ s.book.initializations client ∧ s.book.initializations client ≤ 1 := by
  by_cases created : ∃ id, Life.created id client ∈ s.lives
  · obtain ⟨id, created⟩ := created
    obtain ⟨place, _, keeps⟩ := booked.tracked id
    have settles := keeps.settles client created
    cases held : place.holds client with
    | none =>
        rw [held] at settles
        exact ⟨Nat.le_of_eq settles.1, settles.2⟩
    | some initialized =>
        rw [held] at settles
        obtain ⟨initializations, disconnects⟩ := settles
        rw [initializations, disconnects]
        exact ⟨Nat.zero_le _, Bool.toNat_le initialized⟩
  · have none := booked.owned.unborn client fun id member => created ⟨id, member⟩
    rw [none.1, none.2]
    exact ⟨Nat.le_refl 0, Nat.zero_le 1⟩

theorem clients_tracked (s : State) (reach : Reachable traceSource s) :
    s.ids.Nodup ∧
    (∀ id, s.calls id = .outside → s.connected id = false → id ∉ s.ids) ∧
    (∀ client, s.lives.count (.disconnected client) ≤ s.lives.count (.initialized client) ∧
      s.lives.count (.initialized client) ≤ 1) ∧
    (∀ id client, .created id client ∈ s.lives →
      s.Holds id client ∨ s.lives.count (.disconnected client) = s.lives.count (.initialized client)) ∧
    (∀ id client, .created id client ∈ s.lives → s.calls id = .outside → s.connected id = false →
      s.lives.count (.disconnected client) = s.lives.count (.initialized client)) := by
  have booked := reachable_booked s reach
  refine ⟨?_, ?_, fun client => settled_counts s booked client, ?_, ?_⟩
  · refine List.nodup_iff_count_le_one.mpr fun id => ?_
    obtain ⟨place, _, keeps⟩ := booked.tracked id
    rw [ids_count, keeps.entries]
    cases place <;> simp [Place.entries]
  · intro id outside unconnected listed
    obtain ⟨place, _, keeps⟩ := booked.tracked id
    have count := ids_count s id
    rw [keeps.entries, keeps.unconnected unconnected] at count
    exact absurd (List.count_pos_iff.mpr listed) (by simp [count, Place.entries])
  · intro id client created
    obtain ⟨place, located, keeps⟩ := booked.tracked id
    have settles := keeps.settles client created
    cases held : place.holds client with
    | none =>
        rw [held] at settles
        exact .inr settles.1
    | some initialized => exact .inl (place_holds s id place client located keeps (by simp [held]))
  · intro id client created _ unconnected
    obtain ⟨place, _, keeps⟩ := booked.tracked id
    have settles := keeps.settles client created
    rw [keeps.unconnected unconnected] at settles
    exact settles.1

-- One connection comes and goes while another one is in the middle of its initialization.
theorem client_comes_and_goes : ∃ s, Reachable traceSource s ∧
    s.lives = [.disconnected 0, .created 8 1, .initialized 0, .created 7 0] ∧
    s.calls 7 = .outside ∧ s.connected 7 = false ∧ s.ids.Nodup ∧ 7 ∉ s.ids := by
  obtain ⟨s, reach, found⟩ := exec_finds traceSource
    (.setApiFilter [.unknown] :: connects 7 ++ [.onDriverConnected ⟨8, 200, "", none⟩] ++ runs 8 3 ++
      [.onDriverDisconnected 7, .run 7 agrees, .onDriverStateChanged 8 .platformInit, .run 8 agrees] ++ runs 7 2)
    (fun s => s.lives = [.disconnected 0, .created 8 1, .initialized 0, .created 7 0] ∧
      s.calls 7 = .outside ∧ s.connected 7 = false) (by decide)
  obtain ⟨lives, outside, unconnected⟩ := of_decide_eq_true found
  obtain ⟨distinct, absent, _⟩ := clients_tracked s reach
  exact ⟨s, reach, lives, outside, unconnected, distinct, absent 7 outside unconnected⟩

end RadeonPanel.TraceSource

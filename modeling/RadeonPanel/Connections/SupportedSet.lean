import RadeonPanel.Base.Brackets
import RadeonPanel.Base.Runs
import RadeonPanel.Connections.Types

set_option autoImplicit false

namespace RadeonPanel.Connections

open Interleaving

structure SupportedConnectionSet where
  unfilteredConnections : List ClientConnection
  filteredConnections : List ClientConnection
  apiFilter : List Api
deriving DecidableEq, Repr

-- What the ConnectionUpdateHandler is told.
inductive Notification where
  | handleNewConnection (connection : ClientConnection)
  | connectionReachedPostDeviceInit (connection : ClientConnection)
  | handleDisconnect (connection : ClientConnection)
deriving DecidableEq, Repr

def Notification.id : Notification → DdConnectionId
  | .handleNewConnection connection => connection.umdConnectionId
  | .connectionReachedPostDeviceInit connection => connection.umdConnectionId
  | .handleDisconnect connection => connection.umdConnectionId

def isSupported (apiFilter : List Api) (connection : ClientConnection) : Bool :=
  apiFilter.isEmpty || apiFilter.contains connection.api

def reachedNow (before now : Bool) (connection : ClientConnection) : List Notification :=
  if !before && now then [.connectionReachedPostDeviceInit connection] else []

-- The locals of UpdateConnections on the way through its loop. `existing` is
-- filtered_connections_, whose entries it overwrites.
structure Update where
  existing : List ClientConnection
  newFiltered : List ClientConnection
  newConnections : List ClientConnection
  notifications : List Notification
deriving DecidableEq, Repr

def Update.visit (apiFilter : List Api) (u : Update) (connection : ClientConnection) : Update :=
  if isSupported apiFilter connection then
    match findConnection u.existing connection.umdConnectionId with
    | none =>
        { existing := u.existing
          newFiltered := u.newFiltered ++ [connection]
          newConnections := u.newConnections ++ [connection]
          notifications := u.notifications ++ .handleNewConnection connection ::
            reachedNow false connection.hasReachedPostDeviceInit connection }
    | some before =>
        { existing := updateConnection u.existing connection.umdConnectionId fun _ => connection
          newFiltered := u.newFiltered ++ [connection]
          newConnections := u.newConnections
          notifications := u.notifications ++
            reachedNow before.hasReachedPostDeviceInit connection.hasReachedPostDeviceInit connection }
  else u

def Update.visitAll (apiFilter : List Api) (u : Update) (connections : List ClientConnection) : Update :=
  connections.foldl (Update.visit apiFilter) u

-- The second loop.
def disconnects (existing newFiltered : List ClientConnection) : List Notification :=
  (existing.filter fun c => (findConnection newFiltered c.umdConnectionId).isNone).map .handleDisconnect

structure Updated where
  connections : SupportedConnectionSet
  notifications : List Notification
  newConnections : List ClientConnection
deriving DecidableEq, Repr

def SupportedConnectionSet.updateConnections (s : SupportedConnectionSet)
    (connections : List ClientConnection) : Updated :=
  let u := Update.visitAll s.apiFilter ⟨s.filteredConnections, [], [], []⟩ connections
  { connections := ⟨connections, u.newFiltered, s.apiFilter⟩
    notifications := u.notifications ++ disconnects u.existing u.newFiltered
    newConnections := u.newConnections }

def SupportedConnectionSet.setApiFilter (s : SupportedConnectionSet) (filter : List Api) : Updated :=
  { s with apiFilter := filter }.updateConnections s.unfilteredConnections

inductive Call where
  | updateConnections (connections : List ClientConnection)
  | setApiFilter (filter : List Api)
deriving DecidableEq, Repr

def SupportedConnectionSet.call (s : SupportedConnectionSet) : Call → Updated
  | .updateConnections connections => s.updateConnections connections
  | .setApiFilter filter => s.setApiFilter filter

-- The calls newest first, the notifications in their order.
structure SupportedState where
  set : SupportedConnectionSet
  calls : List Call
  notifications : List Notification
deriving DecidableEq, Repr

-- Callers pass lists in which an id occurs once.
def Call.hasDistinctIds : Call → Bool
  | .updateConnections connections => decide (connectionIds connections).Nodup
  | .setApiFilter _ => true

def supportedConnectionSet (apiFilter : List Api) : Machine SupportedState Call where
  init := ⟨⟨[], [], apiFilter⟩, [], []⟩
  step := fun s call =>
    if call.hasDistinctIds then
      some ⟨(s.set.call call).connections, call :: s.calls, s.notifications ++ (s.set.call call).notifications⟩
    else none

-- What the calls alone say, newest first.
def lastUpdated : List Call → List ClientConnection
  | [] => []
  | .updateConnections connections :: _ => connections
  | .setApiFilter _ :: rest => lastUpdated rest

def filterAfter (apiFilter : List Api) : List Call → List Api
  | [] => apiFilter
  | .updateConnections _ :: rest => filterAfter apiFilter rest
  | .setApiFilter filter :: _ => filter

def exposedAfter (apiFilter : List Api) (calls : List Call) : List ClientConnection :=
  (lastUpdated calls).filter (isSupported (filterAfter apiFilter calls))

-- No update takes has_reached_post_device_init back from an exposed connection.
def FlagsKept (apiFilter : List Api) : List Call → Prop
  | [] => True
  | .updateConnections connections :: rest =>
      FlagsKept apiFilter rest ∧
        ∀ before ∈ exposedAfter apiFilter rest, ∀ now ∈ connections,
          now.umdConnectionId = before.umdConnectionId → before.hasReachedPostDeviceInit = true →
            now.hasReachedPostDeviceInit = true
  | .setApiFilter _ :: rest => FlagsKept apiFilter rest

def about (id : DdConnectionId) (notifications : List Notification) : List Notification :=
  notifications.filter fun n => n.id = id

def bracket : Notification → Option (Bracket DdConnectionId)
  | .handleNewConnection connection => some (.opened connection.umdConnectionId)
  | .connectionReachedPostDeviceInit _ => none
  | .handleDisconnect connection => some (.closed connection.umdConnectionId)

def life (notifications : List Notification) : List (Bracket DdConnectionId) :=
  notifications.filterMap bracket

-- How often post device init was reported since the last new connection or disconnect.
def countReached (count : Nat) : Notification → Nat
  | .connectionReachedPostDeviceInit _ => count + 1
  | _ => 0

def reachedSince (notifications : List Notification) : Nat := notifications.foldl countReached 0

theorem about_append (id : DdConnectionId) (a b : List Notification) :
    about id (a ++ b) = about id a ++ about id b := List.filter_append a b

theorem about_reached (id : DdConnectionId) (before now : Bool) (c : ClientConnection) :
    about id (reachedNow before now c) = if c.umdConnectionId = id then reachedNow before now c else [] := by
  by_cases same : c.umdConnectionId = id <;> by_cases rises : (!before && now) = true <;>
    simp [about, reachedNow, same, rises, Notification.id]

theorem about_new (id : DdConnectionId) (c : ClientConnection) (rest : List Notification) :
    about id (.handleNewConnection c :: rest) =
      if c.umdConnectionId = id then .handleNewConnection c :: about id rest else about id rest := by
  by_cases same : c.umdConnectionId = id <;> simp [about, Notification.id, same]

-- What the handler is told about one id, by what was and what is exposed under it.
def changes : Option ClientConnection → Option ClientConnection → List Notification
  | none, none => []
  | none, some now => .handleNewConnection now :: reachedNow false now.hasReachedPostDeviceInit now
  | some before, some now => reachedNow before.hasReachedPostDeviceInit now.hasReachedPostDeviceInit now
  | some before, none => [.handleDisconnect before]

def announced (before : Option ClientConnection) : Option ClientConnection → List Notification
  | none => []
  | some now => changes before (some now)

theorem visit_filtered (apiFilter : List Api) (u : Update) (c : ClientConnection) :
    (u.visit apiFilter c).newFiltered = u.newFiltered ++ if isSupported apiFilter c then [c] else [] := by
  unfold Update.visit
  by_cases supported : isSupported apiFilter c = true
  · rw [if_pos supported, if_pos supported]
    cases findConnection u.existing c.umdConnectionId <;> rfl
  · rw [if_neg supported, if_neg supported, List.append_nil]

theorem visit_existing (apiFilter : List Api) (u : Update) (c : ClientConnection) :
    connectionIds (u.visit apiFilter c).existing = connectionIds u.existing := by
  unfold Update.visit
  by_cases supported : isSupported apiFilter c = true
  · rw [if_pos supported]
    cases findConnection u.existing c.umdConnectionId with
    | none => rfl
    | some before => exact Keyed.modify_keys _ _ _ _ fun _ _ => rfl
  · rw [if_neg supported]

theorem visit_elsewhere (apiFilter : List Api) (u : Update) (c : ClientConnection) (id : DdConnectionId)
    (elsewhere : isSupported apiFilter c = true → id ≠ c.umdConnectionId) :
    findConnection (u.visit apiFilter c).existing id = findConnection u.existing id ∧
    about id (u.visit apiFilter c).notifications = about id u.notifications := by
  unfold Update.visit
  by_cases supported : isSupported apiFilter c = true
  · have apart := elsewhere supported
    rw [if_pos supported]
    cases findConnection u.existing c.umdConnectionId with
    | none =>
        refine ⟨rfl, ?_⟩
        simp only [about_append, about_new, about_reached, if_neg apart.symm, List.append_nil]
    | some before =>
        refine ⟨Keyed.lookup_modify_elsewhere _ _ _ _ (fun _ _ => rfl) id apart, ?_⟩
        simp only [about_append, about_reached, if_neg apart.symm, List.append_nil]
  · rw [if_neg supported]
    exact ⟨rfl, rfl⟩

theorem visit_here (apiFilter : List Api) (u : Update) (c : ClientConnection)
    (supported : isSupported apiFilter c = true) :
    about c.umdConnectionId (u.visit apiFilter c).notifications =
      about c.umdConnectionId u.notifications ++ changes (findConnection u.existing c.umdConnectionId) (some c) := by
  unfold Update.visit
  rw [if_pos supported]
  cases findConnection u.existing c.umdConnectionId with
  | none => simp only [about_append, about_new, about_reached, if_true, changes]
  | some before => simp only [about_append, about_reached, if_true, changes]

theorem visit_all_filtered (apiFilter : List Api) (u : Update) (connections : List ClientConnection) :
    (u.visitAll apiFilter connections).newFiltered =
      u.newFiltered ++ connections.filter (isSupported apiFilter) := by
  induction connections generalizing u with
  | nil => simp [Update.visitAll]
  | cons c rest ih =>
      rw [Update.visitAll, List.foldl_cons, ← Update.visitAll, ih, visit_filtered, List.filter_cons]
      split <;> simp

theorem visit_all_existing (apiFilter : List Api) (u : Update) (connections : List ClientConnection) :
    connectionIds (u.visitAll apiFilter connections).existing = connectionIds u.existing := by
  induction connections generalizing u with
  | nil => rfl
  | cons c rest ih => exact (ih (u.visit apiFilter c)).trans (visit_existing apiFilter u c)

-- An id is visited at most once, with what was exposed under it before the loop.
theorem visit_all_about (apiFilter : List Api) (u : Update) (connections : List ClientConnection)
    (distinct : (connectionIds connections).Nodup) (id : DdConnectionId) :
    about id (u.visitAll apiFilter connections).notifications =
      about id u.notifications ++ announced (findConnection u.existing id)
        (findConnection (connections.filter (isSupported apiFilter)) id) := by
  induction connections generalizing u with
  | nil => simp [Update.visitAll, findConnection, Keyed.lookup, announced]
  | cons c rest ih =>
      obtain ⟨fresh, later⟩ := List.nodup_cons.mp distinct
      rw [Update.visitAll, List.foldl_cons, ← Update.visitAll, ih _ later, List.filter_cons]
      by_cases here : isSupported apiFilter c = true ∧ id = c.umdConnectionId
      · obtain ⟨supported, rfl⟩ := here
        have absent : findConnection (rest.filter (isSupported apiFilter)) c.umdConnectionId = none := by
          apply (Keyed.lookup_none _ _ _).mpr
          exact fun present => fresh ((List.filter_sublist.map _).subset present)
        rw [absent, visit_here apiFilter u c supported, if_pos supported]
        simp [findConnection, Keyed.lookup, announced]
      · have elsewhere : isSupported apiFilter c = true → id ≠ c.umdConnectionId :=
          fun supported same => here ⟨supported, same⟩
        obtain ⟨sameExisting, sameNotes⟩ := visit_elsewhere apiFilter u c id elsewhere
        rw [sameExisting, sameNotes]
        by_cases supported : isSupported apiFilter c = true
        · have apart := elsewhere supported
          rw [if_pos supported]
          simp [findConnection, Keyed.lookup, apart.symm]
        · rw [if_neg supported]

theorem visit_all_existing_kept (apiFilter : List Api) (u : Update) (connections : List ClientConnection)
    (id : DdConnectionId) (absent : id ∉ connectionIds (connections.filter (isSupported apiFilter))) :
    findConnection (u.visitAll apiFilter connections).existing id = findConnection u.existing id := by
  induction connections generalizing u with
  | nil => rfl
  | cons c rest ih =>
      rw [List.filter_cons] at absent
      have elsewhere : isSupported apiFilter c = true → id ≠ c.umdConnectionId := by
        intro supported same
        rw [if_pos supported] at absent
        exact absent (same ▸ List.mem_cons_self)
      have later : id ∉ connectionIds (rest.filter (isSupported apiFilter)) := by
        intro present
        split at absent
        · exact absent (List.mem_cons_of_mem _ present)
        · exact absent present
      rw [Update.visitAll, List.foldl_cons, ← Update.visitAll, ih _ later]
      exact (visit_elsewhere apiFilter u c id elsewhere).1

theorem disconnects_about (existing newFiltered : List ClientConnection) (id : DdConnectionId)
    (distinct : (connectionIds existing).Nodup) :
    about id (disconnects existing newFiltered) =
      match findConnection newFiltered id with
      | some _ => []
      | none => (findConnection existing id).toList.map .handleDisconnect := by
  have only : about id (disconnects existing newFiltered) =
      (((findConnection existing id).toList.filter
        fun c => (findConnection newFiltered c.umdConnectionId).isNone).map .handleDisconnect) := by
    rw [findConnection, ← Keyed.filter_key _ _ _ distinct, about, disconnects, List.filter_map,
      List.filter_filter, List.filter_filter]
    apply congrArg (List.map Notification.handleDisconnect)
    apply List.filter_congr
    intro c _
    exact Bool.and_comm _ _
  rw [only]
  cases before : findConnection existing id with
  | none => cases findConnection newFiltered id <;> rfl
  | some c =>
      obtain ⟨_, rfl⟩ := Keyed.lookup_mem _ _ _ _ before
      cases now : findConnection newFiltered c.umdConnectionId <;> simp [now]

theorem update_about (s : SupportedConnectionSet) (connections : List ClientConnection)
    (distinct : (connectionIds connections).Nodup) (exposed : (connectionIds s.filteredConnections).Nodup)
    (id : DdConnectionId) :
    about id (s.updateConnections connections).notifications =
      changes (findConnection s.filteredConnections id)
        (findConnection (s.updateConnections connections).connections.filteredConnections id) := by
  have filtered := visit_all_filtered s.apiFilter ⟨s.filteredConnections, [], [], []⟩ connections
  have stillDistinct := exposed
  rw [← visit_all_existing s.apiFilter ⟨s.filteredConnections, [], [], []⟩ connections] at stillDistinct
  simp only [SupportedConnectionSet.updateConnections, about_append]
  rw [visit_all_about _ _ _ distinct, disconnects_about _ _ _ stillDistinct, filtered, List.nil_append]
  cases now : findConnection (connections.filter (isSupported s.apiFilter)) id with
  | some c => simp [about, announced]
  | none =>
      rw [visit_all_existing_kept _ _ _ _ ((Keyed.lookup_none _ _ _).mp now)]
      cases findConnection s.filteredConnections id <;> simp [about, announced, changes]

theorem reached_since_append (told : List Notification) (n : Notification) :
    reachedSince (told ++ [n]) = countReached (reachedSince told) n := by
  simp [reachedSince]

theorem prefix_extended (told : List Notification) (n : Notification) (holds : List Notification → Prop)
    (before : ∀ p, p <+: told → holds p) (whole : holds (told ++ [n])) : ∀ p, p <+: told ++ [n] → holds p := by
  intro p isPrefix
  obtain rfl | shorter := List.prefix_concat_iff.mp isPrefix
  · exact whole
  · exact before p shorter

-- The notifications about one id, next to what is exposed under it. Post device
-- init is only reported for an exposed connection.
structure LivesAs (id : DdConnectionId) (exposed : Option ClientConnection) (told : List Notification) : Prop where
  closed : exposed = none → Closed (life told)
  isOpen : exposed ≠ none → OpenFor id (life told)
  within : ∀ p, p <+: told → 0 < reachedSince p → OpenFor id (life p)

theorem lives_new (id : DdConnectionId) (now : ClientConnection) (told : List Notification)
    (sameId : now.umdConnectionId = id) (lives : LivesAs id none told) :
    LivesAs id (some now) (told ++ [.handleNewConnection now]) := by
  have opened : OpenFor id (life (told ++ [.handleNewConnection now])) := by
    rw [life, List.filterMap_append]
    exact sameId ▸ closed_open now.umdConnectionId _ (lives.closed rfl)
  exact ⟨by simp, fun _ => opened, prefix_extended _ _ _ lives.within fun _ => opened⟩

theorem lives_reached (id : DdConnectionId) (before now : ClientConnection) (told : List Notification)
    (lives : LivesAs id (some before) told) :
    LivesAs id (some now) (told ++ [.connectionReachedPostDeviceInit now]) := by
  have opened : OpenFor id (life (told ++ [.connectionReachedPostDeviceInit now])) := by
    have silent : life [.connectionReachedPostDeviceInit now] = [] := rfl
    rw [life, List.filterMap_append, ← life, ← life, silent, List.append_nil]
    exact lives.isOpen (by simp)
  exact ⟨by simp, fun _ => opened, prefix_extended _ _ _ lives.within fun _ => opened⟩

theorem lives_disconnect (id : DdConnectionId) (before : ClientConnection) (told : List Notification)
    (sameId : before.umdConnectionId = id) (lives : LivesAs id (some before) told) :
    LivesAs id none (told ++ [.handleDisconnect before]) := by
  have closed : Closed (life (told ++ [.handleDisconnect before])) := by
    rw [life, List.filterMap_append]
    apply open_close before.umdConnectionId
    exact sameId ▸ lives.isOpen (by simp)
  refine ⟨fun _ => closed, by simp, prefix_extended _ _ _ lives.within fun reached => ?_⟩
  rw [reached_since_append] at reached
  cases reached

theorem lives_reached_now (id : DdConnectionId) (before now : ClientConnection) (was : Bool)
    (told : List Notification) (lives : LivesAs id (some before) told) :
    LivesAs id (some now) (told ++ reachedNow was now.hasReachedPostDeviceInit now) := by
  unfold reachedNow
  split
  · exact lives_reached id before now told lives
  · rw [List.append_nil]
    exact ⟨by simp, fun _ => lives.isOpen (by simp), lives.within⟩

theorem lives_changes (id : DdConnectionId) (before now : Option ClientConnection) (told : List Notification)
    (wasId : ∀ c, before = some c → c.umdConnectionId = id) (isId : ∀ c, now = some c → c.umdConnectionId = id)
    (lives : LivesAs id before told) : LivesAs id now (told ++ changes before now) := by
  cases before with
  | none =>
      cases now with
      | none => simpa [changes] using lives
      | some c =>
          have opened := lives_new id c told (isId c rfl) lives
          simpa [changes] using lives_reached_now id c c false _ opened
  | some b =>
      cases now with
      | none => exact lives_disconnect id b told (wasId b rfl) lives
      | some c => exact lives_reached_now id b c b.hasReachedPostDeviceInit told lives

-- With the flags kept, whether post device init was reported is the flag itself.
structure ReportedOnce (exposed : Option ClientConnection) (told : List Notification) : Prop where
  now : reachedSince told = if exposed.any ClientConnection.hasReachedPostDeviceInit then 1 else 0
  once : ∀ p, p <+: told → reachedSince p ≤ 1

theorem reported_append (exposed : Option ClientConnection) (told : List Notification) (n : Notification)
    (once : ∀ p, p <+: told → reachedSince p ≤ 1)
    (now : reachedSince (told ++ [n]) = if exposed.any ClientConnection.hasReachedPostDeviceInit then 1 else 0) :
    ReportedOnce exposed (told ++ [n]) := by
  refine ⟨now, prefix_extended told n (fun p => reachedSince p ≤ 1) once ?_⟩
  rw [now]
  split <;> omega

theorem reported_changes (before now : Option ClientConnection) (told : List Notification)
    (kept : ∀ b c, before = some b → now = some c → b.hasReachedPostDeviceInit = true →
      c.hasReachedPostDeviceInit = true)
    (reported : ReportedOnce before told) : ReportedOnce now (told ++ changes before now) := by
  cases before with
  | none =>
      cases now with
      | none => simpa [changes] using reported
      | some c =>
          rw [changes, ← List.singleton_append, ← List.append_assoc]
          have once := prefix_extended told (.handleNewConnection c) (fun p => reachedSince p ≤ 1) reported.once
            (by rw [reached_since_append]; exact Nat.zero_le 1)
          cases flag : c.hasReachedPostDeviceInit with
          | false =>
              simp only [reachedNow, Bool.and_false, Bool.false_eq_true, if_false, List.append_nil]
              exact ⟨by simp [reached_since_append, countReached, flag], once⟩
          | true =>
              simp only [reachedNow, Bool.not_false, Bool.and_true, if_true]
              apply reported_append _ _ _ once
              rw [reached_since_append, reached_since_append]
              simp [countReached, flag]
  | some b =>
      cases now with
      | none => exact reported_append _ _ _ reported.once (by simp [reached_since_append, countReached])
      | some c =>
          have was := reported.now
          have stays := kept b c rfl rfl
          cases flagBefore : b.hasReachedPostDeviceInit with
          | true =>
              simp only [changes, reachedNow, flagBefore, Bool.not_true, Bool.false_and, Bool.false_eq_true,
                if_false, List.append_nil]
              exact ⟨by simp [was, flagBefore, stays flagBefore], reported.once⟩
          | false =>
              cases flag : c.hasReachedPostDeviceInit with
              | false =>
                  simp only [changes, reachedNow, flag, Bool.and_false, Bool.false_eq_true, if_false,
                    List.append_nil]
                  exact ⟨by simp [was, flagBefore, flag], reported.once⟩
              | true =>
                  simp only [changes, reachedNow, flagBefore, flag, Bool.not_false, Bool.and_self, if_true]
                  exact reported_append _ _ _ reported.once
                    (by simp [reached_since_append, countReached, was, flagBefore, flag])

structure SupportedState.Faithful (apiFilter : List Api) (s : SupportedState) : Prop where
  unfiltered : s.set.unfilteredConnections = lastUpdated s.calls
  filter : s.set.apiFilter = filterAfter apiFilter s.calls
  exposed : s.set.filteredConnections = exposedAfter apiFilter s.calls
  distinct : (connectionIds s.set.unfilteredConnections).Nodup
  lives : ∀ id, LivesAs id (findConnection s.set.filteredConnections id) (about id s.notifications)
  reported : FlagsKept apiFilter s.calls → ∀ id,
    ReportedOnce (findConnection s.set.filteredConnections id) (about id s.notifications)

theorem update_filtered (s : SupportedConnectionSet) (connections : List ClientConnection) :
    (s.updateConnections connections).connections.filteredConnections =
      connections.filter (isSupported s.apiFilter) := by
  rw [SupportedConnectionSet.updateConnections]
  exact visit_all_filtered _ _ _

theorem exposed_distinct (apiFilter : List Api) (s : SupportedState) (faithful : s.Faithful apiFilter) :
    (connectionIds s.set.filteredConnections).Nodup := by
  rw [faithful.exposed, exposedAfter, ← faithful.unfiltered]
  exact List.Nodup.sublist (List.filter_sublist.map _) faithful.distinct

theorem notified (apiFilter : List Api) (s : SupportedState) (faithful : s.Faithful apiFilter) (call : Call)
    (passed : call.hasDistinctIds = true) (id : DdConnectionId) :
    about id (s.notifications ++ (s.set.call call).notifications) = about id s.notifications ++
      changes (findConnection s.set.filteredConnections id)
        (findConnection (s.set.call call).connections.filteredConnections id) := by
  rw [about_append]
  have exposed := exposed_distinct apiFilter s faithful
  cases call with
  | updateConnections connections =>
      have distinct : (connectionIds connections).Nodup := by simpa [Call.hasDistinctIds] using passed
      rw [SupportedConnectionSet.call, update_about s.set connections distinct exposed]
  | setApiFilter filter =>
      rw [SupportedConnectionSet.call, SupportedConnectionSet.setApiFilter,
        update_about { s.set with apiFilter := filter } _ faithful.distinct exposed]

theorem kept_across (apiFilter : List Api) (s : SupportedState) (faithful : s.Faithful apiFilter) (call : Call)
    (kept : FlagsKept apiFilter (call :: s.calls)) (id : DdConnectionId) (b c : ClientConnection)
    (before : findConnection s.set.filteredConnections id = some b)
    (now : findConnection (s.set.call call).connections.filteredConnections id = some c)
    (reached : b.hasReachedPostDeviceInit = true) : c.hasReachedPostDeviceInit = true := by
  obtain ⟨wasExposed, wasId⟩ := Keyed.lookup_mem _ _ _ _ before
  obtain ⟨isExposed, isId⟩ := Keyed.lookup_mem _ _ _ _ now
  cases call with
  | updateConnections connections =>
      rw [SupportedConnectionSet.call, update_filtered] at isExposed
      rw [faithful.exposed] at wasExposed
      exact kept.2 b wasExposed c (List.mem_of_mem_filter isExposed) (isId.trans wasId.symm) reached
  | setApiFilter filter =>
      -- Both are the one connection with this id in the last update.
      rw [SupportedConnectionSet.call, SupportedConnectionSet.setApiFilter, update_filtered] at isExposed
      rw [faithful.exposed, exposedAfter, ← faithful.unfiltered] at wasExposed
      have wasFound := Keyed.lookup_of_mem _ _ b faithful.distinct (List.mem_of_mem_filter wasExposed)
      have isFound := Keyed.lookup_of_mem _ _ c faithful.distinct (List.mem_of_mem_filter isExposed)
      rw [wasId] at wasFound
      rw [isId, wasFound, Option.some.injEq] at isFound
      exact isFound ▸ reached

theorem kept_before (apiFilter : List Api) (call : Call) (calls : List Call)
    (kept : FlagsKept apiFilter (call :: calls)) : FlagsKept apiFilter calls := by
  cases call with
  | updateConnections connections => exact kept.1
  | setApiFilter filter => exact kept

theorem supported_step (apiFilter : List Api) (s t : SupportedState) (call : Call)
    (faithful : s.Faithful apiFilter) (next : (supportedConnectionSet apiFilter).step s call = some t) :
    t.Faithful apiFilter := by
  obtain ⟨passed, rfl⟩ : call.hasDistinctIds = true ∧
      (⟨(s.set.call call).connections, call :: s.calls, s.notifications ++ (s.set.call call).notifications⟩ :
        SupportedState) = t := by
    simpa [supportedConnectionSet, Option.ite_none_right_eq_some] using next
  have told := notified apiFilter s faithful call passed
  have shape : (s.set.call call).connections =
      ⟨lastUpdated (call :: s.calls), exposedAfter apiFilter (call :: s.calls),
        filterAfter apiFilter (call :: s.calls)⟩ := by
    cases call with
    | updateConnections connections =>
        have filtered := update_filtered s.set connections
        rw [faithful.filter] at filtered
        simp only [SupportedConnectionSet.call, SupportedConnectionSet.updateConnections] at filtered ⊢
        rw [filtered, faithful.filter]
        rfl
    | setApiFilter filter =>
        have filtered := update_filtered { s.set with apiFilter := filter } s.set.unfilteredConnections
        rw [faithful.unfiltered] at filtered
        simp only [SupportedConnectionSet.call, SupportedConnectionSet.setApiFilter,
          SupportedConnectionSet.updateConnections] at filtered ⊢
        rw [faithful.unfiltered, filtered]
        rfl
  refine ⟨by rw [shape], by rw [shape], by rw [shape], ?_, fun id => ?_, fun kept id => ?_⟩
  · rw [shape]
    cases call with
    | updateConnections connections =>
        have distinct : (connectionIds connections).Nodup := by simpa [Call.hasDistinctIds] using passed
        exact distinct
    | setApiFilter filter =>
        have distinct := faithful.distinct
        rwa [faithful.unfiltered] at distinct
  · rw [told id]
    exact lives_changes id _ _ _ (fun c found => (Keyed.lookup_mem _ _ _ _ found).2)
      (fun c found => (Keyed.lookup_mem _ _ _ _ found).2) (faithful.lives id)
  · rw [told id]
    exact reported_changes _ _ _ (kept_across apiFilter s faithful call kept id)
      (faithful.reported (kept_before apiFilter call s.calls kept) id)

theorem reachable_supported (apiFilter : List Api) (s : SupportedState)
    (reach : Reachable (supportedConnectionSet apiFilter) s) : s.Faithful apiFilter := by
  refine reachable_invariant (supportedConnectionSet apiFilter) (SupportedState.Faithful apiFilter) ?_ ?_ s reach
  · refine ⟨rfl, rfl, rfl, List.nodup_nil, fun id => ⟨fun _ => closed_nil, ?_, fun p isPrefix => ?_⟩,
      fun _ id => ⟨rfl, fun p isPrefix => ?_⟩⟩
    · intro exposed
      exact absurd rfl exposed
    · rw [List.prefix_nil.mp isPrefix]
      intro reached
      cases reached
    · rw [List.prefix_nil.mp isPrefix]
      exact Nat.zero_le 1
  · exact fun s call t faithful next => supported_step apiFilter s t call faithful next

theorem notifications_follow_lives (apiFilter : List Api) (s : SupportedState)
    (reach : Reachable (supportedConnectionSet apiFilter) s) :
    (∀ id, Alternates (life (about id s.notifications))) ∧
    (∀ id p, p <+: about id s.notifications → 0 < reachedSince p → OpenFor id (life p)) ∧
    s.set.filteredConnections = exposedAfter apiFilter s.calls ∧
    (FlagsKept apiFilter s.calls → ∀ id p, p <+: about id s.notifications → reachedSince p ≤ 1) := by
  have faithful := reachable_supported apiFilter s reach
  refine ⟨fun id => ?_, fun id => (faithful.lives id).within, faithful.exposed,
    fun kept id => (faithful.reported kept id).once⟩
  cases exposed : findConnection s.set.filteredConnections id with
  | none => exact .inl ((faithful.lives id).closed exposed)
  | some c => exact .inr ⟨id, (faithful.lives id).isOpen (by simp [exposed])⟩

def vulkanConnection (id : DdConnectionId) (reached : Bool) : ClientConnection := ⟨.vulkan, id, 100, "game", reached⟩

theorem filtered_connection_reported_once : ∃ s, Reachable (supportedConnectionSet []) s ∧
    about 7 s.notifications =
      [.handleNewConnection (vulkanConnection 7 false), .connectionReachedPostDeviceInit (vulkanConnection 7 true),
        .handleDisconnect (vulkanConnection 7 true)] ∧
    Alternates (life (about 7 s.notifications)) ∧
    ∀ p, p <+: about 7 s.notifications → reachedSince p ≤ 1 := by
  obtain ⟨s, reach, found⟩ := exec_finds (supportedConnectionSet [])
    [.updateConnections [vulkanConnection 7 false, vulkanConnection 8 true],
      .updateConnections [vulkanConnection 8 true, vulkanConnection 7 true], .setApiFilter [.directX12]]
    (fun s => s.calls = [.setApiFilter [.directX12],
        .updateConnections [vulkanConnection 8 true, vulkanConnection 7 true],
        .updateConnections [vulkanConnection 7 false, vulkanConnection 8 true]] ∧
      about 7 s.notifications =
        [.handleNewConnection (vulkanConnection 7 false), .connectionReachedPostDeviceInit (vulkanConnection 7 true),
          .handleDisconnect (vulkanConnection 7 true)])
    (by decide)
  obtain ⟨calls, told⟩ := of_decide_eq_true found
  obtain ⟨alternates, _, _, once⟩ := notifications_follow_lives [] s reach
  have kept : FlagsKept [] s.calls := by
    rw [calls]
    simp [FlagsKept, exposedAfter, lastUpdated, filterAfter, isSupported, vulkanConnection]
  exact ⟨s, reach, told, alternates 7, once kept 7⟩

-- When an update takes the flag back, the next one reports it again.
theorem lowered_flag_reported_again : ¬ ∀ apiFilter s, Reachable (supportedConnectionSet apiFilter) s →
    ∀ id p, p <+: about id s.notifications → reachedSince p ≤ 1 := by
  intro claimed
  obtain ⟨s, reach, found⟩ := exec_finds (supportedConnectionSet [])
    [.updateConnections [vulkanConnection 7 true], .updateConnections [vulkanConnection 7 false],
      .updateConnections [vulkanConnection 7 true]]
    (fun s => reachedSince (about 7 s.notifications) = 2) (by decide)
  have twice : reachedSince (about 7 s.notifications) = 2 := of_decide_eq_true found
  have once := claimed [] s reach 7 _ List.prefix_rfl
  omega

end RadeonPanel.Connections

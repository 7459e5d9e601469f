import RadeonPanel.Base.Exclusive
import RadeonPanel.Base.Ranks
import RadeonPanel.Overlay.Manager

set_option autoImplicit false

namespace RadeonPanel.Overlay.Queues

open Interleaving Ubertrace

-- The places of the loop of OverlayQueue: its test of poll_, the wait under the queue's mutex, the
-- function that it has taken, which for the device clocks first holds state_mutex_ and then sends.
inductive ThreadPc where
  | polling
  | waiting
  | running (job : Job)
  | reading
  | sending (text : String)
  | finished
deriving DecidableEq, Repr

-- A queue and its thread. The jobs of an open queue are those of its connection in the manager;
-- a queue that was erased leaves them with its thread.
structure QueueThread where
  client : DdConnectionId
  poll : Bool
  left : List Job
  taken : Nat
  pc : ThreadPc
deriving DecidableEq, Repr

inductive Call where
  | driverConnected (id : DdConnectionId)
  | driverStateChanged (id : DdConnectionId) (state : DdDriverState)
  | driverDisconnected (id : DdConnectionId)
  | updateFeatureState (id : DdConnectionId) (feature : OverlayFeature) (state : OverlayState)
  | updateDeviceClocks (info : List (String × String))
  | routerConnected (supported : Bool)
  | routerDisconnected
deriving DecidableEq, Repr

-- JoinQueueThreads and the body of a call, each with its wait for state_mutex_.
inductive CallPc where
  | returned
  | taking (call : Call)
  | inTaking (call : Call)
  | joining (threads : List Nat) (call : Call)
  | locking (call : Call)
  | inside (call : Call)
deriving DecidableEq, Repr

inductive Holder where
  | caller (task : Nat)
  | thread (serial : Nat)
deriving DecidableEq, Repr

-- A call of SetDriverOverlayString, with the thread that made it.
structure Sent where
  serial : Nat
  client : DdConnectionId
  line : Nat
  text : String
deriving DecidableEq, Repr

-- `threads` holds the threads by their number, of which `created` were made. `sent` is the calls of
-- the driver, the newest first.
structure System where
  manager : OverlayManager
  clockInfo : List (String × String)
  created : Nat
  threads : Nat → Option QueueThread
  queueOf : DdConnectionId → Option Nat
  joinThreads : List Nat
  owner : Option Holder
  calls : Nat → CallPc
  sent : List Sent

def lineOf : OverlayFeature → Nat
  | .rgp => 0
  | .rmv => 1
  | .rra => 2
  | .rgd => 3

def kDeviceClocksIndex : Nat := 4

def getDeviceClocksString : List (String × String) → String
  | [] => ""
  | info => "Device Clocks: " ++ ", ".intercalate (info.map fun entry => entry.1 ++ " - " ++ entry.2)

namespace System

variable (s : System)

-- What was enqueued on the queue of a thread, the oldest first.
def jobs (thread : QueueThread) : List Job :=
  (if thread.poll then (s.manager.queues thread.client).getD [] else thread.left).reverse

def setThread (serial : Nat) (thread : QueueThread) : System :=
  { s with threads := Function.update s.threads serial (some thread) }

def place (serial : Nat) (thread : QueueThread) (pc : ThreadPc) : System :=
  s.setThread serial { thread with pc := pc }

def send (serial : Nat) (thread : QueueThread) (line : Nat) (text : String) : System :=
  { s.place serial thread .polling with sent := ⟨serial, thread.client, line, text⟩ :: s.sent }

-- The wait ends where the queue holds a function, else when its time is over.
def takeJob (serial : Nat) (thread : QueueThread) : System :=
  match (s.jobs thread)[thread.taken]? with
  | none => s.place serial thread .polling
  | some job =>
      if thread.poll then s.setThread serial { thread with taken := thread.taken + 1, pc := .running job }
      else s.place serial thread .finished

def readClocks (serial : Nat) (thread : QueueThread) : System :=
  let text := getDeviceClocksString s.clockInfo
  { s.place serial thread (if text = "" then .polling else .sending text) with owner := none }

def threadStep (serial : Nat) (thread : QueueThread) : Option System :=
  match thread.pc with
  | .polling => some (s.place serial thread (if thread.poll then .waiting else .finished))
  | .waiting => some (s.takeJob serial thread)
  | .running (.setFeature feature state) => some (s.send serial thread (lineOf feature) (overlayString feature state))
  | .running .setDeviceClocks =>
      if s.owner = none then some { s.place serial thread .reading with owner := some (.thread serial) } else none
  | .reading => some (s.readClocks serial thread)
  | .sending text => some (s.send serial thread kDeviceClocksIndex text)
  | .finished => none

-- The queue of a new connection comes with its thread.
def connect (id : DdConnectionId) : Option System :=
  (s.manager.onDriverConnected id).map fun manager =>
    if !s.manager.enabled then s
    else
      { s with
        manager := manager
        created := s.created + 1
        threads := Function.update s.threads s.created (some ⟨id, true, [], 0, .polling⟩)
        queueOf := Function.update s.queueOf id (some s.created) }

def closed (id : DdConnectionId) (thread : QueueThread) : QueueThread :=
  { thread with poll := false, left := (s.manager.queues id).getD [] }

-- The thread is moved to the threads to join before the destructor of its queue stops it.
def disconnect (id : DdConnectionId) : System :=
  match s.queueOf id with
  | none => { s with manager := s.manager.onDriverDisconnected id }
  | some serial =>
      { s with
        manager := s.manager.onDriverDisconnected id
        threads := Function.update s.threads serial ((s.threads serial).map (s.closed id))
        queueOf := Function.update s.queueOf id none
        joinThreads := s.joinThreads ++ [serial] }

-- `walk` is the order in which the unordered map of startup states is gone through.
def body (walk : OverlayStartupState) : Call → Option System
  | .driverConnected id => s.connect id
  | .driverStateChanged id state =>
      (s.manager.onDriverStateChanged id state walk).map fun manager => { s with manager := manager }
  | .driverDisconnected id => some (s.disconnect id)
  | .updateFeatureState id feature state =>
      some { s with manager := s.manager.updateFeatureState id feature state }
  | .updateDeviceClocks info =>
      some (if !s.manager.enabled then s else { s with clockInfo := info, manager := s.manager.updateDeviceClocks })
  | .routerConnected supported => some { s with manager := { s.manager with enabled := supported } }
  | .routerDisconnected => some s

end System

-- The calls that join the threads of erased queues first.
def Call.joins : Call → Bool
  | .driverConnected _ => true
  | .routerDisconnected => true
  | _ => false

def hasFinished (thread : Option QueueThread) : Bool := thread.any fun thread => decide (thread.pc = .finished)

namespace System

variable (s : System)

def setCall (task : Nat) (pc : CallPc) : System := { s with calls := Function.update s.calls task pc }

def begin (task : Nat) (call : Call) : Option System :=
  if s.calls task = .returned then some (s.setCall task (if call.joins then .taking call else .locking call)) else none

def lock (task : Nat) (pc : CallPc) : Option System :=
  if s.owner = none then some { s.setCall task pc with owner := some (.caller task) } else none

def callStep (task : Nat) (walk : OverlayStartupState) : CallPc → Option System
  | .returned => none
  | .taking call => s.lock task (.inTaking call)
  | .inTaking call =>
      some { s.setCall task (.joining s.joinThreads call) with joinThreads := [], owner := none }
  | .joining [] call => some (s.setCall task (if call = .routerDisconnected then .returned else .locking call))
  | .joining (serial :: rest) call =>
      if hasFinished (s.threads serial) then some (s.setCall task (.joining rest call)) else none
  | .locking call => s.lock task (.inside call)
  | .inside call => (s.body walk call).map fun next => { next.setCall task .returned with owner := none }

end System

inductive Action where
  | begin (task : Nat) (call : Call)
  | caller (task : Nat) (walk : OverlayStartupState)
  | thread (serial : Nat)
deriving DecidableEq, Repr

def System.next (s : System) : Action → Option System
  | .begin task call => s.begin task call
  | .caller task walk => s.callStep task walk (s.calls task)
  | .thread serial => (s.threads serial).bind (s.threadStep serial)

def start (hasDriverUtils : Bool) : System :=
  ⟨.create hasDriverUtils false, [], 0, fun _ => none, fun _ => none, [], none, fun _ => .returned, []⟩

-- Calls of any tasks with the threads of the queues, one step for each access to what they share.
def overlayQueues (hasDriverUtils : Bool) : Machine System Action := ⟨start hasDriverUtils, System.next⟩

def CallPc.call : CallPc → Option Call
  | .returned => none
  | .taking call => some call
  | .inTaking call => some call
  | .joining _ call => some call
  | .locking call => some call
  | .inside call => some call

-- A connection is announced where it is not connected and not being announced.
def Fresh (s : System) : Action → Prop
  | .begin _ (.driverConnected id) =>
      s.queueOf id = none ∧ ∀ task, (s.calls task).call ≠ some (.driverConnected id)
  | _ => True

-- Where a call holds the lock and where it waits.
def CallPc.locked : CallPc → Bool
  | .inTaking _ => true
  | .inside _ => true
  | _ => false

def System.holds (s : System) : Holder → Prop
  | .caller task => (s.calls task).locked = true
  | .thread serial => ∃ thread, s.threads serial = some thread ∧ thread.pc = .reading

def System.Stopped (s : System) (serial : Nat) : Prop := ∃ thread, s.threads serial = some thread ∧ thread.poll = false

structure Sound (s : System) : Prop where
  guarded : Guarded s.owner s.holds
  unmade : ∀ serial, s.created ≤ serial → s.threads serial = none
  queue : ∀ id serial, s.queueOf id = some serial →
    ∃ thread, s.threads serial = some thread ∧ thread.client = id ∧ thread.poll = true
  known : ∀ id, s.queueOf id = none → s.manager.queues id = none
  joinable : ∀ serial ∈ s.joinThreads, s.Stopped serial
  joined : ∀ task threads call, s.calls task = .joining threads call → ∀ serial ∈ threads, s.Stopped serial
  fresh : ∀ task id, (s.calls task).call = some (.driverConnected id) → s.queueOf id = none
  single : ∀ first second id, (s.calls first).call = some (.driverConnected id) →
    (s.calls second).call = some (.driverConnected id) → first = second

-- What a step of a thread leaves as it is.
structure Moved (s t : System) (serial : Nat) (thread moved : QueueThread) : Prop where
  state : t = { s with threads := Function.update s.threads serial (some moved), owner := t.owner, sent := t.sent }
  client : moved.client = thread.client
  poll : moved.poll = thread.poll
  left : moved.left = thread.left

section Threads
variable (s t : System) (serial : Nat) (thread : QueueThread)

theorem place_moved (pc : ThreadPc) : Moved s (s.place serial thread pc) serial thread { thread with pc := pc } :=
  ⟨rfl, rfl, rfl, rfl⟩

theorem take_job_moved : ∃ moved, Moved s (s.takeJob serial thread) serial thread moved ∧
    moved.pc ≠ .reading ∧ (s.takeJob serial thread).owner = s.owner := by
  cases head : (s.jobs thread)[thread.taken]? with
  | none =>
      rw [System.takeJob, head]
      exact ⟨_, place_moved s serial thread .polling, by simp, rfl⟩
  | some job =>
      by_cases polled : thread.poll = true
      · simp only [System.takeJob, head, if_pos polled]
        exact ⟨_, ⟨rfl, rfl, rfl, rfl⟩, by simp, rfl⟩
      · simp only [System.takeJob, head, if_neg polled]
        exact ⟨_, place_moved s serial thread .finished, by simp, rfl⟩

-- The lock is only touched on the way into and out of `reading`.
theorem thread_step_moved (next : s.threadStep serial thread = some t) : ∃ (moved : QueueThread) (use : LockUse),
    Moved s t serial thread moved ∧ use.Legal (s.owner = none) (thread.pc = .reading) (moved.pc = .reading) ∧
    t.owner = use.apply (.thread serial) s.owner := by
  rw [System.threadStep] at next
  split at next
  next pc =>
    cases next
    refine ⟨_, .keep, place_moved s serial thread _, ?_, rfl⟩
    cases thread.poll <;> simp [LockUse.Legal, pc]
  next pc =>
    cases next
    obtain ⟨moved, kept, away, same⟩ := take_job_moved s serial thread
    exact ⟨moved, .keep, kept, by simp [LockUse.Legal, pc, away], same⟩
  next pc =>
    cases next
    exact ⟨{ thread with pc := .polling }, .keep, ⟨rfl, rfl, rfl, rfl⟩, by simp [LockUse.Legal, pc], rfl⟩
  next pc =>
    split at next
    next free =>
      cases next
      exact ⟨{ thread with pc := .reading }, .acquire, ⟨rfl, rfl, rfl, rfl⟩, by simp [LockUse.Legal, pc, free], rfl⟩
    next => cases next
  next pc =>
    cases next
    refine ⟨_, .release, ⟨rfl, rfl, rfl, rfl⟩, ?_, rfl⟩
    split <;> simp [LockUse.Legal, pc]
  next pc =>
    cases next
    exact ⟨{ thread with pc := .polling }, .keep, ⟨rfl, rfl, rfl, rfl⟩, by simp [LockUse.Legal, pc], rfl⟩
  next => cases next

end Threads

-- A step of a call is one of the task's place and the lock, with what the body does in between.
def System.Frame (s t : System) : Prop :=
  ∀ serial, (∃ thread, s.threads serial = some thread ∧ thread.pc = .reading) ↔
    ∃ thread, t.threads serial = some thread ∧ thread.pc = .reading

theorem holds_set_call (s t : System) (task : Nat) (pc : CallPc) (use : LockUse) (guarded : Guarded s.owner s.holds)
    (calls : t.calls = Function.update s.calls task pc) (frame : s.Frame t)
    (legal : use.Legal (s.owner = none) ((s.calls task).locked = true) (pc.locked = true))
    (owner : t.owner = use.apply (.caller task) s.owner) : Guarded t.owner t.holds := by
  have here : t.holds (.caller task) ↔ pc.locked = true := by
    rw [System.holds, calls, Function.update_self]
  rw [owner]
  refine guarded_step s.owner s.holds t.holds (.caller task) use guarded ?_ ?_
  · cases use with
    | keep => exact legal.trans here.symm
    | acquire => exact ⟨legal.1, legal.2.1, here.mpr legal.2.2⟩
    | release => exact ⟨legal.1, fun inside => legal.2 (here.mp inside)⟩
  · intro other apart
    cases other with
    | thread serial => exact (frame serial).symm
    | caller other =>
        have differs : other ≠ task := fun same => apart (by rw [same])
        rw [System.holds, calls, Function.update_of_ne differs]
        rfl

-- What is enqueued goes behind what is there, and makes no queue.
def Grows (m t : OverlayManager) : Prop :=
  ∀ id, (m.queues id = none → t.queues id = none) ∧
    ∀ jobs, m.queues id = some jobs → ∃ more, t.queues id = some (more ++ jobs)

theorem grows_refl (m : OverlayManager) : Grows m m :=
  fun _ => ⟨fun none => none, fun _ here => ⟨[], here⟩⟩

theorem grows_same (m t : OverlayManager) (same : t.queues = m.queues) : Grows m t := by
  intro id
  rw [same]
  exact grows_refl m id

theorem grows_trans (m t u : OverlayManager) (first : Grows m t) (second : Grows t u) : Grows m u := by
  intro id
  refine ⟨fun none => (second id).1 ((first id).1 none), fun jobs here => ?_⟩
  obtain ⟨more, there⟩ := (first id).2 jobs here
  obtain ⟨last, final⟩ := (second id).2 _ there
  exact ⟨last ++ more, by rw [final, List.append_assoc]⟩

theorem enqueue_grows (m : OverlayManager) (id : DdConnectionId) (job : Job) : Grows m (m.enqueue id job) := by
  intro other
  by_cases same : other = id
  · subst same
    refine ⟨fun none => by rw [enqueue_nowhere m other job none, none], fun jobs here => ?_⟩
    rw [enqueue_here m other job jobs here]
    cases m.hasDriverUtils
    · exact ⟨[], rfl⟩
    · exact ⟨[job], rfl⟩
  · rw [enqueue_elsewhere m id job other same]
    exact grows_refl m other

theorem walk_grows (id : DdConnectionId) (walk : OverlayStartupState) (m : OverlayManager) :
    Grows m (m.updateFeatureStates id walk) := by
  induction walk generalizing m with
  | nil => exact grows_refl m
  | cons entry rest ih =>
      exact grows_trans m _ _ (enqueue_grows m id (.setFeature entry.1 entry.2)) (ih _)

theorem client_clocks_grows (m : OverlayManager) (id : DdConnectionId) : Grows m (m.updateClientDeviceClocks id) := by
  rw [OverlayManager.updateClientDeviceClocks]
  split
  · exact grows_refl m
  · exact enqueue_grows m id .setDeviceClocks

theorem state_changed_grows (m t : OverlayManager) (id : DdConnectionId) (state : DdDriverState)
    (walk : OverlayStartupState) (next : m.onDriverStateChanged id state walk = some t) : Grows m t := by
  obtain ⟨rfl, _⟩ | ⟨_, _, _, effect⟩ := state_changed_cases m t id state walk next
  · exact grows_refl t
  · rw [effect]
    have erased : Grows m (m.eraseStartupState id) := grows_same m _ rfl
    have walked := walk_grows id walk (m.eraseStartupState id)
    exact grows_trans m _ _ (grows_trans m _ _ erased walked) (client_clocks_grows _ id)

theorem updated_grows (m : OverlayManager) (id : DdConnectionId) (feature : OverlayFeature) (state : OverlayState) :
    Grows m (m.updateFeatureState id feature state) := by
  obtain ⟨_, effect⟩ | ⟨_, _, effect⟩ | ⟨_, startup, _, effect⟩ := update_cases m id feature state
  · rw [effect]
    exact grows_refl m
  · rw [effect]
    exact enqueue_grows m id (.setFeature feature state)
  · exact grows_same m _ (by rw [effect])

theorem clocks_grow (m : OverlayManager) : Grows m m.updateDeviceClocks := by
  rw [OverlayManager.updateDeviceClocks]
  split
  · exact grows_refl m
  · exact fun id => client_clocks_grows m id id

-- The three things a body can do.
inductive Effect (s t : System) (call : Call) : Prop where
  | grown (manager : OverlayManager) (clockInfo : List (String × String)) (grows : Grows s.manager manager)
      (state : t = { s with manager := manager, clockInfo := clockInfo }) : Effect s t call
  | connected (id : DdConnectionId) (made : call = .driverConnected id) (absent : s.manager.queues id = none)
      (startup : DdConnectionId → Option OverlayStartupState)
      (state : t = { s with
        manager := { s.manager with queues := Function.update s.manager.queues id (some []), startupStates := startup }
        created := s.created + 1
        threads := Function.update s.threads s.created (some ⟨id, true, [], 0, .polling⟩)
        queueOf := Function.update s.queueOf id (some s.created) }) : Effect s t call
  | disconnected (id : DdConnectionId) (serial : Nat) (here : s.queueOf id = some serial)
      (state : t = { s with
        manager := s.manager.onDriverDisconnected id
        threads := Function.update s.threads serial ((s.threads serial).map (s.closed id))
        queueOf := Function.update s.queueOf id none
        joinThreads := s.joinThreads ++ [serial] }) : Effect s t call

theorem disconnect_effect (s : System) (id : DdConnectionId) (call : Call) (known : s.queueOf id = none → s.manager.queues id = none) :
    Effect s (s.disconnect id) call := by
  cases here : s.queueOf id with
  | some serial => exact .disconnected id serial here (by simp only [System.disconnect, here])
  | none =>
      refine .grown (s.manager.onDriverDisconnected id) s.clockInfo (fun other => ?_) (by simp only [System.disconnect, here])
      by_cases same : other = id
      · subst same
        exact ⟨fun _ => Function.update_self _ _ _, fun jobs there => by simp [known here] at there⟩
      · have kept : (s.manager.onDriverDisconnected id).queues other = s.manager.queues other :=
          Function.update_of_ne same _ _
        rw [kept]
        exact grows_refl s.manager other

theorem connect_effect (s t : System) (id : DdConnectionId) (next : s.connect id = some t) :
    Effect s t (.driverConnected id) := by
  obtain ⟨manager, connected, state⟩ := Option.map_eq_some_iff.mp next
  obtain ⟨off, _⟩ | ⟨on, absent, effect⟩ := connect_cases s.manager manager id connected
  · rw [off, Bool.not_false, if_pos rfl] at state
    exact .grown s.manager s.clockInfo (grows_refl s.manager) state.symm
  · rw [on, Bool.not_true, if_neg Bool.false_ne_true, effect] at state
    exact .connected id rfl absent _ state.symm

theorem body_effect (s t : System) (walk : OverlayStartupState) (call : Call)
    (known : ∀ id, s.queueOf id = none → s.manager.queues id = none) (next : s.body walk call = some t) :
    Effect s t call := by
  cases call with
  | driverConnected id => exact connect_effect s t id next
  | driverStateChanged id state =>
      obtain ⟨manager, changed, rfl⟩ := Option.map_eq_some_iff.mp next
      exact .grown manager s.clockInfo (state_changed_grows s.manager manager id state walk changed) rfl
  | driverDisconnected id =>
      cases next
      exact disconnect_effect s id _ (known id)
  | updateFeatureState id feature state =>
      cases next
      exact .grown _ s.clockInfo (updated_grows s.manager id feature state) rfl
  | updateDeviceClocks info =>
      rw [System.body, Option.some.injEq] at next
      cases on : s.manager.enabled with
      | false =>
          rw [on, Bool.not_false, if_pos rfl] at next
          exact .grown s.manager s.clockInfo (grows_refl s.manager) next.symm
      | true =>
          rw [on, Bool.not_true, if_neg Bool.false_ne_true] at next
          exact .grown _ info (clocks_grow s.manager) next.symm
  | routerConnected supported =>
      cases next
      exact .grown { s.manager with enabled := supported } s.clockInfo (grows_same s.manager _ rfl) rfl
  | routerDisconnected =>
      cases next
      exact .grown s.manager s.clockInfo (grows_refl s.manager) rfl

section Moved
variable {s t : System} {serial : Nat} {thread moved : QueueThread}

theorem moved_threads (kept : Moved s t serial thread moved) :
    t.threads = Function.update s.threads serial (some moved) := by
  rw [kept.state]

theorem moved_calls (kept : Moved s t serial thread moved) : t.calls = s.calls := by
  rw [kept.state]

theorem moved_stopped (found : s.threads serial = some thread) (kept : Moved s t serial thread moved) (other : Nat)
    (stopped : s.Stopped other) : t.Stopped other := by
  obtain ⟨held, here, off⟩ := stopped
  by_cases same : other = serial
  · subst same
    cases found.symm.trans here
    exact ⟨moved, by rw [moved_threads kept, Function.update_self], by rw [kept.poll, off]⟩
  · exact ⟨held, by rw [moved_threads kept, Function.update_of_ne same, here], off⟩

end Moved

theorem sound_thread (s t : System) (serial : Nat) (thread : QueueThread) (sound : Sound s)
    (found : s.threads serial = some thread) (next : s.threadStep serial thread = some t) : Sound t := by
  obtain ⟨moved, use, kept, legal, owner⟩ := thread_step_moved s t serial thread next
  have calls := moved_calls kept
  have others : ∀ other, other ≠ serial → t.threads other = s.threads other := fun other apart => by
    rw [moved_threads kept, Function.update_of_ne apart]
  have here : t.threads serial = some moved := by rw [moved_threads kept, Function.update_self]
  have queueOf : t.queueOf = s.queueOf := by rw [kept.state]
  have manager : t.manager = s.manager := by rw [kept.state]
  have created : t.created = s.created := by rw [kept.state]
  have joinThreads : t.joinThreads = s.joinThreads := by rw [kept.state]
  constructor
  · have before : s.holds (.thread serial) ↔ thread.pc = .reading := by simp [System.holds, found]
    have after : t.holds (.thread serial) ↔ moved.pc = .reading := by simp [System.holds, here]
    rw [owner]
    refine guarded_step s.owner s.holds t.holds (.thread serial) use sound.guarded ?_ ?_
    · rw [before, after]
      exact legal
    · intro other apart
      cases other with
      | caller task => rw [System.holds, calls]; rfl
      | thread other => rw [System.holds, others other (fun same => apart (by rw [same]))]; rfl
  · intro other beyond
    rw [created] at beyond
    have apart : other ≠ serial := by
      intro same
      cases (sound.unmade serial (same ▸ beyond)).symm.trans found
    rw [others other apart, sound.unmade other beyond]
  · intro id other queue
    rw [queueOf] at queue
    obtain ⟨held, there, client, poll⟩ := sound.queue id other queue
    by_cases same : other = serial
    · subst same
      cases found.symm.trans there
      exact ⟨moved, here, kept.client.trans client, kept.poll.trans poll⟩
    · exact ⟨held, by rw [others other same, there], client, poll⟩
  · rw [queueOf, manager]
    exact sound.known
  · rw [joinThreads]
    exact fun other member => moved_stopped found kept other (sound.joinable other member)
  · rw [calls]
    exact fun task threads call joining other member =>
      moved_stopped found kept other (sound.joined task threads call joining other member)
  · rw [calls, queueOf]
    exact sound.fresh
  · rw [calls]
    exact sound.single

theorem update_calls (s : System) (task : Nat) (pc : CallPc) (holds : Nat → CallPc → Prop)
    (here : holds task pc) (others : ∀ other, other ≠ task → holds other (s.calls other)) (other : Nat) :
    holds other (Function.update s.calls task pc other) := by
  by_cases same : other = task
  · subst same
    rw [Function.update_self]
    exact here
  · rw [Function.update_of_ne same]
    exact others other same

-- Calls that announce a connection stay apart while a task takes no new call.
theorem single_update (s : System) (sound : Sound s) (task : Nat) (pc : CallPc)
    (same : ∀ id, pc.call = some (.driverConnected id) →
      ∀ other, other ≠ task → (s.calls other).call ≠ some (.driverConnected id)) (first second : Nat)
    (id : DdConnectionId) (one : (Function.update s.calls task pc first).call = some (.driverConnected id))
    (two : (Function.update s.calls task pc second).call = some (.driverConnected id)) : first = second := by
  by_cases isFirst : first = task
  · by_cases isSecond : second = task
    · rw [isFirst, isSecond]
    · rw [isFirst, Function.update_self] at one
      rw [Function.update_of_ne isSecond] at two
      exact absurd two (same id one second isSecond)
  · rw [Function.update_of_ne isFirst] at one
    by_cases isSecond : second = task
    · rw [isSecond, Function.update_self] at two
      exact absurd one (same id two first isFirst)
    · rw [Function.update_of_ne isSecond] at two
      exact sound.single first second id one two

-- A step of a call that leaves the queues alone.
theorem sound_call (s t : System) (task : Nat) (pc : CallPc) (use : LockUse) (sound : Sound s)
    (state : t = { s with calls := Function.update s.calls task pc, owner := t.owner, joinThreads := t.joinThreads })
    (legal : use.Legal (s.owner = none) ((s.calls task).locked = true) (pc.locked = true))
    (owner : t.owner = use.apply (.caller task) s.owner) (joinable : ∀ serial ∈ t.joinThreads, s.Stopped serial)
    (joined : ∀ threads call, pc = .joining threads call → ∀ serial ∈ threads, s.Stopped serial)
    (fresh : ∀ id, pc.call = some (.driverConnected id) → s.queueOf id = none ∧
      ∀ other, other ≠ task → (s.calls other).call ≠ some (.driverConnected id)) : Sound t := by
  have calls : t.calls = Function.update s.calls task pc := by rw [state]
  have threads : t.threads = s.threads := by rw [state]
  have queueOf : t.queueOf = s.queueOf := by rw [state]
  have frame : s.Frame t := fun serial => by rw [threads]
  constructor
  · exact holds_set_call s t task pc use sound.guarded calls frame legal owner
  · rw [state]
    exact sound.unmade
  · rw [state]
    exact sound.queue
  · rw [state]
    exact sound.known
  · intro serial member
    rw [System.Stopped, threads]
    exact joinable serial member
  · rw [calls]
    simp only [System.Stopped, threads]
    exact update_calls s task pc (fun _ pc => ∀ threads call, pc = .joining threads call → ∀ serial ∈ threads, s.Stopped serial)
      joined (fun other _ => sound.joined other)
  · rw [calls, queueOf]
    exact update_calls s task pc (fun _ pc => ∀ id, pc.call = some (.driverConnected id) → s.queueOf id = none)
      (fun id made => (fresh id made).1) (fun other _ => sound.fresh other)
  · rw [calls]
    exact single_update s sound task pc (fun id made => (fresh id made).2)

-- A task that goes on with its call.
theorem goes_on (s : System) (sound : Sound s) (task : Nat) (id : DdConnectionId)
    (made : (s.calls task).call = some (.driverConnected id)) : s.queueOf id = none ∧
      ∀ other, other ≠ task → (s.calls other).call ≠ some (.driverConnected id) :=
  ⟨sound.fresh task id made, fun other apart too => apart (sound.single other task id too made)⟩

theorem effect_stopped (s t : System) (call : Call) (sound : Sound s) (effect : Effect s t call) (serial : Nat)
    (stopped : s.Stopped serial) : t.Stopped serial := by
  obtain ⟨thread, here, off⟩ := stopped
  cases effect with
  | grown manager clockInfo grows state =>
      rw [state]
      exact ⟨thread, here, off⟩
  | connected id made absent startup state =>
      rw [state]
      have apart : serial ≠ s.created := by
        intro same
        cases (sound.unmade serial (by omega)).symm.trans here
      exact ⟨thread, by simp only [Function.update_of_ne apart, here], off⟩
  | disconnected id closing found state =>
      rw [state]
      by_cases same : serial = closing
      · subst same
        exact ⟨s.closed id thread, by simp only [Function.update_self, here, Option.map_some], rfl⟩
      · exact ⟨thread, by simp only [Function.update_of_ne same, here], off⟩

theorem effect_frame (s t : System) (call : Call) (sound : Sound s) (effect : Effect s t call) : s.Frame t := by
  intro serial
  cases effect with
  | grown manager clockInfo grows state => rw [state]
  | connected id made absent startup state =>
      rw [state]
      by_cases same : serial = s.created
      · subst same
        simp [sound.unmade _ (Nat.le_refl _)]
      · simp only [Function.update_of_ne same]
  | disconnected id closing found state =>
      rw [state]
      by_cases same : serial = closing
      · subst same
        cases s.threads serial <;> simp [System.closed]
      · simp only [Function.update_of_ne same]

theorem effect_frames (s t : System) (call : Call) (effect : Effect s t call) :
    t.calls = s.calls ∧ t.owner = s.owner ∧ t.sent = s.sent := by
  cases effect with
  | grown manager clockInfo grows state => rw [state]; exact ⟨rfl, rfl, rfl⟩
  | connected id made absent startup state => rw [state]; exact ⟨rfl, rfl, rfl⟩
  | disconnected id closing found state => rw [state]; exact ⟨rfl, rfl, rfl⟩

section Effect
variable (s t : System) (call : Call) (sound : Sound s) (effect : Effect s t call)
include sound effect

theorem effect_unmade (serial : Nat) (beyond : t.created ≤ serial) : t.threads serial = none := by
  cases effect with
  | grown manager clockInfo grows state =>
      rw [state] at beyond ⊢
      exact sound.unmade serial beyond
  | connected id made absent startup state =>
      rw [state] at beyond ⊢
      have later : s.created + 1 ≤ serial := beyond
      simp only [Function.update_of_ne (show serial ≠ s.created by omega), sound.unmade serial (by omega)]
  | disconnected id closing found state =>
      rw [state] at beyond ⊢
      have none := sound.unmade serial beyond
      by_cases same : serial = closing
      · subst same
        simp only [Function.update_self, none, Option.map_none]
      · simp only [Function.update_of_ne same, none]

theorem effect_queue (id : DdConnectionId) (serial : Nat) (queue : t.queueOf id = some serial) :
    ∃ thread, t.threads serial = some thread ∧ thread.client = id ∧ thread.poll = true := by
  cases effect with
  | grown manager clockInfo grows state =>
      rw [state] at queue ⊢
      exact sound.queue id serial queue
  | connected new made absent startup state =>
      rw [state] at queue ⊢
      by_cases same : id = new
      · subst same
        simp only [Function.update_self, Option.some.injEq] at queue
        subst queue
        exact ⟨_, Function.update_self _ _ _, rfl, rfl⟩
      · simp only [Function.update_of_ne same] at queue
        obtain ⟨thread, here, client, on⟩ := sound.queue id serial queue
        have apart : serial ≠ s.created := by
          intro equal
          cases (sound.unmade serial (by omega)).symm.trans here
        exact ⟨thread, by simp only [Function.update_of_ne apart, here], client, on⟩
  | disconnected old closing found state =>
      rw [state] at queue ⊢
      by_cases same : id = old
      · subst same
        simp only [Function.update_self, reduceCtorEq] at queue
      · simp only [Function.update_of_ne same] at queue
        obtain ⟨thread, here, client, on⟩ := sound.queue id serial queue
        obtain ⟨held, there, of, _⟩ := sound.queue old closing found
        have apart : serial ≠ closing := by
          intro equal
          subst equal
          cases here.symm.trans there
          exact same (client.symm.trans of)
        exact ⟨thread, by simp only [Function.update_of_ne apart, here], client, on⟩

theorem effect_known (id : DdConnectionId) (off : t.queueOf id = none) : t.manager.queues id = none := by
  cases effect with
  | grown manager clockInfo grows state =>
      rw [state] at off ⊢
      exact (grows id).1 (sound.known id off)
  | connected new made absent startup state =>
      rw [state] at off ⊢
      by_cases same : id = new
      · subst same
        simp only [Function.update_self, reduceCtorEq] at off
      · simp only [Function.update_of_ne same] at off ⊢
        exact sound.known id off
  | disconnected old closing found state =>
      rw [state] at off ⊢
      by_cases same : id = old
      · subst same
        exact Function.update_self _ _ _
      · simp only [Function.update_of_ne same] at off
        exact (Function.update_of_ne same _ _).trans (sound.known id off)

theorem effect_joinable (serial : Nat) (member : serial ∈ t.joinThreads) : t.Stopped serial := by
  have kept := effect_stopped s t call sound effect
  cases effect with
  | grown manager clockInfo grows state =>
      rw [state] at member
      exact kept serial (sound.joinable serial member)
  | connected id made absent startup state =>
      rw [state] at member
      exact kept serial (sound.joinable serial member)
  | disconnected id closing found state =>
      rw [state] at member
      obtain before | last := List.mem_append.mp member
      · exact kept serial (sound.joinable serial before)
      · rw [List.mem_singleton] at last
        subst last
        obtain ⟨thread, here, _, _⟩ := sound.queue id serial found
        refine ⟨s.closed id thread, ?_, rfl⟩
        rw [state]
        simp only [Function.update_self, here, Option.map_some]

end Effect

theorem effect_absent (s t : System) (call : Call) (effect : Effect s t call) (id : DdConnectionId)
    (apart : call ≠ .driverConnected id) (off : s.queueOf id = none) : t.queueOf id = none := by
  cases effect with
  | grown manager clockInfo grows state => rw [state]; exact off
  | connected new made absent startup state =>
      rw [state]
      have differs : id ≠ new := fun same => apart (by rw [made, same])
      simp only [Function.update_of_ne differs, off]
  | disconnected old closing found state =>
      rw [state]
      by_cases same : id = old
      · subst same
        simp only [Function.update_self]
      · simp only [Function.update_of_ne same, off]

theorem sound_inside (s next : System) (task : Nat) (call : Call) (sound : Sound s) (place : s.calls task = .inside call)
    (effect : Effect s next call) : Sound { next.setCall task .returned with owner := none } := by
  obtain ⟨calls, _, _⟩ := effect_frames s next call effect
  have updated : (next.setCall task .returned).calls = Function.update s.calls task .returned := by
    rw [System.setCall, calls]
  constructor
  · have frame := effect_frame s next call sound effect
    refine holds_set_call s _ task .returned .release sound.guarded updated frame ?_ rfl
    simp [LockUse.Legal, place, CallPc.locked]
  · exact effect_unmade s next call sound effect
  · exact effect_queue s next call sound effect
  · exact effect_known s next call sound effect
  · exact effect_joinable s next call sound effect
  · simp only [updated]
    exact update_calls s task .returned
      (fun _ pc => ∀ threads call, pc = .joining threads call → ∀ serial ∈ threads, next.Stopped serial)
      (fun _ _ joining => by cases joining)
      (fun other _ threads called joining serial member =>
        effect_stopped s next call sound effect serial (sound.joined other threads called joining serial member))
  · simp only [updated]
    refine update_calls s task .returned
      (fun _ pc => ∀ id, pc.call = some (.driverConnected id) → next.queueOf id = none)
      (fun _ made => by cases made) (fun other apart id made => ?_)
    refine effect_absent s next call effect id (fun same => ?_) (sound.fresh other id made)
    exact apart (sound.single other task id made (by rw [place, same]; rfl))
  · simp only [updated]
    exact single_update s sound task .returned (fun _ made => by cases made)

theorem sound_call_step (s t : System) (task : Nat) (walk : OverlayStartupState) (sound : Sound s)
    (next : s.callStep task walk (s.calls task) = some t) : Sound t := by
  have announced := goes_on s sound task
  cases place : s.calls task with
  | returned =>
      rw [place] at next
      cases next
  | taking call =>
      rw [place] at next announced
      obtain ⟨free, same⟩ := Option.ite_none_right_eq_some.mp next
      cases same
      refine sound_call s _ task (.inTaking call) .acquire sound rfl ?_ rfl sound.joinable (fun _ _ same => by cases same) announced
      simp [LockUse.Legal, free, place, CallPc.locked]
  | inTaking call =>
      rw [place] at next announced
      cases next
      refine sound_call s _ task (.joining s.joinThreads call) .release sound rfl ?_ rfl (by simp) ?_ announced
      · simp [LockUse.Legal, place, CallPc.locked]
      · intro threads other same serial member
        cases same
        exact sound.joinable serial member
  | joining threads call =>
      rw [place] at next announced
      cases threads with
      | nil =>
          cases next
          refine sound_call s _ task _ .keep sound rfl ?_ rfl sound.joinable ?_ ?_
          · split <;> simp [LockUse.Legal, place, CallPc.locked]
          · intro threads other same
            split at same <;> cases same
          · intro id made
            split at made
            · cases made
            · exact announced id made
      | cons serial rest =>
          obtain ⟨done, same⟩ := Option.ite_none_right_eq_some.mp next
          cases same
          refine sound_call s _ task (.joining rest call) .keep sound rfl ?_ rfl sound.joinable ?_ announced
          · simp [LockUse.Legal, place, CallPc.locked]
          · intro threads other same serial member
            cases same
            exact sound.joined task _ call place serial (List.mem_cons_of_mem _ member)
  | locking call =>
      rw [place] at next announced
      obtain ⟨free, same⟩ := Option.ite_none_right_eq_some.mp next
      cases same
      refine sound_call s _ task (.inside call) .acquire sound rfl ?_ rfl sound.joinable (fun _ _ same => by cases same) announced
      simp [LockUse.Legal, free, place, CallPc.locked]
  | inside call =>
      rw [place] at next
      obtain ⟨after, body, rfl⟩ := Option.map_eq_some_iff.mp next
      exact sound_inside s after task call sound place (body_effect s after walk call sound.known body)

theorem sound_begin (s t : System) (task : Nat) (call : Call) (sound : Sound s) (fresh : Fresh s (.begin task call))
    (next : s.begin task call = some t) : Sound t := by
  obtain ⟨idle, same⟩ := Option.ite_none_right_eq_some.mp next
  cases same
  refine sound_call s _ task _ .keep sound rfl ?_ rfl sound.joinable ?_ ?_
  · split <;> simp [LockUse.Legal, idle, CallPc.locked]
  · intro threads other same
    split at same <;> cases same
  · intro id made
    have connects : call = .driverConnected id := by
      split at made <;> exact Option.some.inj made
    subst connects
    exact ⟨fresh.1, fun other _ => fresh.2 other⟩

theorem sound_start (hasDriverUtils : Bool) : Sound (start hasDriverUtils) where
  guarded := by
    intro holder
    cases holder <;> simp [System.holds, start, CallPc.locked]
  unmade := fun _ _ => rfl
  queue := fun _ _ queue => by cases queue
  known := fun _ _ => rfl
  joinable := fun _ member => by cases member
  joined := fun _ _ _ joining => by cases joining
  fresh := fun _ _ made => by cases made
  single := fun _ _ _ made => by cases made

theorem sound_step (s t : System) (action : Action) (sound : Sound s) (fresh : Fresh s action)
    (next : s.next action = some t) : Sound t := by
  cases action with
  | begin task call => exact sound_begin s t task call sound fresh next
  | caller task walk => exact sound_call_step s t task walk sound next
  | thread serial =>
      obtain ⟨thread, found, stepped⟩ := Option.bind_eq_some_iff.mp next
      exact sound_thread s t serial thread sound found stepped

theorem sound_reachable (hasDriverUtils : Bool) (s : System) (reach : Reach (overlayQueues hasDriverUtils) Fresh s) : Sound s :=
  reach_invariant (overlayQueues hasDriverUtils) Fresh Sound (sound_start hasDriverUtils)
    (fun s a t _ sound fresh next => sound_step s t a sound fresh next) s reach

end RadeonPanel.Overlay.Queues

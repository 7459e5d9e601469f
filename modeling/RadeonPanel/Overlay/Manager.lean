import Mathlib.Logic.Function.Basic
import RadeonPanel.Base.KeyedValues
import RadeonPanel.Base.Runs
import RadeonPanel.Connections.Types

set_option autoImplicit false

namespace RadeonPanel.Overlay

open Interleaving Ubertrace

-- Their number, kCount, is the line of the device clocks and no feature.
inductive OverlayFeature where
  | rgp
  | rmv
  | rra
  | rgd
deriving DecidableEq, Repr

def OverlayFeature.all : List OverlayFeature := [.rgp, .rmv, .rra, .rgd]

inductive OverlayState where
  | inactive
  | disabled
  | error
  | done
  | busy
  | idle
  | waitingToBeginCapture
  | capturing
  | dumping
  | processing
deriving DecidableEq, Repr

def getNameForFeature : OverlayFeature → String
  | .rgp => "RGP Profiling"
  | .rmv => "RMV Tracing"
  | .rra => "RRA Capture"
  | .rgd => "Crash Analysis"

def getStringForOverlayState : OverlayState → String
  | .inactive => "Inactive"
  | .disabled => "Unsupported"
  | .error => "Error"
  | .done => "Done"
  | .busy => "Busy"
  | .idle => "Ready"
  | .waitingToBeginCapture => "Waiting to begin capture"
  | .capturing => "Capturing"
  | .dumping => "Dumping"
  | .processing => "Processing"

def overlayString (feature : OverlayFeature) (state : OverlayState) : String :=
  getNameForFeature feature ++ ": " ++ getStringForOverlayState state

-- The functions that wait in the queue of a connection.
inductive Job where
  | setFeature (feature : OverlayFeature) (state : OverlayState)
  | setDeviceClocks
deriving DecidableEq, Repr

abbrev OverlayStartupState := List (OverlayFeature × OverlayState)

-- A queue keeps the jobs enqueued since its connection was made, the newest first.
structure OverlayManager where
  hasDriverUtils : Bool
  enabled : Bool
  startupStates : DdConnectionId → Option OverlayStartupState
  queues : DdConnectionId → Option (List Job)

namespace OverlayManager

def create (hasDriverUtils enabled : Bool) : OverlayManager :=
  ⟨hasDriverUtils, enabled, fun _ => none, fun _ => none⟩

-- Nothing is enqueued without a queue or without the driver's API.
def enqueue (m : OverlayManager) (id : DdConnectionId) (job : Job) : OverlayManager :=
  match m.queues id with
  | none => m
  | some jobs =>
      if !m.hasDriverUtils then m else { m with queues := Function.update m.queues id (some (job :: jobs)) }

def updateFeatureStateInternal (m : OverlayManager) (id : DdConnectionId) (feature : OverlayFeature)
    (state : OverlayState) : OverlayManager :=
  m.enqueue id (.setFeature feature state)

def updateFeatureState (m : OverlayManager) (id : DdConnectionId) (feature : OverlayFeature)
    (state : OverlayState) : OverlayManager :=
  if !m.enabled then m
  else
    match m.startupStates id with
    | none => m.updateFeatureStateInternal id feature state
    | some startup =>
        let startup := KeyedValues.assign startup feature state
        { m with startupStates := Function.update m.startupStates id (some startup) }

def updateClientDeviceClocks (m : OverlayManager) (id : DdConnectionId) : OverlayManager :=
  if (m.startupStates id).isSome then m else m.enqueue id .setDeviceClocks

-- Every queue whose client has started gets the job.
def updateDeviceClocks (m : OverlayManager) : OverlayManager :=
  if !m.enabled then m else { m with queues := fun id => (m.updateClientDeviceClocks id).queues id }

-- A second queue for a connection is dropped again while its thread is joinable,
-- which ends the process.
def onDriverConnected (m : OverlayManager) (id : DdConnectionId) : Option OverlayManager :=
  if !m.enabled then some m
  else if (m.queues id).isSome then none
  else
    some { m with
      queues := Function.update m.queues id (some [])
      startupStates := Function.update m.startupStates id
        (some (OverlayFeature.all.map fun feature => (feature, .inactive))) }

def eraseStartupState (m : OverlayManager) (id : DdConnectionId) : OverlayManager :=
  { m with startupStates := Function.update m.startupStates id none }

def updateFeatureStates (m : OverlayManager) (id : DdConnectionId) (walk : OverlayStartupState) : OverlayManager :=
  walk.foldl (fun m entry => m.updateFeatureStateInternal id entry.1 entry.2) m

-- `walk` is the startup state in the order of the unordered map.
def onDeviceInit (m : OverlayManager) (id : DdConnectionId) (walk : OverlayStartupState) : Option OverlayManager :=
  if !m.enabled then some m
  else
    match m.startupStates id with
    | none => some m
    | some startup =>
        if walk.isPerm startup then
          some (((m.eraseStartupState id).updateFeatureStates id walk).updateClientDeviceClocks id)
        else none

def onDriverStateChanged (m : OverlayManager) (id : DdConnectionId) (state : DdDriverState)
    (walk : OverlayStartupState) : Option OverlayManager :=
  if state ≠ .deviceInit then some m else m.onDeviceInit id walk

def onDriverDisconnected (m : OverlayManager) (id : DdConnectionId) : OverlayManager :=
  { m.eraseStartupState id with queues := Function.update m.queues id none }

end OverlayManager

inductive Event where
  | driverConnected (id : DdConnectionId)
  | updateFeatureState (id : DdConnectionId) (feature : OverlayFeature) (state : OverlayState)
  | driverStateChanged (id : DdConnectionId) (state : DdDriverState) (walk : OverlayStartupState)
  | driverDisconnected (id : DdConnectionId)
  | updateDeviceClocks
deriving DecidableEq, Repr

def OverlayManager.handle (m : OverlayManager) : Event → Option OverlayManager
  | .driverConnected id => m.onDriverConnected id
  | .updateFeatureState id feature state => some (m.updateFeatureState id feature state)
  | .driverStateChanged id state walk => m.onDriverStateChanged id state walk
  | .driverDisconnected id => some (m.onDriverDisconnected id)
  | .updateDeviceClocks => some m.updateDeviceClocks

-- `events` only records what happened, the newest first.
structure State where
  manager : OverlayManager
  events : List Event

def State.next (s : State) (event : Event) : Option State :=
  (s.manager.handle event).map fun manager => ⟨manager, event :: s.events⟩

-- state_mutex_ is held through every event. Whether the overlay is enabled was
-- decided when the router connected.
def overlayManager (hasDriverUtils enabled : Bool) : Machine State Event :=
  ⟨⟨.create hasDriverUtils enabled, []⟩, State.next⟩

-- Strings of other features and of the device clocks go to other lines.
def Job.stringFor (feature : OverlayFeature) : Job → Option String
  | .setFeature other state => if other = feature then some (overlayString feature state) else none
  | .setDeviceClocks => none

def OverlayManager.lastString (m : OverlayManager) (id : DdConnectionId) (feature : OverlayFeature) :
    Option String :=
  ((m.queues id).getD []).findSome? (Job.stringFor feature)

-- What the events so far amount to, without any buffering.
def connectedAfter (id : DdConnectionId) : List Event → Bool
  | [] => false
  | .driverConnected other :: older => other = id || connectedAfter id older
  | .driverDisconnected other :: older => other ≠ id && connectedAfter id older
  | .updateFeatureState _ _ _ :: older => connectedAfter id older
  | .driverStateChanged _ _ _ :: older => connectedAfter id older
  | .updateDeviceClocks :: older => connectedAfter id older

def processedAfter (id : DdConnectionId) : List Event → Bool
  | [] => false
  | .driverConnected other :: older => other ≠ id && processedAfter id older
  | .driverDisconnected other :: older => other ≠ id && processedAfter id older
  | .updateFeatureState _ _ _ :: older => processedAfter id older
  | .driverStateChanged other state _ :: older =>
      (other = id && state = .deviceInit && connectedAfter id older) || processedAfter id older
  | .updateDeviceClocks :: older => processedAfter id older

def lastUpdateAfter (id : DdConnectionId) (feature : OverlayFeature) : List Event → Option OverlayState
  | [] => none
  | .driverConnected other :: older => if other = id then none else lastUpdateAfter id feature older
  | .driverDisconnected other :: older => if other = id then none else lastUpdateAfter id feature older
  | .updateFeatureState other changed state :: older =>
      if other = id ∧ changed = feature then some state else lastUpdateAfter id feature older
  | .driverStateChanged _ _ _ :: older => lastUpdateAfter id feature older
  | .updateDeviceClocks :: older => lastUpdateAfter id feature older

-- What the update enqueues when it goes to the queue of a new connection at once.
def immediateString (hasDriverUtils enabled : Bool) (id : DdConnectionId) (feature : OverlayFeature)
    (state : OverlayState) : Option String :=
  ((OverlayManager.create hasDriverUtils enabled).onDriverConnected id).bind fun m =>
    (m.updateFeatureStateInternal id feature state).lastString id feature

theorem immediate_string (hasDriverUtils enabled : Bool) (id : DdConnectionId) (feature : OverlayFeature)
    (state : OverlayState) : immediateString hasDriverUtils enabled id feature state =
      if enabled = true ∧ hasDriverUtils = true then some (overlayString feature state) else none := by
  cases enabled <;> cases hasDriverUtils <;>
    simp [immediateString, OverlayManager.create, OverlayManager.onDriverConnected,
      OverlayManager.updateFeatureStateInternal, OverlayManager.enqueue, OverlayManager.lastString, Job.stringFor]

theorem processed_connected (id : DdConnectionId) (events : List Event)
    (processed : processedAfter id events = true) : connectedAfter id events = true := by
  induction events with
  | nil => cases processed
  | cons event older ih =>
      cases event with
      | driverConnected other => simp_all [processedAfter, connectedAfter]
      | driverDisconnected other => simp_all [processedAfter, connectedAfter]
      | driverStateChanged other state walk =>
          rw [processedAfter, Bool.or_eq_true] at processed
          rw [connectedAfter]
          obtain now | before := processed
          · simp_all
          · exact ih before
      | updateFeatureState other feature state => exact ih processed
      | updateDeviceClocks => exact ih processed

section

variable (m : OverlayManager) (id : DdConnectionId) (job : Job)

@[simp] theorem enqueue_enabled : (m.enqueue id job).enabled = m.enabled := by
  unfold OverlayManager.enqueue
  split
  · rfl
  · split <;> rfl

@[simp] theorem enqueue_utils : (m.enqueue id job).hasDriverUtils = m.hasDriverUtils := by
  unfold OverlayManager.enqueue
  split
  · rfl
  · split <;> rfl

@[simp] theorem enqueue_startup : (m.enqueue id job).startupStates = m.startupStates := by
  unfold OverlayManager.enqueue
  split
  · rfl
  · split <;> rfl

theorem enqueue_elsewhere (other : DdConnectionId) (apart : other ≠ id) :
    (m.enqueue id job).queues other = m.queues other := by
  unfold OverlayManager.enqueue
  split
  · rfl
  · split
    · rfl
    · exact Function.update_of_ne apart _ _

theorem enqueue_here (jobs : List Job) (queue : m.queues id = some jobs) :
    (m.enqueue id job).queues id = some (if m.hasDriverUtils then job :: jobs else jobs) := by
  rw [OverlayManager.enqueue, queue]
  cases utils : m.hasDriverUtils <;> simp [queue]

theorem enqueue_nowhere (none : m.queues id = none) : m.enqueue id job = m := by
  rw [OverlayManager.enqueue, none]

end

theorem walk_keeps (id : DdConnectionId) (walk : OverlayStartupState) (m : OverlayManager) :
    (m.updateFeatureStates id walk).startupStates = m.startupStates ∧
      (m.updateFeatureStates id walk).enabled = m.enabled ∧
      (m.updateFeatureStates id walk).hasDriverUtils = m.hasDriverUtils ∧
      ∀ other, other ≠ id → (m.updateFeatureStates id walk).queues other = m.queues other := by
  induction walk generalizing m with
  | nil => exact ⟨rfl, rfl, rfl, fun _ _ => rfl⟩
  | cons entry rest ih =>
      obtain ⟨startup, enabled, utils, elsewhere⟩ := ih (m.enqueue id (.setFeature entry.1 entry.2))
      exact ⟨startup.trans (enqueue_startup _ _ _), enabled.trans (enqueue_enabled _ _ _),
        utils.trans (enqueue_utils _ _ _), fun other apart =>
          (elsewhere other apart).trans (enqueue_elsewhere m id _ other apart)⟩

theorem walk_here (id : DdConnectionId) (walk : OverlayStartupState) (m : OverlayManager) (jobs : List Job)
    (queue : m.queues id = some jobs) :
    (m.updateFeatureStates id walk).queues id = some (if m.hasDriverUtils then
      (walk.reverse.map fun entry => Job.setFeature entry.1 entry.2) ++ jobs else jobs) := by
  induction walk generalizing m jobs with
  | nil => simp [OverlayManager.updateFeatureStates, queue]
  | cons entry rest ih =>
      have here := enqueue_here m id (.setFeature entry.1 entry.2) jobs queue
      refine (ih (m.enqueue id (.setFeature entry.1 entry.2)) _ here).trans ?_
      rw [enqueue_utils]
      cases m.hasDriverUtils <;> simp

-- The part of the manager that belongs to one connection.
structure OverlayManager.Off (m : OverlayManager) (id : DdConnectionId) : Prop where
  startup : m.startupStates id = none
  queue : m.queues id = none

-- Before DEVICEINIT every feature has its last update, or the state it starts in.
structure OverlayManager.Starting (m : OverlayManager) (id : DdConnectionId)
    (last : OverlayFeature → OverlayState) : Prop where
  queue : m.queues id = some []
  startup : ∃ startup, m.startupStates id = some startup ∧ (Keyed.keys Prod.fst startup).Nodup ∧
    ∀ feature, KeyedValues.get startup feature = some (last feature)

structure OverlayManager.Started (m : OverlayManager) (id : DdConnectionId)
    (last : OverlayFeature → OverlayState) : Prop where
  startup : m.startupStates id = none
  queue : ∃ jobs, m.queues id = some jobs ∧ ∀ feature, jobs.findSome? (Job.stringFor feature) =
    if m.hasDriverUtils then some (overlayString feature (last feature)) else none

def lastOrInactive (id : DdConnectionId) (events : List Event) (feature : OverlayFeature) : OverlayState :=
  (lastUpdateAfter id feature events).getD .inactive

structure OverlayManager.Tracks (m : OverlayManager) (id : DdConnectionId) (events : List Event) : Prop where
  off : m.enabled = false ∨ connectedAfter id events = false → m.Off id
  starting : m.enabled = true → connectedAfter id events = true → processedAfter id events = false →
    m.Starting id (lastOrInactive id events)
  started : m.enabled = true → processedAfter id events = true → m.Started id (lastOrInactive id events)

theorem strings_of_walk (feature : OverlayFeature) (walk : OverlayStartupState) :
    (walk.map fun entry => Job.setFeature entry.1 entry.2).findSome? (Job.stringFor feature) =
      (KeyedValues.get walk feature).map (overlayString feature) := by
  induction walk with
  | nil => rfl
  | cons entry rest ih =>
      rw [List.map_cons, List.findSome?_cons, KeyedValues.get_cons, ih]
      by_cases same : entry.1 = feature <;> simp [Job.stringFor, same]

def Event.connection : Event → Option DdConnectionId
  | .driverConnected id => some id
  | .updateFeatureState id _ _ => some id
  | .driverStateChanged id _ _ => some id
  | .driverDisconnected id => some id
  | .updateDeviceClocks => none

theorem connect_cases (m t : OverlayManager) (id : DdConnectionId) (next : m.onDriverConnected id = some t) :
    (m.enabled = false ∧ t = m) ∨
    (m.enabled = true ∧ m.queues id = none ∧
      t = { m with
        queues := Function.update m.queues id (some [])
        startupStates := Function.update m.startupStates id
          (some (OverlayFeature.all.map fun feature => (feature, .inactive))) }) := by
  unfold OverlayManager.onDriverConnected at next
  cases on : m.enabled with
  | false => exact .inl ⟨rfl, by simpa [on, eq_comm] using next⟩
  | true =>
      cases queue : m.queues id with
      | some jobs => simp [on, queue] at next
      | none => exact .inr ⟨rfl, rfl, by simpa [on, queue, eq_comm] using next⟩

theorem update_cases (m : OverlayManager) (id : DdConnectionId) (feature : OverlayFeature) (state : OverlayState) :
    (m.enabled = false ∧ m.updateFeatureState id feature state = m) ∨
    (m.enabled = true ∧ m.startupStates id = none ∧
      m.updateFeatureState id feature state = m.enqueue id (.setFeature feature state)) ∨
    (m.enabled = true ∧ ∃ startup, m.startupStates id = some startup ∧
      m.updateFeatureState id feature state =
        { m with startupStates :=
            Function.update m.startupStates id (some (KeyedValues.assign startup feature state)) }) := by
  unfold OverlayManager.updateFeatureState
  cases m.enabled with
  | false => exact .inl ⟨rfl, rfl⟩
  | true =>
      cases startup : m.startupStates id with
      | none => exact .inr (.inl ⟨rfl, rfl, rfl⟩)
      | some startup => exact .inr (.inr ⟨rfl, _, rfl, rfl⟩)

theorem state_changed_cases (m t : OverlayManager) (id : DdConnectionId) (state : DdDriverState)
    (walk : OverlayStartupState) (next : m.onDriverStateChanged id state walk = some t) :
    (t = m ∧ (state ≠ .deviceInit ∨ m.enabled = false ∨ m.startupStates id = none)) ∨
    (state = .deviceInit ∧ m.enabled = true ∧ (∃ startup, m.startupStates id = some startup ∧ walk.Perm startup) ∧
      t = ((m.eraseStartupState id).updateFeatureStates id walk).updateClientDeviceClocks id) := by
  unfold OverlayManager.onDriverStateChanged OverlayManager.onDeviceInit at next
  split at next
  · rename_i other
    exact .inl ⟨(Option.some.inj next).symm, .inl other⟩
  · rename_i init
    split at next
    · rename_i off
      exact .inl ⟨(Option.some.inj next).symm, .inr (.inl (by simpa using off))⟩
    · rename_i on
      split at next
      · rename_i none
        exact .inl ⟨(Option.some.inj next).symm, .inr (.inr none)⟩
      · rename_i startup here
        rw [Option.ite_none_right_eq_some, List.isPerm_iff, Option.some.injEq] at next
        exact .inr ⟨not_not.mp init, by simpa using on, ⟨startup, here, next.1⟩, next.2.symm⟩

theorem client_clocks_effect (m : OverlayManager) (id : DdConnectionId) (started : m.startupStates id = none) :
    m.updateClientDeviceClocks id = m.enqueue id .setDeviceClocks := by
  rw [OverlayManager.updateClientDeviceClocks, started]
  rfl

theorem erased_startup (m : OverlayManager) (id : DdConnectionId) : (m.eraseStartupState id).startupStates id = none :=
  Function.update_self _ _ _

theorem start_keeps (m : OverlayManager) (id : DdConnectionId) (walk : OverlayStartupState) :
    let t := ((m.eraseStartupState id).updateFeatureStates id walk).updateClientDeviceClocks id
    t.startupStates = (m.eraseStartupState id).startupStates ∧ t.enabled = m.enabled ∧
      t.hasDriverUtils = m.hasDriverUtils ∧ ∀ other, other ≠ id → t.queues other = m.queues other := by
  intro t
  obtain ⟨startup, enabled, utils, elsewhere⟩ := walk_keeps id walk (m.eraseStartupState id)
  have effect : t = ((m.eraseStartupState id).updateFeatureStates id walk).enqueue id .setDeviceClocks :=
    client_clocks_effect _ id (by rw [startup, erased_startup])
  rw [effect, enqueue_startup, enqueue_enabled, enqueue_utils]
  exact ⟨startup, enabled, utils, fun other apart =>
    (enqueue_elsewhere _ id _ other apart).trans (elsewhere other apart)⟩

theorem start_here (m : OverlayManager) (id : DdConnectionId) (walk : OverlayStartupState) (empty : m.queues id = some []) :
    (((m.eraseStartupState id).updateFeatureStates id walk).updateClientDeviceClocks id).queues id =
      some (if m.hasDriverUtils then
        .setDeviceClocks :: walk.reverse.map (fun entry => Job.setFeature entry.1 entry.2) else []) := by
  obtain ⟨startup, _, utils, _⟩ := walk_keeps id walk (m.eraseStartupState id)
  have queue := walk_here id walk (m.eraseStartupState id) [] empty
  rw [client_clocks_effect _ id (by rw [startup, erased_startup]), enqueue_here _ id _ _ queue, utils]
  have same : (m.eraseStartupState id).hasDriverUtils = m.hasDriverUtils := rfl
  rw [same]
  cases m.hasDriverUtils <;> simp

theorem clocks_keep (m : OverlayManager) :
    m.updateDeviceClocks.enabled = m.enabled ∧ m.updateDeviceClocks.hasDriverUtils = m.hasDriverUtils ∧
      m.updateDeviceClocks.startupStates = m.startupStates := by
  unfold OverlayManager.updateDeviceClocks
  split <;> exact ⟨rfl, rfl, rfl⟩

-- Events leave the other connections alone, except for the device clocks.
theorem handle_elsewhere (m t : OverlayManager) (event : Event) (id : DdConnectionId)
    (next : m.handle event = some t) :
    t.enabled = m.enabled ∧ t.hasDriverUtils = m.hasDriverUtils ∧
      (event.connection ≠ some id → t.startupStates id = m.startupStates id ∧
        (event.connection ≠ none → t.queues id = m.queues id)) := by
  cases event with
  | driverConnected other =>
      obtain ⟨_, rfl⟩ | ⟨_, _, rfl⟩ := connect_cases m t other next
      · exact ⟨rfl, rfl, fun _ => ⟨rfl, fun _ => rfl⟩⟩
      · refine ⟨rfl, rfl, fun apart => ?_⟩
        have different : id ≠ other := fun same => apart (same ▸ rfl)
        simp [different]
  | updateFeatureState other feature state =>
      cases next
      obtain ⟨_, same⟩ | ⟨_, _, same⟩ | ⟨_, startup, _, same⟩ := update_cases m other feature state
      · rw [same]
        exact ⟨rfl, rfl, fun _ => ⟨rfl, fun _ => rfl⟩⟩
      · rw [same]
        refine ⟨enqueue_enabled _ _ _, enqueue_utils _ _ _, fun apart => ⟨by rw [enqueue_startup], fun _ => ?_⟩⟩
        exact enqueue_elsewhere m other _ id fun same => apart (same ▸ rfl)
      · rw [same]
        refine ⟨rfl, rfl, fun apart => ?_⟩
        have different : id ≠ other := fun same => apart (same ▸ rfl)
        simp [different]
  | driverStateChanged other state walk =>
      obtain ⟨rfl, _⟩ | ⟨_, _, ⟨startup, here, _⟩, rfl⟩ := state_changed_cases m t other state walk next
      · exact ⟨rfl, rfl, fun _ => ⟨rfl, fun _ => rfl⟩⟩
      · obtain ⟨startup, enabled, utils, elsewhere⟩ := start_keeps m other walk
        refine ⟨enabled, utils, fun apart => ?_⟩
        have different : id ≠ other := fun same => apart (same ▸ rfl)
        exact ⟨by rw [startup]; exact Function.update_of_ne different _ _, fun _ => elsewhere id different⟩
  | driverDisconnected other =>
      cases next
      refine ⟨rfl, rfl, fun apart => ?_⟩
      have different : id ≠ other := fun same => apart (same ▸ rfl)
      simp [OverlayManager.onDriverDisconnected, OverlayManager.eraseStartupState, different]
  | updateDeviceClocks =>
      cases next
      obtain ⟨enabled, utils, startup⟩ := clocks_keep m
      exact ⟨enabled, utils, fun _ => ⟨by rw [startup], fun none => absurd rfl none⟩⟩

theorem history_elsewhere (id : DdConnectionId) (event : Event) (events : List Event)
    (apart : event.connection ≠ some id) :
    connectedAfter id (event :: events) = connectedAfter id events ∧
      processedAfter id (event :: events) = processedAfter id events ∧
      lastOrInactive id (event :: events) = lastOrInactive id events := by
  cases event with
  | driverConnected other =>
      have different : other ≠ id := fun same => apart (same ▸ rfl)
      simp [connectedAfter, processedAfter, lastOrInactive, lastUpdateAfter, different, funext_iff]
  | updateFeatureState other feature state =>
      have different : other ≠ id := fun same => apart (same ▸ rfl)
      simp [connectedAfter, processedAfter, lastOrInactive, lastUpdateAfter, different, funext_iff]
  | driverStateChanged other state walk =>
      have different : other ≠ id := fun same => apart (same ▸ rfl)
      simp [connectedAfter, processedAfter, lastOrInactive, lastUpdateAfter, different, funext_iff]
  | driverDisconnected other =>
      have different : other ≠ id := fun same => apart (same ▸ rfl)
      simp [connectedAfter, processedAfter, lastOrInactive, lastUpdateAfter, different, funext_iff]
  | updateDeviceClocks => simp [connectedAfter, processedAfter, lastOrInactive, lastUpdateAfter, funext_iff]

theorem tracks_elsewhere (m t : OverlayManager) (event : Event) (id : DdConnectionId) (events : List Event)
    (tracks : m.Tracks id events) (next : m.handle event = some t) (apart : event.connection ≠ some id)
    (named : event.connection ≠ none) : t.Tracks id (event :: events) := by
  obtain ⟨enabled, utils, elsewhere⟩ := handle_elsewhere m t event id next
  obtain ⟨connected, processed, last⟩ := history_elsewhere id event events apart
  obtain ⟨startup, queue⟩ := elsewhere apart
  refine ⟨fun off => ?_, fun on isConnected notProcessed => ?_, fun on isProcessed => ?_⟩
  · obtain ⟨noStartup, noQueue⟩ := tracks.off (by simpa only [enabled, connected] using off)
    exact ⟨startup.trans noStartup, (queue named).trans noQueue⟩
  · obtain ⟨empty, state⟩ := tracks.starting (enabled ▸ on) (connected ▸ isConnected) (processed ▸ notProcessed)
    exact ⟨(queue named).trans empty, by simpa only [startup, last] using state⟩
  · obtain ⟨noStartup, jobs⟩ := tracks.started (enabled ▸ on) (processed ▸ isProcessed)
    exact ⟨startup.trans noStartup, by simpa only [queue named, last, utils] using jobs⟩

theorem tracks_disconnected (m : OverlayManager) (id : DdConnectionId) (events : List Event) : (m.onDriverDisconnected id).Tracks id (.driverDisconnected id :: events) := by
  refine ⟨fun _ => ⟨Function.update_self _ _ _, Function.update_self _ _ _⟩, ?_, ?_⟩
  · simp [connectedAfter]
  · simp [processedAfter]

theorem last_updated (id : DdConnectionId) (events : List Event) (feature : OverlayFeature) (state : OverlayState) (other : OverlayFeature) :
    lastOrInactive id (.updateFeatureState id feature state :: events) other =
      if feature = other then state else lastOrInactive id events other := by
  rw [lastOrInactive, lastUpdateAfter]
  by_cases same : feature = other <;> simp [same, lastOrInactive]

section

variable (m t : OverlayManager) (id : DdConnectionId) (events : List Event) (tracks : m.Tracks id events)

include tracks

theorem tracks_connected (next : m.onDriverConnected id = some t) : t.Tracks id (.driverConnected id :: events) := by
  obtain ⟨disabled, rfl⟩ | ⟨on, _, rfl⟩ := connect_cases m t id next
  · exact ⟨fun _ => tracks.off (.inl disabled), by simp [disabled], by simp [disabled]⟩
  · refine ⟨by simp [connectedAfter, on], fun _ _ _ => ⟨Function.update_self _ _ _, ?_⟩, by simp [processedAfter]⟩
    refine ⟨_, Function.update_self _ _ _, by decide, fun feature => ?_⟩
    have start : lastOrInactive id (.driverConnected id :: events) feature = .inactive := by
      simp [lastOrInactive, lastUpdateAfter]
    rw [start]
    cases feature <;> rfl

-- Where a connection stands can be read off its startup state.
theorem tracks_started (on : m.enabled = true) (none : m.startupStates id = none) :
    m.Off id ∧ connectedAfter id events = false ∨ processedAfter id events = true := by
  cases connected : connectedAfter id events with
  | false => exact .inl ⟨tracks.off (.inr connected), rfl⟩
  | true =>
      cases processed : processedAfter id events with
      | true => exact .inr rfl
      | false =>
          obtain ⟨startup, here, _⟩ := (tracks.starting on connected processed).startup
          rw [none] at here
          cases here

theorem tracks_starting (on : m.enabled = true) (startup : OverlayStartupState)
    (here : m.startupStates id = some startup) :
    connectedAfter id events = true ∧ processedAfter id events = false := by
  cases processed : processedAfter id events with
  | true =>
      rw [(tracks.started on processed).startup] at here
      cases here
  | false =>
      cases connected : connectedAfter id events with
      | true => exact ⟨rfl, rfl⟩
      | false =>
          rw [(tracks.off (.inr connected)).startup] at here
          cases here

theorem tracks_updated (feature : OverlayFeature) (state : OverlayState) :
    (m.updateFeatureState id feature state).Tracks id (.updateFeatureState id feature state :: events) := by
  obtain ⟨disabled, same⟩ | ⟨on, none, same⟩ | ⟨on, startup, here, same⟩ := update_cases m id feature state
  · rw [same]
    exact ⟨fun _ => tracks.off (.inl disabled), by simp [disabled], by simp [disabled]⟩
  · rw [same]
    obtain ⟨off, notConnected⟩ | processed := tracks_started m id events tracks on none
    · rw [enqueue_nowhere m id _ off.queue]
      refine ⟨fun _ => off, fun _ connected => ?_, fun _ processed => ?_⟩
      · exact absurd connected (by simp [connectedAfter, notConnected])
      · exact absurd (processed_connected id events processed) (by simp [notConnected])
    · obtain ⟨_, jobs, queue, strings⟩ := tracks.started on processed
      have connected := processed_connected id events processed
      refine ⟨by simp [connectedAfter, connected, on], by simp [processedAfter, processed], fun _ _ => ?_⟩
      refine ⟨by rw [enqueue_startup, none], _, enqueue_here m id _ jobs queue, fun other => ?_⟩
      rw [enqueue_utils, last_updated]
      cases utils : m.hasDriverUtils with
      | false => simpa [utils] using strings other
      | true => by_cases same : feature = other <;> simp [Job.stringFor, same, strings, utils]
  · rw [same]
    obtain ⟨connected, notProcessed⟩ := tracks_starting m id events tracks on startup here
    obtain ⟨empty, before, there, distinct, complete⟩ := tracks.starting on connected notProcessed
    rw [here, Option.some.injEq] at there
    subst there
    refine ⟨by simp [connectedAfter, connected, on], fun _ _ _ => ⟨empty, ?_⟩, by simp [processedAfter, notProcessed]⟩
    refine ⟨_, Function.update_self _ _ _, KeyedValues.assign_distinct _ _ _ distinct, fun other => ?_⟩
    rw [KeyedValues.get_assign, last_updated, complete other]
    split <;> rfl

theorem tracks_state_changed (state : DdDriverState) (walk : OverlayStartupState)
    (next : m.onDriverStateChanged id state walk = some t) :
    t.Tracks id (.driverStateChanged id state walk :: events) := by
  have sameLast : lastOrInactive id (.driverStateChanged id state walk :: events) = lastOrInactive id events := rfl
  obtain ⟨rfl, idle⟩ | ⟨init, on, ⟨startup, here, perm⟩, rfl⟩ := state_changed_cases m t id state walk next
  · cases on : t.enabled with
    | false => exact ⟨fun _ => tracks.off (.inl on), by simp [on], by simp [on]⟩
    | true =>
        have sameProcessed : processedAfter id (.driverStateChanged id state walk :: events) =
            processedAfter id events := by
          obtain other | disabled | none := idle
          · simp [processedAfter, other]
          · rw [on] at disabled
            cases disabled
          · obtain ⟨_, notConnected⟩ | processed := tracks_started t id events tracks on none
            · simp [processedAfter, notConnected]
            · simp [processedAfter, processed]
        refine ⟨tracks.off, fun on connected notProcessed => ?_, fun on processed => ?_⟩
        · exact tracks.starting on connected (sameProcessed ▸ notProcessed)
        · exact tracks.started on (sameProcessed ▸ processed)
  · obtain ⟨connected, notProcessed⟩ := tracks_starting m id events tracks on startup here
    obtain ⟨empty, before, there, distinct, complete⟩ := tracks.starting on connected notProcessed
    rw [here, Option.some.injEq] at there
    subst there
    obtain ⟨noStartup, enabled, utils, _⟩ := start_keeps m id walk
    have value : ∀ feature, KeyedValues.get walk.reverse feature = some (lastOrInactive id events feature) := by
      intro feature
      rw [KeyedValues.get_perm startup walk.reverse distinct ((List.reverse_perm walk).trans perm), complete]
    refine ⟨fun off => ?_, fun _ _ notProcessed => ?_, fun _ _ => ⟨by rw [noStartup, erased_startup], ?_⟩⟩
    · simp [enabled, on, connectedAfter, connected] at off
    · simp [processedAfter, init, connected] at notProcessed
    · refine ⟨_, start_here m id walk empty, fun feature => ?_⟩
      rw [utils, sameLast]
      cases m.hasDriverUtils with
      | false => rfl
      | true =>
          rw [if_pos rfl, if_pos rfl, List.findSome?_cons, Job.stringFor, strings_of_walk, value]
          rfl

theorem tracks_clocks : m.updateDeviceClocks.Tracks id (.updateDeviceClocks :: events) := by
  obtain ⟨enabled, utils, startup⟩ := clocks_keep m
  cases on : m.enabled with
  | false =>
      rw [on] at enabled
      have same : m.updateDeviceClocks = m := by simp [OverlayManager.updateDeviceClocks, on]
      rw [same]
      exact ⟨fun _ => tracks.off (.inl on), by simp [on], by simp [on]⟩
  | true =>
      have queue : m.updateDeviceClocks.queues id = (m.updateClientDeviceClocks id).queues id := by
        simp [OverlayManager.updateDeviceClocks, on]
      refine ⟨fun off => ?_, fun _ connected notProcessed => ?_, fun _ processed => ?_⟩
      · have off := tracks.off (by simpa only [enabled, connectedAfter] using off)
        refine ⟨by rw [startup, off.startup], ?_⟩
        rw [queue, client_clocks_effect m id off.startup, enqueue_nowhere m id _ off.queue, off.queue]
      · obtain ⟨empty, state⟩ := tracks.starting on connected notProcessed
        have starts : ∃ collected, m.startupStates id = some collected := state.imp fun _ holds => holds.1
        obtain ⟨collected, here⟩ := starts
        refine ⟨?_, by rw [startup]; exact state⟩
        rw [queue, OverlayManager.updateClientDeviceClocks, here]
        exact empty
      · obtain ⟨none, jobs, here, strings⟩ := tracks.started on processed
        have enqueued := enqueue_here m id .setDeviceClocks jobs here
        rw [← client_clocks_effect m id none, ← queue] at enqueued
        refine ⟨by rw [startup, none], _, enqueued, fun feature => ?_⟩
        · rw [utils]
          cases has : m.hasDriverUtils with
          | false => simpa [has] using strings feature
          | true =>
              have before := strings feature
              rw [has, if_pos rfl] at before
              rw [if_pos rfl, if_pos rfl, List.findSome?_cons]
              exact before

theorem tracks_step (event : Event) (next : m.handle event = some t) : t.Tracks id (event :: events) := by
  by_cases here : event.connection = some id
  · cases event with
    | driverConnected other =>
        cases here
        exact tracks_connected m t id events tracks next
    | updateFeatureState other feature state =>
        cases here
        cases next
        exact tracks_updated m id events tracks feature state
    | driverStateChanged other state walk =>
        cases here
        exact tracks_state_changed m t id events tracks state walk next
    | driverDisconnected other =>
        cases here
        cases next
        exact tracks_disconnected m id events
    | updateDeviceClocks => cases here
  · by_cases named : event.connection = none
    · cases event with
      | updateDeviceClocks =>
          cases next
          exact tracks_clocks m id events tracks
      | driverConnected other => cases named
      | updateFeatureState other feature state => cases named
      | driverStateChanged other state walk => cases named
      | driverDisconnected other => cases named
    · exact tracks_elsewhere m t event id events tracks next here named

end

theorem tracks_reachable (hasDriverUtils enabled : Bool) (s : State)
    (reach : Reachable (overlayManager hasDriverUtils enabled) s) :
    s.manager.enabled = enabled ∧ s.manager.hasDriverUtils = hasDriverUtils ∧
      ∀ id, s.manager.Tracks id s.events := by
  refine reachable_invariant (overlayManager hasDriverUtils enabled)
    (fun s => s.manager.enabled = enabled ∧ s.manager.hasDriverUtils = hasDriverUtils ∧
      ∀ id, s.manager.Tracks id s.events) ?_ ?_ s reach
  · exact ⟨rfl, rfl, fun _ => ⟨fun _ => ⟨rfl, rfl⟩, by simp [overlayManager, connectedAfter],
      by simp [overlayManager, processedAfter]⟩⟩
  · rintro s event t ⟨sameEnabled, sameUtils, tracks⟩ next
    obtain ⟨m, handled, rfl⟩ := Option.map_eq_some_iff.mp next
    have keeps := fun id => handle_elsewhere s.manager m event id handled
    exact ⟨(keeps 0).1.trans sameEnabled, (keeps 0).2.1.trans sameUtils,
      fun id => tracks_step s.manager m id s.events (tracks id) event handled⟩

-- A feature that was not updated since the connect is inactive.
theorem overlay_agrees (hasDriverUtils enabled : Bool) (s : State)
    (reach : Reachable (overlayManager hasDriverUtils enabled) s) :
    (∀ id feature, processedAfter id s.events = true →
      s.manager.lastString id feature = immediateString hasDriverUtils enabled id feature
        ((lastUpdateAfter id feature s.events).getD .inactive)) ∧
    ∀ id, connectedAfter id s.events = false → s.manager.startupStates id = none := by
  obtain ⟨sameEnabled, sameUtils, tracks⟩ := tracks_reachable hasDriverUtils enabled s reach
  refine ⟨fun id feature processed => ?_, fun id gone => ((tracks id).off (.inr gone)).startup⟩
  rw [immediate_string, OverlayManager.lastString]
  cases enabled with
  | false => rw [((tracks id).off (.inl sameEnabled)).queue]; rfl
  | true =>
      obtain ⟨_, jobs, queue, strings⟩ := (tracks id).started sameEnabled processed
      rw [queue, Option.getD_some, strings feature, sameUtils]
      cases hasDriverUtils <;> rfl

-- An update before DEVICEINIT and one after it, with a second connection in between.
theorem updated_twice_agrees : ∃ s, Reachable (overlayManager true true) s ∧
    processedAfter 1 s.events = true ∧ s.manager.lastString 1 .rgp = some "RGP Profiling: Capturing" ∧
    s.manager.lastString 1 .rgp = immediateString true true 1 .rgp
      ((lastUpdateAfter 1 .rgp s.events).getD .inactive) := by
  obtain ⟨s, reach, found⟩ := exec_finds (overlayManager true true)
    [.driverConnected 1, .updateFeatureState 1 .rgp .idle, .driverConnected 2,
      .driverStateChanged 1 .deviceInit [(.rgd, .inactive), (.rgp, .idle), (.rmv, .inactive), (.rra, .inactive)],
      .updateFeatureState 1 .rgp .capturing]
    (fun s => processedAfter 1 s.events && s.manager.lastString 1 .rgp = some "RGP Profiling: Capturing") (by decide)
  obtain ⟨processed, last⟩ := Bool.and_eq_true_iff.mp found
  exact ⟨s, reach, processed, of_decide_eq_true last, (overlay_agrees true true s reach).1 1 .rgp processed⟩

end RadeonPanel.Overlay

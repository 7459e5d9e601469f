import RadeonPanel.Base.Runs
import RadeonPanel.Connections.Types
import RadeonPanel.DeviceClocks.Gpu

set_option autoImplicit false

namespace RadeonPanel.DeviceClocks

open Interleaving

structure DeviceClocksManager where
  updatableGpus : List Gpu
  forcePeakUmdConnectionIds : List DdConnectionId
deriving DecidableEq, Repr

-- GPUs of one name get their index among them.
def gpuNameIdx (infos : List GpuInfo) (index : Nat) (info : GpuInfo) : String :=
  if 1 < (infos.filter fun other => other.name = info.name).length then
    info.name ++ " [" ++ toString ((infos.take index).filter fun other => other.name = info.name).length ++ "]"
  else info.name

def createGpus (infos : List GpuInfo) : List Gpu :=
  infos.zipIdx.map fun entry => Gpu.create (gpuNameIdx infos entry.2 entry.1) entry.1

namespace DeviceClocksManager

def isForcingPeak (m : DeviceClocksManager) : Bool := !m.forcePeakUmdConnectionIds.isEmpty

-- `none` is a failed query of the system info.
def onRouterConnected (m : DeviceClocksManager) (info : Option (List GpuInfo)) : DeviceClocksManager :=
  match info with
  | none => m
  | some infos => { m with updatableGpus := createGpus infos }

def onRouterDisconnected (m : DeviceClocksManager) : DeviceClocksManager := { m with updatableGpus := [] }

-- `hash` gives a GPU the number that it has outside the manager.
def requestMode (hash : String → UInt32) (m : DeviceClocksManager) (gpuId : UInt32) (mode : ClockModeType)
    (answers : GpuId → DriverAnswer) (modes : Modes) : Outcome DeviceClocksManager :=
  if m.isForcingPeak then ⟨m, modes, [], false⟩
  else
    match m.updatableGpus.find? fun gpu => hash gpu.gpuName = gpuId with
    | none => ⟨m, modes, [], false⟩
    | some gpu =>
        let outcome := gpu.requestMode mode (answers gpu.gpuId) modes
        ⟨m, outcome.modes, outcome.requests, outcome.result⟩

def updateForcing (m : DeviceClocksManager) (id : DdConnectionId) (forcePeak : Bool) : DeviceClocksManager :=
  { m with
    forcePeakUmdConnectionIds :=
      if !forcePeak then m.forcePeakUmdConnectionIds.filter (· ≠ id)
      else m.forcePeakUmdConnectionIds.insert id }

def setForcePeak (m : DeviceClocksManager) (id : DdConnectionId) (forcePeak : Bool)
    (answers : GpuId → DriverAnswer) (modes : Modes) : Outcome DeviceClocksManager :=
  let changed := m.updateForcing id forcePeak
  if changed.isForcingPeak = m.isForcingPeak then ⟨changed, modes, [], true⟩
  else
    let outcome := setForcePeakAll changed.isForcingPeak answers changed.updatableGpus modes
    ⟨{ changed with updatableGpus := outcome.value }, outcome.modes, outcome.requests, outcome.result⟩

end DeviceClocksManager

-- What happened when the forcing set became empty: the GPUs connected then, the
-- GPUs forced since it was filled with their modes before, and what was requested.
structure Undo where
  connected : List GpuId
  forced : List (GpuId × ClockModeType)
  requested : List (GpuId × ClockModeType)
deriving DecidableEq, Repr

def Undo.Complete (undo : Undo) : Prop :=
  ∀ gpu mode, (gpu, mode) ∈ undo.forced → gpu ∈ undo.connected → (gpu, mode) ∈ undo.requested

-- `forced` and `undos` only record.
structure State where
  manager : DeviceClocksManager
  modes : Modes
  forced : List (GpuId × ClockModeType)
  undos : List Undo

def State.initial (modes : Modes) : State := ⟨⟨[], []⟩, modes, [], []⟩

-- A device may also change its mode on its own.
inductive Action where
  | setForcePeak (id : DdConnectionId) (forcePeak : Bool) (answers : GpuId → DriverAnswer)
  | requestMode (gpuId : UInt32) (mode : ClockModeType) (answers : GpuId → DriverAnswer)
  | routerConnected (info : Option (List GpuInfo))
  | routerDisconnected
  | deviceChanged (gpu : GpuId) (mode : ClockModeType)

def State.setForcePeak (s : State) (id : DdConnectionId) (forcePeak : Bool) (answers : GpuId → DriverAnswer) : State :=
  let outcome := s.manager.setForcePeak id forcePeak answers s.modes
  if !s.manager.isForcingPeak && outcome.value.isForcingPeak then
    { s with manager := outcome.value, modes := outcome.modes, forced := acceptedRequests outcome.requests }
  else if s.manager.isForcingPeak && !outcome.value.isForcingPeak then
    { manager := outcome.value
      modes := outcome.modes
      forced := []
      undos := ⟨gpuIds s.manager.updatableGpus, s.forced, requestedModes outcome.requests⟩ :: s.undos }
  else { s with manager := outcome.value, modes := outcome.modes }

-- Every call of the manager holds gpus_mutex_ from beginning to end. Two GPUs of
-- the system have different ids.
def State.next (hash : String → UInt32) (s : State) : Action → Option State
  | .setForcePeak id forcePeak answers => some (s.setForcePeak id forcePeak answers)
  | .requestMode gpuId mode answers =>
      let outcome := s.manager.requestMode hash gpuId mode answers s.modes
      some { s with manager := outcome.value, modes := outcome.modes }
  | .routerConnected info =>
      if ((info.getD []).map GpuInfo.gpuId).Nodup then some { s with manager := s.manager.onRouterConnected info }
      else none
  | .routerDisconnected => some { s with manager := s.manager.onRouterDisconnected }
  | .deviceChanged gpu mode => some { s with modes := Function.update s.modes gpu mode }

def clocks (hash : String → UInt32) (modes : Modes) : Machine State Action :=
  ⟨.initial modes, State.next hash⟩

-- The cached modes are the right ones, and an undo reaches all of them.
def keepsModes (s : State) : Action → Prop
  | .setForcePeak id forcePeak answers =>
      (s.manager.isForcingPeak = false → forcePeak = true →
        QueriesForced answers s.manager.updatableGpus s.modes) ∧
      (forcePeak = false → s.manager.forcePeakUmdConnectionIds.filter (· ≠ id) = [] →
        ReachesForced s.forced answers s.manager.updatableGpus s.modes)
  | .routerConnected info => ∀ gpu ∈ info.getD [], gpu.gpuId ∉ s.forced.map Prod.fst
  | .requestMode _ _ _ => True
  | .routerDisconnected => True
  | .deviceChanged _ _ => True

instance decidableKeeps (s : State) : (a : Action) → Decidable (keepsModes s a)
  | .setForcePeak _ _ _ => inferInstanceAs (Decidable ((_ → _ → _) ∧ (_ → _ → _)))
  | .routerConnected _ => inferInstanceAs (Decidable (∀ gpu ∈ _, _))
  | .requestMode _ _ _ => inferInstanceAs (Decidable True)
  | .routerDisconnected => inferInstanceAs (Decidable True)
  | .deviceChanged _ _ => inferInstanceAs (Decidable True)

theorem forcing_filled (m : DeviceClocksManager) (id : DdConnectionId) :
    (m.updateForcing id true).isForcingPeak = true := by
  have filled := List.ne_nil_of_mem (List.mem_insert_self : id ∈ m.forcePeakUmdConnectionIds.insert id)
  simpa [DeviceClocksManager.updateForcing, DeviceClocksManager.isForcingPeak] using filled

theorem forcing_emptied (m : DeviceClocksManager) (id : DdConnectionId) :
    (m.updateForcing id false).isForcingPeak = false ↔ m.forcePeakUmdConnectionIds.filter (· ≠ id) = [] := by
  simp [DeviceClocksManager.updateForcing, DeviceClocksManager.isForcingPeak]

theorem forcing_kept_empty (m : DeviceClocksManager) (id : DdConnectionId) (empty : m.isForcingPeak = false) :
    (m.updateForcing id false).isForcingPeak = false := by
  have none : m.forcePeakUmdConnectionIds = [] := by simpa [DeviceClocksManager.isForcingPeak] using empty
  rw [forcing_emptied, none]
  rfl

theorem manager_force_cases (m : DeviceClocksManager) (id : DdConnectionId) (forcePeak : Bool)
    (answers : GpuId → DriverAnswer) (modes : Modes) :
    ((m.setForcePeak id forcePeak answers modes).value.isForcingPeak = m.isForcingPeak ∧
      (m.setForcePeak id forcePeak answers modes).value.updatableGpus = m.updatableGpus) ∨
    ((m.setForcePeak id forcePeak answers modes).value.isForcingPeak = !m.isForcingPeak ∧
      m.isForcingPeak = !forcePeak ∧
      (forcePeak = false → m.forcePeakUmdConnectionIds.filter (· ≠ id) = []) ∧
      (m.setForcePeak id forcePeak answers modes).value.updatableGpus =
        (setForcePeakAll forcePeak answers m.updatableGpus modes).value ∧
      (m.setForcePeak id forcePeak answers modes).requests =
        (setForcePeakAll forcePeak answers m.updatableGpus modes).requests) := by
  unfold DeviceClocksManager.setForcePeak
  by_cases same : (m.updateForcing id forcePeak).isForcingPeak = m.isForcingPeak
  · left
    simp only [if_pos same]
    exact ⟨same, rfl⟩
  · right
    have now : (m.updateForcing id forcePeak).isForcingPeak = forcePeak := by
      cases forcePeak with
      | true => exact forcing_filled m id
      | false =>
          cases was : m.isForcingPeak with
          | false => exact forcing_kept_empty m id was
          | true => simpa [was] using same
    have was : m.isForcingPeak = !forcePeak := by
      rw [now] at same
      cases forcePeak <;> cases before : m.isForcingPeak <;> simp_all
    simp only [if_neg same]
    rw [now, was, Bool.not_not]
    refine ⟨now, rfl, fun emptied => ?_, rfl, rfl⟩
    rw [emptied] at now
    exact (forcing_emptied m id).mp now

structure State.Remembers (s : State) : Prop where
  distinct : (gpuIds s.manager.updatableGpus).Nodup
  cached : ∀ gpu ∈ s.manager.updatableGpus, ∀ mode, (gpu.gpuId, mode) ∈ s.forced → gpu.cachedMode = some mode
  complete : ∀ undo ∈ s.undos, undo.Complete

theorem remembers_forced (s : State) (id : DdConnectionId) (forcePeak : Bool) (answers : GpuId → DriverAnswer)
    (remembers : s.Remembers) (keeps : keepsModes s (.setForcePeak id forcePeak answers)) :
    (s.setForcePeak id forcePeak answers).Remembers := by
  have distinct := remembers.distinct
  obtain ⟨same, sameGpus⟩ | ⟨changes, was, emptied, gpus, requests⟩ :=
    manager_force_cases s.manager id forcePeak answers s.modes
  · have unchanged : s.setForcePeak id forcePeak answers =
        { s with
          manager := (s.manager.setForcePeak id forcePeak answers s.modes).value
          modes := (s.manager.setForcePeak id forcePeak answers s.modes).modes } := by
      simp only [State.setForcePeak, same]
      cases s.manager.isForcingPeak <;> rfl
    rw [unchanged]
    exact ⟨by simpa only [sameGpus] using distinct, by simpa only [sameGpus] using remembers.cached,
      remembers.complete⟩
  · cases forcePeak with
    | true =>
        have queries := keeps.1 was rfl
        have filled : s.setForcePeak id true answers =
            { s with
              manager := (s.manager.setForcePeak id true answers s.modes).value
              modes := (s.manager.setForcePeak id true answers s.modes).modes
              forced := acceptedRequests (s.manager.setForcePeak id true answers s.modes).requests } := by
          simp only [State.setForcePeak, changes, was]
          rfl
        rw [filled]
        refine ⟨?_, ?_, remembers.complete⟩
        · simpa only [gpus, set_all_ids] using distinct
        · simp only [gpus, requests]
          exact force_all_caches answers s.manager.updatableGpus s.modes distinct queries
    | false =>
        have reaches := keeps.2 rfl (emptied rfl)
        have undone : s.setForcePeak id false answers =
            { manager := (s.manager.setForcePeak id false answers s.modes).value
              modes := (s.manager.setForcePeak id false answers s.modes).modes
              forced := []
              undos := ⟨gpuIds s.manager.updatableGpus, s.forced,
                requestedModes (s.manager.setForcePeak id false answers s.modes).requests⟩ :: s.undos } := by
          simp only [State.setForcePeak, changes, was]
          rfl
        rw [undone]
        refine ⟨?_, ?_, ?_⟩
        · simpa only [gpus, set_all_ids] using distinct
        · intro gpu _ mode isForced
          cases isForced
        · intro undo member
          obtain rfl | before := List.mem_cons.mp member
          · intro id mode isForced connected
            obtain ⟨gpu, present, rfl⟩ := List.mem_map.mp connected
            have caches := remembers.cached gpu present mode isForced
            simp only [requests]
            exact undo_all_requests s.forced answers _ s.modes reaches gpu present mode isForced caches
          · exact remembers.complete undo before

theorem created_ids (infos : List GpuInfo) : gpuIds (createGpus infos) = infos.map GpuInfo.gpuId := by
  have same : Gpu.gpuId ∘ (fun entry : GpuInfo × Nat => Gpu.create (gpuNameIdx infos entry.2 entry.1) entry.1) =
      GpuInfo.gpuId ∘ Prod.fst := rfl
  rw [gpuIds, createGpus, List.map_map, same, ← List.map_map, List.zipIdx_map_fst]

theorem request_mode_manager (hash : String → UInt32) (m : DeviceClocksManager) (gpuId : UInt32)
    (mode : ClockModeType) (answers : GpuId → DriverAnswer) (modes : Modes) :
    (m.requestMode hash gpuId mode answers modes).value = m := by
  unfold DeviceClocksManager.requestMode
  split
  · rfl
  · split <;> rfl

theorem remembers_step (hash : String → UInt32) (s t : State) (a : Action) (remembers : s.Remembers)
    (keeps : keepsModes s a) (next : s.next hash a = some t) : t.Remembers := by
  cases a with
  | setForcePeak id forcePeak answers =>
      cases next
      exact remembers_forced s id forcePeak answers remembers keeps
  | requestMode gpuId mode answers =>
      cases next
      have same := request_mode_manager hash s.manager gpuId mode answers s.modes
      exact ⟨by simpa only [same] using remembers.distinct, by simpa only [same] using remembers.cached,
        remembers.complete⟩
  | routerConnected info =>
      rw [State.next, Option.ite_none_right_eq_some] at next
      obtain ⟨distinct, same⟩ := next
      cases same
      cases info with
      | none => exact remembers
      | some infos =>
          have ids := created_ids infos
          refine ⟨ids ▸ distinct, fun gpu member mode isForced => ?_, remembers.complete⟩
          -- None of the new GPUs is a forced one.
          have listed : gpu.gpuId ∈ infos.map GpuInfo.gpuId := ids ▸ List.mem_map_of_mem member
          obtain ⟨info, present, sameId⟩ := List.mem_map.mp listed
          have forcedId : gpu.gpuId ∈ s.forced.map Prod.fst := List.mem_map.mpr ⟨_, isForced, rfl⟩
          rw [← sameId] at forcedId
          exact absurd forcedId (keeps info present)
  | routerDisconnected =>
      cases next
      refine ⟨List.nodup_nil, fun gpu member => ?_, remembers.complete⟩
      cases member
  | deviceChanged gpu mode =>
      cases next
      exact ⟨remembers.distinct, remembers.cached, remembers.complete⟩

theorem request_mode_waits (hash : String → UInt32) (s t : State) (gpuId : UInt32) (mode : ClockModeType)
    (answers : GpuId → DriverAnswer) (forcing : s.manager.isForcingPeak = true)
    (next : s.next hash (.requestMode gpuId mode answers) = some t) :
    t = s ∧ (s.manager.requestMode hash gpuId mode answers s.modes).requests = [] := by
  cases next
  simp only [DeviceClocksManager.requestMode, if_pos forcing, and_self]

theorem forced_clocks_undone (hash : String → UInt32) (modes : Modes) (s : State)
    (reach : Reach (clocks hash modes) keepsModes s) :
    (s.manager.isForcingPeak = true → ∀ gpuId mode answers t,
      (clocks hash modes).step s (.requestMode gpuId mode answers) = some t →
        t = s ∧ (s.manager.requestMode hash gpuId mode answers s.modes).requests = []) ∧
    ∀ undo ∈ s.undos, undo.Complete := by
  have remembers : s.Remembers := by
    refine reach_invariant (clocks hash modes) keepsModes State.Remembers ?_ ?_ s reach
    · exact ⟨List.nodup_nil, by simp [clocks, State.initial], by simp [clocks, State.initial]⟩
    · exact fun s a t _ remembers keeps next => remembers_step hash s t a remembers keeps next
  exact ⟨fun forcing gpuId mode answers t => request_mode_waits hash s t gpuId mode answers forcing,
    remembers.complete⟩

def twoGpus : List GpuInfo := [⟨"first", 1, some ["Normal", "Peak"]⟩, ⟨"second", 2, some ["Normal", "Peak"]⟩]

-- The driver takes the request and leaves the device in the mode.
def takes (mode : ClockModeType) : DriverAnswer := ⟨true, true, mode, true⟩

def refuses (mode : ClockModeType) : DriverAnswer := ⟨true, false, mode, true⟩

def undoRequesting (requested : List (GpuId × ClockModeType)) : Undo :=
  ⟨[1, 2], [(1, .normal), (2, .normal)], requested⟩

-- The second GPU refuses its mode; nothing stands behind it.
theorem failing_last_gpu_undone : ∃ s, Reach (clocks (fun _ => 0) (fun _ => .normal)) keepsModes s ∧
    s.undos = [undoRequesting [(1, .normal), (2, .normal)]] ∧ ∀ undo ∈ s.undos, undo.Complete := by
  obtain ⟨s, reach, found⟩ := exec_if_finds (clocks (fun _ => 0) (fun _ => .normal)) (fun s a => keepsModes s a)
    [.routerConnected (some twoGpus), .setForcePeak 5 true fun _ => takes .peak,
      .setForcePeak 5 false fun gpu => if gpu = 2 then refuses .peak else takes .normal]
    (fun s => s.undos = [undoRequesting [(1, .normal), (2, .normal)]]) (by decide)
  have kept := reach_mono _ _ keepsModes (fun s a keeps => of_decide_eq_true keeps) s reach
  exact ⟨s, kept, of_decide_eq_true found, (forced_clocks_undone _ _ s kept).2⟩

-- The first GPU refuses its mode, and the second one stays at peak.
theorem failing_gpu_stops_undo : ¬ ∀ hash modes s, Reachable (clocks hash modes) s →
    ∀ undo ∈ s.undos, undo.Complete := by
  intro claimed
  obtain ⟨s, reach, found⟩ := exec_finds (clocks (fun _ => 0) (fun _ => .normal))
    [.routerConnected (some twoGpus), .setForcePeak 5 true fun _ => takes .peak,
      .setForcePeak 5 false fun gpu => if gpu = 1 then refuses .peak else takes .normal]
    (fun s => s.undos = [undoRequesting [(1, .normal)]]) (by decide)
  have undone : s.undos = [undoRequesting [(1, .normal)]] := of_decide_eq_true found
  have complete := claimed _ _ s reach (undoRequesting [(1, .normal)]) (by simp [undone])
  have requested := complete 2 .normal (by simp [undoRequesting]) (by simp [undoRequesting])
  simp [undoRequesting] at requested

end RadeonPanel.DeviceClocks

import RadeonPanel.Base.Keyed
import RadeonPanel.Base.Runs
import RadeonPanel.DeviceClocks.ClockModes

set_option autoImplicit false

namespace RadeonPanel.DeviceClocks

def DeviceClocksManager.queryClockMode (hash : String → UInt32) (m : DeviceClocksManager) (gpuId : UInt32)
    (modes : Modes) (succeeds : Bool) : ClockModeType :=
  match m.updatableGpus.find? fun gpu => hash gpu.gpuName = gpuId with
  | none => .unknown
  | some gpu => DeviceClocks.queryClockMode modes gpu.gpuId succeeds

end RadeonPanel.DeviceClocks

namespace RadeonPanel.CaptureApi.Clocks

open Interleaving DeviceClocks

-- The clock modes of the API have the fields and the numbers of the manager's.
structure ClockGpuDetails where
  gpuId : UInt32
  apiModes : List ClockMode
deriving DecidableEq, Repr

def ClockGpuDetails.convert (hash : String → UInt32) (gpu : DeviceClockGpu) : ClockGpuDetails :=
  ⟨gpu.getId hash, gpu.clockModes⟩

structure ApiClocks where
  gpus : List ClockGpuDetails
deriving DecidableEq, Repr

-- `outside` is an access outside the list of GPUs. `rejected` is a null pointer with
-- no modes, or invalid parameters.
inductive Reply where
  | outside
  | rejected
  | clockModes (modes : List ClockMode)
  | current (mode : ClockModeType)
  | set (requests : List Request) (succeeded : Bool)
deriving DecidableEq, Repr

namespace ApiClocks

def convertGpus (hash : String → UInt32) (c : ApiClocks) (gpus : List DeviceClockGpu) : ApiClocks :=
  ⟨c.gpus ++ gpus.map (ClockGpuDetails.convert hash)⟩

-- The check of the index sets the results and goes on to the access.
def getGpuClockModes (c : ApiClocks) (index : UInt64) : Reply :=
  match c.gpus[index.toNat]? with
  | none => .outside
  | some details => .clockModes details.apiModes

def queryGpuCurrentClockMode (hash : String → UInt32) (c : ApiClocks) (manager : DeviceClocksManager)
    (modes : Modes) (index : UInt64) (succeeds : Bool) : Reply :=
  if index.toNat ≥ c.gpus.length then .rejected
  else
    match c.gpus[index.toNat]? with
    | none => .outside
    | some details => .current (manager.queryClockMode hash details.gpuId modes succeeds)

def setCurrentGpuClockMode (hash : String → UInt32) (c : ApiClocks) (manager : DeviceClocksManager)
    (modes : Modes) (index : UInt64) (mode : ClockModeType) (answers : GpuId → DriverAnswer) : Reply × Modes :=
  if index.toNat ≥ c.gpus.length then (.rejected, modes)
  else
    match c.gpus[index.toNat]? with
    | none => (.outside, modes)
    | some details =>
        let outcome := manager.requestMode hash details.gpuId mode answers modes
        (.set outcome.requests outcome.result, outcome.modes)

end ApiClocks

inductive Call where
  | getGpuClockModes (index : UInt64)
  | queryGpuCurrentClockMode (index : UInt64) (succeeds : Bool)
  | setCurrentGpuClockMode (index : UInt64) (mode : ClockModeType) (answers : GpuId → DriverAnswer)

-- `latest` are the GPUs of the latest event. `replies` only records what the calls
-- returned, next to what the GPUs of the latest event would have them return.
structure State where
  manager : DeviceClocksManager
  modes : Modes
  latest : List DeviceClockGpu
  api : ApiClocks
  replies : List (Reply × Reply)

def State.initial (modes : Modes) : State := ⟨⟨[], []⟩, modes, [], ⟨[]⟩, []⟩

def State.reply (hash : String → UInt32) (s : State) : Call → Reply × Modes
  | .getGpuClockModes index => (s.api.getGpuClockModes index, s.modes)
  | .queryGpuCurrentClockMode index succeeds =>
      (s.api.queryGpuCurrentClockMode hash s.manager s.modes index succeeds, s.modes)
  | .setCurrentGpuClockMode index mode answers =>
      s.api.setCurrentGpuClockMode hash s.manager s.modes index mode answers

-- An index below the number of GPUs is that GPU, any other index is rejected.
def State.addressed (s : State) : Call → Reply
  | .getGpuClockModes index =>
      match s.latest[index.toNat]? with
      | none => .rejected
      | some gpu => .clockModes gpu.clockModes
  | .queryGpuCurrentClockMode index succeeds =>
      match s.latest[index.toNat]? with
      | none => .rejected
      | some gpu => .current (queryClockMode s.modes gpu.gpuId succeeds)
  | .setCurrentGpuClockMode index mode answers =>
      match s.latest[index.toNat]? with
      | none => .rejected
      | some gpu =>
          if s.manager.isForcingPeak then .set [] false
          else
            let outcome := gpu.toGpu.requestMode mode (answers gpu.gpuId) s.modes
            .set outcome.requests outcome.result

-- A failed query of the system info is no event.
inductive Action where
  | routerConnected (systems : Option (List SystemGpu))
  | routerDisconnected
  | setForcePeak (id : DdConnectionId) (forcePeak : Bool) (answers : GpuId → DriverAnswer)
  | deviceChanged (gpu : GpuId) (mode : ClockModeType)
  | call (c : Call)

def State.onGpuEvent (hash : String → UInt32) (s : State) (gpus : List DeviceClockGpu) : State :=
  { s with latest := gpus, api := s.api.convertGpus hash gpus }

def State.next (hash : String → UInt32) (s : State) : Action → Option State
  | .routerConnected none => some { s with manager := s.manager.onRouterConnected none }
  | .routerConnected (some systems) =>
      let manager := s.manager.onRouterConnected (some (systems.map SystemGpu.toInfo))
      some ({ s with manager }.onGpuEvent hash (createDeviceClockGpus systems))
  | .routerDisconnected => some ({ s with manager := s.manager.onRouterDisconnected }.onGpuEvent hash [])
  | .setForcePeak id forcePeak answers =>
      let outcome := s.manager.setForcePeak id forcePeak answers s.modes
      some { s with manager := outcome.value, modes := outcome.modes }
  | .deviceChanged gpu mode => some { s with modes := Function.update s.modes gpu mode }
  | .call c =>
      let answer := s.reply hash c
      some { s with modes := answer.2, replies := (answer.1, s.addressed c) :: s.replies }

def apiClocks (hash : String → UInt32) (modes : Modes) : Machine State Action :=
  ⟨.initial modes, State.next hash⟩

structure State.Current (hash : String → UInt32) (s : State) : Prop where
  listed : s.api.gpus = s.latest.map (ClockGpuDetails.convert hash)
  distinct : (s.latest.map (DeviceClockGpu.getId hash)).Nodup
  addressed : ∀ r ∈ s.replies, r.1 = r.2

-- Events find an empty list, the GPUs of an event have different ids, and clock
-- modes are asked for within the list.
def staysCurrent (hash : String → UInt32) (s : State) : Action → Prop
  | .routerConnected none => True
  | .routerConnected (some systems) =>
      s.api.gpus = [] ∧ ((createDeviceClockGpus systems).map (DeviceClockGpu.getId hash)).Nodup
  | .routerDisconnected => s.api.gpus = []
  | .setForcePeak _ _ _ => True
  | .deviceChanged _ _ => True
  | .call (.getGpuClockModes index) => index.toNat < s.api.gpus.length
  | .call (.queryGpuCurrentClockMode _ _) => True
  | .call (.setCurrentGpuClockMode _ _ _) => True

-- The manager's own GPUs are those of the latest event.
def State.Follows (s : State) : Prop :=
  s.manager.updatableGpus.map Gpu.tag = s.latest.map (Gpu.tag ∘ DeviceClockGpu.toGpu)

theorem created_tags (systems : List SystemGpu) :
    (createGpus (systems.map SystemGpu.toInfo)).map Gpu.tag =
      (createDeviceClockGpus systems).map (Gpu.tag ∘ DeviceClockGpu.toGpu) := by
  rw [← created_gpus, List.map_map]

theorem force_peak_tags (m : DeviceClocksManager) (id : DdConnectionId) (forcePeak : Bool)
    (answers : GpuId → DriverAnswer) (modes : Modes) :
    (m.setForcePeak id forcePeak answers modes).value.updatableGpus.map Gpu.tag = m.updatableGpus.map Gpu.tag := by
  obtain ⟨_, same⟩ | ⟨_, _, _, all, _⟩ := manager_force_cases m id forcePeak answers modes
  · rw [same]
  · rw [all, set_all_tags]

theorem follows_step (hash : String → UInt32) (s t : State) (a : Action) (follows : s.Follows)
    (next : s.next hash a = some t) : t.Follows := by
  cases a with
  | routerConnected systems =>
      cases systems with
      | none => cases next; exact follows
      | some systems => cases next; exact created_tags systems
  | routerDisconnected => cases next; rfl
  | setForcePeak id forcePeak answers =>
      cases next
      exact (force_peak_tags s.manager id forcePeak answers s.modes).trans follows
  | deviceChanged gpu mode => cases next; exact follows
  | call c => cases next; exact follows

section

variable (hash : String → UInt32) (s : State) (follows : s.Follows)
  (distinct : (s.latest.map (DeviceClockGpu.getId hash)).Nodup) (index : Nat) (gpu : DeviceClockGpu)
  (found : s.latest[index]? = some gpu)

include follows distinct found

-- The manager finds the GPU by the number that the API keeps of it.
theorem manager_finds : ∃ own, s.manager.updatableGpus.find? (fun g => hash g.gpuName = gpu.getId hash) = some own ∧
    own.gpuId = gpu.gpuId := by
  have listed : s.latest.find? (fun g => g.getId hash = gpu.getId hash) = some gpu :=
    Keyed.lookup_of_mem (DeviceClockGpu.getId hash) s.latest gpu distinct (List.mem_of_getElem? found)
  let byName : String × GpuId → Bool := fun tag => hash tag.1 = gpu.getId hash
  have same : (s.manager.updatableGpus.map Gpu.tag).find? byName =
      (s.latest.map (Gpu.tag ∘ DeviceClockGpu.toGpu)).find? byName := congrArg (List.find? byName) follows
  rw [List.find?_map, List.find?_map] at same
  have there : (s.latest.find? (byName ∘ Gpu.tag ∘ DeviceClockGpu.toGpu)) = some gpu := listed
  rw [there, Option.map_some, Option.map_eq_some_iff] at same
  obtain ⟨own, here, sameTag⟩ := same
  exact ⟨own, here, congrArg Prod.snd sameTag⟩

theorem query_addresses (succeeds : Bool) :
    s.manager.queryClockMode hash (gpu.getId hash) s.modes succeeds = queryClockMode s.modes gpu.gpuId succeeds := by
  obtain ⟨own, here, sameId⟩ := manager_finds hash s follows distinct index gpu found
  rw [DeviceClocksManager.queryClockMode, here, ← sameId]

theorem request_addresses (mode : ClockModeType) (answers : GpuId → DriverAnswer)
    (free : s.manager.isForcingPeak = false) :
    let outcome := s.manager.requestMode hash (gpu.getId hash) mode answers s.modes
    let own := gpu.toGpu.requestMode mode (answers gpu.gpuId) s.modes
    outcome.requests = own.requests ∧ outcome.result = own.result := by
  obtain ⟨own, here, sameId⟩ := manager_finds hash s follows distinct index gpu found
  simp only [DeviceClocksManager.requestMode, free, here, sameId, Gpu.requestMode, DeviceClockGpu.toGpu]
  cases (answers gpu.gpuId).accepted <;> exact ⟨rfl, rfl⟩

end

theorem details_at (hash : String → UInt32) (s : State)
    (listed : s.api.gpus = s.latest.map (ClockGpuDetails.convert hash)) (index : Nat) :
    s.api.gpus[index]? = (s.latest[index]?).map (ClockGpuDetails.convert hash) := by
  rw [listed, List.getElem?_map]

-- A call within the list, or one that checks its index, is about the GPU of its index.
theorem reply_addressed (hash : String → UInt32) (s : State) (follows : s.Follows) (current : s.Current hash)
    (c : Call) (stays : staysCurrent hash s (.call c)) : (s.reply hash c).1 = s.addressed c := by
  have sameLength : s.api.gpus.length = s.latest.length := by rw [current.listed, List.length_map]
  cases c with
  | getGpuClockModes index =>
      have inside : index.toNat < s.latest.length := sameLength ▸ stays
      have found := List.getElem?_eq_getElem inside
      simp only [State.reply, State.addressed, ApiClocks.getGpuClockModes, details_at hash s current.listed, found]
      rfl
  | queryGpuCurrentClockMode index succeeds =>
      have details := details_at hash s current.listed index.toNat
      simp only [State.reply, State.addressed, ApiClocks.queryGpuCurrentClockMode, sameLength, details]
      cases found : s.latest[index.toNat]? with
      | none => rw [if_pos (List.getElem?_eq_none_iff.mp found)]
      | some gpu =>
          have inside := (List.getElem?_eq_some_iff.mp found).1
          rw [if_neg (Nat.not_le.mpr inside)]
          exact congrArg Reply.current (query_addresses hash s follows current.distinct _ gpu found succeeds)
  | setCurrentGpuClockMode index mode answers =>
      have details := details_at hash s current.listed index.toNat
      simp only [State.reply, State.addressed, ApiClocks.setCurrentGpuClockMode, sameLength, details]
      cases found : s.latest[index.toNat]? with
      | none => rw [if_pos (List.getElem?_eq_none_iff.mp found)]
      | some gpu =>
          have inside := (List.getElem?_eq_some_iff.mp found).1
          rw [if_neg (Nat.not_le.mpr inside)]
          cases forcing : s.manager.isForcingPeak with
          | true => simp [DeviceClocksManager.requestMode, forcing]
          | false =>
              obtain ⟨requests, result⟩ :=
                request_addresses hash s follows current.distinct _ gpu found mode answers forcing
              simp [ClockGpuDetails.convert, requests, result]

theorem current_step (hash : String → UInt32) (s t : State) (a : Action) (follows : s.Follows)
    (current : s.Current hash) (stays : staysCurrent hash s a) (next : s.next hash a = some t) :
    t.Current hash := by
  cases a with
  | routerConnected systems =>
      cases systems with
      | none => cases next; exact ⟨current.listed, current.distinct, current.addressed⟩
      | some systems =>
          cases next
          refine ⟨?_, stays.2, current.addressed⟩
          simp [State.onGpuEvent, ApiClocks.convertGpus, stays.1]
  | routerDisconnected =>
      cases next
      refine ⟨?_, List.nodup_nil, current.addressed⟩
      have empty : s.api.gpus = [] := stays
      simp [State.onGpuEvent, ApiClocks.convertGpus, empty]
  | setForcePeak id forcePeak answers => cases next; exact ⟨current.listed, current.distinct, current.addressed⟩
  | deviceChanged gpu mode => cases next; exact ⟨current.listed, current.distinct, current.addressed⟩
  | call c =>
      cases next
      refine ⟨current.listed, current.distinct, fun r member => ?_⟩
      obtain rfl | before := List.mem_cons.mp member
      · exact reply_addressed hash s follows current c stays
      · exact current.addressed r before

theorem current_only_if (hash : String → UInt32) (s t : State) (a : Action) (current : s.Current hash)
    (next : s.next hash a = some t) (after : t.Current hash) : staysCurrent hash s a := by
  cases a with
  | routerConnected systems =>
      cases systems with
      | none => trivial
      | some systems =>
          cases next
          exact ⟨List.append_left_eq_self.mp after.listed, after.distinct⟩
  | routerDisconnected =>
      cases next
      exact List.append_left_eq_self.mp after.listed
  | setForcePeak id forcePeak answers => trivial
  | deviceChanged gpu mode => trivial
  | call c =>
      cases c with
      | getGpuClockModes index =>
          cases next
          have same := after.addressed _ List.mem_cons_self
          have sameLength : s.api.gpus.length = s.latest.length := by rw [current.listed, List.length_map]
          by_contra outside
          have beyond : s.latest[index.toNat]? = none :=
            List.getElem?_eq_none_iff.mpr (sameLength ▸ Nat.not_lt.mp outside)
          simp only [State.reply, State.addressed, ApiClocks.getGpuClockModes,
            details_at hash s current.listed, beyond] at same
          cases same
      | queryGpuCurrentClockMode index succeeds => trivial
      | setCurrentGpuClockMode index mode answers => trivial

theorem follows_reachable (hash : String → UInt32) (modes : Modes) (s : State)
    (reach : Reachable (apiClocks hash modes) s) : s.Follows :=
  reachable_invariant (apiClocks hash modes) State.Follows rfl
    (fun s a t follows next => follows_step hash s t a follows next) s reach

theorem gpu_indices_current (hash : String → UInt32) (modes : Modes) (actions : List Action) :
    Meets (apiClocks hash modes) (staysCurrent hash) (.initial modes) actions ↔
      Always (apiClocks hash modes) (State.Current hash) (.initial modes) actions := by
  have start : (State.initial modes).Current hash :=
    ⟨rfl, List.nodup_nil, fun _ member => absurd member List.not_mem_nil⟩
  refine keeps_iff_always (apiClocks hash modes) _ (State.Current hash) start (fun s a t reach current next => ?_) actions
  have follows := follows_reachable hash modes s reach
  constructor
  · exact current_only_if hash s t a current next
  · exact fun stays => current_step hash s t a follows current stays next

def oneGpu : List SystemGpu := [⟨"first", 1, ⟨1, 2⟩, ⟨3, 4⟩, some [⟨"Peak", 5, 6⟩]⟩]

-- The router goes and comes back: the GPU is listed twice.
theorem reconnected_gpu_listed_twice : ¬ ∀ hash modes s, Reachable (apiClocks hash modes) s → s.Current hash := by
  intro claimed
  obtain ⟨s, reach, found⟩ := exec_finds (apiClocks (fun _ => 0) (fun _ => .normal))
    [.routerConnected (some oneGpu), .routerDisconnected, .routerConnected (some oneGpu)]
    (fun s => s.api.gpus.length = 2 ∧ s.latest.length = 1) (by decide)
  have lengths : s.api.gpus.length = 2 ∧ s.latest.length = 1 := of_decide_eq_true found
  have listed := congrArg List.length (claimed _ _ s reach).listed
  rw [List.length_map, lengths.1, lengths.2] at listed
  cases listed

end RadeonPanel.CaptureApi.Clocks

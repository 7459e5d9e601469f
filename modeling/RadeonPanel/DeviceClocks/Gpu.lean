import Mathlib.Logic.Function.Basic
import Mathlib.Data.List.Nodup

set_option autoImplicit false

namespace RadeonPanel.DeviceClocks

inductive ClockModeType where
  | unknown
  | normal
  | stable
  | peak
deriving DecidableEq, Repr

def getClockModeType (name : String) : ClockModeType :=
  if name = "Normal" then .normal
  else if name = "Stable" then .stable
  else if name = "Peak" then .peak
  else .unknown

-- Bus, device and function of the GPU in one number.
abbrev GpuId := UInt32

-- What system info says of a GPU, with the driver's answer to QueryClockModes.
structure GpuInfo where
  name : String
  gpuId : GpuId
  clockModes : Option (List String)
deriving DecidableEq, Repr

-- Only the types of the clock modes are read again.
structure Gpu where
  gpuName : String
  gpuId : GpuId
  clockModes : List ClockModeType
  cachedMode : Option ClockModeType
deriving DecidableEq, Repr

-- Modes of other names are left out.
def convert (names : List String) : List ClockModeType :=
  (names.map getClockModeType).filter (· ≠ .unknown)

def Gpu.create (gpuName : String) (info : GpuInfo) : Gpu :=
  ⟨gpuName, info.gpuId, (info.clockModes.map convert).getD [], none⟩

abbrev Modes := GpuId → ClockModeType

-- The driver's answers about one GPU within a call: whether each query succeeds,
-- whether SetClockMode does, and in which mode it leaves the device.
structure DriverAnswer where
  queriedBefore : Bool
  accepted : Bool
  after : ClockModeType
  queriedAfter : Bool
deriving DecidableEq, Repr

-- A call of SetClockMode. `before` is the mode the device was in.
structure Request where
  gpu : GpuId
  mode : ClockModeType
  before : ClockModeType
  accepted : Bool
deriving DecidableEq, Repr

def queryClockMode (modes : Modes) (gpu : GpuId) (succeeds : Bool) : ClockModeType :=
  if succeeds then modes gpu else .unknown

-- What a call leaves behind: its object, the devices, the requests in their order
-- and its result.
structure Outcome (α : Type) where
  value : α
  modes : Modes
  requests : List Request
  result : Bool

namespace Gpu

def requestMode (gpu : Gpu) (mode : ClockModeType) (answer : DriverAnswer) (modes : Modes) : Outcome Gpu :=
  let request : Request := ⟨gpu.gpuId, mode, modes gpu.gpuId, answer.accepted⟩
  let after := Function.update modes gpu.gpuId answer.after
  if !answer.accepted then ⟨gpu, after, [request], false⟩
  else ⟨gpu, after, [request], decide (mode = queryClockMode after gpu.gpuId answer.queriedAfter)⟩

def supportsPeak (gpu : Gpu) : Bool := gpu.clockModes.contains .peak

def setForcePeak (forcePeak : Bool) (gpu : Gpu) (answer : DriverAnswer) (modes : Modes) : Outcome Gpu :=
  if !forcePeak then
    match gpu.cachedMode with
    | some cached => { gpu with cachedMode := none }.requestMode cached answer modes
    | none => ⟨gpu, modes, [], true⟩
  else if !gpu.supportsPeak then ⟨gpu, modes, [], true⟩
  else
    let cached := queryClockMode modes gpu.gpuId answer.queriedBefore
    { gpu with cachedMode := some cached }.requestMode .peak answer modes

end Gpu

-- `std::ranges::all_of` stops at the first GPU that fails.
def setForcePeakAll (forcePeak : Bool) (answers : GpuId → DriverAnswer) : List Gpu → Modes → Outcome (List Gpu)
  | [], modes => ⟨[], modes, [], true⟩
  | gpu :: rest, modes =>
      let first := gpu.setForcePeak forcePeak (answers gpu.gpuId) modes
      if !first.result then ⟨first.value :: rest, first.modes, first.requests, false⟩
      else
        let others := setForcePeakAll forcePeak answers rest first.modes
        ⟨first.value :: others.value, others.modes, first.requests ++ others.requests, others.result⟩

abbrev gpuIds (gpus : List Gpu) : List GpuId := gpus.map Gpu.gpuId

theorem request_mode_shape (gpu : Gpu) (mode : ClockModeType) (answer : DriverAnswer) (modes : Modes) :
    (gpu.requestMode mode answer modes).value = gpu ∧
    (gpu.requestMode mode answer modes).requests = [⟨gpu.gpuId, mode, modes gpu.gpuId, answer.accepted⟩] := by
  unfold Gpu.requestMode
  split <;> exact ⟨rfl, rfl⟩

theorem set_force_peak_cases (forcePeak : Bool) (gpu : Gpu) (answer : DriverAnswer) (modes : Modes) :
    (gpu.setForcePeak forcePeak answer modes = ⟨gpu, modes, [], true⟩ ∧
      (forcePeak = true → gpu.supportsPeak = false) ∧ (forcePeak = false → gpu.cachedMode = none)) ∨
    (∃ cached, forcePeak = false ∧ gpu.cachedMode = some cached ∧
      gpu.setForcePeak forcePeak answer modes =
        { gpu with cachedMode := none }.requestMode cached answer modes) ∨
    (forcePeak = true ∧ gpu.supportsPeak = true ∧ gpu.setForcePeak forcePeak answer modes =
      { gpu with cachedMode := some (queryClockMode modes gpu.gpuId answer.queriedBefore) }.requestMode
        .peak answer modes) := by
  unfold Gpu.setForcePeak
  cases forcePeak with
  | false =>
      cases gpu.cachedMode with
      | none => exact .inl ⟨rfl, by simp, fun _ => rfl⟩
      | some cached => exact .inr (.inl ⟨cached, rfl, rfl, rfl⟩)
  | true =>
      cases gpu.supportsPeak with
      | false => exact .inl ⟨rfl, fun _ => rfl, by simp⟩
      | true => exact .inr (.inr ⟨rfl, rfl, rfl⟩)

-- What no call changes of a GPU.
def Gpu.tag (gpu : Gpu) : String × GpuId := (gpu.gpuName, gpu.gpuId)

theorem set_force_peak_tag (forcePeak : Bool) (gpu : Gpu) (answer : DriverAnswer) (modes : Modes) :
    (gpu.setForcePeak forcePeak answer modes).value.tag = gpu.tag := by
  obtain ⟨passed, _⟩ | ⟨cached, _, _, requested⟩ | ⟨_, _, requested⟩ :=
    set_force_peak_cases forcePeak gpu answer modes
  · rw [passed]
  · rw [requested, (request_mode_shape _ _ _ _).1, Gpu.tag, Gpu.tag]
  · rw [requested, (request_mode_shape _ _ _ _).1, Gpu.tag, Gpu.tag]

theorem set_force_peak_id (forcePeak : Bool) (gpu : Gpu) (answer : DriverAnswer) (modes : Modes) :
    (gpu.setForcePeak forcePeak answer modes).value.gpuId = gpu.gpuId :=
  congrArg Prod.snd (set_force_peak_tag forcePeak gpu answer modes)

theorem set_force_peak_requests (forcePeak : Bool) (gpu : Gpu) (answer : DriverAnswer) (modes : Modes)
    (r : Request) (member : r ∈ (gpu.setForcePeak forcePeak answer modes).requests) : r.gpu = gpu.gpuId := by
  obtain ⟨passed, _⟩ | ⟨cached, _, _, requested⟩ | ⟨_, _, requested⟩ :=
    set_force_peak_cases forcePeak gpu answer modes
  · rw [passed] at member
    cases member
  · rw [requested, (request_mode_shape _ _ _ _).2, List.mem_singleton] at member
    rw [member]
  · rw [requested, (request_mode_shape _ _ _ _).2, List.mem_singleton] at member
    rw [member]

theorem set_all_tags (forcePeak : Bool) (answers : GpuId → DriverAnswer) (gpus : List Gpu) (modes : Modes) :
    (setForcePeakAll forcePeak answers gpus modes).value.map Gpu.tag = gpus.map Gpu.tag := by
  induction gpus generalizing modes with
  | nil => rfl
  | cons gpu rest ih =>
      have sameTag := set_force_peak_tag forcePeak gpu (answers gpu.gpuId) modes
      rw [setForcePeakAll]
      split
      · simp [sameTag]
      · simpa [sameTag] using ih _

theorem tag_ids (gpus : List Gpu) : gpuIds gpus = (gpus.map Gpu.tag).map Prod.snd := by
  rw [List.map_map]
  rfl

theorem set_all_ids (forcePeak : Bool) (answers : GpuId → DriverAnswer) (gpus : List Gpu) (modes : Modes) :
    gpuIds (setForcePeakAll forcePeak answers gpus modes).value = gpuIds gpus := by
  rw [tag_ids, tag_ids, set_all_tags]

theorem set_all_requests (forcePeak : Bool) (answers : GpuId → DriverAnswer) (gpus : List Gpu) (modes : Modes)
    (r : Request) (member : r ∈ (setForcePeakAll forcePeak answers gpus modes).requests) :
    r.gpu ∈ gpuIds gpus := by
  induction gpus generalizing modes with
  | nil => simp [setForcePeakAll] at member
  | cons gpu rest ih =>
      have ofFirst := set_force_peak_requests forcePeak gpu (answers gpu.gpuId) modes r
      rw [setForcePeakAll] at member
      split at member
      · exact (ofFirst member) ▸ List.mem_cons_self
      · obtain first | later := List.mem_append.mp member
        · exact (ofFirst first) ▸ List.mem_cons_self
        · exact List.mem_cons_of_mem _ (ih _ later)

def acceptedRequests (requests : List Request) : List (GpuId × ClockModeType) :=
  (requests.filter Request.accepted).map fun r => (r.gpu, r.before)

-- The query that is cached succeeds for every GPU whose peak request is accepted,
-- as far as the GPUs are visited.
def QueriesForced (answers : GpuId → DriverAnswer) : List Gpu → Modes → Prop
  | [], _ => True
  | gpu :: rest, modes =>
      (gpu.supportsPeak = true → (answers gpu.gpuId).accepted = true → (answers gpu.gpuId).queriedBefore = true) ∧
      ((gpu.setForcePeak true (answers gpu.gpuId) modes).result = true →
        QueriesForced answers rest (gpu.setForcePeak true (answers gpu.gpuId) modes).modes)

-- No GPU in front of a forced one fails when the forcing is undone.
def ReachesForced (forced : List (GpuId × ClockModeType)) (answers : GpuId → DriverAnswer) : List Gpu → Modes → Prop
  | [], _ => True
  | gpu :: rest, modes =>
      ((∃ later ∈ rest, later.gpuId ∈ forced.map Prod.fst) →
        (gpu.setForcePeak false (answers gpu.gpuId) modes).result = true) ∧
      ReachesForced forced answers rest (gpu.setForcePeak false (answers gpu.gpuId) modes).modes

instance decidableQueries (answers : GpuId → DriverAnswer) :
    (gpus : List Gpu) → (modes : Modes) → Decidable (QueriesForced answers gpus modes)
  | [], _ => inferInstanceAs (Decidable True)
  | gpu :: rest, modes =>
      have := decidableQueries answers rest (gpu.setForcePeak true (answers gpu.gpuId) modes).modes
      inferInstanceAs (Decidable (_ ∧ (_ → _)))

instance decidableReaches (forced : List (GpuId × ClockModeType)) (answers : GpuId → DriverAnswer) :
    (gpus : List Gpu) → (modes : Modes) → Decidable (ReachesForced forced answers gpus modes)
  | [], _ => inferInstanceAs (Decidable True)
  | gpu :: rest, modes =>
      have := decidableReaches forced answers rest (gpu.setForcePeak false (answers gpu.gpuId) modes).modes
      inferInstanceAs (Decidable ((_ → _) ∧ _))

theorem force_caches (gpu : Gpu) (answer : DriverAnswer) (modes : Modes) (mode : ClockModeType)
    (queries : gpu.supportsPeak = true → answer.accepted = true → answer.queriedBefore = true)
    (forced : (gpu.gpuId, mode) ∈ acceptedRequests (gpu.setForcePeak true answer modes).requests) :
    (gpu.setForcePeak true answer modes).value.cachedMode = some mode := by
  obtain ⟨passed, _⟩ | ⟨cached, impossible, _⟩ | ⟨_, supports, requested⟩ :=
    set_force_peak_cases true gpu answer modes
  · rw [passed] at forced
    simp [acceptedRequests] at forced
  · cases impossible
  · rw [requested, (request_mode_shape _ _ _ _).2] at forced
    rw [requested, (request_mode_shape _ _ _ _).1]
    cases accepted : answer.accepted with
    | false => simp [acceptedRequests, accepted] at forced
    | true =>
        have before : modes gpu.gpuId = mode := by simpa [acceptedRequests, accepted, eq_comm] using forced
        simp [queryClockMode, queries supports accepted, before]

theorem accepted_append (first later : List Request) :
    acceptedRequests (first ++ later) = acceptedRequests first ++ acceptedRequests later := by
  rw [acceptedRequests, List.filter_append, List.map_append, acceptedRequests, acceptedRequests]

theorem accepted_id (requests : List Request) (forced : GpuId × ClockModeType)
    (accepted : forced ∈ acceptedRequests requests) : ∃ r ∈ requests, r.gpu = forced.1 := by
  obtain ⟨r, member, rfl⟩ := List.mem_map.mp accepted
  exact ⟨r, List.mem_of_mem_filter member, rfl⟩

theorem forced_first (forcePeak : Bool) (gpu : Gpu) (answer : DriverAnswer) (modes : Modes)
    (forced : GpuId × ClockModeType)
    (accepted : forced ∈ acceptedRequests (gpu.setForcePeak forcePeak answer modes).requests) :
    forced.1 = gpu.gpuId := by
  obtain ⟨r, requested, same⟩ := accepted_id _ forced accepted
  rw [← same]
  exact set_force_peak_requests forcePeak gpu answer modes r requested

theorem forced_listed (forcePeak : Bool) (answers : GpuId → DriverAnswer) (gpus : List Gpu) (modes : Modes)
    (forced : GpuId × ClockModeType)
    (accepted : forced ∈ acceptedRequests (setForcePeakAll forcePeak answers gpus modes).requests) :
    forced.1 ∈ gpuIds gpus := by
  obtain ⟨r, requested, same⟩ := accepted_id _ forced accepted
  rw [← same]
  exact set_all_requests forcePeak answers gpus modes r requested

-- After the forcing, a forced GPU has cached the mode it was in.
theorem force_all_caches (answers : GpuId → DriverAnswer) (gpus : List Gpu) (modes : Modes)
    (distinct : (gpuIds gpus).Nodup) (queries : QueriesForced answers gpus modes) :
    ∀ gpu ∈ (setForcePeakAll true answers gpus modes).value, ∀ mode,
      (gpu.gpuId, mode) ∈ acceptedRequests (setForcePeakAll true answers gpus modes).requests →
        gpu.cachedMode = some mode := by
  induction gpus generalizing modes with
  | nil => simp [setForcePeakAll]
  | cons first rest ih =>
      obtain ⟨fresh, later⟩ := List.nodup_cons.mp distinct
      have sameId := set_force_peak_id true first (answers first.gpuId) modes
      have caches := fun mode => force_caches first (answers first.gpuId) modes mode queries.1
      intro gpu member mode forced
      rw [setForcePeakAll] at member forced
      split at member
      · rename_i failed
        simp only [failed, if_true] at forced
        have here := forced_first _ _ _ _ _ forced
        obtain rfl | other := List.mem_cons.mp member
        · rw [sameId] at forced
          exact caches mode forced
        · exact absurd (here ▸ List.mem_map_of_mem other) fresh
      · rename_i succeeded
        have succeeds : (first.setForcePeak true (answers first.gpuId) modes).result = true := by
          simpa using succeeded
        rw [if_neg succeeded, accepted_append, List.mem_append] at forced
        obtain rfl | other := List.mem_cons.mp member
        · obtain here | elsewhere := forced
          · rw [sameId] at here
            exact caches mode here
          · exact absurd (sameId ▸ forced_listed _ _ _ _ _ elsewhere) fresh
        · have listed : gpu.gpuId ∈ gpuIds rest := by
            rw [← set_all_ids true answers rest (first.setForcePeak true (answers first.gpuId) modes).modes]
            exact List.mem_map_of_mem other
          obtain here | elsewhere := forced
          · exact absurd (forced_first _ _ _ _ _ here ▸ listed) fresh
          · exact ih _ later (queries.2 succeeds) gpu other mode elsewhere

def requestedModes (requests : List Request) : List (GpuId × ClockModeType) :=
  requests.map fun r => (r.gpu, r.mode)

theorem undo_requests (gpu : Gpu) (answer : DriverAnswer) (modes : Modes) (cached : ClockModeType)
    (caches : gpu.cachedMode = some cached) :
    (gpu.gpuId, cached) ∈ requestedModes (gpu.setForcePeak false answer modes).requests := by
  obtain ⟨_, _, none⟩ | ⟨mode, _, same, requested⟩ | ⟨impossible, _⟩ := set_force_peak_cases false gpu answer modes
  · rw [none rfl] at caches
    cases caches
  · rw [caches, Option.some.injEq] at same
    rw [requested, (request_mode_shape _ _ _ _).2, same]
    exact List.mem_cons_self
  · cases impossible

theorem undo_all_requests (forced : List (GpuId × ClockModeType)) (answers : GpuId → DriverAnswer)
    (gpus : List Gpu) (modes : Modes) (reaches : ReachesForced forced answers gpus modes) :
    ∀ gpu ∈ gpus, ∀ mode, (gpu.gpuId, mode) ∈ forced → gpu.cachedMode = some mode →
      (gpu.gpuId, mode) ∈ requestedModes (setForcePeakAll false answers gpus modes).requests := by
  induction gpus generalizing modes with
  | nil => simp
  | cons first rest ih =>
      intro gpu member mode isForced caches
      rw [setForcePeakAll]
      obtain rfl | other := List.mem_cons.mp member
      · have here := undo_requests gpu (answers gpu.gpuId) modes mode caches
        split
        · exact here
        · rw [requestedModes, List.map_append]
          exact List.mem_append_left _ here
      · have succeeds := reaches.1 ⟨gpu, other, List.mem_map.mpr ⟨_, isForced, rfl⟩⟩
        rw [succeeds, if_neg (by simp), requestedModes, List.map_append]
        exact List.mem_append_right _ (ih _ reaches.2 gpu other mode isForced caches)

end RadeonPanel.DeviceClocks

import RadeonPanel.Base.Allocations
import RadeonPanel.CaptureApi.CaptureContext

set_option autoImplicit false

namespace RadeonPanel.CaptureApi

open Allocations

abbrev Text := List UInt8

-- A `char` array of the interface: its size is fixed and it holds a terminator.
structure CharBuffer (size : Nat) where
  bytes : List UInt8
  sized : bytes.length = size
  terminated : 0 ∈ bytes

def shortSize : Nat := 32
def mediumSize : Nat := 64
def longSize : Nat := 128
def xlongSize : Nat := 256

-- The buffers are zeroed before they are copied to.
def copyStringField {size : Nat} (src : Text) (positive : 0 < size := by decide) : CharBuffer size where
  bytes := src.take (size - 1) ++ List.replicate (size - min src.length (size - 1)) 0
  sized := by
    rw [List.length_append, List.length_take, List.length_replicate]
    omega
  terminated := by
    refine List.mem_append.mpr (.inr (List.mem_replicate.mpr ⟨?_, rfl⟩))
    omega

-- What system_info_utils reports, as far as it is passed on.
structure OsInfo where
  name : Text
  desc : Text
  hostname : Text
  memoryType : Text
  memoryPhysical : UInt64
  memorySwap : UInt64
  etwIsSupported : Bool
  etwHasPermission : Bool
  etwNeedsRgpRegistryOrUsergroup : Bool

structure DriverInfo where
  name : Text
  description : Text
  packagingVersion : Text
  packagingDate : Option Text
  softwareVersion : Text
  packagingVersionMajor : UInt32
  packagingVersionMinor : UInt32

structure CpuInfo where
  name : Text
  architecture : Text
  vendorId : Text
  cpuId : Text
  deviceId : Text
  virtualization : Text
  numPhysicalCores : UInt32
  numLogicalCores : UInt32
  maxClockSpeed : UInt32
  timestampClockFrequency : UInt64

structure HeapInfo where
  heapType : Text
  physAddr : UInt64
  size : UInt64

structure AsicInfo where
  engineClockMin : UInt64
  engineClockMax : UInt64
  gpuCounterFreq : UInt64
  family : UInt32
  device : UInt32
  revision : UInt32
  eRev : UInt32
  vendor : UInt32
  subsystem : UInt32
  luid : Vector UInt8 8

structure GpuMemoryInfo where
  type : Text
  memOpsPerClock : UInt32
  busBitWidth : UInt32
  bandwidth : UInt64
  memClockMin : UInt64
  memClockMax : UInt64
  heaps : List HeapInfo

structure PciInfo where
  bus : UInt32
  device : UInt32
  function : UInt32
  id : UInt32
deriving DecidableEq, Repr

structure BigSwInfo where
  major : UInt32
  minor : UInt32
  misc : UInt32
deriving DecidableEq, Repr

structure GpuInfo where
  name : Text
  asic : AsicInfo
  memory : GpuMemoryInfo
  pci : PciInfo
  bigSw : BigSwInfo
  driverIndex : Option UInt32

structure SystemInfo where
  os : OsInfo
  driver : DriverInfo
  drivers : List DriverInfo
  cpus : List CpuInfo
  gpus : List GpuInfo

-- An array behind a pointer: the block it was allocated as. A null pointer is `none`.
structure ApiArray (α : Type) where
  block : Nat
  items : List α

structure RdpCaptureSystemOs where
  name : CharBuffer longSize
  description : CharBuffer xlongSize
  hostname : CharBuffer longSize
  memoryType : CharBuffer mediumSize
  memoryPhysical : UInt64
  memorySwap : UInt64
  etwSupported : Bool
  etwHasPermission : Bool
  etwNeedsScript : Bool

structure RdpCaptureSystemDriver where
  name : CharBuffer longSize
  description : CharBuffer xlongSize
  packagingVersion : CharBuffer mediumSize
  packagingDate : CharBuffer shortSize
  softwareVersion : CharBuffer mediumSize
  packagingVersionMajor : UInt32
  packagingVersionMinor : UInt32

structure RdpCaptureSystemCpu where
  name : CharBuffer longSize
  architecture : CharBuffer shortSize
  vendorId : CharBuffer shortSize
  cpuId : CharBuffer longSize
  deviceId : CharBuffer shortSize
  virtualization : CharBuffer shortSize
  numPhysicalCores : UInt32
  numLogicalCores : UInt32
  maxClockSpeedMhz : UInt32
  timestampClockFreqHz : UInt64

structure RdpCaptureGpuMemoryHeap where
  heapType : CharBuffer shortSize
  physicalAddress : UInt64
  size : UInt64

structure RdpCaptureGpuMemoryDetails where
  type : CharBuffer shortSize
  memOpsPerClock : UInt32
  busBitWidth : UInt32
  bandwidth : UInt64
  memClockMinHz : UInt64
  memClockMaxHz : UInt64
  heaps : Option (ApiArray RdpCaptureGpuMemoryHeap)
  numHeaps : Nat

structure RdpCaptureGpuAsicInfo where
  engineClockMinHz : UInt64
  engineClockMaxHz : UInt64
  gpuCounterFreqHz : UInt64
  family : UInt32
  deviceId : UInt32
  revision : UInt32
  eRev : UInt32

structure RdpCaptureGpu where
  luid : Vector UInt8 8
  name : CharBuffer longSize
  vendorId : UInt32
  subsystemId : UInt32
  asic : RdpCaptureGpuAsicInfo
  memory : RdpCaptureGpuMemoryDetails
  pci : PciInfo
  bigSw : BigSwInfo
  driverIndex : Int32

structure RdpCaptureSystemInfo where
  os : RdpCaptureSystemOs
  driver : RdpCaptureSystemDriver
  drivers : Option (ApiArray RdpCaptureSystemDriver)
  numDrivers : Nat
  cpus : Option (ApiArray RdpCaptureSystemCpu)
  numCpus : Nat
  gpus : Option (ApiArray RdpCaptureGpu)
  numGpus : Nat

def populateOs (os : OsInfo) : RdpCaptureSystemOs where
  name := copyStringField os.name
  description := copyStringField os.desc
  hostname := copyStringField os.hostname
  memoryType := copyStringField os.memoryType
  memoryPhysical := os.memoryPhysical
  memorySwap := os.memorySwap
  etwSupported := os.etwIsSupported
  etwHasPermission := os.etwHasPermission
  etwNeedsScript := os.etwNeedsRgpRegistryOrUsergroup

def populateDriverFromInfo (src : DriverInfo) : RdpCaptureSystemDriver where
  name := copyStringField src.name
  description := copyStringField src.description
  packagingVersion := copyStringField src.packagingVersion
  packagingDate := copyStringField (src.packagingDate.getD [])
  softwareVersion := copyStringField src.softwareVersion
  packagingVersionMajor := src.packagingVersionMajor
  packagingVersionMinor := src.packagingVersionMinor

def driverInfoIsEmpty (src : DriverInfo) : Bool :=
  src.name.isEmpty && src.description.isEmpty && src.packagingVersion.isEmpty && src.softwareVersion.isEmpty &&
    (!src.packagingDate.isSome || (src.packagingDate.getD []).isEmpty)

def populateCpu (cpu : CpuInfo) : RdpCaptureSystemCpu where
  name := copyStringField cpu.name
  architecture := copyStringField cpu.architecture
  vendorId := copyStringField cpu.vendorId
  cpuId := copyStringField cpu.cpuId
  deviceId := copyStringField cpu.deviceId
  virtualization := copyStringField cpu.virtualization
  numPhysicalCores := cpu.numPhysicalCores
  numLogicalCores := cpu.numLogicalCores
  maxClockSpeedMhz := cpu.maxClockSpeed
  timestampClockFreqHz := cpu.timestampClockFrequency

def populateHeap (heap : HeapInfo) : RdpCaptureGpuMemoryHeap where
  heapType := copyStringField heap.heapType
  physicalAddress := heap.physAddr
  size := heap.size

-- An array is left null and its count 0 where there is nothing to put into it.
def populateArray {α β : Type} (fails : Nat → Bool) (a : Allocator) (items : List α) (populate : α → β) :
    Allocator × Option (Option (ApiArray β) × Nat) :=
  if items.length = 0 then (a, some (none, 0))
  else
    match a.alloc fails with
    | (a, none) => (a, none)
    | (a, some block) => (a, some (some ⟨block, items.map populate⟩, items.length))

-- `none` is the result `false`.
def populateDrivers (fails : Nat → Bool) (a : Allocator) (sysInfo : SystemInfo) :
    Allocator × Option (Option (ApiArray RdpCaptureSystemDriver) × Nat) :=
  let havePerDevice := !sysInfo.drivers.isEmpty
  let records := if havePerDevice then sysInfo.drivers else if driverInfoIsEmpty sysInfo.driver then [] else [sysInfo.driver]
  populateArray fails a records populateDriverFromInfo

def populateCpus (fails : Nat → Bool) (a : Allocator) (sysInfo : SystemInfo) :
    Allocator × Option (Option (ApiArray RdpCaptureSystemCpu) × Nat) :=
  populateArray fails a sysInfo.cpus populateCpu

-- A GPU whose heaps cannot be allocated has none.
def populateHeaps (fails : Nat → Bool) (a : Allocator) (heaps : List HeapInfo) :
    Allocator × Option (ApiArray RdpCaptureGpuMemoryHeap) × Nat :=
  if heaps.length > 0 then
    match a.alloc fails with
    | (a, none) => (a, none, 0)
    | (a, some block) => (a, some ⟨block, heaps.map populateHeap⟩, heaps.length)
  else (a, none, heaps.length)

def resolvedIndex (numDrivers : Nat) (driverIndex : Option UInt32) : Int32 :=
  match driverIndex with
  | none => -1
  | some parsed => if parsed.toNat < numDrivers then parsed.toInt32 else -1

def populateGpu (numDrivers : Nat) (gpu : GpuInfo) (heaps : Option (ApiArray RdpCaptureGpuMemoryHeap))
    (numHeaps : Nat) : RdpCaptureGpu where
  luid := gpu.asic.luid
  name := copyStringField gpu.name
  vendorId := gpu.asic.vendor
  subsystemId := gpu.asic.subsystem
  asic :=
    { engineClockMinHz := gpu.asic.engineClockMin
      engineClockMaxHz := gpu.asic.engineClockMax
      gpuCounterFreqHz := gpu.asic.gpuCounterFreq
      family := gpu.asic.family
      deviceId := gpu.asic.device
      revision := gpu.asic.revision
      eRev := gpu.asic.eRev }
  memory :=
    { type := copyStringField gpu.memory.type
      memOpsPerClock := gpu.memory.memOpsPerClock
      busBitWidth := gpu.memory.busBitWidth
      bandwidth := gpu.memory.bandwidth
      memClockMinHz := gpu.memory.memClockMin
      memClockMaxHz := gpu.memory.memClockMax
      heaps := heaps
      numHeaps := numHeaps }
  pci := gpu.pci
  bigSw := gpu.bigSw
  driverIndex := resolvedIndex numDrivers gpu.driverIndex

def populateEachGpu (fails : Nat → Bool) (numDrivers : Nat) (a : Allocator) :
    List GpuInfo → Allocator × List RdpCaptureGpu
  | [] => (a, [])
  | gpu :: rest =>
      let (allocated, heaps, numHeaps) := populateHeaps fails a gpu.memory.heaps
      let (after, others) := populateEachGpu fails numDrivers allocated rest
      (after, populateGpu numDrivers gpu heaps numHeaps :: others)

def populateGpus (fails : Nat → Bool) (a : Allocator) (sysInfo : SystemInfo) (numDrivers : Nat) :
    Allocator × Option (Option (ApiArray RdpCaptureGpu) × Nat) :=
  if sysInfo.gpus.length = 0 then (a, some (none, 0))
  else
    match a.alloc fails with
    | (a, none) => (a, none)
    | (a, some block) =>
        let (after, gpus) := populateEachGpu fails numDrivers a sysInfo.gpus
        (after, some (some ⟨block, gpus⟩, sysInfo.gpus.length))

def freeArray {α : Type} (a : Allocator) (array : Option (ApiArray α)) : Allocator :=
  match array with
  | none => a
  | some array => a.free array.block

def freeHeaps (a : Allocator) : List RdpCaptureGpu → Allocator
  | [] => a
  | gpu :: rest => freeHeaps (freeArray a gpu.memory.heaps) rest

-- The loop over the GPUs goes by the count.
def freeGpus (a : Allocator) (gpus : Option (ApiArray RdpCaptureGpu)) (numGpus : Nat) : Allocator :=
  match gpus with
  | none => a
  | some array => (freeHeaps a (array.items.take numGpus)).free array.block

def freeSystemInfo (a : Allocator) (info : Option RdpCaptureSystemInfo) : Allocator × Option RdpCaptureSystemInfo :=
  match info with
  | none => (a, none)
  | some info =>
      let a := freeArray a info.cpus
      let a := freeArray a info.drivers
      let a := freeGpus a info.gpus info.numGpus
      (a, some { info with cpus := none, numCpus := 0, drivers := none, numDrivers := 0, gpus := none, numGpus := 0 })

def blankInfo (sysInfo : SystemInfo) : RdpCaptureSystemInfo where
  os := populateOs sysInfo.os
  driver := populateDriverFromInfo sysInfo.driver
  drivers := none
  numDrivers := 0
  cpus := none
  numCpus := 0
  gpus := none
  numGpus := 0

-- `outInfo` is what the pointer points to, `none` a null pointer.
def getSystemInfo (sysInfo : SystemInfo) (fails : Nat → Bool) (a : Allocator) (outInfo : Option RdpCaptureSystemInfo) :
    Allocator × Option RdpCaptureSystemInfo × CaptureResult :=
  match outInfo with
  | none => (a, none, .invalidParams)
  | some out =>
      match populateDrivers fails a sysInfo with
      | (a, none) => ((freeSystemInfo a (some (blankInfo sysInfo))).1, some out, .failure)
      | (a, some (drivers, numDrivers)) =>
          let info := { blankInfo sysInfo with drivers := drivers, numDrivers := numDrivers }
          match populateCpus fails a sysInfo with
          | (a, none) => ((freeSystemInfo a (some info)).1, some out, .failure)
          | (a, some (cpus, numCpus)) =>
              let info := { info with cpus := cpus, numCpus := numCpus }
              match populateGpus fails a sysInfo numDrivers with
              | (a, none) => ((freeSystemInfo a (some info)).1, some out, .failure)
              | (a, some (gpus, numGpus)) =>
                  (a, some { info with gpus := gpus, numGpus := numGpus }, .success)

def arrayItems {α : Type} (array : Option (ApiArray α)) : List α :=
  match array with
  | none => []
  | some array => array.items

def arrayBlocks {α : Type} (array : Option (ApiArray α)) : List Nat := (array.map (·.block)).toList

def heapBlocks (gpus : List RdpCaptureGpu) : List Nat := gpus.flatMap fun gpu => arrayBlocks gpu.memory.heaps

def gpuBlocks (gpus : Option (ApiArray RdpCaptureGpu)) : List Nat := heapBlocks (arrayItems gpus) ++ arrayBlocks gpus

def ownedBlocks (info : RdpCaptureSystemInfo) : List Nat :=
  arrayBlocks info.cpus ++ arrayBlocks info.drivers ++ gpuBlocks info.gpus

-- A GPU's own counts. The cast of an index above 2^31 makes it negative.
structure CountedGpu (numDrivers : Nat) (gpu : RdpCaptureGpu) : Prop where
  heaps : (arrayItems gpu.memory.heaps).length = gpu.memory.numHeaps
  driverIndex : gpu.driverIndex = -1 ∨ gpu.driverIndex.toInt < numDrivers
  driverIndexPositive : numDrivers ≤ 2147483648 → gpu.driverIndex = -1 ∨ 0 ≤ gpu.driverIndex.toInt

structure Counted (info : RdpCaptureSystemInfo) : Prop where
  drivers : (arrayItems info.drivers).length = info.numDrivers
  cpus : (arrayItems info.cpus).length = info.numCpus
  gpus : (arrayItems info.gpus).length = info.numGpus
  eachGpu : ∀ gpu ∈ arrayItems info.gpus, CountedGpu info.numDrivers gpu

section

variable {α β : Type} (fails : Nat → Bool) (a : Allocator)

theorem free_array (array : Option (ApiArray α)) : freeArray a array = a.freeAll (arrayBlocks array) := by
  cases array <;> rfl

theorem free_heaps (gpus : List RdpCaptureGpu) : freeHeaps a gpus = a.freeAll (heapBlocks gpus) := by
  induction gpus generalizing a with
  | nil => rfl
  | cons gpu rest ih =>
      have blocks : heapBlocks (gpu :: rest) = arrayBlocks gpu.memory.heaps ++ heapBlocks rest := List.flatMap_cons
      rw [freeHeaps, ih, blocks, free_all_append, free_array]

theorem free_gpus (gpus : Option (ApiArray RdpCaptureGpu)) :
    freeGpus a gpus (arrayItems gpus).length = a.freeAll (gpuBlocks gpus) := by
  cases gpus with
  | none => rfl
  | some array =>
      rw [freeGpus, gpuBlocks, free_all_append, ← free_heaps, arrayItems, List.take_length]
      rfl

theorem free_system_info (info : RdpCaptureSystemInfo)
    (counted : (arrayItems info.gpus).length = info.numGpus) :
    (freeSystemInfo a (some info)).1 = a.freeAll (ownedBlocks info) := by
  rw [freeSystemInfo, ← counted, free_gpus, free_array, free_array, ownedBlocks, free_all_append, free_all_append]

theorem free_system_info_idempotent (info : Option RdpCaptureSystemInfo) :
    freeSystemInfo (freeSystemInfo a info).1 (freeSystemInfo a info).2 = freeSystemInfo a info := by
  cases info <;> rfl

-- What populating an array may do to the allocator.
inductive Populated (blocks : Option (ApiArray β) → List Nat) (a : Allocator) :
    Allocator × Option (Option (ApiArray β) × Nat) → Prop where
  | failed (after : Allocator) (owns : Owns a after []) : Populated blocks a (after, none)
  | done (after : Allocator) (array : Option (ApiArray β)) (count : Nat) (owns : Owns a after (blocks array))
      (counted : (arrayItems array).length = count) : Populated blocks a (after, some (array, count))

theorem populate_array (items : List α) (populate : α → β) :
    Populated arrayBlocks a (populateArray fails a items populate) := by
  unfold populateArray
  by_cases empty : items.length = 0
  · rw [if_pos empty]
    exact .done a none 0 (owns_nothing a) rfl
  · rw [if_neg empty]
    have owns := owns_alloc a fails
    generalize a.alloc fails = made at owns
    obtain ⟨after, block⟩ := made
    cases block with
    | none => exact .failed after owns
    | some block => exact .done after _ _ owns (List.length_map populate)

theorem populate_heaps (heaps : List HeapInfo) :
    Owns a (populateHeaps fails a heaps).1 (arrayBlocks (populateHeaps fails a heaps).2.1) ∧
      (arrayItems (populateHeaps fails a heaps).2.1).length = (populateHeaps fails a heaps).2.2 := by
  unfold populateHeaps
  by_cases some : heaps.length > 0
  · rw [if_pos some]
    have owns := owns_alloc a fails
    generalize a.alloc fails = made at owns
    obtain ⟨after, block⟩ := made
    cases block with
    | none => exact ⟨owns, rfl⟩
    | some block => exact ⟨owns, List.length_map populateHeap⟩
  · rw [if_neg some]
    refine ⟨owns_nothing a, ?_⟩
    simp only [arrayItems, List.length_nil]
    omega

end

theorem resolved_index_below (numDrivers : Nat) (driverIndex : Option UInt32) :
    (resolvedIndex numDrivers driverIndex = -1 ∨ (resolvedIndex numDrivers driverIndex).toInt < numDrivers) ∧
    (numDrivers ≤ 2147483648 →
      resolvedIndex numDrivers driverIndex = -1 ∨ 0 ≤ (resolvedIndex numDrivers driverIndex).toInt) := by
  unfold resolvedIndex
  cases driverIndex with
  | none => exact ⟨.inl rfl, fun _ => .inl rfl⟩
  | some parsed =>
      by_cases below : parsed.toNat < numDrivers
      · have cast : parsed.toInt32.toInt =
            if 2 * parsed.toNat < 4294967296 then (parsed.toNat : Int) else parsed.toNat - 4294967296 :=
          BitVec.toInt_eq_toNat_cond parsed.toBitVec
        simp only [if_pos below, cast]
        have bound := parsed.toNat_lt
        constructor
        · right
          split <;> omega
        · intro few
          right
          rw [if_pos (by omega)]
          omega
      · have unmapped : (if parsed.toNat < numDrivers then parsed.toInt32 else -1) = -1 := if_neg below
        exact ⟨.inl unmapped, fun _ => .inl unmapped⟩

theorem populate_each_gpu (fails : Nat → Bool) (numDrivers : Nat) (a : Allocator) (gpus : List GpuInfo) :
    Owns a (populateEachGpu fails numDrivers a gpus).1 (heapBlocks (populateEachGpu fails numDrivers a gpus).2) ∧
      (populateEachGpu fails numDrivers a gpus).2.length = gpus.length ∧
      ∀ gpu ∈ (populateEachGpu fails numDrivers a gpus).2, CountedGpu numDrivers gpu := by
  induction gpus generalizing a with
  | nil => exact ⟨owns_nothing a, rfl, by simp [populateEachGpu]⟩
  | cons gpu rest ih =>
      obtain ⟨ownsHeaps, countedHeaps⟩ := populate_heaps fails a gpu.memory.heaps
      obtain ⟨ownsRest, length, counted⟩ := ih (populateHeaps fails a gpu.memory.heaps).1
      obtain ⟨below, positive⟩ := resolved_index_below numDrivers gpu.driverIndex
      refine ⟨owns_append a _ _ _ _ ownsHeaps ownsRest, congrArg (· + 1) length, fun other member => ?_⟩
      obtain rfl | member := List.mem_cons.mp member
      · exact ⟨countedHeaps, below, positive⟩
      · exact counted other member

theorem populate_gpus (fails : Nat → Bool) (a : Allocator) (sysInfo : SystemInfo) (numDrivers : Nat) :
    Populated gpuBlocks a (populateGpus fails a sysInfo numDrivers) ∧
      ∀ after gpus numGpus, populateGpus fails a sysInfo numDrivers = (after, some (gpus, numGpus)) →
        ∀ gpu ∈ arrayItems gpus, CountedGpu numDrivers gpu := by
  unfold populateGpus
  by_cases empty : sysInfo.gpus.length = 0
  · rw [if_pos empty]
    refine ⟨.done a none 0 (owns_nothing a) rfl, ?_⟩
    rintro after gpus numGpus ⟨⟩ gpu member
    cases member
  · rw [if_neg empty]
    have owns := owns_alloc a fails
    generalize a.alloc fails = made at owns
    obtain ⟨between, block⟩ := made
    cases block with
    | none =>
        refine ⟨.failed between owns, ?_⟩
        rintro after gpus numGpus ⟨⟩
    | some block =>
        obtain ⟨ownsHeaps, length, counted⟩ := populate_each_gpu fails numDrivers between sysInfo.gpus
        refine ⟨.done _ _ _ ?_ length, ?_⟩
        · exact owns_perm a _ _ _ (owns_append a between _ _ _ owns ownsHeaps) List.perm_append_comm
        · rintro after gpus numGpus ⟨⟩
          exact counted

-- A failed call frees what it has allocated, a successful one hands it over.
theorem get_system_info_cases (sysInfo : SystemInfo) (fails : Nat → Bool) (a : Allocator) (out : RdpCaptureSystemInfo) :
    (∃ after, getSystemInfo sysInfo fails a (some out) = (after, some out, .failure) ∧ Balanced a after) ∨
    ∃ after info, getSystemInfo sysInfo fails a (some out) = (after, some info, .success) ∧
      Owns a after (ownedBlocks info) ∧ Counted info := by
  simp only [getSystemInfo]
  have drivers : Populated arrayBlocks a (populateDrivers fails a sysInfo) := populate_array fails a _ populateDriverFromInfo
  generalize populateDrivers fails a sysInfo = made at drivers
  cases drivers with
  | failed first owns =>
      refine .inl ⟨_, rfl, ?_⟩
      rw [free_system_info first (blankInfo sysInfo) rfl]
      exact owns_balanced a first [] owns
  | done first drivers numDrivers ownsDrivers countedDrivers =>
      have cpus : Populated arrayBlocks first (populateCpus fails first sysInfo) :=
        populate_array fails first sysInfo.cpus populateCpu
      dsimp only
      generalize populateCpus fails first sysInfo = made at cpus
      cases cpus with
      | failed second owns =>
          refine .inl ⟨_, rfl, ?_⟩
          rw [free_system_info second { blankInfo sysInfo with drivers := drivers, numDrivers := numDrivers } rfl]
          refine owns_balanced a second _ (owns_perm a second _ _ (owns_append a first second _ _ ownsDrivers owns) ?_)
          simp [ownedBlocks, blankInfo, arrayBlocks, gpuBlocks, heapBlocks, arrayItems]
      | done second cpus numCpus ownsCpus countedCpus =>
          have ownsBoth := owns_perm a second _ _ (owns_append a first second _ _ ownsDrivers ownsCpus)
            List.perm_append_comm
          obtain ⟨gpus, eachGpu⟩ := populate_gpus fails second sysInfo numDrivers
          dsimp only
          generalize populateGpus fails second sysInfo numDrivers = made at gpus eachGpu
          cases gpus with
          | failed third owns =>
              refine .inl ⟨_, rfl, ?_⟩
              rw [free_system_info third
                { blankInfo sysInfo with
                  drivers := drivers, numDrivers := numDrivers, cpus := cpus, numCpus := numCpus } rfl]
              refine owns_balanced a third _ (owns_perm a third _ _ (owns_append a second third _ _ ownsBoth owns) ?_)
              simp [ownedBlocks, blankInfo, arrayBlocks, gpuBlocks, heapBlocks, arrayItems]
          | done third gpus numGpus ownsGpus countedGpus =>
              refine .inr ⟨third, _, rfl, owns_append a second third _ _ ownsBoth ownsGpus, ?_⟩
              exact ⟨countedDrivers, countedCpus, countedGpus, eachGpu third gpus numGpus rfl⟩

end RadeonPanel.CaptureApi

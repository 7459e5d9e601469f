import Mathlib.Algebra.Group.Nat.Defs
import RadeonPanel.Base.Logged
import RadeonPanel.Spm.LoaderAgreement

set_option autoImplicit false

namespace RadeonPanel.Spm.LegacyLoad

open Bytes Logged

-- The bytes of a chunk. Its header gives their number as a 32-bit signed number.
structure SpmChunk where
  bytes : List UInt8
  sized : bytes.length < 2 ^ 31

-- The loader only gets a pointer: behind the chunk the memory holds anything.
def SpmChunk.memory (chunk : SpmChunk) (beyond : Memory) : Memory := fun i => chunk.bytes.getD i (beyond i)

structure Access where
  address : Nat
  size : Nat
deriving DecidableEq, Repr

def Inside (bound : Nat) (access : Access) : Prop := ∀ i < access.size, access.address + i < bound

instance (bound : Nat) (access : Access) : Decidable (Inside bound access) := inferInstanceAs (Decidable (∀ i < _, _))

theorem inside_iff {bound address size : Nat} : Inside bound ⟨address, size⟩ ↔ size = 0 ∨ address + size ≤ bound := by
  constructor
  · intro inside
    rcases Nat.eq_zero_or_pos size with none | positive
    · exact .inl none
    · have last : address + (size - 1) < bound := inside (size - 1) (Nat.sub_lt positive Nat.one_pos)
      exact .inr (by omega)
  · intro within i (less : i < size)
    change address + i < bound
    omega

structure Header where
  counterInfo20Supported : Bool
  samplingInterval : UInt32
  numCounters : UInt32
  numTimestamps : UInt32
  payloadStart : Nat
deriving DecidableEq, Repr

section Load
variable (m : Memory)

def readField (address : Nat) : Program Access UInt32 := do
  record ⟨address, 4⟩
  pure (u32 m address)

def readVersion (address : Nat) : Program Access Int := do
  record ⟨address, 2⟩
  pure (signed16 (m.uint address 2))

-- `version_major > 1 || (version_major == 1 && version_minor >= minor)`
def addedIn1 (minor : Int) : Program Access Bool := do
  let major ← readVersion m 6
  if major = 1 then
    let versionMinor ← readVersion m 4
    pure (decide (minor ≤ versionMinor))
  else pure (decide (1 < major))

def readHeader : Program Access Header := do
  let major ← readVersion m 6
  if 2 ≤ major then
    let samplingInterval ← readField m 36
    let preambleSize ← readField m 20
    let numCounters ← readField m 28
    let numTimestamps ← readField m 24
    pure ⟨true, samplingInterval, numCounters, numTimestamps, preambleSize.toNat⟩
  else
    let counterInfo12Supported ← addedIn1 m 2
    if counterInfo12Supported then
      let numTimestamps ← readField m 20
      let numCounters ← readField m 24
      let samplingInterval13Supported ← addedIn1 m 3
      if samplingInterval13Supported then
        let samplingInterval ← readField m 28
        pure ⟨false, samplingInterval, numCounters, numTimestamps, sizeofSpmDbV1⟩
      else pure ⟨false, 4096, numCounters, numTimestamps, sizeofSpmDbV1 - 4⟩
    else answer none

def copySamples (src dataSize copied count : Nat) : Program Access (List UInt32) := do
  record ⟨src, copied⟩
  pure (copiedSamples m src dataSize copied count)

-- The switch over the size of a sample.
def addCounterV2 (payloadStart numTimestamps info : Nat) (sampleDataOffset dataSize : UInt32) : Program Access RawSpmCounter :=
  if dataSize = 2 ∨ dataSize = 4 then do
    let samples ← copySamples m (payloadStart + sampleDataOffset.toNat) dataSize.toNat (uint32 (dataSize.toNat * numTimestamps)) numTimestamps
    let gpuBlockId ← readField m info
    let gpuBlockInstance ← readField m (info + 4)
    let eventIndex ← readField m (info + 8)
    pure ⟨gpuBlockId, gpuBlockInstance, eventIndex, samples⟩
  else answer none

def readCounterV2 (payloadStart numTimestamps i : Nat) : Program Access RawSpmCounter := do
  let info := payloadStart + numTimestamps * 8 + 20 * i
  let sampleDataOffset ← readField m (info + 12)
  let dataSize ← readField m (info + 16)
  addCounterV2 m payloadStart numTimestamps info sampleDataOffset dataSize

def readCounterV12 (payloadStart numTimestamps i : Nat) : Program Access RawSpmCounter := do
  let info := payloadStart + numTimestamps * 8 + 16 * i
  let sampleDataOffset ← readField m (info + 8)
  let samples ← copySamples m (payloadStart + sampleDataOffset.toNat) 2 (2 * numTimestamps) numTimestamps
  let gpuBlockId ← readField m info
  let gpuBlockInstance ← readField m (info + 4)
  let eventIndex ← readField m (info + 12)
  pure ⟨gpuBlockId, gpuBlockInstance, eventIndex, samples⟩

def readCounters (readCounter : Nat → Program Access RawSpmCounter) : Nat → Nat → Program Access (List RawSpmCounter)
  | _, 0 => pure []
  | i, remaining + 1 => do
      let counter ← readCounter i
      let later ← readCounters readCounter (i + 1) remaining
      pure (counter :: later)

-- `LoadRawSpmLegacy` with all that it reads of the memory.
def load : Program Access (SpmTiming × List RawSpmCounter) := do
  let header ← readHeader m
  let numTimestamps := header.numTimestamps.toNat
  record ⟨header.payloadStart, numTimestamps * 8⟩
  let readCounter := if header.counterInfo20Supported then readCounterV2 m else readCounterV12 m
  let counters ← readCounters (readCounter header.payloadStart numTimestamps) 0 header.numCounters.toNat
  pure (⟨header.samplingInterval, readTimestamps m header.payloadStart numTimestamps⟩, counters)

end Load

section Fields
variable (m : Memory)

-- What the members that are read of the chunk's own structure reach to.
def headerEnd : Nat :=
  if 2 ≤ versionMajor m then sizeofSpmDb
  else if counterInfo12Supported m then (if samplingInterval13Supported m then sizeofSpmDbV1 else sizeofSpmDbV1 - 4)
  else 8

def loadedHeader : Option Header :=
  if 2 ≤ versionMajor m then
    some ⟨true, samplingIntervalV2 m, numberOfSpmCounterInfoV2 m, numberOfTimestampsV2 m, (preambleSize m).toNat⟩
  else if counterInfo12Supported m then
    if samplingInterval13Supported m then
      some ⟨false, samplingIntervalV1 m, numberOfSpmCounterInfoV1 m, numberOfTimestampsV1 m, sizeofSpmDbV1⟩
    else some ⟨false, 4096, numberOfSpmCounterInfoV1 m, numberOfTimestampsV1 m, sizeofSpmDbV1 - 4⟩
  else none

namespace Header
variable (header : Header)

def infos : Nat := header.payloadStart + header.numTimestamps.toNat * 8

def infoSize : Nat := if header.counterInfo20Supported then 20 else 16

def counterInfo (i : Nat) : SpmCounterInfo :=
  if header.counterInfo20Supported then counterInfoV2 m header.infos i else counterInfoV12 m header.infos i

def Accepted (i : Nat) : Prop := (header.counterInfo m i).dataSize = 2 ∨ (header.counterInfo m i).dataSize = 4

-- Where the record says that the samples are.
def samplesStart (i : Nat) : Nat := header.payloadStart + (header.counterInfo m i).dataOffset.toNat

def samplesSize (i : Nat) : Nat := (header.counterInfo m i).dataSize.toNat * header.numTimestamps.toNat

def samples (i : Nat) : List UInt32 :=
  (List.range header.numTimestamps.toNat).map fun t =>
    UInt32.ofNat (m.uint (header.samplesStart m i + (header.counterInfo m i).dataSize.toNat * t) (header.counterInfo m i).dataSize.toNat)

def counter (i : Nat) : RawSpmCounter :=
  ⟨(header.counterInfo m i).gpuBlockId, (header.counterInfo m i).gpuBlockInstance, (header.counterInfo m i).eventIndex, header.samples m i⟩

end Header

end Fields

section Fits
variable (bound : Nat) (m : Memory)

namespace Header
variable (header : Header)

def RecordFits (i : Nat) : Prop := header.infos + header.infoSize * i + header.infoSize ≤ bound

def SamplesFit (i : Nat) : Prop := header.numTimestamps.toNat = 0 ∨ header.samplesStart m i + header.samplesSize m i ≤ bound

-- The loader stops at the first record that it does not accept.
structure PayloadFits : Prop where
  timestamps : header.numTimestamps.toNat = 0 ∨ header.infos ≤ bound
  counters : ∀ i < header.numCounters.toNat, (∀ k < i, header.Accepted m k) →
    header.RecordFits bound i ∧ (header.Accepted m i → header.SamplesFit bound m i)

end Header

structure Fits : Prop where
  header : headerEnd m ≤ bound
  payload : ∀ header, loadedHeader m = some header → header.PayloadFits bound m

end Fits

section Needs
variable {bound : Nat} {m : Memory}

theorem read_field_needs (address : Nat) : Needs (readField m address) (Inside bound) (some (u32 m address)) (address + 4 ≤ bound) :=
  needs_congr (needs_bind (needs_record _) (needs_pure _)) (by simp [inside_iff])

theorem read_version_needs (address : Nat) :
    Needs (readVersion m address) (Inside bound) (some (signed16 (m.uint address 2))) (address + 2 ≤ bound) :=
  needs_congr (needs_bind (needs_record _) (needs_pure _)) (by simp [inside_iff])

theorem added_in_1_needs (minor : Int) : Needs (addedIn1 m minor) (Inside bound)
    (some (decide (1 < versionMajor m) || (decide (versionMajor m = 1) && decide (minor ≤ versionMinor m)))) (8 ≤ bound) := by
  by_cases first : versionMajor m = 1
  · have read : Needs (addedIn1 m minor) (Inside bound) (some (decide (minor ≤ versionMinor m)))
        (6 + 2 ≤ bound ∧ 4 + 2 ≤ bound ∧ True) := by
      refine needs_bind (read_version_needs 6) ?_
      change Needs (if versionMajor m = 1 then _ else _) _ _ _
      rw [if_pos first]
      exact needs_bind (read_version_needs 4) (needs_pure _)
    have bounds : 6 + 2 ≤ bound ∧ 4 + 2 ≤ bound ∧ True ↔ 8 ≤ bound := by simp only [and_true]; omega
    simpa [first] using needs_congr read bounds
  · have read : Needs (addedIn1 m minor) (Inside bound) (some (decide (1 < versionMajor m))) (6 + 2 ≤ bound ∧ True) := by
      refine needs_bind (read_version_needs 6) ?_
      change Needs (if versionMajor m = 1 then _ else _) _ _ _
      rw [if_neg first]
      exact needs_pure _
    simpa [first] using needs_congr read (Iff.of_eq (and_true _))

theorem read_header_v2_needs (second : 2 ≤ versionMajor m) :
    Needs (readHeader m) (Inside bound) (loadedHeader m) (headerEnd m ≤ bound) := by
  rw [loadedHeader, if_pos second, headerEnd, if_pos second]
  have bounds : 6 + 2 ≤ bound ∧ 36 + 4 ≤ bound ∧ 20 + 4 ≤ bound ∧ 28 + 4 ≤ bound ∧ 24 + 4 ≤ bound ∧ True ↔ sizeofSpmDb ≤ bound := by
    rw [sizeofSpmDb, and_true]
    omega
  refine needs_congr (needs_bind (read_version_needs 6) ?_) bounds
  change Needs (if 2 ≤ versionMajor m then _ else _) _ _ _
  rw [if_pos second]
  exact needs_bind (read_field_needs 36) (needs_bind (read_field_needs 20) (needs_bind (read_field_needs 28)
    (needs_bind (read_field_needs 24) (needs_pure _))))

-- What a header of version 1 is read by before its sampling interval is looked for.
theorem counted_header_needs (first : ¬ 2 ≤ versionMajor m) (indexed : counterInfo12Supported m = true) {value : Option Header}
    {rest : Prop}
    (later : Needs (if samplingInterval13Supported m = true then
        readField m 28 >>= fun samplingInterval => pure ⟨false, samplingInterval, u32 m 24, u32 m 20, sizeofSpmDbV1⟩
      else pure ⟨false, 4096, u32 m 24, u32 m 20, sizeofSpmDbV1 - 4⟩) (Inside bound) value rest) :
    Needs (readHeader m) (Inside bound) value
      (6 + 2 ≤ bound ∧ 8 ≤ bound ∧ 20 + 4 ≤ bound ∧ 24 + 4 ≤ bound ∧ 8 ≤ bound ∧ rest) := by
  have known : Needs (addedIn1 m 2) (Inside bound) (some (counterInfo12Supported m)) (8 ≤ bound) := added_in_1_needs 2
  refine needs_bind (read_version_needs 6) ?_
  change Needs (if 2 ≤ versionMajor m then _ else _) _ _ _
  rw [if_neg first]
  refine needs_bind known ?_
  rw [if_pos indexed]
  exact needs_bind (read_field_needs 20) (needs_bind (read_field_needs 24) (needs_bind (added_in_1_needs 3) later))

theorem read_header_v1_needs (first : ¬ 2 ≤ versionMajor m) :
    Needs (readHeader m) (Inside bound) (loadedHeader m) (headerEnd m ≤ bound) := by
  rw [loadedHeader, if_neg first, headerEnd, if_neg first]
  by_cases indexed : counterInfo12Supported m = true
  · rw [if_pos indexed, if_pos indexed]
    by_cases sampled : samplingInterval13Supported m = true
    · rw [if_pos sampled, if_pos sampled]
      have bounds : 6 + 2 ≤ bound ∧ 8 ≤ bound ∧ 20 + 4 ≤ bound ∧ 24 + 4 ≤ bound ∧ 8 ≤ bound ∧ 28 + 4 ≤ bound ∧ True ↔
          sizeofSpmDbV1 ≤ bound := by
        rw [sizeofSpmDbV1, and_true]
        omega
      refine needs_congr (counted_header_needs first indexed ?_) bounds
      rw [if_pos sampled]
      exact needs_bind (read_field_needs 28) (needs_pure _)
    · rw [if_neg sampled, if_neg sampled]
      have bounds : 6 + 2 ≤ bound ∧ 8 ≤ bound ∧ 20 + 4 ≤ bound ∧ 24 + 4 ≤ bound ∧ 8 ≤ bound ∧ True ↔ sizeofSpmDbV1 - 4 ≤ bound := by
        rw [sizeofSpmDbV1, and_true]
        omega
      refine needs_congr (counted_header_needs first indexed ?_) bounds
      rw [if_neg sampled]
      exact needs_pure _
  · rw [if_neg indexed, if_neg indexed]
    have known : Needs (addedIn1 m 2) (Inside bound) (some (counterInfo12Supported m)) (8 ≤ bound) := added_in_1_needs 2
    have bounds : 6 + 2 ≤ bound ∧ 8 ≤ bound ∧ True ↔ 8 ≤ bound := by
      rw [and_true]
      omega
    refine needs_congr (needs_bind (read_version_needs 6) ?_) bounds
    change Needs (if 2 ≤ versionMajor m then _ else _) _ _ _
    rw [if_neg first]
    refine needs_bind known ?_
    rw [if_neg indexed]
    exact needs_answer none

theorem read_header_needs : Needs (readHeader m) (Inside bound) (loadedHeader m) (headerEnd m ≤ bound) := by
  by_cases second : 2 ≤ versionMajor m
  · exact read_header_v2_needs second
  · exact read_header_v1_needs second

theorem copy_samples_needs (src dataSize copied count : Nat) :
    Needs (copySamples m src dataSize copied count) (Inside bound) (some (copiedSamples m src dataSize copied count))
      (copied = 0 ∨ src + copied ≤ bound) :=
  needs_congr (needs_bind (needs_record _) (needs_pure _)) (by rw [inside_iff, and_true])

theorem add_counter_v2_needs (payloadStart numTimestamps info : Nat) (sampleDataOffset dataSize : UInt32) :
    Needs (addCounterV2 m payloadStart numTimestamps info sampleDataOffset dataSize) (Inside bound)
      (if dataSize = 2 ∨ dataSize = 4 then
        some ⟨u32 m info, u32 m (info + 4), u32 m (info + 8), copiedSamples m (payloadStart + sampleDataOffset.toNat) dataSize.toNat
          (uint32 (dataSize.toNat * numTimestamps)) numTimestamps⟩
      else none)
      (dataSize = 2 ∨ dataSize = 4 → info + 12 ≤ bound ∧ (uint32 (dataSize.toNat * numTimestamps) = 0 ∨
        payloadStart + sampleDataOffset.toNat + uint32 (dataSize.toNat * numTimestamps) ≤ bound)) := by
  by_cases accepted : dataSize = 2 ∨ dataSize = 4
  · rw [addCounterV2, if_pos accepted, if_pos accepted]
    refine needs_congr (needs_bind (copy_samples_needs ..) (needs_bind (read_field_needs _) (needs_bind (read_field_needs _)
      (needs_bind (read_field_needs _) (needs_pure _))))) ?_
    simp only [accepted, forall_const, and_true]
    omega
  · rw [addCounterV2, if_neg accepted, if_neg accepted]
    exact needs_congr (needs_answer none) (by simp only [accepted, false_implies])

theorem read_counter_v2_needs (payloadStart numTimestamps i : Nat) (info : SpmCounterInfo)
    (read : counterInfoV2 m (payloadStart + numTimestamps * 8) i = info) :
    Needs (readCounterV2 m payloadStart numTimestamps i) (Inside bound) (loadCounterV2 m payloadStart numTimestamps i)
      (payloadStart + numTimestamps * 8 + 20 * i + 20 ≤ bound ∧ (info.dataSize = 2 ∨ info.dataSize = 4 →
        uint32 (info.dataSize.toNat * numTimestamps) = 0 ∨
          payloadStart + info.dataOffset.toNat + uint32 (info.dataSize.toNat * numTimestamps) ≤ bound)) := by
  subst read
  refine needs_congr (needs_bind (read_field_needs _) (needs_bind (read_field_needs _) (add_counter_v2_needs ..))) ?_
  constructor
  · rintro ⟨_, within, rest⟩
    exact ⟨within, fun accepted => (rest accepted).2⟩
  · rintro ⟨within, rest⟩
    exact ⟨by omega, within, fun accepted => ⟨by omega, rest accepted⟩⟩

theorem read_counter_v12_needs (payloadStart numTimestamps i : Nat) (info : SpmCounterInfo)
    (read : counterInfoV12 m (payloadStart + numTimestamps * 8) i = info) :
    Needs (readCounterV12 m payloadStart numTimestamps i) (Inside bound) (some (loadCounterV12 m payloadStart numTimestamps i))
      (payloadStart + numTimestamps * 8 + 16 * i + 16 ≤ bound ∧
        (2 * numTimestamps = 0 ∨ payloadStart + info.dataOffset.toNat + 2 * numTimestamps ≤ bound)) := by
  subst read
  refine needs_congr (needs_bind (read_field_needs _) (needs_bind (copy_samples_needs ..) (needs_bind (read_field_needs _)
    (needs_bind (read_field_needs _) (needs_bind (read_field_needs _) (needs_pure _)))))) ?_
  constructor
  · rintro ⟨_, samples, _, _, within, _⟩
    exact ⟨within, samples⟩
  · rintro ⟨within, samples⟩
    exact ⟨by omega, samples, by omega, by omega, within, trivial⟩

-- The records are read one after another until one is not accepted.
theorem read_counters_needs {readCounter : Nat → Program Access RawSpmCounter} {value : Nat → Option RawSpmCounter}
    {condition : Nat → Prop} (each : ∀ i, Needs (readCounter i) (Inside bound) (value i) (condition i)) (i remaining : Nat) :
    Needs (readCounters readCounter i remaining) (Inside bound) ((List.range' i remaining).mapM value)
      (∀ k, i ≤ k → k < i + remaining → (∀ before, i ≤ before → before < k → (value before).isSome) → condition k) := by
  induction remaining generalizing i with
  | zero => exact needs_congr (needs_pure []) (by simp; omega)
  | succ remaining ih =>
      rw [List.range'_succ, List.mapM_cons]
      cases known : value i with
      | none =>
          refine needs_congr (needs_bind_failed _ (known ▸ each i)) ⟨fun here k low high before => ?_, fun all => ?_⟩
          · rcases Nat.lt_or_eq_of_le low with later | rfl
            · exact absurd (before i (Nat.le_refl i) later) (by rw [known]; exact Bool.false_ne_true)
            · exact here
          · exact all i (Nat.le_refl i) (by omega) fun before low high => absurd low (by omega)
      | some counter =>
          have rest := needs_map (counter :: ·) (ih (i + 1))
          have mapped : ((List.range' (i + 1) remaining).mapM value).map (counter :: ·) =
              (some counter).bind fun item => ((List.range' (i + 1) remaining).mapM value).bind fun later => some (item :: later) := by
            rw [Option.bind_some, Option.map_eq_bind]
            rfl
          rw [mapped] at rest
          refine needs_congr (needs_bind (known ▸ each i) rest) ⟨fun both k low high before => ?_, fun all => ⟨?_, ?_⟩⟩
          · rcases Nat.lt_or_eq_of_le low with later | rfl
            · exact both.2 k later (by omega) fun other low => before other (by omega)
            · exact both.1
          · exact all i (Nat.le_refl i) (by omega) fun before low high => absurd low (by omega)
          · intro k low high before
            refine all k (by omega) (by omega) fun other from' less => ?_
            rcases Nat.lt_or_eq_of_le from' with later | rfl
            · exact before other later less
            · rw [known]
              rfl

end Needs

section Loaded
variable {m : Memory} {bound : Nat} {header : Header}

def Header.loadCounter (m : Memory) (header : Header) (i : Nat) : Option RawSpmCounter :=
  if header.counterInfo20Supported then loadCounterV2 m header.payloadStart header.numTimestamps.toNat i
  else some (loadCounterV12 m header.payloadStart header.numTimestamps.toNat i)

-- The number of bytes that are copied: in version 2 the product has 32 bits.
def Header.copied (m : Memory) (header : Header) (i : Nat) : Nat :=
  if header.counterInfo20Supported then uint32 (header.samplesSize m i) else header.samplesSize m i

def Header.readCounter (m : Memory) (header : Header) : Nat → Program Access RawSpmCounter :=
  (if header.counterInfo20Supported then readCounterV2 m else readCounterV12 m) header.payloadStart header.numTimestamps.toNat

def Header.CopyFits (bound : Nat) (m : Memory) (header : Header) (i : Nat) : Prop :=
  header.RecordFits bound i ∧ (header.Accepted m i → header.copied m i = 0 ∨ header.samplesStart m i + header.copied m i ≤ bound)

theorem read_counter_needs (i : Nat) : Needs (header.readCounter m i) (Inside bound) (header.loadCounter m i)
    (header.CopyFits bound m i) := by
  rw [Header.CopyFits]
  by_cases second : header.counterInfo20Supported = true
  · have needs := @read_counter_v2_needs bound m header.payloadStart header.numTimestamps.toNat i _ rfl
    simpa only [Header.readCounter, Header.loadCounter, Header.RecordFits, Header.Accepted, Header.copied, Header.samplesStart,
      Header.samplesSize, Header.counterInfo, Header.infos, Header.infoSize, if_pos second] using needs
  · have needs := @read_counter_v12_needs bound m header.payloadStart header.numTimestamps.toNat i _ rfl
    have two : ∀ infos, (counterInfoV12 m infos i).dataSize = 2 := fun _ => rfl
    have width : (2 : UInt32).toNat = 2 := rfl
    simpa [width, Header.readCounter, Header.loadCounter, Header.RecordFits, Header.Accepted, Header.copied, Header.samplesStart,
      Header.samplesSize, Header.counterInfo, Header.infos, Header.infoSize, second, two] using needs

theorem load_counter_accepted (i : Nat) : (header.loadCounter m i).isSome ↔ header.Accepted m i := by
  by_cases second : header.counterInfo20Supported = true
  · simp only [Header.loadCounter, loadCounterV2, Header.Accepted, Header.counterInfo, Header.infos, if_pos second]
    split <;> simp_all
  · simp [Header.loadCounter, Header.Accepted, Header.counterInfo, second, counterInfoV12]

theorem load_legacy_header : loadRawSpmLegacy m = (loadedHeader m).bind fun header =>
    ((List.range header.numCounters.toNat).mapM (header.loadCounter m)).map fun counters =>
      (⟨header.samplingInterval, readTimestamps m header.payloadStart header.numTimestamps.toNat⟩, counters) := by
  have one : ∀ (f : Nat → RawSpmCounter) (n : Nat), (List.range n).mapM (fun i => some (f i)) = some ((List.range n).map f) :=
    fun f n => (map_m_some _ _ _).mpr (by rw [List.map_map]; rfl)
  by_cases second : 2 ≤ versionMajor m
  · rw [loadRawSpmLegacy, if_pos second, loadedHeader, if_pos second, Option.bind_some, Option.map_eq_bind]
    rfl
  · rw [loadRawSpmLegacy, if_neg second, loadedHeader, if_neg second]
    by_cases indexed : counterInfo12Supported m = true
    · rw [if_pos indexed, if_pos indexed]
      by_cases sampled : samplingInterval13Supported m = true
      · simp only [if_pos sampled, Option.bind_some]
        exact (congrArg (Option.map _) (one ..)).symm
      · simp only [if_neg sampled, Option.bind_some]
        exact (congrArg (Option.map _) (one ..)).symm
    · rw [if_neg indexed, if_neg indexed]
      rfl

theorem load_needs : Needs (load m) (Inside bound) (loadRawSpmLegacy m) (headerEnd m ≤ bound ∧
    ∀ header, loadedHeader m = some header → (header.numTimestamps.toNat = 0 ∨ header.infos ≤ bound) ∧
      ∀ k < header.numCounters.toNat, (∀ before < k, header.Accepted m before) → header.CopyFits bound m k) := by
  rw [load_legacy_header]
  cases known : loadedHeader m with
  | none =>
      have refused : Needs (readHeader m) (Inside bound) none (headerEnd m ≤ bound) := known ▸ read_header_needs
      exact needs_congr (needs_bind_failed _ refused) (by simp)
  | some header =>
      have timestamps : Inside bound ⟨header.payloadStart, header.numTimestamps.toNat * 8⟩ ↔
          header.numTimestamps.toNat = 0 ∨ header.infos ≤ bound := by
        rw [inside_iff, Header.infos]
        omega
      have each := read_counters_needs (@read_counter_needs m bound header) 0 header.numCounters.toNat
      have counters := needs_map (fun counters => ((⟨header.samplingInterval,
        readTimestamps m header.payloadStart header.numTimestamps.toNat⟩ : SpmTiming), counters)) each
      rw [← List.range_eq_range'] at counters
      have read : Needs (readHeader m) (Inside bound) (some header) (headerEnd m ≤ bound) := known ▸ read_header_needs
      have all : Needs (load m) (Inside bound) _ _ := needs_bind read (needs_bind (needs_record _) counters)
      refine needs_congr all ?_
      simp only [timestamps, load_counter_accepted, Nat.zero_le, Nat.zero_add, true_implies, Option.some.injEq, forall_eq']

end Loaded

section Claim
variable {m : Memory} {bound : Nat} {header : Header}

-- A chunk that has room for its timestamps is too short for the product to leave the 32 bits.
theorem copied_whole (small : bound < 2 ^ 31) (timestamps : header.numTimestamps.toNat = 0 ∨ header.infos ≤ bound) (i : Nat)
    (accepted : header.Accepted m i) : header.copied m i = header.samplesSize m i := by
  have width : (header.counterInfo m i).dataSize.toNat ≤ 4 := by
    rcases accepted with two | four
    · rw [two]; decide
    · rw [four]; decide
  have few : header.numTimestamps.toNat * 8 < 2 ^ 31 := by
    rw [Header.infos] at timestamps
    omega
  have product : header.samplesSize m i ≤ 4 * header.numTimestamps.toNat := Nat.mul_le_mul_right _ width
  rw [Header.copied]
  split
  · exact Nat.mod_eq_of_lt (by omega)
  · rfl

theorem copy_fits_iff (small : bound < 2 ^ 31) (timestamps : header.numTimestamps.toNat = 0 ∨ header.infos ≤ bound) (i : Nat) :
    header.CopyFits bound m i ↔ header.RecordFits bound i ∧ (header.Accepted m i → header.SamplesFit bound m i) := by
  refine and_congr_right fun _ => forall_congr' fun accepted => ?_
  rw [copied_whole small timestamps i accepted, Header.SamplesFit, Header.samplesSize, Nat.mul_eq_zero]
  have positive : (header.counterInfo m i).dataSize.toNat ≠ 0 := by
    rcases accepted with two | four
    · rw [two]; decide
    · rw [four]; decide
  simp only [positive, false_or]

theorem load_inside_iff (small : bound < 2 ^ 31) : (∀ access ∈ (load m []).2, Inside bound access) ↔ Fits bound m := by
  rw [load_needs.records []]
  have payload : ∀ header : Header, ((header.numTimestamps.toNat = 0 ∨ header.infos ≤ bound) ∧
      ∀ k < header.numCounters.toNat, (∀ before < k, header.Accepted m before) → header.CopyFits bound m k) ↔
        header.PayloadFits bound m := by
    intro header
    constructor
    · rintro ⟨timestamps, counters⟩
      exact ⟨timestamps, fun i less before => (copy_fits_iff small timestamps i).mp (counters i less before)⟩
    · intro fits
      exact ⟨fits.timestamps, fun i less before => (copy_fits_iff small fits.timestamps i).mpr (fits.counters i less before)⟩
  simp only [payload, List.not_mem_nil, false_implies, implies_true, and_true]
  exact ⟨fun ⟨header, payload⟩ => ⟨header, payload⟩, fun fits => ⟨fits.header, fits.payload⟩⟩

theorem copied_samples_whole (src width count : Nat) : copiedSamples m src width (width * count) count =
    (List.range count).map fun t => UInt32.ofNat (m.uint (src + width * t) width) := by
  refine List.map_congr_left fun t member => if_pos ?_
  rw [← Nat.mul_succ]
  exact Nat.mul_le_mul_left width (List.mem_range.mp member)

theorem load_counter_whole (i : Nat) (counter : RawSpmCounter) (loaded : header.loadCounter m i = some counter)
    (whole : header.copied m i = header.samplesSize m i) : counter = header.counter m i := by
  by_cases second : header.counterInfo20Supported = true
  · simp only [Header.loadCounter, if_pos second, loadCounterV2] at loaded
    obtain ⟨_, same⟩ := Option.ite_none_right_eq_some.mp loaded
    simp only [Header.copied, if_pos second, Header.samplesSize, Header.counterInfo, Header.infos] at whole
    rw [← Option.some.inj same, whole, copied_samples_whole]
    simp only [Header.counter, Header.samples, Header.samplesStart, Header.counterInfo, Header.infos, if_pos second]
  · simp only [Header.loadCounter, if_neg second, loadCounterV12, Option.some.injEq] at loaded
    rw [← loaded, copied_samples_whole]
    simp only [Header.counter, Header.samples, Header.samplesStart, Header.counterInfo, Header.infos, if_neg second]
    rfl

-- The loader reads the chunk only, and what it gives has every record with the samples
-- that stand where the record says.
structure LoadsInside (chunk : SpmChunk) (beyond : Memory) : Prop where
  inside : ∀ access ∈ (load (chunk.memory beyond) []).2, Inside chunk.bytes.length access
  complete : ∀ timing counters, (load (chunk.memory beyond) []).1 = some (timing, counters) →
    ∃ header, loadedHeader (chunk.memory beyond) = some header ∧
      counters = (List.range header.numCounters.toNat).map (header.counter (chunk.memory beyond))

theorem legacy_load_inside_iff (chunk : SpmChunk) (beyond : Memory) :
    LoadsInside chunk beyond ↔ Fits chunk.bytes.length (chunk.memory beyond) := by
  refine ⟨fun loads => (load_inside_iff chunk.sized).mp loads.inside, fun fits => ⟨(load_inside_iff chunk.sized).mpr fits, ?_⟩⟩
  intro timing counters loaded
  rw [(@load_needs _ 0).gives, load_legacy_header] at loaded
  obtain ⟨header, known, loaded⟩ := Option.bind_eq_some_iff.mp loaded
  obtain ⟨all, loaded, same⟩ := Option.map_eq_some_iff.mp loaded
  refine ⟨header, known, ?_⟩
  rw [← (Prod.mk.inj same).2]
  refine List.ext_getElem? fun i => ?_
  by_cases less : i < header.numCounters.toNat
  · obtain ⟨counter, there, given⟩ := map_m_at loaded less
    have accepted : header.Accepted (chunk.memory beyond) i := (load_counter_accepted i).mp (by rw [given]; rfl)
    have whole := copied_whole chunk.sized (fits.payload header known).timestamps i accepted
    rw [there, load_counter_whole i counter given whole]
    simp [less]
  · rw [List.getElem?_eq_none (by rw [map_m_length loaded]; omega), List.getElem?_eq_none (by simp; omega)]

-- Version 2.0 with all members, one timestamp and nothing behind them.
def noPayload : SpmChunk where
  bytes := List.replicate 6 0 ++ [2, 0] ++ List.replicate 12 0 ++ [40, 0, 0, 0, 1, 0, 0, 0] ++ List.replicate 12 0
  sized := by decide

theorem no_payload_read_outside : ¬ LoadsInside noPayload fun _ => 0 := by
  intro loads
  have read : (⟨40, 8⟩ : Access) ∈ (load (noPayload.memory fun _ => 0) []).2 := by decide
  exact absurd (loads.inside _ read) (by decide)

end Claim

end RadeonPanel.Spm.LegacyLoad

import Mathlib.Algebra.GroupWithZero.Nat
import RadeonPanel.Base.Memory
import RadeonPanel.Spm.Append
import RadeonPanel.Spm.RawSpm

set_option autoImplicit false

namespace RadeonPanel.Spm

open Bytes

def signed16 (n : Nat) : Int := if n < 32768 then n else n - 65536

def u32 (m : Memory) (address : Nat) : UInt32 := UInt32.ofNat (m.uint address 4)

section Chunk
variable (chunk : Memory)

def sizeofSpmDb : Nat := 40
def sizeofSpmDbV1 : Nat := 32

def versionMinor : Int := signed16 (chunk.uint 4 2)
def versionMajor : Int := signed16 (chunk.uint 6 2)

-- The members of `RgpFileChunkSpmDbV1` and of `RgpFileChunkSpmDb`.
def numberOfTimestampsV1 : UInt32 := u32 chunk 20
def numberOfSpmCounterInfoV1 : UInt32 := u32 chunk 24
def samplingIntervalV1 : UInt32 := u32 chunk 28
def preambleSize : UInt32 := u32 chunk 20
def numberOfTimestampsV2 : UInt32 := u32 chunk 24
def numberOfSpmCounterInfoV2 : UInt32 := u32 chunk 28
def spmCounterInfoSize : UInt32 := u32 chunk 32
def samplingIntervalV2 : UInt32 := u32 chunk 36

def samplingInterval13Supported : Bool := decide (1 < versionMajor chunk) || (decide (versionMajor chunk = 1) && decide (3 ≤ versionMinor chunk))
def counterInfo12Supported : Bool := decide (1 < versionMajor chunk) || (decide (versionMajor chunk = 1) && decide (2 ≤ versionMinor chunk))

-- The records at `infos`. A sample of version 1 has two bytes.
def counterInfoV2 (infos i : Nat) : SpmCounterInfo :=
  let info := infos + 20 * i
  ⟨u32 chunk info, u32 chunk (info + 4), u32 chunk (info + 8), u32 chunk (info + 12), u32 chunk (info + 16)⟩

def counterInfoV12 (infos i : Nat) : SpmCounterInfo :=
  let info := infos + 16 * i
  ⟨u32 chunk info, u32 chunk (info + 4), u32 chunk (info + 12), u32 chunk (info + 8), 2⟩

def counterInfoV1 (infos i : Nat) : SpmCounterInfo :=
  let info := infos + 12 * i
  ⟨u32 chunk info, u32 chunk (info + 4), 0, u32 chunk (info + 8), 2⟩

def readTimestamps (src count : Nat) : List UInt64 := (List.range count).map fun i => UInt64.ofNat (chunk.uint (src + 8 * i) 8)

-- The words of a buffer that `size` bytes have been copied to.
def words (src size : Nat) : List UInt16 := (List.range (size / 2)).map fun i => UInt16.ofNat (chunk.uint (src + 2 * i) 2)

end Chunk

-- Patches the offset of a counter: it counts from the timestamps on.
def patched (offset : Nat) (info : SpmCounterInfo) : SpmCounterInfo := { info with dataOffset := info.dataOffset - UInt32.ofNat offset }

namespace RawSpmDb
variable (chunk : Memory)

section V2

def timestampsV2 : Nat := (preambleSize chunk).toNat
def timestampBytesV2 : Nat := (numberOfTimestampsV2 chunk).toNat * 8

-- The product of two 32-bit numbers.
def counterInfoBufferSize : Nat := (numberOfSpmCounterInfoV2 chunk * spmCounterInfoSize chunk).toNat

def infosV2 : List SpmCounterInfo :=
  (List.range (numberOfSpmCounterInfoV2 chunk).toNat).map (counterInfoV2 chunk (timestampsV2 chunk + timestampBytesV2 chunk))

def sizeOfCounterDataV2 : Nat :=
  (numberOfTimestampsV2 chunk).toNat * ((infosV2 chunk).map fun info => info.dataSize.toNat).sum

def offsetV2 : Nat := timestampBytesV2 chunk + counterInfoBufferSize chunk

def loadedV2 : RawSpmDb where
  format := .v2_0
  samplingInterval := samplingIntervalV2 chunk
  numberOfTimestamps := numberOfTimestampsV2 chunk
  timestamps := readTimestamps chunk (timestampsV2 chunk) (numberOfTimestampsV2 chunk).toNat
  spmCounterInfo := (infosV2 chunk).map (patched (offsetV2 chunk))
  counterOffsets := []
  counterData := words chunk (timestampsV2 chunk + offsetV2 chunk) (sizeOfCounterDataV2 chunk)
  timestamped := by simp [readTimestamps]
  offsetsKept := by simp

end V2

section V1

def timestampsV1 : Nat := if samplingInterval13Supported chunk then sizeofSpmDbV1 else sizeofSpmDbV1 - 4
def timestampBytesV1 : Nat := (numberOfTimestampsV1 chunk).toNat * 8
def counterInfoSizeV1 : Nat := if counterInfo12Supported chunk then 16 else 12

def infosV1 : List SpmCounterInfo :=
  (List.range (numberOfSpmCounterInfoV1 chunk).toNat).map
    ((if counterInfo12Supported chunk then counterInfoV12 chunk else counterInfoV1 chunk) (timestampsV1 chunk + timestampBytesV1 chunk))

def sizeOfCounterDataV1 : Nat := (numberOfTimestampsV1 chunk).toNat * (numberOfSpmCounterInfoV1 chunk).toNat * 2

def offsetV1 : Nat := timestampBytesV1 chunk + (numberOfSpmCounterInfoV1 chunk).toNat * counterInfoSizeV1 chunk

def loadedV1 : RawSpmDb where
  format := if counterInfo12Supported chunk then .v1_2 else .low
  samplingInterval := if samplingInterval13Supported chunk then samplingIntervalV1 chunk else 4096
  numberOfTimestamps := numberOfTimestampsV1 chunk
  timestamps := readTimestamps chunk (timestampsV1 chunk) (numberOfTimestampsV1 chunk).toNat
  spmCounterInfo := (infosV1 chunk).map (patched (offsetV1 chunk))
  counterOffsets := []
  counterData := words chunk (timestampsV1 chunk + offsetV1 chunk) (sizeOfCounterDataV1 chunk)
  timestamped := by simp [readTimestamps]
  offsetsKept := by split <;> simp

end V1

-- `none` when the counter infos are read outside the buffer they are copied to.
-- The assertion on the first data offset is not there in a release build.
def initializeLegacy : Option (Except RgpErrorCode RawSpmDb) :=
  if 2 ≤ versionMajor chunk then
    if counterInfoBufferSize chunk < 20 * (numberOfSpmCounterInfoV2 chunk).toNat then none
    else if sizeOfCounterDataV2 chunk = 0 then some (.error .malformedData)
    else some (.ok (loadedV2 chunk))
  else some (.ok (loadedV1 chunk))

end RawSpmDb

section Legacy
variable (chunk : Memory)

-- The samples that are not copied stay 0.
def copiedSamples (src dataSize copied count : Nat) : List UInt32 :=
  (List.range count).map fun t =>
    if dataSize * t + dataSize ≤ copied then UInt32.ofNat (chunk.uint (src + dataSize * t) dataSize) else 0

def loadCounterV2 (payloadStart numTimestamps i : Nat) : Option RawSpmCounter :=
  let info := counterInfoV2 chunk (payloadStart + numTimestamps * 8) i
  if info.dataSize = 2 ∨ info.dataSize = 4 then
    some ⟨info.gpuBlockId, info.gpuBlockInstance, info.eventIndex,
      copiedSamples chunk (payloadStart + info.dataOffset.toNat) info.dataSize.toNat
        (uint32 (info.dataSize.toNat * numTimestamps)) numTimestamps⟩
  else none

def loadCounterV12 (payloadStart numTimestamps i : Nat) : RawSpmCounter :=
  let info := counterInfoV12 chunk (payloadStart + numTimestamps * 8) i
  ⟨info.gpuBlockId, info.gpuBlockInstance, info.eventIndex,
    copiedSamples chunk (payloadStart + info.dataOffset.toNat) 2 (2 * numTimestamps) numTimestamps⟩

def loadRawSpmLegacy : Option (SpmTiming × List RawSpmCounter) :=
  if 2 ≤ versionMajor chunk then
    let payloadStart := (preambleSize chunk).toNat
    let numTimestamps := (numberOfTimestampsV2 chunk).toNat
    do
      let counters ← (List.range (numberOfSpmCounterInfoV2 chunk).toNat).mapM (loadCounterV2 chunk payloadStart numTimestamps)
      pure (⟨samplingIntervalV2 chunk, readTimestamps chunk payloadStart numTimestamps⟩, counters)
  else if counterInfo12Supported chunk then
    let numTimestamps := (numberOfTimestampsV1 chunk).toNat
    let samplingInterval := if samplingInterval13Supported chunk then samplingIntervalV1 chunk else 4096
    let payloadStart := if samplingInterval13Supported chunk then sizeofSpmDbV1 else sizeofSpmDbV1 - 4
    some (⟨samplingInterval, readTimestamps chunk payloadStart numTimestamps⟩,
      (List.range (numberOfSpmCounterInfoV1 chunk).toNat).map (loadCounterV12 chunk payloadStart numTimestamps))
  else none

end Legacy

structure SpmSession where
  samplingInterval : UInt32
  numTimestamps : UInt32
  numSpmCounters : UInt32
deriving DecidableEq, Repr

-- What the chunk file answers, with the bytes of its chunks. `none` for a call that fails.
structure SpmRdfFile where
  getChunkCount : String → Option Nat
  getChunkHeaderSize : String → Nat → Option Nat
  getChunkDataSize : String → Nat → Option Nat
  readSessionHeader : Option SpmSession
  readCounterHeader : Nat → Option SpmCounterDataHeader
  readChunkData : String → Nat → Option Memory

def kSpmSessionChunkId : String := "SpmSession"
def kSpmDataChunkId : String := "SpmCounterData"

namespace SpmRdfFile
variable (file : SpmRdfFile)

-- A read leaves zeros in what it does not fill.
def readTimestamps : Option (Nat → UInt64) :=
  (file.readChunkData kSpmSessionChunkId 0).map fun data t =>
    if 8 * t + 8 ≤ (file.getChunkDataSize kSpmSessionChunkId 0).getD 0 then UInt64.ofNat (data.uint (8 * t) 8) else 0

def readCounterData (counterIdx : Nat) : Option (Nat → UInt32) :=
  match file.readCounterHeader counterIdx, file.readChunkData kSpmDataChunkId counterIdx with
  | some header, some data => some fun t =>
      if header.dataSize.toNat * t + header.dataSize.toNat ≤ (file.getChunkDataSize kSpmDataChunkId counterIdx).getD 0 then
        UInt32.ofNat (data.uint (header.dataSize.toNat * t) header.dataSize.toNat)
      else 0
  | _, _ => none

-- The file as the loader of the derived database reads it.
def chunkFile : ChunkFile where
  getChunkCount := file.getChunkCount
  getChunkHeaderSize := fun identifier => file.getChunkHeaderSize identifier 0
  getChunkDataSize := file.getChunkDataSize
  getChunkVersion := fun _ => none
  readAsicInfo := false
  readSessionHeader := file.readSessionHeader.map fun session => ⟨session.samplingInterval, session.numTimestamps⟩
  readTimestamps := file.readTimestamps
  readCounterHeader := file.readCounterHeader
  readCounterData := file.readCounterData

end SpmRdfFile

section Rdf
variable (file : SpmRdfFile)

def sizeofSpmCounterDataHeader : Nat := 20

def readDataHeader (chunkNum : Nat) : Option SpmCounterDataHeader :=
  if file.getChunkHeaderSize kSpmDataChunkId chunkNum = some sizeofSpmCounterDataHeader then
    match file.readCounterHeader chunkNum with
    | some header => if header.dataSize = 0 then none else some header
    | none => none
  else none

-- Copies the chunks one after another to the counter data and gives the offsets in words.
def copyCounterData (sizeOfCounterData : Nat) : Nat → Nat → Nat → Memory → Option (List UInt32 × Memory)
  | 0, _, _, counterData => some ([], counterData)
  | remaining + 1, chunkNum, offset, counterData =>
      match file.getChunkDataSize kSpmDataChunkId chunkNum with
      | none => none
      | some chunkSize =>
          if sizeOfCounterData < chunkSize + offset then none
          else
            match file.readChunkData kSpmDataChunkId chunkNum with
            | none => none
            | some data => do
                let later ← copyCounterData sizeOfCounterData remaining (chunkNum + 1) (offset + chunkSize)
                  (counterData.put offset chunkSize data)
                pure (UInt32.ofNat (offset / 2) :: later.1, later.2)

def rdfCounterInfo (header : SpmCounterDataHeader) : SpmCounterInfo :=
  ⟨header.gpuBlock, header.blockInstance, header.eventIndex, 0, header.dataSize⟩

-- The loops count with a 32-bit signed number.
def loopCount (count : Nat) : Nat := if count < 2 ^ 31 then count else 0

def sizeOfOneTimestamp (headers : List SpmCounterDataHeader) : Nat := (headers.map fun header => header.dataSize.toNat).sum

theorem copy_counter_data_length (size remaining chunkNum offset : Nat) (counterData : Memory) (copied : List UInt32 × Memory)
    (ok : copyCounterData file size remaining chunkNum offset counterData = some copied) : copied.1.length = remaining := by
  induction remaining generalizing chunkNum offset counterData copied with
  | zero => rw [← Option.some.inj ok]; rfl
  | succ remaining ih =>
      simp only [copyCounterData] at ok
      split at ok
      · contradiction
      split at ok
      · contradiction
      split at ok
      · contradiction
      simp only [Option.bind_eq_bind, Option.bind_eq_some_iff, Option.pure_def, Option.some.injEq] at ok
      obtain ⟨later, known, rfl⟩ := ok
      rw [List.length_cons, ih _ _ _ _ known]

def sessionRdf : Option (SpmSession × Memory) :=
  match file.getChunkCount kSpmSessionChunkId with
  | none | some 0 => none
  | some (_ + 1) =>
      if file.getChunkHeaderSize kSpmSessionChunkId 0 = some sizeofSpmSessionHeader then
        match file.readSessionHeader with
        | none => none
        | some session =>
            if file.getChunkDataSize kSpmSessionChunkId 0 = some (session.numTimestamps.toNat * 8) then
              (file.readChunkData kSpmSessionChunkId 0).map fun data => (session, data)
            else none
      else none

def headersRdf (session : SpmSession) : Option (List SpmCounterDataHeader) :=
  if file.getChunkCount kSpmDataChunkId = some session.numSpmCounters.toNat then
    (List.range (loopCount session.numSpmCounters.toNat)).mapM (readDataHeader file)
  else none

-- `fresh` is what stands in the memory that is allocated for the counter data.
def initializeRdf (fresh : Memory) : Except RgpErrorCode RawSpmDb :=
  match sessionRdf file with
  | none => .error .malformedData
  | some (session, timestamps) =>
      match headersRdf file session with
      | none => .error .malformedData
      | some headers =>
          let sizeOfCounterData := session.numTimestamps.toNat * sizeOfOneTimestamp headers
          if sizeOfCounterData = 0 then .error .malformedData
          else
            match copied : copyCounterData file sizeOfCounterData headers.length 0 0 fresh with
            | none => .error .malformedData
            | some loaded => .ok {
                format := .rdf
                samplingInterval := session.samplingInterval
                numberOfTimestamps := session.numTimestamps
                timestamps := readTimestamps timestamps 0 session.numTimestamps.toNat
                spmCounterInfo := headers.map rdfCounterInfo
                counterOffsets := loaded.1
                counterData := words loaded.2 0 sizeOfCounterData
                timestamped := by simp [readTimestamps]
                offsetsKept := fun _ => by
                  rw [copy_counter_data_length file _ _ _ _ _ _ copied, List.length_map] }

end Rdf

end RadeonPanel.Spm

import Mathlib.Algebra.Group.Nat.Defs

set_option autoImplicit false

namespace RadeonPanel.Spm

inductive RgpErrorCode where
  | invalidPointer | malformedData | outOfMemory | indexOutOfRange | unsupportedLowSpecVersion | gpaFailure | aborted
deriving DecidableEq, Repr

-- Which of the flags for a supported counter info the loader has set.
inductive SpmFormat where
  | low | v1_2 | v2_0 | rdf
deriving DecidableEq, Repr

structure SpmCounterInfo where
  gpuBlockId : UInt32
  gpuBlockInstance : UInt32
  eventIndex : UInt32
  dataOffset : UInt32
  dataSize : UInt32
deriving DecidableEq, Repr

structure MappedTimestamp where
  timestamp : UInt64
  timestampIsValid : Bool
deriving DecidableEq, Repr

structure RawSpmDb where
  format : SpmFormat
  samplingInterval : UInt32
  numberOfTimestamps : UInt32
  timestamps : List UInt64
  spmCounterInfo : List SpmCounterInfo
  counterOffsets : List UInt32
  counterData : List UInt16
  timestamped : timestamps.length = numberOfTimestamps.toNat
  offsetsKept : format = .rdf → counterOffsets.length = spmCounterInfo.length

section Words

-- The loop over the further words of a sample, the last one first. A word outside
-- the data is not there; a shift counts modulo the 32 bits of the value.
def addWords (data : List UInt16) (place : Nat → Nat) : Nat → UInt32 → Option UInt32
  | 0, value | 1, value => some value
  | k + 2, value => do
      let nextValue ← data[place (k + 1)]?
      addWords data place (k + 1) (value + nextValue.toUInt32 <<< UInt32.ofNat (16 * (k + 1)))

def readWords (data : List UInt16) (place : Nat → Nat) (dataSizeInWords : Nat) : Option UInt32 := do
  let thisValue ← data[place 0]?
  addWords data place dataSizeInWords thisValue.toUInt32

end Words

namespace RawSpmDb
variable (db : RawSpmDb)

def mapTimestamps : List MappedTimestamp := db.timestamps.map fun timestamp => ⟨timestamp, true⟩

def offsetInWords (counterIndex : Nat) (info : SpmCounterInfo) : Nat :=
  match db.format with
  | .rdf => (db.counterOffsets.getD counterIndex 0).toNat
  | .v2_0 => (info.dataOffset / 2).toNat
  | .v1_2 => info.dataOffset.toNat
  | .low => 0

def dataSizeInWords (info : SpmCounterInfo) : UInt32 :=
  match db.format with
  | .rdf | .v2_0 => info.dataSize / 2
  | .v1_2 | .low => 1

def rawPlace (timestampIndex counterIndex : Nat) (info : SpmCounterInfo) (word : Nat) : Nat :=
  db.offsetInWords counterIndex info + timestampIndex * (db.dataSizeInWords info).toNat + word

-- The value of a hardware counter. Inside, `none` is a read outside the counter data.
def getCounterValue (timestampIndex counterIndex : Nat) : Except RgpErrorCode (Option UInt32) :=
  match db.mapTimestamps[timestampIndex]?, db.spmCounterInfo[counterIndex]? with
  | some mapped, some info =>
      if db.format = .low then .error .unsupportedLowSpecVersion
      else if mapped.timestampIsValid then
        .ok (readWords db.counterData (db.rawPlace timestampIndex counterIndex info) (db.dataSizeInWords info).toNat)
      else .ok (some 0)
  | _, _ => .error .indexOutOfRange

theorem get_counter_value_words {db : RawSpmDb} {info : SpmCounterInfo} {t j : Nat} (specified : db.format ≠ .low)
    (at_index : db.spmCounterInfo[j]? = some info) (bound : t < db.numberOfTimestamps.toNat) :
    db.getCounterValue t j = .ok (readWords db.counterData (db.rawPlace t j info) (db.dataSizeInWords info).toNat) := by
  have stamped : t < db.timestamps.length := by rwa [db.timestamped]
  simp [getCounterValue, mapTimestamps, stamped, at_index, specified]

end RawSpmDb

structure GpaHwCounter where
  isTimingBlock : Bool
  gpaHwBlock : UInt32
  gpaHwBlockInstance : UInt32
  gpaHwBlockEventId : UInt32
deriving DecidableEq, Repr

-- Where the samples of one hardware counter of a derived counter are.
structure HwSource where
  counterOffset : UInt32
  counterSizeInBytes : UInt32
deriving DecidableEq, Repr

def kNoOffsetForExtraGpaBlocks : UInt32 := 0xFFFFFFFF

structure Lookup where
  derivedCounterIsSupported : Bool
  timingCounterIndex : Option Nat
  previousValidGpaBlock : UInt32
  previousValidGpaInstance : UInt32
deriving DecidableEq, Repr

def Lookup.start : Lookup := ⟨true, none, 0, 0⟩

-- A second timing counter of a derived counter is ignored.
def Lookup.timesBy (s : Lookup) (counter : GpaHwCounter) : Bool := counter.isTimingBlock && s.timingCounterIndex.isNone

def Lookup.timed (s : Lookup) (i : Nat) (counter : GpaHwCounter) : Lookup :=
  if s.timesBy counter then { s with timingCounterIndex := some i } else s

namespace RawSpmDb
variable (db : RawSpmDb)

-- A timing counter is looked for as block, instance and event 0.
def identity (counter : GpaHwCounter) : UInt32 × UInt32 × UInt32 :=
  if counter.isTimingBlock then (0, 0, 0)
  else (counter.gpaHwBlock, counter.gpaHwBlockInstance, counter.gpaHwBlockEventId)

def hasIdentity (sought : UInt32 × UInt32 × UInt32) (info : SpmCounterInfo) : Bool :=
  info.gpuBlockId == sought.1 && info.gpuBlockInstance == sought.2.1 && info.eventIndex == sought.2.2

def matching (counter : GpaHwCounter) : Option Nat := db.spmCounterInfo.findIdx? (hasIdentity (identity counter))

-- The data offset of a legacy format counts bytes, an offset of the RDF format words.
def source (counterIndex : Nat) (info : SpmCounterInfo) : HwSource :=
  match db.format with
  | .rdf => ⟨db.counterOffsets.getD counterIndex 0, info.dataSize⟩
  | .v2_0 => ⟨info.dataOffset / 2, info.dataSize⟩
  | .v1_2 => ⟨info.dataOffset / 2, 2⟩
  | .low => ⟨0, 0⟩

def lookupCounter (s : Lookup) (i : Nat) (counter : GpaHwCounter) : HwSource × Lookup :=
  let sought := identity counter
  let timed := s.timed i counter
  match db.matching counter with
  | some j =>
      ((db.spmCounterInfo[j]?).elim ⟨0, 0⟩ (db.source j),
        { timed with previousValidGpaBlock := sought.1, previousValidGpaInstance := sought.2.1 })
  | none =>
      if s.timesBy counter then (⟨0, 0⟩, timed)
      -- GPA might know more instances than the hardware has.
      else if sought.1 = s.previousValidGpaBlock then
        let next := { timed with previousValidGpaInstance := s.previousValidGpaInstance + 1 }
        if sought.2.1 = s.previousValidGpaInstance + 1 then (⟨kNoOffsetForExtraGpaBlocks, 0⟩, next)
        else (⟨0, 0⟩, { next with derivedCounterIsSupported := false })
      else (⟨0, 0⟩, { timed with derivedCounterIsSupported := false })

def lookupFrom : Lookup → Nat → List GpaHwCounter → List HwSource × Lookup
  | s, _, [] => ([], s)
  | s, i, counter :: rest =>
      if s.derivedCounterIsSupported then
        let found := db.lookupCounter s i counter
        let later := lookupFrom found.2 (i + 1) rest
        (found.1 :: later.1, later.2)
      else ((counter :: rest).map fun _ => ⟨0, 0⟩, s)

def lookupCounters (counters : List GpaHwCounter) : List HwSource × Lookup := db.lookupFrom .start 0 counters

def derivedWords (source : HwSource) : UInt32 :=
  if 1 < source.counterSizeInBytes then source.counterSizeInBytes / 2 else source.counterSizeInBytes

def derivedOffset (source : HwSource) : UInt32 :=
  if 1 < source.counterSizeInBytes then source.counterOffset * (source.counterSizeInBytes / 2) else source.counterOffset

def derivedPlace (timestampIndex : UInt32) (source : HwSource) (word : Nat) : Nat :=
  (derivedOffset source + timestampIndex * derivedWords source + UInt32.ofNat word).toNat

-- What the counter library gets for hardware counter `i`.
def rawCounterValue (timing : Option Nat) (i : Nat) (timestampIndex : UInt32) (source : HwSource) : Option UInt32 :=
  if source.counterOffset = kNoOffsetForExtraGpaBlocks then some 0
  else if timing = some i then some db.samplingInterval
  else readWords db.counterData (derivedPlace timestampIndex source) (derivedWords source).toNat

def rawCounterValues (counters : List GpaHwCounter) (timestampIndex : UInt32) : List (Option UInt32) :=
  let found := db.lookupCounters counters
  found.1.zipIdx.map fun entry => db.rawCounterValue found.2.timingCounterIndex entry.2 timestampIndex entry.1

end RawSpmDb

end RadeonPanel.Spm

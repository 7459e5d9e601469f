import Mathlib.Algebra.GroupWithZero.Nat
import RadeonPanel.Base.Bytes
import RadeonPanel.Base.KeyedValues

set_option autoImplicit false

namespace RadeonPanel.Spm

open Bytes

-- Stands for the address of a counter inside the database.
abbrev CounterPtr := Nat

-- Texts are bytes, a sample is the bit pattern of its double.
structure DerivedSpmCounter where
  address : CounterPtr
  displayName : List UInt8
  description : List UInt8
  usageType : UInt32
  components : List CounterPtr
  samples : List UInt64
deriving DecidableEq, Repr

structure DerivedSpmGroup where
  name : List UInt8
  description : List UInt8
  members : List CounterPtr
deriving DecidableEq, Repr

-- The counters of the map in the order of its iteration.
structure DerivedSpmDataBase where
  counters : List DerivedSpmCounter
  groups : List DerivedSpmGroup
  numSamples : Nat
  distinct : (Keyed.keys DerivedSpmCounter.address counters).Nodup
  membersListed : ∀ group ∈ groups, ∀ member ∈ group.members, member ∈ Keyed.keys DerivedSpmCounter.address counters
  componentsListed : ∀ counter ∈ counters, ∀ component ∈ counter.components,
    component ∈ Keyed.keys DerivedSpmCounter.address counters
  sampled : ∀ counter ∈ counters, counter.samples.length = numSamples

structure SpmTiming where
  sampleInterval : UInt32
  timestamps : List UInt64
deriving DecidableEq, Repr

def uint32 (n : Nat) : Nat := n % 2 ^ 32

def sizeofChunkHeader : Nat := 16
def sizeofChunkDerivedSpmDb : Nat := 44
def sizeofGroupInfo : Nat := 20
def sizeofCounterInfo : Nat := 24
def sizeofComponentInfo : Nat := 20
def chunkTypeDerivedSpmDatabase : Nat := 128

-- From a counter to its index, in the counters or in the components.
abbrev CounterIndexMap := List (CounterPtr × Nat)

def CounterIndexMap.at (map : CounterIndexMap) (counter : CounterPtr) : Nat := (KeyedValues.get map counter).getD 0

section Write

def writeWords (values : List Nat) : List UInt8 := values.flatMap (le 4)

def writeLongs (values : List UInt64) : List UInt8 := values.flatMap fun value => le 8 value.toNat

def writeChunkHeader (chunkIdentifier sizeInBytes : Nat) : List UInt8 :=
  le 4 chunkIdentifier ++ le 2 0 ++ le 2 0 ++ le 4 sizeInBytes ++ le 4 0

def writeDerivedSpmGroupInfo (map : CounterIndexMap) (group : DerivedSpmGroup) : List UInt8 :=
  let nameLength := uint32 group.name.length
  let descLength := uint32 group.description.length
  let numMembers := uint32 group.members.length
  le 4 (sizeofGroupInfo + nameLength + descLength + numMembers * 4) ++ le 4 sizeofGroupInfo ++ le 4 nameLength ++
    le 4 descLength ++ le 4 numMembers ++ group.name.take nameLength ++ group.description.take descLength ++
    writeWords ((group.members.map map.at).take numMembers)

def writeDerivedSpmCounterInfo (map : CounterIndexMap) (counter : DerivedSpmCounter) : List UInt8 :=
  let nameLength := uint32 counter.displayName.length
  let descLength := uint32 counter.description.length
  let numComponents := uint32 counter.components.length
  le 4 (sizeofCounterInfo + nameLength + descLength + numComponents * 4) ++ le 4 sizeofCounterInfo ++ le 4 nameLength ++
    le 4 descLength ++ le 4 numComponents ++ le 4 counter.usageType.toNat ++ counter.displayName.take nameLength ++
    counter.description.take descLength ++ writeWords ((counter.components.map map.at).take numComponents)

def writeDerivedSpmComponentInfo (counter : DerivedSpmCounter) : List UInt8 :=
  let nameLength := uint32 counter.displayName.length
  let descLength := uint32 counter.description.length
  le 4 (sizeofComponentInfo + nameLength + descLength) ++ le 4 sizeofComponentInfo ++ le 4 nameLength ++
    le 4 descLength ++ le 4 counter.usageType.toNat ++ counter.displayName.take nameLength ++
    counter.description.take descLength

end Write

section Serialize
variable (db : DerivedSpmDataBase)

def componentCounters : List CounterPtr := db.counters.flatMap DerivedSpmCounter.components

def isComponent (counter : DerivedSpmCounter) : Bool := counter.address ∈ componentCounters db

structure Indexing where
  map : CounterIndexMap
  nextNonComponentIdx : Nat
  nextComponentIdx : Nat
deriving DecidableEq, Repr

-- Each kind is counted on its own; both go into the one map.
def indexCounter (indexing : Indexing) (counter : DerivedSpmCounter) : Indexing :=
  if isComponent db counter then
    { indexing with
      map := indexing.map ++ [(counter.address, indexing.nextComponentIdx)]
      nextComponentIdx := indexing.nextComponentIdx + 1 }
  else
    { indexing with
      map := indexing.map ++ [(counter.address, indexing.nextNonComponentIdx)]
      nextNonComponentIdx := indexing.nextNonComponentIdx + 1 }

def indexCounters : Indexing := db.counters.foldl (indexCounter db) ⟨[], 0, 0⟩

def counterInfoSize (counter : DerivedSpmCounter) : Nat :=
  if isComponent db counter then sizeofComponentInfo + counter.displayName.length + counter.description.length
  else sizeofCounterInfo + counter.displayName.length + counter.description.length + counter.components.length * 4

def groupInfoSize (group : DerivedSpmGroup) : Nat :=
  sizeofGroupInfo + group.name.length + group.description.length + group.members.length * 4

def chunkSizeBytes (timing : SpmTiming) : Nat :=
  sizeofChunkDerivedSpmDb + timing.timestamps.length * 8 + db.counters.length * db.numSamples * 8 +
    (db.counters.map (counterInfoSize db)).sum + (db.groups.map groupInfoSize).sum

def nonComponents : List DerivedSpmCounter := db.counters.filter fun counter => !isComponent db counter

def components : List DerivedSpmCounter := db.counters.filter fun counter => isComponent db counter

def writeFixed (timing : SpmTiming) : List UInt8 :=
  le 4 sizeofChunkDerivedSpmDb ++ le 4 0 ++ le 4 timing.timestamps.length ++ le 4 db.groups.length ++
    le 4 (indexCounters db).nextNonComponentIdx ++ le 4 (indexCounters db).nextComponentIdx ++
    le 4 timing.sampleInterval.toNat

def writeSamples (counter : DerivedSpmCounter) : List UInt8 := writeLongs (counter.samples.take (uint32 db.numSamples))

def writeChunk (timing : SpmTiming) : List UInt8 :=
  writeChunkHeader chunkTypeDerivedSpmDatabase (chunkSizeBytes db timing) ++ writeFixed db timing ++
    writeLongs (timing.timestamps.take (uint32 timing.timestamps.length)) ++
    db.groups.flatMap (writeDerivedSpmGroupInfo (indexCounters db).map) ++
    (nonComponents db).flatMap (writeDerivedSpmCounterInfo (indexCounters db).map) ++
    (components db).flatMap writeDerivedSpmComponentInfo ++ (nonComponents db).flatMap (writeSamples db) ++
    (components db).flatMap (writeSamples db)

-- The buffer is zeroed to its size and written from its start. A component that
-- has components cannot be represented.
def serializeChunkDerivedSpmDb (timing : SpmTiming) : List UInt8 :=
  if db.counters.any fun counter => isComponent db counter && !counter.components.isEmpty then []
  else writeChunk db timing ++ List.replicate (chunkSizeBytes db timing - (writeChunk db timing).length) 0

end Serialize

end RadeonPanel.Spm

import RadeonPanel.Spm.DerivedSpmDb

set_option autoImplicit false

namespace RadeonPanel.Spm

open Bytes

-- The records of the file format as a reader of the chunk has them.
structure GroupInfo where
  name : List UInt8
  description : List UInt8
  counterIndexList : List Nat
deriving DecidableEq, Repr

structure CounterInfo where
  name : List UInt8
  description : List UInt8
  usageType : UInt32
  componentIndexList : List Nat
deriving DecidableEq, Repr

structure ComponentInfo where
  name : List UInt8
  description : List UInt8
  usageType : UInt32
deriving DecidableEq, Repr

structure ChunkDerivedSpmDb where
  sizeInBytes : Nat
  samplingInterval : UInt32
  timestamps : List UInt64
  groupInfos : List GroupInfo
  counterInfos : List CounterInfo
  componentInfos : List ComponentInfo
  counterValues : List (List UInt64)
  componentValues : List (List UInt64)
deriving DecidableEq, Repr

def word : Reader UInt32 := UInt32.ofNat <$> uint 4

def long : Reader UInt64 := UInt64.ofNat <$> uint 8

-- A record is as long as its fields say, and its names follow them at once.
def readGroupInfo : Reader GroupInfo := do
  let sizeInBytes ← uint 4
  let offset ← uint 4
  let nameLength ← uint 4
  let descLength ← uint 4
  let numberOfCounters ← uint 4
  check (offset = sizeofGroupInfo ∧ sizeInBytes = offset + nameLength + descLength + numberOfCounters * 4)
  let name ← take nameLength
  let description ← take descLength
  let counterIndexList ← many (uint 4) numberOfCounters
  pure ⟨name, description, counterIndexList⟩

def readCounterInfo : Reader CounterInfo := do
  let sizeInBytes ← uint 4
  let offset ← uint 4
  let nameLength ← uint 4
  let descLength ← uint 4
  let numberOfComponents ← uint 4
  let usageType ← word
  check (offset = sizeofCounterInfo ∧ sizeInBytes = offset + nameLength + descLength + numberOfComponents * 4)
  let name ← take nameLength
  let description ← take descLength
  let componentIndexList ← many (uint 4) numberOfComponents
  pure ⟨name, description, usageType, componentIndexList⟩

def readComponentInfo : Reader ComponentInfo := do
  let sizeInBytes ← uint 4
  let offset ← uint 4
  let nameLength ← uint 4
  let descLength ← uint 4
  let usageType ← word
  check (offset = sizeofComponentInfo ∧ sizeInBytes = offset + nameLength + descLength)
  let name ← take nameLength
  let description ← take descLength
  pure ⟨name, description, usageType⟩

def readChunk : Reader ChunkDerivedSpmDb := do
  let chunkIdentifier ← uint 4
  let _versionMinor ← uint 2
  let _versionMajor ← uint 2
  let sizeInBytes ← uint 4
  let _padding ← uint 4
  check (chunkIdentifier % 2 ^ 8 = chunkTypeDerivedSpmDatabase)
  let offset ← uint 4
  let _flags ← uint 4
  let numberOfTimestamps ← uint 4
  let numberOfGroups ← uint 4
  let numberOfCounters ← uint 4
  let numberOfComponents ← uint 4
  let samplingInterval ← word
  check (offset = sizeofChunkDerivedSpmDb)
  let timestamps ← many long numberOfTimestamps
  let groupInfos ← many readGroupInfo numberOfGroups
  let counterInfos ← many readCounterInfo numberOfCounters
  let componentInfos ← many readComponentInfo numberOfComponents
  let counterValues ← many (many long numberOfTimestamps) numberOfCounters
  let componentValues ← many (many long numberOfTimestamps) numberOfComponents
  pure ⟨sizeInBytes, samplingInterval, timestamps, groupInfos, counterInfos, componentInfos, counterValues, componentValues⟩

-- The bytes are one chunk from its header to its end. Its size is signed.
def readChunkDerivedSpmDb (bytes : List UInt8) : Option ChunkDerivedSpmDb :=
  match readChunk bytes with
  | some (chunk, []) => if chunk.sizeInBytes < 2 ^ 31 ∧ chunk.sizeInBytes = bytes.length then some chunk else none
  | some (_, _ :: _) | none => none

section Describes

-- An index designates the counter of the record that it leads to.
def Designates (counters : List DerivedSpmCounter) (index : Nat) (counter : CounterPtr) : Prop :=
  (counters[index]?).map DerivedSpmCounter.address = some counter

structure DescribesGroup (counters : List DerivedSpmCounter) (info : GroupInfo) (group : DerivedSpmGroup) : Prop where
  name : info.name = group.name
  description : info.description = group.description
  members : List.Forall₂ (Designates counters) info.counterIndexList group.members

structure DescribesCounter (components : List DerivedSpmCounter) (info : CounterInfo) (counter : DerivedSpmCounter) : Prop where
  name : info.name = counter.displayName
  description : info.description = counter.description
  usageType : info.usageType = counter.usageType
  components : List.Forall₂ (Designates components) info.componentIndexList counter.components

-- The record has no list of components.
structure DescribesComponent (info : ComponentInfo) (component : DerivedSpmCounter) : Prop where
  name : info.name = component.displayName
  description : info.description = component.description
  usageType : info.usageType = component.usageType
  components : component.components = []

-- Every counter of the database has one record, in an order that the chunk chooses.
structure Describes (db : DerivedSpmDataBase) (timing : SpmTiming) (chunk : ChunkDerivedSpmDb)
    (counters components : List DerivedSpmCounter) : Prop where
  complete : (counters ++ components).Perm db.counters
  interval : chunk.samplingInterval = timing.sampleInterval
  timestamps : chunk.timestamps = timing.timestamps
  groupInfos : List.Forall₂ (DescribesGroup counters) chunk.groupInfos db.groups
  counterInfos : List.Forall₂ (DescribesCounter components) chunk.counterInfos counters
  componentInfos : List.Forall₂ DescribesComponent chunk.componentInfos components
  counterValues : chunk.counterValues = counters.map DerivedSpmCounter.samples
  componentValues : chunk.componentValues = components.map DerivedSpmCounter.samples

def ReadsBack (db : DerivedSpmDataBase) (timing : SpmTiming) : Prop :=
  ∃ chunk counters components, readChunkDerivedSpmDb (serializeChunkDerivedSpmDb db timing) = some chunk ∧
    Describes db timing chunk counters components

end Describes

theorem uint32_small (n : Nat) (small : n < 2 ^ 32) : uint32 n = n := Nat.mod_eq_of_lt small

section Fields

theorem reads_uint32 (value : Nat) (small : value < 2 ^ 32) : Reads (uint 4) (le 4 value) value := by
  apply reads_uint
  omega

theorem reads_word (value : UInt32) : Reads word (le 4 value.toNat) value := by
  have read := reads_map _ UInt32.ofNat _ _ (reads_uint32 value.toNat value.toNat_lt)
  rwa [UInt32.ofNat_toNat] at read

theorem reads_long (value : UInt64) : Reads long (le 8 value.toNat) value := by
  have bound := value.toNat_lt
  have read := reads_map _ UInt64.ofNat _ _ (reads_uint 8 value.toNat (by omega))
  rwa [UInt64.ofNat_toNat] at read

theorem reads_words (values : List Nat) (small : ∀ value ∈ values, value < 2 ^ 32) :
    Reads (many (uint 4) values.length) (writeWords values) values := by
  have reads := reads_each (uint 4) (le 4) (fun value => value) values
    fun value listed => reads_uint32 value (small value listed)
  rwa [List.map_id'] at reads

theorem reads_longs (values : List UInt64) : Reads (many long values.length) (writeLongs values) values := by
  have reads := reads_each long (fun value => le 8 value.toNat) (fun value => value) values
  rw [List.map_id'] at reads
  apply reads
  intro value _
  exact reads_long value

end Fields

section Records
variable (map : CounterIndexMap)

theorem reads_indices (listed : List CounterPtr) (indexed : ∀ counter ∈ listed, map.at counter < 2 ^ 32) :
    Reads (many (uint 4) listed.length) (writeWords ((listed.map map.at).take listed.length)) (listed.map map.at) := by
  have indices := reads_words (listed.map map.at) (by simpa using indexed)
  rw [List.take_of_length_le (by simp)]
  rwa [List.length_map] at indices

theorem reads_group (group : DerivedSpmGroup) (small : groupInfoSize group < 2 ^ 32)
    (indexed : ∀ member ∈ group.members, map.at member < 2 ^ 32) :
    Reads readGroupInfo (writeDerivedSpmGroupInfo map group)
      ⟨group.name, group.description, group.members.map map.at⟩ := by
  rw [groupInfoSize] at small
  have name := uint32_small group.name.length (by omega)
  have description := uint32_small group.description.length (by omega)
  have members := uint32_small group.members.length (by omega)
  simp only [writeDerivedSpmGroupInfo, name, description, members, List.take_length, List.append_assoc]
  exact reads_bind (reads_uint32 _ (by omega)) <| reads_bind (reads_uint32 _ (by decide)) <|
    reads_bind (reads_uint32 _ (by omega)) <| reads_bind (reads_uint32 _ (by omega)) <|
    reads_bind (reads_uint32 _ (by omega)) <| reads_check (by simp) <| reads_bind (reads_take _) <|
    reads_bind (reads_take _) <| reads_last _ (reads_indices map _ indexed)

theorem reads_counter (counter : DerivedSpmCounter)
    (small : sizeofCounterInfo + counter.displayName.length + counter.description.length + counter.components.length * 4 < 2 ^ 32)
    (indexed : ∀ component ∈ counter.components, map.at component < 2 ^ 32) :
    Reads readCounterInfo (writeDerivedSpmCounterInfo map counter)
      ⟨counter.displayName, counter.description, counter.usageType, counter.components.map map.at⟩ := by
  have name := uint32_small counter.displayName.length (by omega)
  have description := uint32_small counter.description.length (by omega)
  have components := uint32_small counter.components.length (by omega)
  simp only [writeDerivedSpmCounterInfo, name, description, components, List.take_length, List.append_assoc]
  exact reads_bind (reads_uint32 _ (by omega)) <| reads_bind (reads_uint32 _ (by decide)) <|
    reads_bind (reads_uint32 _ (by omega)) <| reads_bind (reads_uint32 _ (by omega)) <|
    reads_bind (reads_uint32 _ (by omega)) <| reads_bind (reads_word _) <| reads_check (by simp) <|
    reads_bind (reads_take _) <| reads_bind (reads_take _) <| reads_last _ (reads_indices map _ indexed)

theorem reads_component (counter : DerivedSpmCounter)
    (small : sizeofComponentInfo + counter.displayName.length + counter.description.length < 2 ^ 32) :
    Reads readComponentInfo (writeDerivedSpmComponentInfo counter)
      ⟨counter.displayName, counter.description, counter.usageType⟩ := by
  have name := uint32_small counter.displayName.length (by omega)
  have description := uint32_small counter.description.length (by omega)
  simp only [writeDerivedSpmComponentInfo, name, description, List.take_length, List.append_assoc]
  exact reads_bind (reads_uint32 _ (by omega)) <| reads_bind (reads_uint32 _ (by decide)) <|
    reads_bind (reads_uint32 _ (by omega)) <| reads_bind (reads_uint32 _ (by omega)) <| reads_bind (reads_word _) <|
    reads_check (by simp) <| reads_bind (reads_take _) <| reads_last _ (reads_take _)

end Records

section Indexing
variable (db : DerivedSpmDataBase)

def ofKind (kind : Bool) (seen : List DerivedSpmCounter) : List DerivedSpmCounter :=
  seen.filter fun counter => isComponent db counter == kind

-- What the map has for a counter is its place among the counters of its kind.
structure Indexed (seen : List DerivedSpmCounter) (indexing : Indexing) : Prop where
  listed : Keyed.keys Prod.fst indexing.map = Keyed.keys DerivedSpmCounter.address seen
  nonComponent : indexing.nextNonComponentIdx = (ofKind db false seen).length
  component : indexing.nextComponentIdx = (ofKind db true seen).length
  placed : ∀ counter ∈ seen, ∃ index, KeyedValues.get indexing.map counter.address = some index ∧
    (ofKind db (isComponent db counter) seen)[index]? = some counter

theorem of_kind_append (kind : Bool) (seen : List DerivedSpmCounter) (counter : DerivedSpmCounter) :
    ofKind db kind (seen ++ [counter]) = ofKind db kind seen ++ if isComponent db counter = kind then [counter] else [] := by
  by_cases same : isComponent db counter = kind <;> simp [ofKind, same]

theorem indexed_step (seen : List DerivedSpmCounter) (indexing : Indexing) (counter : DerivedSpmCounter)
    (indexed : Indexed db seen indexing) (fresh : counter.address ∉ Keyed.keys DerivedSpmCounter.address seen) :
    Indexed db (seen ++ [counter]) (indexCounter db indexing counter) := by
  obtain ⟨listed, nonComponent, component, placed⟩ := indexed
  have unlisted : KeyedValues.get indexing.map counter.address = none := by
    apply KeyedValues.get_none
    rwa [listed]
  have keep (index : Nat) (other : DerivedSpmCounter) (before : other ∈ seen) :
      ∃ i, KeyedValues.get (indexing.map ++ [(counter.address, index)]) other.address = some i ∧
        (ofKind db (isComponent db other) (seen ++ [counter]))[i]? = some other := by
    obtain ⟨i, found, place⟩ := placed other before
    obtain ⟨inside, _⟩ := List.getElem?_eq_some_iff.mp place
    refine ⟨i, by rw [KeyedValues.get_append, found, Option.some_or], ?_⟩
    rw [of_kind_append, List.getElem?_append_left inside, place]
  have add (index : Nat) (last : index = (ofKind db (isComponent db counter) seen).length) :
      ∃ i, KeyedValues.get (indexing.map ++ [(counter.address, index)]) counter.address = some i ∧
        (ofKind db (isComponent db counter) (seen ++ [counter]))[i]? = some counter := by
    refine ⟨index, by rw [KeyedValues.get_append, unlisted, Option.none_or, KeyedValues.get_cons, if_pos rfl], ?_⟩
    rw [of_kind_append, if_pos rfl, last, List.getElem?_concat_length]
  have all (index : Nat) (last : index = (ofKind db (isComponent db counter) seen).length) :
      ∀ other ∈ seen ++ [counter], ∃ i,
        KeyedValues.get (indexing.map ++ [(counter.address, index)]) other.address = some i ∧
          (ofKind db (isComponent db other) (seen ++ [counter]))[i]? = some other := by
    intro other member
    rcases List.mem_append.mp member with before | new
    · exact keep index other before
    · rw [List.mem_singleton.mp new]
      exact add index last
  have keys (index : Nat) : Keyed.keys Prod.fst (indexing.map ++ [(counter.address, index)]) =
      Keyed.keys DerivedSpmCounter.address (seen ++ [counter]) := by
    simp only [Keyed.keys] at listed
    simp [Keyed.keys, listed]
  cases kind : isComponent db counter with
  | true =>
      rw [indexCounter, if_pos kind]
      exact ⟨keys _, by simp [of_kind_append, kind, nonComponent], by simp [of_kind_append, kind, component],
        all _ (by rw [kind, component])⟩
  | false =>
      rw [indexCounter, if_neg (by simp [kind])]
      exact ⟨keys _, by simp [of_kind_append, kind, nonComponent], by simp [of_kind_append, kind, component],
        all _ (by rw [kind, nonComponent])⟩

theorem indexed_fold (rest seen : List DerivedSpmCounter) (indexing : Indexing) (indexed : Indexed db seen indexing)
    (distinct : (Keyed.keys DerivedSpmCounter.address (seen ++ rest)).Nodup) :
    Indexed db (seen ++ rest) (rest.foldl (indexCounter db) indexing) := by
  induction rest generalizing seen indexing with
  | nil => rwa [List.append_nil]
  | cons counter rest ih =>
      have fresh : counter.address ∉ Keyed.keys DerivedSpmCounter.address seen := by
        intro before
        simp only [Keyed.keys, List.map_append, List.map_cons] at distinct before
        exact (List.nodup_append.mp distinct).2.2 _ before _ List.mem_cons_self rfl
      rw [List.append_cons] at distinct ⊢
      exact ih _ _ (indexed_step db seen indexing counter indexed fresh) distinct

theorem counters_indexed : Indexed db db.counters (indexCounters db) := by
  have nothing : Indexed db [] ⟨[], 0, 0⟩ := ⟨rfl, rfl, rfl, by simp⟩
  exact indexed_fold db db.counters [] _ nothing db.distinct

end Indexing

end RadeonPanel.Spm

import Mathlib.Algebra.Group.Int.Defs
import RadeonPanel.Spm.ChunkRoundTrip

set_option autoImplicit false

namespace RadeonPanel.Spm

open Bytes

-- What a walk over the chunk meets that steps from record to record by their sizes.
structure ChunkWalk where
  sizeInBytes : Int
  groupInfos : List (List UInt8)
  counterInfos : List (List UInt8)
  componentInfos : List (List UInt8)
deriving DecidableEq, Repr

def int32 (bits : Nat) : Int := (BitVec.ofNat 32 bits).toInt

theorem int32_small (bits : Nat) (small : bits < 2 ^ 31) : int32 bits = bits := by
  have same : (BitVec.ofNat 32 bits).toNat = bits := by
    rw [BitVec.toNat_ofNat]
    exact Nat.mod_eq_of_lt (by omega)
  rw [int32, BitVec.toInt_eq_toNat_of_lt (by omega), same]

theorem int32_lt (bits : Nat) : int32 bits < 2 ^ 31 := BitVec.toInt_lt

def walkChunk (numSamples : Nat) : Reader ChunkWalk := do
  let _chunkIdentifier ← uint 4
  let _versionMinor ← uint 2
  let _versionMajor ← uint 2
  let sizeInBytes ← uint 4
  let _padding ← uint 4
  let offset ← uint 4
  let _flags ← uint 4
  let numberOfTimestamps ← uint 4
  let numberOfGroups ← uint 4
  let numberOfCounters ← uint 4
  let numberOfComponents ← uint 4
  let _samplingInterval ← uint 4
  check (offset = sizeofChunkDerivedSpmDb)
  let _timestamps ← take (numberOfTimestamps * 8)
  let groupInfos ← many (sized 4) numberOfGroups
  let counterInfos ← many (sized 4) numberOfCounters
  let componentInfos ← many (sized 4) numberOfComponents
  let _counterValues ← many (take (numSamples * 8)) numberOfCounters
  let _componentValues ← many (take (numSamples * 8)) numberOfComponents
  pure ⟨int32 sizeInBytes, groupInfos, counterInfos, componentInfos⟩

section Sizes
variable (db : DerivedSpmDataBase) (timing : SpmTiming)

def SizesItself (record : List UInt8) : Prop := ofLe (record.take 4) = record.length

structure Accounted : Prop where
  filled : (writeChunk db timing).length = chunkSizeBytes db timing
  returned : serializeChunkDerivedSpmDb db timing = writeChunk db timing
  groupInfos : ∀ group ∈ db.groups, SizesItself (writeDerivedSpmGroupInfo (indexCounters db).map group)
  counterInfos : ∀ counter ∈ nonComponents db, SizesItself (writeDerivedSpmCounterInfo (indexCounters db).map counter)
  componentInfos : ∀ counter ∈ components db, SizesItself (writeDerivedSpmComponentInfo counter)
  walked : walkChunk db.numSamples (serializeChunkDerivedSpmDb db timing) =
    some (⟨chunkSizeBytes db timing, db.groups.map (writeDerivedSpmGroupInfo (indexCounters db).map),
      (nonComponents db).map (writeDerivedSpmCounterInfo (indexCounters db).map),
      (components db).map writeDerivedSpmComponentInfo⟩, [])

theorem group_sizes_itself (map : CounterIndexMap) (group : DerivedSpmGroup) (small : groupInfoSize group < 2 ^ 31) :
    SizesItself (writeDerivedSpmGroupInfo map group) := by
  rw [SizesItself, group_length map group small]
  rw [groupInfoSize] at small ⊢
  have name := uint32_small group.name.length (by omega)
  have description := uint32_small group.description.length (by omega)
  have members := uint32_small group.members.length (by omega)
  simp only [writeDerivedSpmGroupInfo, name, description, members, List.append_assoc]
  exact size_first 4 _ _ (by omega)

theorem counter_sizes_itself (map : CounterIndexMap) (counter : DerivedSpmCounter) (kind : isComponent db counter = false)
    (small : counterInfoSize db counter < 2 ^ 31) : SizesItself (writeDerivedSpmCounterInfo map counter) := by
  rw [SizesItself, counter_length map db counter kind small]
  rw [counterInfoSize, if_neg (by simp [kind])] at small ⊢
  have name := uint32_small counter.displayName.length (by omega)
  have description := uint32_small counter.description.length (by omega)
  have components := uint32_small counter.components.length (by omega)
  simp only [writeDerivedSpmCounterInfo, name, description, components, List.append_assoc]
  exact size_first 4 _ _ (by omega)

theorem component_sizes_itself (counter : DerivedSpmCounter) (kind : isComponent db counter = true)
    (small : counterInfoSize db counter < 2 ^ 31) : SizesItself (writeDerivedSpmComponentInfo counter) := by
  rw [SizesItself, component_length db counter kind small]
  rw [counterInfoSize, if_pos kind] at small ⊢
  have name := uint32_small counter.displayName.length (by omega)
  have description := uint32_small counter.description.length (by omega)
  simp only [writeDerivedSpmComponentInfo, name, description, List.append_assoc]
  exact size_first 4 _ _ (by omega)

theorem reads_taken (count : Nat) (written : List UInt8) (length : written.length = count) : Reads (take count) written written := by
  rw [← length]
  exact reads_take written

variable (small : Small db timing)

include small

theorem walks_groups :
    Reads (many (sized 4) db.groups.length) (db.groups.flatMap (writeDerivedSpmGroupInfo (indexCounters db).map))
      (db.groups.map (writeDerivedSpmGroupInfo (indexCounters db).map)) := by
  apply reads_each
  intro group listed
  have size := small_group db timing small group listed
  apply reads_sized
  · rw [group_length _ group size, groupInfoSize, sizeofGroupInfo]
    omega
  · exact group_sizes_itself _ group size

theorem walks_counters :
    Reads (many (sized 4) (nonComponents db).length)
      ((nonComponents db).flatMap (writeDerivedSpmCounterInfo (indexCounters db).map))
      ((nonComponents db).map (writeDerivedSpmCounterInfo (indexCounters db).map)) := by
  apply reads_each
  intro counter listed
  obtain ⟨member, kind⟩ := List.mem_filter.mp listed
  have unlisted : isComponent db counter = false := by simpa using kind
  have size := small_counter db timing small counter member
  apply reads_sized
  · rw [counter_length _ db counter unlisted size, counterInfoSize, if_neg (by simp [unlisted]), sizeofCounterInfo]
    omega
  · exact counter_sizes_itself db _ counter unlisted size

theorem walks_components :
    Reads (many (sized 4) (components db).length) ((components db).flatMap writeDerivedSpmComponentInfo)
      ((components db).map writeDerivedSpmComponentInfo) := by
  apply reads_each
  intro counter listed
  obtain ⟨member, kind⟩ := List.mem_filter.mp listed
  have size := small_counter db timing small counter member
  apply reads_sized
  · rw [component_length db counter kind size, counterInfoSize, if_pos kind, sizeofComponentInfo]
    omega
  · exact component_sizes_itself db counter kind size

theorem walks_values (listed : List DerivedSpmCounter) (known : ∀ counter ∈ listed, counter ∈ db.counters) :
    Reads (many (take (db.numSamples * 8)) listed.length) (listed.flatMap (writeSamples db)) (listed.map (writeSamples db)) := by
  apply reads_each
  intro counter member
  apply reads_taken
  rw [sampled_length db timing small counter (known counter member), longs_length, db.sampled counter (known counter member)]

theorem walks_chunk : Reads (walkChunk db.numSamples) (writeChunk db timing)
    ⟨chunkSizeBytes db timing, db.groups.map (writeDerivedSpmGroupInfo (indexCounters db).map),
      (nonComponents db).map (writeDerivedSpmCounterInfo (indexCounters db).map),
      (components db).map writeDerivedSpmComponentInfo⟩ := by
  have size : chunkSizeBytes db timing < 2 ^ 31 := small
  have timestamps := small_timestamps db timing small
  have groups := small_groups db timing small
  have counters := small_counters db timing small
  have kinds := kinds_length db
  have nonComponent := indexed_non_components db
  have component := indexed_components db
  have all := uint32_small timing.timestamps.length (by omega)
  rw [← int32_small _ size]
  simp only [writeChunk, writeChunkHeader, writeFixed, nonComponent, component, all, List.take_length, List.append_assoc]
  exact reads_bind (reads_uint32 _ (by decide)) <| reads_bind (reads_uint 2 0 (by decide)) <|
    reads_bind (reads_uint 2 0 (by decide)) <| reads_bind (reads_uint32 _ (by omega)) <|
    reads_bind (reads_uint32 0 (by decide)) <| reads_bind (reads_uint32 _ (by decide)) <|
    reads_bind (reads_uint32 0 (by decide)) <| reads_bind (reads_uint32 _ (by omega)) <|
    reads_bind (reads_uint32 _ (by omega)) <| reads_bind (reads_uint32 _ (by omega)) <|
    reads_bind (reads_uint32 _ (by omega)) <| reads_bind (reads_uint32 _ timing.sampleInterval.toNat_lt) <|
    reads_check rfl <| reads_bind (reads_taken _ _ (longs_length _)) <| reads_bind (walks_groups db timing small) <|
    reads_bind (walks_counters db timing small) <| reads_bind (walks_components db timing small) <|
    reads_bind (walks_values db timing small _ fun _ listed => (List.mem_filter.mp listed).1) <|
    reads_last _ (walks_values db timing small _ fun _ listed => (List.mem_filter.mp listed).1)

end Sizes

section Accounting
variable (db : DerivedSpmDataBase) (timing : SpmTiming)

theorem small_accounted (flat : Flat db) (small : Small db timing) : Accounted db timing where
  filled := chunk_length db timing small
  returned := serialize_chunk db timing flat small
  groupInfos group listed := group_sizes_itself _ group (small_group db timing small group listed)
  counterInfos counter listed := by
    obtain ⟨member, kind⟩ := List.mem_filter.mp listed
    exact counter_sizes_itself db _ counter (by simpa using kind) (small_counter db timing small counter member)
  componentInfos counter listed := by
    obtain ⟨member, kind⟩ := List.mem_filter.mp listed
    exact component_sizes_itself db counter kind (small_counter db timing small counter member)
  walked := by
    have walks := walks_chunk db timing small []
    rw [List.append_nil] at walks
    rw [serialize_chunk db timing flat small, walks]

theorem accounted_flat (accounted : Accounted db timing) : Flat db := by
  by_contra nested
  have none := nested_unwritten db timing nested
  have filled := accounted.filled
  rw [← accounted.returned, none, chunkSizeBytes, sizeofChunkDerivedSpmDb] at filled
  simp at filled
  omega

-- The size that is walked to is what 32 bits with a sign hold.
theorem size_walked (numSamples : Nat) : Ensures (walkChunk numSamples) fun walk => walk.sizeInBytes < 2 ^ 31 := by
  refine ensures_next fun _ => ensures_next fun _ => ensures_next fun _ => ensures_next fun size => ensures_next fun _ =>
    ensures_next fun _ => ensures_next fun _ => ensures_next fun _ => ensures_next fun _ => ensures_next fun _ =>
    ensures_next fun _ => ensures_next fun _ => ensures_next fun _ => ensures_next fun _ => ensures_next fun _ =>
    ensures_next fun _ => ensures_next fun _ => ensures_next fun _ => ensures_next fun _ => ?_
  exact ensures_pure _ _ (int32_lt size)

theorem accounted_small (accounted : Accounted db timing) : Small db timing := by
  have bound := size_walked db.numSamples _ _ _ accounted.walked
  exact Int.ofNat_lt.mp bound

theorem accounted_iff : Accounted db timing ↔ Flat db ∧ Small db timing :=
  ⟨fun accounted => ⟨accounted_flat db timing accounted, accounted_small db timing accounted⟩,
    fun fits => small_accounted db timing fits.1 fits.2⟩

theorem derived_chunk_accounted :
    (¬Flat db → serializeChunkDerivedSpmDb db timing = []) ∧ (Flat db → Small db timing → Accounted db timing) :=
  ⟨nested_unwritten db timing, small_accounted db timing⟩

theorem cache_hits_accounted : Accounted cacheHits ⟨4096, [9]⟩ := by
  apply (derived_chunk_accounted cacheHits ⟨4096, [9]⟩).2
  · unfold Flat
    decide
  · unfold Small
    decide

-- The component of a counter has a component; a size that turns negative.
theorem databases_unaccounted : ¬Accounted nestedHits ⟨4096, [9]⟩ ∧ ¬Accounted (groupNamed (2 ^ 31)) ⟨4096, []⟩ := by
  refine ⟨fun accounted => ?_, fun accounted => ?_⟩
  · have flat := accounted_flat _ _ accounted
    unfold Flat at flat
    revert flat
    decide
  · have small := accounted_small _ _ accounted
    rw [Small, group_named_size] at small
    omega

end Accounting

end RadeonPanel.Spm

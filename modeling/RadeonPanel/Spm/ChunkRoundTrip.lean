import Mathlib.Algebra.Order.BigOperators.Group.List
import Mathlib.Algebra.Order.Group.Nat
import RadeonPanel.Spm.Readback

set_option autoImplicit false

namespace RadeonPanel.Spm

open Bytes

section Sizes
variable (db : DerivedSpmDataBase) (timing : SpmTiming)

-- The chunk's own size is signed, and every other number of the chunk is less.
def Small : Prop := chunkSizeBytes db timing < 2 ^ 31

variable (small : Small db timing)

include small

theorem small_timestamps : timing.timestamps.length < 2 ^ 31 := by
  rw [Small, chunkSizeBytes] at small
  omega

theorem small_group (group : DerivedSpmGroup) (listed : group ∈ db.groups) : groupInfoSize group < 2 ^ 31 := by
  have part := List.le_sum_of_mem (List.mem_map_of_mem (f := groupInfoSize) listed)
  rw [Small, chunkSizeBytes] at small
  omega

theorem small_groups : db.groups.length < 2 ^ 31 := by
  have each := List.length_le_sum_of_one_le (db.groups.map groupInfoSize) (by
    intro size listed
    obtain ⟨group, _, rfl⟩ := List.mem_map.mp listed
    simp only [groupInfoSize, sizeofGroupInfo]
    omega)
  rw [List.length_map] at each
  rw [Small, chunkSizeBytes] at small
  omega

theorem small_counter (counter : DerivedSpmCounter) (listed : counter ∈ db.counters) :
    counterInfoSize db counter < 2 ^ 31 := by
  have part := List.le_sum_of_mem (List.mem_map_of_mem (f := counterInfoSize db) listed)
  rw [Small, chunkSizeBytes] at small
  omega

theorem small_counters : db.counters.length < 2 ^ 31 := by
  have each := List.length_le_sum_of_one_le (db.counters.map (counterInfoSize db)) (by
    intro size listed
    obtain ⟨counter, _, rfl⟩ := List.mem_map.mp listed
    simp only [counterInfoSize, sizeofComponentInfo, sizeofCounterInfo]
    split <;> omega)
  rw [List.length_map] at each
  rw [Small, chunkSizeBytes] at small
  omega

theorem small_samples (counter : DerivedSpmCounter) (listed : counter ∈ db.counters) : db.numSamples < 2 ^ 31 := by
  have some : 1 ≤ db.counters.length := List.length_pos_of_mem listed
  have part : db.numSamples ≤ db.counters.length * db.numSamples := Nat.le_mul_of_pos_left _ some
  rw [Small, chunkSizeBytes] at small
  omega

end Sizes

section Lengths
variable (map : CounterIndexMap)

theorem words_length (values : List Nat) : (writeWords values).length = values.length * 4 := by
  simp [writeWords, List.length_flatMap, le_length]

theorem longs_length (values : List UInt64) : (writeLongs values).length = values.length * 8 := by
  simp [writeLongs, List.length_flatMap, le_length]

theorem header_length (chunkIdentifier sizeInBytes : Nat) :
    (writeChunkHeader chunkIdentifier sizeInBytes).length = sizeofChunkHeader := by
  simp [writeChunkHeader, le_length, sizeofChunkHeader]

theorem group_length (group : DerivedSpmGroup) (small : groupInfoSize group < 2 ^ 31) :
    (writeDerivedSpmGroupInfo map group).length = groupInfoSize group := by
  rw [groupInfoSize] at small
  have name := uint32_small group.name.length (by omega)
  have description := uint32_small group.description.length (by omega)
  have members := uint32_small group.members.length (by omega)
  simp only [writeDerivedSpmGroupInfo, name, description, members, List.length_append, le_length, List.length_take,
    words_length, List.length_map, groupInfoSize, sizeofGroupInfo]
  omega

variable (db : DerivedSpmDataBase)

theorem counter_length (counter : DerivedSpmCounter) (kind : isComponent db counter = false)
    (small : counterInfoSize db counter < 2 ^ 31) :
    (writeDerivedSpmCounterInfo map counter).length = counterInfoSize db counter := by
  rw [counterInfoSize, if_neg (by simp [kind])] at small ⊢
  have name := uint32_small counter.displayName.length (by omega)
  have description := uint32_small counter.description.length (by omega)
  have components := uint32_small counter.components.length (by omega)
  simp only [writeDerivedSpmCounterInfo, name, description, components, List.length_append, le_length, List.length_take,
    words_length, List.length_map, sizeofCounterInfo]
  omega

theorem component_length (counter : DerivedSpmCounter) (kind : isComponent db counter = true)
    (small : counterInfoSize db counter < 2 ^ 31) :
    (writeDerivedSpmComponentInfo counter).length = counterInfoSize db counter := by
  rw [counterInfoSize, if_pos kind] at small ⊢
  have name := uint32_small counter.displayName.length (by omega)
  have description := uint32_small counter.description.length (by omega)
  simp only [writeDerivedSpmComponentInfo, name, description, List.length_append, le_length, List.length_take,
    sizeofComponentInfo]
  omega

theorem sampled_length (timing : SpmTiming) (small : Small db timing) (counter : DerivedSpmCounter)
    (listed : counter ∈ db.counters) : writeSamples db counter = writeLongs counter.samples := by
  have count := small_samples db timing small counter listed
  rw [writeSamples, uint32_small _ (by omega), ← db.sampled counter listed, List.take_length]

theorem kinds_perm : (nonComponents db ++ components db).Perm db.counters := by
  have split := List.filter_append_perm (fun counter => isComponent db counter) db.counters
  exact List.perm_append_comm.trans split

theorem kinds_length : (nonComponents db).length + (components db).length = db.counters.length := by
  rw [← List.length_append, (kinds_perm db).length_eq]

variable (timing : SpmTiming) (small : Small db timing)

include small

theorem groups_length : (db.groups.flatMap (writeDerivedSpmGroupInfo map)).length = (db.groups.map groupInfoSize).sum := by
  rw [List.length_flatMap]
  congr 1
  apply List.map_congr_left
  intro group listed
  exact group_length map group (small_group db timing small group listed)

theorem infos_length :
    ((nonComponents db).flatMap (writeDerivedSpmCounterInfo map)).length +
      ((components db).flatMap writeDerivedSpmComponentInfo).length = (db.counters.map (counterInfoSize db)).sum := by
  have counters : (nonComponents db).map (fun counter => (writeDerivedSpmCounterInfo map counter).length) =
      (nonComponents db).map (counterInfoSize db) := by
    apply List.map_congr_left
    intro counter listed
    obtain ⟨member, kind⟩ := List.mem_filter.mp listed
    exact counter_length map db counter (by simpa using kind) (small_counter db timing small counter member)
  have components : (components db).map (fun counter => (writeDerivedSpmComponentInfo counter).length) =
      (components db).map (counterInfoSize db) := by
    apply List.map_congr_left
    intro counter listed
    obtain ⟨member, kind⟩ := List.mem_filter.mp listed
    exact component_length db counter kind (small_counter db timing small counter member)
  rw [List.length_flatMap, List.length_flatMap, counters, components, ← List.sum_append_nat, ← List.map_append]
  exact ((kinds_perm db).map _).sum_nat

theorem samples_length (listed : List DerivedSpmCounter) (known : ∀ counter ∈ listed, counter ∈ db.counters) :
    (listed.flatMap (writeSamples db)).length = listed.length * (db.numSamples * 8) := by
  have each : listed.map (fun counter => (writeSamples db counter).length) = listed.map fun _ => db.numSamples * 8 := by
    apply List.map_congr_left
    intro counter member
    rw [sampled_length db timing small counter (known counter member), longs_length, db.sampled counter (known counter member)]
  rw [List.length_flatMap, each, List.map_const', List.sum_replicate_nat]

theorem chunk_length : (writeChunk db timing).length = chunkSizeBytes db timing := by
  have groups := groups_length (indexCounters db).map db timing small
  have infos := infos_length (indexCounters db).map db timing small
  have counters := samples_length db timing small (nonComponents db) fun _ listed => (List.mem_filter.mp listed).1
  have components := samples_length db timing small (components db) fun _ listed => (List.mem_filter.mp listed).1
  have timestamps := uint32_small timing.timestamps.length (by have bound := small_timestamps db timing small; omega)
  have kinds := kinds_length db
  have values : (nonComponents db).length * (db.numSamples * 8) + (Spm.components db).length * (db.numSamples * 8) =
      db.counters.length * db.numSamples * 8 := by
    rw [← Nat.add_mul, kinds, Nat.mul_assoc]
  simp only [writeChunk, writeFixed, List.length_append, header_length, le_length, timestamps, List.take_length, longs_length,
    groups, counters, components, chunkSizeBytes, sizeofChunkHeader, sizeofChunkDerivedSpmDb]
  omega

end Lengths

section Places
variable (db : DerivedSpmDataBase)

def indexOf (counter : CounterPtr) : Nat := (indexCounters db).map.at counter

theorem of_kind_non_components : ofKind db false db.counters = nonComponents db := by
  simp [ofKind, nonComponents]

theorem of_kind_components : ofKind db true db.counters = components db := by
  simp [ofKind, components]

theorem indexed_non_components : (indexCounters db).nextNonComponentIdx = (nonComponents db).length := by
  rw [(counters_indexed db).nonComponent, of_kind_non_components]

theorem indexed_components : (indexCounters db).nextComponentIdx = (components db).length := by
  rw [(counters_indexed db).component, of_kind_components]

theorem placed (address : CounterPtr) (listed : address ∈ Keyed.keys DerivedSpmCounter.address db.counters) :
    ∃ counter ∈ db.counters, counter.address = address ∧
      (ofKind db (isComponent db counter) db.counters)[indexOf db address]? = some counter := by
  obtain ⟨counter, member, rfl⟩ := List.mem_map.mp listed
  obtain ⟨index, found, place⟩ := (counters_indexed db).placed counter member
  have at_index : indexOf db counter.address = index := by rw [indexOf, CounterIndexMap.at, found, Option.getD_some]
  exact ⟨counter, member, rfl, by rw [at_index, place]⟩

theorem index_small (timing : SpmTiming) (small : Small db timing) (address : CounterPtr)
    (listed : address ∈ Keyed.keys DerivedSpmCounter.address db.counters) : indexOf db address < 2 ^ 32 := by
  obtain ⟨counter, _, _, place⟩ := placed db address listed
  obtain ⟨inside, _⟩ := List.getElem?_eq_some_iff.mp place
  have fewer : (ofKind db (isComponent db counter) db.counters).length ≤ db.counters.length := List.length_filter_le _ _
  have bound := small_counters db timing small
  omega

end Places

section Chunk
variable (db : DerivedSpmDataBase) (timing : SpmTiming)

def groupInfo (group : DerivedSpmGroup) : GroupInfo := ⟨group.name, group.description, group.members.map (indexOf db)⟩

def counterInfo (counter : DerivedSpmCounter) : CounterInfo :=
  ⟨counter.displayName, counter.description, counter.usageType, counter.components.map (indexOf db)⟩

def componentInfo (counter : DerivedSpmCounter) : ComponentInfo :=
  ⟨counter.displayName, counter.description, counter.usageType⟩

def writtenChunk : ChunkDerivedSpmDb where
  sizeInBytes := chunkSizeBytes db timing
  samplingInterval := timing.sampleInterval
  timestamps := timing.timestamps
  groupInfos := db.groups.map (groupInfo db)
  counterInfos := (nonComponents db).map (counterInfo db)
  componentInfos := (components db).map componentInfo
  counterValues := (nonComponents db).map DerivedSpmCounter.samples
  componentValues := (components db).map DerivedSpmCounter.samples

variable (small : Small db timing)

include small

theorem reads_groups :
    Reads (many readGroupInfo db.groups.length) (db.groups.flatMap (writeDerivedSpmGroupInfo (indexCounters db).map))
      (db.groups.map (groupInfo db)) := by
  apply reads_each
  intro group listed
  have size := small_group db timing small group listed
  apply reads_group _ group (by omega)
  intro member inside
  exact index_small db timing small member (db.membersListed group listed member inside)

theorem reads_counters :
    Reads (many readCounterInfo (nonComponents db).length)
      ((nonComponents db).flatMap (writeDerivedSpmCounterInfo (indexCounters db).map))
      ((nonComponents db).map (counterInfo db)) := by
  apply reads_each
  intro counter listed
  obtain ⟨member, kind⟩ := List.mem_filter.mp listed
  have size := small_counter db timing small counter member
  rw [counterInfoSize, if_neg (by simpa using kind)] at size
  apply reads_counter _ counter (by omega)
  intro component inside
  exact index_small db timing small component (db.componentsListed counter member component inside)

theorem reads_components :
    Reads (many readComponentInfo (components db).length) ((components db).flatMap writeDerivedSpmComponentInfo)
      ((components db).map componentInfo) := by
  apply reads_each
  intro counter listed
  obtain ⟨member, kind⟩ := List.mem_filter.mp listed
  have size := small_counter db timing small counter member
  rw [counterInfoSize, if_pos kind] at size
  exact reads_component counter (by omega)

variable (timed : db.counters ≠ [] → timing.timestamps.length = db.numSamples)

include timed

theorem reads_values (listed : List DerivedSpmCounter) (known : ∀ counter ∈ listed, counter ∈ db.counters) :
    Reads (many (many long timing.timestamps.length) listed.length) (listed.flatMap (writeSamples db))
      (listed.map DerivedSpmCounter.samples) := by
  apply reads_each
  intro counter member
  have count := timed (List.ne_nil_of_mem (known counter member))
  rw [sampled_length db timing small counter (known counter member), count, ← db.sampled counter (known counter member)]
  exact reads_longs counter.samples

theorem reads_chunk : Reads readChunk (writeChunk db timing) (writtenChunk db timing) := by
  have size : chunkSizeBytes db timing < 2 ^ 31 := small
  have identifier : chunkTypeDerivedSpmDatabase % 2 ^ 8 = chunkTypeDerivedSpmDatabase := rfl
  have timestamps := small_timestamps db timing small
  have groups := small_groups db timing small
  have counters := small_counters db timing small
  have kinds := kinds_length db
  have nonComponent := indexed_non_components db
  have component := indexed_components db
  have all := uint32_small timing.timestamps.length (by omega)
  simp only [writeChunk, writeChunkHeader, writeFixed, nonComponent, component, all, List.take_length, List.append_assoc]
  exact reads_bind (reads_uint32 _ (by decide)) <| reads_bind (reads_uint 2 0 (by decide)) <|
    reads_bind (reads_uint 2 0 (by decide)) <| reads_bind (reads_uint32 _ (by omega)) <|
    reads_bind (reads_uint32 0 (by decide)) <| reads_check identifier <|
    reads_bind (reads_uint32 _ (by decide)) <| reads_bind (reads_uint32 0 (by decide)) <|
    reads_bind (reads_uint32 _ (by omega)) <| reads_bind (reads_uint32 _ (by omega)) <|
    reads_bind (reads_uint32 _ (by omega)) <| reads_bind (reads_uint32 _ (by omega)) <| reads_bind (reads_word _) <|
    reads_check rfl <| reads_bind (reads_longs _) <| reads_bind (reads_groups db timing small) <|
    reads_bind (reads_counters db timing small) <| reads_bind (reads_components db timing small) <|
    reads_bind (reads_values db timing small timed _ fun _ listed => (List.mem_filter.mp listed).1) <|
    reads_last _ (reads_values db timing small timed _ fun _ listed => (List.mem_filter.mp listed).1)

end Chunk

section RoundTrip
variable (db : DerivedSpmDataBase) (timing : SpmTiming)

def Flat : Prop := ∀ counter ∈ db.counters, isComponent db counter = true → counter.components = []

-- No group has a component for a member.
def Apart : Prop := ∀ group ∈ db.groups, ∀ member ∈ group.members, member ∉ componentCounters db

-- The chunk has one number for the timestamps and for the samples of each counter.
structure Representable : Prop where
  flat : Flat db
  apart : Apart db
  timed : db.counters ≠ [] → timing.timestamps.length = db.numSamples
  small : Small db timing

theorem flat_iff :
    (db.counters.any fun counter => isComponent db counter && !counter.components.isEmpty) = false ↔ Flat db := by
  rw [List.any_eq_false]
  constructor
  · intro none counter listed kind
    simpa [kind] using none counter listed
  · intro flat counter listed
    cases kind : isComponent db counter with
    | false => simp
    | true => simp [flat counter listed kind]

theorem serialize_chunk (flat : Flat db) (small : Small db timing) : serializeChunkDerivedSpmDb db timing = writeChunk db timing := by
  rw [serializeChunkDerivedSpmDb, (flat_iff db).mpr flat, if_neg (by simp), chunk_length db timing small, Nat.sub_self]
  exact List.append_nil _

theorem designates_counter (address : CounterPtr) (listed : address ∈ Keyed.keys DerivedSpmCounter.address db.counters)
    (apart : address ∉ componentCounters db) : Designates (nonComponents db) (indexOf db address) address := by
  obtain ⟨counter, _, rfl, place⟩ := placed db address listed
  have kind : isComponent db counter = false := by simpa [isComponent] using apart
  rw [kind, of_kind_non_components] at place
  rw [Designates, place, Option.map_some]

theorem designates_component (address : CounterPtr) (listed : address ∈ Keyed.keys DerivedSpmCounter.address db.counters)
    (component : address ∈ componentCounters db) : Designates (components db) (indexOf db address) address := by
  obtain ⟨counter, _, rfl, place⟩ := placed db address listed
  have kind : isComponent db counter = true := by simpa [isComponent] using component
  rw [kind, of_kind_components] at place
  rw [Designates, place, Option.map_some]

theorem describes (flat : Flat db) (apart : Apart db) :
    Describes db timing (writtenChunk db timing) (nonComponents db) (components db) where
  complete := kinds_perm db
  interval := rfl
  timestamps := rfl
  groupInfos := by
    simp only [writtenChunk, List.forall₂_map_left_iff, List.forall₂_same]
    intro group listed
    refine ⟨rfl, rfl, ?_⟩
    simp only [groupInfo, List.forall₂_map_left_iff, List.forall₂_same]
    intro member inside
    exact designates_counter db member (db.membersListed group listed member inside) (apart group listed member inside)
  counterInfos := by
    simp only [writtenChunk, List.forall₂_map_left_iff, List.forall₂_same]
    intro counter listed
    have member := (List.mem_filter.mp listed).1
    refine ⟨rfl, rfl, rfl, ?_⟩
    simp only [counterInfo, List.forall₂_map_left_iff, List.forall₂_same]
    intro component inside
    exact designates_component db component (db.componentsListed counter member component inside)
      (List.mem_flatMap.mpr ⟨counter, member, inside⟩)
  componentInfos := by
    simp only [writtenChunk, List.forall₂_map_left_iff, List.forall₂_same]
    intro counter listed
    obtain ⟨member, kind⟩ := List.mem_filter.mp listed
    exact ⟨rfl, rfl, rfl, flat counter member kind⟩
  counterValues := rfl
  componentValues := rfl

theorem representable_reads_back (representable : Representable db timing) : ReadsBack db timing := by
  obtain ⟨flat, apart, timed, small⟩ := representable
  have read := reads_chunk db timing small timed []
  rw [List.append_nil] at read
  refine ⟨writtenChunk db timing, nonComponents db, components db, ?_, describes db timing flat apart⟩
  rw [serialize_chunk db timing flat small, readChunkDerivedSpmDb, read]
  exact if_pos ⟨small, (chunk_length db timing small).symm⟩

-- Whatever is read has as many samples for a counter as it has timestamps.
theorem samples_read : Ensures readChunk fun chunk =>
    (∀ values ∈ chunk.counterValues, values.length = chunk.timestamps.length) ∧
      ∀ values ∈ chunk.componentValues, values.length = chunk.timestamps.length := by
  refine ensures_next fun _ => ensures_next fun _ => ensures_next fun _ => ensures_next fun _ => ensures_next fun _ =>
    ensures_next fun _ => ensures_next fun _ => ensures_next fun _ => ensures_next fun count => ensures_next fun _ =>
    ensures_next fun _ => ensures_next fun _ => ensures_next fun _ => ensures_next fun _ => ?_
  refine ensures_bind (many_length long count) fun timestamps length => ensures_next fun _ => ensures_next fun _ =>
    ensures_next fun _ => ?_
  refine ensures_bind (many_each (many long count) _ _ (many_length long count)) fun _ counters => ?_
  refine ensures_bind (many_each (many long count) _ _ (many_length long count)) fun _ components => ?_
  apply ensures_pure
  simpa only [length] using ⟨counters, components⟩

theorem chunk_read (bytes : List UInt8) (chunk : ChunkDerivedSpmDb) (read : readChunkDerivedSpmDb bytes = some chunk) :
    readChunk bytes = some (chunk, []) ∧ bytes.length < 2 ^ 31 := by
  unfold readChunkDerivedSpmDb at read
  split at read
  · rename_i other found
    split at read
    · rename_i size
      obtain rfl := Option.some.inj read
      exact ⟨found, by omega⟩
    · contradiction
  · contradiction
  · contradiction

theorem nested_unwritten (nested : ¬Flat db) : serializeChunkDerivedSpmDb db timing = [] := by
  rw [← flat_iff, Bool.not_eq_false] at nested
  rw [serializeChunkDerivedSpmDb, nested, if_pos rfl]

theorem described_once {α β : Type} (relates : α → β → Prop) (infos : List α) (items : List β)
    (each : List.Forall₂ relates infos items) (item : β) (listed : item ∈ items) : ∃ info, relates info item := by
  induction each with
  | nil => cases listed
  | @cons info other _ _ first _ ih =>
      rcases List.mem_cons.mp listed with rfl | later
      · exact ⟨info, first⟩
      · exact ih later

theorem designated_listed (counters : List DerivedSpmCounter) (index : Nat) (address : CounterPtr)
    (designates : Designates counters index address) : address ∈ Keyed.keys DerivedSpmCounter.address counters := by
  obtain ⟨counter, found, rfl⟩ := Option.map_eq_some_iff.mp designates
  exact List.mem_map_of_mem (List.mem_of_getElem? found)

section Back
variable (back : ReadsBack db timing)

include back

theorem reads_back_flat : Flat db := by
  obtain ⟨chunk, counters, components, read, _⟩ := back
  by_contra nested
  rw [nested_unwritten db timing nested] at read
  contradiction

theorem reads_back_small : Small db timing := by
  have flat := reads_back_flat db timing back
  obtain ⟨chunk, counters, components, read, _⟩ := back
  have bound := (chunk_read _ _ read).2
  have padded : chunkSizeBytes db timing ≤ (serializeChunkDerivedSpmDb db timing).length := by
    rw [serializeChunkDerivedSpmDb, (flat_iff db).mpr flat, if_neg (by simp), List.length_append, List.length_replicate]
    omega
  exact Nat.lt_of_le_of_lt padded bound

theorem reads_back_timed (some : db.counters ≠ []) : timing.timestamps.length = db.numSamples := by
  obtain ⟨chunk, counters, components, read, described⟩ := back
  obtain ⟨ofCounters, ofComponents⟩ := samples_read _ _ _ (chunk_read _ _ read).1
  obtain ⟨counter, listed⟩ := List.exists_mem_of_ne_nil _ some
  have count := db.sampled counter listed
  rw [← described.timestamps, ← count]
  rcases List.mem_append.mp (described.complete.symm.mem_iff.mp listed) with inside | inside
  · refine (ofCounters _ ?_).symm
    rw [described.counterValues]
    exact List.mem_map_of_mem inside
  · refine (ofComponents _ ?_).symm
    rw [described.componentValues]
    exact List.mem_map_of_mem inside

theorem reads_back_apart : Apart db := by
  obtain ⟨chunk, counters, components, read, described⟩ := back
  intro group listed member inside component
  obtain ⟨counter, known, part⟩ := List.mem_flatMap.mp component
  have apart : (Keyed.keys DerivedSpmCounter.address (counters ++ components)).Nodup :=
    ((described.complete.map _).nodup_iff).mpr db.distinct
  rw [Keyed.keys, List.map_append] at apart
  obtain ⟨info, groupDescribed⟩ := described_once _ _ _ described.groupInfos group listed
  obtain ⟨index, designated⟩ := described_once _ _ _ groupDescribed.members member inside
  have counted := designated_listed counters index member designated
  rcases List.mem_append.mp (described.complete.symm.mem_iff.mp known) with above | below
  · obtain ⟨counterInfo, counterDescribed⟩ := described_once _ _ _ described.counterInfos counter above
    obtain ⟨place, componentDesignated⟩ := described_once _ _ _ counterDescribed.components member part
    have counted' := designated_listed components place member componentDesignated
    exact (List.nodup_append.mp apart).2.2 member counted member counted' rfl
  · obtain ⟨componentInfo, componentDescribed⟩ := described_once _ _ _ described.componentInfos counter below
    rw [componentDescribed.components] at part
    cases part

end Back

theorem reads_back_iff : ReadsBack db timing ↔ Representable db timing :=
  ⟨fun back => ⟨reads_back_flat db timing back, reads_back_apart db timing back, reads_back_timed db timing back,
    reads_back_small db timing back⟩, representable_reads_back db timing⟩

theorem derived_chunk_read_back :
    (¬Flat db → serializeChunkDerivedSpmDb db timing = []) ∧ (Representable db timing → ReadsBack db timing) :=
  ⟨nested_unwritten db timing, representable_reads_back db timing⟩

end RoundTrip

section Databases

def counter (address : CounterPtr) (components : List CounterPtr) : DerivedSpmCounter :=
  ⟨address, [UInt8.ofNat (65 + address)], [], 0, components, [7]⟩

def cacheHits : DerivedSpmDataBase where
  counters := [counter 0 [1, 2], counter 1 [], counter 2 []]
  groups := [⟨[76, 50], [], [0]⟩]
  numSamples := 1
  distinct := by decide
  membersListed := by decide
  componentsListed := by decide
  sampled := by decide

theorem cache_hits_read_back : ReadsBack cacheHits ⟨4096, [9]⟩ := by
  apply (derived_chunk_read_back cacheHits ⟨4096, [9]⟩).2
  constructor
  · unfold Flat
    decide
  · unfold Apart
    decide
  · intro _
    rfl
  · unfold Small
    decide

-- The component of a counter has a component.
def nestedHits : DerivedSpmDataBase where
  counters := [counter 0 [1], counter 1 [2], counter 2 []]
  groups := [⟨[76, 50], [], [0]⟩]
  numSamples := 1
  distinct := by decide
  membersListed := by decide
  componentsListed := by decide
  sampled := by decide

def sharedHits : DerivedSpmDataBase where
  counters := [counter 0 [1], counter 1 []]
  groups := [⟨[76, 50], [], [0, 1]⟩]
  numSamples := 1
  distinct := by decide
  membersListed := by decide
  componentsListed := by decide
  sampled := by decide

def groupNamed (length : Nat) : DerivedSpmDataBase where
  counters := []
  groups := [⟨List.replicate length 76, [], []⟩]
  numSamples := 1
  distinct := by decide
  membersListed := by simp
  componentsListed := by decide
  sampled := by decide

theorem group_named_size (length : Nat) (interval : UInt32) : chunkSizeBytes (groupNamed length) ⟨interval, []⟩ = 64 + length := by
  simp only [chunkSizeBytes, groupNamed, groupInfoSize, sizeofChunkDerivedSpmDb, sizeofGroupInfo, List.map_cons, List.map_nil,
    List.sum_cons, List.sum_nil, List.length_replicate, List.length_nil]
  omega

-- A nested component, a component in a group, a second timestamp, a size that
-- turns negative.
theorem databases_misread :
    ¬ReadsBack nestedHits ⟨4096, [9]⟩ ∧ ¬ReadsBack sharedHits ⟨4096, [9]⟩ ∧ ¬ReadsBack cacheHits ⟨4096, [9, 10]⟩ ∧
      ¬ReadsBack (groupNamed (2 ^ 31)) ⟨4096, []⟩ := by
  refine ⟨fun back => ?_, fun back => ?_, fun back => ?_, fun back => ?_⟩
  · have flat := reads_back_flat _ _ back
    unfold Flat at flat
    revert flat
    decide
  · have apart := reads_back_apart _ _ back
    unfold Apart at apart
    revert apart
    decide
  · have timed := reads_back_timed _ _ back (by decide)
    contradiction
  · have small := reads_back_small _ _ back
    rw [Small, group_named_size] at small
    omega

end Databases

end RadeonPanel.Spm

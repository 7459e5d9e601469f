import Mathlib.Algebra.Group.Nat.Defs
import RadeonPanel.Spm.AppendOutcome

set_option autoImplicit false

namespace RadeonPanel.Spm

open Bytes

-- The records of the RDF chunks as a reader has them.
structure SessionRecord where
  numDerivedCounters : Nat
  groupCount : Nat
deriving DecidableEq, Repr

structure DerivedSpmCounterHeader where
  counterIndex : Nat
  componentCount : Nat
  unit : UInt32
  nameLength : Nat
  descLength : Nat
deriving DecidableEq, Repr

structure CounterRecord where
  counterIndex : Nat
  unit : UInt32
  samples : List UInt64
  componentIndexList : List Nat
  name : List UInt8
  description : List UInt8
deriving DecidableEq, Repr

structure DerivedSpmGroupHeader where
  groupIndex : Nat
  memberCount : Nat
  nameLength : Nat
  descLength : Nat
deriving DecidableEq, Repr

structure GroupRecord where
  groupIndex : Nat
  counterIndexList : List Nat
  name : List UInt8
  description : List UInt8
deriving DecidableEq, Repr

section Read

def whole {α : Type} (read : Reader α) (bytes : List UInt8) : Option α :=
  match read bytes with
  | some (value, []) => some value
  | some (_, _ :: _) | none => none

theorem whole_reads {α : Type} {read : Reader α} {written : List UInt8} {value : α} (reads : Reads read written value) :
    whole read written = some value := by
  have all := reads []
  rw [List.append_nil] at all
  rw [whole, all]

def readSessionRecord : Reader SessionRecord := do
  let _pciId ← uint 4
  let numDerivedCounters ← uint 4
  let groupCount ← uint 4
  pure ⟨numDerivedCounters, groupCount⟩

def readDerivedSpmSession (chunk : RdfChunk) : Option SessionRecord :=
  if chunk.identifier = "DerivedSpmSes" ∧ chunk.header = [] then whole readSessionRecord chunk.data else none

def readCounterHeader : Reader DerivedSpmCounterHeader := do
  let _pciId ← uint 4
  let counterIndex ← uint 4
  let componentCount ← uint 4
  let unit ← word
  let nameLength ← uint 4
  let descLength ← uint 4
  pure ⟨counterIndex, componentCount, unit, nameLength, descLength⟩

-- What the header does not count is samples.
def readCounterData (header : DerivedSpmCounterHeader) (size : Nat) : Reader CounterRecord := do
  let samples ← many long ((size - (header.componentCount * 4 + header.nameLength + header.descLength)) / 8)
  let componentIndexList ← many (uint 4) header.componentCount
  let name ← take header.nameLength
  let description ← take header.descLength
  pure ⟨header.counterIndex, header.unit, samples, componentIndexList, name, description⟩

def readDerivedSpmCounter (chunk : RdfChunk) : Option CounterRecord :=
  if chunk.identifier = "DerivedSpmCtr" then
    match whole readCounterHeader chunk.header with
    | some header => whole (readCounterData header chunk.data.length) chunk.data
    | none => none
  else none

def readGroupHeader : Reader DerivedSpmGroupHeader := do
  let _pciId ← uint 4
  let groupIndex ← uint 4
  let memberCount ← uint 4
  let nameLength ← uint 4
  let descLength ← uint 4
  pure ⟨groupIndex, memberCount, nameLength, descLength⟩

def readGroupData (header : DerivedSpmGroupHeader) : Reader GroupRecord := do
  let counterIndexList ← many (uint 4) header.memberCount
  let name ← take header.nameLength
  let description ← take header.descLength
  pure ⟨header.groupIndex, counterIndexList, name, description⟩

def readDerivedSpmGroup (chunk : RdfChunk) : Option GroupRecord :=
  if chunk.identifier = "DerivedSpmGroup" then
    match whole readGroupHeader chunk.header with
    | some header => whole (readGroupData header) chunk.data
    | none => none
  else none

end Read

section Describes
variable (db : DerivedSpmDataBase)

structure DescribesRdfCounter (record : CounterRecord) (counter : DerivedSpmCounter) : Prop where
  samples : record.samples = counter.samples
  unit : record.unit = counter.usageType
  name : record.name = counter.displayName
  description : record.description = counter.description
  components : List.Forall₂ (Designates db.counters) record.componentIndexList counter.components

structure DescribesRdfGroup (record : GroupRecord) (group : DerivedSpmGroup) : Prop where
  name : record.name = group.name
  description : record.description = group.description
  members : List.Forall₂ (Designates db.counters) record.counterIndexList group.members

-- One session chunk, then the counters by their index, then the groups by theirs.
structure RdfReadsBack (chunks : List RdfChunk) : Prop where
  session : chunks[0]?.bind readDerivedSpmSession = some ⟨db.counters.length, db.groups.length⟩
  complete : chunks.length = 1 + db.counters.length + db.groups.length
  counters : ∀ i counter, db.counters[i]? = some counter → ∃ record, chunks[1 + i]?.bind readDerivedSpmCounter = some record ∧
    record.counterIndex = i ∧ DescribesRdfCounter db record counter
  groups : ∀ i group, db.groups[i]? = some group → ∃ record,
    chunks[1 + db.counters.length + i]?.bind readDerivedSpmGroup = some record ∧
      record.groupIndex = i ∧ DescribesRdfGroup db record group

-- The loop over the groups counts with 32 bits: it ends only when there are fewer.
def AppendsAll (a : Answers) (chunks : List RdfChunk) : Prop :=
  db.groups.length < 2 ^ 32 ∧ appendChunks a db = (.ok, chunks)

end Describes

section Written
variable (after : List UInt8 → Nat → UInt8) (db : DerivedSpmDataBase)

theorem copy_text_length (text : List UInt8) (length : Nat) : (copyText after text length).length = length := by
  rw [copyText, List.length_take, List.length_append, List.length_cons, List.length_map, List.length_range]
  omega

theorem terminated_take (text rest : List UInt8) (ended : ∀ i, text[i]? = some 0 → i + 1 = text.length) :
    (text.takeWhile (· ≠ 0) ++ 0 :: rest).take text.length = text := by
  induction text with
  | nil => rfl
  | cons byte later ih =>
      by_cases zero : byte = 0
      · subst zero
        have last := ended 0 rfl
        obtain rfl : later = [] := List.eq_nil_of_length_eq_zero (by simpa using last.symm)
        rfl
      · have tail := ih fun i there => by simpa using ended (i + 1) (by simpa using there)
        rw [List.takeWhile_cons_of_pos (by simpa using zero)]
        simpa using tail

theorem taken_terminated (text : List UInt8) (n : Nat) (long_enough : text.length ≤ n)
    (whole : ∀ byte, (text.takeWhile (· ≠ 0) ++ 0 :: List.replicate n byte).take text.length = text) :
    ∀ i, text[i]? = some 0 → i + 1 = text.length := by
  induction text with
  | nil => simp
  | cons byte later ih =>
      rw [List.length_cons] at long_enough
      by_cases zero : byte = 0
      · subst zero
        -- What follows the first 0 would have to be every byte.
        have one := whole 1
        have two := whole 2
        simp [List.take_replicate, Nat.min_eq_left (Nat.le_of_succ_le long_enough)] at one two
        have empty : later.length = 0 := by
          have same := congrArg (fun list => list[0]?) (one.trans two.symm)
          by_cases none : later.length = 0
          · exact none
          · simp [Nat.pos_of_ne_zero none] at same
        obtain rfl := List.eq_nil_of_length_eq_zero empty
        intro i there
        rcases i with _ | i
        · rfl
        · simp at there
      · have tail := ih (by omega) fun other => by
          have all := whole other
          rw [List.takeWhile_cons_of_pos (by simpa using zero)] at all
          simpa using all
        intro i there
        rcases i with _ | i
        · exact absurd (by simpa using there) zero
        · rw [List.length_cons, tail i (by simpa using there)]

theorem copy_text_whole (text : List UInt8) (ended : ∀ i, text[i]? = some 0 → i + 1 = text.length) :
    copyText after text text.length = text := terminated_take text _ ended

theorem copy_text_ended (text : List UInt8) (whole : ∀ after, copyText after text text.length = text) :
    ∀ i, text[i]? = some 0 → i + 1 = text.length := by
  refine taken_terminated text text.length (Nat.le_refl _) fun byte => ?_
  have all := whole fun _ _ => byte
  rw [copyText, List.map_const', List.length_range] at all
  exact all

theorem reads_narrow (value : Nat) : Reads (uint 4) (le 4 value) (uint32 value) := reads_uint_mod 4 value

theorem read_session : readDerivedSpmSession (derivedSpmSession db) = some ⟨uint32 db.counters.length, uint32 db.groups.length⟩ := by
  rw [readDerivedSpmSession, if_pos ⟨rfl, rfl⟩]
  refine whole_reads ?_
  simp only [derivedSpmSession, List.append_assoc]
  exact reads_bind (reads_narrow _) (reads_bind (reads_narrow _) (reads_last _ (reads_narrow _)))

theorem uint32_lt (n : Nat) : uint32 n < 2 ^ 32 := Nat.mod_lt n (by decide)

theorem uint32_le (n : Nat) : uint32 n ≤ n := Nat.mod_le n _

-- The place of a counter among the counters.
theorem positioned (few : db.counters.length < 2 ^ 32) (address : CounterPtr)
    (listed : address ∈ Keyed.keys DerivedSpmCounter.address db.counters) :
    Designates db.counters ((counterPositions db).at address) address ∧ (counterPositions db).at address < 2 ^ 32 := by
  obtain ⟨i, found, place⟩ := KeyedValues.get_zip_idx _ 0 address listed
  have position : (counterPositions db).at address = i := by rw [CounterIndexMap.at, counterPositions, found, Option.getD_some, Nat.zero_add]
  have inside : i < db.counters.length := by simpa [Keyed.keys] using (List.getElem?_eq_some_iff.mp place).1
  rw [position]
  exact ⟨by simpa [Designates, Keyed.keys] using place, Nat.lt_trans inside few⟩

section Lists
variable (few : db.counters.length < 2 ^ 32)
include few

-- The list of indices as far as its length fits.
theorem reads_index_list (listed : List CounterPtr) (known : ∀ address ∈ listed, address ∈ Keyed.keys DerivedSpmCounter.address db.counters) :
    Reads (many (uint 4) (uint32 listed.length)) (writeWords ((listed.map (counterPositions db).at).take (uint32 listed.length)))
      ((listed.map (counterPositions db).at).take (uint32 listed.length)) := by
  have reads := reads_words ((listed.map (counterPositions db).at).take (uint32 listed.length)) fun value member => by
    obtain ⟨address, there, rfl⟩ := List.mem_map.mp (List.mem_of_mem_take member)
    exact (positioned db few address (known address there)).2
  have count : ((listed.map (counterPositions db).at).take (uint32 listed.length)).length = uint32 listed.length := by
    rw [List.length_take, List.length_map]
    exact Nat.min_eq_left (uint32_le _)
  rwa [count] at reads

theorem designated_iff (listed : List CounterPtr) (known : ∀ address ∈ listed, address ∈ Keyed.keys DerivedSpmCounter.address db.counters) :
    List.Forall₂ (Designates db.counters) ((listed.map (counterPositions db).at).take (uint32 listed.length)) listed ↔
      listed.length < 2 ^ 32 := by
  constructor
  · intro designated
    have same := designated.length_eq
    rw [List.length_take, List.length_map, Nat.min_eq_left (uint32_le _)] at same
    rw [← same]
    exact uint32_lt _
  · intro short
    rw [uint32_small _ short, List.take_of_length_le (by simp), List.forall₂_map_left_iff, List.forall₂_same]
    exact fun address there => (positioned db few address (known address there)).1

theorem read_counter (counter : DerivedSpmCounter) (listed : counter ∈ db.counters) (index : Nat) (small : index < 2 ^ 32) :
    readDerivedSpmCounter (derivedSpmCounter after db counter index) = some ⟨index, counter.usageType, counter.samples.take (uint32 db.numSamples),
      (counter.components.map (counterPositions db).at).take (uint32 counter.components.length),
      copyText after counter.displayName (uint32 counter.displayName.length),
      copyText after counter.description (uint32 counter.description.length)⟩ := by
  have header : whole readCounterHeader (derivedSpmCounter after db counter index).header = some ⟨index, uint32 counter.components.length,
      counter.usageType, uint32 counter.displayName.length, uint32 counter.description.length⟩ := by
    refine whole_reads ?_
    simp only [derivedSpmCounter, List.append_assoc]
    exact reads_bind (reads_narrow _) <| reads_bind (reads_uint32 _ small) <| reads_bind (reads_uint32 _ (uint32_lt _)) <|
      reads_bind (reads_word _) <| reads_bind (reads_uint32 _ (uint32_lt _)) <| reads_last _ (reads_uint32 _ (uint32_lt _))
  have indices := reads_index_list db few counter.components fun address there => db.componentsListed counter listed address there
  have name := reads_take (copyText after counter.displayName (uint32 counter.displayName.length))
  have description := reads_take (copyText after counter.description (uint32 counter.description.length))
  rw [copy_text_length] at name description
  have size : ((derivedSpmCounter after db counter index).data.length -
      (uint32 counter.components.length * 4 + uint32 counter.displayName.length + uint32 counter.description.length)) / 8 =
        (counter.samples.take (uint32 db.numSamples)).length := by
    have count : ((counter.components.map (counterPositions db).at).take (uint32 counter.components.length)).length =
        uint32 counter.components.length := by
      rw [List.length_take, List.length_map]
      exact Nat.min_eq_left (uint32_le _)
    simp only [derivedSpmCounter, writeSamples, List.length_append, longs_length, words_length, count, copy_text_length]
    omega
  have named : (derivedSpmCounter after db counter index).identifier = "DerivedSpmCtr" := rfl
  rw [readDerivedSpmCounter, if_pos named, header]
  simp only
  refine whole_reads ?_
  rw [readCounterData, size]
  simp only [derivedSpmCounter, writeSamples, List.append_assoc]
  exact reads_bind (reads_longs _) <| reads_bind indices <| reads_bind name <| reads_last _ description

theorem read_group (group : DerivedSpmGroup) (listed : group ∈ db.groups) (index : Nat) (small : index < 2 ^ 32) :
    readDerivedSpmGroup (derivedSpmGroup db group index) = some ⟨index,
      (group.members.map (counterPositions db).at).take (uint32 group.members.length),
      group.name.take (uint32 group.name.length), group.description.take (uint32 group.description.length)⟩ := by
  have header : whole readGroupHeader (derivedSpmGroup db group index).header = some ⟨index, uint32 group.members.length,
      uint32 group.name.length, uint32 group.description.length⟩ := by
    refine whole_reads ?_
    simp only [derivedSpmGroup, List.append_assoc]
    exact reads_bind (reads_narrow _) <| reads_bind (reads_uint32 _ small) <| reads_bind (reads_uint32 _ (uint32_lt _)) <|
      reads_bind (reads_uint32 _ (uint32_lt _)) <| reads_last _ (reads_uint32 _ (uint32_lt _))
  have indices := reads_index_list db few group.members fun address there => db.membersListed group listed address there
  have name := reads_take (group.name.take (uint32 group.name.length))
  have description := reads_take (group.description.take (uint32 group.description.length))
  rw [List.length_take, Nat.min_eq_left (uint32_le _)] at name description
  have named : (derivedSpmGroup db group index).identifier = "DerivedSpmGroup" := rfl
  rw [readDerivedSpmGroup, if_pos named, header]
  simp only
  refine whole_reads ?_
  rw [readGroupData]
  simp only [derivedSpmGroup, List.append_assoc]
  exact reads_bind indices <| reads_bind name <| reads_last _ description

end Lists

theorem first_chunk : (derivedChunks after db)[0]? = some (derivedSpmSession db) := rfl

theorem counter_chunk {i : Nat} {counter : DerivedSpmCounter} (there : db.counters[i]? = some counter) :
    (derivedChunks after db)[1 + i]? = some (derivedSpmCounter after db counter i) := by
  have inside := (List.getElem?_eq_some_iff.mp there).1
  rw [derivedChunks, Nat.add_comm 1 i, List.cons_append, List.getElem?_cons_succ, List.getElem?_append_left (by simpa using inside)]
  simp [there]

theorem group_chunk {i : Nat} {group : DerivedSpmGroup} (there : db.groups[i]? = some group) :
    (derivedChunks after db)[1 + db.counters.length + i]? = some (derivedSpmGroup db group i) := by
  rw [derivedChunks, Nat.add_comm 1, Nat.add_right_comm, List.cons_append, List.getElem?_cons_succ, List.getElem?_append_right (by simp)]
  simp [there]

theorem chunk_count : (derivedChunks after db).length = 1 + db.counters.length + db.groups.length := by
  simp [derivedChunks]
  omega

end Written

section Kept
variable (after : List UInt8 → Nat → UInt8) (db : DerivedSpmDataBase)

-- A text that comes back: short enough, with a 0 at its end at most.
def TextKept (text : List UInt8) : Prop := text.length < 2 ^ 32 ∧ ∀ i, text[i]? = some 0 → i + 1 = text.length

structure RdfRepresentable : Prop where
  counters : db.counters.length < 2 ^ 32
  samples : db.counters ≠ [] → db.numSamples < 2 ^ 32
  counterTexts : ∀ counter ∈ db.counters, TextKept counter.displayName ∧ TextKept counter.description
  components : ∀ counter ∈ db.counters, counter.components.length < 2 ^ 32
  groupTexts : ∀ group ∈ db.groups, group.name.length < 2 ^ 32 ∧ group.description.length < 2 ^ 32
  members : ∀ group ∈ db.groups, group.members.length < 2 ^ 32

theorem copy_text_kept {text : List UInt8} (kept : TextKept text) : copyText after text (uint32 text.length) = text := by
  rw [uint32_small _ kept.1]
  exact copy_text_whole after text kept.2

theorem text_kept {text : List UInt8} (all : ∀ after, copyText after text (uint32 text.length) = text) : TextKept text := by
  have same := congrArg List.length (all fun _ _ => 0)
  rw [copy_text_length] at same
  have short : text.length < 2 ^ 32 := by rw [← same]; exact uint32_lt _
  rw [uint32_small _ short] at all
  exact ⟨short, copy_text_ended text all⟩

theorem taken_short {α : Type} {list : List α} : list.take (uint32 list.length) = list ↔ list.length < 2 ^ 32 := by
  constructor
  · intro same
    have lengths := congrArg List.length same
    rw [List.length_take, Nat.min_eq_left (uint32_le _)] at lengths
    rw [← lengths]
    exact uint32_lt _
  · intro short
    rw [uint32_small _ short, List.take_length]

theorem chunks_read_back (few : db.groups.length < 2 ^ 32) (kept : RdfRepresentable db) : RdfReadsBack db (derivedChunks after db) where
  session := by
    rw [first_chunk, Option.bind_some, read_session, uint32_small _ kept.counters, uint32_small _ few]
  complete := chunk_count after db
  counters := by
    intro i counter there
    have listed := List.mem_of_getElem? there
    have inside := (List.getElem?_eq_some_iff.mp there).1
    have sampled := kept.samples (List.ne_nil_of_mem listed)
    have read := read_counter after db kept.counters counter listed i (Nat.lt_trans inside kept.counters)
    rw [counter_chunk after db there, Option.bind_some]
    refine ⟨_, read, rfl, ?_, rfl, ?_, ?_, ?_⟩
    · rw [uint32_small _ sampled, ← db.sampled counter listed, List.take_length]
    · exact copy_text_kept after (kept.counterTexts counter listed).1
    · exact copy_text_kept after (kept.counterTexts counter listed).2
    · exact (designated_iff db kept.counters _ (db.componentsListed counter listed)).mpr (kept.components counter listed)
  groups := by
    intro i group there
    have listed := List.mem_of_getElem? there
    have inside := (List.getElem?_eq_some_iff.mp there).1
    rw [group_chunk after db there, Option.bind_some]
    refine ⟨_, read_group db kept.counters group listed i (Nat.lt_trans inside few), rfl, ?_, ?_, ?_⟩
    · exact taken_short.mpr (kept.groupTexts group listed).1
    · exact taken_short.mpr (kept.groupTexts group listed).2
    · exact (designated_iff db kept.counters _ (db.membersListed group listed)).mpr (kept.members group listed)

theorem read_back_kept (few : db.groups.length < 2 ^ 32) (all : ∀ after, RdfReadsBack db (derivedChunks after db)) : RdfRepresentable db := by
  have session := (all fun _ _ => 0).session
  rw [first_chunk, Option.bind_some, read_session] at session
  have narrow : uint32 db.counters.length = db.counters.length := congrArg SessionRecord.numDerivedCounters (Option.some.inj session)
  have counters : db.counters.length < 2 ^ 32 := by rw [← narrow]; exact uint32_lt _
  have each : ∀ after i counter, db.counters[i]? = some counter → DescribesRdfCounter db ⟨i, counter.usageType,
      counter.samples.take (uint32 db.numSamples), (counter.components.map (counterPositions db).at).take (uint32 counter.components.length),
      copyText after counter.displayName (uint32 counter.displayName.length),
      copyText after counter.description (uint32 counter.description.length)⟩ counter := by
    intro after i counter there
    obtain ⟨record, read, -, describes⟩ := (all after).counters i counter there
    have inside := (List.getElem?_eq_some_iff.mp there).1
    rw [counter_chunk after db there, Option.bind_some,
      read_counter after db counters counter (List.mem_of_getElem? there) i (Nat.lt_trans inside counters)] at read
    rwa [Option.some.inj read]
  have groups : ∀ i group, db.groups[i]? = some group → DescribesRdfGroup db ⟨i,
      (group.members.map (counterPositions db).at).take (uint32 group.members.length),
      group.name.take (uint32 group.name.length), group.description.take (uint32 group.description.length)⟩ group := by
    intro i group there
    obtain ⟨record, read, -, describes⟩ := (all fun _ _ => 0).groups i group there
    have inside := (List.getElem?_eq_some_iff.mp there).1
    rw [group_chunk _ db there, Option.bind_some, read_group db counters group (List.mem_of_getElem? there) i (Nat.lt_trans inside few)] at read
    rwa [Option.some.inj read]
  refine ⟨counters, ?_, ?_, ?_, ?_, ?_⟩
  · intro some_counter
    obtain ⟨counter, rest, shape⟩ := List.exists_cons_of_ne_nil some_counter
    have there : db.counters[0]? = some counter := by rw [shape]; rfl
    have samples := (each (fun _ _ => 0) 0 counter there).samples
    simp only [← db.sampled counter (List.mem_of_getElem? there)] at samples ⊢
    exact taken_short.mp samples
  · intro counter listed
    obtain ⟨i, there⟩ := List.mem_iff_getElem?.mp listed
    exact ⟨text_kept fun after => (each after i counter there).name, text_kept fun after => (each after i counter there).description⟩
  · intro counter listed
    obtain ⟨i, there⟩ := List.mem_iff_getElem?.mp listed
    exact (designated_iff db counters _ (db.componentsListed counter listed)).mp (each (fun _ _ => 0) i counter there).components
  · intro group listed
    obtain ⟨i, there⟩ := List.mem_iff_getElem?.mp listed
    exact ⟨taken_short.mp (groups i group there).name, taken_short.mp (groups i group there).description⟩
  · intro group listed
    obtain ⟨i, there⟩ := List.mem_iff_getElem?.mp listed
    exact (designated_iff db counters _ (db.membersListed group listed)).mp (groups i group there).members

theorem written_whole (a : Answers) (list chunks : List RdfChunk) (call : Nat) (ok : writeChunks a list call = (.ok, chunks)) : chunks = list := by
  induction list generalizing call chunks with
  | nil => exact (congrArg Prod.snd ok).symm
  | cons chunk rest ih =>
      rw [writeChunks] at ok
      split at ok
      · obtain ⟨status, rfl⟩ := Prod.mk.inj ok
        exact congrArg (chunk :: ·) (ih _ (call + 1) (Prod.ext status rfl))
      · simp at ok

theorem writes_all (a : Answers) (list : List RdfChunk) (call : Nat) (writes : ∀ call, a.writeChunk call = true) :
    writeChunks a list call = (.ok, list) := by
  induction list generalizing call with
  | nil => rfl
  | cons chunk rest ih => simp [writeChunks, writes, ih]

theorem rdf_chunks_read_back_iff : (∀ a chunks, AppendsAll db a chunks → RdfReadsBack db chunks) ↔
    (db.groups.length < 2 ^ 32 → RdfRepresentable db) := by
  constructor
  · intro all few
    refine read_back_kept db few fun after => ?_
    exact all { working db with afterText := after } _ ⟨few, writes_all _ _ 0 fun _ => rfl⟩
  · rintro kept a chunks ⟨few, ok⟩
    rw [written_whole a _ chunks 0 ok]
    exact chunks_read_back a.afterText db few (kept few)

-- One counter with a 0 inside its name.
def zeroNamed : DerivedSpmDataBase where
  counters := [⟨1, [97, 0, 98], [99], 0, [], [7]⟩]
  groups := []
  numSamples := 1
  distinct := by decide
  membersListed := by simp
  componentsListed := by simp
  sampled := by simp

theorem zero_named_misread :
    AppendsAll zeroNamed (working zeroNamed) (derivedChunks (fun _ _ => 0) zeroNamed) ∧
      ¬ RdfReadsBack zeroNamed (derivedChunks (fun _ _ => 0) zeroNamed) := by
  refine ⟨⟨by decide, writes_all _ _ 0 fun _ => rfl⟩, fun reads => ?_⟩
  obtain ⟨record, read, -, describes⟩ := reads.counters 0 _ rfl
  have name : record.name = [97, 0, 0] := congrArg CounterRecord.name (Option.some.inj (Eq.symm read))
  exact absurd (name.symm.trans describes.name) (by decide)

end Kept

end RadeonPanel.Spm

import Mathlib.Algebra.GroupWithZero.Nat
import RadeonPanel.Spm.LoaderAgreement

set_option autoImplicit false

namespace RadeonPanel.Spm

open Bytes

section Copy
variable {file : SpmRdfFile}

def counterChunkSize (file : SpmRdfFile) (j : Nat) : Nat := (file.getChunkDataSize kSpmDataChunkId j).getD 0

-- Where the data of a counter begins: after the chunks before it.
def counterOffset (file : SpmRdfFile) : Nat → Nat
  | 0 => 0
  | j + 1 => counterOffset file j + counterChunkSize file j

-- What `InitializeRdf` asks of one counter chunk when it copies it.
structure Copyable (file : SpmRdfFile) (size j : Nat) : Prop where
  sized : (file.getChunkDataSize kSpmDataChunkId j).isSome
  readable : (file.readChunkData kSpmDataChunkId j).isSome
  fits : counterOffset file (j + 1) ≤ size

-- Where the chunk ended up.
structure Placed (file : SpmRdfFile) (size : Nat) (offset : Option UInt32) (last : Memory) (j : Nat) : Prop where
  copyable : Copyable file size j
  offset_words : offset = some (UInt32.ofNat (counterOffset file j / 2))
  bytes : ∀ data, file.readChunkData kSpmDataChunkId j = some data → ∀ i < counterChunkSize file j, last (counterOffset file j + i) = data i

theorem copy_succ {size remaining k offset : Nat} {counterData : Memory} {copied : List UInt32 × Memory}
    (ok : copyCounterData file size (remaining + 1) k offset counterData = some copied) :
    ∃ chunkSize data later, file.getChunkDataSize kSpmDataChunkId k = some chunkSize ∧ chunkSize + offset ≤ size ∧
      file.readChunkData kSpmDataChunkId k = some data ∧
        copyCounterData file size remaining (k + 1) (offset + chunkSize) (counterData.put offset chunkSize data) = some later ∧
          copied = (UInt32.ofNat (offset / 2) :: later.1, later.2) := by
  rw [copyCounterData] at ok
  split at ok
  · contradiction
  · next chunkSize sized =>
      split at ok
      · contradiction
      · next fits =>
          split at ok
          · contradiction
          · next data read =>
              simp only [Option.bind_eq_bind, Option.bind_eq_some_iff, Option.pure_def, Option.some.injEq] at ok
              obtain ⟨later, known, rfl⟩ := ok
              exact ⟨chunkSize, data, later, sized, by omega, read, known, rfl⟩

theorem copy_places {size remaining k : Nat} {counterData : Memory} {copied : List UInt32 × Memory}
    (ok : copyCounterData file size remaining k (counterOffset file k) counterData = some copied) :
    (∀ a < counterOffset file k, copied.2 a = counterData a) ∧
      ∀ i < remaining, Placed file size copied.1[i]? copied.2 (k + i) := by
  induction remaining generalizing k counterData copied with
  | zero =>
      obtain rfl := Option.some.inj ok
      exact ⟨fun a _ => rfl, fun i less => absurd less (Nat.not_lt_zero i)⟩
  | succ remaining ih =>
      obtain ⟨chunkSize, data, later, sized, fits, read, known, rfl⟩ := copy_succ ok
      have width : counterChunkSize file k = chunkSize := by rw [counterChunkSize, sized]; rfl
      have next : counterOffset file k + chunkSize = counterOffset file (k + 1) := by rw [counterOffset, width]
      rw [next] at known
      obtain ⟨before, placed⟩ := ih known
      constructor
      · intro a less
        rw [before a (by omega), Memory.put_elsewhere _ _ (.inl less)]
      · intro i less
        rcases i with _ | i
        · refine ⟨⟨by simp [sized], by simp [read], by simp only [Nat.add_zero]; omega⟩, by simp, fun other there i inside => ?_⟩
          obtain rfl := Option.some.inj (read.symm.trans there)
          rw [Nat.add_zero, width] at inside
          rw [Nat.add_zero, before _ (by omega), Memory.put_here _ _ inside]
        · have one := placed i (by omega)
          rw [show k + (i + 1) = k + 1 + i by omega]
          simpa using one

theorem copy_succeeds {size remaining k : Nat} (counterData : Memory) (all : ∀ i < remaining, Copyable file size (k + i)) :
    ∃ copied, copyCounterData file size remaining k (counterOffset file k) counterData = some copied := by
  induction remaining generalizing k counterData with
  | zero => exact ⟨_, rfl⟩
  | succ remaining ih =>
      have first := all 0 (by omega)
      rw [Nat.add_zero] at first
      obtain ⟨chunkSize, sized⟩ := Option.isSome_iff_exists.mp first.sized
      obtain ⟨data, read⟩ := Option.isSome_iff_exists.mp first.readable
      have width : counterChunkSize file k = chunkSize := by rw [counterChunkSize, sized]; rfl
      have next : counterOffset file k + chunkSize = counterOffset file (k + 1) := by rw [counterOffset, width]
      obtain ⟨later, known⟩ := ih (k := k + 1) (counterData.put (counterOffset file k) chunkSize data) fun i less => by
        simpa only [Nat.add_assoc, Nat.add_comm 1] using all (i + 1) (by omega)
      refine ⟨(UInt32.ofNat (counterOffset file k / 2) :: later.1, later.2), ?_⟩
      have fits : ¬ size < chunkSize + counterOffset file k := by have := first.fits; omega
      simp only [copyCounterData, sized, read, if_neg fits, next, known]
      rfl

end Copy

section Accepted
variable {file : SpmRdfFile} {fresh : Memory} {db : RawSpmDb}

def counterCount (file : SpmRdfFile) : Nat := (file.getChunkCount kSpmDataChunkId).getD 0

-- What `InitializeRdf` has read when it accepts.
structure RdfLoaded (file : SpmRdfFile) (session : SpmSession) (data : Memory) (headers : List SpmCounterDataHeader) : Prop where
  session_read : sessionRdf file = some (session, data)
  headers_read : headersRdf file session = some headers
  filled : session.numTimestamps.toNat * sizeOfOneTimestamp headers ≠ 0

def InitializeRdfAccepts (file : SpmRdfFile) : Prop := ∃ session data headers, RdfLoaded file session data headers ∧
  ∀ j < headers.length, Copyable file (session.numTimestamps.toNat * sizeOfOneTimestamp headers) j

theorem initialize_rdf_loaded (ok : initializeRdf file fresh = .ok db) : ∃ session data headers, RdfLoaded file session data headers := by
  rw [initializeRdf] at ok
  split at ok
  · contradiction
  · next session data session_read =>
      split at ok
      · contradiction
      · next headers headers_read =>
          dsimp only at ok
          split at ok
          · contradiction
          · next filled => exact ⟨session, data, headers, session_read, headers_read, filled⟩

section Read
variable {session : SpmSession} {data : Memory} {headers : List SpmCounterDataHeader} (read : RdfLoaded file session data headers)
include read

theorem initialize_rdf_exists {copied : List UInt32 × Memory}
    (copies : copyCounterData file (session.numTimestamps.toNat * sizeOfOneTimestamp headers) headers.length 0 0 fresh = some copied) :
    ∃ db, initializeRdf file fresh = .ok db := by
  simp only [initializeRdf, read.session_read, read.headers_read, if_neg read.filled]
  split
  · next failed => rw [copies] at failed; contradiction
  · exact ⟨_, rfl⟩

-- The database that comes out.
structure RdfDatabase (session : SpmSession) (data : Memory) (headers : List SpmCounterDataHeader) (copied : List UInt32 × Memory)
    (db : RawSpmDb) : Prop where
  format : db.format = .rdf
  interval : db.samplingInterval = session.samplingInterval
  count : db.numberOfTimestamps = session.numTimestamps
  timestamps : db.timestamps = readTimestamps data 0 session.numTimestamps.toNat
  infos : db.spmCounterInfo = headers.map rdfCounterInfo
  offsets : db.counterOffsets = copied.1
  words : db.counterData = words copied.2 0 (session.numTimestamps.toNat * sizeOfOneTimestamp headers)

theorem initialize_rdf_database (ok : initializeRdf file fresh = .ok db) : ∃ copied,
    copyCounterData file (session.numTimestamps.toNat * sizeOfOneTimestamp headers) headers.length 0 0 fresh = some copied ∧
      RdfDatabase session data headers copied db := by
  simp only [initializeRdf, read.session_read, read.headers_read, if_neg read.filled] at ok
  split at ok
  · contradiction
  · next copied copies =>
      obtain rfl := Except.ok.inj ok
      exact ⟨copied, copies, rfl, rfl, rfl, rfl, rfl, rfl, rfl⟩

end Read

theorem initialize_rdf_accepts (fresh : Memory) : (∃ db, initializeRdf file fresh = .ok db) ↔ InitializeRdfAccepts file := by
  constructor
  · rintro ⟨db, ok⟩
    obtain ⟨session, data, headers, read⟩ := initialize_rdf_loaded ok
    obtain ⟨copied, copies, -⟩ := initialize_rdf_database read ok
    refine ⟨session, data, headers, read, fun j less => ?_⟩
    have placed := (copy_places (k := 0) copies).2 j less
    rw [Nat.zero_add] at placed
    exact placed.copyable
  · rintro ⟨session, data, headers, read, copyable⟩
    obtain ⟨copied, copies⟩ := copy_succeeds (k := 0) fresh fun i less => by simpa using copyable i less
    exact initialize_rdf_exists read copies

-- Every counter the session announces has a chunk with a header.
theorem headers_at {session : SpmSession} {data : Memory} {headers : List SpmCounterDataHeader} (read : RdfLoaded file session data headers) :
    counterCount file = session.numSpmCounters.toNat ∧ headers.length = counterCount file ∧
      ∀ j header, headers[j]? = some header → file.readCounterHeader j = some header := by
  have headers_read := read.headers_read
  rw [headersRdf] at headers_read
  split at headers_read
  · next counted =>
      have length := map_m_length headers_read
      have looped : loopCount session.numSpmCounters.toNat = session.numSpmCounters.toNat := by
        by_cases small : session.numSpmCounters.toNat < 2 ^ 31
        · rw [loopCount, if_pos small]
        · rw [loopCount, if_neg small] at length
          exact absurd (by simp [List.eq_nil_of_length_eq_zero length, sizeOfOneTimestamp]) read.filled
      have count : counterCount file = session.numSpmCounters.toNat := by rw [counterCount, counted]; rfl
      refine ⟨count, by rw [length, looped, count], fun j header there => ?_⟩
      have bound : j < loopCount session.numSpmCounters.toNat := by
        rw [← length]
        exact (List.getElem?_eq_some_iff.mp there).1
      obtain ⟨header', there', readable⟩ := map_m_at headers_read bound
      obtain rfl := Option.some.inj (there.symm.trans there')
      rw [readDataHeader] at readable
      split at readable
      · split at readable
        · next found =>
            split at readable
            · contradiction
            · rw [found, Option.some.inj readable]
        · contradiction
      · contradiction
  · contradiction

end Accepted

section Derived
variable {file : SpmRdfFile}

-- What the loader of the derived database asks of the session.
structure SessionLoads (file : SpmRdfFile) (session : SpmSession) : Prop where
  counted : ∃ n, file.getChunkCount kSpmSessionChunkId = some (n + 1)
  headed : file.getChunkHeaderSize kSpmSessionChunkId 0 = some sizeofSpmSessionHeader
  header : file.readSessionHeader = some session
  readable : (file.readChunkData kSpmSessionChunkId 0).isSome

def CounterLoads (file : SpmRdfFile) (T j : Nat) : Prop :=
  ∃ header, file.readCounterHeader j = some header ∧ counterChunkSize file j = uint32 (header.dataSize.toNat * T) ∧
    (header.dataSize = 2 ∨ header.dataSize = 4) ∧ (file.readChunkData kSpmDataChunkId j).isSome

def DerivedLoaderAccepts (file : SpmRdfFile) : Prop :=
  ∃ session, SessionLoads file session ∧ ∀ j < counterCount file, CounterLoads file session.numTimestamps.toNat j

def loadedTiming (file : SpmRdfFile) (session : SpmSession) (data : Memory) : SpmTiming :=
  ⟨session.samplingInterval, (List.range session.numTimestamps.toNat).map fun t =>
    if 8 * t + 8 ≤ (file.getChunkDataSize kSpmSessionChunkId 0).getD 0 then UInt64.ofNat (data.uint (8 * t) 8) else 0⟩

theorem load_session_rdf (timing : SpmTiming) : loadSpmSessionRdf file.chunkFile = some timing ↔
    ∃ session data, SessionLoads file session ∧ file.readChunkData kSpmSessionChunkId 0 = some data ∧
      timing = loadedTiming file session data := by
  constructor
  · intro loaded
    rw [loadSpmSessionRdf] at loaded
    split at loaded
    · contradiction
    · next n counted =>
        split at loaded
        · next headed =>
            split at loaded
            · next header timestamps known stamped =>
                obtain ⟨session, found, rfl⟩ := Option.map_eq_some_iff.mp known
                obtain ⟨data, read, rfl⟩ := Option.map_eq_some_iff.mp stamped
                refine ⟨session, data, ⟨⟨n, ?_⟩, headed, found, by rw [read]; rfl⟩, read, (Option.some.inj loaded).symm⟩
                cases count : file.getChunkCount kSpmSessionChunkId with
                | none => rw [show file.chunkFile.getChunkCount "SpmSession" = none from count] at counted; contradiction
                | some m => rw [show file.chunkFile.getChunkCount "SpmSession" = some m from count] at counted; exact congrArg some counted
            · contradiction
        · contradiction
  · rintro ⟨session, data, ⟨⟨n, counted⟩, headed, header, -⟩, read, rfl⟩
    have counted' : (file.chunkFile.getChunkCount "SpmSession").getD 0 = n + 1 := congrArg (Option.getD · 0) counted
    have headed' : file.chunkFile.getChunkHeaderSize "SpmSession" = some sizeofSpmSessionHeader := headed
    have header' : file.chunkFile.readSessionHeader = some ⟨session.samplingInterval, session.numTimestamps⟩ := by
      rw [SpmRdfFile.chunkFile, header]; rfl
    have stamped : file.chunkFile.readTimestamps = some fun t =>
        if 8 * t + 8 ≤ (file.getChunkDataSize kSpmSessionChunkId 0).getD 0 then UInt64.ofNat (data.uint (8 * t) 8) else 0 :=
      Option.map_eq_some_iff.mpr ⟨data, read, rfl⟩
    simp only [loadSpmSessionRdf, counted', headed', header', stamped, if_true]
    rfl

-- A counter as the loader of the derived database keeps it.
def loadedCounter (file : SpmRdfFile) (T j : Nat) (header : SpmCounterDataHeader) (data : Memory) : RawSpmCounter :=
  ⟨header.gpuBlock, header.blockInstance, header.eventIndex, (List.range T).map fun t =>
    if header.dataSize.toNat * t + header.dataSize.toNat ≤ counterChunkSize file j then
      UInt32.ofNat (data.uint (header.dataSize.toNat * t) header.dataSize.toNat) else 0⟩

theorem load_counter_rdf (T j : Nat) (counter : RawSpmCounter) : loadCounterRdf file.chunkFile T j = some counter ↔
    ∃ header data, file.readCounterHeader j = some header ∧ counterChunkSize file j = uint32 (header.dataSize.toNat * T) ∧
      (header.dataSize = 2 ∨ header.dataSize = 4) ∧ file.readChunkData kSpmDataChunkId j = some data ∧
        counter = loadedCounter file T j header data := by
  have sized : (file.chunkFile.getChunkDataSize "SpmCounterData" j).getD 0 = counterChunkSize file j := rfl
  constructor
  · intro loaded
    rw [loadCounterRdf] at loaded
    split at loaded
    · contradiction
    · next header known =>
        simp only [sized] at loaded
        split at loaded
        · next sizes =>
            split at loaded
            · contradiction
            · next samples read =>
                have known' : file.readCounterHeader j = some header := known
                have read' : file.readCounterData j = some samples := read
                rw [SpmRdfFile.readCounterData, known'] at read'
                cases there : file.readChunkData kSpmDataChunkId j with
                | none => rw [there] at read'; contradiction
                | some data =>
                    rw [there] at read'
                    obtain rfl := Option.some.inj read'
                    exact ⟨header, data, known', sizes.1, sizes.2, rfl, (Option.some.inj loaded).symm⟩
        · contradiction
  · rintro ⟨header, data, known, size, width, read, rfl⟩
    have known' : file.chunkFile.readCounterHeader j = some header := known
    have read' : file.chunkFile.readCounterData j = file.readCounterData j := rfl
    have sizes : counterChunkSize file j = uint32 (header.dataSize.toNat * T) ∧ (header.dataSize = 2 ∨ header.dataSize = 4) := ⟨size, width⟩
    simp only [loadCounterRdf, known', sized, if_pos sizes, read', SpmRdfFile.readCounterData, known, read]
    rfl

theorem load_raw_rdf {T : Nat} {raw : List RawSpmCounter} (loaded : loadRawSpmRdf file.chunkFile T = some raw) :
    raw.length = counterCount file ∧
      ∀ j < counterCount file, ∃ counter, raw[j]? = some counter ∧ loadCounterRdf file.chunkFile T j = some counter :=
  ⟨map_m_length loaded, fun _ bound => map_m_at loaded bound⟩

theorem derived_loader_accepts : (∃ timing raw, loadSpmSessionRdf file.chunkFile = some timing ∧
    loadRawSpmRdf file.chunkFile (uint32 timing.timestamps.length) = some raw) ↔ DerivedLoaderAccepts file := by
  have stamps : ∀ session data, uint32 (loadedTiming file session data).timestamps.length = session.numTimestamps.toNat := by
    intro session data
    rw [loadedTiming, List.length_map, List.length_range]
    exact Nat.mod_eq_of_lt session.numTimestamps.toNat_lt
  constructor
  · rintro ⟨timing, raw, timed, loaded⟩
    obtain ⟨session, data, loads, -, rfl⟩ := (load_session_rdf timing).mp timed
    rw [stamps] at loaded
    refine ⟨session, loads, fun j bound => ?_⟩
    obtain ⟨counter, -, known⟩ := (load_raw_rdf loaded).2 j bound
    obtain ⟨header, data, found, size, width, read, -⟩ := (load_counter_rdf _ j counter).mp known
    exact ⟨header, found, size, width, by rw [read]; rfl⟩
  · rintro ⟨session, loads, counters⟩
    obtain ⟨data, read⟩ := Option.isSome_iff_exists.mp loads.readable
    have each : ∀ j ∈ List.range (counterCount file), ∃ counter,
        loadCounterRdf file.chunkFile session.numTimestamps.toNat j = some counter := by
      intro j member
      obtain ⟨header, found, size, width, readable⟩ := counters j (List.mem_range.mp member)
      obtain ⟨data, read⟩ := Option.isSome_iff_exists.mp readable
      exact ⟨_, (load_counter_rdf _ j _).mpr ⟨header, data, found, size, width, read, rfl⟩⟩
    obtain ⟨raw, loaded⟩ := map_m_exists _ _ each
    refine ⟨loadedTiming file session data, raw, (load_session_rdf _).mpr ⟨session, data, loads, read, rfl⟩, ?_⟩
    rw [stamps]
    exact loaded

end Derived

section Agreement
variable {file : SpmRdfFile} {fresh : Memory}

def RdfAgree (file : SpmRdfFile) (fresh : Memory) : Prop := ∀ db timing raw, initializeRdf file fresh = .ok db →
  loadSpmSessionRdf file.chunkFile = some timing → loadRawSpmRdf file.chunkFile (uint32 timing.timestamps.length) = some raw →
    Agree db timing raw

-- Every counter chunk holds one sample for each timestamp.
def ExactChunks (file : SpmRdfFile) : Prop := ∀ session j header size, file.readSessionHeader = some session → j < counterCount file →
  file.readCounterHeader j = some header → file.getChunkDataSize kSpmDataChunkId j = some size →
    size = header.dataSize.toNat * session.numTimestamps.toNat

-- Every counter's data begins where a 32-bit number of words can say.
def Narrow (file : SpmRdfFile) : Prop := ∀ j < counterCount file, counterOffset file j < 2 ^ 33

theorem session_loads {session : SpmSession} {data : Memory} (read : sessionRdf file = some (session, data)) :
    SessionLoads file session ∧ file.getChunkDataSize kSpmSessionChunkId 0 = some (session.numTimestamps.toNat * 8) ∧
      file.readChunkData kSpmSessionChunkId 0 = some data := by
  rw [sessionRdf] at read
  split at read
  · contradiction
  · contradiction
  · next n counted =>
      split at read
      · next headed =>
          split at read
          · contradiction
          · next other known =>
              split at read
              · next sized =>
                  obtain ⟨bytes, there, same⟩ := Option.map_eq_some_iff.mp read
                  obtain ⟨rfl, rfl⟩ := Prod.mk.inj same
                  exact ⟨⟨⟨n, counted⟩, headed, known, by rw [there]; rfl⟩, sized, there⟩
              · contradiction
      · contradiction

-- Counter `j` as both loaders have it.
structure BothRead (file : SpmRdfFile) (T size : Nat) (db : RawSpmDb) (raw : List RawSpmCounter) (last : Memory) (j : Nat)
    (header : SpmCounterDataHeader) (data : Memory) : Prop where
  info : db.spmCounterInfo[j]? = some (rdfCounterInfo header)
  counter : raw[j]? = some (loadedCounter file T j header data)
  read : file.readChunkData kSpmDataChunkId j = some data
  width : header.dataSize = 2 ∨ header.dataSize = 4
  chunk : counterChunkSize file j = header.dataSize.toNat * T
  offset : db.counterOffsets[j]? = some (UInt32.ofNat (counterOffset file j / 2))
  bytes : ∀ i < counterChunkSize file j, last (counterOffset file j + i) = data i
  fits : counterOffset file (j + 1) ≤ size

section Both
variable {session : SpmSession} {data : Memory} {headers : List SpmCounterDataHeader} {copied : List UInt32 × Memory}
variable {db : RawSpmDb} {raw : List RawSpmCounter}

theorem both_read (read : RdfLoaded file session data headers) (database : RdfDatabase session data headers copied db)
    (copies : copyCounterData file (session.numTimestamps.toNat * sizeOfOneTimestamp headers) headers.length 0 0 fresh = some copied)
    (loaded : loadRawSpmRdf file.chunkFile session.numTimestamps.toNat = some raw) (full : ExactChunks file)
    {j : Nat} (bound : j < counterCount file) :
    ∃ header data, BothRead file session.numTimestamps.toNat (session.numTimestamps.toNat * sizeOfOneTimestamp headers) db raw
      copied.2 j header data := by
  obtain ⟨counted, length, listed⟩ := headers_at read
  obtain ⟨header, there⟩ : ∃ header, headers[j]? = some header := ⟨headers[j], List.getElem?_eq_getElem (by omega)⟩
  obtain ⟨counter, kept, known⟩ := (load_raw_rdf loaded).2 j bound
  obtain ⟨header', data', found, size, width, readable, rfl⟩ := (load_counter_rdf _ j counter).mp known
  obtain rfl := Option.some.inj (found.symm.trans (listed j header there))
  have placed := (copy_places (k := 0) copies).2 j (by omega)
  rw [Nat.zero_add] at placed
  obtain ⟨chunkSize, sized⟩ := Option.isSome_iff_exists.mp placed.copyable.sized
  have chunk : counterChunkSize file j = header'.dataSize.toNat * session.numTimestamps.toNat := by
    rw [counterChunkSize, sized]
    exact full session j header' chunkSize (session_loads read.session_read).1.header bound found sized
  refine ⟨header', data', ?_, kept, readable, width, chunk, ?_, placed.bytes data' readable, placed.copyable.fits⟩
  · rw [database.infos, List.getElem?_map, there]; rfl
  · rw [database.offsets, placed.offset_words]

variable {T size j t : Nat} {last : Memory} {header : SpmCounterDataHeader}

theorem rdf_sample_width (database : db.format = .rdf) : (db.dataSizeInWords (rdfCounterInfo header)).toNat = header.dataSize.toNat / 2 := by
  simp only [RawSpmDb.dataSizeInWords, database, rdfCounterInfo, UInt32.toNat_div]
  rfl

theorem rdf_raw_place {offset : UInt32} (database : db.format = .rdf) (there : db.counterOffsets[j]? = some offset) (t k : Nat) :
    db.rawPlace t j (rdfCounterInfo header) k = offset.toNat + t * (header.dataSize.toNat / 2) + k := by
  have place : db.offsetInWords j (rdfCounterInfo header) = offset.toNat := by
    simp only [RawSpmDb.offsetInWords, database, List.getD_eq_getElem?_getD, there, Option.getD_some]
  rw [RawSpmDb.rawPlace, place, rdf_sample_width database]

theorem rdf_sample_kept (both : BothRead file T size db raw last j header data) (less : t < T) :
    (loadedCounter file T j header data).samples[t]? =
      some (UInt32.ofNat (last.uint (counterOffset file j + header.dataSize.toNat * t) header.dataSize.toNat)) := by
  have reached : header.dataSize.toNat * t + header.dataSize.toNat ≤ counterChunkSize file j := by
    rw [both.chunk, ← Nat.mul_succ]
    exact Nat.mul_le_mul_left _ less
  have same : data.uint (header.dataSize.toNat * t) header.dataSize.toNat =
      last.uint (counterOffset file j + header.dataSize.toNat * t) header.dataSize.toNat :=
    Memory.uint_congr _ _ _ _ _ fun i inside => by rw [Nat.add_assoc, both.bytes _ (by omega)]
  simp [loadedCounter, less, reached, same]

theorem rdf_sample_read (both : BothRead file T size db raw last j header data) (database : db.format = .rdf)
    (count : db.numberOfTimestamps.toNat = T) (content : db.counterData = words last 0 size) (less : t < T) :
    db.getCounterValue t j = .ok (readWords (words last 0 size)
      (fun k => (UInt32.ofNat (counterOffset file j / 2)).toNat + t * (header.dataSize.toNat / 2) + k) (header.dataSize.toNat / 2)) := by
  rw [RawSpmDb.get_counter_value_words (by simp [database]) both.info (by omega), content]
  rw [rdf_sample_width database]
  exact congrArg Except.ok (congrArg (fun place => readWords _ place _) (funext (rdf_raw_place database both.offset t)))

end Both

theorem counter_offset_even (each : ∀ j < counterCount file, counterChunkSize file j % 2 = 0) :
    ∀ j ≤ counterCount file, counterOffset file j % 2 = 0 := by
  intro j bound
  induction j with
  | zero => rfl
  | succ j ih =>
      have before := ih (by omega)
      have chunk := each j (by omega)
      rw [counterOffset]
      omega

-- Every byte before a counter's data is of a counter before it.
theorem counter_covers {j a : Nat} (before : a < counterOffset file j) :
    ∃ k < j, ∃ i < counterChunkSize file k, a = counterOffset file k + i := by
  induction j with
  | zero => exact absurd before (Nat.not_lt_zero a)
  | succ j ih =>
      rw [counterOffset] at before
      by_cases earlier : a < counterOffset file j
      · obtain ⟨k, less, found⟩ := ih earlier
        exact ⟨k, by omega, found⟩
      · exact ⟨j, by omega, a - counterOffset file j, by omega, by omega⟩

theorem sample_in_words {last : Memory} {size offset width t T : Nat} (sizes : width = 2 ∨ width = 4) (aligned : offset % 2 = 0)
    (fits : offset + width * T ≤ size) (less : t < T) :
    readWords (words last 0 size) (fun k => offset / 2 + t * (width / 2) + k) (width / 2) =
      some (UInt32.ofNat (last.uint (offset + width * t) width)) := by
  have halves : width / 2 = 1 ∨ width / 2 = 2 := by omega
  have inside : offset / 2 + t * (width / 2) + width / 2 ≤ size / 2 := by rcases sizes with rfl | rfl <;> omega
  have address : 0 + 2 * (offset / 2 + t * (width / 2)) = offset + width * t := by rcases sizes with rfl | rfl <;> omega
  rw [read_words_at _ halves, if_pos inside, address, show 2 * (width / 2) = width by omega]

-- What is common to the two databases when both loaders accept.
structure BothLoaded (file : SpmRdfFile) (session : SpmSession) (data last : Memory) (size : Nat) (db : RawSpmDb) (timing : SpmTiming)
    (raw : List RawSpmCounter) : Prop where
  format : db.format = .rdf
  interval : db.samplingInterval = session.samplingInterval
  count : db.numberOfTimestamps.toNat = session.numTimestamps.toNat
  timestamps : db.timestamps = readTimestamps data 0 session.numTimestamps.toNat
  words : db.counterData = words last 0 size
  infos : db.spmCounterInfo.length = counterCount file
  timed : timing = loadedTiming file session data
  stamps : file.getChunkDataSize kSpmSessionChunkId 0 = some (session.numTimestamps.toNat * 8)
  raws : raw.length = counterCount file
  sampled : session.numTimestamps.toNat ≠ 0
  each : ∀ j < counterCount file, ∃ header data, BothRead file session.numTimestamps.toNat size db raw last j header data

theorem both_loaded (full : ExactChunks file) {db : RawSpmDb} {timing : SpmTiming} {raw : List RawSpmCounter}
    (ok : initializeRdf file fresh = .ok db) (timed : loadSpmSessionRdf file.chunkFile = some timing)
    (loadedRaw : loadRawSpmRdf file.chunkFile (uint32 timing.timestamps.length) = some raw) :
    ∃ session data last size, BothLoaded file session data last size db timing raw := by
  obtain ⟨session, data, headers, read⟩ := initialize_rdf_loaded ok
  obtain ⟨copied, copies, database⟩ := initialize_rdf_database read ok
  obtain ⟨loads, stamps, bytes⟩ := session_loads read.session_read
  obtain ⟨other, data', loads', bytes', rfl⟩ := (load_session_rdf timing).mp timed
  obtain rfl := Option.some.inj (loads.header.symm.trans loads'.header)
  obtain rfl := Option.some.inj (bytes.symm.trans bytes')
  have stamped : uint32 (loadedTiming file session data).timestamps.length = session.numTimestamps.toNat := by
    rw [loadedTiming, List.length_map, List.length_range]
    exact Nat.mod_eq_of_lt session.numTimestamps.toNat_lt
  rw [stamped] at loadedRaw
  obtain ⟨-, length, -⟩ := headers_at read
  exact ⟨session, data, copied.2, _, {
    format := database.format
    interval := database.interval
    count := by rw [database.count]
    timestamps := database.timestamps
    words := database.words
    infos := by rw [database.infos, List.length_map, length]
    timed := rfl
    stamps := stamps
    raws := (load_raw_rdf loadedRaw).1
    sampled := fun none => read.filled (by rw [none, Nat.zero_mul])
    each := fun j bound => both_read read database copies loadedRaw full bound }⟩

section Loaded
variable {session : SpmSession} {data last : Memory} {size : Nat} {db : RawSpmDb} {timing : SpmTiming} {raw : List RawSpmCounter}
variable (both : BothLoaded file session data last size db timing raw)
include both

theorem chunks_even : ∀ j < counterCount file, counterChunkSize file j % 2 = 0 := by
  intro j bound
  obtain ⟨header, _, one⟩ := both.each j bound
  rw [one.chunk]
  rcases one.width with size | size
  · simp [size]
  · simp only [size]
    exact Nat.mod_eq_zero_of_dvd (Nat.dvd_trans (by decide) (Nat.dvd_mul_right 4 _))

theorem loaded_timestamps : db.timestamps = timing.timestamps := by
  rw [both.timestamps, both.timed, readTimestamps, loadedTiming, both.stamps]
  refine List.map_congr_left fun t member => ?_
  have bound := List.mem_range.mp member
  simp only [Option.getD_some, Nat.zero_add]
  rw [if_pos (by omega)]

theorem loaded_counters : db.spmCounterInfo.map (fun info => (info.gpuBlockId, info.gpuBlockInstance, info.eventIndex)) =
    raw.map fun counter => (counter.gpuBlock, counter.blockInstance, counter.eventIndex) := by
  refine List.ext_getElem? fun j => ?_
  by_cases bound : j < counterCount file
  · obtain ⟨header, _, one⟩ := both.each j bound
    rw [List.getElem?_map, List.getElem?_map, one.info, one.counter]
    rfl
  · have short := both.infos
    have short' := both.raws
    rw [List.getElem?_eq_none (by simp; omega), List.getElem?_eq_none (by simp; omega)]

theorem loaded_samples (narrow : Narrow file) : ∀ j counter, raw[j]? = some counter → ∀ t < timing.timestamps.length, ∃ value,
    counter.samples[t]? = some value ∧ db.getCounterValue t j = .ok (some value) := by
  intro j counter there t less
  have bound : j < counterCount file := by
    rw [← both.raws]
    exact (List.getElem?_eq_some_iff.mp there).1
  obtain ⟨header, _, one⟩ := both.each j bound
  obtain rfl := Option.some.inj (there.symm.trans one.counter)
  rw [both.timed, loadedTiming, List.length_map, List.length_range] at less
  refine ⟨_, rdf_sample_kept one less, ?_⟩
  rw [rdf_sample_read one both.format both.count both.words less]
  have place : (UInt32.ofNat (counterOffset file j / 2)).toNat = counterOffset file j / 2 :=
    UInt32.toNat_ofNat_of_lt' (show counterOffset file j / 2 < 4294967296 by have := narrow j bound; omega)
  have aligned := counter_offset_even (chunks_even both) j (by omega)
  have fits := one.fits
  rw [counterOffset, one.chunk] at fits
  rw [place, sample_in_words (by rcases one.width with size | size <;> simp [size]) aligned fits less]

end Loaded

theorem rdf_agree (full : ExactChunks file) (narrow : Narrow file) : RdfAgree file fresh := by
  intro db timing raw ok timed loadedRaw
  obtain ⟨session, data, last, size, both⟩ := both_loaded full ok timed loadedRaw
  exact ⟨by rw [both.interval, both.timed]; rfl, loaded_timestamps both, loaded_counters both, loaded_samples both narrow⟩

-- The same file with other bytes in its chunks.
def withContents (file : SpmRdfFile) (contents : String → Nat → Memory) : SpmRdfFile :=
  { file with readChunkData := fun identifier j => (file.readChunkData identifier j).map fun _ => contents identifier j }

-- Files that differ in the bytes of their chunks only.
structure SameShape (file file' : SpmRdfFile) : Prop where
  counts : file'.getChunkCount = file.getChunkCount
  headerSizes : file'.getChunkHeaderSize = file.getChunkHeaderSize
  dataSizes : file'.getChunkDataSize = file.getChunkDataSize
  session : file'.readSessionHeader = file.readSessionHeader
  headers : file'.readCounterHeader = file.readCounterHeader
  readable : ∀ identifier j, (file'.readChunkData identifier j).isSome = (file.readChunkData identifier j).isSome

namespace SameShape
variable {file' : SpmRdfFile}

theorem with_contents (file : SpmRdfFile) (contents : String → Nat → Memory) : SameShape file (withContents file contents) :=
  ⟨rfl, rfl, rfl, rfl, rfl, fun _ _ => Option.isSome_map⟩

theorem symm (same : SameShape file file') : SameShape file' file :=
  ⟨same.counts.symm, same.headerSizes.symm, same.dataSizes.symm, same.session.symm, same.headers.symm,
    fun identifier j => (same.readable identifier j).symm⟩

theorem chunk_size (same : SameShape file file') (j : Nat) : counterChunkSize file' j = counterChunkSize file j := by
  rw [counterChunkSize, counterChunkSize, same.dataSizes]

theorem offset (same : SameShape file file') (j : Nat) : counterOffset file' j = counterOffset file j := by
  induction j with
  | zero => rfl
  | succ j ih => rw [counterOffset, counterOffset, ih, same.chunk_size]

theorem count (same : SameShape file file') : counterCount file' = counterCount file := by
  rw [counterCount, counterCount, same.counts]

theorem full (same : SameShape file file') (full : ExactChunks file) : ExactChunks file' := by
  intro session j header size
  rw [same.session, same.count, same.headers, same.dataSizes]
  exact full session j header size

theorem narrow (same : SameShape file file') (narrow : Narrow file) : Narrow file' := by
  intro j bound
  rw [same.count] at bound
  rw [same.offset]
  exact narrow j bound

theorem initializes (same : SameShape file file') (accepts : InitializeRdfAccepts file) : InitializeRdfAccepts file' := by
  obtain ⟨session, data, headers, read, copyable⟩ := accepts
  obtain ⟨⟨⟨n, counted⟩, headed, header, readable⟩, stamps, -⟩ := session_loads read.session_read
  rw [← same.readable] at readable
  obtain ⟨data', bytes⟩ := Option.isSome_iff_exists.mp readable
  refine ⟨session, data', headers, ⟨?_, ?_, read.filled⟩, fun j bound => ?_⟩
  · simp only [sessionRdf, same.counts, same.headerSizes, same.session, same.dataSizes, counted, headed, header, stamps, bytes, if_true]
    rfl
  · have headerAlike : readDataHeader file' = readDataHeader file := by
      funext chunkNum
      rw [readDataHeader, readDataHeader, same.headerSizes, same.headers]
    rw [headersRdf, same.counts, headerAlike]
    exact read.headers_read
  · have one := copyable j bound
    exact ⟨by rw [same.dataSizes]; exact one.sized, by rw [same.readable]; exact one.readable, by rw [same.offset]; exact one.fits⟩

theorem derives (same : SameShape file file') (accepts : DerivedLoaderAccepts file) : DerivedLoaderAccepts file' := by
  obtain ⟨session, loads, counters⟩ := accepts
  refine ⟨session, ⟨?_, ?_, ?_, ?_⟩, fun j bound => ?_⟩
  · rw [same.counts]; exact loads.counted
  · rw [same.headerSizes]; exact loads.headed
  · rw [same.session]; exact loads.header
  · rw [same.readable]; exact loads.readable
  · rw [same.count] at bound
    obtain ⟨header, known, size, width, readable⟩ := counters j bound
    exact ⟨header, by rw [same.headers]; exact known, by rw [same.chunk_size]; exact size, width, by rw [same.readable]; exact readable⟩

end SameShape

-- A byte that only counter `j` has.
def firstByte (j : Nat) : String → Nat → Memory := fun _ k i => if k = j ∧ i = 0 then 1 else 0

theorem narrow_needed (full : ExactChunks file) (initialized : InitializeRdfAccepts file) (derived : DerivedLoaderAccepts file)
    (agree : ∀ contents, RdfAgree (withContents file contents) fresh) : Narrow file := by
  intro j bound
  by_cases narrow : counterOffset file j < 2 ^ 33
  · exact narrow
  obtain ⟨db, ok⟩ := (initialize_rdf_accepts fresh).mpr ((SameShape.with_contents file (firstByte j)).initializes initialized)
  obtain ⟨timing, raw, timed, loadedRaw⟩ := derived_loader_accepts.mpr ((SameShape.with_contents file (firstByte j)).derives derived)
  have agreed := agree (firstByte j) db timing raw ok timed loadedRaw
  obtain ⟨session, data, last, size, both⟩ := both_loaded ((SameShape.with_contents file (firstByte j)).full full) ok timed loadedRaw
  obtain ⟨header, data', one⟩ := both.each j bound
  have positive := Nat.pos_of_ne_zero both.sampled
  have stamped : timing.timestamps.length = session.numTimestamps.toNat := by rw [both.timed, loadedTiming, List.length_map, List.length_range]
  obtain ⟨value, kept, returned⟩ := agreed.samples j _ one.counter 0 (by omega)
  rw [rdf_sample_kept one positive] at kept
  rw [rdf_sample_read one both.format both.count both.words positive, ← kept] at returned
  have halves : header.dataSize.toNat / 2 = 1 ∨ header.dataSize.toNat / 2 = 2 := by rcases one.width with size | size <;> simp [size]
  have doubled : 2 * (header.dataSize.toNat / 2) = header.dataSize.toNat := double_half one.width
  have value_read := Except.ok.inj returned
  rw [Nat.zero_mul, Nat.add_zero, Nat.mul_zero, Nat.add_zero, read_words_at _ halves] at value_read
  split at value_read
  · rw [doubled, Nat.zero_add] at value_read
    have less : ∀ address, last.uint address header.dataSize.toNat < 2 ^ 32 := fun address => by
      rw [← doubled]
      exact sample_lt last address halves
    have wide : 0 < header.dataSize.toNat := by omega
    have same := Memory.uint_bytes (of_nat_injective (less _) (less _) (Option.some.inj value_read)) 0 wide
    have chunk : 0 < counterChunkSize (withContents file (firstByte j)) j := by
      rw [one.chunk]
      exact Nat.mul_pos wide positive
    have marked : data' 0 = 1 := by
      have found := one.read
      simp only [withContents, Option.map_eq_some_iff] at found
      obtain ⟨_, -, rfl⟩ := found
      simp [firstByte]
    rw [Nat.add_zero, one.bytes 0 chunk, marked] at same
    have before : 2 * (UInt32.ofNat (counterOffset (withContents file (firstByte j)) j / 2)).toNat <
        counterOffset (withContents file (firstByte j)) j := by
      rw [UInt32.toNat_ofNat', (SameShape.with_contents file (firstByte j)).offset]
      omega
    obtain ⟨k, earlier, i, inside, place⟩ := counter_covers before
    obtain ⟨header', data'', other⟩ := both.each k (Nat.lt_trans earlier bound)
    rw [place, other.bytes i inside] at same
    have found := other.read
    simp only [withContents, Option.map_eq_some_iff] at found
    obtain ⟨_, -, rfl⟩ := found
    exact absurd same (by simp [firstByte, Nat.ne_of_lt earlier])
  · contradiction

-- A wrong counter chunk is not accepted; what both accept is the same, whatever the chunks hold.
def RdfClaim (file : SpmRdfFile) : Prop :=
  (∀ fresh contents, RdfAgree (withContents file contents) fresh) ∧
    (¬ ExactChunks file → (∀ fresh db, initializeRdf file fresh ≠ .ok db) ∧
      ∀ timing raw, loadSpmSessionRdf file.chunkFile = some timing → loadRawSpmRdf file.chunkFile (uint32 timing.timestamps.length) ≠ some raw)

def RdfLaid (file : SpmRdfFile) : Prop :=
  (ExactChunks file → InitializeRdfAccepts file → DerivedLoaderAccepts file → Narrow file) ∧
    (¬ ExactChunks file → ¬ InitializeRdfAccepts file ∧ ¬ DerivedLoaderAccepts file)

theorem initialize_rejects_iff : (∀ fresh db, initializeRdf file fresh ≠ .ok db) ↔ ¬ InitializeRdfAccepts file := by
  constructor
  · intro rejects accepts
    obtain ⟨db, ok⟩ := (initialize_rdf_accepts fun _ => 0).mpr accepts
    exact rejects _ db ok
  · intro refused fresh db ok
    exact refused ((initialize_rdf_accepts fresh).mp ⟨db, ok⟩)

theorem derived_rejects_iff : (∀ timing raw, loadSpmSessionRdf file.chunkFile = some timing →
    loadRawSpmRdf file.chunkFile (uint32 timing.timestamps.length) ≠ some raw) ↔ ¬ DerivedLoaderAccepts file := by
  rw [← derived_loader_accepts]
  constructor
  · rintro rejects ⟨timing, raw, timed, loaded⟩
    exact rejects timing raw timed loaded
  · intro refused timing raw timed loaded
    exact refused ⟨timing, raw, timed, loaded⟩

theorem rdf_claim_iff : RdfClaim file ↔ RdfLaid file := by
  rw [RdfClaim, initialize_rejects_iff, derived_rejects_iff]
  constructor
  · rintro ⟨agree, rejects⟩
    exact ⟨fun full initialized derived => narrow_needed full initialized derived (agree fun _ => 0), rejects⟩
  · rintro ⟨narrow, rejects⟩
    refine ⟨fun fresh contents db timing raw ok timed loaded => ?_, rejects⟩
    have same := SameShape.with_contents file contents
    have initialized := same.symm.initializes ((initialize_rdf_accepts fresh).mp ⟨db, ok⟩)
    have derived := same.symm.derives (derived_loader_accepts.mp ⟨timing, raw, timed, loaded⟩)
    by_cases full : ExactChunks file
    · exact rdf_agree (same.full full) (same.narrow (narrow full initialized derived)) db timing raw ok timed loaded
    · exact absurd initialized (rejects full).1

-- For the legacy chunks that both loaders accept, and for all RDF traces.
theorem loaders_agree_iff (chunk : Memory) (file : SpmRdfFile) :
    (∀ db timing raw, HeaderFirst chunk → RawSpmDb.initializeLegacy chunk = some (.ok db) → loadRawSpmLegacy chunk = some (timing, raw) →
      ((∀ chunk', chunk.Agrees chunk' (dataStart chunk) → LegacyAgree chunk') ↔ LegacyLaid chunk)) ∧
    (RdfClaim file ↔ RdfLaid file) :=
  ⟨fun _ _ _ first loaded loadedRaw => legacy_agree_iff first loaded loadedRaw, rdf_claim_iff⟩

-- A chunk of version 1.2 with two counters and one timestamp.
def twoCounters : Memory := fun i =>
  ([4, 0, 0, 0, 2, 0, 1, 0, 72, 0, 0, 0, 0, 0, 0, 0, 0, 0, 0, 0, 1, 0, 0, 0, 2, 0, 0, 0, 100, 0, 0, 0, 0, 0, 0, 0,
    1, 0, 0, 0, 0, 0, 0, 0, 40, 0, 0, 0, 0, 0, 0, 0, 1, 0, 0, 0, 0, 0, 0, 0, 42, 0, 0, 0, 1, 0, 0, 0, 5, 0, 7, 0] : List UInt8).getD i 0

-- A trace with one timestamp whose second counter chunk is empty.
def shortFile : SpmRdfFile where
  getChunkCount := fun identifier => if identifier = kSpmSessionChunkId then some 1 else some 2
  getChunkHeaderSize := fun _ _ => some 20
  getChunkDataSize := fun identifier j => if identifier = kSpmSessionChunkId then some 8 else some (if j = 0 then 2 else 0)
  readSessionHeader := some ⟨4096, 1, 2⟩
  readCounterHeader := fun j => some ⟨1, 0, UInt32.ofNat j, 2⟩
  readChunkData := fun _ _ => some fun _ => 0

theorem loaders_disagree :
    (∃ db timing raw, HeaderFirst twoCounters ∧ RawSpmDb.initializeLegacy twoCounters = some (.ok db) ∧
      loadRawSpmLegacy twoCounters = some (timing, raw) ∧ ¬ Agree db timing raw) ∧
    (∃ db, initializeRdf shortFile (fun _ => 0) = .ok db) ∧ ¬ RdfClaim shortFile := by
  have wrong : ¬ ExactChunks shortFile := fun full =>
    absurd (full ⟨4096, 1, 2⟩ 1 ⟨1, 0, 1, 2⟩ 0 rfl (by decide) rfl rfl) (by decide)
  have accepted : ∃ db, initializeRdf shortFile (fun _ => 0) = .ok db := ⟨_, rfl⟩
  refine ⟨⟨_, _, _, fun major => absurd major (by decide), rfl, rfl, fun agree => ?_⟩, accepted, fun claim => ?_⟩
  · obtain ⟨value, -, returned⟩ := agree.samples 1 _ rfl 0 (by decide)
    have outside : (RawSpmDb.loadedV1 twoCounters).getCounterValue 0 1 = .ok none := rfl
    exact absurd (Except.ok.inj (outside.symm.trans returned)) (by simp)
  · obtain ⟨db, ok⟩ := accepted
    exact (claim.2 wrong).1 _ db ok

end Agreement

end RadeonPanel.Spm

import Mathlib.Algebra.GroupWithZero.Nat
import RadeonPanel.Spm.RdfSampleCover

set_option autoImplicit false

namespace RadeonPanel.Spm.RdfCover

open Bytes

inductive Allocation where
  | timestamps | spmCounterInfo | counterData
deriving DecidableEq, Repr

-- What `InitializeRdf` leaves in the database, be it that it fails. Of the counter data it
-- is the number of bytes that are copied.
structure LoadState where
  numberOfTimestamps : UInt32
  numberOfSpmCounterInfo : UInt32
  samplingInterval : UInt32
  counterInfo30Supported : Bool
  mappedTimestamps : List MappedTimestamp
  spmCounterInfo : List SpmCounterInfo
  counterDataBytes : Nat
  counterOffsets : List UInt32
deriving DecidableEq, Repr

def LoadState.empty : LoadState := ⟨0, 0, 0, false, [], [], 0, []⟩

section Load
variable (file : SpmRdfFile)

def sessionHeader : Option SpmSession :=
  match file.getChunkCount kSpmSessionChunkId with
  | none | some 0 => none
  | some (_ + 1) => if file.getChunkHeaderSize kSpmSessionChunkId 0 = some sizeofSpmSessionHeader then file.readSessionHeader else none

def sessionTimestamps (session : SpmSession) : Option Memory :=
  if file.getChunkDataSize kSpmSessionChunkId 0 = some (session.numTimestamps.toNat * 8) then
    file.readChunkData kSpmSessionChunkId 0
  else none

-- The headers that the loop reads, and whether it reads them all. One without data is read
-- before it is refused.
def loadHeaders : Nat → Nat → List SpmCounterDataHeader × Bool
  | 0, _ => ([], true)
  | remaining + 1, chunkNum =>
      if file.getChunkHeaderSize kSpmDataChunkId chunkNum = some sizeofSpmCounterDataHeader then
        match file.readCounterHeader chunkNum with
        | none => ([], false)
        | some header =>
            if header.dataSize = 0 then ([header], false)
            else
              let later := loadHeaders remaining (chunkNum + 1)
              (header :: later.1, later.2)
      else ([], false)

-- How far the copying gets.
def copiedBytes (sizeOfCounterData : Nat) : Nat → Nat → Nat → Nat
  | 0, _, offset => offset
  | remaining + 1, chunkNum, offset =>
      match file.getChunkDataSize kSpmDataChunkId chunkNum with
      | none => offset
      | some chunkSize =>
          if sizeOfCounterData < chunkSize + offset then offset
          else
            match file.readChunkData kSpmDataChunkId chunkNum with
            | none => offset
            | some _ => copiedBytes sizeOfCounterData remaining (chunkNum + 1) (offset + chunkSize)

variable (allocates : Allocation → Bool) (fresh : Memory)

def loadCounterData (session : SpmSession) (headers : List SpmCounterDataHeader) (s : LoadState) : Option RgpErrorCode × LoadState :=
  let sizeOfCounterData := session.numTimestamps.toNat * sizeOfOneTimestamp headers
  if sizeOfCounterData = 0 then (some .malformedData, s)
  else if allocates .counterData = false then (some .outOfMemory, s)
  else
    let copied := { s with counterDataBytes := copiedBytes file sizeOfCounterData headers.length 0 0 }
    match copyCounterData file sizeOfCounterData headers.length 0 0 fresh with
    | none => (some .malformedData, copied)
    | some loaded => (none, { copied with counterOffsets := loaded.1 })

def loadCounters (session : SpmSession) (s : LoadState) : Option RgpErrorCode × LoadState :=
  if file.getChunkCount kSpmDataChunkId = some session.numSpmCounters.toNat then
    if allocates .spmCounterInfo = false then (some .outOfMemory, s)
    else
      let read := loadHeaders file (loopCount session.numSpmCounters.toNat) 0
      let filled := { s with spmCounterInfo := read.1.map rdfCounterInfo }
      if read.2 then loadCounterData file allocates fresh session read.1 filled else (some .malformedData, filled)
  else (some .malformedData, s)

-- InitializeRdf with the state that it leaves. `none` is kRgpOk.
def loadRdf : Option RgpErrorCode × LoadState :=
  match sessionHeader file with
  | none => (some .malformedData, .empty)
  | some session =>
      let s := { LoadState.empty with
        numberOfTimestamps := session.numTimestamps
        numberOfSpmCounterInfo := session.numSpmCounters
        samplingInterval := session.samplingInterval
        counterInfo30Supported := true }
      if allocates .timestamps = false then (some .outOfMemory, s)
      else
        match sessionTimestamps file session with
        | none => (some .malformedData, s)
        | some timestamps =>
            loadCounters file allocates fresh session
              { s with mappedTimestamps := (readTimestamps timestamps 0 session.numTimestamps.toNat).map fun timestamp => ⟨timestamp, true⟩ }

end Load

inductive Member where
  | mappedTimestamp (t : Nat)
  | counterInfo (j : Nat)
  | counterOffset (j : Nat)
  | counterData (place : Nat)
deriving DecidableEq, Repr

-- For a derived query the hardware counters are those of the derived counters that the
-- library knows. A value also takes whether there is a counter of that index.
inductive LoadedQuery where
  | getTimestamp (t : Nat)
  | getCounterInfo (j : Nat)
  | getCounterValue (t j : Nat)
  | getNumberOfCounters (isGfx10 : Bool) (hardware : List (List GpaHwCounter))
  | getDerivedInfo (hardware : List (List GpaHwCounter))
  | getDerivedValue (hardware : List (List GpaHwCounter)) (isAvailable : Bool) (t : Nat)
deriving DecidableEq, Repr

namespace LoadState
variable (s : LoadState)

def Loaded : Member → Prop
  | .mappedTimestamp t => t < s.mappedTimestamps.length
  | .counterInfo j => j < s.spmCounterInfo.length
  | .counterOffset j => j < s.counterOffsets.length
  | .counterData place => 2 * place + 2 ≤ s.counterDataBytes

-- The database that the queries see, with zeros where nothing is loaded.
def seen : RawSpmDb where
  format := if s.counterInfo30Supported then .rdf else .low
  samplingInterval := s.samplingInterval
  numberOfTimestamps := s.numberOfTimestamps
  timestamps := (List.range s.numberOfTimestamps.toNat).map fun t => (s.mappedTimestamps[t]?).elim 0 MappedTimestamp.timestamp
  spmCounterInfo := s.spmCounterInfo
  counterOffsets := (List.range s.spmCounterInfo.length).map fun j => s.counterOffsets.getD j 0
  counterData := []
  timestamped := by simp
  offsetsKept := by simp

-- The search for one hardware counter stops at the first match.
def searched (counter : GpaHwCounter) : List Member :=
  match s.seen.matching counter with
  | some j => (List.range (j + 1)).map .counterInfo ++ [.counterOffset j]
  | none => (List.range s.numberOfSpmCounterInfo.toNat).map .counterInfo

def searchedFrom : Lookup → Nat → List GpaHwCounter → List Member
  | _, _, [] => []
  | found, i, counter :: rest =>
      if found.derivedCounterIsSupported then
        s.searched counter ++ searchedFrom (s.seen.lookupCounter found i counter).2 (i + 1) rest
      else []

-- The words of the samples are read also for a counter that is not supported.
def sampledAt (counters : List GpaHwCounter) (t : Nat) : List Member :=
  let found := s.seen.lookupCounters counters
  found.1.zipIdx.flatMap fun entry =>
    if entry.1.counterOffset = kNoOffsetForExtraGpaBlocks ∨ found.2.timingCounterIndex = some entry.2 then []
    else (List.range (max (RawSpmDb.derivedWords entry.1).toNat 1)).map fun k =>
      .counterData (RawSpmDb.derivedPlace (UInt32.ofNat t) entry.1 k)

def calculateReads (hardware : List (List GpaHwCounter)) : List Member :=
  if s.counterInfo30Supported = true ∧ 0 < s.numberOfTimestamps.toNat then
    hardware.flatMap fun counters =>
      s.searchedFrom .start 0 counters ++ (List.range s.numberOfTimestamps.toNat).flatMap (s.sampledAt counters)
  else []

def valueReads (t j : Nat) : List Member :=
  [.mappedTimestamp t, .counterOffset j, .counterInfo j] ++
    ((s.seen.spmCounterInfo[j]?).elim [] fun info =>
      (List.range (max (s.seen.dataSizeInWords info).toNat 1)).map fun k => .counterData (s.seen.rawPlace t j info k))

-- What a query reads of the members that are loaded.
def reads : LoadedQuery → List Member
  | .getTimestamp t => if t < s.mappedTimestamps.length then [.mappedTimestamp t] else []
  | .getCounterInfo j => if j < s.numberOfSpmCounterInfo.toNat ∧ s.counterInfo30Supported = true then [.counterInfo j] else []
  | .getCounterValue t j =>
      if t < s.numberOfTimestamps.toNat ∧ j < s.numberOfSpmCounterInfo.toNat ∧ s.counterInfo30Supported = true then s.valueReads t j else []
  | .getNumberOfCounters isGfx10 hardware =>
      if isGfx10 = true ∧ 0 < s.numberOfSpmCounterInfo.toNat then s.calculateReads hardware else []
  | .getDerivedInfo hardware => s.calculateReads hardware
  | .getDerivedValue hardware isAvailable t =>
      s.calculateReads hardware ++ if isAvailable = true ∧ t < s.numberOfTimestamps.toNat then [.mappedTimestamp t] else []

def ReadsLoaded : Prop := ∀ query, ∀ member ∈ s.reads query, s.Loaded member

end LoadState

section Refines
variable {file : SpmRdfFile} {allocates : Allocation → Bool} {fresh : Memory}

theorem session_rdf_parts : sessionRdf file =
    (sessionHeader file).bind fun session => (sessionTimestamps file session).map fun data => (session, data) := by
  rw [sessionRdf, sessionHeader]
  cases file.getChunkCount kSpmSessionChunkId with
  | none => rfl
  | some n =>
      cases n with
      | zero => rfl
      | succ n =>
          dsimp only
          split
          · cases file.readSessionHeader with
            | none => rfl
            | some session =>
                dsimp only [Option.bind_some, sessionTimestamps]
                split <;> rfl
          · rfl

theorem load_headers_read (n k : Nat) : (List.range' k n).mapM (readDataHeader file) =
    if (loadHeaders file n k).2 then some (loadHeaders file n k).1 else none := by
  induction n generalizing k with
  | zero => rfl
  | succ n ih =>
      rw [List.range'_succ, List.mapM_cons, ih, readDataHeader, loadHeaders]
      split
      · cases file.readCounterHeader k with
        | none => rfl
        | some header =>
            dsimp only
            split
            · rfl
            · dsimp only [Option.bind_eq_bind, Option.bind_some]
              split <;> rfl
      · rfl

theorem headers_rdf_some {session : SpmSession} {headers : List SpmCounterDataHeader} : headersRdf file session = some headers ↔
    file.getChunkCount kSpmDataChunkId = some session.numSpmCounters.toNat ∧
      loadHeaders file (loopCount session.numSpmCounters.toNat) 0 = (headers, true) := by
  rw [headersRdf, List.range_eq_range', load_headers_read]
  generalize loadHeaders file (loopCount session.numSpmCounters.toNat) 0 = read
  obtain ⟨list, complete⟩ := read
  by_cases counted : file.getChunkCount kSpmDataChunkId = some session.numSpmCounters.toNat
  · cases complete <;> simp [counted]
  · simp [counted]

theorem session_rdf_some {session : SpmSession} {data : Memory} : sessionRdf file = some (session, data) ↔
    sessionHeader file = some session ∧ sessionTimestamps file session = some data := by
  rw [session_rdf_parts]
  constructor
  · intro found
    obtain ⟨other, header, mapped⟩ := Option.bind_eq_some_iff.mp found
    obtain ⟨bytes, stamps, same⟩ := Option.map_eq_some_iff.mp mapped
    obtain ⟨rfl, rfl⟩ := Prod.mk.inj same
    exact ⟨header, stamps⟩
  · rintro ⟨header, stamps⟩
    rw [header, Option.bind_some, stamps, Option.map_some]

-- The state that a load leaves which succeeds.
def loadedState (file : SpmRdfFile) (session : SpmSession) (data : Memory) (headers : List SpmCounterDataHeader) (counterOffsets : List UInt32) :
    LoadState where
  numberOfTimestamps := session.numTimestamps
  numberOfSpmCounterInfo := session.numSpmCounters
  samplingInterval := session.samplingInterval
  counterInfo30Supported := true
  mappedTimestamps := (readTimestamps data 0 session.numTimestamps.toNat).map fun timestamp => ⟨timestamp, true⟩
  spmCounterInfo := headers.map rdfCounterInfo
  counterDataBytes := copiedBytes file (session.numTimestamps.toNat * sizeOfOneTimestamp headers) headers.length 0 0
  counterOffsets := counterOffsets

section Read
variable {session : SpmSession} {data : Memory} {headers : List SpmCounterDataHeader} {copied : List UInt32 × Memory}

theorem load_rdf_of_loaded (allocated : ∀ a, allocates a = true) (read : RdfLoaded file session data headers)
    (copies : copyCounterData file (session.numTimestamps.toNat * sizeOfOneTimestamp headers) headers.length 0 0 fresh = some copied) :
    loadRdf file allocates fresh = (none, loadedState file session data headers copied.1) := by
  have every : ∀ a, ¬ allocates a = false := fun a => by simp [allocated]
  obtain ⟨header, stamps⟩ := session_rdf_some.mp read.session_read
  obtain ⟨counted, loaded⟩ := headers_rdf_some.mp read.headers_read
  simp only [loadRdf, header, if_neg (every _), stamps, loadCounters, counted, if_true, loaded, loadCounterData, if_neg read.filled, copies]
  rfl

theorem load_counter_data_ok {s : LoadState} (ok : (loadCounterData file allocates fresh session headers s).1 = none) :
    session.numTimestamps.toNat * sizeOfOneTimestamp headers ≠ 0 ∧ allocates .counterData ≠ false ∧
      ∃ copied, copyCounterData file (session.numTimestamps.toNat * sizeOfOneTimestamp headers) headers.length 0 0 fresh = some copied := by
  rw [loadCounterData] at ok
  dsimp only at ok
  split at ok
  · cases ok
  · next filled =>
      split at ok
      · cases ok
      · next there =>
          split at ok
          · cases ok
          · next copied copies => exact ⟨filled, there, copied, copies⟩

theorem load_counters_ok {s : LoadState} (ok : (loadCounters file allocates fresh session s).1 = none) :
    allocates .spmCounterInfo ≠ false ∧ allocates .counterData ≠ false ∧ ∃ headers copied, headersRdf file session = some headers ∧
      session.numTimestamps.toNat * sizeOfOneTimestamp headers ≠ 0 ∧
        copyCounterData file (session.numTimestamps.toNat * sizeOfOneTimestamp headers) headers.length 0 0 fresh = some copied := by
  rw [loadCounters] at ok
  split at ok
  · next counted =>
      split at ok
      · cases ok
      · next there =>
          dsimp only at ok
          split at ok
          · next complete =>
              obtain ⟨filled, copyable, copied, copies⟩ := load_counter_data_ok ok
              exact ⟨there, copyable, _, copied, headers_rdf_some.mpr ⟨counted, Prod.ext rfl complete⟩, filled, copies⟩
          · cases ok
  · cases ok

theorem load_rdf_loaded (ok : (loadRdf file allocates fresh).1 = none) : (∀ a, allocates a = true) ∧
    ∃ session data headers copied, RdfLoaded file session data headers ∧
      copyCounterData file (session.numTimestamps.toNat * sizeOfOneTimestamp headers) headers.length 0 0 fresh = some copied := by
  rw [loadRdf] at ok
  split at ok
  · cases ok
  · next session header =>
      split at ok
      · cases ok
      · next timed =>
          split at ok
          · cases ok
          · next data stamps =>
              obtain ⟨infos, copyable, headers, copied, headers_read, filled, copies⟩ := load_counters_ok ok
              refine ⟨fun a => ?_, session, data, headers, copied, ⟨session_rdf_some.mpr ⟨header, stamps⟩, headers_read, filled⟩, copies⟩
              cases a with
              | timestamps => exact eq_true_of_ne_false timed
              | spmCounterInfo => exact eq_true_of_ne_false infos
              | counterData => exact eq_true_of_ne_false copyable

end Read

-- What a load leaves that succeeds is the database.
structure Loads (s : LoadState) (db : RawSpmDb) : Prop where
  numberOfTimestamps : s.numberOfTimestamps = db.numberOfTimestamps
  numberOfSpmCounterInfo : s.numberOfSpmCounterInfo.toNat = db.spmCounterInfo.length
  samplingInterval : s.samplingInterval = db.samplingInterval
  mappedTimestamps : s.mappedTimestamps = db.mapTimestamps
  spmCounterInfo : s.spmCounterInfo = db.spmCounterInfo
  counterOffsets : s.counterOffsets = db.counterOffsets

theorem load_rdf_succeeds_iff : (loadRdf file allocates fresh).1 = none ↔ (∀ a, allocates a = true) ∧ InitializeRdfAccepts file := by
  rw [← initialize_rdf_accepts fresh]
  constructor
  · intro ok
    obtain ⟨allocated, session, data, headers, copied, read, copies⟩ := load_rdf_loaded ok
    exact ⟨allocated, initialize_rdf_exists read copies⟩
  · rintro ⟨allocated, db, ok⟩
    obtain ⟨session, data, headers, read⟩ := initialize_rdf_loaded ok
    obtain ⟨copied, copies, -⟩ := initialize_rdf_database read ok
    rw [load_rdf_of_loaded allocated read copies]

theorem load_rdf_refines {db : RawSpmDb} (allocated : ∀ a, allocates a = true) (ok : initializeRdf file fresh = .ok db) :
    Loads (loadRdf file allocates fresh).2 db := by
  obtain ⟨session, data, headers, read⟩ := initialize_rdf_loaded ok
  obtain ⟨copied, copies, database⟩ := initialize_rdf_database read ok
  obtain ⟨counted, length, -⟩ := headers_at read
  rw [load_rdf_of_loaded allocated read copies]
  exact {
    numberOfTimestamps := database.count.symm
    numberOfSpmCounterInfo := by rw [database.infos, List.length_map, length, counted]; rfl
    samplingInterval := database.interval.symm
    mappedTimestamps := by rw [RawSpmDb.mapTimestamps, database.timestamps]; rfl
    spmCounterInfo := database.infos.symm
    counterOffsets := database.offsets.symm }

end Refines

section Failed
variable {file : SpmRdfFile} {allocates : Allocation → Bool} {fresh : Memory} {session : SpmSession}

-- The headers that a loop over `n` counters is to read. It stops behind one without data.
def HeadersRead (file : SpmRdfFile) (k n : Nat) : Prop := ∀ i < n, ∃ header,
  file.getChunkHeaderSize kSpmDataChunkId (k + i) = some sizeofSpmCounterDataHeader ∧ file.readCounterHeader (k + i) = some header ∧
    (i + 1 < n → header.dataSize ≠ 0)

theorem headers_read_succ (n k : Nat) : HeadersRead file k (n + 1) ↔ ∃ header,
    file.getChunkHeaderSize kSpmDataChunkId k = some sizeofSpmCounterDataHeader ∧ file.readCounterHeader k = some header ∧
      (0 < n → header.dataSize ≠ 0) ∧ HeadersRead file (k + 1) n := by
  constructor
  · intro all
    obtain ⟨header, headed, known, filled⟩ := all 0 (Nat.succ_pos n)
    refine ⟨header, headed, known, fun more => filled (by omega), fun i less => ?_⟩
    obtain ⟨later, there, read, next⟩ := all (i + 1) (by omega)
    rw [Nat.add_right_comm]
    exact ⟨later, there, read, fun more => next (by omega)⟩
  · rintro ⟨header, headed, known, filled, rest⟩ i less
    rcases i with _ | i
    · exact ⟨header, headed, known, fun more => filled (by omega)⟩
    · obtain ⟨later, there, read, next⟩ := rest i (by omega)
      rw [Nat.add_right_comm] at there read
      exact ⟨later, there, read, fun more => next (by omega)⟩

theorem load_headers_all (n k : Nat) : n ≤ (loadHeaders file n k).1.length ↔ HeadersRead file k n := by
  induction n generalizing k with
  | zero => exact iff_of_true (Nat.zero_le _) fun i less => absurd less (Nat.not_lt_zero i)
  | succ n ih =>
      rw [loadHeaders]
      split
      · next headed =>
          cases known : file.readCounterHeader k with
          | none =>
              refine iff_of_false (Nat.not_succ_le_zero n) fun all => ?_
              obtain ⟨header, -, there, -⟩ := all 0 (Nat.succ_pos n)
              rw [Nat.add_zero, known] at there
              cases there
          | some header =>
              dsimp only
              split
              · next empty =>
                  constructor
                  · intro single i less
                    have last : i = 0 ∧ n = 0 := by rw [List.length_singleton] at single; omega
                    exact ⟨header, by rw [last.1]; exact headed, by rw [last.1]; exact known, fun more => by omega⟩
                  · intro all
                    obtain ⟨other, -, there, filled⟩ := all 0 (Nat.succ_pos n)
                    obtain rfl := Option.some.inj (known.symm.trans there)
                    by_cases more : 0 + 1 < n + 1
                    · exact absurd empty (filled more)
                    · rw [List.length_singleton]
                      omega
              · next filled =>
                  rw [List.length_cons, Nat.succ_le_succ_iff, ih, headers_read_succ]
                  exact ⟨fun rest => ⟨header, headed, known, fun _ => filled, rest⟩, fun ⟨_, _, _, _, rest⟩ => rest⟩
      · next headless =>
          refine iff_of_false (Nat.not_succ_le_zero n) fun all => ?_
          obtain ⟨header, headed, -⟩ := all 0 (Nat.succ_pos n)
          exact headless headed

-- The data of no counter is read.
theorem load_counter_data_failed {headers : List SpmCounterDataHeader} {s : LoadState}
    (failed : (loadCounterData file allocates fresh session headers s).1 ≠ none) :
    ∃ bytes, (loadCounterData file allocates fresh session headers s).2 = { s with counterDataBytes := bytes } ∧
      (headers = [] → bytes = s.counterDataBytes) := by
  rw [loadCounterData] at failed ⊢
  dsimp only at failed ⊢
  split
  · exact ⟨_, rfl, fun _ => rfl⟩
  · next filled =>
      have some : headers ≠ [] := by
        rintro rfl
        exact filled (Nat.mul_zero _)
      split
      · exact ⟨_, rfl, fun none => absurd none some⟩
      · split
        · exact ⟨_, rfl, fun none => absurd none some⟩
        · next copied copies =>
            rw [if_neg filled, if_neg ‹_›, copies] at failed
            exact absurd rfl failed

-- Every header that the session announces is read.
structure AllHeadersRead (file : SpmRdfFile) (allocates : Allocation → Bool) (session : SpmSession) : Prop where
  timed : allocates .timestamps = true
  stamped : (sessionTimestamps file session).isSome
  counted : file.getChunkCount kSpmDataChunkId = some session.numSpmCounters.toNat
  infos : allocates .spmCounterInfo = true
  countable : session.numSpmCounters.toNat < 2 ^ 31
  read : HeadersRead file 0 session.numSpmCounters.toNat

-- What a load leaves that fails behind the session header.
structure Failed (file : SpmRdfFile) (allocates : Allocation → Bool) (session : SpmSession) (s : LoadState) : Prop where
  timestamps : s.numberOfTimestamps = session.numTimestamps
  counters : s.numberOfSpmCounterInfo = session.numSpmCounters
  supported : s.counterInfo30Supported = true
  offsets : s.counterOffsets = []
  unfilled : session.numSpmCounters.toNat = 0 → s.counterDataBytes = 0 ∧ s.spmCounterInfo = []
  infos : session.numSpmCounters.toNat ≤ s.spmCounterInfo.length ↔
    session.numSpmCounters.toNat = 0 ∨ AllHeadersRead file allocates session

structure Announced (session : SpmSession) (s : LoadState) : Prop where
  timestamps : s.numberOfTimestamps = session.numTimestamps
  counters : s.numberOfSpmCounterInfo = session.numSpmCounters
  supported : s.counterInfo30Supported = true
  offsets : s.counterOffsets = []
  uncopied : s.counterDataBytes = 0
  infos : s.spmCounterInfo = []

theorem failed_early {s : LoadState} (announced : Announced session s) (unread : ¬ AllHeadersRead file allocates session) :
    Failed file allocates session s := by
  refine ⟨announced.timestamps, announced.counters, announced.supported, announced.offsets,
    fun _ => ⟨announced.uncopied, announced.infos⟩, ?_⟩
  rw [announced.infos, List.length_nil, Nat.le_zero, or_iff_left unread]

theorem infos_all (timed : allocates .timestamps = true) (stamped : (sessionTimestamps file session).isSome)
    (counted : file.getChunkCount kSpmDataChunkId = some session.numSpmCounters.toNat) (infos : allocates .spmCounterInfo = true) :
    session.numSpmCounters.toNat ≤ (loadHeaders file (loopCount session.numSpmCounters.toNat) 0).1.length ↔
      session.numSpmCounters.toNat = 0 ∨ AllHeadersRead file allocates session := by
  by_cases countable : session.numSpmCounters.toNat < 2 ^ 31
  · rw [loopCount, if_pos countable, load_headers_all]
    constructor
    · intro read
      exact .inr ⟨timed, stamped, counted, infos, countable, read⟩
    · rintro (none | all)
      · intro i less
        omega
      · exact all.read
  · rw [loopCount, if_neg countable, loadHeaders, List.length_nil]
    constructor
    · intro none
      omega
    · rintro (none | all)
      · omega
      · exact absurd all.countable countable

theorem load_counters_failed {s : LoadState} (timed : allocates .timestamps = true) (stamped : (sessionTimestamps file session).isSome)
    (announced : Announced session s) (failed : (loadCounters file allocates fresh session s).1 ≠ none) :
    Failed file allocates session (loadCounters file allocates fresh session s).2 := by
  rw [loadCounters] at failed ⊢
  dsimp only at failed ⊢
  split
  · next counted =>
      rw [if_pos counted] at failed
      split
      · next unallocated =>
          exact failed_early announced fun all => absurd (unallocated.symm.trans all.infos) (by decide)
      · next infos =>
          rw [if_neg infos] at failed
          have read := infos_all timed stamped counted (eq_true_of_ne_false infos)
          have unannounced : session.numSpmCounters.toNat = 0 → (loadHeaders file (loopCount session.numSpmCounters.toNat) 0).1 = [] :=
            fun none => by rw [none]; rfl
          generalize loadHeaders file (loopCount session.numSpmCounters.toNat) 0 = loaded at failed read unannounced ⊢
          obtain ⟨headers, complete⟩ := loaded
          split
          · next ok =>
              rw [if_pos ok] at failed
              obtain ⟨bytes, left, uncopied⟩ := load_counter_data_failed failed
              rw [left]
              exact ⟨announced.timestamps, announced.counters, announced.supported, announced.offsets,
                fun none => ⟨(uncopied (unannounced none)).trans announced.uncopied, congrArg (List.map _) (unannounced none)⟩,
                by rw [List.length_map]; exact read⟩
          · exact ⟨announced.timestamps, announced.counters, announced.supported, announced.offsets,
              fun none => ⟨announced.uncopied, congrArg (List.map _) (unannounced none)⟩, by rw [List.length_map]; exact read⟩
  · next uncounted => exact failed_early announced fun all => uncounted all.counted

theorem load_rdf_failed (header : sessionHeader file = some session) (failed : (loadRdf file allocates fresh).1 ≠ none) :
    Failed file allocates session (loadRdf file allocates fresh).2 := by
  rw [loadRdf, header] at failed ⊢
  dsimp only at failed ⊢
  split
  · next unallocated =>
      exact failed_early ⟨rfl, rfl, rfl, rfl, rfl, rfl⟩ fun all => absurd (unallocated.symm.trans all.timed) (by decide)
  · next timed =>
      rw [if_neg timed] at failed
      cases stamps : sessionTimestamps file session with
      | none =>
          exact failed_early ⟨rfl, rfl, rfl, rfl, rfl, rfl⟩ fun all => by
            have stamped := all.stamped
            rw [stamps] at stamped
            cases stamped
      | some data =>
          rw [stamps] at failed
          exact load_counters_failed (eq_true_of_ne_false timed) (by rw [stamps]; rfl) ⟨rfl, rfl, rfl, rfl, rfl, rfl⟩ failed

-- A hardware counter that no trace without counters has.
def unknownCounter : GpaHwCounter := ⟨false, 1, 0, 0⟩

theorem unknown_sampled {s : LoadState} (none : s.spmCounterInfo = []) (supported : s.counterInfo30Supported = true)
    (positive : 0 < s.numberOfTimestamps.toNat) : .counterData 0 ∈ s.reads (.getDerivedInfo [[unknownCounter]]) := by
  have unlisted : s.seen.spmCounterInfo = [] := none
  have matching : s.seen.matching unknownCounter = Option.none := by rw [RawSpmDb.matching, unlisted]; rfl
  have lookups : s.seen.lookupCounters [unknownCounter] = ([⟨0, 0⟩], ⟨false, Option.none, 0, 0⟩) := by
    rw [RawSpmDb.lookupCounters, RawSpmDb.lookupFrom, if_pos (show Lookup.start.derivedCounterIsSupported = true from rfl),
      RawSpmDb.lookupCounter, matching]
    rfl
  have sampled : .counterData 0 ∈ s.sampledAt [unknownCounter] 0 := by
    rw [LoadState.sampledAt, lookups]
    decide
  rw [LoadState.reads, LoadState.calculateReads, if_pos ⟨supported, positive⟩, List.flatMap_singleton]
  exact List.mem_append_right _ (List.mem_flatMap.mpr ⟨0, List.mem_range.mpr positive, sampled⟩)

theorem failed_reads_loaded {s : LoadState} (failed : Failed file allocates session s) : s.ReadsLoaded ↔
    session.numTimestamps.toNat = 0 ∧ (session.numSpmCounters.toNat = 0 ∨ AllHeadersRead file allocates session) := by
  rw [← failed.infos, ← failed.timestamps, ← failed.counters]
  constructor
  · intro loaded
    have idle : s.numberOfTimestamps.toNat = 0 := by
      by_contra some
      have positive := Nat.pos_of_ne_zero some
      by_cases none : s.numberOfSpmCounterInfo.toNat = 0
      · rw [failed.counters] at none
        obtain ⟨uncopied, unlisted⟩ := failed.unfilled none
        have read := loaded _ _ (unknown_sampled unlisted failed.supported positive)
        rw [LoadState.Loaded, uncopied] at read
        exact absurd read (by decide)
      · have read := loaded (.getCounterValue 0 0) (.counterOffset 0) (by
          simp [LoadState.reads, positive, Nat.pos_of_ne_zero none, failed.supported, LoadState.valueReads])
        rw [LoadState.Loaded, failed.offsets] at read
        exact Nat.not_lt_zero 0 read
    refine ⟨idle, ?_⟩
    by_contra short
    have read := loaded (.getCounterInfo s.spmCounterInfo.length) (.counterInfo s.spmCounterInfo.length)
      (by simp [LoadState.reads, Nat.lt_of_not_le short, failed.supported])
    exact Nat.lt_irrefl _ read
  · rintro ⟨idle, all⟩ query member reads
    have uncalculated : ∀ hardware, s.calculateReads hardware = [] := fun hardware => if_neg (by simp [idle])
    cases query with
    | getTimestamp t =>
        rw [LoadState.reads] at reads
        split at reads
        · next mapped => rw [List.mem_singleton.mp reads]; exact mapped
        · cases reads
    | getCounterInfo j =>
        rw [LoadState.reads] at reads
        split at reads
        · next bound => rw [List.mem_singleton.mp reads]; exact Nat.lt_of_lt_of_le bound.1 all
        · cases reads
    | getCounterValue t j => simp [LoadState.reads, idle] at reads
    | getNumberOfCounters isGfx10 hardware => simp [LoadState.reads, uncalculated] at reads
    | getDerivedInfo hardware => simp [LoadState.reads, uncalculated] at reads
    | getDerivedValue hardware isAvailable t => simp [LoadState.reads, uncalculated, idle] at reads

end Failed

section Claim
variable {file : SpmRdfFile} {allocates : Allocation → Bool}

-- What a load promises, whatever the chunks and the fresh memory hold.
def Covers (file : SpmRdfFile) (allocates : Allocation → Bool) : Prop := ∀ contents fresh,
  let loaded := loadRdf (withContents file contents) allocates fresh
  (loaded.1 = none → ∀ db, initializeRdf (withContents file contents) fresh = .ok db → SamplesCovered (withContents file contents) db) ∧
    (loaded.1 ≠ none → loaded.2.ReadsLoaded)

def Accepts (file : SpmRdfFile) (allocates : Allocation → Bool) : Prop := (∀ a, allocates a = true) ∧ InitializeRdfAccepts file

-- There is nothing that a query could miss: no session header, or no timestamp and no counter without a header.
def SafelyRefused (file : SpmRdfFile) (allocates : Allocation → Bool) : Prop := ∀ session, sessionHeader file = some session →
  session.numTimestamps.toNat = 0 ∧ (session.numSpmCounters.toNat = 0 ∨ AllHeadersRead file allocates session)

theorem accepts_contents (contents : String → Nat → Memory) : Accepts (withContents file contents) allocates ↔ Accepts file allocates := by
  have same := SameShape.with_contents file contents
  exact and_congr_right fun _ => ⟨same.symm.initializes, same.initializes⟩

theorem all_headers_contents (contents : String → Nat → Memory) (session : SpmSession) :
    AllHeadersRead (withContents file contents) allocates session ↔ AllHeadersRead file allocates session := by
  have stamped : (sessionTimestamps (withContents file contents) session).isSome = (sessionTimestamps file session).isSome := by
    have sizes : (withContents file contents).getChunkDataSize = file.getChunkDataSize := rfl
    rw [sessionTimestamps, sessionTimestamps, sizes]
    split
    · exact (SameShape.with_contents file contents).readable _ _
    · rfl
  constructor
  · intro all
    exact ⟨all.timed, stamped ▸ all.stamped, all.counted, all.infos, all.countable, all.read⟩
  · intro all
    exact ⟨all.timed, stamped.symm ▸ all.stamped, all.counted, all.infos, all.countable, all.read⟩

theorem refused_contents (contents : String → Nat → Memory) :
    SafelyRefused (withContents file contents) allocates ↔ SafelyRefused file allocates :=
  forall_congr' fun session => imp_congr_right fun _ => and_congr_right fun _ => or_congr_right (all_headers_contents contents session)

theorem empty_reads (query : LoadedQuery) : LoadState.empty.reads query = [] := by
  cases query with
  | getTimestamp t => simp [LoadState.reads, LoadState.empty]
  | getCounterInfo j => simp [LoadState.reads, LoadState.empty]
  | getCounterValue t j => simp [LoadState.reads, LoadState.empty]
  | getNumberOfCounters isGfx10 hardware => simp [LoadState.reads, LoadState.empty]
  | getDerivedInfo hardware => rfl
  | getDerivedValue hardware isAvailable t =>
      have uncalculated : LoadState.empty.calculateReads hardware = [] := rfl
      rw [LoadState.reads, uncalculated]
      simp [LoadState.empty]

theorem empty_reads_loaded : LoadState.empty.ReadsLoaded := by
  intro query member reads
  rw [empty_reads] at reads
  cases reads

theorem refused_reads_loaded {fresh : Memory} (failed : (loadRdf file allocates fresh).1 ≠ none) :
    (loadRdf file allocates fresh).2.ReadsLoaded ↔ SafelyRefused file allocates := by
  rw [SafelyRefused]
  cases header : sessionHeader file with
  | none =>
      have left : loadRdf file allocates fresh = (some .malformedData, .empty) := by rw [loadRdf, header]
      rw [left]
      exact iff_of_true empty_reads_loaded fun session there => by cases there
  | some session =>
      rw [failed_reads_loaded (load_rdf_failed header failed)]
      constructor
      · intro safe other there
        rw [← Option.some.inj there]
        exact safe
      · intro safe
        exact safe session rfl

-- The samples are covered, and nothing else is read, for exactly these files.
theorem rdf_covers_iff (file : SpmRdfFile) (allocates : Allocation → Bool) : Covers file allocates ↔
    (Accepts file allocates → AllSampled file) ∧ (¬ Accepts file allocates → SafelyRefused file allocates) := by
  constructor
  · intro covers
    constructor
    · intro accepts
      exact sampled_needed accepts.2 fun contents fresh =>
        (covers contents fresh).1 (load_rdf_succeeds_iff.mpr ((accepts_contents contents).mpr accepts))
    · intro refused
      have failed : (loadRdf (withContents file fun _ _ _ => 0) allocates fun _ => 0).1 ≠ none := fun ok =>
        refused ((accepts_contents _).mp (load_rdf_succeeds_iff.mp ok))
      exact (refused_contents _).mp ((refused_reads_loaded failed).mp ((covers _ _).2 failed))
  · rintro ⟨sampled, safe⟩ contents fresh
    constructor
    · intro ok
      exact loads_covered (sampled ((accepts_contents contents).mp (load_rdf_succeeds_iff.mp ok))) contents fresh
    · intro failed
      have refused : ¬ Accepts file allocates := fun accepts =>
        failed (load_rdf_succeeds_iff.mpr ((accepts_contents contents).mpr accepts))
      exact (refused_reads_loaded failed).mpr ((refused_contents contents).mpr (safe refused))

-- Two timestamps, and a chunk too short before one too long.
def shortThenLong : SpmRdfFile where
  getChunkCount := fun identifier => if identifier = kSpmSessionChunkId then some 1 else some 2
  getChunkHeaderSize := fun _ _ => some 20
  getChunkDataSize := fun identifier j => if identifier = kSpmSessionChunkId then some 16 else some (if j = 0 then 2 else 6)
  readSessionHeader := some ⟨4096, 2, 2⟩
  readCounterHeader := fun j => some ⟨1, 0, UInt32.ofNat j, 2⟩
  readChunkData := fun _ _ => some fun _ => 0

-- The session says that there are more counters than there are.
def oneMissing : SpmRdfFile := { shortThenLong with readSessionHeader := some ⟨4096, 2, 3⟩ }

theorem short_chunk_uncovered : ¬ Covers shortThenLong (fun _ => true) ∧ ¬ Covers oneMissing (fun _ => true) := by
  constructor
  · intro covers
    have covered := (covers (fun _ _ _ => 0) fun _ => 0).1 rfl _ rfl 1 (by decide) 0 _ _ rfl rfl
    exact absurd (covered.1 0 (by decide)).own.2 (by decide)
  · intro covers
    have read := (covers (fun _ _ _ => 0) fun _ => 0).2 (by decide) (.getCounterValue 0 0) (.counterOffset 0) (by decide)
    have missing : (loadRdf (withContents oneMissing fun _ _ _ => 0) (fun _ => true) fun _ => 0).2.counterOffsets = [] := rfl
    rw [LoadState.Loaded, missing] at read
    exact Nat.not_lt_zero 0 read

end Claim

end RadeonPanel.Spm.RdfCover

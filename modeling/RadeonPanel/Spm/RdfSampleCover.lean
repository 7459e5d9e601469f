import Mathlib.Algebra.GroupWithZero.Nat
import RadeonPanel.Spm.RdfLoaderAgreement

set_option autoImplicit false

namespace RadeonPanel.Spm.RdfCover

open Bytes

section Samples
variable {file : SpmRdfFile} {fresh : Memory} {db : RawSpmDb}

-- A word that `GetCounterValue` reads of counter `j` was written from the chunk of that counter.
structure WordCovered (file : SpmRdfFile) (db : RawSpmDb) (data : Memory) (j place : Nat) : Prop where
  inside : place < db.counterData.length
  own : counterOffset file j ≤ 2 * place ∧ 2 * place + 2 ≤ counterOffset file (j + 1)
  written : db.counterData[place]? = some (UInt16.ofNat (data.uint (2 * place - counterOffset file j) 2))

-- Every word read of every counter, and the sample that they make. A sample has one word at least.
def SamplesCovered (file : SpmRdfFile) (db : RawSpmDb) : Prop := ∀ t < db.numberOfTimestamps.toNat, ∀ j info data,
  db.spmCounterInfo[j]? = some info → file.readChunkData kSpmDataChunkId j = some data →
    (∀ k < max (db.dataSizeInWords info).toNat 1, WordCovered file db data j (db.rawPlace t j info k)) ∧
      ∃ value, db.getCounterValue t j = .ok (some value) ∧ value.toNat = data.uint (info.dataSize.toNat * t) info.dataSize.toNat

-- A counter whose samples can be read where its chunk was put.
structure Sampled (file : SpmRdfFile) (T j : Nat) (header : SpmCounterDataHeader) : Prop where
  width : header.dataSize = 2 ∨ header.dataSize = 4
  aligned : counterOffset file j % 2 = 0
  narrow : counterOffset file j < 2 ^ 33
  long : header.dataSize.toNat * T ≤ counterChunkSize file j

def AllSampled (file : SpmRdfFile) : Prop := ∀ session j header, file.readSessionHeader = some session → j < counterCount file →
  file.readCounterHeader j = some header → Sampled file session.numTimestamps.toNat j header

-- Counter `j` as a database has it that `InitializeRdf` has filled.
structure CounterLoaded (file : SpmRdfFile) (last : Memory) (size : Nat) (db : RawSpmDb) (j : Nat) (header : SpmCounterDataHeader)
    (data : Memory) : Prop where
  headed : file.readCounterHeader j = some header
  info : db.spmCounterInfo[j]? = some (rdfCounterInfo header)
  read : file.readChunkData kSpmDataChunkId j = some data
  offset : db.counterOffsets[j]? = some (UInt32.ofNat (counterOffset file j / 2))
  bytes : ∀ i < counterChunkSize file j, last (counterOffset file j + i) = data i
  fits : counterOffset file (j + 1) ≤ size

structure DatabaseLoaded (file : SpmRdfFile) (session : SpmSession) (last : Memory) (size : Nat) (db : RawSpmDb) : Prop where
  session_read : file.readSessionHeader = some session
  format : db.format = .rdf
  count : db.numberOfTimestamps = session.numTimestamps
  sampled : 0 < session.numTimestamps.toNat
  infos : db.spmCounterInfo.length = counterCount file
  words : db.counterData = words last 0 size
  each : ∀ j < counterCount file, ∃ header data, CounterLoaded file last size db j header data

theorem database_loaded (ok : initializeRdf file fresh = .ok db) : ∃ session last size, DatabaseLoaded file session last size db := by
  obtain ⟨session, timestamps, headers, read⟩ := initialize_rdf_loaded ok
  obtain ⟨copied, copies, database⟩ := initialize_rdf_database read ok
  obtain ⟨loads, -, -⟩ := session_loads read.session_read
  obtain ⟨-, length, listed⟩ := headers_at read
  refine ⟨session, copied.2, _, {
    session_read := loads.header
    format := database.format
    count := database.count
    sampled := Nat.pos_of_ne_zero fun none => read.filled (by rw [none, Nat.zero_mul])
    infos := by rw [database.infos, List.length_map, length]
    words := database.words
    each := fun j bound => ?_ }⟩
  have less : j < headers.length := by omega
  have there : headers[j]? = some headers[j] := List.getElem?_eq_getElem less
  have placed := (copy_places (k := 0) copies).2 j less
  rw [Nat.zero_add] at placed
  obtain ⟨data, readable⟩ := Option.isSome_iff_exists.mp placed.copyable.readable
  exact ⟨headers[j], data, {
    headed := listed j _ there
    info := by rw [database.infos, List.getElem?_map, there]; rfl
    read := readable
    offset := by rw [database.offsets, placed.offset_words]
    bytes := placed.bytes data readable
    fits := placed.copyable.fits }⟩

section Counter
variable {session : SpmSession} {data last : Memory} {size j t k : Nat} {header : SpmCounterDataHeader}

-- Two bytes inside of the chunk are in the counter data as one word.
theorem word_covered (one : CounterLoaded file last size db j header data) (content : db.counterData = words last 0 size) {place : Nat}
    (own : counterOffset file j ≤ 2 * place ∧ 2 * place + 2 ≤ counterOffset file (j + 1)) : WordCovered file db data j place := by
  have fits := one.fits
  have chunk : counterOffset file (j + 1) = counterOffset file j + counterChunkSize file j := rfl
  have bound : place < size / 2 := by omega
  have bytes : last.uint (0 + 2 * place) 2 = data.uint (2 * place - counterOffset file j) 2 := by
    refine Memory.uint_congr _ _ _ _ _ fun i less => ?_
    rw [← one.bytes _ (by omega)]
    exact congrArg last (by omega)
  exact ⟨by rw [content]; simpa [words] using bound, own, by rw [content, words_at, if_pos bound, bytes]⟩

theorem sampled_place (sampled : Sampled file session.numTimestamps.toNat j header) (format : db.format = .rdf)
    (one : CounterLoaded file last size db j header data) (t k : Nat) :
    db.rawPlace t j (rdfCounterInfo header) k = counterOffset file j / 2 + t * (header.dataSize.toNat / 2) + k := by
  have narrow := sampled.narrow
  rw [rdf_raw_place format one.offset,
    UInt32.toNat_ofNat_of_lt' (show counterOffset file j / 2 < 4294967296 by omega)]

theorem sample_covered (loaded : DatabaseLoaded file session last size db) (one : CounterLoaded file last size db j header data)
    (sampled : Sampled file session.numTimestamps.toNat j header) (less : t < session.numTimestamps.toNat) :
    (∀ k < max (db.dataSizeInWords (rdfCounterInfo header)).toNat 1, WordCovered file db data j (db.rawPlace t j (rdfCounterInfo header) k)) ∧
      ∃ value, db.getCounterValue t j = .ok (some value) ∧ value.toNat = data.uint (header.dataSize.toNat * t) header.dataSize.toNat := by
  have sizes : header.dataSize.toNat = 2 ∨ header.dataSize.toNat = 4 := by rcases sampled.width with size | size <;> simp [size]
  have aligned := sampled.aligned
  have long := sampled.long
  have reached : header.dataSize.toNat * t + header.dataSize.toNat ≤ counterChunkSize file j :=
    Nat.le_trans (by rw [← Nat.mul_succ]; exact Nat.mul_le_mul_left _ less) long
  have chunk : counterOffset file (j + 1) = counterOffset file j + counterChunkSize file j := rfl
  have fits := one.fits
  constructor
  · intro k inside
    rw [rdf_sample_width loaded.format] at inside
    refine word_covered one loaded.words ?_
    rw [sampled_place sampled loaded.format one]
    rcases sizes with two | four
    · rw [two] at reached inside ⊢
      omega
    · rw [four] at reached inside ⊢
      omega
  · have bytes : last.uint (counterOffset file j + header.dataSize.toNat * t) header.dataSize.toNat =
        data.uint (header.dataSize.toNat * t) header.dataSize.toNat :=
      Memory.uint_congr _ _ _ _ _ fun i inside => by rw [Nat.add_assoc, one.bytes _ (by omega)]
    refine ⟨UInt32.ofNat (data.uint (header.dataSize.toNat * t) header.dataSize.toNat), ?_, ?_⟩
    · rw [RawSpmDb.get_counter_value_words (by simp [loaded.format]) one.info (by rw [loaded.count]; exact less), loaded.words,
        rdf_sample_width loaded.format, funext (sampled_place sampled loaded.format one t),
        sample_in_words sizes aligned (by omega) less, bytes]
    · have bound : data.uint (header.dataSize.toNat * t) header.dataSize.toNat < 2 ^ 32 :=
        Nat.lt_of_lt_of_le (Memory.uint_lt ..) (by rcases sizes with width | width <;> simp [width])
      exact UInt32.toNat_ofNat_of_lt' bound

-- The words read first and last say where the data of the counter can be.
theorem covered_layout (loaded : DatabaseLoaded file session last size db) (one : CounterLoaded file last size db j header data)
    (covered : SamplesCovered file db) : counterOffset file j % 2 = 0 ∧ counterOffset file j < 2 ^ 33 ∧
      (header.dataSize.toNat % 2 = 0 → 0 < header.dataSize.toNat →
        header.dataSize.toNat * session.numTimestamps.toNat ≤ counterChunkSize file j) := by
  have positive := loaded.sampled
  have place : ∀ t k, db.rawPlace t j (rdfCounterInfo header) k =
      counterOffset file j / 2 % 2 ^ 32 + t * (header.dataSize.toNat / 2) + k := by
    intro t k
    rw [rdf_raw_place loaded.format one.offset, UInt32.toNat_ofNat']
  have first := ((covered 0 (by rw [loaded.count]; exact positive) j _ data one.info one.read).1 0 (by omega)).own
  rw [place, Nat.zero_mul] at first
  refine ⟨by omega, by omega, fun even some => ?_⟩
  obtain ⟨T, count⟩ := Nat.exists_eq_add_of_lt positive
  obtain ⟨w, width⟩ : ∃ w, header.dataSize.toNat = 2 * (w + 1) := ⟨header.dataSize.toNat / 2 - 1, by omega⟩
  have half : header.dataSize.toNat / 2 = w + 1 := by omega
  have final := ((covered T (by rw [loaded.count]; omega) j _ data one.info one.read).1 w
    (by rw [rdf_sample_width loaded.format]; omega)).own.2
  rw [place, half, counterOffset] at final
  have total : header.dataSize.toNat * session.numTimestamps.toNat = 2 * (T * (w + 1)) + 2 * (w + 1) := by
    rw [count, width, Nat.zero_add, Nat.mul_succ, Nat.mul_assoc, Nat.mul_comm (w + 1)]
  omega

theorem one_word (counterData : List UInt16) (place : Nat → Nat) {w : Nat} (short : w ≤ 1) :
    readWords counterData place w = (counterData[place 0]?).map UInt16.toUInt32 := by
  have single : ∀ value, addWords counterData place w value = some value := by
    intro value
    rcases Nat.le_one_iff_eq_zero_or_eq_one.mp short with rfl | rfl <;> rfl
  cases there : counterData[place 0]? with
  | none => simp [readWords, there]
  | some word => simp [readWords, there, single]

-- A byte that only counter `j` has.
def markedByte (j i : Nat) : String → Nat → Memory := fun _ k a => if k = j ∧ a = i then 1 else 0

-- The byte that tells a sample from what is read for it.
def tellingByte (dataSize : Nat) : Nat := if dataSize < 2 then dataSize else dataSize - 1

-- With one word at most, what is read first are two bytes of the chunk.
theorem covered_word {value : UInt32} (loaded : DatabaseLoaded file session last size db)
    (one : CounterLoaded file last size db j header data) (aligned : counterOffset file j % 2 = 0) (narrow : counterOffset file j < 2 ^ 33)
    (word : WordCovered file db data j (db.rawPlace 0 j (rdfCounterInfo header) 0)) (single : header.dataSize.toNat / 2 ≤ 1)
    (returned : readWords db.counterData (db.rawPlace 0 j (rdfCounterInfo header)) (header.dataSize.toNat / 2) = some value) :
    value.toNat = data.uint 0 2 := by
  have place : db.rawPlace 0 j (rdfCounterInfo header) 0 = counterOffset file j / 2 := by
    rw [rdf_raw_place loaded.format one.offset, UInt32.toNat_ofNat']
    omega
  have bound := data.uint_lt 0 2
  rw [one_word _ _ single, word.written, Option.map_some, place,
    show 2 * (counterOffset file j / 2) - counterOffset file j = 0 by omega, word_value _ bound] at returned
  rw [← Option.some.inj returned]
  exact UInt32.toNat_ofNat_of_lt' (Nat.lt_trans bound (by decide))

theorem covered_width (loaded : DatabaseLoaded file session last size db) (one : CounterLoaded file last size db j header data)
    (covered : SamplesCovered file db) (marked : ∀ i, data i = if i = tellingByte header.dataSize.toNat then 1 else 0) :
    header.dataSize.toNat = 2 ∨ header.dataSize.toNat = 4 := by
  have positive : 0 < db.numberOfTimestamps.toNat := by rw [loaded.count]; exact loaded.sampled
  obtain ⟨aligned, narrow, -⟩ := covered_layout loaded one covered
  obtain ⟨words, value, returned, sample⟩ := covered 0 positive j _ data one.info one.read
  rw [RawSpmDb.get_counter_value_words (by simp [loaded.format]) one.info positive, rdf_sample_width loaded.format] at returned
  change value.toNat = data.uint (header.dataSize.toNat * 0) header.dataSize.toNat at sample
  rw [Nat.mul_zero] at sample
  have byte : data (0 + tellingByte header.dataSize.toNat) ≠ 0 := by simp [marked]
  by_cases single : header.dataSize.toNat / 2 ≤ 1
  · have word := covered_word loaded one aligned narrow (words 0 (by omega)) single (Except.ok.inj returned)
    by_cases two : header.dataSize.toNat = 2
    · exact .inl two
    exfalso
    by_cases small : header.dataSize.toNat < 2
    · rw [tellingByte, if_pos small] at byte
      have high : 0 < data.uint 0 2 := Nat.lt_of_lt_of_le (Nat.pow_pos (by decide)) (data.le_uint byte small)
      have none : data.uint 0 header.dataSize.toNat = 0 := by
        obtain zero | one := Nat.le_one_iff_eq_zero_or_eq_one.mp (Nat.le_of_lt_succ small)
        · rw [zero, Memory.uint]
        · simp [one, Memory.uint, marked, tellingByte]
      omega
    · rw [show tellingByte header.dataSize.toNat = 2 by rw [tellingByte, if_neg small]; omega] at byte
      have high : 256 ^ 2 ≤ data.uint 0 header.dataSize.toNat := data.le_uint byte (by omega)
      have low := data.uint_lt 0 2
      omega
  · by_cases four : header.dataSize.toNat = 4
    · exact .inr four
    exfalso
    rw [show tellingByte header.dataSize.toNat = header.dataSize.toNat - 1 by rw [tellingByte, if_neg (by omega)]] at byte
    have high : 256 ^ (header.dataSize.toNat - 1) ≤ data.uint 0 header.dataSize.toNat := data.le_uint byte (by omega)
    have power : 256 ^ 4 ≤ 256 ^ (header.dataSize.toNat - 1) := Nat.pow_le_pow_right (by decide) (by omega)
    have less := value.toNat_lt
    omega

end Counter

-- Whatever the chunks and the memory of the counter data hold.
def LoadsCovered (file : SpmRdfFile) : Prop := ∀ contents fresh db, initializeRdf (withContents file contents) fresh = .ok db →
  SamplesCovered (withContents file contents) db

theorem loads_covered (sampled : AllSampled file) : LoadsCovered file := by
  intro contents fresh db ok t less j info data there read
  obtain ⟨session, last, size, loaded⟩ := database_loaded ok
  have bound : j < counterCount (withContents file contents) := by
    rw [← loaded.infos]
    exact (List.getElem?_eq_some_iff.mp there).1
  obtain ⟨header, data', one⟩ := loaded.each j bound
  obtain rfl := Option.some.inj (one.info.symm.trans there)
  obtain rfl := Option.some.inj (one.read.symm.trans read)
  have same := SameShape.with_contents file contents
  have kept := sampled session j header loaded.session_read bound one.headed
  refine sample_covered loaded one ⟨kept.width, ?_, ?_, ?_⟩ (by rw [← loaded.count]; exact less)
  · rw [same.offset]; exact kept.aligned
  · rw [same.offset]; exact kept.narrow
  · rw [same.chunk_size]; exact kept.long

theorem sampled_needed (accepts : InitializeRdfAccepts file) (covered : LoadsCovered file) : AllSampled file := by
  intro session j header session_read bound headed
  let contents := markedByte j (tellingByte header.dataSize.toNat)
  have same := SameShape.with_contents file contents
  obtain ⟨db, ok⟩ := (initialize_rdf_accepts fun _ => 0).mpr (same.initializes accepts)
  obtain ⟨session', last, size, loaded⟩ := database_loaded ok
  obtain ⟨header', data, one⟩ := loaded.each j bound
  obtain rfl := Option.some.inj (loaded.session_read.symm.trans session_read)
  obtain rfl := Option.some.inj (one.headed.symm.trans headed)
  have all := covered contents _ db ok
  have marked : ∀ i, data i = if i = tellingByte header'.dataSize.toNat then 1 else 0 := by
    have found := one.read
    simp only [withContents, Option.map_eq_some_iff] at found
    obtain ⟨_, -, rfl⟩ := found
    simp [contents, markedByte]
  obtain ⟨aligned, narrow, long⟩ := covered_layout loaded one all
  have width := covered_width loaded one all marked
  rw [same.offset] at aligned narrow
  rw [same.chunk_size] at long
  refine ⟨?_, aligned, narrow, long (by omega) (by omega)⟩
  rcases width with two | four
  · exact .inl (UInt32.toNat_inj.mp two)
  · exact .inr (UInt32.toNat_inj.mp four)

end Samples

end RadeonPanel.Spm.RdfCover

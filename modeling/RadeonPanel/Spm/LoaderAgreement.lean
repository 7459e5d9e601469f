import Mathlib.Algebra.GroupWithZero.Nat
import RadeonPanel.Spm.RawLoaders

set_option autoImplicit false

namespace RadeonPanel.Spm

open Bytes

section Samples
variable {m : Memory} {start size : Nat}

theorem words_at (place : Nat) : (words m start size)[place]? =
    if place < size / 2 then some (UInt16.ofNat (m.uint (start + 2 * place) 2)) else none := by
  split
  · next bound => simp [words, bound]
  · next bound => simp [words]; omega

theorem word_value (n : Nat) (small : n < 65536) : (UInt16.ofNat n).toUInt32 = UInt32.ofNat n := by
  rw [← UInt32.toNat_inj]
  simp
  omega

theorem two_words (low high : Nat) (small : low < 65536) (less : high < 65536) :
    (UInt16.ofNat low).toUInt32 + (UInt16.ofNat high).toUInt32 <<< UInt32.ofNat (16 * (0 + 1)) = UInt32.ofNat (low + 65536 * high) := by
  rw [word_value low small, word_value high less, ← UInt32.toNat_inj]
  simp [Nat.shiftLeft_eq]
  omega

theorem read_words_at (place : Nat) {w : Nat} (width : w = 1 ∨ w = 2) : readWords (words m start size) (fun k => place + k) w =
    if place + w ≤ size / 2 then some (UInt32.ofNat (m.uint (start + 2 * place) (2 * w))) else none := by
  have low := m.uint_lt (start + 2 * place) 2
  rcases width with rfl | rfl
  · simp only [readWords, Nat.add_zero, words_at, Nat.add_one_le_iff]
    split
    · simp [addWords, word_value _ low]
    · rfl
  · have high := m.uint_lt (start + 2 * (place + 1)) 2
    have whole : m.uint (start + 2 * place) (2 * 2) =
        m.uint (start + 2 * place) 2 + 65536 * m.uint (start + 2 * (place + 1)) 2 := m.uint_append (start + 2 * place) 2 2
    simp only [readWords, Nat.add_zero, words_at]
    split
    · simp only [Option.bind_eq_bind, Option.bind_some, addWords, Nat.zero_add, words_at]
      split
      · rw [Option.bind_some, if_pos (by omega), whole]
        exact congrArg some (two_words _ _ low high)
      · rw [if_neg (by omega)]; rfl
    · rw [if_neg (by omega)]; rfl

theorem sample_lt (m : Memory) (address : Nat) {w : Nat} (width : w = 1 ∨ w = 2) : m.uint address (2 * w) < 2 ^ 32 := by
  have bound : (256 : Nat) ^ (2 * w) ≤ 2 ^ 32 := by rcases width with rfl | rfl <;> decide
  exact Nat.lt_of_lt_of_le (m.uint_lt address (2 * w)) bound

theorem of_nat_injective {a b : Nat} (small : a < 2 ^ 32) (less : b < 2 ^ 32) (same : UInt32.ofNat a = UInt32.ofNat b) : a = b := by
  rwa [← UInt32.toNat_inj, UInt32.toNat_ofNat', UInt32.toNat_ofNat', Nat.mod_eq_of_lt small, Nat.mod_eq_of_lt less] at same

-- One loader reads sample `t` of a counter in the words from `start` on, the other copied
-- it from `source`: they get the same whatever the bytes from `start` on are.
theorem same_sample_iff (m : Memory) (start size : Nat) {w : Nat} (width : w = 1 ∨ w = 2) (place source copied T : Nat) :
    (∀ m', m.Agrees m' start → ∀ t < T, readWords (words m' start size) (fun k => place + t * w + k) w =
      some (if 2 * w * t + 2 * w ≤ copied then UInt32.ofNat (m'.uint (source + 2 * w * t) (2 * w)) else 0)) ↔
    T = 0 ∨ (start + 2 * place = source ∧ place + T * w ≤ size / 2 ∧ 2 * w * T ≤ copied) := by
  constructor
  · intro same
    rcases Nat.eq_zero_or_pos T with none | positive
    · exact .inl none
    have inside : ∀ t < T, place + t * w + w ≤ size / 2 := by
      intro t less
      have read := same m (fun i _ => rfl) t less
      rw [read_words_at _ width] at read
      split at read
      · assumption
      · contradiction
    have covered : ∀ t < T, 2 * w * t + 2 * w ≤ copied := by
      intro t less
      by_cases short : 2 * w * t + 2 * w ≤ copied
      · exact short
      have constant : ∀ m', m.Agrees m' start → m'.uint (start + 2 * (place + t * w)) (2 * w) = 0 := by
        intro m' agrees
        have read := same m' agrees t less
        rw [read_words_at _ width, if_pos (inside t less), if_neg short] at read
        exact of_nat_injective (sample_lt m' _ width) (by decide) (Option.some.inj read)
      exact (Memory.not_constant (Nat.le_add_right start _) (by omega) 0 constant).elim
    have together : ∀ m', m.Agrees m' start → m'.uint (start + 2 * place) (2 * w) = m'.uint source (2 * w) := by
      intro m' agrees
      have read := same m' agrees 0 positive
      rw [read_words_at _ width, if_pos (inside 0 positive), if_pos (covered 0 positive)] at read
      simp only [Nat.zero_mul, Nat.mul_zero, Nat.add_zero] at read
      exact of_nat_injective (sample_lt m' _ width) (sample_lt m' _ width) (Option.some.inj read)
    have address := Memory.same_address (Nat.le_add_right start _) (by omega) together
    have last := inside (T - 1) (by omega)
    have end_covered := covered (T - 1) (by omega)
    rcases width with rfl | rfl
    · exact .inr ⟨address, by omega, by omega⟩
    · exact .inr ⟨address, by omega, by omega⟩
  · rintro (rfl | ⟨rfl, inside, covered⟩) m' agrees t less
    · omega
    · have before : place + t * w + w ≤ size / 2 := by rcases width with rfl | rfl <;> omega
      have reached : 2 * w * t + 2 * w ≤ copied := by rcases width with rfl | rfl <;> omega
      have address : start + 2 * (place + t * w) = start + 2 * place + 2 * w * t := by rcases width with rfl | rfl <;> omega
      rw [read_words_at _ width, if_pos before, if_pos reached, address]

end Samples

section Lists
variable {α β : Type}

theorem map_m_some (f : α → Option β) (items : List α) (results : List β) :
    items.mapM f = some results ↔ items.map f = results.map some := by
  induction items generalizing results with
  | nil => cases results <;> simp
  | cons item rest ih =>
      cases results with
      | nil => simp [List.mapM_cons, Option.bind_eq_some_iff]
      | cons result later =>
          simp only [List.mapM_cons, Option.bind_eq_bind, Option.bind_eq_some_iff, Option.pure_def, Option.some.injEq,
            List.map_cons, List.cons.injEq]
          constructor
          · rintro ⟨value, known, values, rests, rfl, rfl⟩
            exact ⟨known, (ih values).mp rests⟩
          · rintro ⟨known, rests⟩
            exact ⟨result, known, later, (ih later).mpr rests, rfl, rfl⟩

theorem map_m_at {f : Nat → Option β} {n : Nat} {results : List β} (all : (List.range n).mapM f = some results) {i : Nat} (bound : i < n) :
    ∃ result, results[i]? = some result ∧ f i = some result := by
  have mapped := congrArg (fun list => list[i]?) ((map_m_some f _ _).mp all)
  simp only [List.getElem?_map, List.getElem?_range bound, Option.map_some] at mapped
  cases there : results[i]? with
  | none => rw [there] at mapped; contradiction
  | some result => exact ⟨result, rfl, by simpa [there] using mapped⟩

theorem map_m_length {f : Nat → Option β} {n : Nat} {results : List β} (all : (List.range n).mapM f = some results) : results.length = n := by
  have lengths := congrArg List.length ((map_m_some f _ _).mp all)
  simpa using lengths.symm

theorem map_m_exists (f : α → Option β) (items : List α) (each : ∀ item ∈ items, ∃ result, f item = some result) :
    ∃ results, items.mapM f = some results := by
  induction items with
  | nil => exact ⟨[], rfl⟩
  | cons item rest ih =>
      obtain ⟨result, known⟩ := each item List.mem_cons_self
      obtain ⟨later, rests⟩ := ih fun other member => each other (List.mem_cons_of_mem item member)
      exact ⟨result :: later, by simp [List.mapM_cons, known, rests]⟩

theorem map_checked {p : α → Prop} [DecidablePred p] {f : α → β} {items : List α} {results : List β} :
    items.map (fun item => if p item then some (f item) else none) = results.map some ↔
      (∀ item ∈ items, p item) ∧ results = items.map f := by
  induction items generalizing results with
  | nil => cases results <;> simp
  | cons item rest ih =>
      cases results with
      | nil => simp
      | cons result later =>
          by_cases good : p item
          · simp only [List.map_cons, good, if_true, List.cons.injEq, Option.some.injEq, ih, List.forall_mem_cons, true_and]
            constructor
            · rintro ⟨rfl, all, rfl⟩
              exact ⟨all, rfl, rfl⟩
            · rintro ⟨all, rfl, rfl⟩
              exact ⟨rfl, all, rfl⟩
          · simp [good]

end Lists

-- Both databases have the same timing, the same counters and the same samples.
structure Agree (db : RawSpmDb) (timing : SpmTiming) (raw : List RawSpmCounter) : Prop where
  interval : db.samplingInterval = timing.sampleInterval
  timestamps : db.timestamps = timing.timestamps
  counters : db.spmCounterInfo.map (fun info => (info.gpuBlockId, info.gpuBlockInstance, info.eventIndex)) =
    raw.map fun counter => (counter.gpuBlock, counter.blockInstance, counter.eventIndex)
  samples : ∀ j counter, raw[j]? = some counter → ∀ t < timing.timestamps.length, ∃ value,
    counter.samples[t]? = some value ∧ db.getCounterValue t j = .ok (some value)

section Legacy
variable (chunk : Memory)

def LegacyAgree : Prop := ∀ db timing raw, RawSpmDb.initializeLegacy chunk = some (.ok db) →
  loadRawSpmLegacy chunk = some (timing, raw) → Agree db timing raw

-- The first byte of the counter data in the chunk.
def dataStart : Nat :=
  if 2 ≤ versionMajor chunk then RawSpmDb.timestampsV2 chunk + RawSpmDb.offsetV2 chunk
  else RawSpmDb.timestampsV1 chunk + RawSpmDb.offsetV1 chunk

def HeaderFirst : Prop := 2 ≤ versionMajor chunk → sizeofSpmDb ≤ (preambleSize chunk).toNat

-- In version 2 every counter is in the counter data, in version 1 at its front.
def LegacyLaid : Prop :=
  if 2 ≤ versionMajor chunk then
    ∀ info ∈ RawSpmDb.infosV2 chunk,
      RawSpmDb.offsetV2 chunk ≤ info.dataOffset.toNat ∧ (info.dataOffset.toNat - RawSpmDb.offsetV2 chunk) % 2 = 0 ∧
        info.dataOffset.toNat - RawSpmDb.offsetV2 chunk + (numberOfTimestampsV2 chunk).toNat * info.dataSize.toNat ≤
          RawSpmDb.sizeOfCounterDataV2 chunk ∧
        info.dataSize.toNat * (numberOfTimestampsV2 chunk).toNat < 2 ^ 32
  else numberOfTimestampsV1 chunk = 0 ∨ ∀ info ∈ RawSpmDb.infosV1 chunk, info.dataOffset.toNat = RawSpmDb.offsetV1 chunk

end Legacy

section Fields
variable {chunk chunk' : Memory} {bound : Nat}

theorem u32_agrees (agrees : chunk.Agrees chunk' bound) {address : Nat} (within : address + 4 ≤ bound) :
    u32 chunk' address = u32 chunk address :=
  congrArg UInt32.ofNat (Memory.uint_agrees agrees within).symm

theorem version_agrees (agrees : chunk.Agrees chunk' bound) (within : 8 ≤ bound) :
    versionMajor chunk' = versionMajor chunk ∧ versionMinor chunk' = versionMinor chunk :=
  ⟨congrArg signed16 (Memory.uint_agrees agrees (by omega)).symm, congrArg signed16 (Memory.uint_agrees agrees (by omega)).symm⟩

theorem info_v2_agrees (agrees : chunk.Agrees chunk' bound) {infos i : Nat} (within : infos + 20 * i + 20 ≤ bound) :
    counterInfoV2 chunk' infos i = counterInfoV2 chunk infos i := by
  simp only [counterInfoV2]
  rw [u32_agrees agrees (by omega), u32_agrees agrees (by omega), u32_agrees agrees (by omega), u32_agrees agrees (by omega),
    u32_agrees agrees (by omega)]

theorem info_v12_agrees (agrees : chunk.Agrees chunk' bound) {infos i : Nat} (within : infos + 16 * i + 16 ≤ bound) :
    counterInfoV12 chunk' infos i = counterInfoV12 chunk infos i := by
  simp only [counterInfoV12]
  rw [u32_agrees agrees (by omega), u32_agrees agrees (by omega), u32_agrees agrees (by omega), u32_agrees agrees (by omega)]

end Fields

section Common
variable {db : RawSpmDb} {timing : SpmTiming} {chunk : Memory} {infos : List SpmCounterInfo} {offset start size T : Nat}
variable {width place source copied : SpmCounterInfo → Nat}

def legacyCounter (chunk : Memory) (T : Nat) (width source copied : SpmCounterInfo → Nat) (info : SpmCounterInfo) : RawSpmCounter :=
  ⟨info.gpuBlockId, info.gpuBlockInstance, info.eventIndex, copiedSamples chunk (source info) (2 * width info) (copied info) T⟩

-- What both loaders read of the counter at one time.
def SameSample (chunk : Memory) (start size t : Nat) (width place source copied : SpmCounterInfo → Nat) (info : SpmCounterInfo) : Prop :=
  readWords (words chunk start size) (fun k => place info + t * width info + k) (width info) =
    some (if 2 * width info * t + 2 * width info ≤ copied info then
      UInt32.ofNat (chunk.uint (source info + 2 * width info * t) (2 * width info)) else 0)

theorem legacy_agree_iff_samples (specified : db.format ≠ .low) (interval : db.samplingInterval = timing.sampleInterval)
    (timestamps : db.timestamps = timing.timestamps) (count : db.numberOfTimestamps.toNat = T)
    (listed : db.spmCounterInfo = infos.map (patched offset)) (data : db.counterData = words chunk start size)
    (placed : ∀ j, ∀ info ∈ infos, db.offsetInWords j (patched offset info) = place info)
    (sized : ∀ info ∈ infos, (db.dataSizeInWords (patched offset info)).toNat = width info) :
    Agree db timing (infos.map (legacyCounter chunk T width source copied)) ↔
      ∀ info ∈ infos, ∀ t < T, SameSample chunk start size t width place source copied info := by
  have stamped : timing.timestamps.length = T := by rw [← timestamps, db.timestamped, count]
  have read : ∀ j info, infos[j]? = some info → ∀ t < T, db.getCounterValue t j =
      .ok (readWords (words chunk start size) (fun k => place info + t * width info + k) (width info)) := by
    intro j info there t bound
    have there' : db.spmCounterInfo[j]? = some (patched offset info) := by simp [listed, there]
    have member := List.mem_of_getElem? there
    rw [RawSpmDb.get_counter_value_words specified there' (by rw [count]; exact bound), sized info member, data]
    refine congrArg Except.ok (congrArg (fun place => readWords _ place _) (funext fun k => ?_))
    rw [RawSpmDb.rawPlace, placed j info member, sized info member]
  have kept : ∀ info t, t < T → (legacyCounter chunk T width source copied info).samples[t]? =
      some (if 2 * width info * t + 2 * width info ≤ copied info then
        UInt32.ofNat (chunk.uint (source info + 2 * width info * t) (2 * width info)) else 0) := by
    intro info t bound
    simp [legacyCounter, copiedSamples, bound]
  constructor
  · intro agree info member t bound
    obtain ⟨j, there⟩ := List.mem_iff_getElem?.mp member
    obtain ⟨value, sample, returned⟩ := agree.samples j _ (by rw [List.getElem?_map, there]; rfl) t (by omega)
    rw [kept info t bound] at sample
    rw [read j info there t bound, ← sample] at returned
    exact Except.ok.inj returned
  · intro same
    refine ⟨interval, timestamps, ?_, ?_⟩
    · rw [listed, List.map_map, List.map_map]
      rfl
    · intro j counter there t bound
      rw [List.getElem?_map, Option.map_eq_some_iff] at there
      obtain ⟨info, there, rfl⟩ := there
      rw [stamped] at bound
      refine ⟨_, kept info t bound, ?_⟩
      rw [read j info there t bound, same info (List.mem_of_getElem? there) t bound]

end Common

section V2
variable {chunk : Memory} {timing : SpmTiming} {raw : List RawSpmCounter}

open RawSpmDb

def SampleSizes (chunk : Memory) : Prop := ∀ info ∈ infosV2 chunk, info.dataSize = 2 ∨ info.dataSize = 4

def counterV2 (chunk : Memory) : SpmCounterInfo → RawSpmCounter :=
  legacyCounter chunk (numberOfTimestampsV2 chunk).toNat (fun info => info.dataSize.toNat / 2)
    (fun info => timestampsV2 chunk + info.dataOffset.toNat) fun info => uint32 (info.dataSize.toNat * (numberOfTimestampsV2 chunk).toNat)

theorem double_half {n : UInt32} (size : n = 2 ∨ n = 4) : 2 * (n.toNat / 2) = n.toNat := by
  rcases size with rfl | rfl <;> rfl

theorem load_counter_v2 (i : Nat) : loadCounterV2 chunk (preambleSize chunk).toNat (numberOfTimestampsV2 chunk).toNat i =
    (fun info : SpmCounterInfo => if info.dataSize = 2 ∨ info.dataSize = 4 then some (counterV2 chunk info) else none)
      (counterInfoV2 chunk (timestampsV2 chunk + timestampBytesV2 chunk) i) := by
  dsimp only [loadCounterV2, timestampsV2, timestampBytesV2]
  split
  · next size => rw [counterV2, legacyCounter, double_half size]; rfl
  · rfl

theorem load_legacy_v2 (major : 2 ≤ versionMajor chunk) : loadRawSpmLegacy chunk = some (timing, raw) ↔
    SampleSizes chunk ∧ timing = ⟨samplingIntervalV2 chunk, readTimestamps chunk (timestampsV2 chunk) (numberOfTimestampsV2 chunk).toNat⟩ ∧
      raw = (infosV2 chunk).map (counterV2 chunk) := by
  simp only [loadRawSpmLegacy, if_pos major, Option.bind_eq_bind, Option.bind_eq_some_iff, Option.pure_def, Option.some.injEq,
    Prod.mk.injEq, map_m_some]
  have mapped : (List.range (numberOfSpmCounterInfoV2 chunk).toNat).map
      (loadCounterV2 chunk (preambleSize chunk).toNat (numberOfTimestampsV2 chunk).toNat) =
        (infosV2 chunk).map fun info => if info.dataSize = 2 ∨ info.dataSize = 4 then some (counterV2 chunk info) else none := by
    rw [infosV2, List.map_map]
    exact List.map_congr_left fun i _ => load_counter_v2 i
  rw [mapped]
  simp only [map_checked, SampleSizes, timestampsV2]
  constructor
  · rintro ⟨counters, ⟨sizes, rfl⟩, rfl, rfl⟩
    exact ⟨sizes, rfl, rfl⟩
  · rintro ⟨sizes, rfl, rfl⟩
    exact ⟨_, ⟨sizes, rfl⟩, rfl, rfl⟩

theorem initialize_v2 {db : RawSpmDb} (major : 2 ≤ versionMajor chunk) : initializeLegacy chunk = some (.ok db) ↔
    20 * (numberOfSpmCounterInfoV2 chunk).toNat ≤ counterInfoBufferSize chunk ∧ sizeOfCounterDataV2 chunk ≠ 0 ∧ db = loadedV2 chunk := by
  rw [initializeLegacy, if_pos major]
  split
  · next short => exact iff_of_false (by simp) fun other => absurd other.1 (by omega)
  · next enough =>
      split
      · next empty => simp [empty]
      · next filled => simp [filled, Nat.le_of_not_lt enough, eq_comm]

theorem agree_v2_iff (chunk : Memory) :
    Agree (loadedV2 chunk) ⟨samplingIntervalV2 chunk, readTimestamps chunk (timestampsV2 chunk) (numberOfTimestampsV2 chunk).toNat⟩
      ((infosV2 chunk).map (counterV2 chunk)) ↔
    ∀ info ∈ infosV2 chunk, ∀ t < (numberOfTimestampsV2 chunk).toNat,
      SameSample chunk (timestampsV2 chunk + offsetV2 chunk) (sizeOfCounterDataV2 chunk) t (fun info => info.dataSize.toNat / 2)
        (fun info => ((info.dataOffset - UInt32.ofNat (offsetV2 chunk)) / 2).toNat) (fun info => timestampsV2 chunk + info.dataOffset.toNat)
        (fun info => uint32 (info.dataSize.toNat * (numberOfTimestampsV2 chunk).toNat)) info :=
  legacy_agree_iff_samples (by simp [loadedV2]) rfl rfl rfl rfl rfl (fun j info _ => rfl) fun info _ => by
    simp [dataSizeInWords, loadedV2, patched]

-- The other chunk has the same fields and the same counter infos.
structure SameHeaderV2 (chunk chunk' : Memory) : Prop where
  major : versionMajor chunk' = versionMajor chunk
  preamble : preambleSize chunk' = preambleSize chunk
  timestamps : numberOfTimestampsV2 chunk' = numberOfTimestampsV2 chunk
  counters : numberOfSpmCounterInfoV2 chunk' = numberOfSpmCounterInfoV2 chunk
  infoSize : spmCounterInfoSize chunk' = spmCounterInfoSize chunk
  infos : infosV2 chunk' = infosV2 chunk

theorem same_header_v2 {chunk' : Memory} (first : sizeofSpmDb ≤ (preambleSize chunk).toNat)
    (enough : 20 * (numberOfSpmCounterInfoV2 chunk).toNat ≤ counterInfoBufferSize chunk)
    (agrees : chunk.Agrees chunk' (timestampsV2 chunk + offsetV2 chunk)) : SameHeaderV2 chunk chunk' := by
  have within : sizeofSpmDb ≤ timestampsV2 chunk + offsetV2 chunk := Nat.le_add_right_of_le first
  rw [sizeofSpmDb] at within
  have preamble : preambleSize chunk' = preambleSize chunk := u32_agrees agrees (by omega)
  have timestamps : numberOfTimestampsV2 chunk' = numberOfTimestampsV2 chunk := u32_agrees agrees (by omega)
  have counters : numberOfSpmCounterInfoV2 chunk' = numberOfSpmCounterInfoV2 chunk := u32_agrees agrees (by omega)
  refine ⟨(version_agrees agrees (by omega)).1, preamble, timestamps, counters, u32_agrees agrees (by omega), ?_⟩
  rw [infosV2, infosV2, counters, timestampsV2, timestampBytesV2, preamble, timestamps]
  refine List.map_congr_left fun i member => info_v2_agrees agrees ?_
  have index := List.mem_range.mp member
  simp only [offsetV2, timestampsV2, timestampBytesV2]
  omega

theorem SameHeaderV2.sizes {chunk' : Memory} (same : SameHeaderV2 chunk chunk') :
    timestampsV2 chunk' = timestampsV2 chunk ∧ counterInfoBufferSize chunk' = counterInfoBufferSize chunk ∧
      offsetV2 chunk' = offsetV2 chunk ∧ sizeOfCounterDataV2 chunk' = sizeOfCounterDataV2 chunk := by
  simp only [timestampsV2, counterInfoBufferSize, offsetV2, timestampBytesV2, sizeOfCounterDataV2, same.preamble, same.timestamps,
    same.counters, same.infoSize, same.infos, and_self]

-- One counter of version 2: what it takes for both loaders to find its samples.
theorem laid_v2_iff {info : SpmCounterInfo} {start offset size T : Nat} (sampled : T ≠ 0) (sizes : info.dataSize = 2 ∨ info.dataSize = 4) :
    (T = 0 ∨ (start + offset + 2 * ((info.dataOffset - UInt32.ofNat offset) / 2).toNat = start + info.dataOffset.toNat ∧
      ((info.dataOffset - UInt32.ofNat offset) / 2).toNat + T * (info.dataSize.toNat / 2) ≤ size / 2 ∧
        2 * (info.dataSize.toNat / 2) * T ≤ uint32 (info.dataSize.toNat * T))) ↔
    offset ≤ info.dataOffset.toNat ∧ (info.dataOffset.toNat - offset) % 2 = 0 ∧
      info.dataOffset.toNat - offset + T * info.dataSize.toNat ≤ size ∧ info.dataSize.toNat * T < 2 ^ 32 := by
  have small := info.dataOffset.toNat_lt
  simp only [sampled, false_or, UInt32.toNat_div, UInt32.toNat_sub, UInt32.toNat_ofNat', uint32]
  rcases sizes with size | size <;> simp only [size] <;> simp <;> omega

theorem legacy_agree_v2 {chunk' : Memory} (same : SameHeaderV2 chunk chunk') (major : 2 ≤ versionMajor chunk)
    (enough : 20 * (numberOfSpmCounterInfoV2 chunk).toNat ≤ counterInfoBufferSize chunk) (filled : sizeOfCounterDataV2 chunk ≠ 0)
    (sizes : SampleSizes chunk) :
    LegacyAgree chunk' ↔ ∀ info ∈ infosV2 chunk, ∀ t < (numberOfTimestampsV2 chunk).toNat,
      SameSample chunk' (timestampsV2 chunk + offsetV2 chunk) (sizeOfCounterDataV2 chunk) t (fun info => info.dataSize.toNat / 2)
        (fun info => ((info.dataOffset - UInt32.ofNat (offsetV2 chunk)) / 2).toNat) (fun info => timestampsV2 chunk + info.dataOffset.toNat)
        (fun info => uint32 (info.dataSize.toNat * (numberOfTimestampsV2 chunk).toNat)) info := by
  obtain ⟨start, buffer, offset, size⟩ := same.sizes
  have iff := agree_v2_iff chunk'
  rw [same.infos, same.timestamps, start, offset, size] at iff
  have major' : 2 ≤ versionMajor chunk' := by rwa [same.major]
  constructor
  · intro agree
    refine iff.mp (agree _ _ _ ((initialize_v2 major').mpr ⟨?_, ?_, rfl⟩) ((load_legacy_v2 major').mpr ⟨?_, ?_, ?_⟩))
    · rwa [same.counters, buffer]
    · rwa [size]
    · rwa [SampleSizes, same.infos]
    · rw [start, same.timestamps]
    · rw [same.infos]
  · intro samples db timing raw loaded loadedRaw
    obtain ⟨-, -, rfl⟩ := (initialize_v2 major').mp loaded
    obtain ⟨-, rfl, rfl⟩ := (load_legacy_v2 major').mp loadedRaw
    rw [same.infos, start, same.timestamps]
    exact iff.mpr samples

theorem legacy_v2_iff (major : 2 ≤ versionMajor chunk) (first : HeaderFirst chunk) {db : RawSpmDb}
    (loaded : initializeLegacy chunk = some (.ok db)) (loadedRaw : loadRawSpmLegacy chunk = some (timing, raw)) :
    (∀ chunk', chunk.Agrees chunk' (dataStart chunk) → LegacyAgree chunk') ↔ LegacyLaid chunk := by
  obtain ⟨enough, filled, -⟩ := (initialize_v2 major).mp loaded
  obtain ⟨sizes, -, -⟩ := (load_legacy_v2 major).mp loadedRaw
  have sampled : (numberOfTimestampsV2 chunk).toNat ≠ 0 := fun none => filled (by rw [sizeOfCounterDataV2, none, Nat.zero_mul])
  rw [dataStart, if_pos major, LegacyLaid, if_pos major]
  have agreed := fun chunk' (agrees : chunk.Agrees chunk' (timestampsV2 chunk + offsetV2 chunk)) =>
    legacy_agree_v2 (same_header_v2 (first major) enough agrees) major enough filled sizes
  have each : ∀ info ∈ infosV2 chunk, _ := fun info member =>
    (same_sample_iff chunk (timestampsV2 chunk + offsetV2 chunk) (sizeOfCounterDataV2 chunk) (w := info.dataSize.toNat / 2)
      (by rcases sizes info member with size | size <;> simp [size])
      ((info.dataOffset - UInt32.ofNat (offsetV2 chunk)) / 2).toNat (timestampsV2 chunk + info.dataOffset.toNat)
      (uint32 (info.dataSize.toNat * (numberOfTimestampsV2 chunk).toNat)) (numberOfTimestampsV2 chunk).toNat).trans
        (laid_v2_iff sampled (sizes info member))
  constructor
  · intro all info member
    exact (each info member).mp fun chunk' agrees t bound => (agreed chunk' agrees).mp (all chunk' agrees) info member t bound
  · intro laid chunk' agrees
    exact (agreed chunk' agrees).mpr fun info member t bound => (each info member).mpr (laid info member) chunk' agrees t bound

end V2

section V1
variable {chunk : Memory} {timing : SpmTiming} {raw : List RawSpmCounter}

open RawSpmDb

def counterV12 (chunk : Memory) : SpmCounterInfo → RawSpmCounter :=
  legacyCounter chunk (numberOfTimestampsV1 chunk).toNat (fun _ => 1) (fun info => timestampsV1 chunk + info.dataOffset.toNat)
    fun _ => 2 * (numberOfTimestampsV1 chunk).toNat

theorem initialize_v1 {db : RawSpmDb} (major : ¬ 2 ≤ versionMajor chunk) :
    initializeLegacy chunk = some (.ok db) ↔ db = loadedV1 chunk := by
  rw [initializeLegacy, if_neg major]
  simp [eq_comm]

theorem load_legacy_v1 (major : ¬ 2 ≤ versionMajor chunk) : loadRawSpmLegacy chunk = some (timing, raw) ↔
    counterInfo12Supported chunk = true ∧
      timing = ⟨if samplingInterval13Supported chunk then samplingIntervalV1 chunk else 4096,
        readTimestamps chunk (timestampsV1 chunk) (numberOfTimestampsV1 chunk).toNat⟩ ∧
      raw = (infosV1 chunk).map (counterV12 chunk) := by
  rw [loadRawSpmLegacy, if_neg major]
  by_cases supported : counterInfo12Supported chunk = true
  · simp only [supported, if_true, infosV1, List.map_map, Option.some.injEq, Prod.mk.injEq, true_and]
    constructor
    · rintro ⟨rfl, rfl⟩
      exact ⟨rfl, rfl⟩
    · rintro ⟨rfl, rfl⟩
      exact ⟨rfl, rfl⟩
  · simp [supported]

structure SameHeaderV1 (chunk chunk' : Memory) : Prop where
  major : versionMajor chunk' = versionMajor chunk
  minor : versionMinor chunk' = versionMinor chunk
  timestamps : numberOfTimestampsV1 chunk' = numberOfTimestampsV1 chunk
  counters : numberOfSpmCounterInfoV1 chunk' = numberOfSpmCounterInfoV1 chunk
  infos : infosV1 chunk' = infosV1 chunk

theorem SameHeaderV1.sizes {chunk' : Memory} (same : SameHeaderV1 chunk chunk') :
    counterInfo12Supported chunk' = counterInfo12Supported chunk ∧ timestampsV1 chunk' = timestampsV1 chunk ∧
      offsetV1 chunk' = offsetV1 chunk ∧ sizeOfCounterDataV1 chunk' = sizeOfCounterDataV1 chunk := by
  simp [counterInfo12Supported, timestampsV1, samplingInterval13Supported, offsetV1, timestampBytesV1, counterInfoSizeV1,
    sizeOfCounterDataV1, same.major, same.minor, same.timestamps, same.counters]

theorem same_header_v1 {chunk' : Memory} (supported : counterInfo12Supported chunk = true)
    (agrees : chunk.Agrees chunk' (timestampsV1 chunk + offsetV1 chunk)) : SameHeaderV1 chunk chunk' := by
  have within : 28 ≤ timestampsV1 chunk := by
    rw [timestampsV1, sizeofSpmDbV1]
    split <;> omega
  obtain ⟨major, minor⟩ := version_agrees agrees (by omega)
  have timestamps : numberOfTimestampsV1 chunk' = numberOfTimestampsV1 chunk := u32_agrees agrees (by omega)
  have counters : numberOfSpmCounterInfoV1 chunk' = numberOfSpmCounterInfoV1 chunk := u32_agrees agrees (by omega)
  have supported' : counterInfo12Supported chunk' = true := by rw [← supported, counterInfo12Supported, counterInfo12Supported, major, minor]
  have start : timestampsV1 chunk' = timestampsV1 chunk := by
    rw [timestampsV1, timestampsV1, samplingInterval13Supported, samplingInterval13Supported, major, minor]
  refine ⟨major, minor, timestamps, counters, ?_⟩
  rw [infosV1, infosV1, counters, start, timestampBytesV1, timestamps]
  simp only [supported, supported', if_true]
  refine List.map_congr_left fun i member => info_v12_agrees agrees ?_
  have index := List.mem_range.mp member
  simp only [offsetV1, timestampBytesV1, counterInfoSizeV1, supported, if_true]
  omega

theorem agree_v1_iff (chunk : Memory) (supported : counterInfo12Supported chunk = true) :
    Agree (loadedV1 chunk) ⟨if samplingInterval13Supported chunk then samplingIntervalV1 chunk else 4096,
        readTimestamps chunk (timestampsV1 chunk) (numberOfTimestampsV1 chunk).toNat⟩ ((infosV1 chunk).map (counterV12 chunk)) ↔
    ∀ info ∈ infosV1 chunk, ∀ t < (numberOfTimestampsV1 chunk).toNat,
      SameSample chunk (timestampsV1 chunk + offsetV1 chunk) (sizeOfCounterDataV1 chunk) t (fun _ => 1)
        (fun info => (info.dataOffset - UInt32.ofNat (offsetV1 chunk)).toNat) (fun info => timestampsV1 chunk + info.dataOffset.toNat)
        (fun _ => 2 * (numberOfTimestampsV1 chunk).toNat) info :=
  have format : (loadedV1 chunk).format = .v1_2 := by simp [loadedV1, supported]
  legacy_agree_iff_samples (by simp [format]) rfl rfl rfl rfl rfl (fun j info _ => by simp only [offsetInWords, format]; rfl)
    fun info _ => by simp only [dataSizeInWords, format]; rfl

theorem laid_v1_iff {info : SpmCounterInfo} {start offset n T : Nat} (some_counter : 0 < n) :
    (T = 0 ∨ (start + offset + 2 * (info.dataOffset - UInt32.ofNat offset).toNat = start + info.dataOffset.toNat ∧
      (info.dataOffset - UInt32.ofNat offset).toNat + T * 1 ≤ T * n * 2 / 2 ∧ 2 * 1 * T ≤ 2 * T)) ↔
    T = 0 ∨ info.dataOffset.toNat = offset := by
  have small := info.dataOffset.toNat_lt
  have enough : T ≤ T * n := Nat.le_mul_of_pos_right T some_counter
  simp only [UInt32.toNat_sub, UInt32.toNat_ofNat']
  omega

theorem legacy_agree_v1 {chunk' : Memory} (same : SameHeaderV1 chunk chunk') (major : ¬ 2 ≤ versionMajor chunk)
    (supported : counterInfo12Supported chunk = true) :
    LegacyAgree chunk' ↔ ∀ info ∈ infosV1 chunk, ∀ t < (numberOfTimestampsV1 chunk).toNat,
      SameSample chunk' (timestampsV1 chunk + offsetV1 chunk) (sizeOfCounterDataV1 chunk) t (fun _ => 1)
        (fun info => (info.dataOffset - UInt32.ofNat (offsetV1 chunk)).toNat) (fun info => timestampsV1 chunk + info.dataOffset.toNat)
        (fun _ => 2 * (numberOfTimestampsV1 chunk).toNat) info := by
  obtain ⟨supported', start, offset, size⟩ := same.sizes
  rw [supported] at supported'
  have iff := agree_v1_iff chunk' supported'
  rw [same.infos, same.timestamps, start, offset, size] at iff
  have major' : ¬ 2 ≤ versionMajor chunk' := by rwa [same.major]
  constructor
  · intro agree
    refine iff.mp (agree _ _ _ ((initialize_v1 major').mpr rfl) ((load_legacy_v1 major').mpr ⟨supported', ?_, ?_⟩))
    · rw [start, same.timestamps]
    · rw [same.infos]
  · intro samples db timing raw loaded loadedRaw
    obtain rfl := (initialize_v1 major').mp loaded
    obtain ⟨-, rfl, rfl⟩ := (load_legacy_v1 major').mp loadedRaw
    rw [same.infos, start, same.timestamps]
    exact iff.mpr samples

theorem legacy_v1_iff (major : ¬ 2 ≤ versionMajor chunk) (loadedRaw : loadRawSpmLegacy chunk = some (timing, raw)) :
    (∀ chunk', chunk.Agrees chunk' (dataStart chunk) → LegacyAgree chunk') ↔ LegacyLaid chunk := by
  obtain ⟨supported, -, -⟩ := (load_legacy_v1 major).mp loadedRaw
  rw [dataStart, if_neg major, LegacyLaid, if_neg major]
  have agreed := fun chunk' (agrees : chunk.Agrees chunk' (timestampsV1 chunk + offsetV1 chunk)) =>
    legacy_agree_v1 (same_header_v1 supported agrees) major supported
  have zero : numberOfTimestampsV1 chunk = 0 ↔ (numberOfTimestampsV1 chunk).toNat = 0 := by rw [← UInt32.toNat_inj]; rfl
  have each : ∀ info ∈ infosV1 chunk, _ := fun info member =>
    (same_sample_iff chunk (timestampsV1 chunk + offsetV1 chunk) (sizeOfCounterDataV1 chunk) (.inl rfl)
      (info.dataOffset - UInt32.ofNat (offsetV1 chunk)).toNat (timestampsV1 chunk + info.dataOffset.toNat)
      (2 * (numberOfTimestampsV1 chunk).toNat) (numberOfTimestampsV1 chunk).toNat).trans
        (laid_v1_iff (by
          have listed := List.length_pos_of_mem member
          simpa [infosV1] using listed))
  rw [zero]
  constructor
  · intro all
    by_cases none : (numberOfTimestampsV1 chunk).toNat = 0
    · exact .inl none
    · refine .inr fun info member => ?_
      refine ((each info member).mp fun chunk' agrees t bound => ?_).resolve_left none
      exact (agreed chunk' agrees).mp (all chunk' agrees) info member t bound
  · intro laid chunk' agrees
    refine (agreed chunk' agrees).mpr fun info member t bound => (each info member).mpr ?_ chunk' agrees t bound
    exact laid.imp_right fun placed => placed info member

end V1

theorem legacy_agree_iff {chunk : Memory} (first : HeaderFirst chunk) {db : RawSpmDb} {timing : SpmTiming} {raw : List RawSpmCounter}
    (loaded : RawSpmDb.initializeLegacy chunk = some (.ok db)) (loadedRaw : loadRawSpmLegacy chunk = some (timing, raw)) :
    (∀ chunk', chunk.Agrees chunk' (dataStart chunk) → LegacyAgree chunk') ↔ LegacyLaid chunk := by
  by_cases major : 2 ≤ versionMajor chunk
  · exact legacy_v2_iff major first loaded loadedRaw
  · exact legacy_v1_iff major loadedRaw

end RadeonPanel.Spm

import Mathlib.Algebra.Group.Nat.Defs
import RadeonPanel.Spm.RawSpm

set_option autoImplicit false

namespace RadeonPanel.Spm

section Words
variable {data : List UInt16} {place place' : Nat → Nat}

theorem add_words_congr (w : Nat) (value : UInt32) (alike : ∀ k < w, place k = place' k) :
    addWords data place w value = addWords data place' w value := by
  induction w, value using addWords.induct with
  | case1 value => rfl
  | case2 value => rfl
  | case3 k value ih =>
      simp only [addWords, alike (k + 1) (by omega)]
      cases there : data[place' (k + 1)]? with
      | none => rfl
      | some word => exact ih word fun i bound => alike i (by omega)

theorem read_words_congr (w : Nat) (alike : ∀ k < max w 1, place k = place' k) :
    readWords data place w = readWords data place' w := by
  simp only [readWords, alike 0 (by omega)]
  cases there : data[place' 0]? with
  | none => rfl
  | some word => exact add_words_congr w _ fun k bound => alike k (by omega)

theorem add_words_inside (w : Nat) (value : UInt32) (inside : ∀ k < w, place k < data.length) :
    ∃ total, addWords data place w value = some total := by
  induction w, value using addWords.induct with
  | case1 value => exact ⟨value, rfl⟩
  | case2 value => exact ⟨value, rfl⟩
  | case3 k value ih =>
      have bound := inside (k + 1) (by omega)
      simp only [addWords, List.getElem?_eq_getElem bound]
      exact ih _ fun i less => inside i (by omega)

theorem read_words_inside (w : Nat) (inside : ∀ k < max w 1, place k < data.length) :
    ∃ total, readWords data place w = some total := by
  have bound := inside 0 (by omega)
  simp only [readWords, List.getElem?_eq_getElem bound]
  exact add_words_inside w _ fun k less => inside k (by omega)

theorem add_words_within (w : Nat) (value total : UInt32) (read : addWords data place w value = some total) :
    ∀ k, 0 < k → k < w → place k < data.length := by
  induction w, value using addWords.induct with
  | case1 value => intro k _ bound; omega
  | case2 value => intro k positive bound; omega
  | case3 n value ih =>
      intro k positive bound
      simp only [addWords, Option.bind_eq_bind, Option.bind_eq_some_iff] at read
      obtain ⟨word, there, later⟩ := read
      rcases Nat.lt_succ_iff_lt_or_eq.mp bound with less | rfl
      · exact ih word later k positive less
      · exact (List.getElem?_eq_some_iff.mp there).1

theorem read_words_within (w : Nat) (total : UInt32) (read : readWords data place w = some total) :
    ∀ k < max w 1, place k < data.length := by
  intro k bound
  simp only [readWords, Option.bind_eq_bind, Option.bind_eq_some_iff] at read
  obtain ⟨word, there, later⟩ := read
  rcases Nat.eq_zero_or_pos k with rfl | positive
  · exact (List.getElem?_eq_some_iff.mp there).1
  · exact add_words_within w _ total later k positive (by omega)

-- One word of the data is 1, the others are 0.
def marked (p n : Nat) : List UInt16 := (List.range n).map fun i => if i = p then 1 else 0

@[simp] theorem marked_length (p n : Nat) : (marked p n).length = n := by simp [marked]

theorem marked_at {p n i : Nat} (bound : i < n) : (marked p n)[i]? = some (if i = p then 1 else 0) := by
  simp [marked, bound]

theorem shifted_one (k : Nat) : (1 : UInt32) <<< UInt32.ofNat (16 * k) ≠ 0 := by
  intro vanishes
  have counted := congrArg UInt32.toNat vanishes
  simp at counted
  have shift : 16 * k % 32 = 0 ∨ 16 * k % 32 = 16 := by omega
  rcases shift with zero | half
  · simp [zero] at counted
  · simp [half] at counted

theorem add_words_unmarked {p n : Nat} (w : Nat) (value : UInt32) (inside : ∀ k, 0 < k → k < w → place k < n)
    (missed : ∀ k, 0 < k → k < w → place k ≠ p) : addWords (marked p n) place w value = some value := by
  induction w, value using addWords.induct with
  | case1 value => rfl
  | case2 value => rfl
  | case3 k value ih =>
      simp only [addWords, marked_at (inside (k + 1) (by omega) (by omega)), if_neg (missed (k + 1) (by omega) (by omega))]
      have rest := ih 0 (fun i positive less => inside i positive (by omega)) (fun i positive less => missed i positive (by omega))
      simpa using rest

theorem add_words_marked {p n : Nat} (w : Nat) (value : UInt32) (inside : ∀ k, 0 < k → k < w → place k < n)
    (apart : ∀ i k, i < w → k < w → place i = place k → i = k) (hit : Nat) (positive : 0 < hit) (bound : hit < w)
    (here : place hit = p) : addWords (marked p n) place w value = some (value + 1 <<< UInt32.ofNat (16 * hit)) := by
  induction w, value using addWords.induct with
  | case1 value => omega
  | case2 value => omega
  | case3 k value ih =>
      simp only [addWords, marked_at (inside (k + 1) (by omega) (by omega))]
      by_cases last : hit = k + 1
      · subst last
        rw [if_pos here]
        refine add_words_unmarked (k + 1) _ (fun i positive less => inside i positive (by omega)) fun i _ less same => ?_
        have := apart i (k + 1) (by omega) (by omega) (by rw [same, here])
        omega
      · have other : place (k + 1) ≠ p := fun same => last (apart hit (k + 1) (by omega) (by omega) (by rw [here, same]))
        rw [if_neg other]
        have rest := ih 0 (fun i positive less => inside i positive (by omega)) (fun i j less lower => apart i j (by omega) (by omega))
          (by omega)
        simpa using rest

theorem read_unmarked {p n : Nat} (w : Nat) (inside : ∀ k < max w 1, place k < n) (missed : ∀ k < max w 1, place k ≠ p) :
    readWords (marked p n) place w = some 0 := by
  simp only [readWords, marked_at (inside 0 (by omega)), if_neg (missed 0 (by omega))]
  exact add_words_unmarked w _ (fun k _ bound => inside k (by omega)) (fun k _ bound => missed k (by omega))

theorem read_marked {p n : Nat} (w : Nat) (inside : ∀ k < max w 1, place k < n)
    (apart : ∀ i k, i < max w 1 → k < max w 1 → place i = place k → i = k) (hit : Nat) (bound : hit < max w 1)
    (here : place hit = p) : ∃ total, readWords (marked p n) place w = some total ∧ total ≠ 0 := by
  simp only [readWords, marked_at (inside 0 (by omega))]
  rcases Nat.eq_zero_or_pos hit with rfl | positive
  · rw [if_pos here]
    refine ⟨1, add_words_unmarked w _ (fun k _ less => inside k (by omega)) fun k positive less same => ?_, by decide⟩
    have := apart k 0 (by omega) (by omega) (by rw [same, here])
    omega
  · have other : place 0 ≠ p := fun same => by
      have := apart 0 hit (by omega) bound (by rw [same, here])
      omega
    rw [if_neg other]
    refine ⟨1 <<< UInt32.ofNat (16 * hit), ?_, shifted_one hit⟩
    have rest := add_words_marked (n := n) w 0 (fun k _ less => inside k (by omega))
      (fun i k less lower => apart i k (by omega) (by omega)) hit positive (by omega) here
    simpa using rest

theorem read_marked_first {n : Nat} (w : Nat) (inside : ∀ k < max w 1, place k < n)
    (apart : ∀ i k, i < max w 1 → k < max w 1 → place i = place k → i = k) :
    ∃ total, readWords (marked (place 0) n) place w = some total ∧ total ≠ 0 :=
  read_marked w inside apart 0 (by omega) rfl

-- What two reads give for all data says which words they read.
theorem same_reads_same_places {n w : Nat} (apart : ∀ i k, i < max w 1 → k < max w 1 → place i = place k → i = k)
    (apart' : ∀ i k, i < max w 1 → k < max w 1 → place' i = place' k → i = k)
    (same : ∀ data : List UInt16, data.length = n → ∃ total, readWords data place w = some total ∧ readWords data place' w = some total)
    (p : Nat) : (∃ k < max w 1, place k = p) ↔ ∃ k < max w 1, place' k = p := by
  obtain ⟨total, read, read'⟩ := same (marked p n) (by simp)
  have inside := fun k bound => by simpa using read_words_within w total read k bound
  have inside' := fun k bound => by simpa using read_words_within w total read' k bound
  constructor
  · rintro ⟨hit, bound, here⟩
    by_cases found : ∃ k < max w 1, place' k = p
    · exact found
    obtain ⟨value, known, nonzero⟩ := read_marked w inside apart hit bound here
    have zero := read_unmarked w inside' fun k less there => found ⟨k, less, there⟩
    grind
  · rintro ⟨hit, bound, here⟩
    by_cases found : ∃ k < max w 1, place k = p
    · exact found
    obtain ⟨value, known, nonzero⟩ := read_marked w inside' apart' hit bound here
    have zero := read_unmarked w inside fun k less there => found ⟨k, less, there⟩
    grind

end Words

namespace RawSpmDb
variable {db : RawSpmDb} {info : SpmCounterInfo} {j : Nat}

section Lookup
variable {s : Lookup} {counter : GpaHwCounter} {counters : List GpaHwCounter} {i : Nat}

theorem lookup_unsupported (stopped : s.derivedCounterIsSupported = false) : (db.lookupFrom s i counters).2 = s := by
  cases counters with
  | nil => rfl
  | cons counter rest => simp [lookupFrom, stopped]

theorem lookup_counter_timing (s : Lookup) (i : Nat) (counter : GpaHwCounter) :
    (db.lookupCounter s i counter).2.timingCounterIndex = (s.timed i counter).timingCounterIndex := by
  fun_cases RawSpmDb.lookupCounter db s i counter <;> rfl

theorem lookup_counter_source (s : Lookup) (i : Nat) (matched : db.matching counter = some j)
    (at_index : db.spmCounterInfo[j]? = some info) : (db.lookupCounter s i counter).1 = db.source j info := by
  simp [lookupCounter, matched, at_index]

theorem lookup_from_supported (supported : (db.lookupFrom s i (counter :: counters)).2.derivedCounterIsSupported = true) :
    s.derivedCounterIsSupported = true ∧
      (db.lookupFrom (db.lookupCounter s i counter).2 (i + 1) counters).2.derivedCounterIsSupported = true := by
  by_cases going : s.derivedCounterIsSupported = true
  · exact ⟨going, by simpa [lookupFrom, going] using supported⟩
  · rw [lookup_unsupported (by simpa using going)] at supported
    contradiction

-- A counter with a match is where its match is: the derived counter's later counters do not touch its place.
theorem lookup_from_source (supported : (db.lookupFrom s i counters).2.derivedCounterIsSupported = true) {n : Nat}
    (there : counters[n]? = some counter) (matched : db.matching counter = some j) (at_index : db.spmCounterInfo[j]? = some info) :
    (db.lookupFrom s i counters).1[n]? = some (db.source j info) := by
  induction counters generalizing s i n with
  | nil => simp at there
  | cons first rest ih =>
      obtain ⟨going, later⟩ := lookup_from_supported supported
      simp only [lookupFrom, going, if_true]
      cases n with
      | zero =>
          simp only [List.getElem?_cons_zero, Option.some.injEq] at there ⊢
          subst there
          exact lookup_counter_source s i matched at_index
      | succ n => exact ih later (by simpa using there)

theorem lookup_from_timing (k : Nat) (timed : (db.lookupFrom s i counters).2.timingCounterIndex = some k) :
    s.timingCounterIndex = some k ∨ ∃ n counter, counters[n]? = some counter ∧ counter.isTimingBlock = true ∧ k = i + n := by
  induction counters generalizing s i with
  | nil => exact .inl timed
  | cons first rest ih =>
      by_cases going : s.derivedCounterIsSupported = true
      · simp only [lookupFrom, going, if_true] at timed
        rcases ih timed with here | ⟨n, counter, there, timing, rfl⟩
        · rw [lookup_counter_timing, Lookup.timed] at here
          split at here
          · next times =>
              simp only [Lookup.timesBy, Bool.and_eq_true] at times
              exact .inr ⟨0, first, rfl, times.1, by simpa using here.symm⟩
          · exact .inl here
        · exact .inr ⟨n + 1, counter, there, timing, by omega⟩
      · rw [lookup_unsupported (by simpa using going)] at timed
        exact .inl timed

theorem not_timing {n : Nat} (there : counters[n]? = some counter) (plain : counter.isTimingBlock = false) :
    (db.lookupCounters counters).2.timingCounterIndex ≠ some n := by
  intro timed
  rcases lookup_from_timing n timed with start | ⟨k, other, there', timing, same⟩
  · simp [Lookup.start] at start
  · obtain rfl : n = k := by omega
    obtain rfl : counter = other := Option.some.inj (there.symm.trans there')
    exact Bool.false_ne_true (plain.symm.trans timing)

end Lookup

-- Counter `i` of the derived counter is counter `j` of the database.
def Matched (db : RawSpmDb) (counters : List GpaHwCounter) (i j : Nat) : Prop :=
  ∃ counter, counters[i]? = some counter ∧ counter.isTimingBlock = false ∧ db.matching counter = some j

theorem matched_listed {counters : List GpaHwCounter} {i : Nat} (matched : db.Matched counters i j) :
    ∃ info, db.spmCounterInfo[j]? = some info := by
  obtain ⟨counter, there, plain, found⟩ := matched
  obtain ⟨bound, here⟩ := List.findIdx?_eq_some_iff_getElem.mp found
  exact ⟨db.spmCounterInfo[j], List.getElem?_eq_getElem bound⟩

def withData (db : RawSpmDb) (data : List UInt16) : RawSpmDb := { db with counterData := data }

theorem lookup_from_with_data (data : List UInt16) (s : Lookup) (i : Nat) (counters : List GpaHwCounter) :
    (db.withData data).lookupFrom s i counters = db.lookupFrom s i counters := by
  induction counters generalizing s i with
  | nil => rfl
  | cons counter rest ih =>
      have counter_alike : (db.withData data).lookupCounter s i counter = db.lookupCounter s i counter := rfl
      simp only [lookupFrom, counter_alike, ih]

theorem raw_counter_values_at {counters : List GpaHwCounter} (supported : (db.lookupCounters counters).2.derivedCounterIsSupported = true)
    {i : Nat} (matched : db.Matched counters i j) (at_index : db.spmCounterInfo[j]? = some info) (data : List UInt16) (t : UInt32) :
    ((db.withData data).rawCounterValues counters t)[i]? =
      some (if (db.source j info).counterOffset = kNoOffsetForExtraGpaBlocks then some 0
        else readWords data (derivedPlace t (db.source j info)) (derivedWords (db.source j info)).toNat) := by
  obtain ⟨counter, there, plain, found⟩ := matched
  have placed := lookup_from_source supported there found at_index
  have timed : (db.lookupFrom .start 0 counters).2.timingCounterIndex ≠ some i := not_timing there plain
  rw [rawCounterValues, List.getElem?_map, List.getElem?_zipIdx, lookupCounters, lookup_from_with_data, placed]
  simp only [Option.map_some, Nat.zero_add, rawCounterValue]
  rw [if_neg timed, withData]

-- The samples of every counter lie in the data, from an even byte on.
structure LaidOut (db : RawSpmDb) : Prop where
  sizes_even : db.format ≠ .v1_2 → ∀ info ∈ db.spmCounterInfo, info.dataSize.toNat % 2 = 0
  placed_even : db.format ≠ .rdf → ∀ info ∈ db.spmCounterInfo, info.dataOffset.toNat % 2 = 0
  within : ∀ j info, db.spmCounterInfo[j]? = some info →
    (db.source j info).counterOffset.toNat + db.numberOfTimestamps.toNat * (db.dataSizeInWords info).toNat ≤ db.counterData.length

-- Whatever the words of the data are, both reads of a matched counter stay in them and give the same.
def SameSamples (db : RawSpmDb) (counters : List GpaHwCounter) : Prop :=
  ∀ data : List UInt16, data.length = db.counterData.length → ∀ t : UInt32, t < db.numberOfTimestamps →
    ∀ i j, db.Matched counters i j → ∃ value,
      ((db.withData data).rawCounterValues counters t)[i]? = some (some value) ∧
        (db.withData data).getCounterValue t.toNat j = .ok (some value)

-- A counter of no bytes has no samples, but both reads take a word for it.
def AddressedAlike (db : RawSpmDb) (j : Nat) (info : SpmCounterInfo) : Prop :=
  match db.format with
  | .low => False
  | .v1_2 => info.dataOffset = 0
  | .v2_0 | .rdf =>
      let offset := (db.source j info).counterOffset
      let words := info.dataSize / 2
      offset ≠ kNoOffsetForExtraGpaBlocks ∧ (words = 0 → offset.toNat < db.counterData.length) ∧
        (words ≠ 0 → offset * words = offset) ∧ offset.toNat + db.numberOfTimestamps.toNat * words.toNat ≤ 2 ^ 32

-- The places of a sample, from the word the sample starts at.
section Starts
variable {start words : Nat}

theorem from_start_apart (start words t : Nat) :
    ∀ i k, i < max words 1 → k < max words 1 → start + t * words + i = start + t * words + k → i = k := by
  omega

theorem wrapped_apart (start t : Nat) (bounded : words < 2 ^ 32) : ∀ i k, i < max words 1 → k < max words 1 →
    (start + t * words + i) % 2 ^ 32 = (start + t * words + k) % 2 ^ 32 → i = k := by
  omega

-- A run of places and a run modulo 2^32 are the same only when they start together.
theorem runs_start_together {first : Nat} (bounded : words < 2 ^ 31) (small : start < 2 ^ 32)
    (alike : ∀ p, (∃ k < max words 1, first + k = p) ↔ ∃ k < max words 1, (start + k) % 2 ^ 32 = p) : first = start := by
  obtain ⟨k, less, here⟩ := (alike first).mp ⟨0, by omega, rfl⟩
  rcases Nat.eq_zero_or_pos k with rfl | positive
  · omega
  · obtain ⟨m, less', there⟩ := (alike ((start + (k - 1)) % 2 ^ 32)).mpr ⟨k - 1, by omega, rfl⟩
    omega

theorem same_reads_iff {T : Nat} (first n : Nat) (bounded : words < 2 ^ 31) (small : start < 2 ^ 32) (positive : 0 < T) :
    (∀ data : List UInt16, data.length = n → ∀ t < T, ∃ value,
      readWords data (fun k => first + t * words + k) words = some value ∧
        readWords data (fun k => (start + t * words + k) % 2 ^ 32) words = some value) ↔
      first = start ∧ first + T * words ≤ 2 ^ 32 ∧ first + T * words ≤ n ∧ (words = 0 → first < n) := by
  obtain ⟨last, rfl⟩ : ∃ last, T = last + 1 := ⟨T - 1, by omega⟩
  rw [Nat.succ_mul]
  constructor
  · intro same
    have alike := fun t bound => same_reads_same_places (from_start_apart first words t)
      (wrapped_apart start t (by omega)) fun data length => same data length t bound
    have together : first = start := runs_start_together bounded small (by simpa using alike 0 positive)
    obtain ⟨value, read, -⟩ := same (List.replicate n 0) (by simp) last (by omega)
    have inside := read_words_within words value read (max words 1 - 1) (by omega)
    simp only [List.length_replicate] at inside
    refine ⟨together, ?_, by omega, fun empty => by subst empty; omega⟩
    obtain ⟨k, less, here⟩ := (alike last (by omega) (first + last * words + (max words 1 - 1))).mp ⟨_, by omega, rfl⟩
    omega
  · rintro ⟨rfl, unwrapped, within, occupied⟩ data rfl t bound
    have before : t * words ≤ last * words := Nat.mul_le_mul_right words (by omega)
    have inside : ∀ k < max words 1, first + t * words + k < data.length := by
      intro k less
      rcases Nat.eq_zero_or_pos words with rfl | some
      · simpa [show k = 0 by omega] using occupied rfl
      · omega
    obtain ⟨value, read⟩ := read_words_inside words inside
    refine ⟨value, read, ?_⟩
    rw [← read]
    refine read_words_congr words fun k less => Nat.mod_eq_of_lt ?_
    rcases Nat.eq_zero_or_pos words with rfl | some
    · omega
    · omega

end Starts

theorem get_counter_value_read (specified : db.format ≠ .low) (at_index : db.spmCounterInfo[j]? = some info)
    {data : List UInt16} {t : UInt32} (bound : t < db.numberOfTimestamps) :
    (db.withData data).getCounterValue t.toNat j =
      .ok (readWords data (db.rawPlace t.toNat j info) (db.dataSizeInWords info).toNat) :=
  get_counter_value_words specified at_index (UInt32.lt_iff_toNat_lt.mp bound)

theorem words_bounded (db : RawSpmDb) (info : SpmCounterInfo) : (db.dataSizeInWords info).toNat < 2 ^ 31 := by
  have size := info.dataSize.toNat_lt
  cases format : db.format with
  | low | v1_2 => simp [dataSizeInWords, format]
  | v2_0 | rdf => simp [dataSizeInWords, format]; omega

theorem derived_place (t : UInt32) (source : HwSource) (k : Nat) :
    derivedPlace t source k = ((derivedOffset source).toNat + t.toNat * (derivedWords source).toNat + k) % 2 ^ 32 := by
  simp only [derivedPlace, UInt32.toNat_add, UInt32.toNat_mul, UInt32.toNat_ofNat']
  omega

section Places
variable (laid : db.LaidOut) (specified : db.format ≠ .low) (at_index : db.spmCounterInfo[j]? = some info)
include laid specified at_index

theorem derived_words : derivedWords (db.source j info) = db.dataSizeInWords info := by
  have even := fun other => laid.sizes_even other info (List.mem_of_getElem? at_index)
  cases format : db.format with
  | low => contradiction
  | v1_2 => simp [derivedWords, source, dataSizeInWords, format]
  | v2_0 | rdf =>
      have even := even (by simp [format])
      simp only [derivedWords, source, dataSizeInWords, format]
      split
      · rfl
      · next small =>
          rw [UInt32.lt_iff_toNat_lt] at small
          have empty : info.dataSize = 0 := UInt32.toNat_inj.mp (by simp at small ⊢; omega)
          simp [empty]

theorem addressed_alike_iff : db.AddressedAlike j info ↔ (db.source j info).counterOffset ≠ kNoOffsetForExtraGpaBlocks ∧
    db.offsetInWords j info = (derivedOffset (db.source j info)).toNat ∧
      db.offsetInWords j info + db.numberOfTimestamps.toNat * (db.dataSizeInWords info).toNat ≤ 2 ^ 32 ∧
        (db.dataSizeInWords info = 0 → db.offsetInWords j info < db.counterData.length) := by
  have even := fun other => laid.sizes_even other info (List.mem_of_getElem? at_index)
  have counted := db.numberOfTimestamps.toNat_lt
  cases format : db.format with
  | low => contradiction
  | v1_2 =>
      have halved := info.dataOffset.toNat_lt
      simp only [AddressedAlike, format, source, kNoOffsetForExtraGpaBlocks, offsetInWords, derivedOffset, dataSizeInWords,
        ← UInt32.toNat_inj, ne_eq]
      simp
      omega
  | v2_0 | rdf =>
      have even := even (by simp [format])
      simp only [AddressedAlike, format, source, offsetInWords, derivedOffset, dataSizeInWords, UInt32.toNat_inj]
      split
      · next large =>
          rw [UInt32.lt_iff_toNat_lt] at large
          have filled : info.dataSize / 2 ≠ 0 := by
            rw [ne_eq, ← UInt32.toNat_inj]
            simp at large ⊢
            omega
          simp only [ne_eq, filled, not_false_eq_true, true_implies, false_implies, true_and, and_true, eq_comm]
      · next small =>
          rw [UInt32.lt_iff_toNat_lt] at small
          have empty : info.dataSize / 2 = 0 := UInt32.toNat_inj.mp (by simp at small ⊢; omega)
          simp only [empty, ne_eq, not_true_eq_false, false_implies, true_implies, true_and]
          exact and_congr_right fun _ => And.comm

theorem starts_within (together : db.offsetInWords j info = (derivedOffset (db.source j info)).toNat) :
    db.offsetInWords j info + db.numberOfTimestamps.toNat * (db.dataSizeInWords info).toNat ≤ db.counterData.length := by
  have within := laid.within j info at_index
  cases format : db.format with
  | low => contradiction
  | v1_2 =>
      simp [source, dataSizeInWords, offsetInWords, derivedOffset, format] at within together ⊢
      omega
  | v2_0 | rdf => simpa only [source, dataSizeInWords, offsetInWords, format] using within

-- The two reads of one matched counter, for all data and timestamps.
theorem matched_same_iff {counters : List GpaHwCounter} {i : Nat} (supported : (db.lookupCounters counters).2.derivedCounterIsSupported = true)
    (matched : db.Matched counters i j) (sampled : db.numberOfTimestamps ≠ 0) :
    (∀ data : List UInt16, data.length = db.counterData.length → ∀ t : UInt32, t < db.numberOfTimestamps → ∃ value,
      ((db.withData data).rawCounterValues counters t)[i]? = some (some value) ∧
        (db.withData data).getCounterValue t.toNat j = .ok (some value)) ↔ db.AddressedAlike j info := by
  have positive : 0 < db.numberOfTimestamps.toNat :=
    Nat.pos_of_ne_zero fun zero => sampled (UInt32.toNat_inj.mp zero)
  have first_bound : (0 : UInt32) < db.numberOfTimestamps := UInt32.lt_iff_toNat_lt.mpr positive
  have handed := raw_counter_values_at supported matched at_index
  have words := derived_words laid specified at_index
  have small := (derivedOffset (db.source j info)).toNat_lt
  rw [addressed_alike_iff laid specified at_index]
  by_cases extra : (db.source j info).counterOffset = kNoOffsetForExtraGpaBlocks
  · simp only [extra, ne_eq, not_true_eq_false, false_and, iff_false]
    intro same
    obtain ⟨value, given, returned⟩ := same (marked (db.rawPlace 0 j info 0) db.counterData.length) (by simp) 0 first_bound
    obtain rfl : 0 = value := by simpa [handed, extra] using given
    rw [get_counter_value_read specified at_index first_bound] at returned
    have read := Except.ok.inj returned
    have inside : ∀ k < max (db.dataSizeInWords info).toNat 1, db.rawPlace 0 j info k < db.counterData.length := by
      simpa using read_words_within _ _ read
    have apart := from_start_apart (db.offsetInWords j info) (db.dataSizeInWords info).toNat 0
    obtain ⟨total, read', nonzero⟩ := read_marked_first _ inside apart
    exact nonzero (Option.some.inj (read'.symm.trans read))
  have places : ∀ t : UInt32, derivedPlace t (db.source j info) = fun k =>
      ((derivedOffset (db.source j info)).toNat + t.toNat * (db.dataSizeInWords info).toNat + k) % 2 ^ 32 := by
    intro t
    funext k
    rw [derived_place, words]
  have reads := same_reads_iff (db.offsetInWords j info) db.counterData.length (words_bounded db info) small positive
  constructor
  · intro same
    obtain ⟨together, unwrapped, -, occupied⟩ := reads.mp fun data length t bound => by
      have stamp : (UInt32.ofNat t).toNat = t := UInt32.toNat_ofNat_of_lt' (Nat.lt_trans bound db.numberOfTimestamps.toNat_lt)
      have bound' : UInt32.ofNat t < db.numberOfTimestamps := UInt32.lt_iff_toNat_lt.mpr (by rwa [stamp])
      obtain ⟨value, given, returned⟩ := same data length (UInt32.ofNat t) bound'
      rw [get_counter_value_read specified at_index bound', stamp] at returned
      rw [handed, if_neg extra, words, places, stamp] at given
      exact ⟨value, Except.ok.inj returned, Option.some.inj given⟩
    exact ⟨extra, together, unwrapped, fun empty => occupied (by simp [empty])⟩
  · rintro ⟨-, together, unwrapped, occupied⟩ data length t bound
    have within : db.offsetInWords j info + db.numberOfTimestamps.toNat * (db.dataSizeInWords info).toNat ≤ db.counterData.length :=
      starts_within laid specified at_index together
    obtain ⟨value, returned, gave⟩ :=
      reads.mpr ⟨together, unwrapped, within, fun empty => occupied (UInt32.toNat_inj.mp empty)⟩ data length t.toNat
        (UInt32.lt_iff_toNat_lt.mp bound)
    refine ⟨value, ?_, ?_⟩
    · rw [handed, if_neg extra, words, places, gave]
    · rw [get_counter_value_read specified at_index bound]
      exact congrArg Except.ok returned

end Places

theorem same_samples_iff (db : RawSpmDb) (counters : List GpaHwCounter) (specified : db.format ≠ .low) (laid : db.LaidOut)
    (supported : (db.lookupCounters counters).2.derivedCounterIsSupported = true) :
    db.SameSamples counters ↔ db.numberOfTimestamps = 0 ∨
      ∀ i j info, db.Matched counters i j → db.spmCounterInfo[j]? = some info → db.AddressedAlike j info := by
  by_cases sampled : db.numberOfTimestamps = 0
  · simp only [sampled, true_or, iff_true]
    intro data length t bound
    rw [sampled] at bound
    exact absurd bound (UInt32.not_lt_zero)
  · simp only [sampled, false_or]
    constructor
    · intro same i j info matched at_index
      exact (matched_same_iff laid specified at_index supported matched sampled).mp fun data length t bound =>
        same data length t bound i j matched
    · intro alike data length t bound i j matched
      obtain ⟨info, at_index⟩ := matched_listed matched
      exact (matched_same_iff laid specified at_index supported matched sampled).mpr (alike i j info matched at_index) data length t bound

-- Three counters of 32 bits and one timestamp.
def wideDb : RawSpmDb where
  format := .v2_0
  samplingInterval := 4096
  numberOfTimestamps := 1
  timestamps := [100]
  spmCounterInfo := [⟨1, 0, 0, 0, 4⟩, ⟨1, 0, 1, 4, 4⟩, ⟨1, 0, 2, 8, 4⟩]
  counterOffsets := []
  counterData := [1, 0, 2, 0, 3, 0]
  timestamped := rfl
  offsetsKept := by decide

theorem wide_laid_out : wideDb.LaidOut where
  sizes_even := fun _ => by decide
  placed_even := fun _ => by decide
  within := by
    intro j info there
    rcases j with _ | _ | _ | j
    · obtain rfl := Option.some.inj there; decide
    · obtain rfl := Option.some.inj there; decide
    · obtain rfl := Option.some.inj there; decide
    · simp [wideDb] at there

theorem wide_first_same : wideDb.SameSamples [⟨false, 1, 0, 0⟩] := by
  refine (same_samples_iff wideDb [⟨false, 1, 0, 0⟩] (by decide) wide_laid_out (by decide)).mpr (.inr ?_)
  rintro i j info ⟨counter, there, plain, found⟩ at_index
  obtain rfl : counter = ⟨false, 1, 0, 0⟩ := by simpa using List.mem_of_getElem? there
  obtain rfl : 0 = j := Option.some.inj (Eq.trans (by decide) found)
  obtain rfl := Option.some.inj at_index
  show _ ∧ _
  decide

theorem wide_second_differs : wideDb.LaidOut ∧ (wideDb.lookupCounters [⟨false, 1, 0, 1⟩]).2.derivedCounterIsSupported = true ∧
    wideDb.rawCounterValues [⟨false, 1, 0, 1⟩] 0 = [some 3] ∧ wideDb.getCounterValue 0 1 = .ok (some 2) ∧
      ¬ wideDb.SameSamples [⟨false, 1, 0, 1⟩] := by
  have matched : wideDb.Matched [⟨false, 1, 0, 1⟩] 0 1 := ⟨⟨false, 1, 0, 1⟩, rfl, rfl, by decide⟩
  refine ⟨wide_laid_out, by decide, by decide, rfl, ?_⟩
  intro same
  obtain ⟨value, given, returned⟩ := same wideDb.counterData rfl 0 (by decide) 0 1 matched
  have three : (3 : UInt32) = value := Option.some.inj (Option.some.inj given)
  have two : (2 : UInt32) = value := Option.some.inj (Except.ok.inj returned)
  rw [← three] at two
  exact absurd two (by decide)

end RawSpmDb

end RadeonPanel.Spm

import RadeonPanel.Base.Chains
import RadeonPanel.Spm.DerivedRows
import RadeonPanel.Spm.SampleAddressing

set_option autoImplicit false

namespace RadeonPanel.Spm.CounterAvailability

open RawSpmDb Chains

section Property
variable (db : RawSpmDb) (counters : List GpaHwCounter)

def Recorded (counter : GpaHwCounter) : Prop :=
  ∃ info ∈ db.spmCounterInfo, info.gpuBlockId = counter.gpaHwBlock ∧ info.gpuBlockInstance = counter.gpaHwBlockInstance ∧
    info.eventIndex = counter.gpaHwBlockEventId

def Surplus (counter : GpaHwCounter) : Prop :=
  (∃ info ∈ db.spmCounterInfo, info.gpuBlockId = counter.gpaHwBlock) ∧
    ∀ info ∈ db.spmCounterInfo, info.gpuBlockId = counter.gpaHwBlock → info.gpuBlockInstance < counter.gpaHwBlockInstance

instance : DecidablePred (Recorded db) := fun _ => inferInstanceAs (Decidable (∃ _ ∈ _, _))

instance : DecidablePred (Surplus db) := fun _ => inferInstanceAs (Decidable (_ ∧ _))

def Sound (isAvailable : Bool) : Prop :=
  ((∀ counter ∈ counters, counter.isTimingBlock = false → Recorded db counter) → isAvailable = true) ∧
    (isAvailable = true → ∀ counter ∈ counters, counter.isTimingBlock = false → Recorded db counter ∨ Surplus db counter)

end Property

section Condition
variable (db : RawSpmDb) (counters : List GpaHwCounter)

-- The next instance behind that of the counter before it.
def Next (counter later : GpaHwCounter) : Prop :=
  (identity later).1 = (identity counter).1 ∧ (identity later).2.1 = (identity counter).2.1 + 1

def Taken (counter later : GpaHwCounter) : Prop := (db.matching later).isSome ∨ Next counter later

def Topmost (counter : GpaHwCounter) : Prop :=
  (∃ info ∈ db.spmCounterInfo, info.gpuBlockId = (identity counter).1) ∧
    (∀ info ∈ db.spmCounterInfo, info.gpuBlockId = (identity counter).1 → info.gpuBlockInstance ≤ (identity counter).2.1) ∧
    (identity counter).2.1 ≠ 0xFFFFFFFF

def unmatchedTiming (counter : GpaHwCounter) : Bool := counter.isTimingBlock && (db.matching counter).isNone

instance : DecidableRel Next := fun _ _ => inferInstanceAs (Decidable (_ ∧ _))

instance : DecidableRel (Taken db) := fun _ _ => inferInstanceAs (Decidable (_ ∨ _))

instance : DecidablePred (Topmost db) := fun _ => inferInstanceAs (Decidable (_ ∧ _))

-- The loop begins as if it had seen instance 0 of block 0, and goes past the first timing counter.
def lookedUp : List GpaHwCounter := ⟨false, 0, 0, 0⟩ :: counters.eraseP (unmatchedTiming db)

structure Regular : Prop where
  some_counter : counters ≠ []
  timing : (∀ counter ∈ counters, counter.isTimingBlock = false → Recorded db counter) →
    (lookedUp db counters).IsChain fun counter later => later.isTimingBlock = true → Taken db counter later
  gaps : (lookedUp db counters).IsChain (Taken db) →
    (lookedUp db counters).IsChain fun counter later =>
      later.isTimingBlock = false → Recorded db later ∨ Topmost db counter

end Condition

section Lookup
variable {db : RawSpmDb} {counter later : GpaHwCounter} {counters : List GpaHwCounter}

theorem identity_plain (plain : counter.isTimingBlock = false) :
    identity counter = (counter.gpaHwBlock, counter.gpaHwBlockInstance, counter.gpaHwBlockEventId) := by
  rw [identity, plain]
  rfl

theorem identity_timing (timing : counter.isTimingBlock = true) : identity counter = (0, 0, 0) := by rw [identity, if_pos timing]

theorem matching_alike (same : identity counter = identity later) : db.matching counter = db.matching later := by
  rw [matching, matching, same]

theorem matching_recorded (plain : counter.isTimingBlock = false) : (db.matching counter).isSome ↔ Recorded db counter := by
  simp only [matching, List.findIdx?_isSome, List.any_eq_true, hasIdentity, identity_plain plain, Bool.and_eq_true, beq_iff_eq,
    and_assoc, Recorded]

-- What is found for a timing counter is found for each of them.
theorem erase_matched (timing : counter.isTimingBlock = true) (found : (db.matching counter).isSome) :
    counters.eraseP (unmatchedTiming db) = counters := by
  refine List.eraseP_of_forall_not fun later _ => ?_
  by_cases same : later.isTimingBlock = true
  · have alike : db.matching later = db.matching counter :=
      matching_alike ((identity_timing same).trans (identity_timing timing).symm)
    simp [unmatchedTiming, alike, Option.isSome_iff_ne_none.mp found]
  · simp [unmatchedTiming, same]

-- Where no timing counter has come yet, one of those to come may be gone past.
def ahead (db : RawSpmDb) (s : Lookup) (counters : List GpaHwCounter) : List GpaHwCounter :=
  if s.timingCounterIndex.isNone then counters.eraseP (unmatchedTiming db) else counters

-- A counter that is looked up stays ahead of the ones behind it, found or not.
theorem ahead_looked_up (s : Lookup) (i : Nat) (counters : List GpaHwCounter) (looked_up : ¬(s.timesBy later = true ∧ db.matching later = none)) :
    ahead db s (later :: counters) = later :: ahead db (s.timed i later) counters := by
  rw [ahead, ahead]
  cases untimed : s.timingCounterIndex with
  | some index =>
      have other : s.timesBy later = false := by simp [Lookup.timesBy, untimed]
      simp [Lookup.timed, other, untimed]
  | none =>
      cases timing : later.isTimingBlock with
      | false =>
          have other : s.timesBy later = false := by simp [Lookup.timesBy, timing]
          simp [Lookup.timed, other, untimed, unmatchedTiming, timing]
      | true =>
          have times : s.timesBy later = true := by simp [Lookup.timesBy, timing, untimed]
          have found : (db.matching later).isSome := Option.isSome_iff_ne_none.mpr fun missing => looked_up ⟨times, missing⟩
          simp [Lookup.timed, times, erase_matched timing found]

theorem ahead_gone_past (s : Lookup) (i : Nat) (counters : List GpaHwCounter) (times : s.timesBy later = true)
    (missing : db.matching later = none) : ahead db s (later :: counters) = ahead db (s.timed i later) counters := by
  obtain ⟨timing, untimed⟩ := Bool.and_eq_true_iff.mp times
  simp [ahead, untimed, Lookup.timed, times, unmatchedTiming, timing, missing]

structure Behind (s : Lookup) (counter : GpaHwCounter) : Prop where
  supported : s.derivedCounterIsSupported = true
  block : s.previousValidGpaBlock = (identity counter).1
  ofBlock : s.previousValidGpaInstance = (identity counter).2.1

theorem timed_behind {s : Lookup} (behind : Behind s counter) (i : Nat) : Behind (s.timed i later) counter := by
  rw [Lookup.timed]
  split
  · exact ⟨behind.supported, behind.block, behind.ofBlock⟩
  · exact behind

section Missing
variable {s : Lookup} (behind : Behind s counter) (i : Nat) (found : db.matching later = none) (untimed : s.timesBy later = false)
include behind found untimed

-- A counter that is not found is taken for the next instance behind the one before it.
theorem next_behind (follows : Next counter later) : Behind (db.lookupCounter s i later).2 later := by
  have block : (identity later).1 = s.previousValidGpaBlock := follows.1.trans behind.block.symm
  have number : (identity later).2.1 = s.previousValidGpaInstance + 1 := by rw [follows.2, behind.ofBlock]
  have same : s.timed i later = s := by simp [Lookup.timed, untimed]
  simp only [lookupCounter, found, untimed, Bool.false_eq_true, if_false, same, if_pos block, if_pos number]
  exact ⟨behind.supported, block.symm, number.symm⟩

theorem apart_unsupported (apart : ¬Next counter later) : (db.lookupCounter s i later).2.derivedCounterIsSupported = false := by
  have same : s.timed i later = s := by simp [Lookup.timed, untimed]
  simp only [lookupCounter, found, untimed, Bool.false_eq_true, if_false, same]
  split
  · rename_i block
    have number : ¬(identity later).2.1 = s.previousValidGpaInstance + 1 := fun number =>
      apart ⟨block.trans behind.block, by rw [number, behind.ofBlock]⟩
    rw [if_neg number]
  · rfl

end Missing

theorem lookup_supported_iff {s : Lookup} (behind : Behind s counter) (i : Nat) :
    (db.lookupFrom s i counters).2.derivedCounterIsSupported = true ↔ (counter :: ahead db s counters).IsChain (Taken db) := by
  induction counters generalizing s counter i with
  | nil =>
      have none_ahead : ahead db s [] = [] := by simp [ahead]
      rw [none_ahead]
      exact ⟨fun _ => .singleton counter, fun _ => behind.supported⟩
  | cons later rest ih =>
      have timed : Behind (s.timed i later) counter := timed_behind behind i
      rw [lookupFrom, if_pos behind.supported]
      dsimp only
      cases found : db.matching later with
      | some j =>
          have next : Behind (db.lookupCounter s i later).2 later := by
            simp only [lookupCounter, found]
            exact ⟨timed.supported, rfl, rfl⟩
          have same : ahead db (db.lookupCounter s i later).2 rest = ahead db (s.timed i later) rest := by
            simp only [ahead, lookupCounter, found]
          have taken : Taken db counter later := .inl (by rw [found]; rfl)
          rw [ih next (i + 1), ahead_looked_up s i rest (by simp [found]), List.isChain_cons_cons, same]
          exact ⟨fun chain => ⟨taken, chain⟩, fun chain => chain.2⟩
      | none =>
          by_cases times : s.timesBy later = true
          · have next : (db.lookupCounter s i later).2 = s.timed i later := by simp [lookupCounter, found, times]
            rw [next, ih timed (i + 1), ahead_gone_past s i rest times found]
          · have untimed : s.timed i later = s := by rw [Lookup.timed, if_neg times]
            have other : s.timesBy later = false := Bool.eq_false_iff.mpr times
            rw [ahead_looked_up s i rest (by simp [times]), List.isChain_cons_cons, untimed]
            have taken_iff : Taken db counter later ↔ Next counter later := by simp [Taken, found]
            rw [taken_iff]
            by_cases follows : Next counter later
            · have next := next_behind behind i found other follows
              have same : ahead db (db.lookupCounter s i later).2 rest = ahead db s rest := by
                rw [ahead, ahead, lookup_counter_timing, untimed]
              rw [ih next (i + 1), same]
              exact ⟨fun chain => ⟨follows, chain⟩, fun chain => chain.2⟩
            · have stopped := apart_unsupported behind i found other follows
              rw [lookup_unsupported stopped, stopped]
              exact ⟨fun contrary => absurd contrary Bool.false_ne_true, fun chain => absurd chain.1 follows⟩

theorem supported_iff (db : RawSpmDb) (counters : List GpaHwCounter) :
    (db.lookupCounters counters).2.derivedCounterIsSupported = true ↔ (lookedUp db counters).IsChain (Taken db) :=
  lookup_supported_iff ⟨rfl, rfl, rfl⟩ 0

end Lookup

section Decision
variable {db : RawSpmDb} {counter later : GpaHwCounter} {counters : List GpaHwCounter}

theorem surplus_behind (next : Next counter later) (plain : later.isTimingBlock = false) : Surplus db later ↔ Topmost db counter := by
  have sought := identity_plain plain
  obtain ⟨block, number⟩ := next
  rw [sought] at block number
  dsimp only at block number
  rw [Surplus, Topmost, block, number]
  by_cases last : (identity counter).2.1 = 0xFFFFFFFF
  · have none_below : ∀ n : UInt32, ¬n < (identity counter).2.1 + 1 := by
      rw [last]
      exact fun n below => absurd (UInt32.lt_iff_toNat_lt.mp below) (Nat.not_lt_zero _)
    constructor
    · intro ⟨⟨info, listed, there⟩, below⟩
      exact absurd (below info listed there) (none_below _)
    · exact fun topmost => absurd last topmost.2.2
  · have below_next : ∀ n : UInt32, n < (identity counter).2.1 + 1 ↔ n ≤ (identity counter).2.1 := by
      intro n
      have proper : (identity counter).2.1.toNat ≠ 4294967295 := fun same => last (UInt32.toNat_inj.mp same)
      have bound := (identity counter).2.1.toNat_lt
      rw [UInt32.lt_iff_toNat_lt, UInt32.le_iff_toNat_le, UInt32.toNat_add]
      have one : (1 : UInt32).toNat = 1 := rfl
      omega
    simp only [below_next, last, ne_eq, not_false_eq_true, and_true]

theorem plain_looked_up {kept : GpaHwCounter → Prop} (db : RawSpmDb) (counters : List GpaHwCounter) :
    (∀ counter ∈ counters, counter.isTimingBlock = false → kept counter) ↔
      ∀ counter ∈ counters.eraseP (unmatchedTiming db), counter.isTimingBlock = false → kept counter := by
  refine forall_congr' fun counter => ?_
  by_cases plain : counter.isTimingBlock = false
  · have passed : ¬unmatchedTiming db counter = true := by simp [unmatchedTiming, plain]
    rw [List.mem_eraseP_of_neg passed]
  · exact ⟨fun _ _ other => absurd other plain, fun _ _ other => absurd other plain⟩

theorem sound_iff (db : RawSpmDb) (counters : List GpaHwCounter) (some_counter : counters ≠ []) :
    Sound db counters (db.lookupCounters counters).2.derivedCounterIsSupported ↔ Regular db counters := by
  have recorded_taken : ∀ counter later : GpaHwCounter, (later.isTimingBlock = false → Recorded db later) →
      (Taken db counter later ↔ (later.isTimingBlock = true → Taken db counter later)) := by
    intro counter later recorded
    cases timing : later.isTimingBlock with
    | true => exact ⟨fun taken _ => taken, fun taken => taken rfl⟩
    | false =>
        have taken : Taken db counter later := .inl ((matching_recorded timing).mpr (recorded timing))
        exact ⟨fun _ _ => taken, fun _ => taken⟩
  have taken_surplus : ∀ counter later, Taken db counter later →
      ((later.isTimingBlock = false → Recorded db later ∨ Surplus db later) ↔
        (later.isTimingBlock = false → Recorded db later ∨ Topmost db counter)) := by
    intro counter later taken
    refine forall_congr' fun plain => ?_
    obtain found | next := taken
    · have recorded := (matching_recorded plain).mp found
      exact ⟨fun _ => .inl recorded, fun _ => .inl recorded⟩
    · rw [surplus_behind next plain]
  rw [Sound, supported_iff, plain_looked_up db counters, plain_looked_up db counters]
  constructor
  · intro ⟨complete, only⟩
    refine ⟨some_counter, fun recorded => ?_, fun chain => ?_⟩
    · have recorded := (plain_looked_up db counters).mp recorded
      exact (chain_congr recorded_taken (chain_each.mpr recorded)).mp (complete recorded)
    · exact (chain_congr taken_surplus chain).mp (chain_each.mpr (only chain))
  · intro regular
    refine ⟨fun recorded => ?_, fun chain => ?_⟩
    · have timing := regular.timing ((plain_looked_up db counters).mpr recorded)
      exact (chain_congr recorded_taken (chain_each.mpr recorded)).mpr timing
    · exact chain_each.mp ((chain_congr taken_surplus chain).mpr (regular.gaps chain))

end Decision

section Calculation
variable {Value : Type} {doubles : Doubles Value} {gpa : Gpa Value} {raw : RawSpmDb} {filterBad : Bool} {shouldAbort : Nat → Bool}

def Describes (gpa : Gpa Value) (z : Nat) (name : String) (counters : List GpaHwCounter) : Prop :=
  ∃ index, gpa.getCounterIndex z name = .found index ∧ gpa.getCounterInfo z index = some ⟨true, some counters⟩

theorem processed_available {z timestamps : Nat} {entry : ExpectedDerivedCounter} {w : Work Value} {counters : List GpaHwCounter} {stop : Bool}
    (described : Describes gpa z entry.counterInfo.gpaCounterName counters) :
    (processCounter doubles filterBad stop timestamps z entry w
      (answerFor doubles gpa raw z entry.counterInfo.gpaCounterName)).entry.isAvailable =
      if counters = [] then entry.isAvailable else (raw.lookupCounters counters).2.derivedCounterIsSupported := by
  obtain ⟨index, found, info⟩ := described
  cases counters with
  | nil => simp [answerFor, found, info, processCounter]
  | cons counter counters =>
      simp only [answerFor, found, info, Option.bind_some, if_true, reduceCtorEq, if_false]
      cases supported : (raw.lookupCounters (counter :: counters)).2.derivedCounterIsSupported with
      | false => rfl
      | true =>
          simp only [if_true]
          split
          · simp only [processCounter]
            split <;> rfl
          · rfl

-- The loop leaves each counter as the pass for it has left it.
theorem processed_at (rest : List ExpectedDerivedCounter) (entry : ExpectedDerivedCounter) {before : List ExpectedDerivedCounter} {z : Nat}
    {w : Work Value}
    (reached : (processCounters doubles gpa raw filterBad shouldAbort z before w).returned = none) :
    (processCounters doubles gpa raw filterBad shouldAbort z (before ++ entry :: rest) w).expected[before.length]? =
      some (processCounter doubles filterBad (shouldAbort (z + before.length)) raw.numberOfTimestamps.toNat (z + before.length) entry
        (processCounters doubles gpa raw filterBad shouldAbort z before w).work
        (answerFor doubles gpa raw (z + before.length) entry.counterInfo.gpaCounterName)).entry := by
  induction before generalizing z w with
  | nil =>
      simp only [List.nil_append, processCounters]
      split <;> rfl
  | cons first before ih =>
      rw [processCounters] at reached
      rw [List.cons_append, processCounters, processCounters]
      generalize processCounter doubles filterBad (shouldAbort z) raw.numberOfTimestamps.toNat z first w
        (answerFor doubles gpa raw z first.counterInfo.gpaCounterName) = one at reached ⊢
      cases going : one.returned with
      | some code =>
          rw [going] at reached
          cases reached
      | none =>
          rw [going] at reached
          have later := ih reached
          rw [Nat.add_right_comm, Nat.add_assoc] at later
          exact later

-- The calculation of a loaded database comes past the counters before one.
structure Reaches (db : RgpSpmDataBase Value) (a : Attempt Value) (before : List ExpectedDerivedCounter) : Prop where
  loaded : db.Loaded
  calculates : db.calculates = true
  opened : db.contextOpen a = true
  going : (processCounters db.doubles a.gpa db.raw db.filterBadSpmData a.shouldAbort 0 before db.startWork).returned = none

end Calculation

theorem availability_sound_iff {Value : Type} (db : RgpSpmDataBase Value) (a : Attempt Value) (before rest : List ExpectedDerivedCounter)
    (entry : ExpectedDerivedCounter) (expected : db.expectedDerivedCounters = before ++ entry :: rest) (reaches : Reaches db a before)
    (counters : List GpaHwCounter) (described : Describes a.gpa before.length entry.counterInfo.gpaCounterName counters) :
    ∃ after, (db.calculateDerivedCounters a).2.expectedDerivedCounters[before.length]? = some after ∧
      (Sound db.raw counters after.isAvailable ↔ Regular db.raw counters) := by
  have left := processed_at rest entry reaches.going
  rw [Nat.zero_add] at left
  have filled : (db.calculateDerivedCounters a).2.expectedDerivedCounters = (processCounters db.doubles a.gpa db.raw db.filterBadSpmData
      a.shouldAbort 0 (before ++ entry :: rest) db.startWork).expected := by
    rw [db.calculate_opened (loaded_first reaches.loaded) reaches.calculates reaches.opened, ← expected]
    rfl
  rw [filled]
  refine ⟨_, left, ?_⟩
  rw [processed_available described]
  by_cases some_counter : counters = []
  · have unavailable : entry.isAvailable = false :=
      (loaded_ordered reaches.loaded).unavailable entry (expected ▸ List.mem_append_right before List.mem_cons_self)
    rw [if_pos some_counter, unavailable]
    refine ⟨fun sound => ?_, fun regular => absurd some_counter regular.some_counter⟩
    have marked := sound.1 (by simp [some_counter])
    cases marked
  · rw [if_neg some_counter]
    exact sound_iff db.raw counters some_counter

section Samples

def describing (counters : List GpaHwCounter) : Gpa Int :=
  { oneCounterGpa none with getCounterInfo := fun _ _ => some ⟨true, some counters⟩ }

def oneRequested (raw : RawSpmDb) : RgpSpmDataBase Int :=
  .initialized raw wholeNumbers kRgpGfxLevelMinGfx10 [⟨"Wavefronts", "Waves", .unknown⟩] [] true

-- Instances 0 and 2 of the block are recorded, instance 1 is not.
def outerInstances : RawSpmDb :=
  { oneSample with
    spmCounterInfo := [⟨3, 0, 7, 0, 2⟩, ⟨3, 2, 7, 2, 2⟩]
    counterOffsets := [0, 1]
    counterData := [5, 6]
    offsetsKept := fun _ => rfl }

theorem middle_instance_replaced :
    ((oneRequested outerInstances).calculateDerivedCounters (uninterrupted (describing
      [⟨false, 3, 0, 7⟩, ⟨false, 3, 1, 7⟩, ⟨false, 3, 2, 7⟩]))).2.expectedDerivedCounters.map (·.isAvailable) = [true] ∧
    ¬Sound outerInstances [⟨false, 3, 0, 7⟩, ⟨false, 3, 1, 7⟩, ⟨false, 3, 2, 7⟩] true := by
  refine ⟨by decide, fun sound => ?_⟩
  exact absurd (sound.2 rfl ⟨false, 3, 1, 7⟩ (by decide) rfl) (by decide)

theorem surplus_instance_sound :
    ∃ after, ((oneRequested oneSample).calculateDerivedCounters (uninterrupted (describing
      [⟨false, 3, 0, 7⟩, ⟨false, 3, 1, 7⟩]))).2.expectedDerivedCounters[0]? = some after ∧
      Sound oneSample [⟨false, 3, 0, 7⟩, ⟨false, 3, 1, 7⟩] after.isAvailable := by
  have regular : Regular oneSample [⟨false, 3, 0, 7⟩, ⟨false, 3, 1, 7⟩] := ⟨by decide, by decide, by decide⟩
  obtain ⟨after, left, sound⟩ := availability_sound_iff (oneRequested oneSample) (uninterrupted (describing _)) [] []
    ⟨⟨"Wavefronts", "Waves", .unknown⟩, false, false⟩ rfl ⟨.intro .., rfl, rfl, rfl⟩ [⟨false, 3, 0, 7⟩, ⟨false, 3, 1, 7⟩] ⟨0, rfl, rfl⟩
  exact ⟨after, left, sound.mpr regular⟩

end Samples

end RadeonPanel.Spm.CounterAvailability

import Mathlib.Algebra.Group.Nat.Defs
import RadeonPanel.Base.Bytes

set_option autoImplicit false

namespace RadeonPanel.Raytracing.RraTraceValidator

inductive RraTraceValidationResult where
  | success
  | failedToValidate
  | missingBvh
  | missingRayHistory
  | incompleteRayHistory
deriving DecidableEq, Repr

inductive Handle where
  | fileStream
  | rdfStream
  | chunkFile
deriving DecidableEq, Repr

-- What the validation does: with its handles, with the memory of a buffer of so many
-- bytes, and with a query that fails.
inductive Event where
  | opened (handle : Handle)
  | closed (handle : Handle)
  | failed
  | accesses (bufferSize count : Nat)
  | overflows
deriving DecidableEq, Repr

-- A call, and the value that it leaves in its argument, be it that it fails.
structure Answer (α : Type) where
  ok : Bool
  value : α
deriving DecidableEq, Repr

inductive ChunkName where
  | accelStructOld
  | accelStructNew
  | rayHistory
  | rayHistoryMetadata
deriving DecidableEq, Repr

def kRayHistoryMetadataLostBytesIndex : Nat := 16

-- What the file and the library answer. The metadata chunks are asked for by index, and a
-- read gives the bytes that it puts into the buffer.
structure RdfLibrary where
  fileOpens : Bool
  createFromUserStream : Bool
  openStream : Bool
  getChunkCount : ChunkName → Answer Nat
  getChunkDataSize : Nat → Answer Nat
  readChunkData : Nat → Answer (List UInt8)

section Validate
variable (lib : RdfLibrary)

def asked (ok : Bool) : List Event := if ok then [] else [.failed]

def bufferSize (i : Nat) : Nat := (lib.getChunkDataSize i).value / 4 * 4

-- The word of the buffer, which was zeros before the read.
def lostBytes (i : Nat) : Nat :=
  Bytes.ofLe ((List.range 4).map fun k => (lib.readChunkData i).value.getD (4 * kRayHistoryMetadataLostBytesIndex + k) 0)

def readMetadata (i : Nat) : List Event :=
  asked (lib.getChunkDataSize i).ok ++ [.accesses (bufferSize lib i) (lib.readChunkData i).value.length] ++
    asked (lib.readChunkData i).ok ++ [.accesses (bufferSize lib i) (4 * (kRayHistoryMetadataLostBytesIndex + 1))]

-- The loop over the chunks that are left. Its index is an int.
def missingBytesFrom : Nat → Nat → Bool × List Event
  | 0, _ => (false, [])
  | left + 1, i =>
      if 0 < lostBytes lib i then (true, readMetadata lib i)
      else
        let rest := missingBytesFrom left (i + 1)
        (rest.1, readMetadata lib i ++ (if i + 1 = 2 ^ 31 then [.overflows] else []) ++ rest.2)

def hasMissingBytesInDispatches : Bool × List Event :=
  let metadataChunkCount := lib.getChunkCount .rayHistoryMetadata
  let walked := missingBytesFrom lib metadataChunkCount.value 0
  (walked.1, asked metadataChunkCount.ok ++ walked.2)

-- The stream's destructor closes the file where that was not done before.
def validateFile (validateRayHistory : Bool) : RraTraceValidationResult × List Event :=
  if lib.fileOpens = false then (.failedToValidate, [.failed])
  else if lib.createFromUserStream = false then (.failedToValidate, [.opened .fileStream, .failed, .closed .fileStream])
  else if lib.openStream = false then
    (.failedToValidate, [.opened .fileStream, .opened .rdfStream, .failed, .closed .rdfStream, .closed .fileStream])
  else
    let oldChunkCount := lib.getChunkCount .accelStructOld
    let newChunkCount : Answer Nat := if oldChunkCount.ok then lib.getChunkCount .accelStructNew else ⟨false, 0⟩
    let rayHistoryChunkCount : Answer Nat := if validateRayHistory then lib.getChunkCount .rayHistory else ⟨true, 1⟩
    let hasIncompleteDispatchData := hasMissingBytesInDispatches lib
    let result :=
      if (oldChunkCount.ok && newChunkCount.ok && rayHistoryChunkCount.ok) = false then .failedToValidate
      else if oldChunkCount.value = 0 ∧ newChunkCount.value = 0 then .missingBvh
      else if hasIncompleteDispatchData.1 then .incompleteRayHistory
      else if rayHistoryChunkCount.value = 0 then .missingRayHistory
      else .success
    (result, [.opened .fileStream, .opened .rdfStream, .opened .chunkFile] ++ asked (oldChunkCount.ok && newChunkCount.ok) ++
      asked rayHistoryChunkCount.ok ++ hasIncompleteDispatchData.2 ++ [.closed .chunkFile, .closed .rdfStream, .closed .fileStream])

end Validate

inductive Signal where
  | captureMissingBvhData
  | captureMissingRayHistory
  | captureIncompleteRayHistory
deriving DecidableEq, Repr

structure TraceCompletion where
  removesFile : Bool
  emitted : Option Signal
  validationFailed : Bool
deriving DecidableEq, Repr

-- RaytracingViewModel::TraceCompleted with a trace source, for a trace that is completed.
def traceCompleted (validationResult : RraTraceValidationResult) : TraceCompletion :=
  let validationFailed : Bool := validationResult ≠ .success && validationResult ≠ .failedToValidate
  if validationFailed then
    ⟨true, match validationResult with
      | .missingBvh => some .captureMissingBvhData
      | .missingRayHistory => some .captureMissingRayHistory
      | .incompleteRayHistory => some .captureIncompleteRayHistory
      | .success | .failedToValidate => none, validationFailed⟩
  else ⟨false, none, validationFailed⟩

def Event.InBounds : Event → Prop
  | .accesses bufferSize count => count ≤ bufferSize
  | .overflows => False
  | .opened _ | .closed _ | .failed => True

section Claim
variable (lib : RdfLibrary) (validateRayHistory : Bool)

-- The trace has what it has to have, and no metadata chunk reports lost bytes.
structure Accepted : Prop where
  bvh : 0 < (lib.getChunkCount .accelStructOld).value ∨ 0 < (lib.getChunkCount .accelStructNew).value
  rayHistory : validateRayHistory = true → 0 < (lib.getChunkCount .rayHistory).value
  complete : ∀ i < (lib.getChunkCount .rayHistoryMetadata).value, lostBytes lib i = 0

structure ValidatesExactly : Prop where
  inside : ∀ event ∈ (validateFile lib validateRayHistory).2, event.InBounds
  released : ∀ handle, (validateFile lib validateRayHistory).2.count (.opened handle) ≤ 1 ∧
    (validateFile lib validateRayHistory).2.count (.closed handle) = (validateFile lib validateRayHistory).2.count (.opened handle)
  exactly : (validateFile lib validateRayHistory).1 = .success ↔
    .failed ∉ (validateFile lib validateRayHistory).2 ∧ Accepted lib validateRayHistory
  kept : .failed ∈ (validateFile lib validateRayHistory).2 → (validateFile lib validateRayHistory).1 = .failedToValidate ∧
    (traceCompleted (validateFile lib validateRayHistory).1).removesFile = false

-- The metadata chunks are walked up to the first that reports lost bytes.
def Walked (i : Nat) : Prop :=
  i < (lib.getChunkCount .rayHistoryMetadata).value ∧ ∀ k < i, lostBytes lib k = 0

structure FitsBuffer (i : Nat) : Prop where
  written : (lib.readChunkData i).value.length ≤ bufferSize lib i
  long : 4 * (kRayHistoryMetadataLostBytesIndex + 1) ≤ (lib.getChunkDataSize i).value
  counted : lostBytes lib i = 0 → i + 1 ≠ 2 ^ 31

def Opens : Prop := lib.fileOpens = true ∧ lib.createFromUserStream = true ∧ lib.openStream = true

def PresenceKnown : Prop :=
  (lib.getChunkCount .accelStructOld).ok = true ∧ (lib.getChunkCount .accelStructNew).ok = true ∧
    (validateRayHistory = true → (lib.getChunkCount .rayHistory).ok = true)

def MetadataKnown : Prop :=
  (lib.getChunkCount .rayHistoryMetadata).ok = true ∧
    ∀ i, Walked lib i → (lib.getChunkDataSize i).ok = true ∧ (lib.readChunkData i).ok = true

structure Sound : Prop where
  fits : Opens lib → ∀ i, Walked lib i → FitsBuffer lib i
  known : Opens lib → PresenceKnown lib validateRayHistory → MetadataKnown lib

end Claim

section Metadata
variable (lib : RdfLibrary)

-- What is done with one chunk, the step to the next one included.
def looked (i : Nat) : List Event :=
  readMetadata lib i ++ if lostBytes lib i = 0 ∧ i + 1 = 2 ^ 31 then [.overflows] else []

theorem missing_from_events (left i : Nat) (event : Event) :
    event ∈ (missingBytesFrom lib left i).2 ↔
      ∃ j, i ≤ j ∧ j < i + left ∧ (∀ k, i ≤ k → k < j → lostBytes lib k = 0) ∧ event ∈ looked lib j := by
  induction left generalizing i with
  | zero =>
      constructor
      · intro member
        cases member
      · rintro ⟨j, low, high, _⟩
        omega
  | succ left ih =>
      have first : (∃ j, i ≤ j ∧ j < i + (left + 1) ∧ (∀ k, i ≤ k → k < j → lostBytes lib k = 0) ∧ event ∈ looked lib j) ↔
          event ∈ looked lib i ∨ lostBytes lib i = 0 ∧
            ∃ j, i + 1 ≤ j ∧ j < i + 1 + left ∧ (∀ k, i + 1 ≤ k → k < j → lostBytes lib k = 0) ∧ event ∈ looked lib j := by
        constructor
        · rintro ⟨j, low, high, passed, member⟩
          obtain rfl | later := Nat.eq_or_lt_of_le low
          · exact .inl member
          · exact .inr ⟨passed i (Nat.le_refl i) later, j, later, by omega, fun k above => passed k (by omega), member⟩
        · rintro (member | ⟨none, j, low, high, passed, member⟩)
          · exact ⟨i, Nat.le_refl i, by omega, fun k above below => absurd below (Nat.not_lt.mpr above), member⟩
          · refine ⟨j, by omega, by omega, fun k above below => ?_, member⟩
            obtain rfl | later := Nat.eq_or_lt_of_le above
            · exact none
            · exact passed k later below
      rw [first, missingBytesFrom]
      by_cases lost : 0 < lostBytes lib i
      · rw [if_pos lost]
        simp [looked, Nat.ne_of_gt lost]
      · have none : lostBytes lib i = 0 := Nat.eq_zero_of_not_pos lost
        rw [if_neg lost, ← ih]
        simp only [looked, none, true_and, List.mem_append]

theorem missing_from_lost (left i : Nat) :
    (missingBytesFrom lib left i).1 = false ↔ ∀ j, i ≤ j → j < i + left → lostBytes lib j = 0 := by
  induction left generalizing i with
  | zero => exact ⟨fun _ j low high => by omega, fun _ => rfl⟩
  | succ left ih =>
      rw [missingBytesFrom]
      by_cases lost : 0 < lostBytes lib i
      · rw [if_pos lost]
        constructor
        · intro impossible
          cases impossible
        · intro none
          exact absurd (none i (Nat.le_refl i) (by omega)) (Nat.ne_of_gt lost)
      · rw [if_neg lost]
        refine (ih (i + 1)).trans ⟨fun none j low high => ?_, fun none j low high => none j (by omega) (by omega)⟩
        obtain rfl | later := Nat.eq_or_lt_of_le low
        · exact Nat.eq_zero_of_not_pos lost
        · exact none j later (by omega)

theorem missing_events (event : Event) :
    event ∈ (hasMissingBytesInDispatches lib).2 ↔
      event ∈ asked (lib.getChunkCount .rayHistoryMetadata).ok ∨ ∃ i, Walked lib i ∧ event ∈ looked lib i := by
  rw [hasMissingBytesInDispatches, List.mem_append, missing_from_events]
  refine or_congr_right (exists_congr fun i => ?_)
  simp only [Walked, Nat.zero_le, Nat.zero_add, true_and, forall_const, and_assoc]

theorem missing_lost : (hasMissingBytesInDispatches lib).1 = false ↔
    ∀ i < (lib.getChunkCount .rayHistoryMetadata).value, lostBytes lib i = 0 := by
  rw [hasMissingBytesInDispatches, missing_from_lost]
  simp only [Nat.zero_le, Nat.zero_add, forall_const]

theorem mem_asked (ok : Bool) (event : Event) : event ∈ asked ok ↔ ok = false ∧ event = .failed := by
  cases ok <;> simp [asked]

theorem mem_looked (i : Nat) (event : Event) : event ∈ looked lib i ↔
    ((lib.getChunkDataSize i).ok = false ∨ (lib.readChunkData i).ok = false) ∧ event = .failed ∨
      event = .accesses (bufferSize lib i) (lib.readChunkData i).value.length ∨
      event = .accesses (bufferSize lib i) (4 * (kRayHistoryMetadataLostBytesIndex + 1)) ∨
      (lostBytes lib i = 0 ∧ i + 1 = 2 ^ 31) ∧ event = .overflows := by
  have overflow : event ∈ (if lostBytes lib i = 0 ∧ i + 1 = 2 ^ 31 then [Event.overflows] else []) ↔
      (lostBytes lib i = 0 ∧ i + 1 = 2 ^ 31) ∧ event = .overflows := by
    by_cases last : lostBytes lib i = 0 ∧ i + 1 = 2 ^ 31
    · rw [if_pos last, List.mem_singleton]
      exact ⟨fun same => ⟨last, same⟩, fun both => both.2⟩
    · rw [if_neg last]
      exact ⟨fun member => absurd member List.not_mem_nil, fun both => absurd both.1 last⟩
  rw [looked, readMetadata, List.mem_append, overflow]
  simp only [List.mem_append, mem_asked, List.mem_singleton, or_and_right, or_assoc]
  rw [or_left_comm (b := (lib.readChunkData i).ok = false ∧ event = .failed)]

theorem looked_inside_iff (i : Nat) : (∀ event ∈ looked lib i, event.InBounds) ↔ FitsBuffer lib i := by
  have long : 4 * (kRayHistoryMetadataLostBytesIndex + 1) ≤ bufferSize lib i ↔
      4 * (kRayHistoryMetadataLostBytesIndex + 1) ≤ (lib.getChunkDataSize i).value := by
    rw [bufferSize, kRayHistoryMetadataLostBytesIndex]
    omega
  constructor
  · intro inside
    refine ⟨inside (.accesses _ _) ((mem_looked lib i _).mpr (.inr (.inl rfl))),
      long.mp (inside (.accesses _ _) ((mem_looked lib i _).mpr (.inr (.inr (.inl rfl))))), fun none last => ?_⟩
    exact inside .overflows ((mem_looked lib i _).mpr (.inr (.inr (.inr ⟨⟨none, last⟩, rfl⟩))))
  · intro fits event member
    obtain ⟨_, rfl⟩ | rfl | rfl | ⟨⟨none, last⟩, rfl⟩ := (mem_looked lib i event).mp member
    · trivial
    · exact fits.written
    · exact long.mpr fits.long
    · exact fits.counted none last

theorem missing_inside_iff :
    (∀ event ∈ (hasMissingBytesInDispatches lib).2, event.InBounds) ↔ ∀ i, Walked lib i → FitsBuffer lib i := by
  simp only [missing_events, ← looked_inside_iff]
  constructor
  · intro inside i walked event member
    exact inside event (.inr ⟨i, walked, member⟩)
  · rintro inside event (failed | ⟨i, walked, member⟩)
    · obtain ⟨_, rfl⟩ := (mem_asked _ event).mp failed
      trivial
    · exact inside i walked event member

theorem missing_failed_iff : .failed ∉ (hasMissingBytesInDispatches lib).2 ↔ MetadataKnown lib := by
  have one (i : Nat) : .failed ∈ looked lib i ↔ (lib.getChunkDataSize i).ok = false ∨ (lib.readChunkData i).ok = false := by
    simp [mem_looked]
  simp only [missing_events, mem_asked, one, and_true, not_or, not_exists, not_and, Bool.not_eq_false, MetadataKnown]

theorem missing_handles (event : Event) (handle : Handle) (isHandle : event = .opened handle ∨ event = .closed handle) :
    (hasMissingBytesInDispatches lib).2.count event = 0 := by
  refine List.count_eq_zero.mpr fun member => ?_
  obtain failed | ⟨i, _, member⟩ := (missing_events lib event).mp member
  · obtain ⟨_, rfl⟩ := (mem_asked _ event).mp failed
    obtain impossible | impossible := isHandle <;> cases impossible
  · obtain ⟨_, rfl⟩ | rfl | rfl | ⟨_, rfl⟩ := (mem_looked lib i event).mp member <;>
      obtain impossible | impossible := isHandle <;> cases impossible

end Metadata

section Validated
variable (lib : RdfLibrary) (validateRayHistory : Bool)

def oldChunkCount : Answer Nat := lib.getChunkCount .accelStructOld

def newChunkCount : Answer Nat := if (oldChunkCount lib).ok then lib.getChunkCount .accelStructNew else ⟨false, 0⟩

def rayHistoryChunkCount : Answer Nat := if validateRayHistory then lib.getChunkCount .rayHistory else ⟨true, 1⟩

def verdict : RraTraceValidationResult :=
  if ((oldChunkCount lib).ok && (newChunkCount lib).ok && (rayHistoryChunkCount lib validateRayHistory).ok) = false then .failedToValidate
  else if (oldChunkCount lib).value = 0 ∧ (newChunkCount lib).value = 0 then .missingBvh
  else if (hasMissingBytesInDispatches lib).1 then .incompleteRayHistory
  else if (rayHistoryChunkCount lib validateRayHistory).value = 0 then .missingRayHistory
  else .success

def eventsOf : List Event :=
  [.opened .fileStream, .opened .rdfStream, .opened .chunkFile] ++ asked ((oldChunkCount lib).ok && (newChunkCount lib).ok) ++
    asked (rayHistoryChunkCount lib validateRayHistory).ok ++ (hasMissingBytesInDispatches lib).2 ++
      [.closed .chunkFile, .closed .rdfStream, .closed .fileStream]

theorem validate_opened (opens : Opens lib) :
    validateFile lib validateRayHistory = (verdict lib validateRayHistory, eventsOf lib validateRayHistory) := by
  obtain ⟨file, created, stream⟩ := opens
  simp only [validateFile, file, created, stream, Bool.true_eq_false, if_false]
  rfl

theorem presence_known_iff : PresenceKnown lib validateRayHistory ↔
    ((oldChunkCount lib).ok && (newChunkCount lib).ok && (rayHistoryChunkCount lib validateRayHistory).ok) = true := by
  by_cases known : (oldChunkCount lib).ok = true
  · have new : newChunkCount lib = lib.getChunkCount .accelStructNew := if_pos known
    have old : (lib.getChunkCount .accelStructOld).ok = true := known
    rw [new]
    cases validateRayHistory <;> simp [PresenceKnown, rayHistoryChunkCount, known, old]
  · have old : ¬ (lib.getChunkCount .accelStructOld).ok = true := known
    simp [PresenceKnown, known, old]

theorem failed_event_iff : .failed ∉ eventsOf lib validateRayHistory ↔ PresenceKnown lib validateRayHistory ∧ MetadataKnown lib := by
  rw [presence_known_iff, ← missing_failed_iff]
  simp only [eventsOf, List.mem_append, mem_asked, List.mem_cons, List.not_mem_nil, reduceCtorEq, or_false, false_or, and_true, not_or,
    Bool.not_eq_false, Bool.and_eq_true]

theorem inside_event_iff :
    (∀ event ∈ eventsOf lib validateRayHistory, event.InBounds) ↔ ∀ i, Walked lib i → FitsBuffer lib i := by
  rw [← missing_inside_iff]
  constructor
  · intro inside event member
    exact inside event (List.mem_append_left _ (List.mem_append_right _ member))
  · intro inside event member
    simp only [eventsOf, List.mem_append, mem_asked, List.mem_cons, List.not_mem_nil, or_false] at member
    obtain ((((rfl | rfl | rfl) | ⟨_, rfl⟩) | ⟨_, rfl⟩) | walked) | rfl | rfl | rfl := member
    all_goals first | trivial | exact inside event walked

theorem released_events (handle : Handle) :
    (eventsOf lib validateRayHistory).count (.opened handle) = 1 ∧ (eventsOf lib validateRayHistory).count (.closed handle) = 1 := by
  have none (ok : Bool) (event : Event) (isHandle : event = .opened handle ∨ event = .closed handle) : (asked ok).count event = 0 := by
    obtain rfl | rfl := isHandle <;> cases ok <;> rfl
  have opened := missing_handles lib (.opened handle) handle (.inl rfl)
  have closed := missing_handles lib (.closed handle) handle (.inr rfl)
  simp only [eventsOf, List.count_append, none _ (.opened handle) (.inl rfl), none _ (.closed handle) (.inr rfl), opened, closed]
  cases handle <;> decide

theorem verdict_known (known : PresenceKnown lib validateRayHistory) :
    verdict lib validateRayHistory ≠ .failedToValidate ∧
      (verdict lib validateRayHistory = .success ↔ Accepted lib validateRayHistory) := by
  have all := (presence_known_iff lib validateRayHistory).mp known
  obtain ⟨old, _, _⟩ := known
  have rayHistory : (rayHistoryChunkCount lib validateRayHistory).value ≠ 0 ↔
      (validateRayHistory = true → 0 < (lib.getChunkCount .rayHistory).value) := by
    cases validateRayHistory <;> simp [rayHistoryChunkCount, Nat.pos_iff_ne_zero]
  have bvh : ¬ ((oldChunkCount lib).value = 0 ∧ (newChunkCount lib).value = 0) ↔
      0 < (lib.getChunkCount .accelStructOld).value ∨ 0 < (lib.getChunkCount .accelStructNew).value := by
    have new : newChunkCount lib = lib.getChunkCount .accelStructNew := if_pos old
    rw [new, oldChunkCount]
    omega
  have accepted : Accepted lib validateRayHistory ↔ ¬ ((oldChunkCount lib).value = 0 ∧ (newChunkCount lib).value = 0) ∧
      (hasMissingBytesInDispatches lib).1 = false ∧ (rayHistoryChunkCount lib validateRayHistory).value ≠ 0 := by
    rw [bvh, missing_lost, rayHistory]
    exact ⟨fun given => ⟨given.bvh, given.complete, given.rayHistory⟩, fun given => ⟨given.1, given.2.2, given.2.1⟩⟩
  rw [accepted, verdict, if_neg (by rw [all]; decide)]
  by_cases none : (oldChunkCount lib).value = 0 ∧ (newChunkCount lib).value = 0
  · rw [if_pos none]
    refine ⟨by decide, ?_⟩
    simp only [reduceCtorEq, none, and_self, not_true_eq_false, false_and]
  rw [if_neg none]
  cases lost : (hasMissingBytesInDispatches lib).1 with
  | true => simp
  | false =>
      by_cases missing : (rayHistoryChunkCount lib validateRayHistory).value = 0 <;> simp [none, missing]

theorem verdict_unknown (unknown : ¬ PresenceKnown lib validateRayHistory) : verdict lib validateRayHistory = .failedToValidate :=
  if_pos (Bool.eq_false_iff.mpr fun all => unknown ((presence_known_iff lib validateRayHistory).mpr all))

theorem refused (closed : ¬ Opens lib) : ∃ log, validateFile lib validateRayHistory = (.failedToValidate, log) ∧ .failed ∈ log ∧
    (∀ event ∈ log, event.InBounds) ∧
      ∀ handle, log.count (.opened handle) ≤ 1 ∧ log.count (.closed handle) = log.count (.opened handle) := by
  by_cases file : lib.fileOpens = false
  · refine ⟨[.failed], if_pos file, List.mem_singleton_self _, by simp [Event.InBounds], ?_⟩
    intro handle
    cases handle <;> decide
  by_cases created : lib.createFromUserStream = false
  · refine ⟨_, by rw [validateFile, if_neg file, if_pos created], by simp, by simp [Event.InBounds], ?_⟩
    intro handle
    cases handle <;> decide
  by_cases stream : lib.openStream = false
  · refine ⟨_, by rw [validateFile, if_neg file, if_neg created, if_pos stream], by simp, by simp [Event.InBounds], ?_⟩
    intro handle
    cases handle <;> decide
  · simp only [Bool.not_eq_false] at file created stream
    exact absurd ⟨file, created, stream⟩ closed

theorem validates_exactly_iff : ValidatesExactly lib validateRayHistory ↔ Sound lib validateRayHistory := by
  by_cases opens : Opens lib
  · have run := validate_opened lib validateRayHistory opens
    have failedIff := failed_event_iff lib validateRayHistory
    constructor
    · rintro ⟨inside, _, _, kept⟩
      rw [run] at inside kept
      refine ⟨fun _ => (inside_event_iff lib validateRayHistory).mp inside, fun _ known => ?_⟩
      by_contra unknown
      have failed := not_not.mp (mt failedIff.mp fun both => unknown both.2)
      exact (verdict_known lib validateRayHistory known).1 (kept failed).1
    · rintro ⟨fits, metadata⟩
      have notKnown (failed : .failed ∈ eventsOf lib validateRayHistory) : ¬ PresenceKnown lib validateRayHistory :=
        fun known => failedIff.mpr ⟨known, metadata opens known⟩ failed
      constructor
      · rw [run]
        exact (inside_event_iff lib validateRayHistory).mpr (fits opens)
      · intro handle
        rw [run]
        obtain ⟨once, released⟩ := released_events lib validateRayHistory handle
        exact ⟨Nat.le_of_eq once, released.trans once.symm⟩
      · rw [run]
        by_cases known : PresenceKnown lib validateRayHistory
        · have silent : .failed ∉ eventsOf lib validateRayHistory := failedIff.mpr ⟨known, metadata opens known⟩
          rw [(verdict_known lib validateRayHistory known).2]
          exact ⟨fun accepted => ⟨silent, accepted⟩, fun both => both.2⟩
        · rw [verdict_unknown lib validateRayHistory known]
          exact ⟨fun impossible => (by cases impossible), fun both => absurd (failedIff.mp both.1).1 known⟩
      · rw [run]
        intro failed
        rw [verdict_unknown lib validateRayHistory (notKnown failed)]
        exact ⟨rfl, rfl⟩
  · obtain ⟨log, run, failed, inside, released⟩ := refused lib validateRayHistory opens
    refine ⟨fun _ => ⟨fun open' => absurd open' opens, fun open' => absurd open' opens⟩, fun _ => ?_⟩
    constructor
    · rw [run]
      exact inside
    · rw [run]
      exact released
    · rw [run]
      exact ⟨fun impossible => (by cases impossible), fun both => absurd failed both.1⟩
    · rw [run]
      exact fun _ => ⟨rfl, rfl⟩

end Validated

-- A trace with an acceleration structure and one metadata chunk of so many bytes.
def oneMetadataChunk (metadataCounted : Bool) (size : Nat) : RdfLibrary where
  fileOpens := true
  createFromUserStream := true
  openStream := true
  getChunkCount
    | .accelStructOld => ⟨true, 0⟩
    | .accelStructNew => ⟨true, 1⟩
    | .rayHistory => ⟨true, 1⟩
    | .rayHistoryMetadata => if metadataCounted then ⟨true, 1⟩ else ⟨false, 0⟩
  getChunkDataSize _ := ⟨true, size⟩
  readChunkData _ := ⟨true, List.replicate size 0⟩

-- A query that fails is passed over, and a short chunk is read behind its end.
theorem failed_query_succeeds :
    ¬ ValidatesExactly (oneMetadataChunk false 68) true ∧ ¬ ValidatesExactly (oneMetadataChunk true 8) true := by
  constructor
  · rintro ⟨_, _, _, kept⟩
    exact absurd (kept (by decide)).1 (by decide)
  · rintro ⟨inside, _, _, _⟩
    have read : Event.accesses 8 68 ∈ (validateFile (oneMetadataChunk true 8) true).2 := by decide
    have within : 68 ≤ 8 := inside _ read
    exact absurd within (by decide)

end RadeonPanel.Raytracing.RraTraceValidator

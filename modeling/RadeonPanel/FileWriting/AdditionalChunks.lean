import Mathlib.Data.List.TakeWhile
import RadeonPanel.Base.Bytes
import RadeonPanel.Ubertrace.Types

set_option autoImplicit false

namespace RadeonPanel.FileWriting

open RadeonPanel.Ubertrace

abbrev Text := List UInt8

abbrev ChunksToWrite := UInt8

def kAdditionalChunkSystemInfo : ChunksToWrite := 0b001
def kAdditionalChunkProcessInfo : ChunksToWrite := 0b100

structure ProcessInfoChunk where
  processId : UInt32
  processPath : Text
deriving DecidableEq, Repr

def ProcessInfoChunk.none : ProcessInfoChunk := ⟨0, []⟩

-- DD_RESULT_DD_GENERIC_UNKNOWN
def genericUnknown : DdResult := .other 1

-- A chunk that is given to the chunk file: by the writer at a place of the list what this one writes.
inductive Chunk (Writer : Type) where
  | systemInfo (text : Text)
  | processInfo (data : Text)
  | ofWriter (place : Nat) (writer : Writer)
deriving DecidableEq, Repr

inductive RdfCall (Writer : Type) where
  | streamCreate (made : Bool)
  | fileWriterCreate (made : Bool)
  | write (chunk : Chunk Writer) (result : DdResult)
  | fileWriterDestroy (finalized : Bool)
  | streamClose (closed : Bool)
deriving DecidableEq, Repr

-- What the calls come to, those of the writers by their places.
structure RdfAnswers where
  streamCreate : Bool
  fileWriterCreate : Bool
  systemInfo : DdResult
  processInfo : Bool
  writer : Nat → DdResult
  fileWriterDestroy : Bool
  streamClose : Bool

section Write
variable {Writer : Type} (answers : RdfAnswers)

-- The path is copied up to its first terminator into zeroed bytes.
def processInfoData (processInfo : ProcessInfoChunk) : Text :=
  let copied := processInfo.processPath.takeWhile (· ≠ 0)
  Bytes.le 4 processInfo.processId.toNat ++ Bytes.le 4 (processInfo.processPath.length + 1) ++ copied ++
    List.replicate (processInfo.processPath.length + 1 - copied.length) 0

def writeSystemInfo (sysInfo : Text) : DdResult × List (RdfCall Writer) :=
  if sysInfo.isEmpty then (.success, []) else (answers.systemInfo, [.write (.systemInfo sysInfo) answers.systemInfo])

def writeProcessInfo (processInfo : ProcessInfoChunk) : DdResult × List (RdfCall Writer) :=
  let result := if answers.processInfo then .success else genericUnknown
  (result, [.write (.processInfo (processInfoData processInfo)) result])

def writeWriters : Nat → DdResult → List Writer → DdResult × List (RdfCall Writer)
  | _, result, [] => (result, [])
  | place, result, writer :: rest =>
      if result ≠ .success then writeWriters (place + 1) result rest
      else
        let later := writeWriters (place + 1) (answers.writer place) rest
        (later.1, .write (.ofWriter place writer) (answers.writer place) :: later.2)

def writeChunks (sysInfo : Text) (processInfo : ProcessInfoChunk) (writers : List Writer) : DdResult × List (RdfCall Writer) :=
  let system := writeSystemInfo answers sysInfo
  let process := if system.1 = .success ∧ processInfo.processId ≠ 0 then writeProcessInfo answers processInfo else (system.1, [])
  let others := writeWriters answers 0 process.1 writers
  (others.1, system.2 ++ process.2 ++ others.2)

-- The overload that writes to the stream, with the calls that it makes.
def writeToStream (sysInfo : Text) (processInfo : ProcessInfoChunk) (writers : List Writer) : Result × List (RdfCall Writer) :=
  if !answers.streamCreate then (.failure, [.streamCreate false])
  else if !answers.fileWriterCreate then
    (.failure, [.streamCreate true, .fileWriterCreate false, .streamClose answers.streamClose])
  else
    let written := writeChunks answers sysInfo processInfo writers
    (if written.1 = .success then .success else .failure,
      [.streamCreate true, .fileWriterCreate true] ++ written.2 ++
        [.fileWriterDestroy answers.fileWriterDestroy, .streamClose answers.streamClose])

-- `eSystemInfo` is what the cache answers. Without an answer the write fails.
def systemInfoToWrite (eSystemInfo : Option Text) (chunks : ChunksToWrite) : Option Text :=
  if chunks &&& kAdditionalChunkSystemInfo ≠ 0 then eSystemInfo else some []

def processInfoToWrite (processInfo : ProcessInfoChunk) (chunks : ChunksToWrite) : ProcessInfoChunk :=
  if processInfo.processId ≠ 0 ∧ chunks &&& kAdditionalChunkProcessInfo ≠ 0 then processInfo else .none

def additionalChunkWriterWrite (eSystemInfo : Option Text) (processInfo : ProcessInfoChunk) (chunks : ChunksToWrite)
    (writers : List Writer) : Result × List (RdfCall Writer) :=
  match systemInfoToWrite eSystemInfo chunks with
  | none => (.failure, [])
  | some sysInfo => writeToStream answers sysInfo (processInfoToWrite processInfo chunks) writers

end Write

section Property
variable {Writer : Type}

-- What is to be in the file.
def requested (eSystemInfo : Option Text) (processInfo : ProcessInfoChunk) (chunks : ChunksToWrite) (writers : List Writer) :
    List (Chunk Writer) :=
  (if chunks &&& kAdditionalChunkSystemInfo ≠ 0 then [.systemInfo (eSystemInfo.getD [])] else []) ++
    (if processInfo.processId ≠ 0 ∧ chunks &&& kAdditionalChunkProcessInfo ≠ 0 then [.processInfo (processInfoData processInfo)] else []) ++
    writers.mapIdx .ofWriter

def RdfCall.writes : RdfCall Writer → Option (Chunk Writer)
  | .write chunk .success => some chunk
  | _ => none

def RdfCall.opensStream : RdfCall Writer → Bool
  | .streamCreate made => made
  | _ => false

def RdfCall.opensFileWriter : RdfCall Writer → Bool
  | .fileWriterCreate made => made
  | _ => false

def RdfCall.isStreamClose : RdfCall Writer → Bool
  | .streamClose _ => true
  | _ => false

def RdfCall.isFileWriterDestroy : RdfCall Writer → Bool
  | .fileWriterDestroy _ => true
  | _ => false

-- What is opened is closed, once.
structure Released (calls : List (RdfCall Writer)) : Prop where
  stream : calls.countP RdfCall.isStreamClose = calls.countP RdfCall.opensStream
  fileWriter : calls.countP RdfCall.isFileWriterDestroy = calls.countP RdfCall.opensFileWriter
  once : calls.countP RdfCall.isStreamClose ≤ 1 ∧ calls.countP RdfCall.isFileWriterDestroy ≤ 1

-- Of a run with its result: the calls in their order.
structure Complete (wanted : List (Chunk Writer)) (run : Result × List (RdfCall Writer)) : Prop where
  written : run.1 = .success → run.2.filterMap RdfCall.writes = wanted ∧ .fileWriterDestroy true ∈ run.2
  released : Released run.2

-- What has to come true for the result to be success.
structure Succeeds (answers : RdfAnswers) (eSystemInfo : Option Text) (processInfo : ProcessInfoChunk) (chunks : ChunksToWrite)
    (writers : List Writer) : Prop where
  cached : chunks &&& kAdditionalChunkSystemInfo ≠ 0 →
    ∃ sysInfo, eSystemInfo = some sysInfo ∧ (sysInfo ≠ [] → answers.systemInfo = .success)
  stream : answers.streamCreate = true
  fileWriter : answers.fileWriterCreate = true
  process : processInfo.processId ≠ 0 → chunks &&& kAdditionalChunkProcessInfo ≠ 0 → answers.processInfo = true
  each : ∀ place < writers.length, answers.writer place = .success

end Property

section Writing
variable {Writer : Type} {answers : RdfAnswers}

theorem writers_success_iff (writers : List Writer) (place : Nat) (result : DdResult) :
    (writeWriters answers place result writers).1 = .success ↔
      result = .success ∧ ∀ i < writers.length, answers.writer (place + i) = .success := by
  induction writers generalizing place result with
  | nil => simp [writeWriters]
  | cons writer rest ih =>
      rw [writeWriters]
      by_cases going : result = .success
      · have shifted : (∀ i < rest.length, answers.writer (place + 1 + i) = .success) ↔
            ∀ i < rest.length, answers.writer (place + (i + 1)) = .success := by
          refine forall₂_congr fun i _ => ?_
          rw [Nat.add_assoc, Nat.add_comm 1 i]
        simp only [going, ne_eq, not_true_eq_false, if_false, true_and, List.length_cons, ih, shifted, Nat.forall_lt_succ_left,
          Nat.add_zero]
      · simp only [ne_eq, going, not_false_eq_true, if_true, false_and, ih]

theorem writers_written (writers : List Writer) (place : Nat)
    (each : ∀ i < writers.length, answers.writer (place + i) = .success) :
    (writeWriters answers place .success writers).2.filterMap RdfCall.writes =
      writers.mapIdx fun i writer => .ofWriter (place + i) writer := by
  induction writers generalizing place with
  | nil => rfl
  | cons writer rest ih =>
      have first : answers.writer place = .success := each 0 (Nat.succ_pos _)
      have later := ih (place + 1) fun i bound => by
        rw [Nat.add_assoc, Nat.add_comm 1 i]
        exact each (i + 1) (Nat.succ_lt_succ bound)
      rw [writeWriters, if_neg (by simp), List.mapIdx_cons]
      simp only [first, List.filterMap_cons, RdfCall.writes, later, Nat.add_zero, Nat.add_assoc, Nat.add_comm 1]

theorem writers_only_write (writers : List Writer) (place : Nat) (result : DdResult) :
    ∀ call ∈ (writeWriters answers place result writers).2, ∃ chunk result, call = .write chunk result := by
  induction writers generalizing place result with
  | nil => simp [writeWriters]
  | cons writer rest ih =>
      rw [writeWriters]
      split
      · exact ih (place + 1) result
      · exact List.forall_mem_cons.mpr ⟨⟨_, _, rfl⟩, ih (place + 1) _⟩

variable (Writer) in
theorem system_info_success_iff (sysInfo : Text) :
    (writeSystemInfo answers sysInfo : DdResult × List (RdfCall Writer)).1 = .success ↔
      (sysInfo ≠ [] → answers.systemInfo = .success) := by
  cases sysInfo with
  | nil => simp [writeSystemInfo]
  | cons byte rest => simp [writeSystemInfo]

variable (Writer) in
theorem process_info_success_iff (processInfo : ProcessInfoChunk) :
    (writeProcessInfo answers processInfo : DdResult × List (RdfCall Writer)).1 = .success ↔ answers.processInfo = true := by
  cases written : answers.processInfo with
  | true => simp [writeProcessInfo, written]
  | false => simp [writeProcessInfo, written, genericUnknown]

theorem chunks_success_iff (sysInfo : Text) (processInfo : ProcessInfoChunk) (writers : List Writer) :
    (writeChunks answers sysInfo processInfo writers).1 = .success ↔
      (sysInfo ≠ [] → answers.systemInfo = .success) ∧ (processInfo.processId ≠ 0 → answers.processInfo = true) ∧
        ∀ i < writers.length, answers.writer i = .success := by
  simp only [writeChunks, writers_success_iff, Nat.zero_add, ← system_info_success_iff Writer sysInfo]
  by_cases system : (writeSystemInfo answers sysInfo : DdResult × List (RdfCall Writer)).1 = .success
  · by_cases known : processInfo.processId = 0
    · simp [system, known]
    · simp [system, known, process_info_success_iff]
  · simp [system]

theorem chunks_written (sysInfo : Text) (processInfo : ProcessInfoChunk) (writers : List Writer)
    (success : (writeChunks answers sysInfo processInfo writers).1 = .success) :
    (writeChunks answers sysInfo processInfo writers).2.filterMap RdfCall.writes =
      (if sysInfo = [] then [] else [.systemInfo sysInfo]) ++
        (if processInfo.processId ≠ 0 then [.processInfo (processInfoData processInfo)] else []) ++ writers.mapIdx .ofWriter := by
  obtain ⟨system, process, each⟩ := (chunks_success_iff sysInfo processInfo writers).mp success
  have system_success := (system_info_success_iff Writer sysInfo).mpr system
  have system_written : (writeSystemInfo answers sysInfo : DdResult × List (RdfCall Writer)).2.filterMap RdfCall.writes =
      if sysInfo = [] then [] else [.systemInfo sysInfo] := by
    cases sysInfo with
    | nil => rfl
    | cons byte rest => simp [writeSystemInfo, system, RdfCall.writes]
  have others_written := writers_written writers 0 fun i bound => by
    rw [Nat.zero_add]
    exact each i bound
  simp only [Nat.zero_add] at others_written
  by_cases known : processInfo.processId = 0
  · simp only [writeChunks, system_success, known, ne_eq, not_true_eq_false, and_false, if_false, List.append_nil, List.filterMap_append,
      system_written, others_written]
  · have answered := process known
    have process_written : (writeProcessInfo answers processInfo : DdResult × List (RdfCall Writer)).2.filterMap RdfCall.writes =
        [.processInfo (processInfoData processInfo)] := by simp [writeProcessInfo, answered, RdfCall.writes]
    have process_success := (process_info_success_iff Writer processInfo).mpr answered
    simp only [writeChunks, system_success, known, ne_eq, not_false_eq_true, and_self, if_true, process_success, List.filterMap_append,
      system_written, process_written, others_written]

theorem chunks_only_write (sysInfo : Text) (processInfo : ProcessInfoChunk) (writers : List Writer) :
    ∀ call ∈ (writeChunks answers sysInfo processInfo writers).2, ∃ chunk result, call = .write chunk result := by
  intro call member
  rw [writeChunks] at member
  obtain member | other := List.mem_append.mp member
  · obtain system | process := List.mem_append.mp member
    · rw [writeSystemInfo] at system
      split at system
      · cases system
      · exact ⟨_, _, List.mem_singleton.mp system⟩
    · split at process
      · exact ⟨_, _, List.mem_singleton.mp process⟩
      · cases process
  · exact writers_only_write writers 0 _ call other

variable (answers) in
theorem chunks_count (counted : RdfCall Writer → Bool) (passed : ∀ chunk result, counted (.write chunk result) = false)
    (sysInfo : Text) (processInfo : ProcessInfoChunk) (writers : List Writer) :
    (writeChunks answers sysInfo processInfo writers).2.countP counted = 0 := by
  refine List.countP_eq_zero.mpr fun call member => ?_
  obtain ⟨chunk, result, rfl⟩ := chunks_only_write sysInfo processInfo writers call member
  rw [passed]
  exact Bool.false_ne_true

theorem stream_success_iff (sysInfo : Text) (processInfo : ProcessInfoChunk) (writers : List Writer) :
    (writeToStream answers sysInfo processInfo writers).1 = .success ↔
      answers.streamCreate = true ∧ answers.fileWriterCreate = true ∧ (writeChunks answers sysInfo processInfo writers).1 = .success := by
  cases stream : answers.streamCreate with
  | false => simp [writeToStream, stream]
  | true =>
      cases fileWriter : answers.fileWriterCreate with
      | false => simp [writeToStream, stream, fileWriter]
      | true => simp [writeToStream, stream, fileWriter]

theorem stream_released (sysInfo : Text) (processInfo : ProcessInfoChunk) (writers : List Writer) :
    Released (writeToStream answers sysInfo processInfo writers).2 := by
  have closes := chunks_count answers RdfCall.isStreamClose (fun _ _ => rfl) sysInfo processInfo writers
  have destroys := chunks_count answers RdfCall.isFileWriterDestroy (fun _ _ => rfl) sysInfo processInfo writers
  have opens := chunks_count answers RdfCall.opensStream (fun _ _ => rfl) sysInfo processInfo writers
  have creates := chunks_count answers RdfCall.opensFileWriter (fun _ _ => rfl) sysInfo processInfo writers
  rw [writeToStream]
  split
  · exact ⟨rfl, rfl, Nat.zero_le 1, Nat.zero_le 1⟩
  · split
    · exact ⟨rfl, rfl, Nat.le_refl 1, Nat.zero_le 1⟩
    · constructor <;> simp only [List.countP_append, closes, destroys, opens, creates]
      · rfl
      · rfl
      · exact ⟨Nat.le_refl 1, Nat.le_refl 1⟩

-- The calls of a run that succeeds.
theorem stream_calls {sysInfo : Text} {processInfo : ProcessInfoChunk} {writers : List Writer}
    (success : (writeToStream answers sysInfo processInfo writers).1 = .success) :
    (writeToStream answers sysInfo processInfo writers).2 =
      [.streamCreate true, .fileWriterCreate true] ++ (writeChunks answers sysInfo processInfo writers).2 ++
        [.fileWriterDestroy answers.fileWriterDestroy, .streamClose answers.streamClose] := by
  obtain ⟨stream, fileWriter, _⟩ := (stream_success_iff sysInfo processInfo writers).mp success
  simp [writeToStream, stream, fileWriter]

theorem stream_written {sysInfo : Text} {processInfo : ProcessInfoChunk} {writers : List Writer}
    (success : (writeToStream answers sysInfo processInfo writers).1 = .success) :
    (writeToStream answers sysInfo processInfo writers).2.filterMap RdfCall.writes =
      (if sysInfo = [] then [] else [.systemInfo sysInfo]) ++
        (if processInfo.processId ≠ 0 then [.processInfo (processInfoData processInfo)] else []) ++ writers.mapIdx .ofWriter := by
  have chunks := ((stream_success_iff sysInfo processInfo writers).mp success).2.2
  rw [stream_calls success, List.filterMap_append, List.filterMap_append, chunks_written sysInfo processInfo writers chunks]
  simp only [List.filterMap_cons, RdfCall.writes, List.filterMap_nil, List.nil_append, List.append_nil]

theorem stream_finalized {sysInfo : Text} {processInfo : ProcessInfoChunk} {writers : List Writer}
    (success : (writeToStream answers sysInfo processInfo writers).1 = .success) :
    .fileWriterDestroy true ∈ (writeToStream answers sysInfo processInfo writers).2 ↔ answers.fileWriterDestroy = true := by
  rw [stream_calls success]
  have unwritten : RdfCall.fileWriterDestroy true ∉ (writeChunks answers sysInfo processInfo writers).2 := by
    intro member
    obtain ⟨_, _, other⟩ := chunks_only_write sysInfo processInfo writers _ member
    cases other
  simp only [List.mem_append, List.mem_cons, List.not_mem_nil, unwritten, RdfCall.fileWriterDestroy.injEq, reduceCtorEq, or_false, false_or]
  exact eq_comm

end Writing

section Request
variable {Writer : Type} {answers : RdfAnswers} {eSystemInfo : Option Text} {processInfo : ProcessInfoChunk} {chunks : ChunksToWrite}
  {writers : List Writer}

theorem process_to_write_iff :
    (processInfoToWrite processInfo chunks).processId ≠ 0 ↔ processInfo.processId ≠ 0 ∧ chunks &&& kAdditionalChunkProcessInfo ≠ 0 := by
  rw [processInfoToWrite]
  split
  · rename_i both
    exact ⟨fun _ => both, fun _ => both.1⟩
  · rename_i neither
    exact ⟨fun some_id => absurd rfl some_id, fun both => absurd both neither⟩

theorem write_refused (missing : systemInfoToWrite eSystemInfo chunks = none) :
    additionalChunkWriterWrite answers eSystemInfo processInfo chunks writers = (.failure, []) := by
  simp only [additionalChunkWriterWrite, missing]

theorem write_streams {sysInfo : Text} (given : systemInfoToWrite eSystemInfo chunks = some sysInfo) :
    additionalChunkWriterWrite answers eSystemInfo processInfo chunks writers =
      writeToStream answers sysInfo (processInfoToWrite processInfo chunks) writers := by
  simp only [additionalChunkWriterWrite, given]

theorem write_process_data (known : (processInfoToWrite processInfo chunks).processId ≠ 0) :
    processInfoToWrite processInfo chunks = processInfo := if_pos (process_to_write_iff.mp known)

theorem write_success_iff :
    (additionalChunkWriterWrite answers eSystemInfo processInfo chunks writers).1 = .success ↔
      Succeeds answers eSystemInfo processInfo chunks writers := by
  cases given : systemInfoToWrite eSystemInfo chunks with
  | none =>
      rw [write_refused given]
      refine ⟨fun contrary => ?_, fun succeeds => ?_⟩
      · cases contrary
      · rw [systemInfoToWrite] at given
        split at given
        · obtain ⟨sysInfo, cached, _⟩ := succeeds.cached ‹_›
          cases cached.symm.trans given
        · cases given
  | some sysInfo =>
      rw [write_streams given, stream_success_iff, chunks_success_iff, process_to_write_iff]
      constructor
      · intro ⟨stream, fileWriter, system, process, each⟩
        refine ⟨fun asked => ⟨sysInfo, ?_, system⟩, stream, fileWriter, fun known asked => process ⟨known, asked⟩, each⟩
        rw [systemInfoToWrite, if_pos asked] at given
        exact given
      · intro succeeds
        refine ⟨succeeds.stream, succeeds.fileWriter, fun some_text => ?_, fun ⟨known, asked⟩ => succeeds.process known asked, succeeds.each⟩
        rw [systemInfoToWrite] at given
        split at given
        · obtain ⟨cachedInfo, cached, answered⟩ := succeeds.cached ‹_›
          cases cached.symm.trans given
          exact answered some_text
        · cases given
          exact absurd rfl some_text

theorem write_released : Released (additionalChunkWriterWrite answers eSystemInfo processInfo chunks writers).2 := by
  cases given : systemInfoToWrite eSystemInfo chunks with
  | none =>
      rw [write_refused given]
      exact ⟨rfl, rfl, Nat.zero_le 1, Nat.zero_le 1⟩
  | some sysInfo =>
      rw [write_streams given]
      exact stream_released sysInfo _ writers

-- All that was asked for is written, but for an empty text.
theorem written_requested_iff {sysInfo : Text} (given : systemInfoToWrite eSystemInfo chunks = some sysInfo)
    (success : (writeToStream answers sysInfo (processInfoToWrite processInfo chunks) writers).1 = .success) :
    (writeToStream answers sysInfo (processInfoToWrite processInfo chunks) writers).2.filterMap RdfCall.writes =
        requested eSystemInfo processInfo chunks writers ↔
      (chunks &&& kAdditionalChunkSystemInfo ≠ 0 → eSystemInfo ≠ some []) := by
  have process : (if (processInfoToWrite processInfo chunks).processId ≠ 0 then
        [.processInfo (processInfoData (processInfoToWrite processInfo chunks))] else ([] : List (Chunk Writer))) =
      if processInfo.processId ≠ 0 ∧ chunks &&& kAdditionalChunkProcessInfo ≠ 0 then [.processInfo (processInfoData processInfo)] else [] := by
    by_cases known : (processInfoToWrite processInfo chunks).processId ≠ 0
    · rw [if_pos known, if_pos (process_to_write_iff.mp known), write_process_data known]
    · rw [if_neg known, if_neg fun both => known (process_to_write_iff.mpr both)]
  rw [stream_written success, requested, process, List.append_left_inj, List.append_left_inj]
  rw [systemInfoToWrite] at given
  split at given
  · rename_i asked
    subst given
    by_cases empty : sysInfo = []
    · simp [asked, empty]
    · simp [asked, empty]
  · rename_i unasked
    cases given
    simp [unasked]

end Request

theorem additional_chunks_complete_iff {Writer : Type} (answers : RdfAnswers) (eSystemInfo : Option Text) (processInfo : ProcessInfoChunk)
    (chunks : ChunksToWrite) (writers : List Writer) :
    Complete (requested eSystemInfo processInfo chunks writers)
        (additionalChunkWriterWrite answers eSystemInfo processInfo chunks writers) ↔
      (Succeeds answers eSystemInfo processInfo chunks writers →
        answers.fileWriterDestroy = true ∧ (chunks &&& kAdditionalChunkSystemInfo ≠ 0 → eSystemInfo ≠ some [])) := by
  rw [← write_success_iff]
  cases given : systemInfoToWrite eSystemInfo chunks with
  | none =>
      have failed : (additionalChunkWriterWrite answers eSystemInfo processInfo chunks writers).1 ≠ .success := by
        rw [write_refused given]
        simp
      exact ⟨fun _ success => absurd success failed, fun _ => ⟨fun success => absurd success failed, write_released⟩⟩
  | some sysInfo =>
      have released : Released (additionalChunkWriterWrite answers eSystemInfo processInfo chunks writers).2 := write_released
      rw [write_streams given] at released ⊢
      constructor
      · intro complete success
        obtain ⟨written, finalized⟩ := complete.written success
        exact ⟨(stream_finalized success).mp finalized, (written_requested_iff given success).mp written⟩
      · intro covered
        refine ⟨fun success => ?_, released⟩
        obtain ⟨finalized, some_text⟩ := covered success
        exact ⟨(written_requested_iff given success).mpr some_text, (stream_finalized success).mpr finalized⟩

def allWell : RdfAnswers := ⟨true, true, .success, true, fun _ => .success, true, true⟩

-- The file is not finalized, or the text that was asked for is empty.
theorem success_without_index :
    ¬Complete (requested (some [123, 125]) ⟨42, [47]⟩ 0xFF [()])
      (additionalChunkWriterWrite { allWell with fileWriterDestroy := false } (some [123, 125]) ⟨42, [47]⟩ 0xFF [()]) := by
  intro complete
  exact absurd (complete.written rfl).2 (by decide)

example : ¬Complete (requested (some []) .none 0xFF ([] : List Unit)) (additionalChunkWriterWrite allWell (some []) .none 0xFF []) := by
  intro complete
  exact absurd (complete.written rfl).1 (by decide)

end RadeonPanel.FileWriting

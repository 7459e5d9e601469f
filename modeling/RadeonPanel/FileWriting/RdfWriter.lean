import Mathlib.Data.List.Basic
import RadeonPanel.Ubertrace.Types

set_option autoImplicit false

namespace RadeonPanel.FileWriting

open RadeonPanel.Ubertrace

inductive IoStatus where
  | ioBegin
  | ioWrite
  | ioEnd
  | unknown
deriving DecidableEq, Repr

-- One call of the driver, with what the stream's Open and the chunk writer of
-- the post-process operation would answer to it.
structure HeartbeatCall where
  status : IoStatus
  result : DdResult
  opened : Bool
  written : Result
deriving DecidableEq, Repr

-- `stream` is none for a null pointer, else whether it is open. The operation
-- assigns to `additionalChunkResult`, a variable of the function that dumps, and
-- `postprocessed` lists its runs, newest first.
structure RdfWriter where
  stream : Option Bool
  additionalChunkResult : Result
  postprocessed : List Result
deriving DecidableEq, Repr

namespace RdfWriter

-- Nothing stands for DD_RESULT_UNKNOWN.
def handleIoBegin (w : RdfWriter) (result : DdResult) (opened : Bool) : RdfWriter × Option DdResult :=
  if result ≠ .success then (w, some result)
  else
    match w.stream with
    | none => (w, none)
    | some _ => if opened then ({ w with stream := some true }, some .success) else (w, none)

def handleIoWrite (w : RdfWriter) (result : DdResult) : RdfWriter × Option DdResult := (w, some result)

-- Whatever the result of the transfer so far, the stream is processed.
def handleIoEnd (w : RdfWriter) (result : DdResult) (written : Result) : RdfWriter × Option DdResult :=
  match w.stream with
  | none => (w, some result)
  | some _ => (⟨some false, written, written :: w.postprocessed⟩, some result)

def ioWriteHeartbeat (w : RdfWriter) (call : HeartbeatCall) : RdfWriter × Option DdResult :=
  match call.status with
  | .ioBegin => w.handleIoBegin call.result call.opened
  | .ioWrite => w.handleIoWrite call.result
  | .ioEnd => w.handleIoEnd call.result call.written
  | .unknown => (w, none)

def afterCalls (w : RdfWriter) : List HeartbeatCall → RdfWriter
  | [] => w
  | call :: rest => afterCalls (w.ioWriteHeartbeat call).1 rest

theorem heartbeat_stream (w : RdfWriter) (call : HeartbeatCall) :
    (w.ioWriteHeartbeat call).1.stream.isSome = w.stream.isSome := by
  cases status : call.status <;> cases stream : w.stream <;>
    grind [ioWriteHeartbeat, handleIoBegin, handleIoWrite, handleIoEnd]

theorem heartbeat_ends (w : RdfWriter) (call : HeartbeatCall) (ends : call.status = .ioEnd)
    (stream : w.stream.isSome = true) :
    (w.ioWriteHeartbeat call).1.additionalChunkResult = call.written ∧
      (w.ioWriteHeartbeat call).1.postprocessed = call.written :: w.postprocessed := by
  obtain ⟨isOpen, here⟩ := Option.isSome_iff_exists.mp stream
  simp [ioWriteHeartbeat, ends, handleIoEnd, here]

-- Any other call leaves the operation alone.
theorem heartbeat_passes (w : RdfWriter) (call : HeartbeatCall)
    (other : ¬ (call.status = .ioEnd ∧ w.stream.isSome = true)) :
    (w.ioWriteHeartbeat call).1.additionalChunkResult = w.additionalChunkResult ∧
      (w.ioWriteHeartbeat call).1.postprocessed = w.postprocessed := by
  cases status : call.status <;> cases stream : w.stream <;>
    grind [ioWriteHeartbeat, handleIoBegin, handleIoWrite, handleIoEnd]

-- The variable has the newest result, or what it had without a run.
def Agrees (w : RdfWriter) (indeterminate : Result) : Prop :=
  w.additionalChunkResult = w.postprocessed.headD indeterminate

theorem calls_agree (w : RdfWriter) (indeterminate : Result) (calls : List HeartbeatCall)
    (agrees : w.Agrees indeterminate) : (w.afterCalls calls).Agrees indeterminate := by
  induction calls generalizing w with
  | nil => exact agrees
  | cons call rest ih =>
      apply ih
      by_cases runs : call.status = .ioEnd ∧ w.stream.isSome = true
      · obtain ⟨assigned, logged⟩ := heartbeat_ends w call runs.1 runs.2
        simp [Agrees, assigned, logged]
      · obtain ⟨kept, logged⟩ := heartbeat_passes w call runs
        rw [Agrees, kept, logged]
        exact agrees

theorem calls_postprocessed (w : RdfWriter) (calls : List HeartbeatCall) :
    (w.afterCalls calls).postprocessed = [] ↔
      w.postprocessed = [] ∧ ¬ (w.stream.isSome = true ∧ ∃ call ∈ calls, call.status = .ioEnd) := by
  induction calls generalizing w with
  | nil => simp [afterCalls]
  | cons call rest ih =>
      rw [afterCalls, ih, heartbeat_stream]
      by_cases runs : call.status = .ioEnd ∧ w.stream.isSome = true
      · obtain ⟨_, logged⟩ := heartbeat_ends w call runs.1 runs.2
        simp [logged, runs.1, runs.2]
      · obtain ⟨_, logged⟩ := heartbeat_passes w call runs
        by_cases here : w.stream.isSome = true
        · have apart : call.status ≠ .ioEnd := fun ends => runs ⟨ends, here⟩
          simp [logged, apart]
        · simp [logged, here]

end RdfWriter

end RadeonPanel.FileWriting

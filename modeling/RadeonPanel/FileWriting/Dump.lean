import RadeonPanel.FileWriting.RdfWriter
import RadeonPanel.Rmv.Client

set_option autoImplicit false

namespace RadeonPanel.FileWriting

open RadeonPanel.Ubertrace

-- One TransferTraceData with a writer of its own. The functions that dump
-- declare `additional_chunk_result` without a value: what it holds then is
-- `indeterminate`. `stream` says whether GetRdfWriter had a stream for the writer.
structure Transfer where
  indeterminate : Result
  stream : Bool
  calls : List HeartbeatCall
  result : DdResult
deriving DecidableEq, Repr

namespace Transfer

def writer (transfer : Transfer) : RdfWriter :=
  RdfWriter.afterCalls ⟨if transfer.stream then some false else none, transfer.indeterminate, []⟩ transfer.calls

-- The driver's END reaches a stream.
def isPostprocessed (transfer : Transfer) : Bool :=
  transfer.stream && transfer.calls.any fun call => call.status = .ioEnd

theorem writer_agrees (transfer : Transfer) : transfer.writer.Agrees transfer.indeterminate :=
  RdfWriter.calls_agree _ transfer.indeterminate transfer.calls rfl

theorem writer_postprocessed (transfer : Transfer) :
    transfer.writer.postprocessed = [] ↔ transfer.isPostprocessed = false := by
  rw [writer, RdfWriter.calls_postprocessed, isPostprocessed]
  cases transfer.stream <;> simp

-- The newest run of the operation, if there was one, is what the variable shows.
theorem result_success_iff (transfer : Transfer) :
    transfer.writer.additionalChunkResult = .success ↔
      transfer.writer.postprocessed.head? = some .success ∨
        transfer.isPostprocessed = false ∧ transfer.indeterminate = .success := by
  rw [writer_agrees transfer, ← writer_postprocessed]
  cases transfer.writer.postprocessed <;> simp

end Transfer

end RadeonPanel.FileWriting

namespace RadeonPanel.Rmv

open RadeonPanel.Ubertrace RadeonPanel.FileWriting

structure Dumped where
  returned : Result
  state : ClientState
  cleared : Bool
  completions : List TraceCompletionStatus
deriving DecidableEq, Repr

def dump (state : ClientState) (transfer : Transfer) : Dumped :=
  if state ≠ .done then ⟨.failure, state, false, []⟩
  else if transfer.result ≠ .success then ⟨.failure, .done, false, [.error]⟩
  else if transfer.writer.additionalChunkResult ≠ .success then ⟨.failure, .done, true, [.error]⟩
  else ⟨.success, .done, true, [.completed]⟩

-- What the client's own thread does in the steps from `checkDone` on.
theorem dump_status (transfer : Transfer) (status : MemoryTraceStatus) :
    (dump .done transfer).completions =
      [dumpStatus ⟨transfer.result = .success, status, transfer.writer.additionalChunkResult = .success⟩] := by
  rw [dump, dumpStatus]
  by_cases transferred : transfer.result = .success
  · by_cases written : transfer.writer.additionalChunkResult = .success
    · simp [transferred, written]
    · simp [transferred, written]
  · simp [transferred]

end RadeonPanel.Rmv

namespace RadeonPanel.Rgd

open RadeonPanel.Ubertrace RadeonPanel.FileWriting

inductive Outcome where
  | noCrashDetected
  | traceCompleted (status : TraceCompletionStatus)
deriving DecidableEq, Repr

-- RgdUbertraceClientUtilsWrapper
def ubertraceCompleted (_ : TraceCompletionStatus) : List Outcome := []

def dumpCrash (transfer : Transfer) : List Outcome :=
  if transfer.result ≠ .success then [.traceCompleted .error]
  else if transfer.writer.additionalChunkResult ≠ .success then [.traceCompleted .error]
  else [.traceCompleted .completed]

-- `ubertraceClient` are the completions that the UberTrace client's own
-- Disconnect hands to its wrapper, if there is a client. EndTracing's result is
-- only logged.
structure Disconnecting where
  ubertraceClient : Option (List TraceCompletionStatus)
  didDetectCrash : Bool
  transfer : Transfer
deriving DecidableEq, Repr

def disconnect (client : Disconnecting) : List Outcome :=
  let ubertrace := (client.ubertraceClient.getD []).flatMap ubertraceCompleted
  ubertrace ++ if client.didDetectCrash then dumpCrash client.transfer else [.noCrashDetected]

theorem disconnect_outcome (client : Disconnecting) :
    disconnect client = if client.didDetectCrash then dumpCrash client.transfer else [.noCrashDetected] := by
  simp [disconnect, ubertraceCompleted]

theorem dump_crash_one (transfer : Transfer) : ∃ status, dumpCrash transfer = [.traceCompleted status] := by
  rw [dumpCrash]
  split
  · exact ⟨_, rfl⟩
  · split <;> exact ⟨_, rfl⟩

theorem disconnect_one (client : Disconnecting) : (disconnect client).length = 1 := by
  rw [disconnect_outcome]
  cases client.didDetectCrash with
  | true =>
      obtain ⟨status, one⟩ := dump_crash_one client.transfer
      simp [one]
  | false => rfl

end RadeonPanel.Rgd

namespace RadeonPanel.FileWriting

open RadeonPanel.Ubertrace

-- What a completion may be reported for.
def Transfer.Delivered (transfer : Transfer) : Prop :=
  transfer.result = .success ∧ transfer.writer.postprocessed.head? = some .success

-- Either the driver fails, or its END reaches the stream, or the variable happens
-- to hold another value than kSuccess.
def Transfer.isJudged (transfer : Transfer) : Bool :=
  transfer.result ≠ .success || transfer.isPostprocessed || transfer.indeterminate ≠ .success

theorem delivered_iff (transfer : Transfer) :
    (transfer.result = .success ∧ transfer.writer.additionalChunkResult = .success → transfer.Delivered) ↔
      transfer.isJudged = true := by
  have judged : transfer.isJudged = true ↔
      (transfer.result = .success → transfer.isPostprocessed = false → transfer.indeterminate ≠ .success) := by
    unfold Transfer.isJudged
    cases transfer.isPostprocessed <;> simp [imp_iff_not_or]
  rw [judged, transfer.result_success_iff]
  constructor
  · intro truthful transferred unprocessed happens
    obtain ⟨_, newest⟩ := truthful ⟨transferred, .inr ⟨unprocessed, happens⟩⟩
    rw [← transfer.writer_postprocessed] at unprocessed
    rw [unprocessed] at newest
    cases newest
  · rintro decided ⟨transferred, newest | ⟨unprocessed, happens⟩⟩
    · exact ⟨transferred, newest⟩
    · exact absurd happens (decided transferred unprocessed)

def Transfer.Truthful (transfer : Transfer) (completions : List TraceCompletionStatus) : Prop :=
  .completed ∈ completions → transfer.Delivered

end RadeonPanel.FileWriting

namespace RadeonPanel.Rmv

open RadeonPanel.Ubertrace RadeonPanel.FileWriting

theorem dump_completed (state : ClientState) (transfer : Transfer) :
    .completed ∈ (dump state transfer).completions ↔
      state = .done ∧ transfer.result = .success ∧ transfer.writer.additionalChunkResult = .success := by
  rw [dump]
  by_cases done : state = .done
  · by_cases transferred : transfer.result = .success
    · by_cases written : transfer.writer.additionalChunkResult = .success
      · simp [done, transferred, written]
      · simp [done, transferred, written]
    · simp [done, transferred]
  · simp [done]

theorem dump_truthful_iff (state : ClientState) (transfer : Transfer) :
    transfer.Truthful (dump state transfer).completions ↔ (state = .done → transfer.isJudged = true) := by
  rw [Transfer.Truthful, dump_completed, ← delivered_iff]
  exact and_imp

end RadeonPanel.Rmv

namespace RadeonPanel.Rgd

open RadeonPanel.Ubertrace RadeonPanel.FileWriting

def Outcome.completion : Outcome → Option TraceCompletionStatus
  | .noCrashDetected => none
  | .traceCompleted status => some status

def completions (outcomes : List Outcome) : List TraceCompletionStatus := outcomes.filterMap Outcome.completion

theorem crash_completed (transfer : Transfer) :
    .completed ∈ completions (dumpCrash transfer) ↔
      transfer.result = .success ∧ transfer.writer.additionalChunkResult = .success := by
  rw [dumpCrash]
  by_cases transferred : transfer.result = .success
  · by_cases written : transfer.writer.additionalChunkResult = .success
    · simp [transferred, written, completions, Outcome.completion]
    · simp [transferred, written, completions, Outcome.completion]
  · simp [transferred, completions, Outcome.completion]

theorem disconnect_truthful_iff (client : Disconnecting) :
    client.transfer.Truthful (completions (disconnect client)) ↔
      (client.didDetectCrash = true → client.transfer.isJudged = true) := by
  rw [disconnect_outcome, Transfer.Truthful]
  cases client.didDetectCrash with
  | true => simp [crash_completed, ← delivered_iff]
  | false => simp [completions, Outcome.completion]

end RadeonPanel.Rgd

namespace RadeonPanel.FileWriting

open RadeonPanel.Ubertrace

-- An RMV dump from some state of the client, and an RGD client that disconnects.
def CompletesTruthfully (state : ClientState) (transfer : Transfer) (client : Rgd.Disconnecting) : Prop :=
  transfer.Truthful (Rmv.dump state transfer).completions ∧
    client.transfer.Truthful (Rgd.completions (Rgd.disconnect client)) ∧ (Rgd.disconnect client).length = 1

theorem completes_truthfully_iff (state : ClientState) (transfer : Transfer) (client : Rgd.Disconnecting) :
    CompletesTruthfully state transfer client ↔
      (state = .done → transfer.isJudged = true) ∧ (client.didDetectCrash = true → client.transfer.isJudged = true) := by
  rw [CompletesTruthfully, Rmv.dump_truthful_iff, Rgd.disconnect_truthful_iff]
  simp [Rgd.disconnect_one]

-- The driver transfers without an END, and the variable happens to be zero.
def unended : Transfer := ⟨.success, true, [⟨.ioBegin, .success, true, .success⟩], .success⟩

theorem unended_transfer_completed :
    ¬ ∀ (state : ClientState) (transfer : Transfer) (client : Rgd.Disconnecting),
      CompletesTruthfully state transfer client := by
  intro truthful
  obtain ⟨_, crash, _⟩ := truthful .done unended ⟨none, true, unended⟩
  obtain ⟨_, newest⟩ := crash (by decide)
  cases newest

end RadeonPanel.FileWriting

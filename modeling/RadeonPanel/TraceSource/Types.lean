import Mathlib.Data.List.Nodup
import RadeonPanel.Connections.Types

set_option autoImplicit false

namespace RadeonPanel.TraceSource

open RadeonPanel.Ubertrace

inductive TraceSourceStage where
  | disconnected
  | idle
  | waitingToBeginCapture
  | capturing
  | dumping
  | processing
  | done
  | disabled
  | error
  | busy
deriving DecidableEq, Repr

inductive DisabledReason where
  | enabled
  | noReason
  | encounteredError
  | hardwareUnsupported
  | osUnsupported
  | driverUnsupported
  | apiUnsupported
deriving DecidableEq, Repr

def clientStateToTraceSourceStage : ClientState → TraceSourceStage
  | .idle => .idle
  | .disabled => .disabled
  | .error => .error
  | .done => .done
  | .busy => .busy
  | .waitingToBeginCapture => .waitingToBeginCapture
  | .capturing => .capturing
  | .postProcessing => .processing
  | .dumping => .dumping

-- The values of the enumeration.
def clientStateValue : ClientState → Nat
  | .disabled => 0
  | .error => 1
  | .done => 2
  | .busy => 3
  | .idle => 4
  | .waitingToBeginCapture => 5
  | .capturing => 6
  | .postProcessing => 7
  | .dumping => 8

-- `std::max`: of equal ones the first.
def maxState (a b : ClientState) : ClientState := if clientStateValue a < clientStateValue b then b else a

theorem max_state_cases (a b : ClientState) : maxState a b = a ∨ maxState a b = b := by
  unfold maxState
  split
  · exact .inr rfl
  · exact .inl rfl

-- A map from connections to their API. `insert` leaves a present key as it is.
structure ConnectionMap where
  entries : List (DdConnectionId × Api)
  distinct : (entries.map Prod.fst).Nodup
deriving DecidableEq

namespace ConnectionMap

def empty : ConnectionMap := ⟨[], List.nodup_nil⟩

def at? (m : ConnectionMap) (id : DdConnectionId) : Option Api :=
  (Keyed.lookup Prod.fst m.entries id).map Prod.snd

def insert (m : ConnectionMap) (id : DdConnectionId) (api : Api) : ConnectionMap :=
  if present : id ∈ m.entries.map Prod.fst then m
  else
    { entries := m.entries ++ [(id, api)]
      distinct := by
        rw [List.map_append, List.map_singleton, ← List.concat_eq_append]
        exact m.distinct.concat present }

theorem insert_entries (m : ConnectionMap) (id : DdConnectionId) (api : Api) (entry : DdConnectionId × Api)
    (member : entry ∈ (m.insert id api).entries) : entry ∈ m.entries ∨ entry = (id, api) := by
  unfold insert at member
  split at member
  · exact .inl member
  · simpa using member

theorem at_of_mem (m : ConnectionMap) (entry : DdConnectionId × Api) (member : entry ∈ m.entries) :
    m.at? entry.1 = some entry.2 := by
  rw [at?, Keyed.lookup_of_mem Prod.fst m.entries entry m.distinct member]
  rfl

-- The first half of the comparison of two statuses.
def equal (a b : ConnectionMap) : Bool :=
  a.entries.length = b.entries.length && a.entries.all fun entry => b.at? entry.1 = some entry.2

theorem equal_refl (m : ConnectionMap) : m.equal m = true := by
  simp only [equal, decide_true, Bool.true_and, List.all_eq_true, decide_eq_true_eq]
  exact fun entry member => at_of_mem m entry member

end ConnectionMap

-- Progress is a number from 0 to 1.
structure TraceSourceStatus where
  numBytesDumped : UInt64
  totalBytesToDump : UInt64
  pid : UInt32
  applicationName : String
  currentConnections : ConnectionMap
  stageProgress : Rat
  abortTraceSupported : Bool
  abortProcessingSupported : Bool
  disabledReason : DisabledReason
  traceStage : TraceSourceStage
deriving DecidableEq

namespace TraceSourceStatus

def default : TraceSourceStatus := ⟨0, 0, 0, "", .empty, 0, false, false, .enabled, .disconnected⟩

-- The `operator==`, which leaves the process, the reason and the abort flags out.
def equal (a b : TraceSourceStatus) : Bool :=
  a.currentConnections.equal b.currentConnections && b.numBytesDumped = a.numBytesDumped &&
    b.totalBytesToDump = a.totalBytesToDump && b.traceStage = a.traceStage && b.stageProgress = a.stageProgress

def changeStage (status : TraceSourceStatus) (newStage : TraceSourceStage) : TraceSourceStatus :=
  let status := if status.traceStage ≠ newStage then
    { status with
      disabledReason := if newStage = .disabled then .noReason else .enabled
      stageProgress := 0 }
    else status
  let status := if newStage ≠ .dumping then { status with numBytesDumped := 0, totalBytesToDump := 0 } else status
  { status with traceStage := newStage }

-- What `operator==` looks at.
structure SameView (a b : TraceSourceStatus) : Prop where
  connections : a.currentConnections = b.currentConnections
  dumped : a.numBytesDumped = b.numBytesDumped
  total : a.totalBytesToDump = b.totalBytesToDump
  stage : a.traceStage = b.traceStage
  progress : a.stageProgress = b.stageProgress

theorem same_view_equal (a b : TraceSourceStatus) (same : SameView a b) : a.equal b = true := by
  obtain ⟨connections, dumped, total, stage, progress⟩ := same
  simp [equal, connections, dumped, total, stage, progress, ConnectionMap.equal_refl]

end TraceSourceStatus

structure TraceSourceStatusEventArgs where
  newStatus : TraceSourceStatus
  oldStatus : TraceSourceStatus
deriving DecidableEq

structure TraceCaptureProgress where
  status : TraceSourceStatus
  numBytesDumped : UInt64
  totalBytesToDump : UInt64
  progress : Rat
  progressText : String
deriving DecidableEq

def TraceCaptureProgress.default : TraceCaptureProgress := ⟨.default, 0, 0, 0, ""⟩

structure TraceCaptureProgressEventArgs where
  newProgress : TraceCaptureProgress
  oldProgress : TraceCaptureProgress
deriving DecidableEq

structure WritingProgress where
  totalBytesToDump : UInt64
  numBytesDumped : UInt64
  progress : Rat
deriving DecidableEq

structure TraceCompletionResult where
  status : TraceCompletionStatus
  path : String
  umdConnectionId : DdConnectionId
deriving DecidableEq

structure TraceCompletionEventArgs where
  result : TraceCompletionResult
deriving DecidableEq

end RadeonPanel.TraceSource

import RadeonPanel.Base.Changes
import RadeonPanel.TraceSource.Types

set_option autoImplicit false

namespace RadeonPanel.CaptureApi

open Interleaving RadeonPanel.TraceSource

inductive RdpCaptureFeatureStage where
  | unknown
  | disconnected
  | readyForCapture
  | waitingToBeginCapture
  | capturing
  | done
  | encounteredError
  | busy
  | disabled
  | disabledFromError
  | hardwareUnsupported
  | osUnsupported
  | driverUnsupported
  | apiUnsupported
deriving DecidableEq, Repr

inductive RdpCaptureDetailedStage where
  | unknown
  | disconnected
  | readyForCapture
  | waitingToBeginCapture
  | capturing
  | dumping
  | processing
  | done
  | encounteredError
  | busy
  | disabled
  | disabledFromError
  | hardwareUnsupported
  | osUnsupported
  | driverUnsupported
  | apiUnsupported
deriving DecidableEq, Repr

-- A disabled source that has the reason of an enabled one fails an assertion.
def getDisabledStage : DisabledReason → RdpCaptureFeatureStage
  | .enabled => .disabled
  | .encounteredError => .disabledFromError
  | .hardwareUnsupported => .hardwareUnsupported
  | .osUnsupported => .osUnsupported
  | .driverUnsupported => .driverUnsupported
  | .apiUnsupported => .apiUnsupported
  | .noReason => .disabled

def getCaptureStage (status : TraceSourceStatus) : RdpCaptureFeatureStage :=
  match status.traceStage with
  | .disconnected => .disconnected
  | .idle => .readyForCapture
  | .waitingToBeginCapture => .waitingToBeginCapture
  | .capturing | .dumping | .processing => .capturing
  | .done => .done
  | .disabled => getDisabledStage status.disabledReason
  | .error => .encounteredError
  | .busy => .busy

def getDetailedCaptureStage (status : TraceSourceStatus) : RdpCaptureDetailedStage :=
  match status.traceStage with
  | .disconnected => .disconnected
  | .idle => .readyForCapture
  | .waitingToBeginCapture => .waitingToBeginCapture
  | .capturing => .capturing
  | .dumping => .dumping
  | .processing => .processing
  | .done => .done
  | .disabled =>
      match status.disabledReason with
      | .encounteredError => .disabledFromError
      | .hardwareUnsupported => .hardwareUnsupported
      | .osUnsupported => .osUnsupported
      | .driverUnsupported => .driverUnsupported
      | .apiUnsupported => .apiUnsupported
      | .enabled | .noReason => .disabled
  | .error => .encounteredError
  | .busy => .busy

-- The stage of the feature that a detailed stage belongs to.
def RdpCaptureDetailedStage.coarse : RdpCaptureDetailedStage → RdpCaptureFeatureStage
  | .unknown => .unknown
  | .disconnected => .disconnected
  | .readyForCapture => .readyForCapture
  | .waitingToBeginCapture => .waitingToBeginCapture
  | .capturing | .dumping | .processing => .capturing
  | .done => .done
  | .encounteredError => .encounteredError
  | .busy => .busy
  | .disabled => .disabled
  | .disabledFromError => .disabledFromError
  | .hardwareUnsupported => .hardwareUnsupported
  | .osUnsupported => .osUnsupported
  | .driverUnsupported => .driverUnsupported
  | .apiUnsupported => .apiUnsupported

theorem detailed_stage_coarse (status : TraceSourceStatus) :
    (getDetailedCaptureStage status).coarse = getCaptureStage status := by
  unfold getDetailedCaptureStage getCaptureStage
  cases status.traceStage with
  | disabled => cases status.disabledReason <;> rfl
  | _ => rfl

-- `statusCallback` says whether a function is registered.
structure TraceSourceAdapter where
  currentStage : RdpCaptureFeatureStage
  currentDetailedStage : RdpCaptureDetailedStage
  connectionMap : ConnectionMap
  currentStatus : TraceSourceStatus
  statusCallback : Bool
deriving DecidableEq

structure StatusChanged where
  newStage : RdpCaptureDetailedStage
  oldStage : RdpCaptureDetailedStage
deriving DecidableEq, Repr

namespace TraceSourceAdapter

def created : TraceSourceAdapter := ⟨.unknown, .unknown, .empty, .default, false⟩

def setStatusCallback (self : TraceSourceAdapter) (registered : Bool) : TraceSourceAdapter :=
  { self with statusCallback := registered }

def getFeatureStage (self : TraceSourceAdapter) (_timeoutMs : UInt64) : RdpCaptureFeatureStage := self.currentStage

def onTraceStatusEvent (self : TraceSourceAdapter) (args : TraceSourceStatusEventArgs) :
    TraceSourceAdapter × List StatusChanged :=
  let newDetailedStage := getDetailedCaptureStage args.newStatus
  let oldDetailedStage := self.currentDetailedStage
  let updated := { self with
    currentStage := getCaptureStage args.newStatus
    currentDetailedStage := newDetailedStage
    connectionMap := args.newStatus.currentConnections
    currentStatus := args.newStatus }
  (updated, if newDetailedStage ≠ oldDetailedStage ∧ self.statusCallback then [⟨newDetailedStage, oldDetailedStage⟩] else [])

end TraceSourceAdapter

inductive Input where
  | setStatusCallback (registered : Bool)
  | traceStatus (args : TraceSourceStatusEventArgs)
deriving DecidableEq

namespace TraceSourceAdapter

def receive (self : TraceSourceAdapter) : Input → TraceSourceAdapter × List StatusChanged
  | .setStatusCallback registered => (self.setStatusCallback registered, [])
  | .traceStatus args => self.onTraceStatusEvent args

def receiveAll (self : TraceSourceAdapter) : List Input → TraceSourceAdapter × List StatusChanged
  | [] => (self, [])
  | input :: rest =>
      let first := self.receive input
      let later := first.1.receiveAll rest
      (later.1, first.2 ++ later.2)

end TraceSourceAdapter

-- The detailed stage of the newest event, if there was one.
def lastDetailedStage (stage : RdpCaptureDetailedStage) : List Input → RdpCaptureDetailedStage
  | [] => stage
  | .setStatusCallback _ :: rest => lastDetailedStage stage rest
  | .traceStatus args :: rest => lastDetailedStage (getDetailedCaptureStage args.newStatus) rest

def StatusChanged.pair (call : StatusChanged) : RdpCaptureDetailedStage × RdpCaptureDetailedStage :=
  (call.newStage, call.oldStage)

-- The two stages never come apart.
def TraceSourceAdapter.AtStage (self : TraceSourceAdapter) (stage : RdpCaptureDetailedStage) : Prop :=
  self.currentDetailedStage = stage ∧ self.currentStage = stage.coarse

theorem receive_all_stage (self : TraceSourceAdapter) (inputs : List Input) (stage : RdpCaptureDetailedStage)
    (here : self.AtStage stage) : (self.receiveAll inputs).1.AtStage (lastDetailedStage stage inputs) := by
  induction inputs generalizing self stage with
  | nil => exact here
  | cons input rest ih =>
      cases input with
      | setStatusCallback registered => exact ih _ _ here
      | traceStatus args => exact ih _ _ ⟨rfl, (detailed_stage_coarse args.newStatus).symm⟩

theorem receive_all_changes (self : TraceSourceAdapter) (events : List TraceSourceStatusEventArgs)
    (registered : self.statusCallback = true) :
    (self.receiveAll (events.map .traceStatus)).2.map StatusChanged.pair =
      changes self.currentDetailedStage (events.map fun args => getDetailedCaptureStage args.newStatus) := by
  induction events generalizing self with
  | nil => rfl
  | cons args rest ih =>
      have later := ih (self.onTraceStatusEvent args).1 registered
      have now : (self.onTraceStatusEvent args).1.currentDetailedStage = getDetailedCaptureStage args.newStatus := rfl
      rw [now] at later
      simp only [List.map_cons, TraceSourceAdapter.receiveAll, TraceSourceAdapter.receive, List.map_append, later, changes]
      by_cases same : getDetailedCaptureStage args.newStatus = self.currentDetailedStage
      · simp [TraceSourceAdapter.onTraceStatusEvent, same]
      · simp [TraceSourceAdapter.onTraceStatusEvent, same, registered, StatusChanged.pair]

-- From any point of the adapter's life at which a callback is registered.
theorem detailed_stages_chain (earlier : List Input) (events : List TraceSourceStatusEventArgs) (timeoutMs : UInt64) :
    let before := (TraceSourceAdapter.created.receiveAll earlier).1.setStatusCallback true
    let last := lastDetailedStage .unknown earlier
    let after := before.receiveAll (events.map .traceStatus)
    after.2.map StatusChanged.pair = changes last (events.map fun args => getDetailedCaptureStage args.newStatus) ∧
      after.2.IsChain (fun previous call => call.oldStage = previous.newStage) ∧
      after.1.getFeatureStage timeoutMs = (lastDetailedStage last (events.map .traceStatus)).coarse := by
  intro before last after
  have here : before.AtStage last := receive_all_stage .created earlier .unknown ⟨rfl, rfl⟩
  have changed := receive_all_changes before events rfl
  rw [here.1] at changed
  have chained := changes_chained last (events.map fun args => getDetailedCaptureStage args.newStatus)
  rw [← changed] at chained
  refine ⟨changed, (List.isChain_map StatusChanged.pair).mp chained, ?_⟩
  exact (receive_all_stage before (events.map .traceStatus) last here).2

end RadeonPanel.CaptureApi

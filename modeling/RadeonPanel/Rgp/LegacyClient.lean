import Mathlib.Logic.Function.Basic
import RadeonPanel.Base.History
import RadeonPanel.Base.Runs
import RadeonPanel.Connections.Types

set_option autoImplicit false

namespace RadeonPanel.Rgp.Legacy

open Interleaving RadeonPanel.Ubertrace

inductive AutoCaptureMode where
  | none
  | frameIndex
  | dispatchIndices
  | timer
deriving DecidableEq, Repr

-- Callers may pass numbers that the enumeration does not name.
abbrev RgpCaptureMode := UInt32

def RgpCaptureMode.default : RgpCaptureMode := 0
def RgpCaptureMode.frame : RgpCaptureMode := 1
def RgpCaptureMode.draw : RgpCaptureMode := 2
def RgpCaptureMode.dispatch : RgpCaptureMode := 3

def isComputeApi (api : Api) : Bool := api = .openCl || api = .hip

def getRgpCaptureMode (mode : UInt32) (api : Api) : RgpCaptureMode :=
  if mode ≠ 0 then mode
  else match api with
    | .hip | .openCl => .dispatch
    | _ => .frame

def supportsCaptureMode (api : Api) (mode : UInt32) : Bool :=
  let isCompute := isComputeApi api
  let rgpMode := getRgpCaptureMode mode api
  (isCompute && rgpMode = .dispatch) || (!isCompute && rgpMode = .frame)

-- The connection's thread, the three that the client starts, and any number of
-- threads that call in.
inductive Who where
  | driver
  | timer
  | capture
  | poller
  | caller (id : Nat)
deriving DecidableEq, Repr

-- In front of each access to what the threads share. `timer` tells the timer
-- capture's preparation from that of a caller.
inductive Pc where
  | outside
  | startPolling (mode : AutoCaptureMode)
  | lockAbort
  | checkIdle (timer : Bool)
  | setWaiting (timer : Bool)
  | startTimer
  | timerWaits
  | onTriggered
  | onCancelled
  | cancelledDone
  | beginTrace (mode : RgpCaptureMode) (isAuto : Bool)
  | joinCapture (isAuto : Bool)
  | configure (isAuto : Bool)
  | refusedDone
  | startCapture (isAuto spm : Bool)
  | reportError
  | abortTrace
  | checkWaiting
  | setIdle
  | executeTrace (isAuto spm : Bool)
  | tracing (isAuto spm : Bool)
  | finalizeTrace (isAuto spm succeeded chunksWritten : Bool)
  | finalState (isAuto : Bool)
  | checkGpu
  | setGpuState
deriving DecidableEq, Repr

-- `joined` is Disconnect after it has looked at the capture's thread.
inductive Phase where
  | created
  | failed
  | bound
  | stoppingPolling
  | aborting
  | joining
  | joined
  | disconnected
deriving DecidableEq, Repr

def Phase.isJoined : Phase → Bool
  | .joined | .disconnected => true
  | _ => false

inductive Event where
  | timerPrepared
  | timerRequests
  | aborted
  | disconnects
  | disconnected
  | executes
  | executed
  | traceCompleted (status : TraceCompletionStatus)
deriving DecidableEq, Repr

-- `gpuSupported` is what IsGpuSupportedForRgp says of `active_gpu_`, and
-- `timerCancelled` the timer's own flag. `log` is newest first.
structure Client where
  state : ClientState
  phase : Phase
  gpuSupported : Bool
  polling : Bool
  abortLocked : Bool
  aborted : Bool
  captureJoinable : Bool
  timerCancelled : Bool
  log : List Event
deriving DecidableEq, Repr

namespace Client

def record (c : Client) (event : Event) : Client := { c with log := event :: c.log }

def setState (c : Client) (state : ClientState) : Client := { c with state := state }

def isReadyForCapture (c : Client) : Bool := c.state = .idle || c.state = .waitingToBeginCapture

def gpuState (c : Client) : ClientState := if c.gpuSupported then .idle else .disabled

end Client

-- Of the driver and of the objects that the client uses; a step reads the part
-- that it asks for.
structure Answer where
  succeeded : Bool
  gpuSupported : Bool
  enableSpm : Bool
  spmUpdated : Bool
  chunksWritten : Bool
  spmListener : Bool
deriving DecidableEq, Repr

-- What RequestBeginTrace returns to: RequestAutoCapture reports a failure.
def refused (isAuto : Bool) : Pc := if isAuto then .reportError else .outside

-- A GPU or counters that do not fit also end an auto capture's client.
def unsuited (isAuto : Bool) : Pc := if isAuto then .refusedDone else .outside

def traceStatus (succeeded chunksWritten aborted : Bool) : TraceCompletionStatus :=
  if succeeded then if chunksWritten then .completed else .error
  else if aborted then .aborted else .error

section Client
variable (api : Api)

-- The auto captures of POSTDEVICEINIT, by the configured mode.
def autoCapture (mode : AutoCaptureMode) : Pc :=
  let request := Pc.beginTrace (getRgpCaptureMode 0 api) true
  if mode = .frameIndex && !isComputeApi api then request
  else if isComputeApi api then
    if mode = .dispatchIndices then request else if mode = .timer then .lockAbort else .outside
  else .outside

def Client.run (answer : Answer) (c : Client) : Pc → Option (Client × Pc)
  | .outside => none
  -- A running thread that is assigned to ends the process.
  | .startPolling mode => if c.polling then none else some ({ c with polling := true }, autoCapture api mode)
  | .lockAbort => if c.abortLocked then none else some ({ c with abortLocked := true }, .checkIdle true)
  | .checkIdle timer =>
      if c.state ≠ .idle then some (if timer then { c with abortLocked := false } else c, .outside)
      else some (c, .setWaiting timer)
  | .setWaiting timer =>
      let waiting := c.setState .waitingToBeginCapture
      some (if timer then (waiting.record .timerPrepared, .startTimer) else (waiting, .outside))
  | .startTimer => some ({ c with timerCancelled := false, abortLocked := false }, .outside)
  | .timerWaits => some (c, if c.timerCancelled then .onCancelled else .onTriggered)
  | .onTriggered => some (c.record .timerRequests, .beginTrace (getRgpCaptureMode 0 api) true)
  | .onCancelled => some (c.record (.traceCompleted .aborted), .cancelledDone)
  | .cancelledDone => some (c.setState .done, .outside)
  | .beginTrace mode isAuto =>
      if !supportsCaptureMode api mode then some (c, refused isAuto)
      else if !c.isReadyForCapture then some (c, refused isAuto)
      else some (c, .joinCapture isAuto)
  | .joinCapture isAuto => some ({ c with captureJoinable := false }, .configure isAuto)
  | .configure isAuto =>
      if !answer.gpuSupported then some (c, unsuited isAuto)
      else if answer.enableSpm && !answer.spmUpdated then some (c, unsuited isAuto)
      else some (c, .startCapture isAuto answer.enableSpm)
  | .refusedDone => some (c.setState .done, .reportError)
  | .startCapture _ _ => if c.captureJoinable then none else some ({ c with captureJoinable := true }, .outside)
  | .reportError => some (c.record (.traceCompleted .error), .outside)
  | .abortTrace => if c.abortLocked then none else some ({ c with aborted := true }, .checkWaiting)
  | .checkWaiting => some (c, if c.state = .waitingToBeginCapture then .setIdle else .outside)
  | .setIdle => some ((c.setState .idle).record .aborted, .outside)
  | .executeTrace isAuto spm => some ({ c with aborted := false }.record .executes, .tracing isAuto spm)
  | .tracing isAuto spm => some (c.record .executed, .finalizeTrace isAuto spm answer.succeeded answer.chunksWritten)
  | .finalizeTrace isAuto spm succeeded chunksWritten =>
      if succeeded && chunksWritten && spm && answer.spmListener then
        some ((c.setState .postProcessing).record (.traceCompleted .needProcessing), .finalState isAuto)
      else some (c.record (.traceCompleted (traceStatus succeeded chunksWritten c.aborted)), .finalState isAuto)
  | .finalState isAuto => some (c.setState (if isAuto then .done else c.gpuState), .outside)
  | .checkGpu => some (c, if c.state = .idle || c.state = .disabled then .setGpuState else .outside)
  | .setGpuState => some (c.setState c.gpuState, .outside)

end Client

-- A thread that is started in the step.
def starts : Pc → Option (Who × Pc)
  | .startTimer => some (.timer, .timerWaits)
  | .startCapture isAuto spm => some (.capture, .executeTrace isAuto spm)
  | _ => none

def waitsFor : Pc → Option Who
  | .joinCapture _ => some .capture
  | _ => none

inductive Call where
  | prepareForDelayedCapture
  | requestBeginTrace (mode : UInt32)
  | requestAbortTrace
deriving DecidableEq, Repr

def Call.entry (api : Api) : Call → Pc
  | .prepareForDelayedCapture => .checkIdle false
  | .requestBeginTrace mode => .beginTrace (getRgpCaptureMode mode api) false
  | .requestAbortTrace => .abortTrace

structure State where
  client : Client
  pcs : Who → Pc

def State.jump (s : State) (who : Who) (pc : Pc) : State := { s with pcs := Function.update s.pcs who pc }

def State.finished (s : State) (who : Who) : Prop := s.pcs who = .outside

instance (s : State) (who : Who) : Decidable (s.finished who) := inferInstanceAs (Decidable (_ = _))

-- Whoever calls has got hold of the client before it was taken away for
-- Disconnect; its first access may come later. `onTraceState` are the
-- callbacks that the driver and the writer make during a trace.
inductive Action where
  | initializeClient (accepted : Bool)
  | handleDriverState (state : DdDriverState) (mode : AutoCaptureMode)
  | call (id : Nat) (call : Call)
  | run (who : Who) (answer : Answer)
  | onBeginTrace
  | onWritingStatus
  | onActiveGpuUpdate (supported : Bool)
  | disconnect
  | destroy
deriving DecidableEq, Repr

section State
variable (api : Api) (s : State)

def State.runThread (who : Who) (answer : Answer) : Option State :=
  if ∀ other ∈ waitsFor (s.pcs who), s.finished other then
    (s.client.run api answer (s.pcs who)).map fun r =>
      let moved : State := { client := r.1, pcs := Function.update s.pcs who r.2 }
      match starts (s.pcs who) with
      | none => moved
      | some (thread, pc) => moved.jump thread pc
  else none

def State.duringTrace (state : ClientState) : Option State :=
  match s.pcs .capture with
  | .tracing _ _ => some { s with client := s.client.setState state }
  | _ => none

-- One call after the other in the order of the source, on the connection's thread.
def State.disconnect : Option State :=
  if s.finished .driver then
    match s.client.phase with
    | .created | .failed | .disconnected => none
    | .bound => some { s with client := { s.client with phase := .stoppingPolling }.record .disconnects }
    | .stoppingPolling =>
        if s.finished .poller then some { s with client := { s.client with polling := false, phase := .aborting } }
        else none
    | .aborting =>
        if s.client.abortLocked then none else some { s with client := { s.client with phase := .joining } }
    | .joining =>
        if s.finished .capture then some { s with client := { s.client with captureJoinable := false, phase := .joined } }
        else none
    | .joined =>
        some { s with client := ({ s.client with phase := .disconnected }.setState .done).record .disconnected }
  else none

-- The client's destruction only cancels the timer here.
def State.next (s : State) : Action → Option State
  | .initializeClient accepted =>
      if s.client.phase = .created then
        some { s with client :=
          if accepted then { s.client with phase := .bound } else { s.client with phase := .failed }.setState .error }
      else none
  | .handleDriverState state mode =>
      if s.client.phase = .bound ∧ s.finished .driver then
        some (if state = .postDeviceInit then s.jump .driver (.startPolling mode) else s)
      else none
  | .call id call =>
      if s.client.phase = .bound ∧ s.finished (.caller id) then some (s.jump (.caller id) (call.entry api)) else none
  | .run who answer => s.runThread api who answer
  | .onBeginTrace => s.duringTrace .capturing
  | .onWritingStatus => s.duringTrace .dumping
  | .onActiveGpuUpdate supported =>
      if s.client.polling ∧ s.finished .poller then
        some ({ s with client := { s.client with gpuSupported := supported } }.jump .poller .checkGpu)
      else none
  | .disconnect => s.disconnect
  | .destroy =>
      if s.client.phase = .disconnected ∨ s.client.phase = .failed then
        some { s with client := { s.client with timerCancelled := true } }
      else none

end State

def legacyClient (api : Api) (gpuSupported : Bool) : Machine State Action :=
  ⟨⟨⟨.idle, .created, gpuSupported, false, false, false, false, false, []⟩, fun _ => .outside⟩, State.next api⟩

end RadeonPanel.Rgp.Legacy

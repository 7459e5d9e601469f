import RadeonPanel.Cli.ProfilingParams
import RadeonPanel.Spm.AppendOutcome
import RadeonPanel.Ubertrace.Outcome

set_option autoImplicit false

namespace RadeonPanel.Rgp

open Interleaving RadeonPanel.Ubertrace
open Legacy (RgpCaptureMode isComputeApi getRgpCaptureMode)

-- A GPU is looked up by its name, and nothing else of it is used here.
structure RgpTraceSourceConfigPrivate where
  config : Cli.RgpTraceSourceConfig
  spmSupportedGpus : List String
deriving DecidableEq, Repr

def doesGpuSupportsSpm (supportedGpus : List String) (gpu : String) : Bool := gpu ∈ supportedGpus

structure RgpUbertraceClient where
  user : UbertraceUserId
  api : Api
  additionalChunkWriter : Bool
deriving DecidableEq, Repr

-- The name of the active GPU, whether RGP supports it, and what the counter
-- handler answers the query for it.
structure GpuAnswers where
  gpu : String
  isGpuSupportedForRgp : Bool
  querySpmCounters : Ubertrace.Result
deriving DecidableEq, Repr

namespace RgpUbertraceClient

def supportsCaptureMode (api : Api) (mode : UInt32) : Bool :=
  let rgpMode := getRgpCaptureMode mode api
  if isComputeApi api then rgpMode = .dispatch else rgpMode = .frame || rgpMode = .draw || rgpMode = .dispatch

-- Whether the capture is given a completion function, or the failed query's result.
def getGpuPerfConfig (config : RgpTraceSourceConfigPrivate) (gpu : String) (querySpmCounters : Ubertrace.Result) :
    Except Ubertrace.Result Bool :=
  if !config.config.enableSpmCounters || !doesGpuSupportsSpm config.spmSupportedGpus gpu then .ok false
  else if querySpmCounters ≠ .success then .error .failure
  else .ok true

def captureSources (singleTokenSqtt : Bool) : List UberTraceSource :=
  (["asicinfo", "apiinfo", "clockcalibration", "codeobject", "gpuperfexp", "queuetimings", "traceconfig"] ++
    if singleTokenSqtt then ["stringtable", "usermarkerhist", "sqttinstrumentation"] else []).map .mk

def generateCaptureConfig (c : RgpUbertraceClient) (config : RgpTraceSourceConfigPrivate) (captureMode : UInt32)
    (captureType : UberTraceCaptureType) (a : GpuAnswers) : Except Ubertrace.Result UbertraceCaptureConfig :=
  if !supportsCaptureMode c.api (getRgpCaptureMode captureMode c.api) then .error .unsupported
  else if !a.isGpuSupportedForRgp then .error .unsupported
  else
    match getGpuPerfConfig config a.gpu a.querySpmCounters with
    | .error result => .error result
    | .ok onCompleted => .ok
        { captureType := captureType
          ubertraceConfig := ⟨captureSources config.config.enableSingleTokenSqtt, none⟩
          onCompleted := onCompleted
          additionalChunkWriter := c.additionalChunkWriter }

end RgpUbertraceClient

-- Where the completion function of a capture is. It runs on the polling thread.
inductive OnCompletedPc where
  | notCalled
  | processing
  | returned
deriving DecidableEq, Repr

-- A TraceCompleted of the trace source, with what the processing had to work on.
structure SpmReport where
  thread : Nat
  status : TraceCompletionStatus
  path : String
  answers : Spm.Answers
  chunks : List Spm.RdfChunk

-- The orchestrator of one connection with the RGP client as one of its users, the
-- source's configuration and its flag to abort the processing. `registered` says
-- whether the trace source has registered its completion event. `requested` is
-- the counter setting that a caller's last request has read, `begun` that of the
-- request which started the polling thread.
structure SpmRun where
  orch : Ubertrace.State
  config : RgpTraceSourceConfigPrivate
  registered : Bool
  abortSpmProcessing : Bool
  requested : Nat → Bool
  begun : Nat → Bool
  onCompleted : Nat → OnCompletedPc
  log : List SpmReport

inductive SpmAction where
  | orchestrator (a : Ubertrace.Action)
  | requestBeginTrace (caller : Nat) (captureMode : UInt32) (captureType : UberTraceCaptureType) (a : GpuAnswers)
  | configure (config : RgpTraceSourceConfigPrivate)
  | registerSpmTraceListener (registered : Bool)
  | abortSpmProcessing (abort : Bool)
  | onCompleted (thread : Nat)
  | generated (thread : Nat) (answers : Spm.Answers) (chunks : List Spm.RdfChunk)

def generateDerivedCounters (a : Spm.Answers) (trace : Spm.Trace) : Ubertrace.Result :=
  if (Spm.appendChunkDerivedSpmDb a trace).status = .ok then .success else .failure

def completionStatus (counterResult : Ubertrace.Result) (abortSpmProcessing : Bool) : TraceCompletionStatus :=
  if counterResult ≠ .success then if abortSpmProcessing then .aborted else .error else .completed

namespace SpmRun
variable (c : RgpUbertraceClient) (s : SpmRun)

-- The orchestrator's steps that the client leaves to it: not the requests of its
-- own user, and not the return of a completion function that still runs.
def leaves : Ubertrace.Action → Bool
  | .call _ (.requestBeginTrace user _) => user ≠ c.user
  | .poller thread _ =>
      ((s.orch.pollers thread).owner = c.user && (s.orch.pollers thread).pc.handsOver) →
        s.onCompleted thread = .returned
  | _ => true

def begunAfter (orch : Ubertrace.State) : Ubertrace.Action → Nat → Bool
  | .caller id _ =>
      if orch.threads = s.orch.threads then s.begun
      else Function.update s.begun s.orch.threads (s.requested id)
  | _ => s.begun

def step : SpmAction → Option SpmRun
  | .orchestrator a =>
      if s.leaves c a then
        (Ubertrace.step s.orch a).map fun orch => { s with orch := orch, begun := s.begunAfter orch a }
      else none
  | .requestBeginTrace caller captureMode captureType a =>
      match c.generateCaptureConfig s.config captureMode captureType a with
      | .error _ => some s
      | .ok config =>
          (Ubertrace.step s.orch (.call caller (.requestBeginTrace c.user config))).map fun orch =>
            { s with
              orch := orch
              requested := Function.update s.requested caller s.config.config.enableSpmCounters }
  | .configure config => some { s with config := config }
  | .registerSpmTraceListener registered => some { s with registered := registered }
  | .abortSpmProcessing abort => some { s with abortSpmProcessing := abort }
  | .onCompleted thread =>
      if (s.orch.pollers thread).owner = c.user ∧ (s.orch.pollers thread).pc.handsOver = true ∧
          s.onCompleted thread = .notCalled then
        if s.config.config.enableSpmCounters && s.registered then
          some { s with
            abortSpmProcessing := false
            onCompleted := Function.update s.onCompleted thread .processing }
        else some { s with onCompleted := Function.update s.onCompleted thread .returned }
      else none
  | .generated thread answers chunks =>
      if (s.orch.pollers thread).owner = c.user ∧ (s.orch.pollers thread).pc.handsOver = true ∧
          s.onCompleted thread = .processing then
        let status := completionStatus (generateDerivedCounters answers (.rdf chunks)) s.abortSpmProcessing
        some { s with
          onCompleted := Function.update s.onCompleted thread .returned
          log := ⟨thread, status, (s.orch.pollers thread).path, answers, chunks⟩ :: s.log }
      else none

def initial (features : UbertraceFeatures) (config : RgpTraceSourceConfigPrivate) : SpmRun where
  orch := .initial features
  config := config
  registered := false
  abortSpmProcessing := false
  requested _ := false
  begun _ := false
  onCompleted _ := .notCalled
  log := []

end SpmRun

def spmCaptures (c : RgpUbertraceClient) (features : UbertraceFeatures) (config : RgpTraceSourceConfigPrivate) :
    Machine SpmRun SpmAction :=
  ⟨.initial features config, SpmRun.step c⟩

end RadeonPanel.Rgp

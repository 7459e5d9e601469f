import Mathlib.Logic.Basic

set_option autoImplicit false

namespace RadeonPanel.Ubertrace

abbrev UbertraceUserId := UInt32
def invalidUbertraceUserId : UbertraceUserId := 0

-- Ordered as in the source: the maximum over several clients is the stage of
-- their trace source.
inductive ClientState where
  | disabled
  | error
  | done
  | busy
  | idle
  | waitingToBeginCapture
  | capturing
  | postProcessing
  | dumping
deriving DecidableEq, Repr

def isCapturing : ClientState → Bool
  | .waitingToBeginCapture | .capturing | .dumping | .postProcessing => true
  | _ => false

def ClientState.inCapture : ClientState → Bool
  | .capturing | .dumping | .postProcessing => true
  | _ => false

-- For an auto capture the user stays done, a manual one returns to idle.
def ClientState.finalState (isAutoCapture : Bool) : ClientState := if isAutoCapture then .done else .idle

theorem final_state_settled (isAutoCapture : Bool) : (ClientState.finalState isAutoCapture).inCapture = false := by
  cases isAutoCapture <;> rfl

inductive Result where
  | success
  | failure
  | unsupported
  | notFound
  | executableNotFound
  | notReady
deriving DecidableEq, Repr

-- The driver's codes that the trace library tells apart; every other code is `other`.
inductive DdResult where
  | success
  | genericNotReady
  | commonUnsupported
  | other (code : Nat)
deriving DecidableEq, Repr

-- The stations of a driver's start-up in the order of the enumeration, which is
-- the order the source compares them in. A map entry starts as `unknown`.
inductive DdDriverState where
  | unknown
  | platformInit
  | deviceInit
  | postDeviceInit
  | running
deriving DecidableEq, Repr

def DdDriverState.value : DdDriverState → Nat
  | .unknown => 0
  | .platformInit => 1
  | .deviceInit => 2
  | .postDeviceInit => 3
  | .running => 4

inductive TraceCompletionStatus where
  | unknown
  | completed
  | needProcessing
  | error
  | aborted
deriving DecidableEq, Repr

structure UbertraceFeatures where
  useNewNotReadyCode : Bool
  cancelTraceSupported : Bool
deriving DecidableEq, Repr

def UbertraceFeatures.default : UbertraceFeatures := ⟨false, false⟩

def UbertraceFeatures.getTraceReadyCode (features : UbertraceFeatures) : DdResult :=
  if features.useNewNotReadyCode then .genericNotReady else .commonUnsupported

theorem trace_ready_code_not_success (features : UbertraceFeatures) :
    features.getTraceReadyCode ≠ .success := by
  unfold UbertraceFeatures.getTraceReadyCode
  split <;> simp

inductive UberTraceCaptureType where
  | normal
  | autoCapture
  | delayedAutoCapture
deriving DecidableEq, Repr

-- Source and parameter contents only reach the serializer.
structure UberTraceSource where
  name : String
deriving DecidableEq, Repr

structure UberTraceGlobalParams where
  enableSingleTokenSqttWrite : Bool
deriving DecidableEq, Repr

structure UberTraceConfig where
  sources : List UberTraceSource
  globalParams : Option UberTraceGlobalParams
deriving DecidableEq, Repr

-- `onCompleted` and `additionalChunkWriter` say whether the capture brings the
-- function or the object; what they do is outside the orchestrator. The three
-- hooks of the source's capture dependencies are always set by its only caller.
structure UbertraceCaptureConfig where
  captureType : UberTraceCaptureType
  ubertraceConfig : UberTraceConfig
  onCompleted : Bool
  additionalChunkWriter : Bool
deriving DecidableEq, Repr

def UbertraceCaptureConfig.isAutoCapture (config : UbertraceCaptureConfig) : Bool :=
  config.captureType ≠ .normal

end RadeonPanel.Ubertrace

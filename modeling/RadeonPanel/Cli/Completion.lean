import RadeonPanel.CaptureApi.DetailedStages

set_option autoImplicit false

namespace RadeonPanel.Cli

open RadeonPanel.CaptureApi

inductive RdpCaptureResult where
  | success
  | notReady
  | unknown
  | failure
  | unsupported
  | notFound
  | aborted
  | invalidParams
  | versionMismatch
deriving DecidableEq, Repr

inductive CaptureMode where
  | profiling
  | raytracing
  | memoryTrace
  | crashAnalysis
  | clocks
deriving DecidableEq, Repr

-- `stage < 0`
def isNegative : RdpCaptureFeatureStage → Bool
  | .disabled | .disabledFromError | .hardwareUnsupported | .osUnsupported | .driverUnsupported | .apiUnsupported => true
  | _ => false

-- What the callbacks and the main thread share.
structure CaptureCli where
  captureComplete : Bool
  interrupted : Bool
  captureSuccess : Bool
  captureFailed : Bool
  lastFailureResult : RdpCaptureResult
  autoCaptureTimedOut : Bool
  traceData : List UInt8
deriving DecidableEq, Repr

namespace CaptureCli

def created : CaptureCli := ⟨false, false, false, false, .success, false, []⟩

-- The two callbacks hold `g_output_mutex` throughout.
def traceFinished (cli : CaptureCli) (isAutoCaptureMode : Bool) (result : RdpCaptureResult) (data : List UInt8) :
    CaptureCli :=
  if cli.autoCaptureTimedOut then cli
  else if result = .success then
    { cli with
      captureSuccess := true
      traceData := if data.isEmpty then cli.traceData else data
      captureComplete := true }
  else if cli.captureSuccess then cli
  else
    let failed := { cli with lastFailureResult := result, captureFailed := true }
    if isAutoCaptureMode then failed else { failed with captureSuccess := false, captureComplete := true }

def statusChanged (cli : CaptureCli) (isAutoCaptureMode : Bool) (newStage : RdpCaptureDetailedStage) : CaptureCli :=
  if !cli.captureComplete && isAutoCaptureMode && newStage = .readyForCapture then { cli with captureFailed := false }
  else cli

def interrupt (cli : CaptureCli) : CaptureCli := { cli with interrupted := true, captureComplete := true }

-- Where the save step writes a file.
def hasTrace (cli : CaptureCli) : Bool := cli.captureSuccess && !cli.traceData.isEmpty

end CaptureCli

end RadeonPanel.Cli

import RadeonPanel.Profiling.ViewModel

set_option autoImplicit false

namespace RadeonPanel.TraceSource

open Userdata Profiling

-- RgpTraceSourceConfig with the members that only the userdata view model and the
-- capture API write.
structure WholeRgpTraceSourceConfig extends RgpTraceSourceConfig where
  disableCaptureTimeout : Bool
  enableSpmCounters : Bool
  enableInstTracing : Bool
  enableLegacyCapture : Bool
  drawCount : UInt32
  enableSingleTokenSqtt : Bool
  enableExecPopTokens : Bool
deriving DecidableEq, Repr

def WholeRgpTraceSourceConfig.created : WholeRgpTraceSourceConfig where
  toRgpTraceSourceConfig := .created
  disableCaptureTimeout := false
  enableSpmCounters := true
  enableInstTracing := false
  enableLegacyCapture := false
  drawCount := 1
  enableSingleTokenSqtt := false
  enableExecPopTokens := false

def createdSummaryOptions : RgdSummaryOptions := ⟨false, false, [], false⟩

structure RgdTraceSourceConfig where
  generateTextSummary : Bool
  generateJsonSummary : Bool
  enableAdvancedCrash : Bool
  disableSerializeMemOps : Bool
  disableSerializeAluOps : Bool
  hardwareCrashAnalysisSupported : Bool
  collectWaveSgprs : Bool
  collectWaveVgprs : Bool
  summaryOptions : RgdSummaryOptions
deriving DecidableEq, Repr

def RgdTraceSourceConfig.created : RgdTraceSourceConfig where
  generateTextSummary := false
  generateJsonSummary := false
  enableAdvancedCrash := true
  disableSerializeMemOps := false
  disableSerializeAluOps := false
  hardwareCrashAnalysisSupported := false
  collectWaveSgprs := false
  collectWaveVgprs := false
  summaryOptions := createdSummaryOptions

end RadeonPanel.TraceSource

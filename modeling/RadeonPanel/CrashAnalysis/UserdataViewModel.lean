import RadeonPanel.Userdata.BaseViewModel

set_option autoImplicit false

namespace RadeonPanel.CrashAnalysis

open Userdata

structure Environment where
  printJson : JsonValue → Text
  parseJson : Text → Option JsonValue
  defaultOutputPath : String

structure CrashAnalysisUserdataViewModel extends BaseUserdataViewModel .rgd where
  supportEventReceived : Bool
  hardwareCrashAnalysisSupported : Bool
  gprCaptureSupported : Bool

variable (env : Environment)

def initializeDefaults (userdata : RgdUserdata) : RgdUserdata :=
  { userdata with
    outputPath := env.defaultOutputPath
    generateTextSummary := true
    generateJsonSummary := false
    summaryOptions :=
      { userdata.summaryOptions with
        showMarkerSource := false
        expandMarkers := false
        pdbSearchPaths := []
        pdbIncludeSubfolders := false }
    enableAdvancedCrash := true
    disableSerializeMemOps := false
    disableSerializeAluOps := false
    collectWaveSgprs := false
    collectWaveVgprs := false }

namespace CrashAnalysisUserdataViewModel
variable (vm : CrashAnalysisUserdataViewModel)

def withBase (base : BaseUserdataViewModel .rgd) : CrashAnalysisUserdataViewModel :=
  { vm with toBaseUserdataViewModel := base }

-- OnUserdataChanged only tells the view.
def initializeDefaultsAndApply : CrashAnalysisUserdataViewModel × List Text :=
  let applied := vm.toBaseUserdataViewModel.initializeDefaultsAndApply env.printJson (initializeDefaults env)
  (vm.withBase applied.viewModel, applied.texts)

-- Nothing is checked in what is read.
def loadSerializedData (serializedData : Text) : Bool × CrashAnalysisUserdataViewModel × List Text :=
  let loaded := vm.toBaseUserdataViewModel.loadSerializedData env.printJson env.parseJson env.defaultOutputPath id
    (initializeDefaults env) serializedData
  (loaded.1, vm.withBase loaded.2.viewModel, loaded.2.texts)

end CrashAnalysisUserdataViewModel

end RadeonPanel.CrashAnalysis

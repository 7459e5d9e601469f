import RadeonPanel.CrashAnalysis.UserdataViewModel
import RadeonPanel.Profiling.ConfigFollows

set_option autoImplicit false

namespace RadeonPanel.Modules

open Userdata Interleaving
open CrashAnalysis (CrashAnalysisUserdataViewModel)
open Profiling (ProfilingUserdataViewModel)
open Raytracing (RaytracingUserdataViewModel)

-- Whatever the two states were, they are reset to one userdata, of one text, and a
-- second reset changes nothing.
structure ForgetsPast {VM : Type} (source : Source) (printJson : JsonValue → Text) (userdata : VM → source.UserdataType)
    (reset : VM → VM) (s t : VM) : Prop where
  same : userdata (reset s) = userdata (reset t)
  text : serialize source printJson (userdata (reset s)) = serialize source printJson (userdata (reset t))
  once : reset (reset s) = reset s

-- What the defaults of the two modules leave as it was.
structure ProfilingRemains where
  shouldDelayCapture : Bool
  captureDelay : UInt32
  drawCount : UInt32
  enableShaderInstrumentation : Bool
  defaultCaptureModes : CaptureModeSet

structure RaytracingRemains where
  shouldDelayCapture : Bool
  captureDelay : UInt32
  enableMarkerCapture : Bool
  markerBeginString : String
  markerEndString : String
deriving DecidableEq

def profilingRemains (vm : ProfilingUserdataViewModel) : ProfilingRemains where
  shouldDelayCapture := vm.shouldDelayCapture
  captureDelay := vm.captureDelay
  drawCount := vm.userdata.drawCount
  enableShaderInstrumentation := vm.userdata.enableShaderInstrumentation
  defaultCaptureModes := vm.userdata.defaultCaptureModes

def raytracingRemains (vm : RaytracingUserdataViewModel) : RaytracingRemains where
  shouldDelayCapture := vm.shouldDelayCapture
  captureDelay := vm.captureDelay
  enableMarkerCapture := vm.userdata.enableMarkerCapture
  markerBeginString := vm.userdata.markerBeginString
  markerEndString := vm.userdata.markerEndString

section Base
variable {source : Source} (printJson : JsonValue → Text) (vm : BaseUserdataViewModel source)
  (initializeDefaults : source.UserdataType → source.UserdataType)

theorem reset_userdata :
    (vm.initializeDefaultsAndApply printJson initializeDefaults).viewModel.userdata = initializeDefaults vm.userdata :=
  (vm.update_spec printJson fun userdata _ => initializeDefaults userdata).1

-- Defaults that stay where they are leave nothing to apply.
theorem reset_again (stays : initializeDefaults (initializeDefaults vm.userdata) = initializeDefaults vm.userdata) :
    (vm.initializeDefaultsAndApply printJson initializeDefaults).viewModel.initializeDefaultsAndApply printJson
      initializeDefaults = ⟨(vm.initializeDefaultsAndApply printJson initializeDefaults).viewModel, []⟩ := by
  obtain ⟨made, synced⟩ := vm.update_spec printJson fun userdata _ => initializeDefaults userdata
  have again : initializeDefaults (vm.initializeDefaultsAndApply printJson initializeDefaults).viewModel.userdata =
      (vm.initializeDefaultsAndApply printJson initializeDefaults).viewModel.userdata := by
    rw [reset_userdata, stays]
  exact BaseUserdataViewModel.update_unchanged printJson _ again synced

-- A reset of the base view model with what the subclass does around it.
theorem reset_twice {VM : Type} (base : VM → BaseUserdataViewModel source) (changed : VM → BaseUserdataViewModel source → VM)
    (defaults : VM → source.UserdataType → source.UserdataType) (reset : VM → VM)
    (resets : ∀ vm, reset vm = changed vm ((base vm).initializeDefaultsAndApply printJson (defaults vm)).viewModel)
    (takes : ∀ vm applied, base (changed vm applied) = applied)
    (settles : ∀ vm applied, changed (changed vm applied) applied = changed vm applied) (vm : VM)
    (same : defaults (reset vm) = defaults vm)
    (stays : defaults vm (defaults vm (base vm).userdata) = defaults vm (base vm).userdata) :
    reset (reset vm) = reset vm := by
  have again := reset_again printJson (base vm) (defaults vm) stays
  rw [resets (reset vm), same, resets vm, takes, again, settles]

end Base

section Modules

theorem profiling_reset_userdata (env : Profiling.ModuleEnvironment) (vm : ProfilingUserdataViewModel) :
    (vm.initializeDefaultsAndApply env).1.userdata = Profiling.initializeDefaults env vm vm.userdata :=
  reset_userdata env.printJson vm.toBaseUserdataViewModel (Profiling.initializeDefaults env vm)

theorem profiling_reset_again (env : Profiling.ModuleEnvironment) (vm : ProfilingUserdataViewModel) :
    ((vm.initializeDefaultsAndApply env).1.initializeDefaultsAndApply env).1 = (vm.initializeDefaultsAndApply env).1 := by
  have made := profiling_reset_userdata env vm
  have delays : (vm.initializeDefaultsAndApply env).1.shouldDelayCapture = vm.shouldDelayCapture ∧
      (vm.initializeDefaultsAndApply env).1.captureDelay = vm.captureDelay :=
    ⟨congrArg (fun userdata : RgpUserdata => userdata.shouldDelayCapture) made,
      congrArg (fun userdata : RgpUserdata => userdata.captureDelay) made⟩
  have defaults : Profiling.initializeDefaults env (vm.initializeDefaultsAndApply env).1 =
      Profiling.initializeDefaults env vm := by
    funext userdata
    simp only [Profiling.initializeDefaults, delays]
  exact reset_twice env.printJson (fun vm => (vm.toBaseUserdataViewModel : BaseUserdataViewModel .rgp))
    (fun vm applied => Profiling.onUserdataChanged (vm.withBase applied)) (Profiling.initializeDefaults env)
    (fun vm => (vm.initializeDefaultsAndApply env).1) (fun vm => by rw [ProfilingUserdataViewModel.initializeDefaultsAndApply])
    (fun _ _ => rfl) (fun _ _ => rfl) vm defaults rfl

theorem raytracing_reset_userdata (env : Raytracing.Environment) (vm : RaytracingUserdataViewModel) :
    (vm.initializeDefaultsAndApply env).1.userdata = Raytracing.initializeDefaults env vm vm.userdata :=
  reset_userdata env.printJson vm.toBaseUserdataViewModel (Raytracing.initializeDefaults env vm)

theorem raytracing_reset_again (env : Raytracing.Environment) (vm : RaytracingUserdataViewModel) :
    ((vm.initializeDefaultsAndApply env).1.initializeDefaultsAndApply env).1 = (vm.initializeDefaultsAndApply env).1 := by
  have made := raytracing_reset_userdata env vm
  have delays : (vm.initializeDefaultsAndApply env).1.shouldDelayCapture = vm.shouldDelayCapture ∧
      (vm.initializeDefaultsAndApply env).1.captureDelay = vm.captureDelay :=
    ⟨congrArg (fun userdata : RraUserdata => userdata.shouldDelayCapture) made,
      congrArg (fun userdata : RraUserdata => userdata.captureDelay) made⟩
  have defaults : Raytracing.initializeDefaults env (vm.initializeDefaultsAndApply env).1 =
      Raytracing.initializeDefaults env vm := by
    funext userdata
    simp only [Raytracing.initializeDefaults, delays]
  exact reset_twice env.printJson (fun vm => (vm.toBaseUserdataViewModel : BaseUserdataViewModel .rra))
    (fun vm applied => Raytracing.onUserdataChanged (vm.withBase applied)) (Raytracing.initializeDefaults env)
    (fun vm => (vm.initializeDefaultsAndApply env).1) (fun vm => by rw [RaytracingUserdataViewModel.initializeDefaultsAndApply])
    (fun _ _ => rfl) (fun _ _ => rfl) vm defaults rfl

theorem crash_analysis_reset_userdata (env : CrashAnalysis.Environment) (vm : CrashAnalysisUserdataViewModel) :
    (vm.initializeDefaultsAndApply env).1.userdata = CrashAnalysis.initializeDefaults env vm.userdata :=
  reset_userdata env.printJson vm.toBaseUserdataViewModel (CrashAnalysis.initializeDefaults env)

theorem crash_analysis_reset_again (env : CrashAnalysis.Environment) (vm : CrashAnalysisUserdataViewModel) :
    ((vm.initializeDefaultsAndApply env).1.initializeDefaultsAndApply env).1 = (vm.initializeDefaultsAndApply env).1 :=
  reset_twice env.printJson (fun vm => (vm.toBaseUserdataViewModel : BaseUserdataViewModel .rgd))
    (fun vm applied => vm.withBase applied) (fun _ => CrashAnalysis.initializeDefaults env)
    (fun vm => (vm.initializeDefaultsAndApply env).1)
    (fun vm => by rw [CrashAnalysisUserdataViewModel.initializeDefaultsAndApply]) (fun _ _ => rfl) (fun _ _ => rfl) vm rfl rfl

theorem profiling_defaults_iff (env : Profiling.ModuleEnvironment) (s t : ProfilingUserdataViewModel) :
    Profiling.initializeDefaults env s s.userdata = Profiling.initializeDefaults env t t.userdata ↔
      profilingRemains s = profilingRemains t := by
  simp only [Profiling.initializeDefaults, profilingRemains, RgpUserdata.mk.injEq, TriggerableUserdata.mk.injEq,
    ProfilingRemains.mk.injEq]
  tauto

theorem raytracing_defaults_iff (env : Raytracing.Environment) (s t : RaytracingUserdataViewModel) :
    Raytracing.initializeDefaults env s s.userdata = Raytracing.initializeDefaults env t t.userdata ↔
      raytracingRemains s = raytracingRemains t := by
  simp only [Raytracing.initializeDefaults, raytracingRemains, RraUserdata.mk.injEq, TriggerableUserdata.mk.injEq,
    RaytracingRemains.mk.injEq]
  tauto

-- Every setting of crash analysis has a default.
theorem crash_analysis_defaults (env : CrashAnalysis.Environment) (userdata other : RgdUserdata) :
    CrashAnalysis.initializeDefaults env userdata = CrashAnalysis.initializeDefaults env other := rfl

theorem forgets_iff {VM : Type} (source : Source) (printJson : JsonValue → Text) (userdata : VM → source.UserdataType)
    (reset : VM → VM) (once : ∀ s, reset (reset s) = reset s) (s t : VM) :
    ForgetsPast source printJson userdata reset s t ↔ userdata (reset s) = userdata (reset t) :=
  ⟨fun forgets => forgets.same, fun same => ⟨same, congrArg (serialize source printJson) same, once s⟩⟩

theorem reset_forgets_iff (profiling : Profiling.ModuleEnvironment) (raytracing : Raytracing.Environment)
    (crashAnalysis : CrashAnalysis.Environment) :
    (∀ s t : ProfilingUserdataViewModel,
      ForgetsPast .rgp profiling.printJson (fun vm => vm.userdata) (fun vm => (vm.initializeDefaultsAndApply profiling).1)
        s t ↔ profilingRemains s = profilingRemains t) ∧
    (∀ s t : RaytracingUserdataViewModel,
      ForgetsPast .rra raytracing.printJson (fun vm => vm.userdata) (fun vm => (vm.initializeDefaultsAndApply raytracing).1)
        s t ↔ raytracingRemains s = raytracingRemains t) ∧
    ∀ s t : CrashAnalysisUserdataViewModel,
      ForgetsPast .rgd crashAnalysis.printJson (fun vm => vm.userdata)
        (fun vm => (vm.initializeDefaultsAndApply crashAnalysis).1) s t := by
  refine ⟨fun s t => ?_, fun s t => ?_, fun s t => ?_⟩
  · rw [forgets_iff .rgp profiling.printJson _ _ (profiling_reset_again profiling), profiling_reset_userdata,
      profiling_reset_userdata]
    exact profiling_defaults_iff profiling s t
  · rw [forgets_iff .rra raytracing.printJson _ _ (raytracing_reset_again raytracing), raytracing_reset_userdata,
      raytracing_reset_userdata]
    exact raytracing_defaults_iff raytracing s t
  · rw [forgets_iff .rgd crashAnalysis.printJson _ _ (crash_analysis_reset_again crashAnalysis),
      crash_analysis_reset_userdata, crash_analysis_reset_userdata]
    exact crash_analysis_defaults crashAnalysis s.userdata t.userdata

end Modules

section Remaining
open Profiling

-- The number of draws stays what it was set to.
theorem reset_keeps_draw_count :
    ¬ ∀ (env : ModuleEnvironment) (s t : Configured), Reachable (profilingOperations env) s →
      Reachable (profilingOperations env) t →
        ForgetsPast .rgp env.printJson (fun vm : ProfilingUserdataViewModel => vm.userdata)
          (fun vm => (vm.initializeDefaultsAndApply env).1) s.module.viewModel t.module.viewModel := by
  intro claimed
  have drawn : Reachable (profilingOperations (readingEnvironment emptyText (.object []))) _ :=
    .step _ _ (.handle (.drawCountChanged 7)) .init trivial rfl
  have forgets := claimed _ _ _ .init drawn
  have kept := congrArg (fun userdata : RgpUserdata => userdata.drawCount) forgets.same
  have differ : (1 : UInt32) = 7 := kept
  exact absurd differ (by decide)

end Remaining

end RadeonPanel.Modules

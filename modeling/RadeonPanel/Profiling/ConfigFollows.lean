import RadeonPanel.Base.Runs
import RadeonPanel.Profiling.UserdataViewModel

set_option autoImplicit false

namespace RadeonPanel.Profiling

open Userdata Interleaving
open TraceSource (WholeRgpTraceSourceConfig)

inductive UserdataOperation where
  | loadSerializedData (data : Text)
  | resetToDefaults
  | handle (handler : UserdataHandler)
  | handlePrelaunchSettingsEditableChanged (editable : Bool)

def perform (env : ModuleEnvironment) (m : ProfilingModule) : UserdataOperation → ProfilingModule
  | .loadSerializedData data => (m.loadSerializedData env data).2
  | .resetToDefaults => m.resetToDefaults env
  | .handle handler => m.handle env handler
  | .handlePrelaunchSettingsEditableChanged editable => m.handlePrelaunchSettingsEditableChanged editable

-- The module, and whether anything has been done with it.
structure Configured where
  module : ProfilingModule
  operated : Bool

def profilingOperations (env : ModuleEnvironment) : Machine Configured UserdataOperation where
  init := ⟨.created env, false⟩
  step := fun s op => some ⟨perform env s.module op, true⟩

namespace ProfilingModule
variable (m : ProfilingModule)

-- Every field that ReceiveUserData assigns is what it makes of the current userdata.
def Derived : Prop := m.config = assignConfig m.viewModel.userdata m.config

def tokensAllowed : Bool := m.viewModel.userdata.enableShaderInstrumentation && m.viewModel.execPopTokensSupported

structure ConfigFollows : Prop where
  derived : m.Derived
  startsAtOne : 1 ≤ m.config.dispatchStartIndex ∧ 1 ≤ m.viewModel.userdata.dispatchStartIndex
  legacyOff : m.config.enableLegacyCapture = false
  tokens : m.config.enableExecPopTokens = m.tokensAllowed

end ProfilingModule

def Configured.Follows (s : Configured) : Prop := s.operated = true → s.module.ConfigFollows

namespace UserdataOperation
variable (env : ModuleEnvironment) (m : ProfilingModule)

-- The texts that are passed to the apply function, and the userdata they come from.
def printed : UserdataOperation → List Text
  | .loadSerializedData data =>
      if (readUserdata env.toEnvironment data).isSome then (m.viewModel.loadSerializedData env data).2.2 else []
  | .resetToDefaults => (m.viewModel.initializeDefaultsAndApply env).2
  | .handle handler =>
      let members := m.viewModel.handleMembers handler
      (members.performUpdate env.printJson (members.handleAction handler)).texts
  | .handlePrelaunchSettingsEditableChanged _ => []

def made : UserdataOperation → RgpUserdata
  | .loadSerializedData data =>
      if (readUserdata env.toEnvironment data).isSome then (m.viewModel.loadSerializedData env data).2.1.userdata
      else m.viewModel.userdata
  | .resetToDefaults => initializeDefaults env m.viewModel m.viewModel.userdata
  | .handle handler =>
      (m.viewModel.handleMembers handler).handleAction handler m.viewModel.userdata m.viewModel.cachedUserdata
  | .handlePrelaunchSettingsEditableChanged _ => m.viewModel.userdata

-- The settings once a handler has written its own.
def written : UserdataOperation → WholeRgpTraceSourceConfig
  | .handle handler => (m.viewModel.handleMembers handler).handleConfig handler m.viewModel.userdata m.config
  | _ => m.config

-- The JSON library reads what it has printed, and stops at the byte that ends a string.
def readsBack : UserdataOperation → Prop
  | .loadSerializedData data =>
      env.parseJson (data ++ [0]) = env.parseJson data ∧
        ∀ text ∈ (loadSerializedData data).printed env m,
          readUserdata env.toEnvironment text = some ((loadSerializedData data).made env m)
  | op => ∀ text ∈ op.printed env m, readUserdata env.toEnvironment text = some (op.made env m)

-- A text that is read, or userdata that differ from what was last applied.
def delivers : UserdataOperation → Bool
  | .loadSerializedData data => (readUserdata env.toEnvironment data).isSome
  | .handlePrelaunchSettingsEditableChanged _ => false
  | op => !RgpUserdata.equals (op.made env m) m.viewModel.cachedUserdata

-- What keeps the tokens with the shader instrumentation, and legacy captures off.
def keepsCoupling : UserdataOperation → Prop
  | .loadSerializedData data => ∀ userdata, readUserdata env.toEnvironment data = some userdata →
      userdata.enableExecPopTokens = (userdata.enableShaderInstrumentation && m.viewModel.execPopTokensSupported)
  | .resetToDefaults => m.tokensAllowed = false
  | .handle (.legacyCaptureEnabledChanged enabled) => enabled = false
  | .handle (.execPopTokensEnabledChanged enabled) => enabled = m.tokensAllowed
  | _ => True

end UserdataOperation

def followsAfter (env : ModuleEnvironment) (s : Configured) (op : UserdataOperation) : Prop :=
  (s.operated = true ∨ op.delivers env s.module = true) ∧ op.keepsCoupling env s.module

section Config
variable (userdata other : RgpUserdata) (config : WholeRgpTraceSourceConfig)

theorem assign_again : assignConfig userdata (assignConfig other config) = assignConfig userdata config := rfl

theorem clamped_starts (dispatchStart : UInt32) : 1 ≤ clampDispatchStart dispatchStart := by
  unfold clampDispatchStart
  split
  · decide
  · rename_i large
    exact UInt32.not_lt.mp large

-- Equal userdata derive equal settings.
theorem equals_assign (same : RgpUserdata.equals userdata other = true) :
    assignConfig userdata config = assignConfig other config := by
  simp only [RgpUserdata.equals, Bool.and_eq_true, decide_eq_true_eq] at same
  simp only [assignConfig, same]

variable (vm : ProfilingUserdataViewModel) (handler : UserdataHandler) (cached : RgpUserdata)

-- A handler writes the values that the receivers would derive.
theorem handle_config_derived :
    vm.handleConfig handler userdata (assignConfig (vm.handleAction handler userdata cached) config) =
      assignConfig (vm.handleAction handler userdata cached) config := by
  cases handler with
  | shaderInstrumentationEnabledChanged enabled sets => cases sets <;> rfl
  | _ => rfl

theorem assign_handle_config : assignConfig other (vm.handleConfig handler userdata config) = assignConfig other config := by
  cases handler with
  | shaderInstrumentationEnabledChanged enabled sets => cases sets <;> rfl
  | _ => rfl

theorem handle_config_limit :
    (vm.handleConfig handler userdata config).sqttMemoryLimit = config.sqttMemoryLimit := by
  cases handler with
  | shaderInstrumentationEnabledChanged enabled sets => cases sets <;> rfl
  | _ => rfl

end Config

section Delivery
variable (env : ModuleEnvironment) (m : ProfilingModule)

theorem serialize_view_model (text : Text) : (m.serializeData env text).viewModel = m.viewModel := by
  simp only [ProfilingModule.serializeData, ProfilingModule.viewModelReceiveUserData,
    ProfilingModule.userdataViewModelReceiveUserData]
  split <;> rfl

theorem serialize_read {text : Text} {userdata : RgpUserdata}
    (read : readUserdata env.toEnvironment text = some userdata) :
    (m.serializeData env text).config = assignConfig userdata m.config := by
  simp only [ProfilingModule.serializeData, ProfilingModule.viewModelReceiveUserData,
    ProfilingModule.userdataViewModelReceiveUserData, ProfilingViewModel.receiveUserData, read]
  rfl

theorem deliver_view_model (texts : List Text) : (ProfilingModule.deliver env m texts).viewModel = m.viewModel := by
  induction texts generalizing m with
  | nil => rfl
  | cons text rest ih => exact (ih (m.serializeData env text)).trans (serialize_view_model env m text)

theorem load_unread {data : Text} (unread : readUserdata env.toEnvironment data = none) :
    (m.loadSerializedData env data).2.config = m.config ∧ (m.loadSerializedData env data).2.viewModel = m.viewModel := by
  simp [ProfilingModule.loadSerializedData, ProfilingModule.viewModelReceiveUserData, ProfilingViewModel.receiveUserData,
    unread]

theorem load_read {data : Text} {userdata : RgpUserdata} (read : readUserdata env.toEnvironment data = some userdata) :
    (m.loadSerializedData env data).2 = ProfilingModule.deliver env
      { m.serializeData env data with viewModel := (m.viewModel.loadSerializedData env data).2.1 }
      (m.viewModel.loadSerializedData env data).2.2 := by
  have same := serialize_view_model env m data
  have first : (m.viewModelReceiveUserData env data).1 = true := by
    simp only [ProfilingModule.viewModelReceiveUserData, ProfilingViewModel.receiveUserData, read]
  have second : ((m.viewModelReceiveUserData env data).2.userdataViewModelReceiveUserData env data).1 = true := by
    simp only [ProfilingModule.userdataViewModelReceiveUserData, read]
  rw [ProfilingModule.serializeData] at same ⊢
  simp only [ProfilingModule.loadSerializedData, first, second, if_true, same]

-- What is read does not depend on what was there.
theorem read_fresh (path : String) (old other : RgpUserdata) (json : String → Option JsonValue) :
    readAll (rgpMaps path) old json = readAll (rgpMaps path) other json := by
  simp [readAll, rgpMaps, mapTriggerableUserdata, arr_property_read]

theorem load_validated {data : Text} {userdata : RgpUserdata} (vm : ProfilingUserdataViewModel)
    (read : readUserdata env.toEnvironment data = some userdata) (ends : env.parseJson (data ++ [0]) = env.parseJson data) :
    vm.loadSerializedData env data =
      (true, onUserdataChanged (vm.withBase ⟨validateData userdata, validateData userdata⟩),
        if RgpUserdata.equals userdata (validateData userdata) then []
        else [env.printJson (document .rgp (validateData userdata))]) := by
  have present : data ≠ [] := by
    rintro rfl
    cases read
  cases parsed : env.parseJson data with
  | none =>
      obtain ⟨byte, rest, rfl⟩ := List.exists_cons_of_ne_nil present
      simp [readUserdata, parse, parsed] at read
  | some json =>
      have first := parse_text .rgp env.parseJson data json env.defaultOutputPath blankUserdata present parsed
      have second := parse_text .rgp env.parseJson (data ++ [0]) json env.defaultOutputPath vm.cachedUserdata (by simp)
        (ends.trans parsed)
      rw [readUserdata, first] at read
      obtain rfl := Option.some.inj read
      have same := read_fresh env.defaultOutputPath vm.cachedUserdata blankUserdata json.member
      rw [show readAll (Source.map .rgp env.defaultOutputPath) vm.cachedUserdata json.member =
        readAll (Source.map .rgp env.defaultOutputPath) blankUserdata json.member from same] at second
      have loaded := vm.toBaseUserdataViewModel.load_parsed env.printJson env.parseJson env.defaultOutputPath validateData
        (initializeDefaults env vm) rfl second
      rw [ProfilingUserdataViewModel.loadSerializedData, loaded]
      rfl

-- One delivery at most, of the userdata that were made.
theorem deliver_config (made : RgpUserdata) (texts : List Text) (single : texts.length ≤ 1)
    (reads : ∀ text ∈ texts, readUserdata env.toEnvironment text = some made) :
    (ProfilingModule.deliver env m texts).config = if texts = [] then m.config else assignConfig made m.config := by
  cases texts with
  | nil => rfl
  | cons text rest =>
      have last : rest = [] := List.eq_nil_of_length_eq_zero (by simpa using single)
      subst last
      exact serialize_read env m (reads text (by simp))

-- What an update that changes something delivers, on top of what a handler has written.
theorem updated_config (written : WholeRgpTraceSourceConfig) (vm : ProfilingUserdataViewModel)
    (base : BaseUserdataViewModel .rgp) (action : RgpUserdata → RgpUserdata → RgpUserdata) {made : RgpUserdata}
    (makes : action base.userdata base.cachedUserdata = made)
    (differ : RgpUserdata.equals made base.cachedUserdata = false)
    (reads : ∀ text ∈ (base.performUpdate env.printJson action).texts, readUserdata env.toEnvironment text = some made) :
    (ProfilingModule.deliver env { m with config := written, viewModel := vm }
      (base.performUpdate env.printJson action).texts).config = assignConfig made written := by
  rw [base.update_changed env.printJson makes differ] at reads ⊢
  exact serialize_read env _ (reads _ (by simp))

theorem unchanged_texts (base : BaseUserdataViewModel .rgp) (action : RgpUserdata → RgpUserdata → RgpUserdata)
    (same : RgpUserdata.equals (action base.userdata base.cachedUserdata) base.cachedUserdata = true) :
    (base.performUpdate env.printJson action).texts = [] := by
  rw [base.update_unchanged env.printJson rfl same]

theorem handle_members_base (vm : ProfilingUserdataViewModel) (handler : UserdataHandler) :
    (vm.handleMembers handler).toBaseUserdataViewModel = vm.toBaseUserdataViewModel := by
  cases handler <;> rfl

theorem perform_view_model (op : UserdataOperation) :
    (perform env m op).viewModel.userdata = op.made env m ∧
      (perform env m op).viewModel.execPopTokensSupported =
        match op with
        | .handle (.traceSupportChanged args) => args.isExecPopTokensSupported
        | _ => m.viewModel.execPopTokensSupported := by
  cases op with
  | loadSerializedData data =>
      cases read : readUserdata env.toEnvironment data with
      | none =>
          rw [perform, (load_unread env m read).2, UserdataOperation.made, read]
          exact ⟨rfl, rfl⟩
      | some userdata =>
          rw [perform, load_read env m read, deliver_view_model, UserdataOperation.made, read]
          exact ⟨rfl, rfl⟩
  | resetToDefaults =>
      rw [perform, ProfilingModule.resetToDefaults, deliver_view_model]
      exact ⟨(BaseUserdataViewModel.update_spec env.printJson m.viewModel.toBaseUserdataViewModel _).1, rfl⟩
  | handle handler =>
      rw [perform, ProfilingModule.handle, deliver_view_model]
      refine ⟨?_, by cases handler <;> rfl⟩
      show (BaseUserdataViewModel.performUpdate env.printJson
        (m.viewModel.handleMembers handler).toBaseUserdataViewModel _).viewModel.userdata = _
      rw [handle_members_base]
      exact (BaseUserdataViewModel.update_spec env.printJson m.viewModel.toBaseUserdataViewModel _).1
  | handlePrelaunchSettingsEditableChanged editable => exact ⟨rfl, rfl⟩

theorem load_delivers {data : Text} (reads : (UserdataOperation.loadSerializedData data).readsBack env m)
    {userdata : RgpUserdata} (read : readUserdata env.toEnvironment data = some userdata) :
    (UserdataOperation.loadSerializedData data).made env m = validateData userdata ∧
      (perform env m (.loadSerializedData data)).config = assignConfig (validateData userdata) m.config := by
  have known : (readUserdata env.toEnvironment data).isSome = true := by rw [read, Option.isSome_some]
  obtain ⟨ends, back⟩ := reads
  have loaded := load_validated env m.viewModel read ends
  have made : (UserdataOperation.loadSerializedData data).made env m = validateData userdata := by
    refine (if_pos known).trans ?_
    rw [loaded]
    rfl
  refine ⟨made, ?_⟩
  have texts : (UserdataOperation.loadSerializedData data).printed env m =
      if RgpUserdata.equals userdata (validateData userdata) then []
      else [env.printJson (document .rgp (validateData userdata))] := by
    refine (if_pos known).trans ?_
    rw [loaded]
  rw [made, texts] at back
  rw [perform, load_read env m read, loaded, deliver_config env _ (validateData userdata) _ (by split <;> simp) back]
  have first : (m.serializeData env data).config = assignConfig userdata m.config := serialize_read env m read
  cases same : RgpUserdata.equals userdata (validateData userdata) with
  | true => exact first.trans (equals_assign userdata (validateData userdata) m.config same)
  | false =>
      show assignConfig (validateData userdata) (m.serializeData env data).config = _
      rw [first, assign_again]

-- Whatever is delivered, the settings are derived from it.
theorem delivered_derived (op : UserdataOperation) (reads : op.readsBack env m) (delivers : op.delivers env m = true) :
    (perform env m op).Derived := by
  rw [ProfilingModule.Derived, (perform_view_model env m op).1]
  cases op with
  | loadSerializedData data =>
      obtain ⟨userdata, read⟩ := Option.isSome_iff_exists.mp delivers
      obtain ⟨made, config⟩ := load_delivers env m reads read
      rw [config, made, assign_again]
  | resetToDefaults =>
      have differ : RgpUserdata.equals (initializeDefaults env m.viewModel m.viewModel.userdata)
          m.viewModel.cachedUserdata = false := (Bool.not_eq_true' _).mp delivers
      have config : (perform env m .resetToDefaults).config =
          assignConfig (initializeDefaults env m.viewModel m.viewModel.userdata) m.config :=
        updated_config env m m.config (m.viewModel.initializeDefaultsAndApply env).1 m.viewModel.toBaseUserdataViewModel
          (fun userdata _ => initializeDefaults env m.viewModel userdata) rfl differ reads
      rw [config]
      rfl
  | handle handler =>
      have differ : RgpUserdata.equals ((UserdataOperation.handle handler).made env m) m.viewModel.cachedUserdata = false :=
        (Bool.not_eq_true' _).mp delivers
      rw [← congrArg BaseUserdataViewModel.cachedUserdata (handle_members_base m.viewModel handler)] at differ
      have makes : (m.viewModel.handleMembers handler).handleAction handler (m.viewModel.handleMembers handler).userdata
          (m.viewModel.handleMembers handler).cachedUserdata = (UserdataOperation.handle handler).made env m := by
        rw [handle_members_base]
        rfl
      have config : (perform env m (.handle handler)).config = assignConfig ((UserdataOperation.handle handler).made env m)
          ((m.viewModel.handleMembers handler).handleConfig handler m.viewModel.userdata m.config) :=
        updated_config env m _ _ (m.viewModel.handleMembers handler).toBaseUserdataViewModel _ makes differ reads
      rw [config, assign_again]
  | handlePrelaunchSettingsEditableChanged editable => cases delivers

theorem undelivered_config (op : UserdataOperation) (idle : op.delivers env m = false) :
    (perform env m op).config = op.written m := by
  cases op with
  | loadSerializedData data =>
      have unknown : (readUserdata env.toEnvironment data).isSome = false := idle
      exact (load_unread env m (by simpa using unknown)).1
  | resetToDefaults =>
      have same : RgpUserdata.equals (initializeDefaults env m.viewModel m.viewModel.userdata)
          m.viewModel.cachedUserdata = true := (Bool.not_eq_false' _).mp idle
      have nothing : (m.viewModel.initializeDefaultsAndApply env).2 = [] :=
        unchanged_texts env m.viewModel.toBaseUserdataViewModel
          (fun userdata _ => initializeDefaults env m.viewModel userdata) same
      rw [perform, ProfilingModule.resetToDefaults, nothing]
      rfl
  | handle handler =>
      have same : RgpUserdata.equals ((UserdataOperation.handle handler).made env m) m.viewModel.cachedUserdata = true :=
        (Bool.not_eq_false' _).mp idle
      have nothing := unchanged_texts env (m.viewModel.handleMembers handler).toBaseUserdataViewModel
        ((m.viewModel.handleMembers handler).handleAction handler) (by rw [handle_members_base]; exact same)
      rw [perform, ProfilingModule.handle]
      simp only [nothing]
      rfl
  | handlePrelaunchSettingsEditableChanged editable => rfl

-- With nothing to deliver the userdata derive what they derived before.
theorem undelivered_assign (op : UserdataOperation) (idle : op.delivers env m = false)
    (synced : RgpUserdata.equals m.viewModel.userdata m.viewModel.cachedUserdata = true)
    (config : WholeRgpTraceSourceConfig) : assignConfig (op.made env m) config = assignConfig m.viewModel.userdata config := by
  have before := equals_assign m.viewModel.userdata m.viewModel.cachedUserdata config synced
  cases op with
  | loadSerializedData data =>
      have unread : ¬ (readUserdata env.toEnvironment data).isSome = true := by
        intro read
        cases read.symm.trans idle
      have kept : (UserdataOperation.loadSerializedData data).made env m = m.viewModel.userdata := if_neg unread
      rw [kept]
  | resetToDefaults => exact (equals_assign _ _ config ((Bool.not_eq_false' _).mp idle)).trans before.symm
  | handle handler => exact (equals_assign _ _ config ((Bool.not_eq_false' _).mp idle)).trans before.symm
  | handlePrelaunchSettingsEditableChanged editable => rfl

theorem written_assign (op : UserdataOperation) (userdata : RgpUserdata) :
    assignConfig userdata (op.written m) = assignConfig userdata m.config := by
  cases op with
  | handle handler => exact assign_handle_config m.viewModel.userdata userdata m.config (m.viewModel.handleMembers handler) handler
  | _ => rfl

theorem written_derived (op : UserdataOperation) (derived : m.config = assignConfig (op.made env m) m.config) :
    op.written m = m.config := by
  cases op with
  | handle handler =>
      have writes := handle_config_derived m.viewModel.userdata m.config (m.viewModel.handleMembers handler) handler
        m.viewModel.cachedUserdata
      rw [← show m.config = assignConfig ((m.viewModel.handleMembers handler).handleAction handler m.viewModel.userdata
        m.viewModel.cachedUserdata) m.config from derived] at writes
      exact writes
  | _ => rfl

theorem written_limit (op : UserdataOperation) : (op.written m).sqttMemoryLimit = m.config.sqttMemoryLimit := by
  cases op with
  | handle handler => exact handle_config_limit m.viewModel.userdata m.config (m.viewModel.handleMembers handler) handler
  | _ => rfl

theorem undelivered_derived_iff (op : UserdataOperation) (idle : op.delivers env m = false)
    (synced : RgpUserdata.equals m.viewModel.userdata m.viewModel.cachedUserdata = true) :
    (perform env m op).Derived ↔ op.written m = assignConfig m.viewModel.userdata m.config := by
  rw [ProfilingModule.Derived, (perform_view_model env m op).1, undelivered_config env m op idle, written_assign,
    undelivered_assign env m op idle synced]

end Delivery

-- What every operation leaves of the two copies of the userdata.
structure InStep (base : BaseUserdataViewModel .rgp) : Prop where
  synced : RgpUserdata.equals base.userdata base.cachedUserdata = true
  starts : 1 ≤ RgpUserdata.dispatchStartIndex base.userdata

section Runs
variable {env : ModuleEnvironment}

theorem update_in_step (base : BaseUserdataViewModel .rgp) (action : RgpUserdata → RgpUserdata → RgpUserdata)
    (starts : 1 ≤ (action base.userdata base.cachedUserdata).dispatchStartIndex) :
    InStep (base.performUpdate env.printJson action).viewModel := by
  obtain ⟨made, synced⟩ := BaseUserdataViewModel.update_spec env.printJson base action
  refine ⟨synced, ?_⟩
  rw [made]
  exact starts

theorem load_in_step (vm : ProfilingUserdataViewModel) (data : Text) :
    InStep (vm.loadSerializedData env data).2.1.toBaseUserdataViewModel := by
  show InStep (BaseUserdataViewModel.loadSerializedData env.printJson env.parseJson env.defaultOutputPath
    vm.toBaseUserdataViewModel validateData (initializeDefaults env vm) data).2.viewModel
  unfold BaseUserdataViewModel.loadSerializedData
  split
  · exact ⟨equals_self .rgp _, clamped_starts _⟩
  · rename_i message cached failed
    exact update_in_step ⟨vm.userdata, cached⟩ (fun userdata _ => initializeDefaults env vm userdata) (UInt32.le_refl 1)

theorem output_path_action (vm : ProfilingUserdataViewModel) (outputPath : String) (verifies : Bool)
    (userdata cached : RgpUserdata) :
    ∃ path, vm.handleAction (.outputPathChanged outputPath verifies) userdata cached = { userdata with outputPath := path } := by
  by_cases same : outputPath = cached.outputPath
  · exact ⟨userdata.outputPath, if_pos same⟩
  · exact ⟨if verifies then outputPath else cached.outputPath, if_neg same⟩

theorem action_starts (vm : ProfilingUserdataViewModel) (handler : UserdataHandler) (userdata cached : RgpUserdata)
    (starts : 1 ≤ userdata.dispatchStartIndex) : 1 ≤ (vm.handleAction handler userdata cached).dispatchStartIndex := by
  cases handler with
  | dispatchStartChanged dispatchStart => exact clamped_starts dispatchStart
  | shaderInstrumentationEnabledChanged enabled sets => cases sets <;> exact starts
  | outputPathChanged outputPath verifies =>
      obtain ⟨path, made⟩ := output_path_action vm outputPath verifies userdata cached
      rw [made]
      exact starts
  | _ => exact starts

theorem perform_in_step (m : ProfilingModule) (op : UserdataOperation)
    (before : InStep m.viewModel.toBaseUserdataViewModel) : InStep (perform env m op).viewModel.toBaseUserdataViewModel := by
  cases op with
  | loadSerializedData data =>
      cases read : readUserdata env.toEnvironment data with
      | none =>
          rw [perform, (load_unread env m read).2]
          exact before
      | some userdata =>
          rw [perform, load_read env m read, deliver_view_model]
          exact load_in_step m.viewModel data
  | resetToDefaults =>
      rw [perform, ProfilingModule.resetToDefaults, deliver_view_model]
      exact update_in_step m.viewModel.toBaseUserdataViewModel _ (UInt32.le_refl 1)
  | handle handler =>
      rw [perform, ProfilingModule.handle, deliver_view_model]
      refine update_in_step (m.viewModel.handleMembers handler).toBaseUserdataViewModel _ ?_
      rw [handle_members_base]
      exact action_starts _ handler _ _ before.starts
  | handlePrelaunchSettingsEditableChanged editable => exact before

theorem follows_iff (m : ProfilingModule) (starts : 1 ≤ m.viewModel.userdata.dispatchStartIndex) :
    m.ConfigFollows ↔ m.Derived ∧ m.viewModel.userdata.enableLegacyCapture = false ∧
      m.viewModel.userdata.enableExecPopTokens = m.tokensAllowed := by
  constructor
  · intro follows
    have legacy := congrArg WholeRgpTraceSourceConfig.enableLegacyCapture follows.derived
    have tokens := congrArg WholeRgpTraceSourceConfig.enableExecPopTokens follows.derived
    exact ⟨follows.derived, legacy.symm.trans follows.legacyOff, tokens.symm.trans follows.tokens⟩
  · rintro ⟨derived, legacyOff, allowed⟩
    have clamped := congrArg (fun config => config.dispatchStartIndex) derived
    have legacy := congrArg WholeRgpTraceSourceConfig.enableLegacyCapture derived
    have tokens := congrArg WholeRgpTraceSourceConfig.enableExecPopTokens derived
    refine ⟨derived, ⟨?_, starts⟩, legacy.trans legacyOff, tokens.trans allowed⟩
    rw [clamped]
    exact clamped_starts _

-- Where the userdata were coupled, an operation leaves them so exactly if it keeps the coupling.
theorem coupling_iff (m : ProfilingModule) (op : UserdataOperation) (reads : op.readsBack env m)
    (legacyOff : m.viewModel.userdata.enableLegacyCapture = false)
    (allowed : m.viewModel.userdata.enableExecPopTokens = m.tokensAllowed) :
    ((perform env m op).viewModel.userdata.enableLegacyCapture = false ∧
      (perform env m op).viewModel.userdata.enableExecPopTokens = (perform env m op).tokensAllowed) ↔
        op.keepsCoupling env m := by
  obtain ⟨made, supported⟩ := perform_view_model env m op
  rw [ProfilingModule.tokensAllowed, made, supported]
  cases op with
  | loadSerializedData data =>
      cases read : readUserdata env.toEnvironment data with
      | none =>
          have unread : ¬ (readUserdata env.toEnvironment data).isSome = true := by simp [read]
          have kept : (UserdataOperation.loadSerializedData data).made env m = m.viewModel.userdata := if_neg unread
          rw [kept]
          refine iff_of_true ⟨legacyOff, allowed⟩ fun userdata found => ?_
          rw [read] at found
          cases found
      | some userdata =>
          rw [(load_delivers env m reads read).1]
          simp only [UserdataOperation.keepsCoupling, read, Option.some.injEq, forall_eq']
          exact and_iff_right rfl
  | resetToDefaults => exact (and_iff_right rfl).trans eq_comm
  | handle handler =>
      cases handler with
      | legacyCaptureEnabledChanged enabled => exact and_iff_left allowed
      | execPopTokensEnabledChanged enabled => exact and_iff_right legacyOff
      | traceSupportChanged args => exact iff_of_true ⟨legacyOff, rfl⟩ trivial
      | shaderInstrumentationEnabledChanged enabled sets =>
          cases sets with
          | true => exact iff_of_true ⟨legacyOff, rfl⟩ trivial
          | false => exact iff_of_true ⟨legacyOff, allowed⟩ trivial
      | outputPathChanged outputPath verifies =>
          refine iff_of_true ?_ trivial
          obtain ⟨path, only⟩ := output_path_action m.viewModel outputPath verifies m.viewModel.userdata
            m.viewModel.cachedUserdata
          have kept : (UserdataOperation.handle (.outputPathChanged outputPath verifies)).made env m =
            { m.viewModel.userdata with outputPath := path } := only
          rw [kept]
          exact ⟨legacyOff, allowed⟩
      | _ => exact iff_of_true ⟨legacyOff, allowed⟩ trivial
  | handlePrelaunchSettingsEditableChanged editable => exact iff_of_true ⟨legacyOff, allowed⟩ trivial

structure Prepared (env : ModuleEnvironment) (s : Configured) : Prop where
  inStep : InStep s.module.viewModel.toBaseUserdataViewModel
  fresh : s.operated = false → s.module = .created env

theorem reachable_prepared (s : Configured) (reach : Reachable (profilingOperations env) s) : Prepared env s := by
  refine reachable_invariant (profilingOperations env) (Prepared env) ?_ (fun s op t before next => ?_) s reach
  · exact ⟨⟨equals_self .rgp blankUserdata, UInt32.le_refl 1⟩, fun _ => rfl⟩
  · cases next
    exact ⟨perform_in_step s.module op before.inStep, fun untouched => by cases untouched⟩

theorem derived_after_iff (s : Configured) (op : UserdataOperation) (reads : op.readsBack env s.module)
    (prepared : Prepared env s) (follows : s.Follows) :
    (perform env s.module op).Derived ↔ s.operated = true ∨ op.delivers env s.module = true := by
  cases delivers : op.delivers env s.module with
  | true => exact iff_of_true (delivered_derived env s.module op reads delivers) (.inr rfl)
  | false =>
      rw [undelivered_derived_iff env s.module op delivers prepared.inStep.synced]
      cases operated : s.operated with
      | true =>
          refine iff_of_true ?_ (.inl rfl)
          have derived := (follows operated).derived
          have made : s.module.config = assignConfig (op.made env s.module) s.module.config := by
            rw [undelivered_assign env s.module op delivers prepared.inStep.synced]
            exact derived
          rw [written_derived env s.module op made]
          exact derived
      | false =>
          refine iff_of_false (fun same => ?_) (by simp)
          have limit := (written_limit s.module op).symm.trans (congrArg (fun config => config.sqttMemoryLimit) same)
          rw [prepared.fresh operated] at limit
          have differ : (0 : UInt32) = 75 := limit
          exact absurd differ (by decide)

theorem perform_follows_iff (s : Configured) (op : UserdataOperation) (reads : op.readsBack env s.module)
    (prepared : Prepared env s) (follows : s.Follows) :
    (perform env s.module op).ConfigFollows ↔ followsAfter env s op := by
  obtain ⟨legacyOff, allowed⟩ : s.module.viewModel.userdata.enableLegacyCapture = false ∧
      s.module.viewModel.userdata.enableExecPopTokens = s.module.tokensAllowed := by
    cases operated : s.operated with
    | true => exact ((follows_iff s.module prepared.inStep.starts).mp (follows operated)).2
    | false =>
        rw [prepared.fresh operated]
        exact ⟨rfl, rfl⟩
  have after : InStep (perform env s.module op).viewModel.toBaseUserdataViewModel :=
    perform_in_step s.module op prepared.inStep
  rw [follows_iff _ after.starts, derived_after_iff s op reads prepared follows,
    coupling_iff s.module op reads legacyOff allowed]
  rfl

-- Where the JSON library reads back what is printed along a run, the settings follow
-- the userdata exactly if every operation delivers first and keeps the coupling.
theorem config_follows_iff (env : ModuleEnvironment) (ops : List UserdataOperation)
    (reads : Meets (profilingOperations env) (fun s op => op.readsBack env s.module) (profilingOperations env).init ops) :
    Meets (profilingOperations env) (followsAfter env) (profilingOperations env).init ops ↔
      Always (profilingOperations env) Configured.Follows (profilingOperations env).init ops := by
  refine keeps_iff_always_where (profilingOperations env) _ (followsAfter env) Configured.Follows
    (fun s op t reach follows back next => ?_) _ .init (fun contrary => by cases contrary) ops reads
  cases next
  have exact := perform_follows_iff s op back (reachable_prepared s reach) follows
  exact ⟨fun here => exact.mp (here rfl), fun suits _ => exact.mpr suits⟩

end Runs

section Loading

-- A text that is valid as it is makes nothing to print.
theorem valid_load_reads (env : ModuleEnvironment) (m : ProfilingModule) {data : Text} {userdata : RgpUserdata}
    (read : readUserdata env.toEnvironment data = some userdata) (ends : env.parseJson (data ++ [0]) = env.parseJson data)
    (valid : validateData userdata = userdata) : (UserdataOperation.loadSerializedData data).readsBack env m := by
  refine ⟨ends, fun text printed => ?_⟩
  have known : (readUserdata env.toEnvironment data).isSome = true := by rw [read, Option.isSome_some]
  have nothing : (UserdataOperation.loadSerializedData data).printed env m = [] := by
    refine (if_pos known).trans ?_
    rw [load_validated env m.viewModel read ends, valid]
    exact if_pos (equals_self .rgp userdata)
  rw [nothing] at printed
  cases printed

-- The JSON library as it treats one text.
def readingEnvironment (text : Text) (json : JsonValue) : ModuleEnvironment where
  parseJson := fun t => if t = text ∨ t = text ++ [0] then some json else none
  defaultOutputPath := "C:/profiles"
  uninitialized := 0
  printJson := fun _ => []
  defaultShortcut := ⟨201326659, 67⟩
  supported := fun _ _ => [0]

theorem reading_ends (text : Text) (json : JsonValue) :
    (readingEnvironment text json).parseJson (text ++ [0]) = (readingEnvironment text json).parseJson text := by
  simp [readingEnvironment]

theorem reading_reads (text : Text) (json : JsonValue) (present : text ≠ []) :
    readUserdata (readingEnvironment text json).toEnvironment text =
      some (readAll (rgpMaps "C:/profiles") blankUserdata json.member) := by
  have parsed : (readingEnvironment text json).parseJson text = some json := if_pos (.inl rfl)
  rw [readUserdata, parse_text .rgp _ text json _ blankUserdata present parsed]
  rfl

def emptyText : Text := "\x7b\x7d".toUTF8.data.toList

theorem empty_text_follows :
    Always (profilingOperations (readingEnvironment emptyText (.object []))) Configured.Follows
      (profilingOperations (readingEnvironment emptyText (.object []))).init [.loadSerializedData emptyText] := by
  have read := reading_reads emptyText (.object []) (by decide)
  have back := valid_load_reads (readingEnvironment emptyText (.object []))
    (.created (readingEnvironment emptyText (.object []))) read (reading_ends emptyText (.object [])) rfl
  refine (config_follows_iff (readingEnvironment emptyText (.object [])) [.loadSerializedData emptyText]
    fun t next => ⟨back, trivial⟩).mp fun t next => ⟨⟨.inr ?_, ?_⟩, trivial⟩
  · exact Option.isSome_of_eq_some read
  · intro userdata found
    obtain rfl := Option.some.inj (read.symm.trans found)
    rfl

def tokensText : Text := "\x7b\"enable_exec_pop_tokens\":true\x7d".toUTF8.data.toList

def tokensJson : JsonValue := .object [("enable_exec_pop_tokens", .bool true)]

-- The text asks for the tokens, and nothing has said that they are supported.
theorem loaded_tokens_unsupported :
    ¬ ∀ (env : ModuleEnvironment) (ops : List UserdataOperation),
      Meets (profilingOperations env) (fun s op => op.readsBack env s.module) (profilingOperations env).init ops →
        Always (profilingOperations env) Configured.Follows (profilingOperations env).init ops := by
  intro claimed
  have read := reading_reads tokensText tokensJson (by decide)
  have back := valid_load_reads (readingEnvironment tokensText tokensJson)
    (.created (readingEnvironment tokensText tokensJson)) read (reading_ends tokensText tokensJson) rfl
  have always := claimed (readingEnvironment tokensText tokensJson) [.loadSerializedData tokensText]
    fun t next => ⟨back, trivial⟩
  let start := (profilingOperations (readingEnvironment tokensText tokensJson)).init
  have prepared := reachable_prepared start .init
  have loaded := always.2 (.mk (perform (readingEnvironment tokensText tokensJson) start.module
    (.loadSerializedData tokensText)) true) rfl
  have suits := (perform_follows_iff start (.loadSerializedData tokensText) back prepared
    fun untouched => by cases untouched).mp (loaded rfl)
  have coupled := suits.2 _ read
  cases coupled

end Loading

end RadeonPanel.Profiling

import RadeonPanel.Base.Runs
import RadeonPanel.Raytracing.ViewModels
import RadeonPanel.Userdata.RoundTrip

set_option autoImplicit false

namespace RadeonPanel.Raytracing

open Userdata Interleaving

inductive Operation where
  | serializeData (serializedData : Text)
  | loadSerializedData (data : Text)
  | resetToDefaults
  | handle (handler : Handler)
  | handleTraceSupportChanged (isMarkerCaptureSupported : Bool)
  | handlePrelaunchSettingsEditableChanged (editable : Bool)

def perform (env : Environment) (m : RaytracingModule) : Operation → RaytracingModule
  | .serializeData serializedData => m.serializeData env serializedData
  | .loadSerializedData data => (m.loadSerializedData env data).2
  | .resetToDefaults => m.resetToDefaults env
  | .handle handler => m.handle env handler
  | .handleTraceSupportChanged isMarkerCaptureSupported => m.handleTraceSupportChanged isMarkerCaptureSupported
  | .handlePrelaunchSettingsEditableChanged editable => m.handlePrelaunchSettingsEditableChanged editable

-- The module, and whether anything has been done with it.
structure Operated where
  module : RaytracingModule
  operated : Bool

def raytracingOperations (env : Environment) : Machine Operated Operation where
  init := ⟨.created, false⟩
  step := fun s op => some ⟨perform env s.module op, true⟩

def sizeOfIndex (index : UInt32) : Option UInt64 := (kRayHistoryBufferSizes[index.toNat]?).map strtoull

-- Both receivers would derive this size from the userdata.
def Derives (userdata : RraUserdata) (size : UInt64) : Prop :=
  sizeOfIndex userdata.rayHistoryBufferSizeIndex = some size ∧ strtoull userdata.rayHistoryBufferSize = size

structure SizeFollowsUserdata (m : RaytracingModule) : Prop where
  inside : m.readsOutside = false
  derived : Derives (validateData m.viewModel.userdata) m.config.rayHistoryBufferSize
  nonzero : m.config.rayHistoryBufferSize ≠ 0

def Operated.SizeFollows (s : Operated) : Prop := s.operated = true → SizeFollowsUserdata s.module

namespace Operation
variable (env : Environment) (m : RaytracingModule)

-- The texts that both receivers get, in order.
def texts : Operation → List Text
  | .serializeData serializedData => [serializedData]
  | .loadSerializedData data =>
      if (readUserdata env data).isSome then data :: (m.viewModel.loadSerializedData env data).2.2 else []
  | .resetToDefaults => (m.viewModel.initializeDefaultsAndApply env).2
  | .handle handler => (m.viewModel.handle env handler).2
  | .handleTraceSupportChanged _ | .handlePrelaunchSettingsEditableChanged _ => []

def viewModel : Operation → RaytracingUserdataViewModel
  | .loadSerializedData data =>
      if (readUserdata env data).isSome then (m.viewModel.loadSerializedData env data).2.1 else m.viewModel
  | .resetToDefaults => (m.viewModel.initializeDefaultsAndApply env).1
  | .handle handler => (m.viewModel.handle env handler).1
  | .serializeData _ | .handleTraceSupportChanged _ | .handlePrelaunchSettingsEditableChanged _ => m.viewModel

def deliveries (op : Operation) : List RraUserdata := (op.texts env m).filterMap (readUserdata env)

end Operation

def lastSize (size : UInt64) (delivered : List RraUserdata) : UInt64 :=
  (delivered.getLast?).elim size fun userdata => strtoull userdata.rayHistoryBufferSize

-- Every index that is delivered is one of the array, and the size of the last string
-- is the one that both receivers derive from the userdata of the view model.
def suits (env : Environment) (s : Operated) (op : Operation) : Prop :=
  (∀ userdata ∈ op.deliveries env s.module, (sizeOfIndex userdata.rayHistoryBufferSizeIndex).isSome = true) ∧
  Derives (validateData (op.viewModel env s.module).userdata) (lastSize s.module.config.rayHistoryBufferSize (op.deliveries env s.module))

section Delivery
variable (env : Environment)

@[simp] theorem marker_keeps_size (config : RraTraceSourceConfig) :
    (applyMarkerAutoCapture config).rayHistoryBufferSize = config.rayHistoryBufferSize := by
  rw [applyMarkerAutoCapture]
  split <;> rfl

theorem serialize_read {text : Text} {userdata : RraUserdata} (m : RaytracingModule) (read : readUserdata env text = some userdata) :
    (m.serializeData env text).config.rayHistoryBufferSize = strtoull userdata.rayHistoryBufferSize ∧
    (m.serializeData env text).readsOutside = (m.readsOutside || (sizeOfIndex userdata.rayHistoryBufferSizeIndex).isNone) ∧
    (m.serializeData env text).viewModel = m.viewModel := by
  simp only [RaytracingModule.serializeData, RaytracingModule.viewModelReceiveUserData,
    RaytracingModule.userdataViewModelReceiveUserData, read, sizeOfIndex]
  cases kRayHistoryBufferSizes[userdata.rayHistoryBufferSizeIndex.toNat]? with
  | some rawBufferSize => exact ⟨marker_keeps_size _, (Bool.or_false _).symm, rfl⟩
  | none => exact ⟨marker_keeps_size _, (Bool.or_true _).symm, rfl⟩

theorem serialize_unread {text : Text} (m : RaytracingModule) (unread : readUserdata env text = none) :
    m.serializeData env text = { m with outputPath := env.defaultOutputPath } := by
  simp only [RaytracingModule.serializeData, RaytracingModule.viewModelReceiveUserData,
    RaytracingModule.userdataViewModelReceiveUserData, unread]

theorem last_size_cons (size : UInt64) (userdata : RraUserdata) (later : List RraUserdata) :
    lastSize size (userdata :: later) = lastSize (strtoull userdata.rayHistoryBufferSize) later := by
  cases later with
  | nil => rfl
  | cons next rest => rw [lastSize, lastSize, List.getLast?_cons_cons]; rfl

theorem deliver_spec (texts : List Text) (m : RaytracingModule) :
    (RaytracingModule.deliver env m texts).config.rayHistoryBufferSize =
      lastSize m.config.rayHistoryBufferSize (texts.filterMap (readUserdata env)) ∧
    (RaytracingModule.deliver env m texts).readsOutside =
      (m.readsOutside || (texts.filterMap (readUserdata env)).any fun userdata =>
        (sizeOfIndex userdata.rayHistoryBufferSizeIndex).isNone) ∧
    (RaytracingModule.deliver env m texts).viewModel = m.viewModel := by
  induction texts generalizing m with
  | nil => exact ⟨rfl, (Bool.or_false _).symm, rfl⟩
  | cons text rest ih =>
      have later := ih (m.serializeData env text)
      cases read : readUserdata env text with
      | none =>
          rw [serialize_unread env m read] at later
          rw [List.filterMap_cons_none read]
          rw [RaytracingModule.deliver, List.foldl_cons, serialize_unread env m read]
          exact later
      | some userdata =>
          obtain ⟨size, outside, same⟩ := serialize_read env m read
          rw [size, outside, same] at later
          rw [List.filterMap_cons_some read, last_size_cons, List.any_cons, ← Bool.or_assoc]
          exact later

theorem load_unread {data : Text} (m : RaytracingModule) (unread : readUserdata env data = none) :
    m.loadSerializedData env data = (false, { m with outputPath := env.defaultOutputPath }) := by
  simp [RaytracingModule.loadSerializedData, RaytracingModule.viewModelReceiveUserData, unread]

theorem load_read {data : Text} {userdata : RraUserdata} (m : RaytracingModule) (read : readUserdata env data = some userdata) :
    (m.loadSerializedData env data).2 = RaytracingModule.deliver env
      { m.serializeData env data with viewModel := (m.viewModel.loadSerializedData env data).2.1 }
      (m.viewModel.loadSerializedData env data).2.2 := by
  have same := (serialize_read env m read).2.2
  have first : (m.viewModelReceiveUserData env data).1 = true := by
    simp only [RaytracingModule.viewModelReceiveUserData, read]
    cases kRayHistoryBufferSizes[userdata.rayHistoryBufferSizeIndex.toNat]? <;> rfl
  have second : ((m.viewModelReceiveUserData env data).2.userdataViewModelReceiveUserData env data).1 = true := by
    simp only [RaytracingModule.userdataViewModelReceiveUserData, read]
  rw [RaytracingModule.serializeData] at same ⊢
  simp only [RaytracingModule.loadSerializedData, first, second, if_true, same]

theorem load_operation {data : Text} {userdata : RraUserdata} (m : RaytracingModule) (read : readUserdata env data = some userdata) :
    (Operation.loadSerializedData data).deliveries env m =
        userdata :: (m.viewModel.loadSerializedData env data).2.2.filterMap (readUserdata env) ∧
      (Operation.loadSerializedData data).viewModel env m = (m.viewModel.loadSerializedData env data).2.1 := by
  have known : (readUserdata env data).isSome = true := by rw [read, Option.isSome_some]
  constructor
  · rw [Operation.deliveries, Operation.texts, if_pos known, List.filterMap_cons_some read]
  · exact if_pos known

theorem load_operation_unread {data : Text} (m : RaytracingModule) (unread : readUserdata env data = none) :
    (Operation.loadSerializedData data).deliveries env m = [] ∧ (Operation.loadSerializedData data).viewModel env m = m.viewModel := by
  have unknown : ¬ (readUserdata env data).isSome = true := by rw [unread]; exact Bool.false_ne_true
  constructor
  · rw [Operation.deliveries, Operation.texts, if_neg unknown, List.filterMap_nil]
  · exact if_neg unknown

theorem perform_spec (m : RaytracingModule) (op : Operation) :
    (perform env m op).config.rayHistoryBufferSize = lastSize m.config.rayHistoryBufferSize (op.deliveries env m) ∧
    (perform env m op).readsOutside =
      (m.readsOutside || (op.deliveries env m).any fun userdata => (sizeOfIndex userdata.rayHistoryBufferSizeIndex).isNone) ∧
    (perform env m op).viewModel.userdata = (op.viewModel env m).userdata := by
  cases op with
  | serializeData serializedData =>
      obtain ⟨size, outside, same⟩ := deliver_spec env [serializedData] m
      exact ⟨size, outside, congrArg (fun vm : RaytracingUserdataViewModel => vm.userdata) same⟩
  | loadSerializedData data =>
      cases read : readUserdata env data with
      | none =>
          obtain ⟨nothing, kept⟩ := load_operation_unread env m read
          rw [perform, load_unread env m read, nothing, kept]
          exact ⟨rfl, (Bool.or_false _).symm, rfl⟩
      | some userdata =>
          obtain ⟨size, outside, same⟩ := deliver_spec env (m.viewModel.loadSerializedData env data).2.2
            { m.serializeData env data with viewModel := (m.viewModel.loadSerializedData env data).2.1 }
          obtain ⟨first, opened, _⟩ := serialize_read env m read
          obtain ⟨delivered, kept⟩ := load_operation env m read
          rw [perform, load_read env m read, delivered, kept, last_size_cons, List.any_cons, size, outside, same]
          refine ⟨?_, ?_, rfl⟩
          · show lastSize (m.serializeData env data).config.rayHistoryBufferSize _ = _
            rw [first]
          · show ((m.serializeData env data).readsOutside || _) = _
            rw [opened, Bool.or_assoc]
  | resetToDefaults =>
      obtain ⟨size, outside, same⟩ := deliver_spec env (m.viewModel.initializeDefaultsAndApply env).2
        { m with viewModel := (m.viewModel.initializeDefaultsAndApply env).1 }
      rw [perform, RaytracingModule.resetToDefaults, Operation.deliveries, Operation.texts, size, outside, same]
      exact ⟨rfl, rfl, rfl⟩
  | handle handler =>
      obtain ⟨size, outside, same⟩ := deliver_spec env (m.viewModel.handle env handler).2
        { m with viewModel := (m.viewModel.handle env handler).1 }
      rw [perform, RaytracingModule.handle, Operation.deliveries, Operation.texts, size, outside, same]
      exact ⟨rfl, rfl, rfl⟩
  | handleTraceSupportChanged isMarkerCaptureSupported => exact ⟨marker_keeps_size _, (Bool.or_false _).symm, rfl⟩
  | handlePrelaunchSettingsEditableChanged editable => exact ⟨rfl, (Bool.or_false _).symm, rfl⟩

end Delivery

section Runs
variable {env : Environment}

theorem validated_nonzero (userdata : RraUserdata) : strtoull (validateData userdata).rayHistoryBufferSize ≠ 0 := by
  show strtoull (if strtoull userdata.rayHistoryBufferSize = 0 then defaultBufferSize else userdata.rayHistoryBufferSize) ≠ 0
  by_cases zero : strtoull userdata.rayHistoryBufferSize = 0
  · rw [if_pos zero]
    decide
  · rw [if_neg zero]
    exact zero

theorem perform_follows_iff {s : Operated} (inside : s.module.readsOutside = false) (op : Operation) :
    SizeFollowsUserdata (perform env s.module op) ↔ suits env s op := by
  obtain ⟨size, outside, same⟩ := perform_spec env s.module op
  rw [inside, Bool.false_or] at outside
  constructor
  · intro follows
    have none_outside := outside.symm.trans follows.inside
    refine ⟨fun userdata member => ?_, ?_⟩
    · have found := Bool.eq_false_iff.mpr (List.any_eq_false.mp none_outside userdata member)
      rw [← Option.not_isSome, Bool.not_eq_false'] at found
      exact found
    · have derived := follows.derived
      rw [size, same] at derived
      exact derived
  · rintro ⟨known, derived⟩
    have nonzero : (perform env s.module op).config.rayHistoryBufferSize ≠ 0 := by
      rw [size, ← derived.2]
      exact validated_nonzero _
    refine ⟨?_, by rwa [size, same], nonzero⟩
    rw [outside]
    refine List.any_eq_false.mpr fun userdata member => ?_
    rw [Option.isNone_iff_eq_none]
    exact Option.isSome_iff_ne_none.mp (known userdata member)

end Runs

section Plain

theorem size_of_index_nonzero {index : UInt32} {size : UInt64} (found : sizeOfIndex index = some size) : size ≠ 0 := by
  obtain ⟨raw, listed, rfl⟩ := Option.map_eq_some_iff.mp found
  have each : ∀ raw ∈ kRayHistoryBufferSizes, strtoull raw ≠ 0 := by decide
  exact each raw (List.mem_of_getElem? listed)

theorem validated_index {userdata : RraUserdata} (inside : (sizeOfIndex userdata.rayHistoryBufferSizeIndex).isSome = true) :
    (validateData userdata).rayHistoryBufferSizeIndex = userdata.rayHistoryBufferSizeIndex := by
  have bound : userdata.rayHistoryBufferSizeIndex.toNat < 5 := by
    rw [sizeOfIndex, Option.isSome_map] at inside
    exact (List.getElem?_eq_some_iff.mp (Option.eq_some_of_isSome inside)).1
  have last : UInt32.ofNat kRayHistoryBufferSizes.length - 1 = 4 := by decide
  show min (max userdata.rayHistoryBufferSizeIndex 0) (UInt32.ofNat kRayHistoryBufferSizes.length - 1) = _
  generalize userdata.rayHistoryBufferSizeIndex = index at bound ⊢
  rw [last, UInt32.max_def, UInt32.min_def]
  apply UInt32.toNat_inj.mp
  split <;> split <;> simp only [UInt32.le_iff_toNat_le] at * <;> simp at * <;> omega

-- One delivery of what the view model holds suits exactly if its string is the number
-- that the array has at its index.
theorem derives_validated_iff (userdata : RraUserdata) :
    ((sizeOfIndex userdata.rayHistoryBufferSizeIndex).isSome = true ∧
      Derives (validateData userdata) (strtoull userdata.rayHistoryBufferSize)) ↔
    sizeOfIndex userdata.rayHistoryBufferSizeIndex = some (strtoull userdata.rayHistoryBufferSize) := by
  constructor
  · rintro ⟨inside, byIndex, _⟩
    rw [validated_index inside] at byIndex
    exact byIndex
  · intro found
    have inside : (sizeOfIndex userdata.rayHistoryBufferSizeIndex).isSome = true := by rw [found, Option.isSome_some]
    have byIndex : sizeOfIndex (validateData userdata).rayHistoryBufferSizeIndex = some (strtoull userdata.rayHistoryBufferSize) := by
      rw [validated_index inside]
      exact found
    refine ⟨inside, byIndex, ?_⟩
    show strtoull (if strtoull userdata.rayHistoryBufferSize = 0 then defaultBufferSize else userdata.rayHistoryBufferSize) = _
    rw [if_neg (size_of_index_nonzero found)]

-- What a handler makes of the userdata suits exactly if its two fields name one size,
-- where the JSON library reads back what it has printed.
theorem handled_suits_iff (env : Environment) (s : Operated) (handler : Handler) (userdata : RraUserdata)
    (made : RaytracingUserdataViewModel.handleAction handler s.module.viewModel.userdata s.module.viewModel.cachedUserdata = userdata)
    (changed : Source.equals .rra userdata s.module.viewModel.cachedUserdata = false)
    (reads : readUserdata env (env.printJson (document .rra userdata)) = some userdata) :
    suits env s (.handle handler) ↔
      sizeOfIndex userdata.rayHistoryBufferSizeIndex = some (strtoull userdata.rayHistoryBufferSize) := by
  have updated := s.module.viewModel.update_changed env.printJson made changed
  have delivered : (Operation.handle handler).deliveries env s.module = [userdata] := by
    rw [Operation.deliveries, Operation.texts, RaytracingUserdataViewModel.handle, updated, List.filterMap_cons_some reads,
      List.filterMap_nil]
  have held : ((Operation.handle handler).viewModel env s.module).userdata = userdata := by
    rw [Operation.viewModel, RaytracingUserdataViewModel.handle, updated]
    rfl
  rw [suits, delivered, held, ← derives_validated_iff]
  simp [lastSize]

end Plain

section Disagreement

def minimumBufferText : Text :=
  "\x7b\"ray_history_buffer_size_custom\":\"1073741824\",\"ray_history_buffer_size_index\":0\x7d".toUTF8.data.toList

def minimumBufferJson : JsonValue :=
  .object [("ray_history_buffer_size_custom", .string "1073741824"), ("ray_history_buffer_size_index", .number 0)]

def minimumBufferEnvironment : Environment where
  printJson := fun _ => []
  parseJson := fun text => if text = minimumBufferText ∨ text = minimumBufferText ++ [0] then some minimumBufferJson else none
  defaultOutputPath := "C:/scenes"
  defaultShortcut := ⟨83886135, 16777271⟩

def minimumBufferUserdata : RraUserdata :=
  { blankUserdata with
    outputPath := "C:/scenes"
    rayHistoryBufferSize := "1073741824"
    rayHistoryBufferSizeIndex := 0 }

theorem minimum_read (text : Text) (is_text : text = minimumBufferText ∨ text = minimumBufferText ++ [0]) (present : text ≠ [])
    (old : RraUserdata) :
    parse .rra minimumBufferEnvironment.parseJson (some text) minimumBufferEnvironment.defaultOutputPath old =
      (.ok (), minimumBufferUserdata) := by
  rw [parse_text .rra minimumBufferEnvironment.parseJson text minimumBufferJson minimumBufferEnvironment.defaultOutputPath old present
    (if_pos is_text)]
  rfl

theorem minimum_loaded (vm : RaytracingUserdataViewModel) :
    vm.loadSerializedData minimumBufferEnvironment minimumBufferText =
      (true, onUserdataChanged (vm.withBase ⟨minimumBufferUserdata, minimumBufferUserdata⟩), []) := by
  have validates : validateData minimumBufferUserdata = minimumBufferUserdata := by decide
  have parsed := minimum_read (minimumBufferText ++ [0]) (.inr rfl) (by simp) vm.cachedUserdata
  have loaded := vm.toBaseUserdataViewModel.load_parsed minimumBufferEnvironment.printJson minimumBufferEnvironment.parseJson
    minimumBufferEnvironment.defaultOutputPath validateData (initializeDefaults minimumBufferEnvironment vm) validates parsed
  rw [if_pos (equals_self .rra minimumBufferUserdata)] at loaded
  rw [RaytracingUserdataViewModel.loadSerializedData, loaded]

theorem minimum_received : readUserdata minimumBufferEnvironment minimumBufferText = some minimumBufferUserdata := by
  rw [readUserdata, minimum_read minimumBufferText (.inl rfl) (by decide) blankUserdata]

end Disagreement

end RadeonPanel.Raytracing

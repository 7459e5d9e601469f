import RadeonPanel.Frontend.PresetModel

set_option autoImplicit false

namespace RadeonPanel.Frontend.Presets.PresetModel

open Interleaving

variable {δ : Type} (reg : Registry δ)

-- Between two enabled modules each is compatible with the other.
def PairwiseCompatible (s : PresetModel δ) : Prop :=
  ∀ a ∈ reg.modules, ∀ b ∈ reg.modules, a.name ≠ b.name → s.enabled a.name = true → s.enabled b.name = true →
    compatible a b = true

def KeepsSystem (s t : PresetModel δ) : Prop :=
  ∀ m ∈ reg.modules, m.category = .system → s.enabled m.name = true → t.enabled m.name = true

-- What saving and passing on texts to be saved leaves alone.
structure SameModules (t s : PresetModel δ) : Prop where
  enabled : t.enabled = s.enabled
  modulesLocked : t.modulesLocked = s.modulesLocked
  data : t.data = s.data
  crashed : t.crashed = s.crashed

theorem status_changed_same (s : PresetModel δ) (opens : Bool) :
    SameModules (onModuleStatusChanged reg s opens) s := by
  rw [onModuleStatusChanged]
  split
  · exact ⟨rfl, rfl, rfl, rfl⟩
  · rw [savePresets]
    split <;> exact ⟨rfl, rfl, rfl, rfl⟩

theorem save_presets_same (s : PresetModel δ) (opens : Bool) : SameModules (savePresets reg s opens) s := by
  rw [savePresets]
  split <;> exact ⟨rfl, rfl, rfl, rfl⟩

theorem serialize_module_same (s : PresetModel δ) (name text : String) (opens : Bool) :
    SameModules (serializeModule reg s name text opens) s :=
  have same := status_changed_same reg
    { s with currentModuleData := Function.update s.currentModuleData name (some text) } opens
  ⟨same.enabled, same.modulesLocked, same.data, same.crashed⟩

theorem with_data_same (s : PresetModel δ) (m : DevToolsModule δ) (result : δ × Option String) (opens : Bool) :
    SameModules (withData reg s m result opens) { s with data := Function.update s.data m.name result.1 } := by
  cases passed : result.2 with
  | none => simp only [withData, passed]; exact ⟨rfl, rfl, rfl, rfl⟩
  | some text => simp only [withData, passed]; exact serialize_module_same reg _ m.name text opens

theorem lookup_module (m : DevToolsModule δ) (member : m ∈ reg.modules) :
    Keyed.lookup DevToolsModule.name reg.modules m.name = some m :=
  Keyed.lookup_of_mem DevToolsModule.name reg.modules m reg.distinct member

theorem same_module (a b : DevToolsModule δ) (first : a ∈ reg.modules) (second : b ∈ reg.modules)
    (same : a.name = b.name) : a = b :=
  Option.some.inj ((lookup_module reg a first).symm.trans (same ▸ lookup_module reg b second))

-- When a request to SetModuleEnabled gets as far as the module.
structure Asks (s : PresetModel δ) (m : DevToolsModule δ) (isEnabled : Bool) : Prop where
  unlocked : s.modulesLocked = false
  notSystem : isEnabled = false → m.category ≠ .system
  changes : s.enabled m.name ≠ isEnabled
  fits : isEnabled = true → getIncompatibleEnabledModules reg s m = []

theorem set_module_enabled_asked (s : PresetModel δ) (m : DevToolsModule δ) (member : m ∈ reg.modules)
    (isEnabled opens : Bool) (asks : Asks reg s m isEnabled) :
    SameModules (setModuleEnabled reg s m.name isEnabled true opens)
      { s with enabled := Function.update s.enabled m.name isEnabled } := by
  have notSystem : ¬ (isEnabled = false ∧ m.category = .system) := fun system => asks.notSystem system.1 system.2
  have fits : ¬ (isEnabled = true ∧ getIncompatibleEnabledModules reg s m ≠ []) := fun unfit => unfit.2 (asks.fits unfit.1)
  rw [setModuleEnabled, if_neg (by simp [asks.unlocked])]
  simp only [lookup_module reg m member, if_neg notSystem, if_neg asks.changes, if_neg fits, if_true]
  exact status_changed_same reg _ opens

-- Nothing happens, or a module that was asked is switched.
theorem set_module_enabled_cases (s : PresetModel δ) (name : String) (isEnabled succeeds opens : Bool) :
    setModuleEnabled reg s name isEnabled succeeds opens = s ∨
      ∃ m ∈ reg.modules, m.name = name ∧ Asks reg s m isEnabled ∧ succeeds = true := by
  by_cases unlocked : s.modulesLocked = true
  · exact .inl (by rw [setModuleEnabled, if_pos unlocked])
  cases found : Keyed.lookup DevToolsModule.name reg.modules name with
  | none => exact .inl (by simp [setModuleEnabled, unlocked, found])
  | some m =>
      obtain ⟨member, named⟩ := Keyed.lookup_mem DevToolsModule.name reg.modules name m found
      by_cases system : isEnabled = false ∧ m.category = .system
      · exact .inl (by simp [setModuleEnabled, unlocked, found, system])
      by_cases settled : s.enabled m.name = isEnabled
      · exact .inl (by simp [setModuleEnabled, unlocked, found, settled])
      by_cases unfit : isEnabled = true ∧ getIncompatibleEnabledModules reg s m ≠ []
      · exact .inl (by simp [setModuleEnabled, unlocked, found, unfit])
      cases succeeds with
      | false => exact .inl (by simp [setModuleEnabled, unlocked, found])
      | true =>
          refine .inr ⟨m, member, named, ⟨by simpa using unlocked, fun off here => system ⟨off, here⟩, settled, ?_⟩, rfl⟩
          intro on
          by_contra others
          exact unfit ⟨on, others⟩

theorem incompatible_empty (s : PresetModel δ) (m : DevToolsModule δ) :
    getIncompatibleEnabledModules reg s m = [] ↔
      ∀ c ∈ reg.modules, s.enabled c.name = true → compatible m c = true := by
  simp [getIncompatibleEnabledModules, List.filter_eq_nil_iff]

theorem compatible_symm (a b : DevToolsModule δ) : compatible a b = compatible b a := Bool.and_comm _ _

-- How the enabled modules go on through any of the operations.
structure Evolves (s t : PresetModel δ) : Prop where
  modulesLocked : t.modulesLocked = s.modulesLocked
  compatible : PairwiseCompatible reg s → PairwiseCompatible reg t
  system : KeepsSystem reg s t

theorem Evolves.refl (s : PresetModel δ) : Evolves reg s s := ⟨rfl, id, fun _ _ _ => id⟩

theorem Evolves.trans {s t u : PresetModel δ} (first : Evolves reg s t) (second : Evolves reg t u) : Evolves reg s u :=
  ⟨second.modulesLocked.trans first.modulesLocked, second.compatible ∘ first.compatible,
    fun m member system on => second.system m member system (first.system m member system on)⟩

theorem Evolves.of_same {s t : PresetModel δ} (enabled : t.enabled = s.enabled)
    (modulesLocked : t.modulesLocked = s.modulesLocked) : Evolves reg s t :=
  ⟨modulesLocked, by rw [PairwiseCompatible, PairwiseCompatible, enabled]; exact id, by rw [KeepsSystem, enabled]; exact fun _ _ _ => id⟩

theorem switched_compatible (s : PresetModel δ) (m : DevToolsModule δ) (member : m ∈ reg.modules) (isEnabled : Bool)
    (asks : Asks reg s m isEnabled) (before : PairwiseCompatible reg s) :
    PairwiseCompatible reg { s with enabled := Function.update s.enabled m.name isEnabled } := by
  -- The module that is switched on fits to all others that are enabled.
  have fits (c : DevToolsModule δ) (listed : c ∈ reg.modules) (apart : c.name ≠ m.name)
      (mOn : Function.update s.enabled m.name isEnabled m.name = true)
      (cOn : Function.update s.enabled m.name isEnabled c.name = true) : compatible m c = true := by
    rw [Function.update_self] at mOn
    rw [Function.update_of_ne apart] at cOn
    exact (incompatible_empty reg s m).mp (asks.fits mOn) c listed cOn
  intro a aMember b bMember apart aOn bOn
  by_cases aHere : a.name = m.name
  · obtain rfl := same_module reg a m aMember member aHere
    exact fits b bMember (Ne.symm apart) aOn bOn
  by_cases bHere : b.name = m.name
  · obtain rfl := same_module reg b m bMember member bHere
    rw [compatible_symm]
    exact fits a aMember apart bOn aOn
  · refine before a aMember b bMember apart ?_ ?_
    · simpa [Function.update_of_ne aHere] using aOn
    · simpa [Function.update_of_ne bHere] using bOn

theorem set_module_enabled_evolves (s : PresetModel δ) (name : String) (isEnabled succeeds opens : Bool) :
    Evolves reg s (setModuleEnabled reg s name isEnabled succeeds opens) := by
  obtain unchanged | ⟨m, member, rfl, asks, rfl⟩ := set_module_enabled_cases reg s name isEnabled succeeds opens
  · rw [unchanged]
    exact .refl reg s
  · have same := set_module_enabled_asked reg s m member isEnabled opens asks
    have switched : Evolves reg s { s with enabled := Function.update s.enabled m.name isEnabled } := by
      refine ⟨rfl, switched_compatible reg s m member isEnabled asks, ?_⟩
      intro c listed system on
      by_cases here : c.name = m.name
      · obtain rfl := same_module reg c m listed member here
        cases isEnabled with
        | true => simp
        | false => exact absurd system (asks.notSystem rfl)
      · simpa [Function.update_of_ne here] using on
    exact switched.trans reg (.of_same reg same.enabled same.modulesLocked)

theorem set_module_enabled_rest (s : PresetModel δ) (name : String) (isEnabled succeeds opens : Bool) :
    (setModuleEnabled reg s name isEnabled succeeds opens).data = s.data ∧
      (setModuleEnabled reg s name isEnabled succeeds opens).crashed = s.crashed := by
  obtain unchanged | ⟨m, member, rfl, asks, rfl⟩ := set_module_enabled_cases reg s name isEnabled succeeds opens
  · rw [unchanged]
    exact ⟨rfl, rfl⟩
  · have same := set_module_enabled_asked reg s m member isEnabled opens asks
    exact ⟨same.data, same.crashed⟩

-- A request that succeeds when it gets as far as the module, and one that changes nothing.
theorem set_module_enabled_enabled (s : PresetModel δ) (m : DevToolsModule δ) (member : m ∈ reg.modules)
    (isEnabled opens : Bool) (asks : s.enabled m.name ≠ isEnabled → Asks reg s m isEnabled) :
    (setModuleEnabled reg s m.name isEnabled true opens).enabled = Function.update s.enabled m.name isEnabled := by
  by_cases settled : s.enabled m.name = isEnabled
  · obtain unchanged | ⟨c, listed, named, asked, _⟩ := set_module_enabled_cases reg s m.name isEnabled true opens
    · rw [unchanged, ← settled, Function.update_eq_self]
    · obtain rfl := same_module reg c m listed member named
      exact absurd settled asked.changes
  · exact (set_module_enabled_asked reg s m member isEnabled opens (asks settled)).enabled

theorem disable_modules_evolves (succeeds : String → Bool) (modules : List (DevToolsModule δ)) (s : PresetModel δ) :
    Evolves reg s (modules.foldl (disableModule reg succeeds) s) := by
  induction modules generalizing s with
  | nil => exact .refl reg s
  | cons m rest ih => exact (set_module_enabled_evolves reg s m.name false _ true).trans reg (ih _)

theorem disable_modules_rest (succeeds : String → Bool) (modules : List (DevToolsModule δ)) (s : PresetModel δ) :
    (modules.foldl (disableModule reg succeeds) s).data = s.data ∧
      (modules.foldl (disableModule reg succeeds) s).crashed = s.crashed := by
  induction modules generalizing s with
  | nil => exact ⟨rfl, rfl⟩
  | cons m rest ih =>
      obtain ⟨data, crashed⟩ := set_module_enabled_rest reg s m.name false (succeeds m.name) true
      obtain ⟨later, laterCrashed⟩ := ih (disableModule reg succeeds s m)
      exact ⟨later.trans data, laterCrashed.trans crashed⟩

-- Where nothing fails, no module but those of the system stays enabled.
theorem disable_modules_off (modules : List (DevToolsModule δ)) (listed : ∀ m ∈ modules, m ∈ reg.modules)
    (s : PresetModel δ) (unlocked : s.modulesLocked = false) (succeeds : String → Bool)
    (succeed : ∀ m ∈ reg.modules, succeeds m.name = true) (c : DevToolsModule δ) (known : c ∈ reg.modules)
    (capture : c.category ≠ .system) (wanted : c ∈ modules ∨ s.enabled c.name = false) :
    (modules.foldl (disableModule reg succeeds) s).enabled c.name = false := by
  induction modules generalizing s with
  | nil => exact wanted.resolve_left List.not_mem_nil
  | cons m rest ih =>
      obtain ⟨member, later⟩ := List.forall_mem_cons.mp listed
      have step := set_module_enabled_evolves reg s m.name false (succeeds m.name) true
      refine ih later (disableModule reg succeeds s m) (step.modulesLocked.trans unlocked) ?_
      by_cases here : c.name = m.name
      · obtain rfl := same_module reg c m known member here
        right
        have asked (settled : s.enabled c.name ≠ false) : Asks reg s c false := ⟨unlocked, fun _ => capture, settled, by simp⟩
        rw [disableModule, succeed c known, set_module_enabled_enabled reg s c member false true asked, Function.update_self]
      · refine wanted.imp (fun either => (List.mem_cons.mp either).resolve_left fun same => here (same ▸ rfl)) fun off => ?_
        obtain unchanged | ⟨d, dListed, named, asks, worked⟩ :=
          set_module_enabled_cases reg s m.name false (succeeds m.name) true
        · rw [disableModule, unchanged, off]
        · obtain rfl := same_module reg d m dListed member named
          rw [disableModule, worked, (set_module_enabled_asked reg s d member false true asks).enabled]
          simpa [Function.update_of_ne here] using off

def enables (preset : ModulePreset) (m : DevToolsModule δ) : Bool :=
  ((KeyedValues.get preset.modules m.name).map ModuleState.enabled).getD false

def dataText (preset : ModulePreset) (m : DevToolsModule δ) : String :=
  ((KeyedValues.get preset.modules m.name).map ModuleState.serializedData).getD ""

-- The preset's data for a module, or its defaults where there is none to be read.
def presetData (preset : ModulePreset) (m : DevToolsModule δ) (old : δ) : δ :=
  match m.userdata with
  | none => old
  | some vm =>
      if dataText preset m = "" then vm.initializeDefaults old
      else ((vm.parse (dataText preset m)).map vm.validateData).getD (vm.initializeDefaults old)

-- The module's view models are there and take the text.
def Receives (m : DevToolsModule δ) (text : String) : Prop :=
  (∀ receiveUserData, m.traceSource = some receiveUserData → receiveUserData text = true) ∧
    ∃ vm, m.userdata = some vm ∧ vm.receiveUserData text = true

def Received (preset : ModulePreset) : Prop :=
  ∀ m ∈ reg.modules, dataText preset m ≠ "" → Receives m (dataText preset m)

-- The preset's modules fit to each other and to the modules of the system.
def PresetCompatible (preset : ModulePreset) : Prop :=
  ∀ a ∈ reg.modules, ∀ b ∈ reg.modules, a.name ≠ b.name → enables preset a = true →
    (enables preset b = true ∨ b.category = .system) → compatible a b = true

-- Enabled are the preset's modules, besides modules of the system, and each module has its data.
structure Yields (preset : ModulePreset) (s t : PresetModel δ) : Prop where
  running : t.crashed = false
  enabled : ∀ m ∈ reg.modules, m.category ≠ .system → t.enabled m.name = enables preset m
  data : ∀ m ∈ reg.modules, t.data m.name = presetData preset m (s.data m.name)

theorem Yields.of_same (preset : ModulePreset) {s t u : PresetModel δ} (yields : Yields reg preset s t)
    (same : SameModules u t) : Yields reg preset s u :=
  ⟨same.crashed.trans yields.running, same.enabled ▸ yields.enabled, same.data ▸ yields.data⟩

-- The preset that an operation loads, with the answers of SetEnabled on the way.
def requested (s : PresetModel δ) : Operation δ → Option (ModulePreset × (String → Bool) × (String → Bool))
  | .loadPreset name _ first second _ => (getPreset s name).map fun preset => (preset, first, second)
  | .loadExistingPresets _ _ current first second => some (current, first, second)
  | _ => none

-- No preset is loaded by its name while the modules are locked, and the modules take what a preset says for them.
def loadsWell (s : PresetModel δ) : Operation δ → Prop
  | .loadPreset name _ _ _ _ => ∀ preset, getPreset s name = some preset → s.modulesLocked = false ∧ Received reg preset
  | .loadExistingPresets _ _ current _ _ => s.modulesLocked = false → Received reg current
  | _ => True

theorem requested_received (s : PresetModel δ) (op : Operation δ) (well : loadsWell reg s op) (preset : ModulePreset)
    (first second : String → Bool) (asked : requested s op = some (preset, first, second))
    (unlocked : s.modulesLocked = false) : Received reg preset := by
  cases op with
  | loadPreset name now f g opens =>
      obtain ⟨found, there, same⟩ := Option.map_eq_some_iff.mp asked
      cases same
      exact (well preset there).2
  | loadExistingPresets userPresets defaultPresets current f g =>
      cases asked
      exact well unlocked
  | _ => cases asked

section Loading
variable [DecidableEq δ]

def loadData (preset : ModulePreset) (s : PresetModel δ) (m : DevToolsModule δ) : PresetModel δ :=
  if dataText preset m = "" then resetModuleToDefault reg s m true else setModuleData reg s m (dataText preset m) true

theorem load_module_eq (preset : ModulePreset) (succeeds : String → Bool) (s : PresetModel δ) (m : DevToolsModule δ)
    (running : s.crashed = false) :
    loadModule reg preset succeeds s m = loadData reg preset
      (setModuleEnabled reg
        { s with currentModuleData := Function.update s.currentModuleData m.name (some (dataText preset m)) }
        m.name (enables preset m) (succeeds m.name) true) m := by
  cases entry : KeyedValues.get preset.modules m.name <;> simp [loadModule, loadData, running, entry, enables, dataText]

theorem load_data_evolves (preset : ModulePreset) (s : PresetModel δ) (m : DevToolsModule δ) :
    Evolves reg s (loadData reg preset s m) := by
  have placed (result : δ × Option String) : Evolves reg s (withData reg s m result true) :=
    .of_same reg (with_data_same reg s m result true).enabled (with_data_same reg s m result true).modulesLocked
  rw [loadData]
  split
  · exact placed _
  · rw [setModuleData]
    split
    · exact .of_same reg rfl rfl
    · exact placed _

theorem load_data_data (preset : ModulePreset) (s : PresetModel δ) (m : DevToolsModule δ)
    (receives : dataText preset m ≠ "" → Receives m (dataText preset m)) :
    (loadData reg preset s m).data = Function.update s.data m.name (presetData preset m (s.data m.name)) ∧
      (loadData reg preset s m).crashed = s.crashed ∧ (loadData reg preset s m).enabled = s.enabled := by
  have placed (result : δ × Option String) (is : result.1 = presetData preset m (s.data m.name)) :
      (withData reg s m result true).data = Function.update s.data m.name (presetData preset m (s.data m.name)) ∧
        (withData reg s m result true).crashed = s.crashed ∧ (withData reg s m result true).enabled = s.enabled := by
    have same := with_data_same reg s m result true
    exact ⟨is ▸ same.data, same.crashed, same.enabled⟩
  rw [loadData]
  split
  · next empty =>
    refine placed _ ?_
    cases has : m.userdata <;> simp [DevToolsModule.resetToDefaults, presetData, has, empty, applied]
  · next text =>
    obtain ⟨taken, vm, has, alsoTaken⟩ := receives text
    have accepted : m.traceSource.any (fun receiveUserData => !receiveUserData (dataText preset m)) = false := by
      cases source : m.traceSource with
      | none => rfl
      | some receiveUserData => simp [taken receiveUserData source]
    cases read : vm.parse (dataText preset m) with
    | none =>
        simp only [setModuleData, DevToolsModule.loadSerializedData, accepted, has, Option.any_some, alsoTaken, read]
        exact placed _ (by simp [presetData, has, text, read, applied])
    | some data =>
        simp only [setModuleData, DevToolsModule.loadSerializedData, accepted, has, Option.any_some, alsoTaken, read]
        exact placed _ (by simp [presetData, has, text, read, applied])

theorem load_module_evolves (preset : ModulePreset) (succeeds : String → Bool) (s : PresetModel δ) (m : DevToolsModule δ) :
    Evolves reg s (loadModule reg preset succeeds s m) := by
  cases running : s.crashed with
  | true => rw [loadModule, if_pos running]; exact .refl reg s
  | false =>
      rw [load_module_eq reg preset succeeds s m running]
      refine .trans reg (.trans reg ?_ (set_module_enabled_evolves reg _ _ _ _ _)) (load_data_evolves reg preset _ m)
      exact .of_same reg rfl rfl

theorem load_modules_evolve (preset : ModulePreset) (succeeds : String → Bool) (modules : List (DevToolsModule δ))
    (s : PresetModel δ) : Evolves reg s (modules.foldl (loadModule reg preset succeeds) s) := by
  induction modules generalizing s with
  | nil => exact .refl reg s
  | cons m rest ih => exact (load_module_evolves reg preset succeeds s m).trans reg (ih _)

theorem load_module_received (preset : ModulePreset) (succeeds : String → Bool) (s : PresetModel δ) (m : DevToolsModule δ)
    (running : s.crashed = false) (receives : dataText preset m ≠ "" → Receives m (dataText preset m)) :
    (loadModule reg preset succeeds s m).crashed = false ∧
      (loadModule reg preset succeeds s m).data =
        Function.update s.data m.name (presetData preset m (s.data m.name)) := by
  rw [load_module_eq reg preset succeeds s m running]
  obtain ⟨data, crashed, _⟩ := load_data_data reg preset (setModuleEnabled reg
    { s with currentModuleData := Function.update s.currentModuleData m.name (some (dataText preset m)) }
    m.name (enables preset m) (succeeds m.name) true) m receives
  obtain ⟨same, sameCrashed⟩ := set_module_enabled_rest reg
    { s with currentModuleData := Function.update s.currentModuleData m.name (some (dataText preset m)) }
    m.name (enables preset m) (succeeds m.name) true
  rw [same] at data
  exact ⟨crashed.trans (sameCrashed.trans running), data⟩

-- All modules that are enabled belong to the preset or to the system.
def Within (preset : ModulePreset) (s : PresetModel δ) : Prop :=
  ∀ c ∈ reg.modules, s.enabled c.name = true → enables preset c = true ∨ c.category = .system

theorem load_module_enabled (preset : ModulePreset) (succeeds : String → Bool) (s : PresetModel δ) (m : DevToolsModule δ)
    (member : m ∈ reg.modules) (running : s.crashed = false)
    (receives : dataText preset m ≠ "" → Receives m (dataText preset m)) (unlocked : s.modulesLocked = false)
    (succeed : succeeds m.name = true) (fits : PresetCompatible reg preset) (within : Within reg preset s)
    (off : m.category ≠ .system → s.enabled m.name = false) :
    (loadModule reg preset succeeds s m).enabled = Function.update s.enabled m.name
      (enables preset m || (decide (m.category = .system) && s.enabled m.name)) := by
  rw [load_module_eq reg preset succeeds s m running, (load_data_data reg preset _ m receives).2.2, succeed]
  set u := { s with currentModuleData := Function.update s.currentModuleData m.name (some (dataText preset m)) } with u_eq
  have same : u.enabled = s.enabled := rfl
  cases wanted : enables preset m with
  | true =>
      rw [set_module_enabled_enabled reg u m member true true, same, Bool.true_or]
      intro changes
      refine ⟨unlocked, by simp, changes, fun _ => (incompatible_empty reg u m).mpr fun c listed on => ?_⟩
      have apart : m.name ≠ c.name := fun here => changes (by rw [here]; exact on)
      exact fits m member c listed apart wanted (within c listed on)
  | false =>
      by_cases system : m.category = .system
      · have kept : setModuleEnabled reg u m.name false true true = u := by
          obtain unchanged | ⟨c, listed, named, asks, _⟩ := set_module_enabled_cases reg u m.name false true true
          · exact unchanged
          · obtain rfl := same_module reg c m listed member named
            exact absurd system (asks.notSystem rfl)
        rw [kept, same]
        simp [system]
      · rw [set_module_enabled_enabled reg u m member false true fun changes => absurd (off system) changes, same]
        simp [system]

structure Loaded (preset : ModulePreset) (modules : List (DevToolsModule δ)) (s t : PresetModel δ) : Prop where
  running : t.crashed = false
  enabled : ∀ m ∈ modules, m.category ≠ .system → t.enabled m.name = enables preset m
  data : ∀ m ∈ modules, t.data m.name = presetData preset m (s.data m.name)
  elsewhere : ∀ name, name ∉ Keyed.keys DevToolsModule.name modules → t.enabled name = s.enabled name ∧ t.data name = s.data name

theorem load_modules_loaded (preset : ModulePreset) (succeeds : String → Bool)
    (succeed : ∀ m ∈ reg.modules, succeeds m.name = true) (fits : PresetCompatible reg preset)
    (received : Received reg preset) (modules : List (DevToolsModule δ))
    (listed : ∀ m ∈ modules, m ∈ reg.modules) (distinct : (Keyed.keys DevToolsModule.name modules).Nodup)
    (s : PresetModel δ) (running : s.crashed = false) (unlocked : s.modulesLocked = false) (within : Within reg preset s)
    (off : ∀ m ∈ modules, m.category ≠ .system → s.enabled m.name = false) :
    Loaded preset modules s (modules.foldl (loadModule reg preset succeeds) s) := by
  induction modules generalizing s with
  | nil => exact ⟨running, by simp, by simp, fun _ _ => ⟨rfl, rfl⟩⟩
  | cons m rest ih =>
      obtain ⟨member, others⟩ := List.forall_mem_cons.mp listed
      obtain ⟨fresh, restDistinct⟩ := List.nodup_cons.mp distinct
      obtain ⟨mOff, restOff⟩ := List.forall_mem_cons.mp off
      obtain ⟨stillRunning, data⟩ := load_module_received reg preset succeeds s m running (received m member)
      have enabled := load_module_enabled reg preset succeeds s m member running (received m member) unlocked
        (succeed m member) fits within mOff
      have stillUnlocked := (load_module_evolves reg preset succeeds s m).modulesLocked.trans unlocked
      have apart (c : DevToolsModule δ) (later : c ∈ rest) : c.name ≠ m.name := fun same =>
        fresh (same ▸ List.mem_map_of_mem later)
      have stillWithin : Within reg preset (loadModule reg preset succeeds s m) := by
        intro c known on
        rw [enabled] at on
        by_cases here : c.name = m.name
        · obtain rfl := same_module reg c m known member here
          rw [Function.update_self] at on
          exact (Bool.or_eq_true_iff.mp on).imp id fun system => of_decide_eq_true (Bool.and_eq_true_iff.mp system).1
        · rw [Function.update_of_ne here] at on
          exact within c known on
      have tail := ih others restDistinct _ stillRunning stillUnlocked stillWithin fun c later capture => by
        rw [enabled, Function.update_of_ne (apart c later)]
        exact restOff c later capture
      have head := tail.elsewhere m.name fresh
      refine ⟨tail.running, ?_, ?_, ?_⟩
      · intro c either capture
        obtain rfl | later := List.mem_cons.mp either
        · rw [List.foldl_cons, head.1, enabled, Function.update_self]
          simp [capture]
        · exact tail.enabled c later capture
      · intro c either
        obtain rfl | later := List.mem_cons.mp either
        · rw [List.foldl_cons, head.2, data, Function.update_self]
        · rw [List.foldl_cons, tail.data c later, data, Function.update_of_ne (apart c later)]
      · intro name absent
        obtain ⟨here, later⟩ := not_or.mp (fun either => absent (List.mem_cons.mpr either))
        obtain ⟨sameEnabled, sameData⟩ := tail.elsewhere name later
        rw [List.foldl_cons, sameEnabled, sameData, enabled, data, Function.update_of_ne here, Function.update_of_ne here]
        exact ⟨rfl, rfl⟩

-- Whatever was enabled before and in whatever order the modules stand.
theorem load_modules_yields (preset : ModulePreset) (first second : String → Bool) (s : PresetModel δ)
    (running : s.crashed = false) (unlocked : s.modulesLocked = false)
    (firstSucceed : ∀ m ∈ reg.modules, first m.name = true) (secondSucceed : ∀ m ∈ reg.modules, second m.name = true)
    (fits : PresetCompatible reg preset) (received : Received reg preset) :
    Yields reg preset s (loadModules reg s preset first second) := by
  rw [loadModules, if_neg (by simp [unlocked])]
  set cleared := { s with isLoadingPreset := true, currentModuleData := fun _ => none } with cleared_eq
  have step := disable_modules_evolves reg first reg.modules cleared
  obtain ⟨data, crashed⟩ := disable_modules_rest reg first reg.modules cleared
  have off (m : DevToolsModule δ) (member : m ∈ reg.modules) (capture : m.category ≠ .system) :=
    disable_modules_off reg reg.modules (fun _ => id) cleared unlocked first firstSucceed m member capture (.inl member)
  have within : Within reg preset (reg.modules.foldl (disableModule reg first) cleared) := by
    intro c known on
    by_contra neither
    exact absurd on (by simp [off c known fun system => neither (.inr system)])
  have loaded := load_modules_loaded reg preset second secondSucceed fits received reg.modules (fun _ => id) reg.distinct
    _ (crashed.trans running) (step.modulesLocked.trans unlocked) within off
  exact ⟨loaded.running, loaded.enabled, fun m member => by rw [loaded.data m member, data]⟩

theorem load_modules_running (preset : ModulePreset) (first second : String → Bool) (s : PresetModel δ)
    (running : s.crashed = false) (received : s.modulesLocked = false → Received reg preset) :
    (loadModules reg s preset first second).crashed = false := by
  have each (modules : List (DevToolsModule δ)) (listed : ∀ m ∈ modules, m ∈ reg.modules) (receives : Received reg preset)
      (u : PresetModel δ) (here : u.crashed = false) :
      (modules.foldl (loadModule reg preset second) u).crashed = false := by
    induction modules generalizing u with
    | nil => exact here
    | cons m rest ih =>
        obtain ⟨member, later⟩ := List.forall_mem_cons.mp listed
        exact ih later _ (load_module_received reg preset second u m here (receives m member)).1
  rw [loadModules]
  split
  · exact running
  · next unlocked =>
    have start := (disable_modules_rest reg first reg.modules
      { s with isLoadingPreset := true, currentModuleData := fun _ => none }).2.trans running
    exact each reg.modules (fun _ => id) (received (by simpa using unlocked)) _ start

theorem load_modules_evolves (preset : ModulePreset) (first second : String → Bool) (s : PresetModel δ) :
    Evolves reg s (loadModules reg s preset first second) := by
  rw [loadModules]
  split
  · exact .refl reg s
  · set cleared := { s with isLoadingPreset := true, currentModuleData := fun _ => none } with cleared_eq
    have start : Evolves reg s cleared := .of_same reg rfl rfl
    have disabled := disable_modules_evolves reg first reg.modules cleared
    have loaded := load_modules_evolve reg preset second reg.modules (reg.modules.foldl (disableModule reg first) cleared)
    exact (start.trans reg (disabled.trans reg loaded)).trans reg (.of_same reg rfl rfl)

-- The modules come out of LoadPreset as its loop leaves them.
theorem load_preset_same (s : PresetModel δ) (name : String) (now : Nat) (first second : String → Bool) (opens : Bool)
    (preset : ModulePreset) (found : getPreset s name = some preset) :
    SameModules (loadPreset reg s name now first second opens) (loadModules reg s preset first second) := by
  simp only [loadPreset, found]
  split
  · exact ⟨rfl, rfl, rfl, rfl⟩
  · have same := save_presets_same reg
      { loadModules reg s preset first second with
        presets := setLastLoaded (loadModules reg s preset first second).presets name now } opens
    exact ⟨same.enabled, same.modulesLocked, same.data, same.crashed⟩

structure LoadsFaithfully (s : PresetModel δ) (op : Operation δ) : Prop where
  compatible : PairwiseCompatible reg (apply reg s op)
  system : KeepsSystem reg s (apply reg s op)
  yields : ∀ preset first second, requested s op = some (preset, first, second) → s.modulesLocked = false →
    (∀ m ∈ reg.modules, first m.name = true) → (∀ m ∈ reg.modules, second m.name = true) →
    PresetCompatible reg preset → Yields reg preset s (apply reg s op)
  locked : ∀ name now first second opens, op = .loadPreset name now first second opens → s.modulesLocked = true →
    apply reg s op = s

theorem apply_yields (s : PresetModel δ) (op : Operation δ) (running : s.crashed = false) (well : loadsWell reg s op)
    (preset : ModulePreset) (first second : String → Bool) (asked : requested s op = some (preset, first, second))
    (unlocked : s.modulesLocked = false) (firstSucceed : ∀ m ∈ reg.modules, first m.name = true)
    (secondSucceed : ∀ m ∈ reg.modules, second m.name = true) (fits : PresetCompatible reg preset) :
    Yields reg preset s (apply reg s op) := by
  have received := requested_received reg s op well preset first second asked unlocked
  cases op with
  | loadPreset name now f g opens =>
      obtain ⟨found, there, same⟩ := Option.map_eq_some_iff.mp asked
      cases same
      have yields := load_modules_yields reg preset first second s running unlocked firstSucceed secondSucceed fits received
      exact yields.of_same reg preset (load_preset_same reg s name now first second opens preset there)
  | loadExistingPresets userPresets defaultPresets current f g =>
      cases asked
      have yields := load_modules_yields reg preset first second
        { s with presets := addDefaultPresets userPresets defaultPresets } running unlocked firstSucceed
        secondSucceed fits received
      exact ⟨yields.running, yields.enabled, yields.data⟩
  | _ => cases asked

-- Only loading may crash, and what has been received does not.
theorem apply_evolves (s : PresetModel δ) (op : Operation δ) (running : s.crashed = false) (well : loadsWell reg s op) :
    (apply reg s op).crashed = false ∧ (PairwiseCompatible reg s → PairwiseCompatible reg (apply reg s op)) ∧
      KeepsSystem reg s (apply reg s op) := by
  have by_evolving (t : PresetModel δ) (stays : t.crashed = false) (evolves : Evolves reg s t) :
      t.crashed = false ∧ (PairwiseCompatible reg s → PairwiseCompatible reg t) ∧ KeepsSystem reg s t :=
    ⟨stays, evolves.compatible, evolves.system⟩
  have same_modules (t : PresetModel δ) (same : t.enabled = s.enabled) (stays : t.crashed = s.crashed) :
      t.crashed = false ∧ (PairwiseCompatible reg s → PairwiseCompatible reg t) ∧ KeepsSystem reg s t := by
    rw [PairwiseCompatible, PairwiseCompatible, KeepsSystem, same, stays]
    exact ⟨running, id, fun _ _ _ => id⟩
  cases op with
  | setModuleEnabled name isEnabled succeeds opens =>
      exact by_evolving _ ((set_module_enabled_rest reg s name isEnabled succeeds opens).2.trans running)
        (set_module_enabled_evolves reg s name isEnabled succeeds opens)
  | loadPreset name now first second opens =>
      cases found : getPreset s name with
      | none =>
          have nothing : apply reg s (.loadPreset name now first second opens) = s := by simp [apply, loadPreset, found]
          rw [nothing]
          exact by_evolving s running (.refl reg s)
      | some preset =>
          have same := load_preset_same reg s name now first second opens preset found
          have evolves := (load_modules_evolves reg preset first second s).trans reg
            (.of_same reg same.enabled same.modulesLocked)
          have stays := load_modules_running reg preset first second s running fun _ => (well preset found).2
          exact by_evolving _ (same.crashed.trans stays) evolves
  | loadExistingPresets userPresets defaultPresets current first second =>
      have evolves := load_modules_evolves reg current first second
        { s with presets := addDefaultPresets userPresets defaultPresets }
      have stays := load_modules_running reg current first second
        { s with presets := addDefaultPresets userPresets defaultPresets } running well
      exact ⟨stays, evolves.compatible, evolves.system⟩
  | lockModules => exact same_modules _ rfl rfl
  | unlockModules => exact same_modules _ rfl rfl
  | createOrUpdatePreset name now =>
      simp only [apply, createOrUpdatePreset]
      split
      · exact same_modules _ rfl rfl
      · split <;> exact same_modules _ rfl rfl
  | deletePreset name opens =>
      have same := save_presets_same reg
        { s with presets := s.presets.filter fun preset => !(decide (preset.name = name) && !preset.isBuiltIn) } opens
      exact same_modules _ same.enabled same.crashed
  | performUpdate name new opens =>
      simp only [apply, performUpdate]
      split
      · exact same_modules _ rfl rfl
      · split
        · exact same_modules _ rfl rfl
        · next _ m _ _ vm _ =>
          have same := with_data_same reg s m (applied vm (s.data m.name) new) opens
          exact same_modules _ same.enabled same.crashed

theorem apply_locked (s : PresetModel δ) (name : String) (now : Nat) (first second : String → Bool) (opens : Bool)
    (well : loadsWell reg s (.loadPreset name now first second opens)) (locked : s.modulesLocked = true) :
    apply reg s (.loadPreset name now first second opens) = s := by
  cases found : getPreset s name with
  | none => simp [apply, loadPreset, found]
  | some preset => exact absurd (well preset found).1 (by simp [locked])

-- In every run that loads well each operation leaves the modules as the preset, the lock and their compatibility say.
theorem presets_load_faithfully (data : String → δ) (file : PresetFile) (operations : List (Operation δ))
    (well : Meets (machine reg data file) (loadsWell reg) (created data file) operations) :
    Meets (machine reg data file) (LoadsFaithfully reg) (created data file) operations := by
  refine meets_within (machine reg data file) _ _ (fun s => PairwiseCompatible reg s ∧ s.crashed = false) ?_ _ ?_ operations well
  · rintro s op t ⟨compatible, running⟩ next allowed
    have taken : apply reg s op = t := by simpa [machine, step, running] using next
    obtain ⟨stays, keeps, system⟩ := apply_evolves reg s op running allowed
    refine ⟨⟨keeps compatible, system, ?_, ?_⟩, taken ▸ keeps compatible, taken ▸ stays⟩
    · exact apply_yields reg s op running allowed
    · rintro name now first second opens rfl locked
      exact apply_locked reg s name now first second opens allowed locked
  · exact ⟨by simp [PairwiseCompatible, created], rfl⟩

end Loading

-- One module whose data is a number, with the text of 7 as the only one it can read.
def sampleRegistry : Registry Nat where
  modules :=
    [{ name := "Profiling"
       category := .capture
       isCompatibleWithModuleNamed := fun _ => true
       traceSource := some fun text => text = "7"
       userdata := some ⟨fun _ => true, fun text => if text = "7" then some 7 else none, id, fun _ => 0, fun _ => "7"⟩ }]
  distinct := by decide

theorem daily_preset_loads :
    Meets (machine sampleRegistry (fun _ => 0) ⟨[], []⟩) (LoadsFaithfully sampleRegistry) (created (fun _ => 0) ⟨[], []⟩)
      [.performUpdate "Profiling" 7 true, .setModuleEnabled "Profiling" true true true, .createOrUpdatePreset "daily" 1,
        .loadPreset "daily" 2 (fun _ => true) (fun _ => true) true] := by
  refine presets_load_faithfully sampleRegistry (fun _ => 0) ⟨[], []⟩ _ ?_
  rintro s ⟨⟩
  refine ⟨trivial, ?_⟩
  rintro s ⟨⟩
  refine ⟨trivial, ?_⟩
  rintro s ⟨⟩
  refine ⟨trivial, fun s _ => ⟨?_, trivial⟩⟩
  rintro preset ⟨⟩
  refine ⟨rfl, fun m member _ => ?_⟩
  obtain rfl := List.mem_singleton.mp member
  exact ⟨by rintro receiveUserData ⟨⟩; rfl, _, rfl, rfl⟩

-- A locked LoadPreset still changes the preset and the file, and a text that
-- cannot be read leaves the module with what it had.
theorem presets_load_unfaithfully :
    ((exec (machine sampleRegistry (fun _ => 0) ⟨[], []⟩) (created (fun _ => 0) ⟨[], []⟩)
        [.createOrUpdatePreset "daily" 1, .lockModules]).any fun s =>
      let t := apply sampleRegistry s (.loadPreset "daily" 2 (fun _ => true) (fun _ => true) true)
      s.modulesLocked = true ∧ s.presets.map ModulePreset.lastLoaded = [1] ∧
        t.presets.map ModulePreset.lastLoaded = [2] ∧ s.file.presets = [] ∧ t.file.presets ≠ []) = true ∧
    ((exec (machine sampleRegistry (fun _ => 0) ⟨[], []⟩) (created (fun _ => 0) ⟨[], []⟩)
        [.loadExistingPresets [⟨"mine", [("Profiling", ⟨true, "\x7b"⟩)], false, 0⟩] [] ⟨"", [], false, 0⟩
          (fun _ => true) (fun _ => true), .performUpdate "Profiling" 5 true]).any fun s =>
      let t := apply sampleRegistry s (.loadPreset "mine" 2 (fun _ => true) (fun _ => true) true)
      s.modulesLocked = false ∧ t.data "Profiling" = 5) = true := by
  decide

end RadeonPanel.Frontend.Presets.PresetModel

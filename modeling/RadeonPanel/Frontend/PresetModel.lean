import RadeonPanel.Base.KeyedValues
import RadeonPanel.Base.Runs
import RadeonPanel.Frontend.ApplicationModel

set_option autoImplicit false

namespace RadeonPanel.Frontend.Presets

open Interleaving

inductive ModuleCategory where
  | capture
  | system
deriving DecidableEq, Repr

-- What a module's userdata view model does to its data; `parse` is its mapper.
structure UserdataViewModel (δ : Type) where
  receiveUserData : String → Bool
  parse : String → Option δ
  validateData : δ → δ
  initializeDefaults : δ → δ
  serialize : δ → String

-- A module with the answers of its virtual functions. `traceSource` is what its
-- trace source view model answers to user data. Either view model may be missing.
structure DevToolsModule (δ : Type) where
  name : String
  category : ModuleCategory
  isCompatibleWithModuleNamed : String → Bool
  traceSource : Option (String → Bool)
  userdata : Option (UserdataViewModel δ)

-- The registered modules; registering asserts that the name is new.
structure Registry (δ : Type) where
  modules : List (DevToolsModule δ)
  distinct : (Keyed.keys DevToolsModule.name modules).Nodup

structure ModuleState where
  enabled : Bool
  serializedData : String
deriving DecidableEq, Repr

structure ModulePreset where
  name : String
  modules : List (String × ModuleState)
  isBuiltIn : Bool
  lastLoaded : Nat
deriving DecidableEq, Repr

structure PresetFile where
  current : List (String × ModuleState)
  presets : List ModulePreset
deriving DecidableEq, Repr

section Data
variable {δ : Type} [DecidableEq δ]

-- The data with what has been passed on to be saved.
def applied (vm : UserdataViewModel δ) (old new : δ) : δ × Option String :=
  (new, if new = old then none else some (vm.serialize new))

namespace DevToolsModule
variable (m : DevToolsModule δ) (data : δ)

def resetToDefaults : δ × Option String :=
  match m.userdata with
  | none => (data, none)
  | some vm => applied vm data (vm.initializeDefaults data)

-- The last call is made whether there is a view model or not.
def loadSerializedData (text : String) : Option (Bool × δ × Option String) :=
  if m.traceSource.any (fun receiveUserData => !receiveUserData text) then some (false, data, none)
  else if m.userdata.any (fun vm => !vm.receiveUserData text) then some (false, data, none)
  else
    match m.userdata with
    | none => none
    | some vm =>
        match vm.parse text with
        | some read => some (true, applied vm read (vm.validateData read))
        | none => some (false, applied vm data (vm.initializeDefaults data))

end DevToolsModule
end Data

-- The module model with the preset model on top of it. Enabled states and data
-- are by the modules' names; `crashed` is set by a call on a null pointer.
structure PresetModel (δ : Type) where
  enabled : String → Bool
  modulesLocked : Bool
  data : String → δ
  presets : List ModulePreset
  isLoadingPreset : Bool
  currentModuleData : String → Option String
  file : PresetFile
  crashed : Bool

namespace PresetModel

section Operations
variable {δ : Type} [DecidableEq δ] (reg : Registry δ) (s : PresetModel δ)

def compatible (a b : DevToolsModule δ) : Bool :=
  a.isCompatibleWithModuleNamed b.name && b.isCompatibleWithModuleNamed a.name

def getIncompatibleEnabledModules (m : DevToolsModule δ) : List (DevToolsModule δ) :=
  reg.modules.filter fun candidate => s.enabled candidate.name && !compatible m candidate

def buildCurrentModulePreset : List (String × ModuleState) :=
  reg.modules.map fun m => (m.name, ⟨s.enabled m.name, (s.currentModuleData m.name).getD ""⟩)

def savePresets (opens : Bool) : PresetModel δ :=
  if opens then { s with file := ⟨buildCurrentModulePreset reg s, s.presets⟩ } else s

def onModuleStatusChanged (opens : Bool) : PresetModel δ :=
  if s.isLoadingPreset then s else savePresets reg s opens

-- `succeeds` is what SetEnabled returns. Where it does not succeed the module
-- stays as it was.
def setModuleEnabled (name : String) (isEnabled succeeds opens : Bool) : PresetModel δ :=
  if s.modulesLocked then s
  else
    match Keyed.lookup DevToolsModule.name reg.modules name with
    | none => s
    | some m =>
        if isEnabled = false ∧ m.category = .system then s
        else if s.enabled m.name = isEnabled then s
        else if isEnabled = true ∧ getIncompatibleEnabledModules reg s m ≠ [] then s
        else if succeeds then
          onModuleStatusChanged reg { s with enabled := Function.update s.enabled m.name isEnabled } opens
        else s

def serializeModule (name text : String) (opens : Bool) : PresetModel δ :=
  onModuleStatusChanged reg { s with currentModuleData := Function.update s.currentModuleData name (some text) } opens

-- A module's data is replaced, and what has to be saved is passed on.
def withData (m : DevToolsModule δ) (result : δ × Option String) (opens : Bool) : PresetModel δ :=
  let s := { s with data := Function.update s.data m.name result.1 }
  match result.2 with
  | none => s
  | some text => serializeModule reg s m.name text opens

def resetModuleToDefault (m : DevToolsModule δ) (opens : Bool) : PresetModel δ :=
  withData reg s m (m.resetToDefaults (s.data m.name)) opens

def setModuleData (m : DevToolsModule δ) (text : String) (opens : Bool) : PresetModel δ :=
  match m.loadSerializedData (s.data m.name) text with
  | none => { s with crashed := true }
  | some (_, result) => withData reg s m result opens

def getPreset (name : String) : Option ModulePreset := s.presets.find? fun preset => preset.name = name

-- What LoadPreset does for one module after all have been disabled.
def loadModule (preset : ModulePreset) (succeeds : String → Bool) (s : PresetModel δ) (m : DevToolsModule δ) :
    PresetModel δ :=
  if s.crashed then s
  else
    match KeyedValues.get preset.modules m.name with
    | some state =>
        let s := { s with currentModuleData := Function.update s.currentModuleData m.name (some state.serializedData) }
        let s := setModuleEnabled reg s m.name state.enabled (succeeds m.name) true
        if state.serializedData = "" then resetModuleToDefault reg s m true
        else setModuleData reg s m state.serializedData true
    | none =>
        let s := { s with currentModuleData := Function.update s.currentModuleData m.name (some "") }
        resetModuleToDefault reg (setModuleEnabled reg s m.name false (succeeds m.name) true) m true

def disableModule (succeeds : String → Bool) (s : PresetModel δ) (m : DevToolsModule δ) : PresetModel δ :=
  setModuleEnabled reg s m.name false (succeeds m.name) true

-- `first` are the answers of SetEnabled while all modules are disabled, `second`
-- those while the preset's are enabled. Nothing is saved while the preset loads.
def loadModules (preset : ModulePreset) (first second : String → Bool) : PresetModel δ :=
  if s.modulesLocked then s
  else
    let s := { s with isLoadingPreset := true, currentModuleData := fun _ => none }
    let s := reg.modules.foldl (disableModule reg first) s
    let s := reg.modules.foldl (loadModule reg preset second) s
    { s with isLoadingPreset := false }

def setLastLoaded (presets : List ModulePreset) (name : String) (now : Nat) : List ModulePreset :=
  Keyed.modify ModulePreset.name presets name fun preset => { preset with lastLoaded := now }

def loadPreset (name : String) (now : Nat) (first second : String → Bool) (opens : Bool) : PresetModel δ :=
  match getPreset s name with
  | none => s
  | some preset =>
      let s := loadModules reg s preset first second
      if s.crashed then s else savePresets reg { s with presets := setLastLoaded s.presets name now } opens

def addDefaultPresets (userPresets defaultPresets : List ModulePreset) : List ModulePreset :=
  defaultPresets.foldl (fun presets preset =>
    if presets.any fun known => known.name = preset.name then presets else presets ++ [preset]) userPresets

def loadExistingPresets (userPresets defaultPresets : List ModulePreset) (current : ModulePreset)
    (first second : String → Bool) : PresetModel δ :=
  loadModules reg { s with presets := addDefaultPresets userPresets defaultPresets } current first second

def createOrUpdatePreset (name : String) (now : Nat) : PresetModel δ :=
  match getPreset s name with
  | some _ =>
      { s with
        presets := Keyed.modify ModulePreset.name s.presets name fun preset =>
          { preset with modules := buildCurrentModulePreset reg s } }
  | none =>
      if trimmed name = "" then s
      else { s with presets := s.presets ++ [⟨trimmed name, buildCurrentModulePreset reg s, false, now⟩] }

def deletePreset (name : String) (opens : Bool) : PresetModel δ :=
  savePresets reg
    { s with presets := s.presets.filter fun preset => !(decide (preset.name = name) && !preset.isBuiltIn) } opens

-- The user changes a module's data in its view.
def performUpdate (name : String) (new : δ) (opens : Bool) : PresetModel δ :=
  match Keyed.lookup DevToolsModule.name reg.modules name with
  | none => s
  | some m =>
      match m.userdata with
      | none => s
      | some vm => withData reg s m (applied vm (s.data m.name) new) opens

end Operations

inductive Operation (δ : Type) where
  | setModuleEnabled (name : String) (isEnabled succeeds opens : Bool)
  | loadPreset (name : String) (now : Nat) (first second : String → Bool) (opens : Bool)
  | loadExistingPresets (userPresets defaultPresets : List ModulePreset) (current : ModulePreset)
      (first second : String → Bool)
  | lockModules
  | unlockModules
  | createOrUpdatePreset (name : String) (now : Nat)
  | deletePreset (name : String) (opens : Bool)
  | performUpdate (name : String) (new : δ) (opens : Bool)

variable {δ : Type} [DecidableEq δ]

def apply (reg : Registry δ) (s : PresetModel δ) : Operation δ → PresetModel δ
  | .setModuleEnabled name isEnabled succeeds opens => setModuleEnabled reg s name isEnabled succeeds opens
  | .loadPreset name now first second opens => loadPreset reg s name now first second opens
  | .loadExistingPresets userPresets defaultPresets current first second =>
      loadExistingPresets reg s userPresets defaultPresets current first second
  | .lockModules => { s with modulesLocked := true }
  | .unlockModules => { s with modulesLocked := false }
  | .createOrUpdatePreset name now => createOrUpdatePreset reg s name now
  | .deletePreset name opens => deletePreset reg s name opens
  | .performUpdate name new opens => performUpdate reg s name new opens

def step (reg : Registry δ) (s : PresetModel δ) (op : Operation δ) : Option (PresetModel δ) :=
  if s.crashed then none else some (apply reg s op)

-- Before anything is loaded no module is enabled.
def created (data : String → δ) (file : PresetFile) : PresetModel δ :=
  ⟨fun _ => false, false, data, [], false, fun _ => none, file, false⟩

def machine (reg : Registry δ) (data : String → δ) (file : PresetFile) : Machine (PresetModel δ) (Operation δ) :=
  ⟨created data file, step reg⟩

end PresetModel

end RadeonPanel.Frontend.Presets

import RadeonPanel.Base.Settings
import RadeonPanel.Frontend.ApplicationModel

set_option autoImplicit false

namespace RadeonPanel.Frontend

open Interleaving Settings KeyedValues

def kManagedApplicationsGroup : String := "Managed Applications"

def managedApplicationsPath : Path := [.group kManagedApplicationsGroup, .group "applications"]

def kSettingApiFilter : Path := [.group kManagedApplicationsGroup, .group "apiFilter"]

def kSettingAutoConnectMode : Path := [.group kManagedApplicationsGroup, .group "autoConnectMode"]

-- The numbers of `ApiModel::Api`.
def ApiFilter.value : ApiFilter → UInt8
  | .only .unknown => 0
  | .only .directX12 => 1
  | .only .directX11 => 2
  | .only .directX9 => 3
  | .only .vulkan => 4
  | .only .openCl => 5
  | .only .hip => 6
  | .only .openGl => 7
  | .workflowSupported => 9

def ApiFilter.ofValue (value : UInt8) : Option ApiFilter :=
  [.only .unknown, .only .directX12, .only .directX11, .only .directX9, .only .vulkan, .only .openCl, .only .hip,
    .only .openGl, .workflowSupported].find? fun filter : ApiFilter => filter.value = value

-- `isSupported` is what the API model says of the APIs of the current system.
def ApiFilter.isSupported (isSupported : Api → Bool) (value : UInt8) : Bool :=
  match ofValue value with
  | some .workflowSupported => true
  | some (.only api) => isSupported api
  | none => false

-- A number that names no mode is kept, and filters no client.
def ApplicationAutoConnectMode.ofValue (value : UInt8) : ApplicationAutoConnectMode :=
  if value = 1 then .existingApplications else if value = 2 then .noApplications else .anyApplication

-- The application model with the settings file it saves into, and what it has loaded of it and
-- not applied yet. `mode` is the number of the panel's mode.
structure ManagedApplications where
  panel : Panel
  mode : UInt8
  loadedApiFilter : Option UInt8
  loadedAutoConnectMode : Option UInt8
  settings : Store

namespace ManagedApplications

def load (settings : Store) : ManagedApplications :=
  if .group kManagedApplicationsGroup ∈ childGroups settings then
    { panel := .initial (readArray settings managedApplicationsPath)
      mode := 0
      loadedApiFilter := some (.ofInt (value settings kSettingApiFilter (.number 0)).toInt)
      loadedAutoConnectMode := some (.ofInt (value settings kSettingAutoConnectMode (.number 0)).toInt)
      settings := settings }
  else ⟨.initial [], 0, none, none, settings⟩

inductive Event where
  | shouldClientBeIgnored (models : Option Models) (info : DdConnectionInfo)
  | onDriverConnected (info : DdConnectionInfo)
  | onDriverDisconnected (id : DdConnectionId)
  | addApplication (name : String)
  | setData (row : Nat) (value : String)
  | removeRows (row count : Int)
  | setBlocklist (blocklist : Option (String → Bool))
  | onBlocklistItemChanged (name : String)
  | setAutoConnectionMode (mode : UInt8)
  | setApiFilter (apiModel : Option (Api → Bool)) (api : UInt8)
  | onApiModelLoaded (isSupported : Api → Bool)
  | onModuleStatusChanged (isApiSupportedByEnabledModules : Option (ApiFilter → Bool)) (isEnabled : Bool)

section Operations
variable (sameName : String → String → Bool) (s : ManagedApplications)

def names : List String := s.panel.applications.map Application.name

def save : ManagedApplications :=
  { s with
    settings :=
      assign (assign (writeArray s.settings managedApplicationsPath s.names) kSettingApiFilter
        (.number s.panel.apiFilter.value.toNat)) kSettingAutoConnectMode (.number s.mode.toNat) }

def addApplication (name : String) : ManagedApplications :=
  if trimmed name = "" then s
  else if s.panel.hasEntryForName (trimmed name) then s
  else if s.panel.blocklistContains (trimmed name) then s
  else save { s with panel := s.panel.addApplication name }

def onDriverConnected (info : DdConnectionInfo) : ManagedApplications :=
  { s.addApplication info.processName with panel := (s.addApplication info.processName).panel.connectClient info }

-- It saves also when another application has the name already.
def setData (row : Nat) (value : String) : ManagedApplications :=
  match s.panel.applications[row]? with
  | none => { s with panel := s.panel.crash }
  | some _ =>
      if trimmed value = "" then s
      else if s.panel.blocklistContains (trimmed value) then s
      else save { s with panel := s.panel.setData row value }

def removeRows (row count : Int) : ManagedApplications :=
  match anyAlive s.panel.applications row count.toNat with
  | none => { s with panel := s.panel.crash }
  | some true => s
  | some false =>
      if row < 0 then s
      else
        match eraseRows s.panel.applications row.toNat count.toNat with
        | none => { s with panel := s.panel.crash }
        | some applications => save { s with panel := { s.panel with applications := applications } }

def onBlocklistItemChanged (name : String) : ManagedApplications :=
  match s.panel.indexForName sameName name with
  | none => s
  | some row =>
      match s.panel.applications[row]? with
      | none => { s with panel := s.panel.crash }
      | some app => if app.isAlive then s else s.removeRows row 1

def setAutoConnectionMode (mode : UInt8) : ManagedApplications :=
  save { s with mode := mode, panel := { s.panel with autoConnectMode := .ofValue mode } }

def setApiFilter (apiModel : Option (Api → Bool)) (api : UInt8) : ManagedApplications :=
  match apiModel with
  | none => s
  | some isSupported =>
      match ApiFilter.ofValue api with
      | none => s
      | some filter =>
          if ApiFilter.isSupported isSupported api then save { s with panel := { s.panel with apiFilter := filter } } else s

def applyLoadedFilter (isSupported : Api → Bool) : ManagedApplications :=
  match s.loadedApiFilter with
  | none => s
  | some value =>
      { (if ApiFilter.isSupported isSupported value then s.setApiFilter (some isSupported) value else s) with
        loadedApiFilter := none }

def applyLoadedMode : ManagedApplications :=
  match s.loadedAutoConnectMode with
  | none => s
  | some value => { s.setAutoConnectionMode value with loadedAutoConnectMode := none }

def onApiModelLoaded (isSupported : Api → Bool) : ManagedApplications := (s.applyLoadedFilter isSupported).applyLoadedMode

-- The only change that is not saved.
def onModuleStatusChanged (isApiSupportedByEnabledModules : Option (ApiFilter → Bool)) (isEnabled : Bool) :
    ManagedApplications :=
  match isApiSupportedByEnabledModules with
  | none => s
  | some isSupported =>
      if !isEnabled && !isSupported s.panel.apiFilter then
        { s with panel := { s.panel with apiFilter := .workflowSupported } }
      else s

def accepting (info : DdConnectionInfo) : ManagedApplications :=
  { s with panel := { s.panel with accepted := s.panel.accepted.erase info, live := s.panel.live ++ [info] } }

def event : Event → Option ManagedApplications
  | .shouldClientBeIgnored models info =>
      (s.panel.event sameName (.shouldClientBeIgnored models info)).map fun panel => { s with panel := panel }
  | .onDriverConnected info =>
      if info ∈ s.panel.accepted ∧ info.umdConnectionId ∉ s.panel.live.map DdConnectionInfo.umdConnectionId then
        some ((s.accepting info).onDriverConnected info)
      else none
  | .onDriverDisconnected id =>
      (s.panel.event sameName (.onDriverDisconnected id)).map fun panel => { s with panel := panel }
  | .addApplication name => some (s.addApplication name)
  | .setData row value => some (s.setData row value)
  | .removeRows row count => some (s.removeRows row count)
  | .setBlocklist blocklist =>
      (s.panel.event sameName (.setBlocklist blocklist)).map fun panel => { s with panel := panel }
  | .onBlocklistItemChanged name => some (s.onBlocklistItemChanged sameName name)
  | .setAutoConnectionMode mode => some (s.setAutoConnectionMode mode)
  | .setApiFilter apiModel api => some (s.setApiFilter apiModel api)
  | .onApiModelLoaded isSupported => some (s.onApiModelLoaded isSupported)
  | .onModuleStatusChanged isApiSupportedByEnabledModules isEnabled =>
      some (s.onModuleStatusChanged isApiSupportedByEnabledModules isEnabled)

def step (e : Event) : Option ManagedApplications := if s.panel.crashed then none else s.event sameName e

end Operations

-- The panel as it starts on the stored settings.
def machine (sameName : String → String → Bool) (settings : Store) : Machine ManagedApplications Event :=
  ⟨load settings, step sameName⟩

end ManagedApplications

end RadeonPanel.Frontend

import RadeonPanel.Base.Keyed
import RadeonPanel.Base.Runs
import RadeonPanel.Connections.Types

set_option autoImplicit false

namespace RadeonPanel.Frontend

open Interleaving

-- The characters that QChar::isSpace names.
def isSpace (c : Char) : Bool :=
  c.val ∈ [0x20, 0x85, 0xa0, 0x1680, 0x2028, 0x2029, 0x202f, 0x205f, 0x3000] || (0x09 ≤ c.val && c.val ≤ 0x0d) ||
    (0x2000 ≤ c.val && c.val ≤ 0x200a)

def trimmed (name : String) : String :=
  .ofList ((name.toList.dropWhile isSpace).reverse.dropWhile isSpace).reverse

structure UmdConnection where
  processId : UInt32
  umdConnectionId : DdConnectionId
  clientDriverDescription : Option String
deriving DecidableEq, Repr

structure Application where
  name : String
  connections : List UmdConnection
deriving DecidableEq, Repr

namespace Application
variable (app : Application)

def getClientCount : Nat := app.connections.length

def isAlive : Bool := 0 < app.getClientCount

def getProcessId : UInt32 := (app.connections.head?.map UmdConnection.processId).getD 0

def clientConnected (info : DdConnectionInfo) : Application :=
  match Keyed.lookup UmdConnection.umdConnectionId app.connections info.umdConnectionId with
  | some _ => app
  | none =>
      { app with
        connections := app.connections ++ [⟨info.processId, info.umdConnectionId, info.description⟩] }

def clientDisconnected (id : DdConnectionId) : Application :=
  { app with connections := Keyed.remove UmdConnection.umdConnectionId app.connections id }

end Application

inductive ApplicationAutoConnectMode where
  | anyApplication
  | existingApplications
  | noApplications
deriving DecidableEq, Repr

inductive ApiFilter where
  | workflowSupported
  | only (api : Api)
deriving DecidableEq, Repr

def apiOfDescription (description : Option String) : Api :=
  match description with
  | some "AMD OpenCL Driver" => .openCl
  | some "AMD HIP Driver" => .hip
  | some "AMD Vulkan Driver" => .vulkan
  | some "AMD DirectX12 Driver" => .directX12
  | some "AMD DirectX9 Driver" => .directX9
  | some "AMD DirectX10/11 Driver" => .directX11
  | some "AMD OpenGL Driver" => .openGl
  | _ => .unknown

-- What the API model and the module model say.
structure Models where
  hasModulesNeedingConnections : Bool
  isSupported : Api → Bool
  isApiSupportedByEnabledModules : Api → Bool

-- The application model with the lock of the module model. `blocklist` is what
-- the blocklist contains, none while there is no blocklist model. `accepted` are
-- the clients that the filter has let through and that are still to connect,
-- `live` the driver connections there are. After a crash nothing happens any more.
structure Panel where
  applications : List Application
  blocklist : Option (String → Bool)
  autoConnectMode : ApplicationAutoConnectMode
  apiFilter : ApiFilter
  modulesLocked : Bool
  accepted : List DdConnectionInfo
  live : List DdConnectionInfo
  crashed : Bool

-- The application at a row, unless the row is outside.
def atRow (applications : List Application) (row : Int) : Option Application :=
  if row < 0 then none else applications[row.toNat]?

def anyAlive (applications : List Application) (row : Int) : Nat → Option Bool
  | 0 => some false
  | count + 1 =>
      match atRow applications row with
      | none => none
      | some app => if app.isAlive then some true else anyAlive applications (row + 1) count

-- The row goes up although the rows behind the erased one have moved down.
def eraseRows (applications : List Application) (row : Nat) : Nat → Option (List Application)
  | 0 => some applications
  | count + 1 =>
      if row < applications.length then eraseRows (applications.eraseIdx row) (row + 1) count else none

-- The applications and the lock after a connection has ended, for every application in turn.
def disconnectEach (id : DdConnectionId) : List Application → Bool → List Application × Bool
  | [], locked => ([], locked)
  | app :: rest, locked =>
      let after := app.clientDisconnected id
      let later := disconnectEach id rest (if app.isAlive && !after.isAlive then false else locked)
      (after :: later.1, later.2)

inductive Action where
  | shouldClientBeIgnored (models : Option Models) (info : DdConnectionInfo)
  | onDriverConnected (info : DdConnectionInfo)
  | onDriverDisconnected (id : DdConnectionId)
  | addApplication (name : String)
  | setData (row : Nat) (value : String)
  | removeRows (row count : Int)
  | setBlocklist (blocklist : Option (String → Bool))
  | onBlocklistItemChanged (name : String)
  | setAutoConnectMode (mode : ApplicationAutoConnectMode)
  | setApiFilter (filter : ApiFilter)

namespace Panel

-- The comparison of names in `IndexForName`: it ignores the case on Windows.
variable (sameName : String → String → Bool) (s : Panel)

def crash : Panel := { s with crashed := true }

def findApplicationForName (name : String) : Option Application :=
  Keyed.lookup Application.name s.applications name

def hasEntryForName (name : String) : Bool := (s.findApplicationForName name).isSome

def indexForName (name : String) : Option Nat := s.applications.findIdx? fun app => sameName name app.name

def blocklistContains (name : String) : Bool := s.blocklist.any (· name)

def hasConnectedClients (processId : UInt32) : Bool :=
  s.applications.any fun app => app.isAlive && app.getProcessId ≠ processId

def isClientFilteredByBlocklist (info : DdConnectionInfo) : Bool := s.blocklist.isNone || s.blocklistContains info.processName

def isClientFilteredByAutoConnectMode (info : DdConnectionInfo) : Bool :=
  match s.autoConnectMode with
  | .anyApplication => false
  | .existingApplications => !s.hasEntryForName info.processName
  | .noApplications => true

def isClientFilteredByApi (models : Models) (api : Api) : Bool :=
  !models.isSupported api ||
    match s.apiFilter with
    | .workflowSupported => !models.isApiSupportedByEnabledModules api
    | .only filter => api ≠ filter

def shouldClientBeIgnored (models : Option Models) (info : DdConnectionInfo) : Bool :=
  match models with
  | none => true
  | some models =>
      !models.hasModulesNeedingConnections || s.isClientFilteredByApi models (apiOfDescription info.description) ||
        s.isClientFilteredByBlocklist info || s.isClientFilteredByAutoConnectMode info ||
        s.hasConnectedClients info.processId

def addApplication (name : String) : Panel :=
  let trimmedName := trimmed name
  if trimmedName = "" then s
  else if s.hasEntryForName trimmedName then s
  else if s.blocklistContains trimmedName then s
  else { s with applications := s.applications ++ [⟨trimmedName, []⟩] }

def connectClient (info : DdConnectionInfo) : Panel :=
  match s.findApplicationForName info.processName with
  | none => s.crash
  | some app =>
      { s with
        applications :=
          Keyed.modify Application.name s.applications info.processName (·.clientConnected info)
        modulesLocked := if app.isAlive then s.modulesLocked else true }

def onDriverConnected (info : DdConnectionInfo) : Panel := (s.addApplication info.processName).connectClient info

def onDriverDisconnected (id : DdConnectionId) : Panel :=
  let after := disconnectEach id s.applications s.modulesLocked
  { s with applications := after.1, modulesLocked := after.2 }

def setData (row : Nat) (value : String) : Panel :=
  match s.applications[row]? with
  | none => s.crash
  | some app =>
      let trimmedValue := trimmed value
      if trimmedValue = "" then s
      else if s.blocklistContains trimmedValue then s
      else if s.hasEntryForName trimmedValue then s
      else { s with applications := s.applications.set row { app with name := trimmedValue } }

def removeRows (row count : Int) : Panel :=
  match anyAlive s.applications row count.toNat with
  | none => s.crash
  | some true => s
  | some false =>
      if row < 0 then s
      else
        match eraseRows s.applications row.toNat count.toNat with
        | none => s.crash
        | some applications => { s with applications := applications }

def onBlocklistItemChanged (name : String) : Panel :=
  match s.indexForName sameName name with
  | none => s
  | some row =>
      match s.applications[row]? with
      | none => s.crash
      | some app => if app.isAlive then s else s.removeRows row 1

-- The router asks before it connects, and no two connections have one identifier
-- at a time.
def event : Action → Option Panel
  | .shouldClientBeIgnored models info =>
      some (if s.shouldClientBeIgnored models info then s else { s with accepted := s.accepted ++ [info] })
  | .onDriverConnected info =>
      if info ∈ s.accepted ∧ info.umdConnectionId ∉ s.live.map DdConnectionInfo.umdConnectionId then
        some ({ s with accepted := s.accepted.erase info, live := s.live ++ [info] }.onDriverConnected info)
      else none
  | .onDriverDisconnected id =>
      some ({ s with live := s.live.filter (·.umdConnectionId ≠ id) }.onDriverDisconnected id)
  | .addApplication name => some (s.addApplication name)
  | .setData row value => some (s.setData row value)
  | .removeRows row count => some (s.removeRows row count)
  | .setBlocklist blocklist => some { s with blocklist := blocklist }
  | .onBlocklistItemChanged name => some (s.onBlocklistItemChanged sameName name)
  | .setAutoConnectMode mode => some { s with autoConnectMode := mode }
  | .setApiFilter filter => some { s with apiFilter := filter }

def step (a : Action) : Option Panel := if s.crashed then none else s.event sameName a

-- The names are those that the settings held.
def initial (names : List String) : Panel where
  applications := names.map fun name => ⟨name, []⟩
  blocklist := none
  autoConnectMode := .anyApplication
  apiFilter := .workflowSupported
  modulesLocked := false
  accepted := []
  live := []
  crashed := false

end Panel

def applicationModel (sameName : String → String → Bool) (names : List String) : Machine Panel Action :=
  ⟨.initial names, Panel.step sameName⟩

end RadeonPanel.Frontend

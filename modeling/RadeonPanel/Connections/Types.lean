import RadeonPanel.Base.Keyed
import RadeonPanel.Ubertrace.Types

set_option autoImplicit false

namespace RadeonPanel

abbrev DdConnectionId := UInt16

inductive Api where
  | unknown
  | directX12
  | directX11
  | directX9
  | vulkan
  | openCl
  | hip
  | openGl
deriving DecidableEq, Repr

-- `string_view::find(part) != npos`
def findsIn (part : List Char) : List Char → Bool
  | [] => part.isEmpty
  | c :: rest => part.isPrefixOf (c :: rest) || findsIn part rest

-- A description may be a null pointer.
def getApiFromDriverDescription : Option String → Api
  | none => .unknown
  | some description =>
      if findsIn "DirectX12".toList description.toList then .directX12
      else if findsIn "DirectX10/11".toList description.toList then .directX11
      else if findsIn "DirectX9".toList description.toList then .directX9
      else if findsIn "Vulkan".toList description.toList then .vulkan
      else if findsIn "OpenCL".toList description.toList then .openCl
      else if findsIn "HIP".toList description.toList then .hip
      else if findsIn "OpenGL".toList description.toList then .openGl
      else .unknown

structure DdConnectionInfo where
  umdConnectionId : DdConnectionId
  processId : UInt32
  processName : String
  description : Option String
deriving DecidableEq, Repr

structure ClientConnection where
  api : Api
  umdConnectionId : DdConnectionId
  clientPid : UInt32
  clientName : String
  hasReachedPostDeviceInit : Bool
deriving DecidableEq, Repr

def DdConnectionInfo.connection (info : DdConnectionInfo) : ClientConnection :=
  ⟨getApiFromDriverDescription info.description, info.umdConnectionId, info.processId, info.processName, false⟩

@[simp] theorem connection_id (info : DdConnectionInfo) :
    info.connection.umdConnectionId = info.umdConnectionId := rfl

abbrev connectionIds (connections : List ClientConnection) : List DdConnectionId :=
  Keyed.keys ClientConnection.umdConnectionId connections

@[simp] theorem connection_ids_add (connections : List ClientConnection) (c : ClientConnection) :
    connectionIds (connections ++ [c]) = connectionIds connections ++ [c.umdConnectionId] := by
  simp [Keyed.keys]

def findConnection (connections : List ClientConnection) (id : DdConnectionId) : Option ClientConnection :=
  Keyed.lookup ClientConnection.umdConnectionId connections id

-- `erase` of the connection that `findConnection` finds, if any.
def eraseConnection (connections : List ClientConnection) (id : DdConnectionId) : List ClientConnection :=
  Keyed.remove ClientConnection.umdConnectionId connections id

theorem erased_ids (connections : List ClientConnection) (id : DdConnectionId) :
    connectionIds (eraseConnection connections id) = (connectionIds connections).erase id :=
  Keyed.remove_keys _ _ _

-- A write through the iterator that `findConnection` returns.
def updateConnection (connections : List ClientConnection) (id : DdConnectionId)
    (f : ClientConnection → ClientConnection) : List ClientConnection :=
  Keyed.modify ClientConnection.umdConnectionId connections id f

end RadeonPanel

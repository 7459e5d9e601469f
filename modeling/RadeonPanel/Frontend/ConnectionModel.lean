import RadeonPanel.Base.Runs

set_option autoImplicit false

namespace RadeonPanel.Frontend.Connection

open Interleaving

inductive ConnectionState where
  | disconnected
  | disconnecting
  | connecting
  | connected
deriving DecidableEq, Repr

inductive ConnectionType where
  | kUnknown
  | kLocal
  | kRemote
deriving DecidableEq, Repr

inductive DdResult where
  | success
  | genericUnavailable
  | failure
deriving DecidableEq, Repr

inductive BuiltinModule where
  | systemTrace
  | routerUtils
  | siphon
deriving DecidableEq, Repr

def modules : List BuiltinModule := [.systemTrace, .routerUtils, .siphon]

structure RemoteConnectionInfo where
  hostname : String
  nickname : String
  port : Int32

namespace RemoteConnectionInfo
variable (info : RemoteConnectionInfo)

-- A host name holds no place marker of QString::arg.
def getDescriptionsSansNickname : String := "Remote " ++ info.hostname ++ ":" ++ toString info.port

def getDescription : String :=
  if info.nickname = "" then info.getDescriptionsSansNickname
  else info.getDescriptionsSansNickname ++ " (" ++ info.nickname ++ ")"

end RemoteConnectionInfo

-- What `ConnectTool` is called with. Only a remote connection has an address.
structure ConnectArgs where
  ipStr : Option String
  port : UInt32
  description : String
  connectionType : ConnectionType
  doNotCreateRouter : Bool
  noAddress : connectionType = .kLocal → ipStr = none ∧ port = 0
deriving DecidableEq

namespace ConnectArgs

def toLocal (description : String) (doNotCreateRouter : Bool) : ConnectArgs :=
  ⟨none, 0, description, .kLocal, doNotCreateRouter, fun _ => ⟨rfl, rfl⟩⟩

def toRemote (info : RemoteConnectionInfo) : ConnectArgs :=
  ⟨some info.hostname, info.port.toUInt32, info.getDescription, .kRemote, false, nofun⟩

def SameTarget (a b : ConnectArgs) : Prop :=
  a.connectionType = b.connectionType ∧ a.ipStr = b.ipStr ∧ a.port = b.port

instance (a b : ConnectArgs) : Decidable (a.SameTarget b) :=
  inferInstanceAs (Decidable (a.connectionType = b.connectionType ∧ a.ipStr = b.ipStr ∧ a.port = b.port))

end ConnectArgs

structure Attempt where
  args : ConnectArgs
  reconnect : Bool
deriving DecidableEq

inductive Callback where
  | onRouterConnected
  | onRouterDisconnected
deriving DecidableEq, Repr

-- Where `ConnectTool` and `SyncDisconnectTool` stand. Each section under the
-- connection mutex is one step, with `calling` the tool is inside a callback that
-- it runs on the thread that called it.
inductive OpPc where
  | connect (attempt : Attempt)
  | routerFailed (result : DdResult)
  | connecting (args : ConnectArgs) (calling : Option Callback)
  | connectFailed
  | notConnected
  | disconnect
  | disconnecting (calling : Option Callback)
  | disconnected
  | done
deriving DecidableEq

-- `was` is the connection that was active when `SetDisableClientTimeout` asked
-- for the operation.
structure Operation where
  pc : OpPc
  byTimeout : Bool
  was : Option ConnectArgs
deriving DecidableEq

inductive UiPc where
  | idle
  | connectAsync (args : ConnectArgs)
  | disconnectTool
  | setTimeout
  | setTimeoutJoin
  | shutDown (pc : OpPc)
  | shutDownJoin
  | ended
deriving DecidableEq

-- `router` is the setting that the router was created with. `active` is what
-- `ConnectTool` went ahead with last, `reconnects` every reconnect with the
-- connection it came from.
structure State where
  toolApi : Bool
  connectionState : ConnectionState
  activeConnectionType : ConnectionType
  connectionDescription : String
  shouldReconnect : Bool
  currentlyReconnecting : Bool
  router : Option Bool
  disableClientTimeout : Bool
  connectionThread : Option Operation
  ui : UiPc
  active : Option Attempt
  reconnects : List (Option ConnectArgs × ConnectArgs)
deriving DecidableEq

inductive Call where
  | createTool (created registered callbacksAdded : Bool)
  | connectToolLocal (useExistingLocalRouter : Bool)
  | connectToolRemote (info : RemoteConnectionInfo)
  | disconnectTool
  | setDisableClientTimeout (disableClientTimeout : Bool)
  | shutDown

-- What the router and the tool answer: `creates` for the creation of a router,
-- `connects` for the end of `Connect`, `calls` for a callback before that.
inductive Answer where
  | go
  | creates (created : DdResult) (loads : BuiltinModule → DdResult)
  | connects (success : Bool)
  | calls (callback : Callback)

inductive Action where
  | call (call : Call)
  | ui (answer : Answer)
  | thread (answer : Answer)
  | callback (callback : Callback)

namespace State
variable (s : State)

-- The mutex is recursive: the UI thread keeps it through the join inside
-- `SetDisableClientTimeout`, the only wait under it.
def free : Bool := s.ui ≠ .setTimeoutJoin

def joined : Bool := s.connectionThread.all (·.pc = .done)

def createRouter (created : DdResult) (loads : BuiltinModule → DdResult) : State × DdResult :=
  match s.router with
  | some _ => (s, .success)
  | none =>
      if created ≠ .success then (s, created)
      else
        -- A router with a module that does not load is destroyed again.
        match modules.find? fun module => loads module ≠ .success with
        | some module => (s, loads module)
        | none => ({ s with router := some s.disableClientTimeout }, .success)

def connectTool (attempt : Attempt) (created : DdResult) (loads : BuiltinModule → DdResult) : State × OpPc :=
  if !s.toolApi || s.connectionState ≠ .disconnected then ({ s with currentlyReconnecting := false }, .done)
  else
    let made :=
      if attempt.args.connectionType = .kLocal ∧ attempt.args.doNotCreateRouter = false then s.createRouter created loads
      else (s, .success)
    if made.2 = .success then
      ({ made.1 with
        connectionState := .connecting
        activeConnectionType := attempt.args.connectionType
        connectionDescription := attempt.args.description
        active := some attempt }, .connecting attempt.args none)
    else (made.1, .routerFailed made.2)

def connectFailed : State :=
  { s with
    connectionState := .disconnected
    activeConnectionType := .kUnknown
    connectionDescription := "" }

def syncDisconnectTool : State × OpPc :=
  if !s.toolApi || s.connectionState ≠ .connected then (s, .done)
  else ({ s with connectionState := .disconnecting }, .disconnecting none)

-- The router is local, whatever the connection was.
def reconnect (was : Option ConnectArgs) : State × OpPc :=
  let args := ConnectArgs.toLocal s.connectionDescription false
  if s.currentlyReconnecting then
    ({ s with reconnects := s.reconnects ++ [(was, args)] }, .connect ⟨args, true⟩)
  else (s, .done)

def onRouterConnected : State := { s with connectionState := .connected, currentlyReconnecting := false }

def onRouterDisconnected : State :=
  { s with
    connectionState := .disconnected
    router := none
    currentlyReconnecting := s.shouldReconnect
    shouldReconnect := false
    activeConnectionType := if s.shouldReconnect then s.activeConnectionType else .kUnknown
    connectionDescription := if s.shouldReconnect then s.connectionDescription else "" }

def run : Callback → State
  | .onRouterConnected => s.onRouterConnected
  | .onRouterDisconnected => s.onRouterDisconnected

def operationStep (was : Option ConnectArgs) : OpPc → Answer → Option (State × OpPc)
  | .connect attempt, .creates created loads => if s.free then some (s.connectTool attempt created loads) else none
  | .routerFailed _, .go => some ({ s with currentlyReconnecting := false }, .done)
  | .connecting args none, .calls callback => some (s, .connecting args (some callback))
  | .connecting args (some callback), .go => if s.free then some (s.run callback, .connecting args none) else none
  | .connecting _ none, .connects success => some (s, if success then .done else .connectFailed)
  | .connectFailed, .go => if s.free then some (s.connectFailed, .notConnected) else none
  | .notConnected, .go => some ({ s with currentlyReconnecting := false }, .done)
  | .disconnect, .go => if s.free then some s.syncDisconnectTool else none
  | .disconnecting none, .calls callback => some (s, .disconnecting (some callback))
  | .disconnecting (some callback), .go => if s.free then some (s.run callback, .disconnecting none) else none
  | .disconnecting none, .go => some (s, .disconnected)
  | .disconnected, .go => some (s.reconnect was)
  | _, _ => none

def call : Call → State
  | .createTool created registered callbacksAdded =>
      { s with toolApi := s.toolApi || (created && registered && callbacksAdded) }
  | .connectToolLocal useExistingLocalRouter => { s with ui := .connectAsync (.toLocal "Local" useExistingLocalRouter) }
  | .connectToolRemote info => { s with ui := .connectAsync (.toRemote info) }
  | .disconnectTool => { s with ui := .disconnectTool }
  | .setDisableClientTimeout disableClientTimeout =>
      if s.disableClientTimeout = disableClientTimeout then s
      else { s with disableClientTimeout := disableClientTimeout, ui := .setTimeout }
  | .shutDown => { s with shouldReconnect := false, ui := .shutDown .disconnect }

def start (pc : OpPc) : State := { s with connectionThread := some ⟨pc, false, none⟩, ui := .idle }

def uiStep (answer : Answer) : Option State :=
  match s.ui, answer with
  | .connectAsync args, .go => if s.joined then some (s.start (.connect ⟨args, false⟩)) else none
  | .disconnectTool, .go => if s.joined then some (s.start .disconnect) else none
  | .setTimeout, .go =>
      some (if s.connectionState = .connected then { s with shouldReconnect := true, ui := .setTimeoutJoin }
        else { s with ui := .idle })
  | .setTimeoutJoin, .go =>
      if s.joined then
        some { s with connectionThread := some ⟨.disconnect, true, s.active.map Attempt.args⟩, ui := .idle }
      else none
  | .shutDown .done, .go => some { s with ui := .shutDownJoin }
  | .shutDown pc, answer => (s.operationStep none pc answer).map fun made => { made.1 with ui := .shutDown made.2 }
  | .shutDownJoin, .go => if s.joined then some { s with connectionThread := none, toolApi := false, ui := .ended } else none
  | _, _ => none

def threadStep (answer : Answer) : Option State :=
  match s.connectionThread with
  | none => none
  | some op =>
      (s.operationStep op.was op.pc answer).map fun made =>
        { made.1 with connectionThread := some { op with pc := made.2 } }

def step : Action → Option State
  | .call call => if s.ui = .idle then some (s.call call) else none
  | .ui answer => s.uiStep answer
  | .thread answer => s.threadStep answer
  | .callback callback => if s.toolApi && s.free then some (s.run callback) else none

def initial : State where
  toolApi := false
  connectionState := .disconnected
  activeConnectionType := .kUnknown
  connectionDescription := ""
  shouldReconnect := false
  currentlyReconnecting := false
  router := none
  disableClientTimeout := false
  connectionThread := none
  ui := .idle
  active := none
  reconnects := []

end State

def connectionModel : Machine State Action := ⟨.initial, State.step⟩

namespace State
variable (s : State)

theorem create_router_cases (created : DdResult) (loads : BuiltinModule → DdResult) :
    (s.createRouter created loads).1 = s ∨
      s.createRouter created loads = ({ s with router := some s.disableClientTimeout }, .success) := by
  fun_cases createRouter s created loads with
  | case1 setting held => exact .inl rfl
  | case2 empty failed => exact .inl rfl
  | case3 empty made module unloadable => exact .inl rfl
  | case4 empty made loaded => exact .inr rfl

theorem create_router_failed (created : DdResult) (loads : BuiltinModule → DdResult)
    (failed : (s.createRouter created loads).2 ≠ .success) : (s.createRouter created loads).1 = s := by
  obtain same | made := s.create_router_cases created loads
  · exact same
  · rw [made] at failed
    exact absurd rfl failed

-- What a step of an operation can do.
inductive OperationMove (was : Option ConnectArgs) : OpPc → Answer → State → OpPc → Prop where
  | refused (attempt : Attempt) (created : DdResult) (loads : BuiltinModule → DdResult) (unlocked : s.free = true) :
      OperationMove was (.connect attempt) (.creates created loads) { s with currentlyReconnecting := false } .done
  | noRouter (attempt : Attempt) (created : DdResult) (loads : BuiltinModule → DdResult) (result : DdResult)
      (unlocked : s.free = true) :
      OperationMove was (.connect attempt) (.creates created loads) s (.routerFailed result)
  | goesAhead (attempt : Attempt) (created : DdResult) (loads : BuiltinModule → DdResult) (router : Option Bool)
      (unlocked : s.free = true) (tool : s.toolApi = true) (here : s.connectionState = .disconnected)
      (kept : router = s.router ∨ router = some s.disableClientTimeout) :
      OperationMove was (.connect attempt) (.creates created loads)
        { s with
          router := router
          connectionState := .connecting
          activeConnectionType := attempt.args.connectionType
          connectionDescription := attempt.args.description
          active := some attempt } (.connecting attempt.args none)
  | routerFailed (result : DdResult) :
      OperationMove was (.routerFailed result) .go { s with currentlyReconnecting := false } .done
  | connectCalls (args : ConnectArgs) (callback : Callback) :
      OperationMove was (.connecting args none) (.calls callback) s (.connecting args (some callback))
  | connectCalled (args : ConnectArgs) (callback : Callback) (unlocked : s.free = true) :
      OperationMove was (.connecting args (some callback)) .go (s.run callback) (.connecting args none)
  | connects (args : ConnectArgs) : OperationMove was (.connecting args none) (.connects true) s .done
  | fails (args : ConnectArgs) : OperationMove was (.connecting args none) (.connects false) s .connectFailed
  | connectFailed (unlocked : s.free = true) : OperationMove was .connectFailed .go s.connectFailed .notConnected
  | notConnected : OperationMove was .notConnected .go { s with currentlyReconnecting := false } .done
  | nothingConnected (unlocked : s.free = true) (elsewhere : s.toolApi = false ∨ s.connectionState ≠ .connected) :
      OperationMove was .disconnect .go s .done
  | disconnects (unlocked : s.free = true) (here : s.connectionState = .connected) :
      OperationMove was .disconnect .go { s with connectionState := .disconnecting } (.disconnecting none)
  | disconnectCalls (callback : Callback) :
      OperationMove was (.disconnecting none) (.calls callback) s (.disconnecting (some callback))
  | disconnectCalled (callback : Callback) (unlocked : s.free = true) :
      OperationMove was (.disconnecting (some callback)) .go (s.run callback) (.disconnecting none)
  | disconnected : OperationMove was (.disconnecting none) .go s .disconnected
  | reconnects (again : s.currentlyReconnecting = true) :
      OperationMove was .disconnected .go
        { s with reconnects := s.reconnects ++ [(was, .toLocal s.connectionDescription false)] }
        (.connect ⟨.toLocal s.connectionDescription false, true⟩)
  | ended (once : s.currentlyReconnecting = false) : OperationMove was .disconnected .go s .done

theorem connect_tool_moves (was : Option ConnectArgs) (attempt : Attempt) (created : DdResult)
    (loads : BuiltinModule → DdResult) (unlocked : s.free = true) :
    s.OperationMove was (.connect attempt) (.creates created loads)
      (s.connectTool attempt created loads).1 (s.connectTool attempt created loads).2 := by
  fun_cases connectTool s attempt created loads with
  | case1 elsewhere => exact .refused attempt created loads unlocked
  | case2 here made success =>
      simp only [Bool.or_eq_true, Bool.not_eq_true', decide_eq_true_eq, not_or, ne_eq, not_not,
        Bool.not_eq_false] at here
      have kept : made.1 = s ∨ made.1 = { s with router := some s.disableClientTimeout } := by
        by_cases creates : attempt.args.connectionType = .kLocal ∧ attempt.args.doNotCreateRouter = false
        · obtain same | new := s.create_router_cases created loads
          · exact .inl (by simpa only [made, if_pos creates] using same)
          · exact .inr (by simp only [made, if_pos creates, new])
        · exact .inl (by simp only [made, if_neg creates])
      obtain same | new := kept
      · simpa only [same] using .goesAhead attempt created loads s.router unlocked here.1 here.2 (.inl rfl)
      · simpa only [new] using
          .goesAhead attempt created loads (some s.disableClientTimeout) unlocked here.1 here.2 (.inr rfl)
  | case3 here made failed =>
      have same : made.1 = s := by
        by_cases creates : attempt.args.connectionType = .kLocal ∧ attempt.args.doNotCreateRouter = false
        · simp only [made, if_pos creates] at failed ⊢
          exact s.create_router_failed created loads failed
        · simp only [made, if_neg creates]
      rw [same]
      exact .noRouter attempt created loads made.2 unlocked

theorem sync_disconnect_moves (was : Option ConnectArgs) (unlocked : s.free = true) :
    s.OperationMove was .disconnect .go s.syncDisconnectTool.1 s.syncDisconnectTool.2 := by
  fun_cases syncDisconnectTool s with
  | case1 elsewhere => exact .nothingConnected unlocked (by simpa using elsewhere)
  | case2 here =>
      simp only [Bool.or_eq_true, Bool.not_eq_true', decide_eq_true_eq, not_or, ne_eq, not_not,
        Bool.not_eq_false] at here
      exact .disconnects unlocked here.2

theorem reconnect_moves (was : Option ConnectArgs) :
    s.OperationMove was .disconnected .go (s.reconnect was).1 (s.reconnect was).2 := by
  fun_cases reconnect s was with
  | case1 args again => exact .reconnects again
  | case2 once => exact .ended (Bool.eq_false_iff.mpr once)

theorem operation_moves (was : Option ConnectArgs) (pc : OpPc) (answer : Answer) (made : State × OpPc)
    (taken : s.operationStep was pc answer = some made) : s.OperationMove was pc answer made.1 made.2 := by
  revert taken
  fun_cases operationStep s was pc answer
  all_goals intro taken
  all_goals cases taken
  case case1 attempt created loads unlocked => exact s.connect_tool_moves was attempt created loads unlocked
  case case3 result => exact .routerFailed result
  case case4 args callback => exact .connectCalls args callback
  case case5 args callback unlocked => exact .connectCalled args callback unlocked
  case case7 args success =>
      cases success with
      | true => exact .connects args
      | false => exact .fails args
  case case8 unlocked => exact .connectFailed unlocked
  case case10 => exact .notConnected
  case case11 unlocked => exact s.sync_disconnect_moves was unlocked
  case case13 callback => exact .disconnectCalls callback
  case case14 callback unlocked => exact .disconnectCalled callback unlocked
  case case16 => exact .disconnected
  case case17 => exact s.reconnect_moves was

inductive UiMove : Answer → State → Prop where
  | connects (args : ConnectArgs) (here : s.ui = .connectAsync args) (joined : s.joined = true) :
      UiMove .go (s.start (.connect ⟨args, false⟩))
  | disconnects (here : s.ui = .disconnectTool) (joined : s.joined = true) : UiMove .go (s.start .disconnect)
  | applies (here : s.ui = .setTimeout) (connected : s.connectionState = .connected) :
      UiMove .go { s with shouldReconnect := true, ui := .setTimeoutJoin }
  | leaves (here : s.ui = .setTimeout) (elsewhere : s.connectionState ≠ .connected) : UiMove .go { s with ui := .idle }
  | joins (here : s.ui = .setTimeoutJoin) (joined : s.joined = true) :
      UiMove .go
        { s with connectionThread := some ⟨.disconnect, true, s.active.map Attempt.args⟩, ui := .idle }
  | disconnected (here : s.ui = .shutDown .done) : UiMove .go { s with ui := .shutDownJoin }
  | operates (pc : OpPc) (answer : Answer) (made : State × OpPc) (here : s.ui = .shutDown pc)
      (move : s.OperationMove none pc answer made.1 made.2) : UiMove answer { made.1 with ui := .shutDown made.2 }
  | ended (here : s.ui = .shutDownJoin) (joined : s.joined = true) :
      UiMove .go { s with connectionThread := none, toolApi := false, ui := .ended }

theorem ui_moves (t : State) (answer : Answer) (next : s.uiStep answer = some t) : s.UiMove answer t := by
  revert next
  fun_cases uiStep s answer
  all_goals intro next
  case case9 pc here notDone =>
      obtain ⟨made, taken, rfl⟩ := Option.map_eq_some_iff.mp next
      exact .operates pc answer made here (s.operation_moves _ _ _ _ taken)
  all_goals cases next
  case case1 args here joined => exact .connects args here joined
  case case3 here joined => exact .disconnects here joined
  case case5 here =>
      by_cases connected : s.connectionState = .connected
      · simpa only [if_pos connected] using .applies here connected
      · simpa only [if_neg connected] using .leaves here connected
  case case6 here joined => exact .joins here joined
  case case8 here => exact .disconnected here
  case case10 here joined => exact .ended here joined

theorem thread_moves (t : State) (answer : Answer) (next : s.threadStep answer = some t) :
    ∃ op, ∃ made : State × OpPc, s.connectionThread = some op ∧ s.OperationMove op.was op.pc answer made.1 made.2 ∧
      t = { made.1 with connectionThread := some { op with pc := made.2 } } := by
  cases here : s.connectionThread with
  | none => simp only [threadStep, here, reduceCtorEq] at next
  | some op =>
      simp only [threadStep, here, Option.map_eq_some_iff] at next
      obtain ⟨made, taken, rfl⟩ := next
      exact ⟨op, made, rfl, s.operation_moves _ _ _ _ taken, rfl⟩

theorem step_cases (a : Action) (t : State) (next : s.step a = some t) :
    (∃ call, a = .call call ∧ s.ui = .idle ∧ t = s.call call) ∨ (∃ answer, a = .ui answer ∧ s.UiMove answer t) ∨
      (∃ answer op, ∃ made : State × OpPc, a = .thread answer ∧ s.connectionThread = some op ∧
        s.OperationMove op.was op.pc answer made.1 made.2 ∧
        t = { made.1 with connectionThread := some { op with pc := made.2 } }) ∨
      ∃ callback, a = .callback callback ∧ s.toolApi = true ∧ s.free = true ∧ t = s.run callback := by
  cases a with
  | call call =>
      obtain ⟨idle, made⟩ := Option.ite_none_right_eq_some.mp next
      exact .inl ⟨call, rfl, idle, (Option.some.inj made).symm⟩
  | ui answer => exact .inr (.inl ⟨answer, rfl, s.ui_moves t answer next⟩)
  | thread answer =>
      obtain ⟨op, made, here, move, same⟩ := s.thread_moves t answer next
      exact .inr (.inr (.inl ⟨answer, op, made, rfl, here, move, same⟩))
  | callback callback =>
      obtain ⟨ready, made⟩ := Option.ite_none_right_eq_some.mp next
      obtain ⟨tool, unlocked⟩ := Bool.and_eq_true_iff.mp ready
      exact .inr (.inr (.inr ⟨callback, rfl, tool, unlocked, (Option.some.inj made).symm⟩))

theorem not_joining (unlocked : s.free = true) : s.ui ≠ .setTimeoutJoin := by
  simpa only [free, ne_eq, decide_eq_true_eq] using unlocked

theorem run_ui (callback : Callback) : (s.run callback).ui = s.ui := by
  cases callback <;> rfl

theorem run_thread (callback : Callback) : (s.run callback).connectionThread = s.connectionThread := by
  cases callback <;> rfl

variable {s} {was : Option ConnectArgs} {pc next : OpPc} {answer : Answer} {t : State}

theorem move_ui (move : s.OperationMove was pc answer t next) : t.ui = s.ui := by
  cases move with
  | connectCalled args callback | disconnectCalled callback => exact s.run_ui callback
  | _ => rfl

end State

end RadeonPanel.Frontend.Connection

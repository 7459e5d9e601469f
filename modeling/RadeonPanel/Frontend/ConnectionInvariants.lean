import RadeonPanel.Frontend.Reconnecting

set_option autoImplicit false

namespace RadeonPanel.Frontend.Connection

open Interleaving

namespace State
variable (s : State)

-- No operation is running.
def quiet : Bool := s.joined && (s.ui = .idle || s.ui = .ended)

-- A change of the timeout or a shutdown is on its way.
def changing : Bool :=
  s.shouldReconnect ||
    match s.ui with
    | .setTimeout | .setTimeoutJoin | .shutDown _ => true
    | _ => false

structure Kept : Prop where
  released : s.quiet = true → s.connectionState = .disconnected → s.router = none
  reconnects : ∀ p ∈ s.reconnects, ∃ was, p.1 = some was ∧ was.SameTarget p.2
  current : s.connectionState = .connected → s.changing = false →
    ∀ setting, s.router = some setting → setting = s.disableClientTimeout
  reconnecting : s.currentlyReconnecting = true → s.reconnectInProgress = true

-- Where the router may have been created with an older setting.
def Replacing : Prop :=
  s.connectionState = .disconnecting ∨ s.shouldReconnect = true ∨ s.ui = .setTimeout ∨
    (s.ui = .shutDown .disconnect ∧ s.connectionState = .connected)

structure RouterKept : Prop where
  released : s.connectionState = .disconnected → s.router = none
  setting : ∀ setting, s.router = some setting → setting = s.disableClientTimeout ∨ s.Replacing

structure Targets : Prop where
  active : s.activeConnectionType = .kLocal → ∃ a, s.active = some a ∧ a.args.connectionType = .kLocal
  joining : s.ui = .setTimeoutJoin → s.activeConnectionType = .kLocal
  thread : ∀ op, s.connectionThread = some op → op.byTimeout = true →
    ∃ was, op.was = some was ∧ was.connectionType = .kLocal
  reconnects : ∀ p ∈ s.reconnects, ∃ was, p.1 = some was ∧ was.SameTarget p.2

variable {s} {was : Option ConnectArgs} {pc next : OpPc} {answer : Answer} {t : State}

theorem run_router (inv : s.RouterKept) (callback : Callback) (inOrder : s.inOrder callback = true) :
    (s.run callback).RouterKept := by
  cases callback with
  | onRouterConnected =>
      have here : s.connectionState = .connecting := of_decide_eq_true inOrder
      refine ⟨nofun, fun setting held => ?_⟩
      obtain same | elsewhere | asks | stored | ⟨_, elsewhere⟩ := inv.setting setting held
      · exact .inl same
      · exact nomatch here.symm.trans elsewhere
      · exact .inr (.inr (.inl asks))
      · exact .inr (.inr (.inr (.inl stored)))
      · exact nomatch here.symm.trans elsewhere
  | onRouterDisconnected => exact ⟨fun _ => rfl, nofun⟩

theorem move_router (inv : s.RouterKept) (move : s.OperationMove was pc answer t next)
    (inOrder : s.operationInOrder pc answer = true) : t.RouterKept := by
  cases move with
  | refused | routerFailed | notConnected | reconnects => exact ⟨inv.released, inv.setting⟩
  | goesAhead attempt created loads router unlocked tool here kept =>
      refine ⟨nofun, fun setting held => .inl ?_⟩
      obtain rfl | rfl := kept
      · exact nomatch (inv.released here).symm.trans held
      · exact (Option.some.inj held).symm
  | connectCalled args callback | disconnectCalled callback => exact run_router inv callback inOrder
  | connectFailed =>
      have none : s.router = none := Option.isNone_iff_eq_none.mp inOrder
      exact ⟨fun _ => none, fun setting held => nomatch none.symm.trans held⟩
  | disconnects => exact ⟨nofun, fun _ _ => .inr (.inl rfl)⟩
  | _ => exact inv

theorem elsewhere_router (inv : s.RouterKept) (ui : UiPc) (stored : s.ui ≠ .setTimeout)
    (opened : s.ui = .shutDown .disconnect → s.connectionState ≠ .connected) : { s with ui := ui }.RouterKept := by
  refine ⟨inv.released, fun setting held => ?_⟩
  obtain same | disconnecting | asks | here | ⟨shut, connected⟩ := inv.setting setting held
  · exact .inl same
  · exact .inr (.inl disconnecting)
  · exact .inr (.inr (.inl asks))
  · exact absurd here stored
  · exact absurd connected (opened shut)

theorem shut_down_router (inv : s.RouterKept) (flags : s.Reconnecting) (made : State × OpPc) (here : s.ui = .shutDown pc)
    (move : s.OperationMove none pc answer made.1 made.2) (inOrder : s.operationInOrder pc answer = true) :
    { made.1 with ui := .shutDown made.2 }.RouterKept := by
  have kept := move_router inv move inOrder
  have there := (move_ui move).trans here
  refine elsewhere_router kept _ (by rw [there]; nofun) fun shut connected => ?_
  obtain rfl : pc = .disconnect := UiPc.shutDown.inj (there.symm.trans shut)
  obtain ⟨t, next⟩ := made
  cases move with
  | nothingConnected unlocked elsewhere =>
      obtain noTool | apart := elsewhere
      · obtain nothing | ended := flags.tool noTool
        · exact nomatch connected.symm.trans nothing
        · exact nomatch here.symm.trans ended
      · exact apart connected
  | disconnects => cases connected

theorem shut_router (inv : s.RouterKept) (flags : s.Reconnecting) (idle : s.ui = .idle) :
    (s.call .shutDown).RouterKept := by
  refine ⟨inv.released, fun setting held => ?_⟩
  obtain same | disconnecting | asks | stored | ⟨shut, _⟩ := inv.setting setting held
  · exact .inl same
  · exact .inr (.inl disconnecting)
  · obtain joins | ⟨op, here, byTimeout, pending⟩ := flags.pending asks
    · exact nomatch idle.symm.trans joins
    · cases at_ : op.pc with
      | disconnect =>
          rw [at_] at pending
          exact .inr (.inr (.inr (.inr ⟨rfl, of_decide_eq_true pending⟩)))
      | disconnecting calling =>
          rw [at_] at pending
          exact .inr (.inl (of_decide_eq_true pending))
      | _ =>
          rw [at_] at pending
          cases pending
  · exact nomatch idle.symm.trans stored
  · exact nomatch idle.symm.trans shut

theorem call_router (inv : s.RouterKept) (flags : s.Reconnecting) (call : Call) (idle : s.ui = .idle) :
    (s.call call).RouterKept := by
  cases call with
  | createTool created registered callbacksAdded => exact ⟨inv.released, inv.setting⟩
  | connectToolLocal | connectToolRemote | disconnectTool =>
      exact elsewhere_router inv _ (by rw [idle]; nofun) (by rw [idle]; nofun)
  | setDisableClientTimeout setting =>
      by_cases same : s.disableClientTimeout = setting
      · simpa only [State.call, if_pos same] using inv
      · rw [State.call, if_neg same]
        exact ⟨inv.released, fun _ _ => .inr (.inr (.inr (.inl rfl)))⟩
  | shutDown => exact shut_router inv flags idle

-- Without a connection to replace there is no router either.
theorem leaves_router (inv : s.RouterKept) (elsewhere : s.connectionState ≠ .connected)
    (inOrder : s.timeoutInOrder = true) : { s with ui := .idle }.RouterKept := by
  refine ⟨inv.released, fun setting held => ?_⟩
  cases here : s.connectionState with
  | disconnected => exact nomatch (inv.released here).symm.trans held
  | disconnecting => exact .inr (.inl rfl)
  | connecting =>
      have none : s.router = none := by simpa only [timeoutInOrder, here, Option.isNone_iff_eq_none] using inOrder
      exact nomatch none.symm.trans held
  | connected => exact absurd here elsewhere

theorem step_router (s : State) (a : Action) (t : State) (flags : s.Reconnecting) (inv : s.RouterKept)
    (orderly : s.orderly a = true) (next : s.step a = some t) : t.RouterKept := by
  obtain ⟨call, rfl, idle, rfl⟩ | ⟨answer, rfl, move⟩ | ⟨answer, op, made, rfl, here, move, rfl⟩ |
    ⟨callback, rfl, tool, unlocked, rfl⟩ := s.step_cases a t next
  · exact call_router inv flags call idle
  · cases move with
    | connects args here joined | disconnects here joined =>
        have kept := elsewhere_router inv .idle (by rw [here]; nofun) (by rw [here]; nofun)
        exact ⟨kept.released, kept.setting⟩
    | disconnected here => exact elsewhere_router inv _ (by rw [here]; nofun) (by rw [here]; nofun)
    | ended here joined =>
        have kept := elsewhere_router inv .ended (by rw [here]; nofun) (by rw [here]; nofun)
        exact ⟨kept.released, kept.setting⟩
    | applies here connected => exact ⟨inv.released, fun _ _ => .inr (.inr (.inl rfl))⟩
    | leaves here elsewhere =>
        exact leaves_router inv elsewhere (by simpa only [State.orderly, here] using orderly)
    | joins here joined => exact ⟨inv.released, fun _ _ => .inr (.inr (.inl (flags.joining here)))⟩
    | operates pc answer made here move =>
        exact shut_down_router inv flags made here move (by simpa only [State.orderly, here] using orderly)
  · have kept := move_router inv move (by simpa only [State.orderly, here, Option.all_some] using orderly)
    exact ⟨kept.released, kept.setting⟩
  · exact run_router inv callback orderly

theorem same_target_local (was : ConnectArgs) (description : String) (doNotCreateRouter : Bool)
    (onHost : was.connectionType = .kLocal) : was.SameTarget (.toLocal description doNotCreateRouter) :=
  ⟨onHost, (was.noAddress onHost).1, (was.noAddress onHost).2⟩

theorem run_targets (inv : s.Targets) (callback : Callback) (unlocked : s.free = true) : (s.run callback).Targets := by
  cases callback with
  | onRouterConnected => exact ⟨inv.active, inv.joining, inv.thread, inv.reconnects⟩
  | onRouterDisconnected =>
      refine ⟨fun kind => inv.active ?_, fun joins => absurd joins (s.not_joining unlocked), inv.thread, inv.reconnects⟩
      by_cases asks : s.shouldReconnect = true
      · simpa only [run, onRouterDisconnected, if_pos asks] using kind
      · simp only [run, onRouterDisconnected, if_neg asks, reduceCtorEq] at kind

theorem move_targets (inv : s.Targets) (move : s.OperationMove was pc answer t next)
    (again : pc = .disconnected → s.currentlyReconnecting = true →
      ∃ args, was = some args ∧ args.connectionType = .kLocal) : t.Targets := by
  cases move with
  | refused | routerFailed | notConnected | disconnects => exact ⟨inv.active, inv.joining, inv.thread, inv.reconnects⟩
  | goesAhead attempt created loads router unlocked =>
      exact ⟨fun kind => ⟨attempt, rfl, kind⟩, fun joins => absurd joins (s.not_joining unlocked), inv.thread,
        inv.reconnects⟩
  | connectCalled args callback unlocked | disconnectCalled callback unlocked => exact run_targets inv callback unlocked
  | connectFailed unlocked => exact ⟨nofun, fun joins => absurd joins (s.not_joining unlocked), inv.thread, inv.reconnects⟩
  | reconnects reconnecting =>
      obtain ⟨args, rfl, onHost⟩ := again rfl reconnecting
      refine ⟨inv.active, inv.joining, inv.thread, fun p there => ?_⟩
      obtain logged | rfl := List.mem_append.mp there |>.imp_right List.mem_singleton.mp
      · exact inv.reconnects p logged
      · exact ⟨args, rfl, same_target_local args s.connectionDescription false onHost⟩
  | _ => exact inv

theorem call_targets (inv : s.Targets) (call : Call) (idle : s.ui = .idle) : (s.call call).Targets := by
  have joining : (s.call call).ui = .setTimeoutJoin → (s.call call).activeConnectionType = .kLocal :=
    fun joins => absurd joins (call_not_joining call idle)
  cases call with
  | setDisableClientTimeout setting =>
      by_cases same : s.disableClientTimeout = setting
      · simpa only [State.call, if_pos same] using inv
      · rw [State.call, if_neg same]
        exact ⟨inv.active, fun joins => absurd joins (by simp), inv.thread, inv.reconnects⟩
  | _ => exact ⟨inv.active, joining, inv.thread, inv.reconnects⟩

theorem step_targets (s : State) (a : Action) (t : State) (flags : s.Reconnecting) (inv : s.Targets)
    (orderly : s.orderly a = true) (next : s.step a = some t) : t.Targets := by
  obtain ⟨call, rfl, idle, rfl⟩ | ⟨answer, rfl, move⟩ | ⟨answer, op, made, rfl, here, move, rfl⟩ |
    ⟨callback, rfl, tool, unlocked, rfl⟩ := s.step_cases a t next
  · exact call_targets inv call idle
  · cases move with
    | connects args here joined | disconnects here joined =>
        refine ⟨inv.active, fun joins => absurd joins (by simp [start]), ?_, inv.reconnects⟩
        rintro op ⟨⟩ byTimeout
        cases byTimeout
    | leaves here | disconnected here =>
        exact ⟨inv.active, fun joins => absurd joins (by simp), inv.thread, inv.reconnects⟩
    | ended here joined =>
        exact ⟨inv.active, fun joins => absurd joins (by simp),
          fun op there => absurd there.symm (Option.some_ne_none op), inv.reconnects⟩
    | applies here connected =>
        have onHost : s.activeConnectionType = .kLocal := by
          simpa only [State.orderly, here, timeoutInOrder, connected, decide_eq_true_eq] using orderly
        exact ⟨inv.active, fun _ => onHost, inv.thread, inv.reconnects⟩
    | joins here joined =>
        obtain ⟨attempt, active, onHost⟩ := inv.active (inv.joining here)
        refine ⟨inv.active, fun joins => absurd joins (by simp), ?_, inv.reconnects⟩
        rintro op ⟨⟩ _
        exact ⟨attempt.args, congrArg (Option.map Attempt.args) active, onHost⟩
    | operates pc answer made here move =>
        have kept := move_targets inv move fun at_ reconnecting => by
          subst at_
          have settled : s.currentlyReconnecting = false := flags.shutDown _ here
          rw [settled] at reconnecting
          cases reconnecting
        exact ⟨kept.active, fun joins => absurd joins (by simp), kept.thread, kept.reconnects⟩
  · have kept := move_targets inv move fun at_ reconnecting =>
      inv.thread op here (reconnects_by_timeout flags op.byTimeout op.was (by rw [here, ← at_]) reconnecting)
    refine ⟨kept.active, kept.joining, ?_, kept.reconnects⟩
    rintro other ⟨⟩ byTimeout
    exact inv.thread op here byTimeout
  · exact run_targets inv callback unlocked

theorem reach_router (s : State) (reach : Reach connectionModel (fun s a => s.orderly a = true) s) : s.RouterKept := by
  refine reach_invariant connectionModel _ RouterKept ⟨fun _ => rfl, nofun⟩ ?_ s reach
  intro s a t before inv orderly next
  exact step_router s a t (reach_reconnecting s before) inv orderly next

theorem initial_targets : initial.Targets :=
  ⟨nofun, nofun, fun op there => absurd there.symm (Option.some_ne_none op), nofun⟩

theorem reach_targets (s : State) (reach : Reach connectionModel (fun s a => s.orderly a = true) s) : s.Targets := by
  refine reach_invariant connectionModel _ Targets initial_targets ?_ s reach
  intro s a t before inv orderly next
  exact step_targets s a t (reach_reconnecting s before) inv orderly next

theorem not_replacing (here : s.connectionState = .connected) (settled : s.changing = false) : ¬ s.Replacing := by
  rintro (elsewhere | asks | stored | ⟨shut, _⟩)
  · exact nomatch here.symm.trans elsewhere
  · simp only [changing, asks, Bool.true_or, Bool.true_eq_false] at settled
  · simp only [changing, stored, Bool.or_true, Bool.true_eq_false] at settled
  · simp only [changing, shut, Bool.or_true, Bool.true_eq_false] at settled

end State

-- The run is orderly when no failed `Connect` has created a router, the timeout is
-- changed only for a local connection that is established or with no router held,
-- and the disconnect that should reconnect is reported inside `Disconnect`.
theorem orderly_run_keeps (s : State) (reach : Reach connectionModel (fun s a => s.orderly a = true) s) : s.Kept := by
  have router := State.reach_router s reach
  exact {
    released := fun _ => router.released
    reconnects := (State.reach_targets s reach).reconnects
    current := fun here settled setting held =>
      (router.setting setting held).resolve_right (State.not_replacing here settled)
    reconnecting := (State.reach_reconnecting s reach).current }

-- Creates the tool and connects to a router of its own.
def connectsLocally : List Action :=
  [.call (.createTool true true true), .call (.connectToolLocal false), .ui .go,
    .thread (.creates .success fun _ => .success), .thread (.connects true), .callback .onRouterConnected]

-- Changes the timeout and disconnects for it.
def changesTimeout : List Action :=
  [.call (.setDisableClientTimeout true), .ui .go, .ui .go, .thread .go, .thread (.calls .onRouterDisconnected),
    .thread .go, .thread .go, .thread .go]

theorem timeout_change_keeps : ∃ s : State, s.Kept ∧ s.connectionState = .connected ∧ s.router = some true ∧
    s.reconnects.length = 1 := by
  obtain ⟨s, reach, found⟩ := exec_if_finds connectionModel State.orderly
    (connectsLocally ++ changesTimeout ++
      [.thread (.creates .success fun _ => .success), .thread (.connects true), .callback .onRouterConnected])
    (fun s => s.connectionState = .connected ∧ s.router = some true ∧ s.reconnects.length = 1) (by decide)
  exact ⟨s, orderly_run_keeps s reach, by simpa using found⟩

theorem failed_connect_holds_router : ∃ s, Reachable connectionModel s ∧ s.quiet = true ∧
    s.connectionState = .disconnected ∧ s.router ≠ none := by
  obtain ⟨s, reach, found⟩ := exec_finds connectionModel
    (connectsLocally.take 4 ++ [.thread (.connects false), .thread .go, .thread .go])
    (fun s => s.quiet ∧ s.connectionState = .disconnected ∧ s.router ≠ none) (by decide)
  exact ⟨s, reach, by simpa using found⟩

theorem remote_reconnects_locally : ∃ s, Reachable connectionModel s ∧
    ∃ p ∈ s.reconnects, ∃ was, p.1 = some was ∧ ¬ was.SameTarget p.2 := by
  obtain ⟨s, reach, found⟩ := exec_finds connectionModel
    ([.call (.createTool true true true), .call (.connectToolRemote ⟨"rig", "", 27300⟩), .ui .go,
      .thread (.creates .success fun _ => .success), .thread (.connects true), .callback .onRouterConnected] ++
        changesTimeout)
    (fun s : State => s.reconnects.any fun p => p.1.any fun was => !decide (ConnectArgs.SameTarget was p.2)) (by decide)
  obtain ⟨p, there, apart⟩ := List.any_eq_true.mp found
  obtain ⟨was, here, apart⟩ := (Option.any_eq_true _ _).mp apart
  exact ⟨s, reach, p, there, was, here, by simpa using apart⟩

theorem old_setting_in_use : ∃ s, Reachable connectionModel s ∧ s.quiet = true ∧ s.connectionState = .connected ∧
    s.changing = false ∧ s.router = some false ∧ s.disableClientTimeout = true := by
  obtain ⟨s, reach, found⟩ := exec_finds connectionModel
    (connectsLocally.take 4 ++ [.call (.setDisableClientTimeout true), .ui .go] ++ connectsLocally.drop 4)
    (fun s => s.quiet ∧ s.connectionState = .connected ∧ s.changing = false ∧ s.router = some false ∧
      s.disableClientTimeout = true) (by decide)
  exact ⟨s, reach, by simpa using found⟩

-- The router goes away before the thread disconnects from it.
theorem reconnecting_without_reconnect : ∃ s, Reachable connectionModel s ∧ s.quiet = true ∧
    s.currentlyReconnecting = true ∧ s.reconnectInProgress = false := by
  obtain ⟨s, reach, found⟩ := exec_finds connectionModel
    (connectsLocally ++ changesTimeout.take 3 ++ [.callback .onRouterDisconnected, .thread .go])
    (fun s => s.quiet ∧ s.currentlyReconnecting = true ∧ s.reconnectInProgress = false) (by decide)
  exact ⟨s, reach, by simpa using found⟩

theorem invariants_do_not_hold :
    (∃ s, Reachable connectionModel s ∧ s.quiet = true ∧ s.connectionState = .disconnected ∧ s.router ≠ none) ∧
      (∃ s, Reachable connectionModel s ∧ ∃ p ∈ s.reconnects, ∃ was, p.1 = some was ∧ ¬ was.SameTarget p.2) ∧
      (∃ s, Reachable connectionModel s ∧ s.quiet = true ∧ s.connectionState = .connected ∧ s.changing = false ∧
        s.router = some false ∧ s.disableClientTimeout = true) ∧
      ∃ s, Reachable connectionModel s ∧ s.quiet = true ∧ s.currentlyReconnecting = true ∧
        s.reconnectInProgress = false :=
  ⟨failed_connect_holds_router, remote_reconnects_locally, old_setting_in_use, reconnecting_without_reconnect⟩

end RadeonPanel.Frontend.Connection

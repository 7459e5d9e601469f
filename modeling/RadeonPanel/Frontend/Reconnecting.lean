import RadeonPanel.Frontend.ConnectionDeadlock

set_option autoImplicit false

namespace RadeonPanel.Frontend.Connection

open Interleaving

-- The operation has its disconnect still to come.
def OpPc.pending (connectionState : ConnectionState) : OpPc → Bool
  | .disconnect => connectionState = .connected
  | .disconnecting _ => connectionState = .disconnecting
  | _ => false

def UiPc.closing : UiPc → Bool
  | .shutDown _ | .shutDownJoin | .ended => true
  | _ => false

namespace State
variable (s : State)

-- The tool connects while it is connecting, and a disconnect that should reconnect
-- does not overtake the thread that was started for it.
def inOrder : Callback → Bool
  | .onRouterConnected => s.connectionState = .connecting
  | .onRouterDisconnected => !(s.shouldReconnect && s.connectionThread.any (·.pc = .disconnect))

-- A `Connect` that fails has not created a router, and `Disconnect` comes back only
-- when the disconnect that should reconnect has been reported.
def operationInOrder : OpPc → Answer → Bool
  | .connecting _ (some callback), _ => s.inOrder callback
  | .disconnecting (some callback), _ => s.inOrder callback
  | .connectFailed, _ => s.router.isNone
  | .disconnecting none, .go => !s.shouldReconnect
  | _, _ => true

-- The timeout does not change while a local router is being connected to or while
-- the connection is a remote one.
def timeoutInOrder : Bool :=
  match s.connectionState with
  | .connecting => s.router.isNone
  | .connected => s.activeConnectionType = .kLocal
  | _ => true

def orderly : Action → Bool
  | .call _ => true
  | .ui answer =>
      match s.ui with
      | .setTimeout => s.timeoutInOrder
      | .shutDown pc => s.operationInOrder pc answer
      | _ => true
  | .thread answer => s.connectionThread.all fun op => s.operationInOrder op.pc answer
  | .callback callback => s.inOrder callback

def connectingAgain : Bool := s.connectionState = .connecting && s.active.any Attempt.reconnect

-- `SetDisableClientTimeout` has started an operation that is not over, or the
-- connection that it asked for is on its way.
def reconnectInProgress : Bool :=
  s.connectionThread.any (fun op => op.byTimeout && op.pc ≠ .done) || s.connectingAgain

-- What the flags are where the thread stands.
def ThreadAt (op : Operation) : Prop :=
  match op.pc with
  | .connect attempt => attempt.reconnect = op.byTimeout
  | .connecting _ _ => s.currentlyReconnecting = true → op.byTimeout = true ∧ s.connectingAgain = true
  | .connectFailed => s.currentlyReconnecting = true → op.byTimeout = true
  | .disconnect => op.byTimeout = true → s.currentlyReconnecting = false
  | .disconnecting _ | .disconnected => s.connectionState = .disconnecting ∨ s.connectionState = .disconnected
  | .routerFailed _ | .notConnected | .done => True

def ShutDownAt : OpPc → Prop
  | .disconnect | .done => True
  | .disconnecting _ | .disconnected => s.currentlyReconnecting = false
  | _ => False

structure Reconnecting : Prop where
  tool : s.toolApi = false → s.connectionState = .disconnected ∨ s.ui = .ended
  joining : s.ui = .setTimeoutJoin → s.shouldReconnect = true
  pending : s.shouldReconnect = true → s.ui = .setTimeoutJoin ∨
    ∃ op, s.connectionThread = some op ∧ op.byTimeout = true ∧ op.pc.pending s.connectionState = true
  closing : s.ui.closing = true → s.shouldReconnect = false
  shutDown : ∀ pc, s.ui = .shutDown pc → s.ShutDownAt pc
  thread : ∀ op, s.connectionThread = some op → s.ThreadAt op
  current : s.currentlyReconnecting = true → s.reconnectInProgress = true

variable {s}

-- Without a thread that waits to disconnect nothing asks for a reconnect.
theorem not_pending (inv : s.Reconnecting) (unlocked : s.free = true)
    (nobody : ∀ op, s.connectionThread = some op → op.byTimeout = true → op.pc.pending s.connectionState = false) :
    s.shouldReconnect = false := by
  by_contra again
  obtain joins | ⟨op, here, byTimeout, pending⟩ := inv.pending (Bool.not_eq_false _ ▸ again)
  · exact s.not_joining unlocked joins
  · rw [nobody op here byTimeout] at pending
    cases pending

-- The thread goes on without a change of the connection.
theorem reconnecting_goes_on (inv : s.Reconnecting) (op : Operation) (next : OpPc)
    (here : s.connectionThread = some op)
    (pending : s.shouldReconnect = true → op.byTimeout = true → op.pc.pending s.connectionState = true →
      next.pending s.connectionState = true)
    (after : s.ThreadAt { op with pc := next })
    (ends : s.currentlyReconnecting = true → op.byTimeout = true → next = .done → s.connectingAgain = true) :
    { s with connectionThread := some { op with pc := next } }.Reconnecting where
  tool := inv.tool
  joining := inv.joining
  pending := by
    intro again
    obtain joins | ⟨other, there, byTimeout, waits⟩ := inv.pending again
    · exact .inl joins
    · obtain rfl : op = other := Option.some.inj (here.symm.trans there)
      exact .inr ⟨_, rfl, byTimeout, pending again byTimeout waits⟩
  closing := inv.closing
  shutDown := inv.shutDown
  thread := by
    rintro other ⟨⟩
    exact after
  current := by
    intro reconnecting
    have progress := inv.current reconnecting
    simp only [reconnectInProgress, here, Option.any_some, Bool.or_eq_true, Bool.and_eq_true,
      decide_eq_true_eq] at progress ⊢
    obtain ⟨byTimeout, _⟩ | again := progress
    · by_cases done : next = .done
      · exact .inr (ends reconnecting byTimeout done)
      · exact .inl ⟨byTimeout, done⟩
    · exact .inr again

theorem reconnecting_settles (inv : s.Reconnecting) : { s with currentlyReconnecting := false }.Reconnecting where
  tool := inv.tool
  joining := inv.joining
  pending := inv.pending
  closing := inv.closing
  shutDown := by
    intro pc here
    have before := inv.shutDown pc here
    cases pc with
    | disconnecting | disconnected => rfl
    | _ => exact before
  thread := by
    rintro ⟨pc, byTimeout, was⟩ here
    have before := inv.thread _ here
    cases pc with
    | connecting | connectFailed => exact nofun
    | disconnect => exact fun _ => rfl
    | _ => exact before
  current := nofun

theorem connected_reconnecting (inv : s.Reconnecting) (unlocked : s.free = true)
    (here : s.connectionState = .connecting) : s.onRouterConnected.Reconnecting where
  tool := by
    intro noTool
    obtain nothing | ended := inv.tool noTool
    · rw [here] at nothing
      cases nothing
    · exact .inr ended
  joining := inv.joining
  pending := by
    intro again
    have once := not_pending inv unlocked fun op _ _ => by
      rw [here]
      cases op.pc <;> rfl
    change s.shouldReconnect = true at again
    rw [once] at again
    cases again
  closing := inv.closing
  shutDown := (reconnecting_settles inv).shutDown
  thread := by
    rintro ⟨pc, byTimeout, was⟩ there
    have before := inv.thread _ there
    cases pc with
    | connecting | connectFailed => exact nofun
    | disconnect => exact fun _ => rfl
    | disconnecting | disconnected =>
        obtain elsewhere | elsewhere := before
        · exact nomatch here.symm.trans elsewhere
        · exact nomatch here.symm.trans elsewhere
    | _ => exact before
  current := nofun

theorem disconnected_reconnecting (inv : s.Reconnecting) (unlocked : s.free = true)
    (inOrder : s.inOrder .onRouterDisconnected = true) : s.onRouterDisconnected.Reconnecting where
  tool := fun _ => .inl rfl
  joining := fun joins => absurd joins (s.not_joining unlocked)
  pending := nofun
  closing := fun _ => rfl
  shutDown := by
    intro pc here
    have before := inv.shutDown pc here
    cases pc with
    | disconnecting | disconnected =>
        have shutting : s.ui = .shutDown _ := here
        exact inv.closing (by rw [shutting]; rfl)
    | _ => exact before
  thread := by
    rintro ⟨pc, byTimeout, was⟩ there
    have before := inv.thread _ there
    have once (elsewhere : pc.pending s.connectionState = false) : s.shouldReconnect = false :=
      not_pending inv unlocked fun op here _ => by
        obtain rfl := Option.some.inj (there.symm.trans here)
        exact elsewhere
    cases pc with
    | connecting | connectFailed =>
        intro again
        exact nomatch (once rfl).symm.trans again
    | disconnect =>
        intro _
        change s.connectionThread = _ at there
        have settled : s.shouldReconnect = false := by
          simpa only [State.inOrder, there, Option.any_some, decide_true, Bool.and_true, Bool.not_eq_true'] using inOrder
        exact settled
    | disconnecting | disconnected => exact .inr rfl
    | _ => exact before
  current := by
    intro again
    obtain joins | ⟨op, here, byTimeout, pending⟩ := inv.pending again
    · exact absurd joins (s.not_joining unlocked)
    · have running : op.pc ≠ .done := by
        intro done
        rw [done] at pending
        cases pending
      simp only [reconnectInProgress, onRouterDisconnected, here, Option.any_some, byTimeout, running, ne_eq,
        not_false_eq_true, decide_true, Bool.and_self, Bool.true_or]

theorem run_reconnecting (inv : s.Reconnecting) (callback : Callback) (unlocked : s.free = true)
    (inOrder : s.inOrder callback = true) : (s.run callback).Reconnecting := by
  cases callback with
  | onRouterConnected => exact connected_reconnecting inv unlocked (of_decide_eq_true inOrder)
  | onRouterDisconnected => exact disconnected_reconnecting inv unlocked inOrder

theorem ahead_reconnecting (inv : s.Reconnecting) (attempt : Attempt) (router : Option Bool)
    (byTimeout : Bool) (was : Option ConnectArgs) (unlocked : s.free = true) (tool : s.toolApi = true)
    (here : s.connectionState = .disconnected) (thread : s.connectionThread = some ⟨.connect attempt, byTimeout, was⟩) :
    { s with
      router := router
      connectionState := .connecting
      activeConnectionType := attempt.args.connectionType
      connectionDescription := attempt.args.description
      active := some attempt
      connectionThread := some ⟨.connecting attempt.args none, byTimeout, was⟩ }.Reconnecting := by
  have asked : attempt.reconnect = byTimeout := inv.thread _ thread
  have again (reconnecting : s.currentlyReconnecting = true) : byTimeout = true := by
    simpa only [reconnectInProgress, connectingAgain, thread, here, Option.any_some, reduceCtorEq, ne_eq,
      not_false_eq_true, decide_true, decide_false, Bool.and_true, Bool.false_and, Bool.or_false]
      using inv.current reconnecting
  have once : s.shouldReconnect = false := not_pending inv unlocked fun op there _ => by
    obtain rfl := Option.some.inj (thread.symm.trans there)
    rfl
  exact {
    tool := fun noTool => nomatch tool.symm.trans noTool
    joining := inv.joining
    pending := fun asks => nomatch once.symm.trans asks
    closing := inv.closing
    shutDown := inv.shutDown
    thread := by
      rintro op ⟨⟩ reconnecting
      exact ⟨again reconnecting, by simp only [connectingAgain, decide_true, Option.any_some, asked,
        again reconnecting, Bool.and_self]⟩
    current := by
      intro reconnecting
      simp only [reconnectInProgress, again reconnecting, Option.any_some, reduceCtorEq, ne_eq, not_false_eq_true,
        decide_true, Bool.and_self, Bool.true_or] }

theorem failed_reconnecting (inv : s.Reconnecting) (byTimeout : Bool) (was : Option ConnectArgs)
    (unlocked : s.free = true) (thread : s.connectionThread = some ⟨.connectFailed, byTimeout, was⟩) :
    { s.connectFailed with connectionThread := some ⟨.notConnected, byTimeout, was⟩ }.Reconnecting where
  tool := fun _ => .inl rfl
  joining := inv.joining
  pending := by
    intro asks
    have once : s.shouldReconnect = false := not_pending inv unlocked fun op there _ => by
      obtain rfl := Option.some.inj (thread.symm.trans there)
      rfl
    exact nomatch once.symm.trans asks
  closing := inv.closing
  shutDown := inv.shutDown
  thread := by
    rintro op ⟨⟩
    trivial
  current := by
    intro reconnecting
    have byTimeout : byTimeout = true := inv.thread _ thread reconnecting
    simp only [reconnectInProgress, byTimeout, Option.any_some, reduceCtorEq, ne_eq, not_false_eq_true, decide_true,
      Bool.and_self, Bool.true_or]

theorem disconnects_reconnecting (inv : s.Reconnecting) (joining : s.Joining) (byTimeout : Bool)
    (was : Option ConnectArgs) (unlocked : s.free = true) (here : s.connectionState = .connected)
    (thread : s.connectionThread = some ⟨.disconnect, byTimeout, was⟩) :
    { s with
      connectionState := .disconnecting
      connectionThread := some ⟨.disconnecting none, byTimeout, was⟩ }.Reconnecting where
  tool := by
    intro noTool
    obtain nothing | ended := inv.tool noTool
    · exact nomatch here.symm.trans nothing
    · exact .inr ended
  joining := inv.joining
  pending := by
    intro asks
    obtain joins | ⟨op, there, byTimeout, _⟩ := inv.pending asks
    · exact absurd joins (s.not_joining unlocked)
    · obtain rfl := Option.some.inj (thread.symm.trans there)
      exact .inr ⟨_, rfl, byTimeout, rfl⟩
  closing := inv.closing
  shutDown := inv.shutDown
  thread := by
    rintro op ⟨⟩
    exact .inl rfl
  current := fun reconnecting => nomatch (joining.settled here).symm.trans reconnecting

theorem shuts_down_reconnecting (inv : s.Reconnecting) (joining : s.Joining) (pc : OpPc)
    (here : s.connectionState = .connected) (ui : s.ui = .shutDown pc) :
    { s with connectionState := .disconnecting, ui := .shutDown (.disconnecting none) }.Reconnecting := by
  have settled : s.currentlyReconnecting = false := joining.settled here
  have once : s.shouldReconnect = false := inv.closing (by rw [ui]; rfl)
  exact {
    tool := by
      intro noTool
      obtain nothing | ended := inv.tool noTool
      · exact nomatch here.symm.trans nothing
      · exact nomatch ui.symm.trans ended
    joining := nofun
    pending := fun asks => nomatch once.symm.trans asks
    closing := fun _ => once
    shutDown := by
      rintro _ ⟨⟩
      exact settled
    thread := by
      rintro ⟨pc, byTimeout, was⟩ there
      have before := inv.thread _ there
      cases pc with
      | connecting | connectFailed => exact fun reconnecting => nomatch settled.symm.trans reconnecting
      | disconnecting | disconnected => exact .inl rfl
      | _ => exact before
    current := fun reconnecting => nomatch settled.symm.trans reconnecting }

theorem logged_reconnecting (inv : s.Reconnecting) (log : List (Option ConnectArgs × ConnectArgs)) :
    { s with reconnects := log }.Reconnecting :=
  ⟨inv.tool, inv.joining, inv.pending, inv.closing, inv.shutDown, inv.thread, inv.current⟩

-- Only the thread that was started for a reconnect makes one.
theorem reconnects_by_timeout (inv : s.Reconnecting) (byTimeout : Bool) (was : Option ConnectArgs)
    (thread : s.connectionThread = some ⟨.disconnected, byTimeout, was⟩)
    (reconnecting : s.currentlyReconnecting = true) : byTimeout = true := by
  have settled : s.connectingAgain = false := by
    obtain here | here : s.connectionState = .disconnecting ∨ s.connectionState = .disconnected := inv.thread _ thread
    all_goals simp only [connectingAgain, here, reduceCtorEq, decide_false, Bool.false_and]
  simpa only [reconnectInProgress, thread, settled, Option.any_some, reduceCtorEq, ne_eq, not_false_eq_true, decide_true,
    Bool.and_true, Bool.or_false] using inv.current reconnecting

theorem nothing_connected_pending (inv : s.Reconnecting) (elsewhere : s.toolApi = false ∨ s.connectionState ≠ .connected)
    (asks : s.shouldReconnect = true) : s.connectionState ≠ .connected := by
  intro here
  obtain noTool | apart := elsewhere
  · obtain nothing | ended := inv.tool noTool
    · exact nomatch here.symm.trans nothing
    · exact nomatch (inv.closing (by rw [ended]; rfl)).symm.trans asks
  · exact apart here

theorem thread_reconnecting (inv : s.Reconnecting) (joining : s.Joining) (op : Operation) (answer : Answer)
    (made : State × OpPc) (here : s.connectionThread = some op)
    (move : s.OperationMove op.was op.pc answer made.1 made.2)
    (inOrder : s.operationInOrder op.pc answer = true) :
    { made.1 with connectionThread := some { op with pc := made.2 } }.Reconnecting := by
  obtain ⟨pc, byTimeout, was⟩ := op
  obtain ⟨t, next⟩ := made
  have before := inv.thread _ here
  cases move with
  | refused | routerFailed | notConnected =>
      exact reconnecting_goes_on (reconnecting_settles inv) _ .done here (fun _ _ => nofun) trivial nofun
  | noRouter attempt created loads result =>
      exact reconnecting_goes_on inv _ (.routerFailed result) here (fun _ _ => nofun) trivial (fun _ _ => nofun)
  | goesAhead attempt created loads router unlocked tool empty =>
      exact ahead_reconnecting inv attempt router byTimeout was unlocked tool empty here
  | connectCalls args callback =>
      exact reconnecting_goes_on inv _ (.connecting args (some callback)) here (fun _ _ => nofun) before (fun _ _ => nofun)
  | connectCalled args callback unlocked =>
      have after := run_reconnecting inv callback unlocked inOrder
      have there := (s.run_thread callback).trans here
      have still := after.thread _ there
      exact reconnecting_goes_on after _ (.connecting args none) there (fun _ _ => nofun) still (fun _ _ => nofun)
  | connects args =>
      exact reconnecting_goes_on inv _ .done here (fun _ _ => nofun) trivial
        fun reconnecting _ _ => (before reconnecting).2
  | fails args =>
      exact reconnecting_goes_on inv _ .connectFailed here (fun _ _ => nofun)
        (fun reconnecting => (before reconnecting).1) (fun _ _ => nofun)
  | connectFailed unlocked => exact failed_reconnecting inv byTimeout was unlocked here
  | nothingConnected unlocked elsewhere =>
      refine reconnecting_goes_on inv _ .done here (fun asks _ pending => ?_) trivial fun reconnecting asked _ => ?_
      · exact absurd (of_decide_eq_true pending) (nothing_connected_pending inv elsewhere asks)
      · exact nomatch (before asked).symm.trans reconnecting
  | disconnects unlocked connected => exact disconnects_reconnecting inv joining byTimeout was unlocked connected here
  | disconnectCalls callback =>
      exact reconnecting_goes_on inv _ (.disconnecting (some callback)) here (fun _ _ pending => pending) before
        (fun _ _ => nofun)
  | disconnectCalled callback unlocked =>
      have after := run_reconnecting inv callback unlocked inOrder
      have there := (s.run_thread callback).trans here
      have still := after.thread _ there
      exact reconnecting_goes_on after _ (.disconnecting none) there (fun _ _ pending => pending) still
        (fun _ _ => nofun)
  | disconnected =>
      simp only [operationInOrder, Bool.not_eq_true'] at inOrder
      exact reconnecting_goes_on inv _ .disconnected here (fun asks => nomatch inOrder.symm.trans asks) before
        (fun _ _ => nofun)
  | reconnects again =>
      exact reconnecting_goes_on (logged_reconnecting inv _) _ _ here (fun _ _ => nofun)
        (reconnects_by_timeout inv byTimeout was here again).symm (fun _ _ => nofun)
  | ended once =>
      exact reconnecting_goes_on inv _ .done here (fun _ _ => nofun) trivial
        fun reconnecting => nomatch once.symm.trans reconnecting

theorem elsewhere_reconnecting (inv : s.Reconnecting) (ui : UiPc) (before : s.ui ≠ .setTimeoutJoin)
    (opened : s.ui ≠ .ended) (after : ui ≠ .setTimeoutJoin)
    (closing : ui.closing = true → s.shouldReconnect = false)
    (shutDown : ∀ pc, ui = .shutDown pc → s.ShutDownAt pc) : { s with ui := ui }.Reconnecting where
  tool := fun noTool => .inl ((inv.tool noTool).resolve_right opened)
  joining := fun joins => absurd joins after
  pending := fun asks => .inr ((inv.pending asks).resolve_left before)
  closing := closing
  shutDown := shutDown
  thread := inv.thread
  current := inv.current

theorem opens_reconnecting (inv : s.Reconnecting) (ui : UiPc) (before : s.ui ≠ .setTimeoutJoin) (opened : s.ui ≠ .ended)
    (after : ui ≠ .setTimeoutJoin) (inside : ui.closing = false) : { s with ui := ui }.Reconnecting := by
  refine elsewhere_reconnecting inv ui before opened after (fun closes => ?_) fun pc here => ?_
  · rw [inside] at closes
    cases closes
  · rw [here] at inside
    cases inside

theorem unasked_reconnecting (inv : s.Reconnecting) (before : s.ui ≠ .setTimeoutJoin) :
    { s with shouldReconnect := false }.Reconnecting :=
  ⟨inv.tool, fun joins => absurd joins before, nofun, fun _ => rfl, inv.shutDown, inv.thread, inv.current⟩

theorem call_reconnecting (inv : s.Reconnecting) (call : Call) (idle : s.ui = .idle) : (s.call call).Reconnecting := by
  have before : s.ui ≠ .setTimeoutJoin := by simp [idle]
  have opened : s.ui ≠ .ended := by simp [idle]
  cases call with
  | createTool created registered callbacksAdded =>
      refine ⟨fun noTool => inv.tool ?_, inv.joining, inv.pending, inv.closing, inv.shutDown, inv.thread, inv.current⟩
      exact (Bool.or_eq_false_iff.mp noTool).1
  | connectToolLocal | connectToolRemote | disconnectTool =>
      exact opens_reconnecting inv _ before opened (by simp) rfl
  | setDisableClientTimeout setting =>
      by_cases same : s.disableClientTimeout = setting
      · simpa only [State.call, if_pos same] using inv
      · have stored := opens_reconnecting inv .setTimeout before opened (by simp) rfl
        rw [State.call, if_neg same]
        exact ⟨stored.tool, stored.joining, stored.pending, stored.closing, stored.shutDown, stored.thread,
          stored.current⟩
  | shutDown =>
      refine elsewhere_reconnecting (unasked_reconnecting inv before) (.shutDown .disconnect) before opened (by simp)
        (fun _ => rfl) ?_
      rintro _ ⟨⟩
      trivial

theorem joined_done (joined : s.joined = true) (op : Operation) (here : s.connectionThread = some op) :
    op.pc = .done := by
  simpa only [State.joined, here, Option.all_some, decide_eq_true_eq] using joined

theorem joined_not_pending (inv : s.Reconnecting) (joined : s.joined = true) (unlocked : s.ui ≠ .setTimeoutJoin) :
    s.shouldReconnect = false := by
  refine not_pending inv (by simpa only [free, ne_eq, decide_eq_true_eq] using unlocked) fun op here _ => ?_
  rw [joined_done joined op here]
  rfl

theorem joined_connecting_again (inv : s.Reconnecting) (joined : s.joined = true)
    (reconnecting : s.currentlyReconnecting = true) : s.connectingAgain = true := by
  have progress := inv.current reconnecting
  cases here : s.connectionThread with
  | none => simpa only [reconnectInProgress, here, Option.any_none, Bool.false_or] using progress
  | some op =>
      have done := joined_done joined op here
      simpa only [reconnectInProgress, here, done, Option.any_some, ne_eq, not_true_eq_false, decide_false,
        Bool.and_false, Bool.false_or] using progress

theorem starts_reconnecting (inv : s.Reconnecting) (pc : OpPc) (joined : s.joined = true)
    (unlocked : s.ui ≠ .setTimeoutJoin) (opened : s.ui ≠ .ended)
    (starts : s.ThreadAt ⟨pc, false, none⟩) : (s.start pc).Reconnecting where
  tool := fun noTool => .inl ((inv.tool noTool).resolve_right opened)
  joining := nofun
  pending := fun asks => nomatch (joined_not_pending inv joined unlocked).symm.trans asks
  closing := nofun
  shutDown := nofun
  thread := by
    rintro op ⟨⟩
    exact starts
  current := by
    intro reconnecting
    have again := joined_connecting_again inv joined reconnecting
    exact Bool.or_eq_true_iff.mpr (.inr again)

theorem applies_reconnecting (inv : s.Reconnecting) (here : s.ui = .setTimeout) :
    { s with shouldReconnect := true, ui := .setTimeoutJoin }.Reconnecting where
  tool := fun noTool => .inl ((inv.tool noTool).resolve_right (by rw [here]; nofun))
  joining := fun _ => rfl
  pending := fun _ => .inl rfl
  closing := nofun
  shutDown := nofun
  thread := inv.thread
  current := inv.current

theorem joins_reconnecting (inv : s.Reconnecting) (joining : s.Joining) (was : Option ConnectArgs)
    (here : s.ui = .setTimeoutJoin) :
    { s with connectionThread := some ⟨.disconnect, true, was⟩, ui := .idle }.Reconnecting := by
  have connected := joining.connected here
  have settled := joining.settled connected
  exact {
    tool := fun noTool => .inl ((inv.tool noTool).resolve_right (by rw [here]; nofun))
    joining := nofun
    pending := fun _ => .inr ⟨_, rfl, rfl, decide_eq_true connected⟩
    closing := nofun
    shutDown := nofun
    thread := by
      rintro op ⟨⟩ _
      exact settled
    current := fun reconnecting => nomatch settled.symm.trans reconnecting }

theorem ended_reconnecting (inv : s.Reconnecting) (here : s.ui = .shutDownJoin) (joined : s.joined = true) :
    { s with connectionThread := none, toolApi := false, ui := .ended }.Reconnecting := by
  have once := joined_not_pending inv joined (by rw [here]; nofun)
  exact {
    tool := fun _ => .inr rfl
    joining := nofun
    pending := fun asks => nomatch once.symm.trans asks
    closing := fun _ => once
    shutDown := nofun
    thread := fun op there => absurd there.symm (Option.some_ne_none op)
    current := by
      intro reconnecting
      have again := joined_connecting_again inv joined reconnecting
      exact Bool.or_eq_true_iff.mpr (.inr again) }

theorem shut_down_reconnecting (inv : s.Reconnecting) (joining : s.Joining) (pc : OpPc) (answer : Answer)
    (made : State × OpPc) (here : s.ui = .shutDown pc) (move : s.OperationMove none pc answer made.1 made.2)
    (inOrder : s.operationInOrder pc answer = true) : { made.1 with ui := .shutDown made.2 }.Reconnecting := by
  obtain ⟨t, next⟩ := made
  have before := inv.shutDown pc here
  have goes_on (u : State) (after : u.Reconnecting) (there : u.ui = .shutDown pc) (next : OpPc)
      (stays : u.ShutDownAt next) : { u with ui := .shutDown next }.Reconnecting := by
    refine elsewhere_reconnecting after _ (by rw [there]; nofun) (by rw [there]; nofun) nofun
      (fun _ => after.closing (by rw [there]; rfl)) ?_
    rintro _ ⟨⟩
    exact stays
  cases move with
  | nothingConnected | ended => exact goes_on _ inv here _ trivial
  | disconnects unlocked connected =>
      have shut := shuts_down_reconnecting inv joining .disconnect connected here
      exact shut
  | disconnectCalls | disconnected => exact goes_on _ inv here _ before
  | disconnectCalled callback unlocked =>
      have after := run_reconnecting inv callback unlocked inOrder
      have there := (s.run_ui callback).trans here
      have stays := after.shutDown _ there
      exact goes_on _ after there _ stays
  | reconnects again => exact nomatch before.symm.trans again
  | _ => exact before.elim

theorem step_reconnecting (s : State) (a : Action) (t : State) (joining : s.Joining) (inv : s.Reconnecting)
    (orderly : s.orderly a = true) (next : s.step a = some t) : t.Reconnecting := by
  obtain ⟨call, rfl, idle, rfl⟩ | ⟨answer, rfl, move⟩ | ⟨answer, op, made, rfl, here, move, rfl⟩ |
    ⟨callback, rfl, tool, unlocked, rfl⟩ := s.step_cases a t next
  · exact call_reconnecting inv call idle
  · cases move with
    | connects args here joined =>
        exact starts_reconnecting inv _ joined (by rw [here]; nofun) (by rw [here]; nofun) rfl
    | disconnects here joined =>
        exact starts_reconnecting inv _ joined (by rw [here]; nofun) (by rw [here]; nofun) nofun
    | applies here connected => exact applies_reconnecting inv here
    | leaves here elsewhere =>
        exact opens_reconnecting inv _ (by simp [here]) (by simp [here]) (by simp) rfl
    | joins here joined => exact joins_reconnecting inv joining _ here
    | disconnected here =>
        exact elsewhere_reconnecting inv _ (by rw [here]; nofun) (by rw [here]; nofun) nofun
          (fun _ => inv.closing (by rw [here]; rfl)) nofun
    | operates pc answer made here move =>
        have inOrder : s.operationInOrder pc answer = true := by simpa only [State.orderly, here] using orderly
        exact shut_down_reconnecting inv joining pc answer made here move inOrder
    | ended here joined => exact ended_reconnecting inv here joined
  · have inOrder : s.operationInOrder op.pc answer = true := by
      simpa only [State.orderly, here, Option.all_some] using orderly
    exact thread_reconnecting inv joining op answer made here move inOrder
  · exact run_reconnecting inv callback unlocked orderly

theorem initial_reconnecting : initial.Reconnecting :=
  ⟨fun _ => .inl rfl, nofun, nofun, nofun, nofun, fun op there => absurd there.symm (Option.some_ne_none op), nofun⟩

theorem reach_reconnecting (s : State) (reach : Reach connectionModel (fun s a => s.orderly a = true) s) :
    s.Reconnecting := by
  refine reach_invariant connectionModel _ Reconnecting initial_reconnecting ?_ s reach
  intro s a t before inv orderly next
  exact step_reconnecting s a t (reachable_joining s (reach_reachable _ _ s before)) inv orderly next

end State

end RadeonPanel.Frontend.Connection

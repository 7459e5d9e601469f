import RadeonPanel.Base.Runs
import RadeonPanel.Raytracing.ViewModels
import RadeonPanel.Ubertrace.AutoCapture

set_option autoImplicit false

namespace RadeonPanel.Raytracing

open Interleaving RadeonPanel.Ubertrace

-- In front of each access that ApplyMarkerAutoCapture makes to the trace source's config.
inductive UiTask where
  | idle
  | loadEnableMarkerCapture
  | loadIsMarkerCaptureSupported
  | publishDelay
  | enable
  | disable
  | clearDelay
deriving DecidableEq, Repr

-- The trace source's thread loads the support again before it posts it.
inductive RouterTask where
  | idle
  | loadIsMarkerCaptureSupported
  | postSupportEvent (isMarkerCaptureSupported : Bool)
deriving DecidableEq, Repr

inductive DelayStore where
  | published
  | cleared
deriving DecidableEq, Repr

def DelayStore.delay : DelayStore → UInt32
  | .published => kMarkerCaptureArmDelayMs
  | .cleared => 0

-- A client's thread in GetAutoCaptureConfig. Between its two loads `since` records the
-- last store to the delay that came after the first one.
inductive AutoCaptureQuery where
  | start
  | armed (since : Option DelayStore)
  | answered (config : Option UbertraceAutoCaptureConfig)
deriving DecidableEq, Repr

def AutoCaptureQuery.see (store : DelayStore) : AutoCaptureQuery → AutoCaptureQuery
  | .armed _ => .armed (some store)
  | query => query

inductive RouterStatus where
  | disconnected
  | systemInfoFailed
  | connected (isMarkerCaptureSupported : Bool)
deriving DecidableEq, Repr

structure ArmState where
  config : RraTraceSourceConfig
  ui : UiTask
  router : RouterTask
  -- The support events that wait for the UI thread.
  events : List Bool
  queries : Nat → AutoCaptureQuery

inductive ArmAction where
  | receiveUserData (enableMarkerCapture : Bool)
  | handleTraceSupportChanged
  | applyMarkerAutoCapture
  | routerConnectionStatusChanged (status : RouterStatus)
  | continueRouter
  | getAutoCaptureConfig (client : Nat)
deriving DecidableEq, Repr

namespace ArmState

def created : ArmState := ⟨.created, .idle, .idle, [], fun _ => .start⟩

def storeDelay (s : ArmState) (store : DelayStore) (next : UiTask) : ArmState :=
  { s with config.autoCaptureDelayMs := store.delay, ui := next, queries := fun id => (s.queries id).see store }

def continueUi (s : ArmState) : Option ArmState :=
  match s.ui with
  | .idle => none
  | .loadEnableMarkerCapture =>
      some { s with ui := if s.config.enableMarkerCapture then .loadIsMarkerCaptureSupported else .disable }
  | .loadIsMarkerCaptureSupported =>
      some { s with ui := if s.config.isMarkerCaptureSupported then .publishDelay else .disable }
  | .publishDelay => some (s.storeDelay .published .enable)
  | .enable => some { s with config.autoCaptureEnabled := true, ui := .idle }
  | .disable => some { s with config.autoCaptureEnabled := false, ui := .clearDelay }
  | .clearDelay => some (s.storeDelay .cleared .idle)

-- Without a connection, or without the system info, the support in the config stays.
def routerStatusChanged (s : ArmState) : RouterStatus → ArmState
  | .disconnected | .systemInfoFailed => { s with router := .postSupportEvent false }
  | .connected supported =>
      { s with config.isMarkerCaptureSupported := supported, router := .loadIsMarkerCaptureSupported }

def continueRouter (s : ArmState) : Option ArmState :=
  match s.router with
  | .idle => none
  | .loadIsMarkerCaptureSupported => some { s with router := .postSupportEvent s.config.isMarkerCaptureSupported }
  | .postSupportEvent supported => some { s with router := .idle, events := s.events ++ [supported] }

def nextQuery (config : RraTraceSourceConfig) : AutoCaptureQuery → AutoCaptureQuery
  | .armed _ => .answered (some ⟨config.autoCaptureDelayMs, 0⟩)
  | .start | .answered _ => if config.autoCaptureEnabled then .armed none else .answered none

def step (s : ArmState) : ArmAction → Option ArmState
  | .receiveUserData enableMarkerCapture =>
      if s.ui = .idle then
        some { s with config.enableMarkerCapture := enableMarkerCapture, ui := .loadEnableMarkerCapture }
      else none
  | .handleTraceSupportChanged =>
      match s.ui, s.events with
      | .idle, supported :: rest =>
          some { s with config.isMarkerCaptureSupported := supported, events := rest, ui := .loadEnableMarkerCapture }
      | _, _ => none
  | .applyMarkerAutoCapture => s.continueUi
  | .routerConnectionStatusChanged status => if s.router = .idle then some (s.routerStatusChanged status) else none
  | .continueRouter => s.continueRouter
  | .getAutoCaptureConfig client =>
      some { s with queries := Function.update s.queries client (nextQuery s.config (s.queries client)) }

end ArmState

def markerArming : Machine ArmState ArmAction where
  init := .created
  step := ArmState.step

-- Every step there is, with what it leaves.
inductive Stepped (s : ArmState) : ArmAction → ArmState → Prop where
  | receive (marker : Bool) (idle : s.ui = .idle) :
      Stepped s (.receiveUserData marker) { s with config.enableMarkerCapture := marker, ui := .loadEnableMarkerCapture }
  | handle (supported : Bool) (rest : List Bool) (idle : s.ui = .idle) (first : s.events = supported :: rest) :
      Stepped s .handleTraceSupportChanged
        { s with config.isMarkerCaptureSupported := supported, events := rest, ui := .loadEnableMarkerCapture }
  | loadMarker (here : s.ui = .loadEnableMarkerCapture) :
      Stepped s .applyMarkerAutoCapture
        { s with ui := if s.config.enableMarkerCapture then .loadIsMarkerCaptureSupported else .disable }
  | loadSupport (here : s.ui = .loadIsMarkerCaptureSupported) :
      Stepped s .applyMarkerAutoCapture { s with ui := if s.config.isMarkerCaptureSupported then .publishDelay else .disable }
  | publish (here : s.ui = .publishDelay) : Stepped s .applyMarkerAutoCapture (s.storeDelay .published .enable)
  | enable (here : s.ui = .enable) :
      Stepped s .applyMarkerAutoCapture { s with config.autoCaptureEnabled := true, ui := .idle }
  | disable (here : s.ui = .disable) :
      Stepped s .applyMarkerAutoCapture { s with config.autoCaptureEnabled := false, ui := .clearDelay }
  | clear (here : s.ui = .clearDelay) : Stepped s .applyMarkerAutoCapture (s.storeDelay .cleared .idle)
  | status (status : RouterStatus) (idle : s.router = .idle) :
      Stepped s (.routerConnectionStatusChanged status) (s.routerStatusChanged status)
  | router (router : RouterTask) (events : List Bool) : Stepped s .continueRouter { s with router := router, events := events }
  | query (client : Nat) :
      Stepped s (.getAutoCaptureConfig client)
        { s with queries := Function.update s.queries client (ArmState.nextQuery s.config (s.queries client)) }

theorem step_cases {s t : ArmState} {action : ArmAction} (next : markerArming.step s action = some t) : Stepped s action t := by
  cases action with
  | receiveUserData marker =>
      obtain ⟨idle, taken⟩ := Option.ite_none_right_eq_some.mp next
      cases taken
      exact .receive marker idle
  | handleTraceSupportChanged =>
      obtain ⟨config, ui, router, events, queries⟩ := s
      cases ui with
      | idle =>
          cases events with
          | nil => cases next
          | cons supported rest => cases next; exact .handle supported rest rfl rfl
      | _ => cases next
  | applyMarkerAutoCapture =>
      obtain ⟨config, ui, router, events, queries⟩ := s
      cases ui with
      | idle => cases next
      | loadEnableMarkerCapture => cases next; exact .loadMarker rfl
      | loadIsMarkerCaptureSupported => cases next; exact .loadSupport rfl
      | publishDelay => cases next; exact .publish rfl
      | enable => cases next; exact .enable rfl
      | disable => cases next; exact .disable rfl
      | clearDelay => cases next; exact .clear rfl
  | routerConnectionStatusChanged status =>
      obtain ⟨idle, taken⟩ := Option.ite_none_right_eq_some.mp next
      cases taken
      exact .status status idle
  | continueRouter =>
      obtain ⟨config, ui, router, events, queries⟩ := s
      cases router with
      | idle => cases next
      | loadIsMarkerCaptureSupported => cases next; exact .router _ _
      | postSupportEvent supported => cases next; exact .router _ _
  | getAutoCaptureConfig client => cases next; exact .query client

-- Left alone, the steps of a call do what the call does as a whole.
theorem apply_alone (s : ArmState) (called : s.ui = .loadEnableMarkerCapture) :
    ∃ steps t, exec markerArming s (List.replicate steps .applyMarkerAutoCapture) = some t ∧
      t.ui = .idle ∧ t.config = applyMarkerAutoCapture s.config ∧ t.events = s.events := by
  obtain ⟨config, ui, router, events, queries⟩ := s
  obtain ⟨size, history, enabled, delay, marker, supported, beginString, endString⟩ := config
  cases called
  cases marker with
  | false => exact ⟨3, _, rfl, rfl, rfl, rfl⟩
  | true =>
      cases supported with
      | false => exact ⟨4, _, rfl, rfl, rfl, rfl⟩
      | true => exact ⟨4, _, rfl, rfl, rfl, rfl⟩

def UiTask.markerLoaded : UiTask → Bool
  | .loadIsMarkerCaptureSupported | .publishDelay | .enable => true
  | .idle | .loadEnableMarkerCapture | .disable | .clearDelay => false

def delaySince (since : Option DelayStore) : UInt32 := since.elim kMarkerCaptureArmDelayMs DelayStore.delay

structure Arming (s : ArmState) : Prop where
  enabled : s.config.autoCaptureEnabled = true → s.config.autoCaptureDelayMs = kMarkerCaptureArmDelayMs
  loaded : s.ui.markerLoaded = true → s.config.enableMarkerCapture = true
  published : s.ui = .enable → s.config.autoCaptureDelayMs = kMarkerCaptureArmDelayMs
  disabled : s.ui = .clearDelay → s.config.autoCaptureEnabled = false
  reading : ∀ client since, s.queries client = .armed since → s.config.autoCaptureDelayMs = delaySince since

theorem see_armed {store : DelayStore} {query : AutoCaptureQuery} {since : Option DelayStore}
    (armed : query.see store = .armed since) : since = some store := by
  cases query with
  | armed earlier => cases armed; rfl
  | start => cases armed
  | answered config => cases armed

theorem see_answered {store : DelayStore} {query : AutoCaptureQuery} {config : Option UbertraceAutoCaptureConfig}
    (answered : query.see store = .answered config) : query = .answered config := by
  cases query with
  | armed earlier => cases answered
  | start => cases answered
  | answered answer => exact answered

theorem store_delay_reading (s : ArmState) (store : DelayStore) (next : UiTask) (client : Nat) (since : Option DelayStore)
    (armed : (s.storeDelay store next).queries client = .armed since) :
    (s.storeDelay store next).config.autoCaptureDelayMs = delaySince since := by
  rw [see_armed armed]
  rfl

theorem next_query_armed {config : RraTraceSourceConfig} {query : AutoCaptureQuery} {since : Option DelayStore}
    (armed : ArmState.nextQuery config query = .armed since) : config.autoCaptureEnabled = true ∧ since = none := by
  cases query with
  | armed earlier => cases armed
  | start | answered answer =>
      obtain ⟨on, taken⟩ | ⟨_, contrary⟩ := ite_eq_iff.mp armed
      · cases taken
        exact ⟨on, rfl⟩
      · cases contrary

theorem arming_query {s : ArmState} (inv : Arming s) (client : Nat) :
    Arming { s with queries := Function.update s.queries client (ArmState.nextQuery s.config (s.queries client)) } := by
  refine { inv with reading := fun other since armed => ?_ }
  change Function.update s.queries client _ other = _ at armed
  change s.config.autoCaptureDelayMs = delaySince since
  by_cases same : other = client
  · subst same
    rw [Function.update_self] at armed
    obtain ⟨on, unseen⟩ := next_query_armed armed
    subst unseen
    exact inv.enabled on
  · rw [Function.update_of_ne same] at armed
    exact inv.reading other since armed

theorem arming_step (s : ArmState) (action : ArmAction) (t : ArmState) (inv : Arming s)
    (next : markerArming.step s action = some t) : Arming t := by
  obtain ⟨enabled, loaded, published, disabled, reading⟩ := inv
  cases step_cases next with
  | receive marker idle => exact ⟨enabled, nofun, nofun, nofun, reading⟩
  | handle supported rest idle first => exact ⟨enabled, nofun, nofun, nofun, reading⟩
  | loadMarker here =>
      cases marker : s.config.enableMarkerCapture with
      | false => exact ⟨enabled, nofun, nofun, nofun, reading⟩
      | true => exact ⟨enabled, fun _ => marker, nofun, nofun, reading⟩
  | loadSupport here =>
      have marker := loaded (congrArg UiTask.markerLoaded here)
      cases s.config.isMarkerCaptureSupported with
      | false => exact ⟨enabled, nofun, nofun, nofun, reading⟩
      | true => exact ⟨enabled, fun _ => marker, nofun, nofun, reading⟩
  | publish here =>
      have marker := loaded (congrArg UiTask.markerLoaded here)
      exact ⟨fun _ => rfl, fun _ => marker, fun _ => rfl, nofun, store_delay_reading s .published .enable⟩
  | enable here => exact ⟨fun _ => published here, nofun, nofun, nofun, reading⟩
  | disable here => exact ⟨nofun, nofun, nofun, fun _ => rfl, reading⟩
  | clear here =>
      have off := disabled here
      exact ⟨fun on => absurd (off.symm.trans on) Bool.false_ne_true, nofun, nofun, nofun, store_delay_reading s .cleared .idle⟩
  | status status idle => cases status <;> exact ⟨enabled, loaded, published, disabled, reading⟩
  | router router events => exact ⟨enabled, loaded, published, disabled, reading⟩
  | query client => exact arming_query ⟨enabled, loaded, published, disabled, reading⟩ client

theorem arming_reachable (s : ArmState) (reach : Reachable markerArming s) : Arming s :=
  reachable_invariant markerArming Arming ⟨nofun, nofun, nofun, nofun, nofun⟩ arming_step s reach

-- A client that is to capture by itself has the delay of an enabling.
def ReadsArmed (s : ArmState) : Prop :=
  ∀ client config, s.queries client = .answered (some config) → config.delayMs = kMarkerCaptureArmDelayMs

-- Between the calls that apply the marker capture.
def ArmedAtRest (s : ArmState) : Prop :=
  s.ui = .idle → s.config.autoCaptureEnabled = (s.config.enableMarkerCapture && s.config.isMarkerCaptureSupported)

structure NeverHalfArmed (s : ArmState) : Prop where
  reads : ReadsArmed s
  rest : ArmedAtRest s

-- A client's second load does not come after a delay was cleared and before one is
-- published again.
def readsInTime (s : ArmState) : ArmAction → Prop
  | .getAutoCaptureConfig client => s.queries client ≠ .armed (some .cleared)
  | _ => True

-- Between calls the router's thread changes no support that matters, and a call ends
-- with the support that it loaded.
def supportApplied (s : ArmState) : ArmAction → Prop
  | .routerConnectionStatusChanged (.connected supported) =>
      s.ui = .idle → s.config.enableMarkerCapture = true → supported = s.config.isMarkerCaptureSupported
  | .applyMarkerAutoCapture =>
      match s.ui with
      | .enable => s.config.isMarkerCaptureSupported = true
      | .clearDelay => s.config.enableMarkerCapture = true → s.config.isMarkerCaptureSupported = false
      | _ => True
  | _ => True

structure ArmsWhole (s : ArmState) (action : ArmAction) : Prop where
  reads : readsInTime s action
  support : supportApplied s action

theorem queries_step {s t : ArmState} {action : ArmAction} (next : markerArming.step s action = some t) :
    (∃ client, action = .getAutoCaptureConfig client ∧
      t.queries = Function.update s.queries client (ArmState.nextQuery s.config (s.queries client))) ∨
    (∀ client, action ≠ .getAutoCaptureConfig client) ∧
      (t.queries = s.queries ∨ ∃ store, t.queries = fun id => (s.queries id).see store) := by
  cases step_cases next with
  | query client => exact .inl ⟨client, rfl, rfl⟩
  | publish here => exact .inr ⟨nofun, .inr ⟨.published, rfl⟩⟩
  | clear here => exact .inr ⟨nofun, .inr ⟨.cleared, rfl⟩⟩
  | status status idle => cases status <;> exact .inr ⟨nofun, .inl rfl⟩
  | _ => exact .inr ⟨nofun, .inl rfl⟩

theorem next_query_answered {config : RraTraceSourceConfig} {query : AutoCaptureQuery} {auto : UbertraceAutoCaptureConfig}
    (answered : ArmState.nextQuery config query = .answered (some auto)) :
    (∃ since, query = .armed since) ∧ auto = ⟨config.autoCaptureDelayMs, 0⟩ := by
  cases query with
  | armed since => cases answered; exact ⟨⟨since, rfl⟩, rfl⟩
  | start | answered answer => obtain ⟨_, contrary⟩ | ⟨_, contrary⟩ := ite_eq_iff.mp answered <;> cases contrary

theorem delay_since_eq {since : Option DelayStore} : delaySince since = kMarkerCaptureArmDelayMs ↔ since ≠ some .cleared := by
  cases since with
  | none => decide
  | some store => cases store <;> decide

theorem reads_armed_step {s t : ArmState} {action : ArmAction} (inv : Arming s) (reads : ReadsArmed s)
    (next : markerArming.step s action = some t) : ReadsArmed t ↔ readsInTime s action := by
  obtain ⟨client, rfl, queries⟩ | ⟨other, queries⟩ := queries_step next
  · constructor
    · intro after late
      have delay := inv.reading client _ late
      have answered : t.queries client = .answered (some ⟨s.config.autoCaptureDelayMs, 0⟩) := by
        rw [queries, Function.update_self, late]
        rfl
      exact delay_since_eq.mp (delay.symm.trans (after client _ answered)) rfl
    · intro inTime other auto answered
      rw [queries] at answered
      by_cases same : other = client
      · subst same
        rw [Function.update_self] at answered
        obtain ⟨⟨since, armed⟩, taken⟩ := next_query_answered answered
        subst taken
        have seen : since ≠ some .cleared := fun cleared => inTime (armed.trans (congrArg _ cleared))
        exact (inv.reading other since armed).trans (delay_since_eq.mpr seen)
      · rw [Function.update_of_ne same] at answered
        exact reads other auto answered
  · have free : readsInTime s action := by
      cases action with
      | getAutoCaptureConfig client => exact absurd rfl (other client)
      | _ => trivial
    refine ⟨fun _ => free, fun _ client auto answered => ?_⟩
    obtain same | ⟨store, seen⟩ := queries
    · exact reads client auto (same ▸ answered)
    · rw [seen] at answered
      exact reads client auto (see_answered answered)

theorem support_replaced {enabled marker supported : Bool} (holds : enabled = (marker && supported)) (replaced : Bool) :
    enabled = (marker && replaced) ↔ marker = true → replaced = supported := by
  cases marker with
  | false => exact ⟨fun _ => nofun, fun _ => holds⟩
  | true => exact ⟨fun same _ => same.symm.trans holds, fun same => holds.trans (same rfl).symm⟩

theorem armed_at_rest_step {s t : ArmState} {action : ArmAction} (inv : Arming s) (rest : ArmedAtRest s)
    (next : markerArming.step s action = some t) : ArmedAtRest t ↔ supportApplied s action := by
  cases step_cases next with
  | receive marker idle => exact ⟨fun _ => trivial, fun _ => nofun⟩
  | handle supported later idle first => exact ⟨fun _ => trivial, fun _ => nofun⟩
  | loadMarker here =>
      rw [supportApplied, here]
      refine ⟨fun _ => trivial, fun _ => ?_⟩
      cases marker : s.config.enableMarkerCapture <;> exact nofun
  | loadSupport here =>
      rw [supportApplied, here]
      refine ⟨fun _ => trivial, fun _ => ?_⟩
      cases supported : s.config.isMarkerCaptureSupported <;> exact nofun
  | publish here =>
      rw [supportApplied, here]
      exact ⟨fun _ => trivial, fun _ => nofun⟩
  | enable here =>
      have marker : s.config.enableMarkerCapture = true := inv.loaded (congrArg UiTask.markerLoaded here)
      rw [supportApplied, here]
      constructor
      · intro holds
        have both := holds rfl
        exact (Bool.and_eq_true_iff.mp both.symm).2
      · intro supported _
        exact (Bool.and_eq_true_iff.mpr ⟨marker, supported⟩).symm
  | disable here =>
      rw [supportApplied, here]
      exact ⟨fun _ => trivial, fun _ => nofun⟩
  | clear here =>
      have off := inv.disabled here
      rw [supportApplied, here]
      constructor
      · intro holds marker
        have neither := (holds rfl).symm.trans off
        exact Bool.and_eq_false_imp.mp neither marker
      · intro unsupported _
        exact off.trans (Bool.and_eq_false_imp.mpr unsupported).symm
  | status status idle =>
      cases status with
      | disconnected | systemInfoFailed => exact ⟨fun _ => trivial, fun _ => rest⟩
      | connected supported => exact forall_congr' fun idle => support_replaced (rest idle) supported
  | router router events => exact ⟨fun _ => trivial, fun _ => rest⟩
  | query client => exact ⟨fun _ => trivial, fun _ => rest⟩

theorem never_half_armed_iff (actions : List ArmAction) :
    Meets markerArming ArmsWhole markerArming.init actions ↔ Always markerArming NeverHalfArmed markerArming.init actions := by
  refine keeps_iff_always markerArming ArmsWhole NeverHalfArmed ⟨nofun, fun _ => rfl⟩ (fun s action t reach holds next => ?_) actions
  have inv := arming_reachable s reach
  have reads := reads_armed_step inv holds.reads next
  have rest := armed_at_rest_step inv holds.rest next
  exact ⟨fun after => ⟨reads.mp after.reads, rest.mp after.rest⟩, fun allowed => ⟨reads.mpr allowed.reads, rest.mpr allowed.support⟩⟩

def supportReported : List ArmAction :=
  [.routerConnectionStatusChanged (.connected true), .continueRouter, .continueRouter, .handleTraceSupportChanged,
    .applyMarkerAutoCapture, .applyMarkerAutoCapture, .applyMarkerAutoCapture]

def armMarkers : List ArmAction :=
  [.receiveUserData true, .applyMarkerAutoCapture, .applyMarkerAutoCapture, .applyMarkerAutoCapture, .applyMarkerAutoCapture]

def disarmMarkers : List ArmAction :=
  [.receiveUserData false, .applyMarkerAutoCapture, .applyMarkerAutoCapture, .applyMarkerAutoCapture]

-- The user disables the marker capture between a client's two loads; the support of a
-- connected router is in the config before the UI thread has heard of it.
theorem half_armed :
    (∃ s, Reachable markerArming s ∧ s.queries 0 = .answered (some ⟨0, 0⟩)) ∧
    (∃ s, Reachable markerArming s ∧ s.ui = .idle ∧ s.config.autoCaptureEnabled = false ∧
      s.config.enableMarkerCapture = true ∧ s.config.isMarkerCaptureSupported = true) := by
  constructor
  · obtain ⟨s, reach, answered⟩ := exec_finds markerArming
      (supportReported ++ armMarkers ++ [.getAutoCaptureConfig 0] ++ disarmMarkers ++ [.getAutoCaptureConfig 0])
      (fun s => s.queries 0 = .answered (some ⟨0, 0⟩)) (by decide)
    exact ⟨s, reach, of_decide_eq_true answered⟩
  · obtain ⟨s, reach, unarmed⟩ := exec_finds markerArming (armMarkers ++ [.routerConnectionStatusChanged (.connected true)])
      (fun s => s.ui = .idle ∧ s.config.autoCaptureEnabled = false ∧
        s.config.enableMarkerCapture = true ∧ s.config.isMarkerCaptureSupported = true) (by decide)
    exact ⟨s, reach, of_decide_eq_true unarmed⟩

end RadeonPanel.Raytracing

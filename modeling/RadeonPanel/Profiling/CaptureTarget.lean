import RadeonPanel.Base.Runs
import RadeonPanel.Profiling.ViewModel

set_option autoImplicit false

namespace RadeonPanel.Profiling

open Interleaving TraceSource Userdata

-- A status event comes with what the connections support from then on.
inductive CaptureOperation where
  | statusEvent (newStatus : TraceSourceStatus) (supported : SupportedModes)
  | setCaptureTarget (captureTarget : DdConnectionId)
  | setCaptureMode (mode : UInt32)
  | receiveUserData (data : Text)

-- The view model and its trace source. `chosen` is the connection that the user chose,
-- for as long as it is there; `reported` whether there has been a status event.
structure CaptureSession where
  viewModel : ProfilingViewModel
  source : RgpTraceSource
  chosen : Option DdConnectionId
  reported : Bool

namespace CaptureSession
variable (env : Environment) (s : CaptureSession)

def created : CaptureSession := ⟨.created env, ⟨.created, fun _ _ => [0]⟩, none, false⟩

def Connected (connections : ConnectionMap) (id : DdConnectionId) : Prop := (connections.at? id).isSome = true

instance (connections : ConnectionMap) (id : DdConnectionId) : Decidable (Connected connections id) :=
  inferInstanceAs (Decidable (_ = true))

def connections : ConnectionMap := s.viewModel.currentStatus.currentConnections

def perform : CaptureOperation → CaptureSession
  | .statusEvent newStatus supported =>
      let source := { s.source with supported := supported }
      { viewModel := s.viewModel.statusEvent source newStatus
        source := source
        chosen := s.chosen.filter fun id => Connected newStatus.currentConnections id
        reported := true }
  | .setCaptureTarget captureTarget =>
      { s with
        viewModel := s.viewModel.setCaptureTarget s.source captureTarget
        chosen := if Connected s.connections captureTarget then some captureTarget else none }
  | .setCaptureMode mode => { s with viewModel := s.viewModel.setCaptureMode mode }
  | .receiveUserData data =>
      let received := s.viewModel.receiveUserData env s.source data
      { s with viewModel := received.2.1, source := received.2.2 }

end CaptureSession

def captureSessions (env : Environment) : Machine CaptureSession CaptureOperation where
  init := .created env
  step := fun s op => some (s.perform env op)

-- The numbers of the modes that a connection can be shown with. Without a target there
-- is one entry, whose number is 0.
def connectionModes (source : RgpTraceSource) (id : DdConnectionId) : List UInt32 :=
  (captureModes (source.supported source.config.autoCaptureMode id)).map CaptureMode.mode

def shownModes (source : RgpTraceSource) (target : DdConnectionId) : List UInt32 :=
  if target = 0 then [0] else connectionModes source target

namespace CaptureSession
variable (s : CaptureSession)

structure TargetKept : Prop where
  kept : ∀ id, s.chosen = some id → s.viewModel.captureTarget = id
  connected : s.viewModel.captureTarget = 0 ∨ Connected s.connections s.viewModel.captureTarget
  filled : s.viewModel.takesFromEmpty = false

structure ModesFit : Prop where
  supported : s.viewModel.modes = shownModes s.source s.viewModel.captureTarget
  current : s.viewModel.currentCaptureMode ∈ s.viewModel.modes

structure CapturesChosen : Prop where
  target : s.TargetKept
  modes : s.reported = true → s.ModesFit

-- The trace source's first connection is the one that was chosen, if that is still
-- there, and it has a mode to show.
structure EventSuits (newStatus : TraceSourceStatus) (supported : SupportedModes) : Prop where
  first : ∀ id, s.chosen = some id → Connected newStatus.currentConnections id → firstConnection newStatus.currentConnections = id
  shown : shownModes { s.source with supported := supported } (firstConnection newStatus.currentConnections) ≠ []

-- No connection is numbered 0, or it is shown as no target is.
structure TargetSuits (target : DdConnectionId) : Prop where
  there : Connected s.connections target →
    connectionModes s.source target ≠ [] ∧ connectionModes s.source target = shownModes s.source target
  away : ¬ Connected s.connections target → target = 0 ∧ (s.reported = true → s.viewModel.modes = [0])

def suits (env : Environment) : CaptureOperation → Prop
  | .statusEvent newStatus supported => s.EventSuits newStatus supported
  | .setCaptureTarget captureTarget => s.TargetSuits captureTarget
  | .setCaptureMode mode => s.reported = true → mode ∈ s.viewModel.modes
  | .receiveUserData data => ∀ userdata, readUserdata env data = some userdata → s.reported = true →
      shownModes { s.source with config.autoCaptureMode := userdata.autoCaptureMode } s.viewModel.captureTarget =
        shownModes s.source s.viewModel.captureTarget

end CaptureSession

open CaptureSession

theorem first_connected (connections : ConnectionMap) :
    firstConnection connections = 0 ∨ Connected connections (firstConnection connections) := by
  obtain ⟨entries, distinct⟩ := connections
  cases entries with
  | nil => exact .inl rfl
  | cons entry rest =>
      refine .inr ?_
      have found := ConnectionMap.at_of_mem ⟨entry :: rest, distinct⟩ entry List.mem_cons_self
      change (ConnectionMap.at? _ entry.1).isSome = true
      rw [found]
      rfl

-- What the two refreshes leave: a target, the status and the modes of one connection.
structure Shows (vm next : ProfilingViewModel) (target : DdConnectionId) (status : TraceSourceStatus) (modes : List UInt32) : Prop where
  aimed : next.captureTarget = target
  held : next.currentStatus = status
  listed : next.modes = modes
  current : modes ≠ [] → next.currentCaptureMode ∈ modes
  taken : next.takesFromEmpty = (vm.takesFromEmpty || modes.isEmpty)

theorem refresh_shows (vm : ProfilingViewModel) (source : RgpTraceSource) (target : DdConnectionId) (appName : String)
    (api : RadeonPanel.Api) :
    Shows vm (vm.refreshCaptureModes source target appName api) vm.captureTarget vm.currentStatus (connectionModes source target) := by
  obtain ⟨listed, same, status, chosen, taken⟩ := vm.refresh_spec source target appName api
  have modes : ProfilingViewModel.modes _ = connectionModes source target := congrArg (List.map CaptureMode.mode) listed
  refine ⟨same, status, modes, fun filled => ?_, ?_⟩
  · rw [← modes]
    exact chosen fun empty => filled (congrArg (List.map CaptureMode.mode) empty)
  · rw [connectionModes, List.isEmpty_map]
    exact taken

theorem status_event_shows (vm : ProfilingViewModel) (source : RgpTraceSource) (newStatus : TraceSourceStatus) :
    Shows vm (vm.statusEvent source newStatus) (firstConnection newStatus.currentConnections) newStatus
      (shownModes source (firstConnection newStatus.currentConnections)) := by
  have processed : Shows vm ((vm.traceSourceOnStatusEvent newStatus).processStatusAvailableCaptureModes source newStatus)
      (firstConnection newStatus.currentConnections) newStatus (shownModes source (firstConnection newStatus.currentConnections)) := by
    unfold ProfilingViewModel.processStatusAvailableCaptureModes shownModes
    by_cases absent : firstConnection newStatus.currentConnections = 0
    · simp only [if_pos absent]
      exact ⟨rfl, rfl, rfl, fun _ => List.mem_singleton_self 0, (Bool.or_false _).symm⟩
    · simp only [if_neg absent]
      have shows := refresh_shows (vm.traceSourceOnStatusEvent newStatus) source (firstConnection newStatus.currentConnections)
        newStatus.applicationName ((newStatus.currentConnections.at? (firstConnection newStatus.currentConnections)).getD .unknown)
      exact ⟨shows.aimed, shows.held, shows.listed, shows.current, shows.taken⟩
  unfold ProfilingViewModel.statusEvent ProfilingViewModel.onStatusEvent
  split <;> exact ⟨processed.aimed, processed.held, processed.listed, processed.current, processed.taken⟩

theorem target_away (vm : ProfilingViewModel) (source : RgpTraceSource) (target : DdConnectionId)
    (away : ¬ Connected vm.currentStatus.currentConnections target) :
    vm.setCaptureTarget source target = { vm with captureTarget := target } := by
  have missing : vm.currentStatus.currentConnections.at? target = none := Option.not_isSome_iff_eq_none.mp away
  simp only [ProfilingViewModel.setCaptureTarget, ProfilingViewModel.onCaptureTargetChanged, missing]

theorem target_shows (vm : ProfilingViewModel) (source : RgpTraceSource) (target : DdConnectionId)
    (there : Connected vm.currentStatus.currentConnections target) :
    Shows vm (vm.setCaptureTarget source target) target vm.currentStatus (connectionModes source target) := by
  obtain ⟨api, found⟩ := Option.isSome_iff_exists.mp there
  simp only [ProfilingViewModel.setCaptureTarget, ProfilingViewModel.onCaptureTargetChanged, found]
  have shows := refresh_shows { vm with captureTarget := target } source target vm.currentStatus.applicationName api
  exact ⟨shows.aimed, shows.held, shows.listed, shows.current, shows.taken⟩

theorem shows_captures_iff {vm next : ProfilingViewModel} {target : DdConnectionId} {status : TraceSourceStatus}
    {modes : List UInt32} (shows : Shows vm next target status modes) (source : RgpTraceSource) (chosen : Option DdConnectionId)
    (filled : vm.takesFromEmpty = false) (there : target = 0 ∨ Connected status.currentConnections target) :
    CapturesChosen ⟨next, source, chosen, true⟩ ↔
      (∀ id, chosen = some id → target = id) ∧ modes ≠ [] ∧ modes = shownModes source target := by
  obtain ⟨rfl, rfl, rfl, current, taken⟩ := shows
  rw [filled, Bool.false_or] at taken
  constructor
  · intro after
    exact ⟨after.target.kept, List.isEmpty_eq_false_iff.mp (taken.symm.trans after.target.filled), (after.modes rfl).supported⟩
  · rintro ⟨kept, shown, supported⟩
    exact ⟨⟨kept, there, taken.trans (List.isEmpty_eq_false_iff.mpr shown)⟩, fun _ => ⟨supported, current shown⟩⟩

-- Before the first event there is nothing to choose from.
structure Unreported (s : CaptureSession) : Prop where
  connections : s.connections = .empty
  modes : s.viewModel.modes = []

theorem unreported_away {s : CaptureSession} (before : Unreported s) (target : DdConnectionId) : ¬ Connected s.connections target := by
  rw [before.connections]
  exact Bool.false_ne_true

theorem received_view_model (env : Environment) (vm : ProfilingViewModel) (source : RgpTraceSource) (data : Text) :
    ∃ path defaults, (vm.receiveUserData env source data).2.1 = { vm with rawOutputPath := path, defaultCaptureModes := defaults } := by
  unfold ProfilingViewModel.receiveUserData
  cases readUserdata env data with
  | none => exact ⟨_, _, rfl⟩
  | some userdata => exact ⟨_, _, rfl⟩

theorem unreported_step (env : Environment) (s : CaptureSession) (op : CaptureOperation)
    (before : s.reported = false → Unreported s) (unreported : (s.perform env op).reported = false) :
    Unreported (s.perform env op) := by
  cases op with
  | statusEvent newStatus supported => cases unreported
  | setCaptureTarget captureTarget =>
      have nothing := before unreported
      have same := target_away s.viewModel s.source captureTarget (unreported_away nothing captureTarget)
      refine ⟨?_, ?_⟩
      · rw [CaptureSession.connections, perform, same]
        exact nothing.connections
      · rw [perform, same]
        exact nothing.modes
  | setCaptureMode mode => exact ⟨(before unreported).connections, (before unreported).modes⟩
  | receiveUserData data =>
      obtain ⟨path, defaults, received⟩ := received_view_model env s.viewModel s.source data
      refine ⟨?_, ?_⟩
      · rw [CaptureSession.connections, perform, received]
        exact (before unreported).connections
      · rw [perform, received]
        exact (before unreported).modes

theorem event_captures_iff {s : CaptureSession} (env : Environment) (newStatus : TraceSourceStatus) (supported : SupportedModes)
    (holds : s.CapturesChosen) : (s.perform env (.statusEvent newStatus supported)).CapturesChosen ↔ s.EventSuits newStatus supported := by
  have shows := status_event_shows s.viewModel { s.source with supported := supported } newStatus
  refine (shows_captures_iff shows _ _ holds.target.filled (first_connected _)).trans ?_
  constructor
  · rintro ⟨kept, shown, _⟩
    exact ⟨fun id chosen there => kept id (Option.filter_eq_some_iff.mpr ⟨chosen, decide_eq_true there⟩), shown⟩
  · rintro ⟨first, shown⟩
    refine ⟨fun id chosen => ?_, shown, rfl⟩
    obtain ⟨chosen, there⟩ := Option.filter_eq_some_iff.mp chosen
    exact first id chosen (of_decide_eq_true there)

theorem target_captures_iff {s : CaptureSession} (env : Environment) (target : DdConnectionId)
    (before : s.reported = false → Unreported s) (holds : s.CapturesChosen) :
    (s.perform env (.setCaptureTarget target)).CapturesChosen ↔ s.TargetSuits target := by
  by_cases there : Connected s.connections target
  · have reported : s.reported = true := by
      cases reported : s.reported with
      | false => exact absurd there (unreported_away (before reported) target)
      | true => rfl
    have shows := target_shows s.viewModel s.source target there
    rw [perform, if_pos there, reported]
    refine (shows_captures_iff shows s.source (some target) holds.target.filled (.inr there)).trans ?_
    constructor
    · rintro ⟨_, shown, same⟩
      exact ⟨fun _ => ⟨shown, same⟩, fun away => absurd there away⟩
    · rintro ⟨suits, _⟩
      obtain ⟨shown, same⟩ := suits there
      exact ⟨fun id chosen => Option.some.inj chosen, shown, same⟩
  · rw [perform, target_away s.viewModel s.source target there, if_neg there]
    constructor
    · intro after
      refine ⟨fun contrary => absurd contrary there, fun _ => ?_⟩
      have none : target = 0 := after.target.connected.resolve_right there
      subst none
      exact ⟨rfl, fun reported => (after.modes reported).supported⟩
    · rintro ⟨_, suits⟩
      obtain ⟨rfl, modes⟩ := suits there
      exact ⟨⟨nofun, .inl rfl, holds.target.filled⟩, fun reported => ⟨modes reported, (holds.modes reported).current⟩⟩

theorem mode_captures_iff {s : CaptureSession} (env : Environment) (mode : UInt32) (holds : s.CapturesChosen) :
    (s.perform env (.setCaptureMode mode)).CapturesChosen ↔ (s.reported = true → mode ∈ s.viewModel.modes) := by
  constructor
  · exact fun after reported => (after.modes reported).current
  · intro suits
    obtain ⟨⟨kept, connected, filled⟩, modes⟩ := holds
    exact ⟨⟨kept, connected, filled⟩, fun reported => ⟨(modes reported).supported, suits reported⟩⟩

theorem userdata_captures_iff {s : CaptureSession} (env : Environment) (data : Text) (holds : s.CapturesChosen) :
    (s.perform env (.receiveUserData data)).CapturesChosen ↔ s.suits env (.receiveUserData data) := by
  obtain ⟨⟨kept, connected, filled⟩, modes⟩ := holds
  rw [perform, ProfilingViewModel.receiveUserData, suits]
  cases readUserdata env data with
  | none =>
      refine ⟨fun _ userdata found => absurd found.symm (Option.some_ne_none userdata),
        fun _ => ⟨⟨kept, connected, filled⟩, fun reported => ?_⟩⟩
      exact ⟨(modes reported).supported, (modes reported).current⟩
  | some userdata =>
      constructor
      · rintro after _ ⟨⟩ reported
        exact (after.modes reported).supported.symm.trans (modes reported).supported
      · intro suits
        refine ⟨⟨kept, connected, filled⟩, fun reported => ⟨?_, (modes reported).current⟩⟩
        exact (modes reported).supported.trans (suits userdata rfl reported).symm

theorem perform_captures_iff {s : CaptureSession} (env : Environment) (op : CaptureOperation)
    (before : s.reported = false → Unreported s) (holds : s.CapturesChosen) : (s.perform env op).CapturesChosen ↔ s.suits env op := by
  cases op with
  | statusEvent newStatus supported => exact event_captures_iff env newStatus supported holds
  | setCaptureTarget captureTarget => exact target_captures_iff env captureTarget before holds
  | setCaptureMode mode => exact mode_captures_iff env mode holds
  | receiveUserData data => exact userdata_captures_iff env data holds

theorem unreported_reachable (env : Environment) (s : CaptureSession) (reach : Reachable (captureSessions env) s) :
    s.reported = false → Unreported s := by
  refine reachable_invariant (captureSessions env) (fun s => s.reported = false → Unreported s) (fun _ => ⟨rfl, rfl⟩)
    (fun s op t before next => ?_) s reach
  cases next
  exact unreported_step env s op before

-- The second part: before the first status event the list of modes is empty, so the
-- mode is none of it whatever is done.
theorem captures_chosen_iff (env : Environment) (ops : List CaptureOperation) :
    (Meets (captureSessions env) (fun s op => s.suits env op) (captureSessions env).init ops ↔
      Always (captureSessions env) CapturesChosen (captureSessions env).init ops) ∧
    (∀ s, Reachable (captureSessions env) s → s.reported = false → s.viewModel.currentCaptureMode ∉ s.viewModel.modes) := by
  constructor
  · refine keeps_iff_always (captureSessions env) (fun s op => s.suits env op) CapturesChosen
      ⟨⟨nofun, .inl rfl, rfl⟩, nofun⟩ (fun s op t reach holds next => ?_) ops
    cases next
    exact perform_captures_iff env op (unreported_reachable env s reach) holds
  · intro s reach unreported
    rw [(unreported_reachable env s reach unreported).modes]
    exact List.not_mem_nil

-- A connection of the RGP trace source always has a mode to show: each kind of client
-- supports the automatic mode.
theorem captures_shown {raw : List UInt32} (present : raw ≠ []) (distinct : raw.Nodup) : captureModes raw ≠ [] := by
  have kept : ∃ mode ∈ raw, ¬ (mode = 0 ∧ raw.length > 1) := by
    match raw with
    | [] => exact absurd rfl present
    | [mode] => exact ⟨mode, List.mem_singleton_self mode, fun contrary => absurd contrary.2 (Nat.lt_irrefl 1)⟩
    | first :: second :: rest =>
        by_cases automatic : first = 0
        · have apart := (List.nodup_cons.mp distinct).1
          refine ⟨second, by simp, fun contrary => apart ?_⟩
          rw [automatic, ← contrary.1]
          exact List.mem_cons_self
        · exact ⟨first, List.mem_cons_self, fun contrary => automatic contrary.1⟩
  obtain ⟨mode, member, shown⟩ := kept
  have listed : (⟨textForCaptureMode mode, mode⟩ : CaptureMode) ∈ captureModes raw :=
    List.mem_map.mpr ⟨mode, List.mem_filter.mpr ⟨member, by simpa [imp_iff_not_or] using shown⟩, rfl⟩
  exact List.ne_nil_of_mem listed

theorem supports_automatic (api : RadeonPanel.Api) :
    Rgp.Legacy.supportsCaptureMode api 0 = true ∧ Rgp.RgpUbertraceClient.supportsCaptureMode api 0 = true := by
  cases api <;> decide

def rgpClients (bound : DdConnectionId → Option (Bool × RadeonPanel.Api)) : DdConnectionId → Option (UInt32 → Bool) :=
  fun id => (bound id).map fun client =>
    if client.1 then Rgp.Legacy.supportsCaptureMode client.2 else Rgp.RgpUbertraceClient.supportsCaptureMode client.2

theorem rgp_source_shows (config : RgpTraceSourceConfig) (bound : DdConnectionId → Option (Bool × RadeonPanel.Api))
    (target : DdConnectionId) : shownModes ⟨config, getSupportedCaptureModes (rgpClients bound)⟩ target ≠ [] := by
  have shown : captureModes (getSupportedCaptureModes (rgpClients bound) config.autoCaptureMode target) ≠ [] := by
    unfold getSupportedCaptureModes rgpClients
    cases bound target with
    | none => exact captures_shown (List.cons_ne_nil 0 []) (List.nodup_singleton 0)
    | some client =>
        obtain ⟨legacy, api⟩ := client
        have candidate : 0 ∈ captureModeCandidates config.autoCaptureMode := by
          refine List.mem_filter.mpr ⟨by decide, ?_⟩
          simp [capturesWith, Rgp.Legacy.RgpCaptureMode.frame, Rgp.Legacy.RgpCaptureMode.draw, Rgp.Legacy.RgpCaptureMode.dispatch]
        have distinct : (captureModeCandidates config.autoCaptureMode).Nodup := List.Nodup.filter _ (by decide)
        obtain ⟨older, newer⟩ := supports_automatic api
        cases legacy with
        | false => exact captures_shown (List.ne_nil_of_mem (List.mem_filter.mpr ⟨candidate, newer⟩)) (distinct.filter _)
        | true => exact captures_shown (List.ne_nil_of_mem (List.mem_filter.mpr ⟨candidate, older⟩)) (distinct.filter _)
  unfold shownModes
  split
  · exact List.cons_ne_nil 0 []
  · exact fun empty => shown (List.map_eq_nil_iff.mp empty)

-- Two connections, and userdata that is never read.
section Dropped

def twoConnections : TraceSourceStatus :=
  { TraceSourceStatus.default with
    applicationName := "app"
    currentConnections := ⟨[(1, .vulkan), (2, .vulkan)], by decide⟩
    traceStage := .idle }

def twoClientsEvent : CaptureOperation :=
  .statusEvent twoConnections (getSupportedCaptureModes (rgpClients fun id => if id = 1 ∨ id = 2 then some (false, .vulkan) else none))

theorem chosen_target_dropped :
    ∃ s, Reachable (captureSessions ⟨fun _ => none, "", 0⟩) s ∧ s.chosen = some 2 ∧ Connected s.connections 2 ∧
      s.viewModel.captureTarget = 1 := by
  obtain ⟨s, reach, dropped⟩ := exec_finds (captureSessions ⟨fun _ => none, "", 0⟩)
    [twoClientsEvent, .setCaptureTarget 2, twoClientsEvent]
    (fun s => s.chosen = some 2 ∧ Connected s.connections 2 ∧ s.viewModel.captureTarget = 1) (by decide)
  exact ⟨s, reach, of_decide_eq_true dropped⟩

end Dropped

end RadeonPanel.Profiling

import RadeonPanel.Base.Runs
import RadeonPanel.Profiling.ViewModel

set_option autoImplicit false

namespace RadeonPanel.Modules

open Interleaving TraceSource
open Profiling (firstConnection)

-- The two modules whose view models delay captures in the same way.
inductive DelayingModule where
  | profiling
  | raytracing
deriving DecidableEq, Repr

structure DelayInfo where
  enabled : Bool
  delay : UInt32
deriving DecidableEq, Repr

inductive UiSignal where
  | showProgressUi
  | showCaptureUi
deriving DecidableEq, Repr

-- What the trace source and the view are told. The results are those of the source.
inductive Output where
  | prepareForDelayedCapture (connection : DdConnectionId) (succeeds : Bool)
  | requestBeginTrace (connection : DdConnectionId) (captureMode : UInt32) (succeeds : Bool)
  | requestAbortTrace (connection : DdConnectionId)
  | requestAbortProcessing
  | emitted (signal : UiSignal)
deriving DecidableEq, Repr

structure DelayingViewModel where
  currentStatus : TraceSourceStatus
  captureTarget : DdConnectionId
  isDelayCaptureInProgress : Bool
  delayedCaptureConnectionId : DdConnectionId
  delayedCaptureMode : UInt32
  timerPending : Bool

def capturesNow : TraceSourceStage → Bool
  | .capturing | .processing | .dumping => true
  | _ => false

def shouldProgressBarBeShownForStage : TraceSourceStage → Bool
  | .waitingToBeginCapture | .capturing | .dumping | .processing => true
  | _ => false

namespace DelayingViewModel

variable (vm : DelayingViewModel) (module : DelayingModule)

def created : DelayingViewModel where
  currentStatus := .default
  captureTarget := 0
  isDelayCaptureInProgress := false
  delayedCaptureConnectionId := 0
  delayedCaptureMode := 0
  timerPending := false

-- Only profiling shows the progress of a source that waits for the delay.
def showsProgress (stage : TraceSourceStage) : Bool :=
  match module with
  | .profiling => shouldProgressBarBeShownForStage stage || vm.isDelayCaptureInProgress
  | .raytracing => capturesNow stage || vm.isDelayCaptureInProgress

-- The base class's callback, which is registered first, and the module's own.
def onStatusEventCallback (newStatus : TraceSourceStatus) : DelayingViewModel × List Output :=
  let updated :=
    { vm with
      currentStatus := newStatus
      captureTarget := firstConnection newStatus.currentConnections
      isDelayCaptureInProgress :=
        if capturesNow newStatus.traceStage then false else vm.isDelayCaptureInProgress }
  (updated,
    [.emitted (if updated.showsProgress module newStatus.traceStage then .showProgressUi else .showCaptureUi)])

def setCaptureTarget (captureTarget : DdConnectionId) : DelayingViewModel := { vm with captureTarget := captureTarget }

-- The milliseconds go through an `int` on their way to the timer.
def interval (delay : UInt32) : Int32 := delay.toInt32

-- Raytracing leaves the capture mode to its default.
def requestedMode (captureMode : UInt32) : UInt32 :=
  match module with
  | .profiling => captureMode
  | .raytracing => 0

-- `starts` says with which intervals a timer gets started, `captureMode` is the one
-- that is current; `prepares` and `begins` are the source's answers.
def requestBeginTrace (starts : Int32 → Bool) (delayInfo : DelayInfo) (captureMode : UInt32) (prepares begins : Bool) :
    DelayingViewModel × List Output :=
  if vm.captureTarget = 0 then (vm, [])
  else if !delayInfo.enabled then
    (vm, [.requestBeginTrace vm.captureTarget (requestedMode module captureMode) begins])
  else if !prepares then (vm, [.prepareForDelayedCapture vm.captureTarget false])
  else
    ({ vm with
        delayedCaptureConnectionId := vm.captureTarget
        delayedCaptureMode := requestedMode module captureMode
        isDelayCaptureInProgress := true
        timerPending := starts (interval delayInfo.delay) },
      [.prepareForDelayedCapture vm.captureTarget true, .emitted .showProgressUi])

-- The timer fires once.
def onTimerFire (begins : Bool) : DelayingViewModel × List Output :=
  ({ vm with timerPending := false, isDelayCaptureInProgress := false },
    [.requestBeginTrace vm.delayedCaptureConnectionId vm.delayedCaptureMode begins])

def stopDelay : DelayingViewModel := { vm with timerPending := false, isDelayCaptureInProgress := false }

-- Profiling leaves the abort to the base class, which asks the status first.
def abortsConnection (connection : DdConnectionId) : Option DdConnectionId :=
  match module with
  | .profiling => if vm.currentStatus.abortTraceSupported then some connection else none
  | .raytracing => some connection

def abortsProcessing : Bool :=
  match module with
  | .profiling => vm.currentStatus.abortProcessingSupported
  | .raytracing => false

def requestAbortOf (connection : DdConnectionId) : DelayingViewModel × List Output :=
  (vm.stopDelay,
    (vm.abortsConnection module connection).toList.map .requestAbortTrace ++
      if vm.abortsProcessing module then [.requestAbortProcessing] else [])

-- Without a connection the base class calls the virtual function with the target.
def requestAbort : DelayingViewModel × List Output := vm.stopDelay.requestAbortOf module vm.captureTarget

end DelayingViewModel

-- A connection that was prepared while the timer has been pending, and how many
-- begin and abort requests it has got since.
structure PreparedCapture where
  connection : DdConnectionId
  requests : Nat
deriving DecidableEq, Repr

-- The view model with what an observer notes. `settled` are the prepared captures
-- whose delay has ended; `begun` says that the source has taken a begin request and
-- not told its state since.
structure DelayRun where
  viewModel : DelayingViewModel
  waiting : List PreparedCapture
  settled : List PreparedCapture
  begun : Bool
  lastSignal : Option UiSignal

namespace DelayRun

variable (s : DelayRun)

def created : DelayRun := ⟨.created, [], [], false, none⟩

def requested (connection : DdConnectionId) : DelayRun :=
  { s with waiting := s.waiting.map fun entry =>
      if entry.connection = connection then { entry with requests := entry.requests + 1 } else entry }

def observe : Output → DelayRun
  | .prepareForDelayedCapture connection succeeds =>
      if succeeds then { s with waiting := ⟨connection, 0⟩ :: s.waiting } else s
  | .requestBeginTrace connection _ succeeds => { s.requested connection with begun := s.begun || succeeds }
  | .requestAbortTrace connection => s.requested connection
  | .requestAbortProcessing => s
  | .emitted signal => { s with lastSignal := some signal }

-- With the timer at rest no delay is left.
def settle : DelayRun :=
  if s.viewModel.timerPending then s else { s with waiting := [], settled := s.waiting ++ s.settled }

def react (made : DelayingViewModel × List Output) : DelayRun :=
  (made.2.foldl observe { s with viewModel := made.1 }).settle

end DelayRun

inductive DelayAction where
  | requestBeginTrace (delayInfo : DelayInfo) (captureMode : UInt32) (prepares begins : Bool)
  | statusEvent (newStatus : TraceSourceStatus)
  | setCaptureTarget (captureTarget : DdConnectionId)
  | requestAbort
  | requestAbortOf (connection : DdConnectionId)
  | timerFires (begins : Bool)
deriving DecidableEq

def DelayRun.step (module : DelayingModule) (starts : Int32 → Bool) (s : DelayRun) : DelayAction → Option DelayRun
  | .requestBeginTrace delayInfo captureMode prepares begins =>
      some (s.react (s.viewModel.requestBeginTrace module starts delayInfo captureMode prepares begins))
  | .statusEvent newStatus =>
      some ({ s with begun := false }.react (s.viewModel.onStatusEventCallback module newStatus))
  | .setCaptureTarget captureTarget => some { s with viewModel := s.viewModel.setCaptureTarget captureTarget }
  | .requestAbort => some (s.react (s.viewModel.requestAbort module))
  | .requestAbortOf connection => some (s.react (s.viewModel.requestAbortOf module connection))
  | .timerFires begins => if s.viewModel.timerPending then some (s.react (s.viewModel.onTimerFire begins)) else none

def delayedCaptures (module : DelayingModule) (starts : Int32 → Bool) : Machine DelayRun DelayAction :=
  ⟨.created, DelayRun.step module starts⟩

def DelayRun.captureActive (s : DelayRun) : Prop :=
  s.begun = true ∨ shouldProgressBarBeShownForStage s.viewModel.currentStatus.traceStage = true

-- Before its first signal the view shows the capture UI.
structure DelayRun.Resolves (s : DelayRun) : Prop where
  flag : s.viewModel.isDelayCaptureInProgress = true → s.viewModel.timerPending = true
  once : ∀ capture ∈ s.settled, capture.requests = 1
  shown : s.viewModel.timerPending = false → ¬ s.captureActive → s.lastSignal ≠ some .showProgressUi

-- The request that ends a delay goes to every waiting connection that has got none
-- so far, and to no other waiting one.
def DelayRun.endsDelayWith (s : DelayRun) (request : Option DdConnectionId) : Prop :=
  ∀ capture ∈ s.waiting, capture.requests = if request = some capture.connection then 0 else 1

-- What is shown when a delay ends without a capture is settled already.
def DelayRun.shows (s : DelayRun) : Prop := s.captureActive ∨ s.lastSignal ≠ some .showProgressUi

def resolvesDelay (module : DelayingModule) (starts : Int32 → Bool) (s : DelayRun) : DelayAction → Prop
  | .requestBeginTrace delayInfo _ prepares _ =>
      s.viewModel.captureTarget ≠ 0 → delayInfo.enabled = true → prepares = true →
        starts (DelayingViewModel.interval delayInfo.delay) = true
  | .requestAbort => s.viewModel.timerPending = true →
      s.endsDelayWith (s.viewModel.abortsConnection module s.viewModel.captureTarget) ∧ s.shows
  | .requestAbortOf connection => s.viewModel.timerPending = true →
      s.endsDelayWith (s.viewModel.abortsConnection module connection) ∧ s.shows
  | .timerFires begins =>
      s.endsDelayWith (some s.viewModel.delayedCaptureConnectionId) ∧ (begins = true ∨ s.shows)
  | .statusEvent _ | .setCaptureTarget _ => True

def DelayRun.AtRest (s : DelayRun) : Prop := s.viewModel.timerPending = false → s.waiting = []

section

variable (s : DelayRun)

theorem settle_at_rest : s.settle.AtRest := by
  intro rest
  unfold DelayRun.settle at rest ⊢
  by_cases pending : s.viewModel.timerPending = true
  · rw [if_pos pending] at rest
    rw [pending] at rest
    cases rest
  · rw [if_neg pending]

theorem settle_view_model : s.settle.viewModel = s.viewModel := by
  unfold DelayRun.settle
  split <;> rfl

theorem settle_begun : s.settle.begun = s.begun := by
  unfold DelayRun.settle
  split <;> rfl

theorem settle_signal : s.settle.lastSignal = s.lastSignal := by
  unfold DelayRun.settle
  split <;> rfl

theorem settle_pending (pending : s.viewModel.timerPending = true) : s.settle = s := by
  rw [DelayRun.settle, if_pos pending]

theorem settle_resting (resting : s.viewModel.timerPending = false) :
    s.settle.settled = s.waiting ++ s.settled := by
  rw [DelayRun.settle, if_neg (by simp [resting])]

end

theorem step_at_rest (module : DelayingModule) (starts : Int32 → Bool) (s t : DelayRun) (a : DelayAction)
    (atRest : s.AtRest) (next : s.step module starts a = some t) : t.AtRest := by
  cases a with
  | setCaptureTarget captureTarget =>
      cases next
      exact atRest
  | timerFires begins =>
      by_cases pending : s.viewModel.timerPending = true
      · rw [DelayRun.step, if_pos pending] at next
        cases next
        exact settle_at_rest _
      · rw [DelayRun.step, if_neg pending] at next
        cases next
  | requestBeginTrace delayInfo captureMode prepares begins =>
      cases next
      exact settle_at_rest _
  | statusEvent newStatus =>
      cases next
      exact settle_at_rest _
  | requestAbort =>
      cases next
      exact settle_at_rest _
  | requestAbortOf connection =>
      cases next
      exact settle_at_rest _

-- What is waiting after the request that ends a delay, if there is one.
def DelayRun.answered (s : DelayRun) (request : Option DdConnectionId) : List PreparedCapture :=
  match request with
  | none => s.waiting
  | some connection => (s.requested connection).waiting

theorem answered_once (s : DelayRun) (request : Option DdConnectionId) :
    (∀ capture ∈ s.answered request, capture.requests = 1) ↔ s.endsDelayWith request := by
  cases request with
  | none => simp [DelayRun.answered, DelayRun.endsDelayWith]
  | some connection =>
      simp only [DelayRun.answered, DelayRun.requested, DelayRun.endsDelayWith, List.forall_mem_map]
      refine forall₂_congr fun capture _ => ?_
      by_cases same : capture.connection = connection
      · simp [same]
      · have different : connection ≠ capture.connection := fun equal => same equal.symm
        simp [same, different]

theorem ended_resolves (s t : DelayRun) (request : Option DdConnectionId) (begins : Bool) (before : s.Resolves)
    (flag : t.viewModel.isDelayCaptureInProgress = false) (resting : t.viewModel.timerPending = false)
    (settled : t.settled = s.answered request ++ s.settled) (signal : t.lastSignal = s.lastSignal)
    (active : t.captureActive ↔ begins = true ∨ s.captureActive) :
    t.Resolves ↔ s.endsDelayWith request ∧ (begins = true ∨ s.shows) := by
  have once : (∀ capture ∈ t.settled, capture.requests = 1) ↔ s.endsDelayWith request := by
    rw [settled, List.forall_mem_append, answered_once]
    exact and_iff_left before.once
  have shown : (¬ t.captureActive → t.lastSignal ≠ some .showProgressUi) ↔ begins = true ∨ s.shows := by
    rw [active, signal, DelayRun.shows, ← or_assoc]
    exact (or_iff_not_imp_left).symm
  rw [← once, ← shown]
  constructor
  · exact fun after => ⟨after.once, after.shown resting⟩
  · rintro ⟨allOnce, shows⟩
    exact ⟨fun set => absurd (set.symm.trans flag) (by simp), allOnce, fun _ => shows⟩

theorem timer_fires_resolves (module : DelayingModule) (starts : Int32 → Bool) (s : DelayRun) (begins : Bool)
    (before : s.Resolves) :
    (s.react (s.viewModel.onTimerFire begins)).Resolves ↔ resolvesDelay module starts s (.timerFires begins) := by
  refine ended_resolves s _ (some s.viewModel.delayedCaptureConnectionId) begins before ?_ ?_ ?_ ?_ ?_
  · rw [DelayRun.react, settle_view_model]
    rfl
  · rw [DelayRun.react, settle_view_model]
    rfl
  · rw [DelayRun.react, settle_resting _ rfl]
    rfl
  · rw [DelayRun.react, settle_signal]
    rfl
  · rw [DelayRun.captureActive, DelayRun.react, settle_begun, settle_view_model]
    simp [DelayingViewModel.onTimerFire, DelayRun.observe, DelayRun.requested, DelayRun.captureActive,
      or_comm, or_assoc]

theorem abort_observed (module : DelayingModule) (s : DelayRun) (vm : DelayingViewModel) (connection : DdConnectionId) :
    (vm.requestAbortOf module connection).2.foldl DelayRun.observe s =
      { s with waiting := s.answered (vm.abortsConnection module connection) } := by
  rw [DelayingViewModel.requestAbortOf]
  cases vm.abortsConnection module connection <;> cases vm.abortsProcessing module <;> rfl

theorem abort_resolves (module : DelayingModule) (starts : Int32 → Bool) (s : DelayRun) (connection : DdConnectionId)
    (atRest : s.AtRest) (before : s.Resolves) :
    (s.react (s.viewModel.requestAbortOf module connection)).Resolves ↔
      resolvesDelay module starts s (.requestAbortOf connection) := by
  have ended : (s.react (s.viewModel.requestAbortOf module connection)).Resolves ↔
      s.endsDelayWith (s.viewModel.abortsConnection module connection) ∧ (false = true ∨ s.shows) := by
    refine ended_resolves s _ _ false before ?_ ?_ ?_ ?_ ?_
    · rw [DelayRun.react, settle_view_model, abort_observed]
      rfl
    · rw [DelayRun.react, settle_view_model, abort_observed]
      rfl
    · rw [DelayRun.react, abort_observed, settle_resting _ rfl]
      cases s.viewModel.abortsConnection module connection <;> rfl
    · rw [DelayRun.react, settle_signal, abort_observed]
    · rw [DelayRun.captureActive, DelayRun.react, settle_begun, settle_view_model, abort_observed]
      simp [DelayingViewModel.requestAbortOf, DelayingViewModel.stopDelay, DelayRun.captureActive]
  rw [ended, resolvesDelay]
  simp only [Bool.false_eq_true, false_or]
  constructor
  · exact fun both _ => both
  · intro allowed
    by_cases pending : s.viewModel.timerPending = true
    · exact allowed pending
    · have resting : s.viewModel.timerPending = false := by simpa using pending
      refine ⟨by simp [DelayRun.endsDelayWith, atRest resting], ?_⟩
      rw [DelayRun.shows, or_iff_not_imp_left]
      exact before.shown resting

theorem abort_target (module : DelayingModule) (vm : DelayingViewModel) :
    vm.requestAbort module = vm.requestAbortOf module vm.captureTarget := by
  cases module <;> rfl

theorem settle_settled (s : DelayRun) (atRest : s.AtRest) : s.settle.settled = s.settled := by
  by_cases pending : s.viewModel.timerPending = true
  · rw [settle_pending s pending]
  · have resting : s.viewModel.timerPending = false := by simpa using pending
    rw [settle_resting s resting, atRest resting, List.nil_append]

-- A step that neither starts nor ends a delay.
theorem undelayed_resolves (s t : DelayRun) (before : s.Resolves) (same : t.viewModel = s.viewModel)
    (settled : t.settled = s.settled) (signal : t.lastSignal = s.lastSignal)
    (active : s.captureActive → t.captureActive) : t.Resolves := by
  refine ⟨?_, ?_, fun resting idle => ?_⟩
  · rw [same]
    exact before.flag
  · rw [settled]
    exact before.once
  · rw [same] at resting
    rw [signal]
    exact before.shown resting fun wasActive => idle (active wasActive)

theorem status_event_resolves (module : DelayingModule) (s : DelayRun) (newStatus : TraceSourceStatus)
    (atRest : s.AtRest) (before : s.Resolves) :
    ({ s with begun := false }.react (s.viewModel.onStatusEventCallback module newStatus)).Resolves := by
  rw [DelayRun.react]
  generalize noted : (s.viewModel.onStatusEventCallback module newStatus).2.foldl DelayRun.observe _ = observed
  have viewModel : observed.viewModel = (s.viewModel.onStatusEventCallback module newStatus).1 := by
    rw [← noted]
    rfl
  have pending : observed.viewModel.timerPending = s.viewModel.timerPending := by
    rw [viewModel]
    rfl
  have quiet : observed.AtRest := by
    rw [DelayRun.AtRest, pending, ← noted]
    exact atRest
  refine ⟨?_, ?_, fun resting idle => ?_⟩
  · rw [settle_view_model, pending, viewModel]
    intro set
    refine before.flag ?_
    by_cases captures : capturesNow newStatus.traceStage = true
    · simp [DelayingViewModel.onStatusEventCallback, captures] at set
    · simpa [DelayingViewModel.onStatusEventCallback, captures] using set
  · rw [settle_settled observed quiet, ← noted]
    exact before.once
  · rw [settle_view_model, pending] at resting
    have unset : s.viewModel.isDelayCaptureInProgress = false := by
      by_contra set
      have started := before.flag (by simpa using set)
      rw [resting] at started
      cases started
    have notShown : shouldProgressBarBeShownForStage newStatus.traceStage = false := by
      by_contra active
      refine idle (.inr ?_)
      have shows : shouldProgressBarBeShownForStage newStatus.traceStage = true := by simpa using active
      rw [settle_view_model, viewModel]
      exact shows
    have notCapturing : capturesNow newStatus.traceStage = false := by
      revert notShown
      cases newStatus.traceStage <;> simp [shouldProgressBarBeShownForStage, capturesNow]
    have signal : observed.lastSignal = some .showCaptureUi := by
      rw [← noted]
      cases module <;> simp [DelayingViewModel.onStatusEventCallback, DelayingViewModel.showsProgress,
        DelayRun.observe, notShown, notCapturing, unset]
    rw [settle_signal, signal]
    simp

theorem requested_at_rest (s : DelayRun) (connection : DdConnectionId) (atRest : s.AtRest) :
    (s.requested connection).AtRest := by
  intro resting
  rw [DelayRun.requested, atRest resting]
  rfl

-- A step that starts a delay.
theorem started_resolves (s t : DelayRun) (before : s.Resolves) (flag : t.viewModel.isDelayCaptureInProgress = true)
    (settled : t.viewModel.timerPending = true → t.settled = s.settled) :
    t.Resolves ↔ t.viewModel.timerPending = true := by
  constructor
  · exact fun after => after.flag flag
  · intro ticking
    refine ⟨fun _ => ticking, ?_, fun resting => ?_⟩
    · rw [settled ticking]
      exact before.once
    · rw [ticking] at resting
      cases resting

theorem begin_resolves (module : DelayingModule) (starts : Int32 → Bool) (s : DelayRun) (delayInfo : DelayInfo)
    (captureMode : UInt32) (prepares begins : Bool) (atRest : s.AtRest) (before : s.Resolves) :
    (s.react (s.viewModel.requestBeginTrace module starts delayInfo captureMode prepares begins)).Resolves ↔
      resolvesDelay module starts s (.requestBeginTrace delayInfo captureMode prepares begins) := by
  rw [resolvesDelay, DelayingViewModel.requestBeginTrace]
  by_cases untargeted : s.viewModel.captureTarget = 0
  · rw [if_pos untargeted]
    refine iff_of_true ?_ fun targeted => absurd untargeted targeted
    exact undelayed_resolves s _ before (settle_view_model s) (settle_settled s atRest) (settle_signal s)
      (by simp [DelayRun.captureActive, DelayRun.react, settle_begun, settle_view_model])
  rw [if_neg untargeted]
  cases delayInfo.enabled with
  | false =>
      refine iff_of_true ?_ (by simp)
      have observed := requested_at_rest s s.viewModel.captureTarget atRest
      refine undelayed_resolves s _ before (settle_view_model _) ?_ (settle_signal _) ?_
      · exact settle_settled { s.requested s.viewModel.captureTarget with begun := s.begun || begins } observed
      · rintro (begun | active)
        · refine .inl ?_
          rw [DelayRun.react, settle_begun]
          simp [DelayRun.observe, begun]
        · refine .inr ?_
          rw [DelayRun.react, settle_view_model]
          exact active
  | true =>
      cases prepares with
      | false =>
          refine iff_of_true ?_ (by simp)
          exact undelayed_resolves s _ before (settle_view_model s) (settle_settled s atRest) (settle_signal s)
            (by simp [DelayRun.captureActive, DelayRun.react, DelayRun.observe, settle_begun, settle_view_model])
      | true =>
          simp only [Bool.not_true, Bool.false_eq_true, if_false, untargeted, ne_eq, not_false_eq_true,
            forall_const]
          refine (started_resolves s _ before ?_ fun ticking => ?_).trans ?_
          · rw [DelayRun.react, settle_view_model]
            rfl
          · rw [DelayRun.react, settle_view_model] at ticking
            rw [DelayRun.react, settle_pending _ ticking]
            rfl
          · rw [DelayRun.react, settle_view_model]
            rfl

theorem reachable_at_rest (module : DelayingModule) (starts : Int32 → Bool) (s : DelayRun)
    (reach : Reachable (delayedCaptures module starts) s) : s.AtRest :=
  reachable_invariant (delayedCaptures module starts) DelayRun.AtRest (fun _ => rfl)
    (fun s a t atRest next => step_at_rest module starts s t a atRest next) s reach

theorem step_resolves (module : DelayingModule) (starts : Int32 → Bool) (s t : DelayRun) (a : DelayAction)
    (atRest : s.AtRest) (before : s.Resolves) (next : s.step module starts a = some t) :
    t.Resolves ↔ resolvesDelay module starts s a := by
  cases a with
  | requestBeginTrace delayInfo captureMode prepares begins =>
      cases next
      exact begin_resolves module starts s delayInfo captureMode prepares begins atRest before
  | statusEvent newStatus =>
      cases next
      exact iff_of_true (status_event_resolves module s newStatus atRest before) trivial
  | setCaptureTarget captureTarget =>
      cases next
      exact iff_of_true ⟨before.flag, before.once, before.shown⟩ trivial
  | requestAbort =>
      cases next
      rw [abort_target]
      exact abort_resolves module starts s s.viewModel.captureTarget atRest before
  | requestAbortOf connection =>
      cases next
      exact abort_resolves module starts s connection atRest before
  | timerFires begins =>
      by_cases pending : s.viewModel.timerPending = true
      · rw [DelayRun.step, if_pos pending] at next
        cases next
        exact timer_fires_resolves module starts s begins before
      · rw [DelayRun.step, if_neg pending] at next
        cases next

theorem abort_strands_capture (module : DelayingModule) (newStatus : TraceSourceStatus)
    (found : (exec (delayedCaptures module fun _ => true) .created
      [.statusEvent newStatus, .requestBeginTrace ⟨true, 100⟩ 0 true true, .setCaptureTarget 2, .requestAbort]).any
        (fun s => s.settled.any fun capture => capture.requests ≠ 1) = true) :
    ¬ ∀ s, Reachable (delayedCaptures module fun _ => true) s → s.Resolves := by
  intro claimed
  obtain ⟨s, reach, stranded⟩ := exec_finds (delayedCaptures module fun _ => true) _
    (fun s => s.settled.any fun capture => capture.requests ≠ 1) found
  obtain ⟨capture, member, unanswered⟩ := List.any_eq_true.mp stranded
  exact of_decide_eq_true unanswered ((claimed s reach).once capture member)

def targetedStatus : TraceSourceStatus :=
  { TraceSourceStatus.default with
    traceStage := .idle, abortTraceSupported := true
    currentConnections := (ConnectionMap.empty.insert 1 .vulkan).insert 2 .vulkan }

end RadeonPanel.Modules

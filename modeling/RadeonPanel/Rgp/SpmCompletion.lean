import RadeonPanel.Rgp.SpmCapture

set_option autoImplicit false

namespace RadeonPanel.Rgp

open Interleaving RadeonPanel.Ubertrace

def orchestratorTells (thread : Nat) : Event → Option TraceCompletionStatus
  | .delivered other (.traceCompleted status _) => if other = thread then some status else none
  | _ => none

def SpmReport.tells (thread : Nat) (report : SpmReport) : Option TraceCompletionStatus :=
  if report.thread = thread then some report.status else none

-- The trace is there with its chunks, and the capture was given no completion function.
def completesPlainly (p : Poller) : Prop :=
  ∃ user, p.pc = .success user ∧ p.additionalChunkResult = .success ∧ p.config.onCompleted = false

def SpmReport.Appended (report : SpmReport) : Prop :=
  Spm.Appended report.answers (.rdf report.chunks) (Spm.appendChunkDerivedSpmDb report.answers (.rdf report.chunks)).trace

namespace SpmRun

-- Every TraceCompleted for the capture of a polling thread.
def reports (s : SpmRun) (thread : Nat) : List TraceCompletionStatus :=
  s.log.filterMap (SpmReport.tells thread) ++ s.orch.log.filterMap (orchestratorTells thread)

def countersAppended (s : SpmRun) (thread : Nat) : Prop := ∃ report ∈ s.log, report.thread = thread ∧ report.Appended

-- Whoever was to report the capture has returned.
def isOver (s : SpmRun) (thread : Nat) : Prop :=
  s.onCompleted thread = .returned ∨ (s.orch.pollers thread).pc.settled = true

structure CaptureReported (s : SpmRun) (thread : Nat) : Prop where
  atMostOne : (s.reports thread).length ≤ 1
  once : s.isOver thread → (s.reports thread).length = 1
  truthful : .completed ∈ s.reports thread → s.countersAppended thread ∨ s.begun thread = false

def AllReported (c : RgpUbertraceClient) (s : SpmRun) : Prop :=
  ∀ thread, (s.orch.pollers thread).owner = c.user → s.CaptureReported thread

-- A completion function finds the setting on and somebody registered, the
-- processing that ends with Ok has written everything, and no capture that began
-- with the setting on completes without a completion function.
def handsOn (c : RgpUbertraceClient) (s : SpmRun) : SpmAction → Prop
  | .onCompleted _ => s.config.config.enableSpmCounters = true ∧ s.registered = true
  | .generated thread answers _ => s.begun thread = true → Spm.WritesBuilt answers
  | .orchestrator (.poller thread _) =>
      (s.orch.pollers thread).owner = c.user → completesPlainly (s.orch.pollers thread) → s.begun thread = false
  | _ => True

end SpmRun

theorem generated_on_completed (c : RgpUbertraceClient) (config : RgpTraceSourceConfigPrivate) (captureMode : UInt32)
    (captureType : UberTraceCaptureType) (a : GpuAnswers) (generated : UbertraceCaptureConfig)
    (ok : c.generateCaptureConfig config captureMode captureType a = .ok generated) :
    generated.onCompleted = (config.config.enableSpmCounters && doesGpuSupportsSpm config.spmSupportedGpus a.gpu) := by
  unfold RgpUbertraceClient.generateCaptureConfig at ok
  split at ok
  · contradiction
  · split at ok
    · contradiction
    · split at ok
      · contradiction
      · rename_i onCompleted configured
        obtain rfl := Except.ok.inj ok
        unfold RgpUbertraceClient.getGpuPerfConfig at configured
        split at configured
        · rename_i off
          obtain rfl := Except.ok.inj configured
          simp only [Bool.or_eq_true, Bool.not_eq_true'] at off
          obtain disabled | unsupported := off
          · rw [disabled, Bool.false_and]
          · rw [unsupported, Bool.and_false]
        · rename_i collects
          simp only [Bool.or_eq_true, Bool.not_eq_true', not_or, Bool.not_eq_false] at collects
          split at configured
          · contradiction
          · obtain rfl := Except.ok.inj configured
            rw [collects.1, collects.2, Bool.true_and]

-- A step of a polling thread says nothing, or it returns from the completion
-- function, or it reports the capture.
inductive PollerTells (thread : Nat) (p : Poller) (e : PollerEffect) : Prop where
  | nothing (settled : e.poller.pc.settled = p.pc.settled) (unreported : ¬completesPlainly p)
      (calls : p.pc.handsOver = false) (silent : e.events.filterMap (orchestratorTells thread) = [])
  | handedOver (unreported : ¬completesPlainly p) (calls : p.pc.handsOver = true) (settled : e.poller.pc.settled = true)
      (silent : e.events.filterMap (orchestratorTells thread) = [])
  | reports (status : TraceCompletionStatus) (working : p.pc.settled = false) (calls : p.pc.handsOver = false)
      (settled : e.poller.pc.settled = true) (tells : e.events.filterMap (orchestratorTells thread) = [status])
      (completes : status = .completed ↔ completesPlainly p)

theorem end_tells (thread : Nat) (user : UbertraceUserId) (auto : Bool) (status : TraceCompletionStatus) (path : String) :
    [Event.finished user auto, .delivered thread (.traceCompleted status path)].filterMap (orchestratorTells thread) =
      [status] := by
  have finished : orchestratorTells thread (.finished user auto) = none := rfl
  have told : orchestratorTells thread (.delivered thread (.traceCompleted status path)) = some status := if_pos rfl
  rw [List.filterMap_cons_none finished, List.filterMap_cons_some told, List.filterMap_nil]

theorem successful_tells (o : UbertraceOrchestrator) (thread : Nat) (p : Poller) (user : UbertraceUserId)
    (here : p.pc = .success user) : PollerTells thread p (handleSuccessfulTrace o thread p user) := by
  have working : p.pc.settled = false := by rw [here]; rfl
  have calls : p.pc.handsOver = false := by rw [here]; rfl
  unfold handleSuccessfulTrace
  by_cases failed : p.additionalChunkResult ≠ .success
  · have unwritten : ¬completesPlainly p := by
      rintro ⟨_, _, written, _⟩
      exact failed written
    rw [if_pos failed]
    exact .reports .error working calls rfl (end_tells _ _ _ _ _) (by simp [unwritten])
  · rw [if_neg failed]
    by_cases completes : p.config.onCompleted = true
    · have handed : ¬completesPlainly p := by
        rintro ⟨_, _, _, plain⟩
        rw [completes] at plain
        contradiction
      rw [if_pos completes]
      exact .nothing working.symm handed calls rfl
    · have plain : completesPlainly p := ⟨user, here, not_not.mp failed, by simpa using completes⟩
      rw [if_neg completes]
      exact .reports .completed working calls rfl (end_tells _ _ _ _ _) (by simp [plain])

theorem poller_tells (o : UbertraceOrchestrator) (free : Bool) (thread : Nat) (p : Poller) (answer : Answer)
    (e : PollerEffect) (next : pollerStep o free thread p answer = some e) : PollerTells thread p e := by
  by_cases success : ∃ user, p.pc = .success user
  · obtain ⟨user, here⟩ := success
    unfold pollerStep at next
    rw [here] at next
    cases answer <;> cases next
    exact successful_tells o thread p user here
  · have unreported : ¬completesPlainly p := fun ⟨user, here, _⟩ => success ⟨user, here⟩
    cases poller_moves o free thread p answer e next with
    | chunksFailed user here | postProcess user here | completed user here => exact absurd ⟨user, here⟩ success
    | handedOver user here => exact .handedOver unreported (by rw [here]; rfl) rfl rfl
    | aborted user here =>
        exact .reports .aborted (by rw [here]; rfl) (by rw [here]; rfl) rfl (end_tells _ _ _ _ _) (by simp [unreported])
    | cancelFailed user here =>
        exact .reports .error (by rw [here]; rfl) (by rw [here]; rfl) rfl (end_tells _ _ _ _ _) (by simp [unreported])
    | complete user collected here => cases collected <;> exact .nothing (by rw [here]; rfl) unreported (by rw [here]; rfl) rfl
    | writing here | cancelRetry user here => exact .nothing rfl unreported (by rw [here]; rfl) rfl
    | poll path here | stop here | retry result chunks here | collect chunks here | exchange collected here
    | abort user here | ended here => exact .nothing (by rw [here]; rfl) unreported (by rw [here]; rfl) rfl

namespace SpmRun

-- Before its end a capture is not reported, unless by its completion function.
structure Untold (s : SpmRun) (thread : Nat) : Prop where
  uncalled : (s.orch.pollers thread).pc.settled = false → (s.orch.pollers thread).pc.handsOver = false →
    s.onCompleted thread = .notCalled
  silent : (s.orch.pollers thread).pc.settled = false → s.onCompleted thread ≠ .returned → s.reports thread = []

structure Kept (s : SpmRun) : Prop where
  numbered : s.orch.Numbered
  untold : ∀ thread, s.Untold thread

theorem absent_untold (s : SpmRun) (thread : Nat) (untold : s.Untold thread)
    (absent : s.orch.pollers thread = .absent) : s.onCompleted thread = .notCalled ∧ s.reports thread = [] := by
  have uncalled : s.onCompleted thread = .notCalled := untold.uncalled (by rw [absent]; rfl) (by rw [absent]; rfl)
  exact ⟨uncalled, untold.silent (by rw [absent]; rfl) (by rw [uncalled]; nofun)⟩

theorem unreported_unappended (s : SpmRun) (thread : Nat) (silent : s.reports thread = []) :
    ¬s.countersAppended thread := by
  rintro ⟨report, member, mine, _⟩
  have told : report.status ∈ s.reports thread :=
    List.mem_append_left _ (List.mem_filterMap.mpr ⟨report, member, if_pos mine⟩)
  rw [silent] at told
  contradiction

section Frame
variable (s t : SpmRun) (thread : Nat)

-- What the capture's report depends on.
structure SameCapture : Prop where
  owner : (t.orch.pollers thread).owner = (s.orch.pollers thread).owner
  settled : (t.orch.pollers thread).pc.settled = (s.orch.pollers thread).pc.settled
  onCompleted : t.onCompleted thread = s.onCompleted thread
  reports : t.reports thread = s.reports thread
  appended : t.countersAppended thread ↔ s.countersAppended thread
  begun : t.begun thread = s.begun thread

theorem reported_same (same : SameCapture s t thread) (reported : s.CaptureReported thread) : t.CaptureReported thread := by
  refine ⟨?_, ?_, ?_⟩
  · rw [same.reports]
    exact reported.atMostOne
  · rw [isOver, same.reports, same.onCompleted, same.settled]
    exact reported.once
  · rw [same.reports, same.appended, same.begun]
    exact reported.truthful

end Frame

-- What one step of the orchestrator is to the capture of a thread.
inductive Orchestrated (s : SpmRun) (thread : Nat) (a : Ubertrace.Action) (orch : Ubertrace.State) : Prop where
  | same (poller : orch.pollers thread = s.orch.pollers thread)
      (log : orch.log.filterMap (orchestratorTells thread) = s.orch.log.filterMap (orchestratorTells thread))
      (begun : s.begunAfter orch a thread = s.begun thread)
  | started (before : s.orch.pollers thread = .absent) (poller : (orch.pollers thread).pc = .check)
      (log : orch.log.filterMap (orchestratorTells thread) = s.orch.log.filterMap (orchestratorTells thread))
  | polled (answer : Answer) (e : PollerEffect) (polls : a = .poller thread answer)
      (effect : s.orch.pollerEffect thread answer = some e) (poller : orch.pollers thread = e.poller)
      (log : orch.log = e.events ++ s.orch.log) (begun : s.begunAfter orch a thread = s.begun thread)

theorem caller_silent (s : Ubertrace.State) (id thread : Nat) (answer : Answer) (e : CallerEffect)
    (effect : s.callerEffect id answer = some e) : e.events.filterMap (orchestratorTells thread) = [] := by
  refine List.filterMap_eq_nil_iff.mpr fun event member => ?_
  cases event with
  | delivered other delivery => exact absurd member (caller_event_operation _ _ _ _ _ _ _ _ effect _ rfl)
  | _ => rfl

theorem poller_silent (s : Ubertrace.State) (id thread : Nat) (answer : Answer) (e : PollerEffect)
    (effect : s.pollerEffect id answer = some e) (apart : thread ≠ id) :
    e.events.filterMap (orchestratorTells thread) = [] := by
  have silent := (other_thread_silent _ _ _ thread _ _ (poller_moves _ _ _ _ _ _ effect) apart).1
  refine List.filterMap_eq_nil_iff.mpr fun event member => ?_
  cases event with
  | delivered other delivery =>
      have elsewhere : other ≠ thread := by
        rintro rfl
        exact silent delivery member
      cases delivery with
      | onCompleted path => rfl
      | traceCompleted status path => exact if_neg elsewhere
  | _ => rfl

theorem orchestrated (s : SpmRun) (thread : Nat) (a : Ubertrace.Action) (orch : Ubertrace.State)
    (numbered : s.orch.Numbered) (next : Ubertrace.step s.orch a = some orch) : s.Orchestrated thread a orch := by
  obtain ⟨rfl, rfl⟩ | ⟨id, call, rfl, _, rfl⟩ | ⟨id, answer, e, rfl, effect, rfl⟩ |
    ⟨id, answer, e, rfl, effect, rfl⟩ := Ubertrace.step_cases s.orch orch a next
  · exact .same rfl rfl rfl
  · exact .same rfl rfl rfl
  · have log : (s.orch.applyCaller id e).log.filterMap (orchestratorTells thread) =
        s.orch.log.filterMap (orchestratorTells thread) := by
      simp only [State.applyCaller, List.filterMap_append, caller_silent s.orch id thread answer e effect, List.nil_append]
    cases spawned : e.spawned with
    | none => exact .same (by simp [State.applyCaller, spawned]) log (by simp [begunAfter, State.applyCaller, spawned])
    | some p =>
        by_cases fresh : thread = s.orch.threads
        · obtain ⟨user, config, capture, _, rfl⟩ := caller_spawned _ _ _ _ _ _ _ _ p effect spawned
          subst fresh
          exact .started (numbered _ (le_refl _)) (by simp [State.applyCaller, spawned, Poller.start]) log
        · exact .same (by simp [State.applyCaller, spawned, fresh]) log
            (by simp [begunAfter, State.applyCaller, spawned, fresh])
  · by_cases mine : thread = id
    · subst mine
      exact .polled answer e rfl effect (by simp [State.applyPoller]) rfl rfl
    · have silent := poller_silent s.orch id thread answer e effect mine
      exact .same (by simp [State.applyPoller, mine]) (by simp [State.applyPoller, silent]) rfl

section Orchestrator
variable (c : RgpUbertraceClient) (s : SpmRun) (a : Ubertrace.Action) (orch : Ubertrace.State)

def orchestrate : SpmRun := { s with orch := orch, begun := s.begunAfter orch a }

theorem orchestrate_step (t : SpmRun) (next : s.step c (.orchestrator a) = some t) :
    ∃ orch, s.leaves c a = true ∧ Ubertrace.step s.orch a = some orch ∧ t = s.orchestrate a orch := by
  rw [step] at next
  split at next
  · rename_i left
    obtain ⟨orch, taken, rfl⟩ := Option.map_eq_some_iff.mp next
    exact ⟨orch, left, taken, rfl⟩
  · contradiction

theorem polled_reports_eq (thread : Nat) (events : List Event) (log : orch.log = events ++ s.orch.log)
    (silent : events.filterMap (orchestratorTells thread) = []) :
    (s.orchestrate a orch).reports thread = s.reports thread := by
  simp only [reports, orchestrate, log, List.filterMap_append, silent, List.nil_append]

theorem orchestrated_untold (thread : Nat) (taken : s.Orchestrated thread a orch) (untold : s.Untold thread) :
    (s.orchestrate a orch).Untold thread := by
  cases taken with
  | same poller log begun =>
      have reports : (s.orchestrate a orch).reports thread = s.reports thread := by
        simp only [SpmRun.reports, orchestrate, log]
      refine ⟨?_, ?_⟩
      · simp only [orchestrate, poller]
        exact untold.uncalled
      · rw [reports]
        simp only [orchestrate, poller]
        exact untold.silent
  | started before poller log =>
      obtain ⟨uncalled, silent⟩ := absent_untold s thread untold before
      refine ⟨fun _ _ => uncalled, fun _ _ => ?_⟩
      rw [← silent]
      simp only [SpmRun.reports, orchestrate, log]
  | polled answer e polls effect poller log begun =>
      cases poller_tells _ _ _ _ _ _ effect with
      | nothing settled unreported calls silent =>
          refine ⟨fun working _ => ?_, fun working returned => ?_⟩
          · simp only [orchestrate, poller, settled] at working
            exact untold.uncalled working calls
          · simp only [orchestrate, poller, settled] at working
            rw [polled_reports_eq s a orch thread e.events log silent]
            exact untold.silent working returned
      | handedOver unreported calls settled silent =>
          refine ⟨fun working => ?_, fun working => ?_⟩ <;>
          · simp only [orchestrate, poller, settled] at working
            contradiction
      | reports status working calls settled tells completes =>
          refine ⟨fun working => ?_, fun working => ?_⟩ <;>
          · simp only [orchestrate, poller, settled] at working
            contradiction

theorem orchestrated_same (thread : Nat) (poller : orch.pollers thread = s.orch.pollers thread)
    (log : orch.log.filterMap (orchestratorTells thread) = s.orch.log.filterMap (orchestratorTells thread))
    (begun : s.begunAfter orch a thread = s.begun thread) : SameCapture s (s.orchestrate a orch) thread where
  owner := by simp only [orchestrate, poller]
  settled := by simp only [orchestrate, poller]
  onCompleted := rfl
  reports := by simp only [reports, orchestrate, log]
  appended := Iff.rfl
  begun := begun

-- The step of its own polling thread is where a capture is reported.
theorem polled_reported_iff (thread : Nat) (answer : Answer) (e : PollerEffect) (untold : s.Untold thread)
    (effect : s.orch.pollerEffect thread answer = some e) (poller : orch.pollers thread = e.poller)
    (log : orch.log = e.events ++ s.orch.log) (begun : s.begunAfter orch a thread = s.begun thread)
    (returned : (s.orch.pollers thread).pc.handsOver = true → s.onCompleted thread = .returned)
    (reported : s.CaptureReported thread) :
    (s.orchestrate a orch).CaptureReported thread ↔
      (completesPlainly (s.orch.pollers thread) → s.begun thread = false) := by
  cases poller_tells _ _ _ _ _ _ effect with
  | nothing settled unreported calls silent =>
      refine iff_of_true ?_ fun plain => absurd plain unreported
      refine reported_same s (s.orchestrate a orch) thread ?_ reported
      exact
        { owner := by simp only [orchestrate, poller, (poller_keeps _ _ _ _ _ (poller_moves _ _ _ _ _ _ effect)).1]
          settled := by simp only [orchestrate, poller, settled]
          onCompleted := rfl
          reports := polled_reports_eq s a orch thread e.events log silent
          appended := Iff.rfl
          begun := begun }
  | handedOver unreported calls settled silent =>
      refine iff_of_true ?_ fun plain => absurd plain unreported
      have same := polled_reports_eq s a orch thread e.events log silent
      have began : (s.orchestrate a orch).begun thread = s.begun thread := begun
      refine ⟨?_, fun _ => ?_, ?_⟩
      · rw [same]
        exact reported.atMostOne
      · rw [same]
        exact reported.once (.inl (returned calls))
      · rw [same, began]
        exact reported.truthful
  | reports status working calls settled tells completes =>
      have uncalled := untold.uncalled working calls
      have silent : s.reports thread = [] := untold.silent working (by rw [uncalled]; nofun)
      have now : (s.orchestrate a orch).reports thread = [status] := by
        rw [SpmRun.reports, List.append_eq_nil_iff] at silent
        simp only [SpmRun.reports, orchestrate, log, List.filterMap_append, silent, tells, List.append_nil, List.nil_append]
      rw [← completes]
      constructor
      · rintro sound rfl
        obtain appended | off := sound.truthful (by rw [now]; exact List.mem_singleton_self _)
        · exact absurd appended (unreported_unappended s thread silent)
        · exact begun.symm.trans off
      · intro off
        refine ⟨?_, fun _ => ?_, fun completed => .inr ?_⟩
        · rw [now, List.length_singleton]
        · rw [now, List.length_singleton]
        · rw [now, List.mem_singleton] at completed
          exact begun.trans (off completed.symm)

theorem elsewhere_reported (thread : Nat) (taken : s.Orchestrated thread a orch)
    (away : ∀ answer, a ≠ .poller thread answer) (untold : s.Untold thread)
    (sound : (s.orch.pollers thread).owner = c.user → s.CaptureReported thread)
    (mine : ((s.orchestrate a orch).orch.pollers thread).owner = c.user) : (s.orchestrate a orch).CaptureReported thread := by
  cases taken with
  | same poller log begun =>
      have same := orchestrated_same s a orch thread poller log begun
      exact reported_same s _ thread same (sound (same.owner.symm.trans mine))
  | started before poller log =>
      obtain ⟨uncalled, silent⟩ := absent_untold s thread untold before
      have now : (s.orchestrate a orch).reports thread = [] := by
        rw [← silent]
        simp only [SpmRun.reports, orchestrate, log]
      refine ⟨by simp [now], ?_, by simp [now]⟩
      rintro (returned | settled)
      · exact absurd (uncalled.symm.trans returned) nofun
      · simp only [orchestrate, poller] at settled
        contradiction
  | polled answer e polls => exact absurd polls (away answer)

theorem orchestrator_keeps_iff (kept : s.Kept) (reported : s.AllReported c) (left : s.leaves c a = true)
    (taken : Ubertrace.step s.orch a = some orch) :
    (s.orchestrate a orch).AllReported c ↔ s.handsOn c (.orchestrator a) := by
  have steps : ∀ thread, s.Orchestrated thread a orch := fun thread => orchestrated s thread a orch kept.numbered taken
  have elsewhere : ∀ thread, (∀ answer, a ≠ .poller thread answer) →
      ((s.orchestrate a orch).orch.pollers thread).owner = c.user → (s.orchestrate a orch).CaptureReported thread :=
    fun thread away => elsewhere_reported c s a orch thread (steps thread) away (kept.untold thread) (reported thread)
  cases a with
  | poller thread answer =>
      obtain ⟨e, effect, rfl⟩ := Option.map_eq_some_iff.mp taken
      have poller : (s.orch.applyPoller thread e).pollers thread = e.poller := by simp [State.applyPoller]
      have owner : e.poller.owner = (s.orch.pollers thread).owner :=
        (poller_keeps _ _ _ _ _ (poller_moves _ _ _ _ _ _ effect)).1
      have exactly : (s.orch.pollers thread).owner = c.user →
          ((s.orchestrate (.poller thread answer) (s.orch.applyPoller thread e)).CaptureReported thread ↔
            (completesPlainly (s.orch.pollers thread) → s.begun thread = false)) := fun mine =>
        polled_reported_iff s _ _ thread answer e (kept.untold thread) effect poller rfl rfl
          (fun calls => by simpa [leaves, mine, calls] using left) (reported thread mine)
      constructor
      · intro all mine
        have after : ((s.orch.applyPoller thread e).pollers thread).owner = c.user := by rw [poller, owner, mine]
        exact (exactly mine).mp (all thread after)
      · intro allowed other mine
        by_cases same : other = thread
        · subst same
          have before : (s.orch.pollers other).owner = c.user := by
            rw [← owner, ← poller]
            exact mine
          exact (exactly before).mpr (allowed before)
        · refine elsewhere other (fun answer => ?_) mine
          rintro ⟨rfl, _⟩
          exact same rfl
  | _ => exact iff_of_true (fun thread => elsewhere thread (by simp)) trivial

end Orchestrator

section Completion
variable (c : RgpUbertraceClient) (s t : SpmRun) (thread : Nat)

-- A step of the completion function touches its own capture only.
theorem others_reported (pollers : t.orch.pollers = s.orch.pollers) (reported : s.AllReported c)
    (elsewhere : ∀ other, other ≠ thread → SameCapture s t other) (mine : (s.orch.pollers thread).owner = c.user) :
    t.AllReported c ↔ t.CaptureReported thread := by
  constructor
  · intro all
    exact all thread (by rw [pollers]; exact mine)
  · intro here other owner
    by_cases same : other = thread
    · rw [same]
      exact here
    · exact reported_same s t other (elsewhere other same) (reported other (by rw [← pollers]; exact owner))

theorem calls_unsettled (pc : PollerPc) (calls : pc.handsOver = true) : pc.settled = false := by
  cases pc <;> first | rfl | contradiction

theorem on_completed_keeps_iff (kept : s.Kept) (reported : s.AllReported c)
    (next : s.step c (.onCompleted thread) = some t) : t.AllReported c ↔ s.handsOn c (.onCompleted thread) := by
  rw [step] at next
  split at next
  · rename_i enters
    obtain ⟨mine, calls, uncalled⟩ := enters
    have working := calls_unsettled _ calls
    have silent : s.reports thread = [] := (kept.untold thread).silent working (by rw [uncalled]; nofun)
    split at next
    · rename_i taken
      have made := Option.some.inj next
      have elsewhere : ∀ other, other ≠ thread → SameCapture s t other := by
        intro other apart
        rw [← made]
        exact ⟨rfl, rfl, Function.update_of_ne apart _ _, rfl, Iff.rfl, rfl⟩
      rw [others_reported c s t thread (by rw [← made]) reported elsewhere mine]
      refine iff_of_true ?_ (by simpa [handsOn] using taken)
      rw [← made]
      refine ⟨(reported thread mine).atMostOne, ?_, (reported thread mine).truthful⟩
      rintro (returned | settled)
      · have entered := Function.update_self thread OnCompletedPc.processing s.onCompleted
        exact absurd (entered.symm.trans returned) nofun
      · exact absurd (working.symm.trans settled) nofun
    · rename_i refused
      have made := Option.some.inj next
      refine iff_of_false (fun all => ?_) (by simpa [handsOn] using refused)
      have once : t.isOver thread → (t.reports thread).length = 1 := (all thread (by rw [← made]; exact mine)).once
      rw [← made] at once
      have still : (s.reports thread).length = 1 := once (.inl (Function.update_self _ _ _))
      rw [silent] at still
      contradiction
  · contradiction

variable (answers : Spm.Answers) (chunks : List Spm.RdfChunk)

theorem completion_completed_iff (abort : Bool) :
    completionStatus (generateDerivedCounters answers (.rdf chunks)) abort = .completed ↔
      (Spm.appendChunkDerivedSpmDb answers (.rdf chunks)).status = .ok := by
  unfold completionStatus generateDerivedCounters
  by_cases ok : (Spm.appendChunkDerivedSpmDb answers (.rdf chunks)).status = .ok
  · simp [ok]
  · cases abort <;> simp [ok]

theorem generated_elsewhere (report : SpmReport) (pc : OnCompletedPc) (other : Nat) (apart : other ≠ report.thread) :
    SameCapture s
      { s with onCompleted := Function.update s.onCompleted report.thread pc, log := report :: s.log } other where
  owner := rfl
  settled := rfl
  onCompleted := Function.update_of_ne apart _ _
  reports := by
    have silent : report.tells other = none := if_neg apart.symm
    simp only [SpmRun.reports, List.filterMap_cons_none silent]
  appended := by
    simp only [countersAppended, List.mem_cons]
    constructor
    · rintro ⟨some, rfl | member, mine, appended⟩
      · exact absurd mine.symm apart
      · exact ⟨some, member, mine, appended⟩
    · rintro ⟨some, member, mine, appended⟩
      exact ⟨some, .inr member, mine, appended⟩
  begun := rfl

theorem generated_keeps_iff (kept : s.Kept) (reported : s.AllReported c)
    (next : s.step c (.generated thread answers chunks) = some t) :
    t.AllReported c ↔ s.handsOn c (.generated thread answers chunks) := by
  rw [step] at next
  split at next
  · rename_i works
    obtain ⟨mine, calls, processing⟩ := works
    have silent : s.reports thread = [] :=
      (kept.untold thread).silent (calls_unsettled _ calls) (by rw [processing]; nofun)
    let report : SpmReport := ⟨thread, completionStatus (generateDerivedCounters answers (.rdf chunks)) s.abortSpmProcessing,
      (s.orch.pollers thread).path, answers, chunks⟩
    have made : { s with onCompleted := Function.update s.onCompleted report.thread .returned, log := report :: s.log } = t :=
      Option.some.inj next
    have elsewhere : ∀ other, other ≠ thread → SameCapture s t other := by
      intro other apart
      rw [← made]
      exact generated_elsewhere s report .returned other apart
    have tells : report.tells thread = some report.status := if_pos rfl
    have now : t.reports thread = [report.status] := by
      rw [← made]
      simp only [SpmRun.reports, List.filterMap_cons_some tells, List.cons_append]
      exact congrArg (List.cons report.status) silent
    have appended : t.countersAppended thread ↔ report.Appended := by
      rw [← made]
      constructor
      · rintro ⟨other, member, mine, appended⟩
        obtain rfl | old := List.mem_cons.mp member
        · exact appended
        · exact absurd ⟨other, old, mine, appended⟩ (unreported_unappended s thread silent)
      · intro appended
        exact ⟨report, List.mem_cons_self, rfl, appended⟩
    have begun : t.begun thread = s.begun thread := by rw [← made]
    rw [others_reported c s t thread (by rw [← made]) reported elsewhere mine, handsOn, ← Spm.ok_appended_iff answers chunks,
      ← completion_completed_iff answers chunks s.abortSpmProcessing]
    constructor
    · intro sound on completed
      obtain appends | off := sound.truthful (by rw [now]; exact List.mem_singleton.mpr completed.symm)
      · exact appended.mp appends
      · rw [begun, on] at off
        contradiction
    · intro writes
      refine ⟨by rw [now]; rfl, fun _ => by rw [now]; rfl, fun completed => ?_⟩
      rw [now, List.mem_singleton] at completed
      cases on : s.begun thread with
      | false => exact .inr (begun.trans on)
      | true => exact .inl (appended.mpr (writes on completed.symm))
  · contradiction

end Completion

section Runs
variable (c : RgpUbertraceClient)

-- The client's own request is one of the orchestrator's calls, or it fails before that.
theorem request_step (s t : SpmRun) (caller : Nat) (captureMode : UInt32) (captureType : UberTraceCaptureType)
    (a : GpuAnswers) (next : s.step c (.requestBeginTrace caller captureMode captureType a) = some t) :
    (∀ thread, SameCapture s t thread) ∧ (s.orch.Numbered → t.orch.Numbered) ∧ t.orch.pollers = s.orch.pollers := by
  rw [step] at next
  split at next
  · obtain rfl := Option.some.inj next
    exact ⟨fun _ => ⟨rfl, rfl, rfl, rfl, Iff.rfl, rfl⟩, id, rfl⟩
  · obtain ⟨orch, taken, rfl⟩ := Option.map_eq_some_iff.mp next
    have numbered (before : s.orch.Numbered) : orch.Numbered := numbered_step s.orch orch _ before taken
    rw [Ubertrace.step] at taken
    split at taken
    · obtain rfl := Option.some.inj taken
      exact ⟨fun _ => ⟨rfl, rfl, rfl, rfl, Iff.rfl, rfl⟩, numbered, rfl⟩
    · contradiction

theorem same_untold (s t : SpmRun) (thread : Nat) (same : SameCapture s t thread)
    (pollers : t.orch.pollers = s.orch.pollers) (untold : s.Untold thread) : t.Untold thread := by
  refine ⟨?_, ?_⟩
  · rw [same.settled, pollers, same.onCompleted]
    exact untold.uncalled
  · rw [same.settled, same.onCompleted, same.reports]
    exact untold.silent

-- The completion function runs only where the thread waits for it.
theorem called_untold (s t : SpmRun) (thread : Nat) (pc : OnCompletedPc) (calls : (s.orch.pollers thread).pc.handsOver = true)
    (pollers : t.orch = s.orch) (set : t.onCompleted = Function.update s.onCompleted thread pc)
    (elsewhere : ∀ other, other ≠ thread → t.reports other = s.reports other)
    (silent : pc ≠ .returned → t.reports thread = []) (untold : ∀ other, s.Untold other) (other : Nat) :
    t.Untold other := by
  by_cases same : other = thread
  · subst same
    refine ⟨fun _ waits => ?_, fun _ => ?_⟩
    · rw [pollers, calls] at waits
      contradiction
    · rw [set, Function.update_self]
      exact silent
  · refine ⟨?_, ?_⟩
    · rw [pollers, set, Function.update_of_ne same]
      exact (untold other).uncalled
    · rw [pollers, set, Function.update_of_ne same, elsewhere other same]
      exact (untold other).silent

theorem kept_step (s : SpmRun) (a : SpmAction) (t : SpmRun) (kept : s.Kept) (next : s.step c a = some t) : t.Kept := by
  cases a with
  | orchestrator a =>
      obtain ⟨orch, _, taken, rfl⟩ := orchestrate_step c s a t next
      refine ⟨numbered_step s.orch orch a kept.numbered taken, fun thread => ?_⟩
      exact orchestrated_untold s a orch thread (orchestrated s thread a orch kept.numbered taken) (kept.untold thread)
  | requestBeginTrace caller captureMode captureType a =>
      obtain ⟨same, numbered, pollers⟩ := request_step c s t caller captureMode captureType a next
      exact ⟨numbered kept.numbered, fun thread => same_untold s t thread (same thread) pollers (kept.untold thread)⟩
  | configure | registerSpmTraceListener | abortSpmProcessing =>
      obtain rfl := Option.some.inj next
      exact ⟨kept.numbered, fun thread => ⟨(kept.untold thread).uncalled, (kept.untold thread).silent⟩⟩
  | onCompleted thread =>
      rw [step] at next
      split at next
      · rename_i enters
        obtain ⟨_, calls, uncalled⟩ := enters
        have silent : s.reports thread = [] :=
          (kept.untold thread).silent (calls_unsettled _ calls) (by rw [uncalled]; nofun)
        split at next <;>
        · obtain rfl := Option.some.inj next
          exact ⟨kept.numbered, called_untold s _ thread _ calls rfl rfl (fun _ _ => rfl) (fun _ => silent) kept.untold⟩
      · contradiction
  | generated thread answers chunks =>
      rw [step] at next
      split at next
      · rename_i works
        obtain ⟨_, calls, _⟩ := works
        obtain rfl := Option.some.inj next
        refine ⟨kept.numbered, called_untold s _ thread .returned calls rfl rfl (fun other apart => ?_)
          (fun returned => absurd rfl returned) kept.untold⟩
        exact (generated_elsewhere s _ .returned other apart).reports
      · contradiction

variable (features : UbertraceFeatures) (config : RgpTraceSourceConfigPrivate)

theorem reachable_kept (s : SpmRun) (reach : Reachable (spmCaptures c features config) s) : s.Kept := by
  refine reachable_invariant (spmCaptures c features config) Kept ⟨fun _ _ => rfl, fun _ => ⟨fun _ _ => rfl, fun _ _ => rfl⟩⟩
    (fun s a t => kept_step c s a t) s reach

theorem all_reported_initial : (initial features config).AllReported c := by
  intro thread _
  refine ⟨Nat.zero_le 1, ?_, nofun⟩
  rintro (returned | settled) <;> contradiction

-- In every run: exactly one TraceCompleted for each capture of the client's user,
-- and kCompleted only with the counters or for a capture begun without them, is
-- the same as that every completion function finds somebody to hand the trace to.
theorem spm_captures_reported_iff (actions : List SpmAction) :
    Meets (spmCaptures c features config) (handsOn c) (initial features config) actions ↔
      Always (spmCaptures c features config) (AllReported c) (initial features config) actions := by
  refine keeps_iff_always (spmCaptures c features config) (handsOn c) (AllReported c)
    (all_reported_initial c features config) (fun s a t reach reported next => ?_) actions
  have kept := reachable_kept c features config s reach
  cases a with
  | orchestrator a =>
      obtain ⟨orch, left, taken, rfl⟩ := orchestrate_step c s a t next
      exact orchestrator_keeps_iff c s a orch kept reported left taken
  | requestBeginTrace caller captureMode captureType a =>
      obtain ⟨same, _, pollers⟩ := request_step c s t caller captureMode captureType a next
      refine iff_of_true (fun thread mine => ?_) trivial
      exact reported_same s t thread (same thread) (reported thread (by rw [← pollers]; exact mine))
  | configure | registerSpmTraceListener | abortSpmProcessing =>
      obtain rfl := Option.some.inj next
      exact iff_of_true (fun thread mine =>
        reported_same s _ thread ⟨rfl, rfl, rfl, rfl, Iff.rfl, rfl⟩ (reported thread mine)) trivial
  | onCompleted thread => exact on_completed_keeps_iff c s t thread kept reported next
  | generated thread answers chunks => exact generated_keeps_iff c s t thread answers chunks kept reported next

end Runs

section Failures

def spmClient : RgpUbertraceClient := ⟨1, .vulkan, false⟩

def spmConfig (enableSpmCounters : Bool) : RgpTraceSourceConfigPrivate where
  config :=
    { disableCaptureTimeout := false, enableSpmCounters := enableSpmCounters, enableInstTracing := false
      enableLegacyCapture := false, autoCaptureMode := .none, computeAutoCaptureTimeMs := 0, dispatchStartIndex := 0
      dispatchCount := 1, drawCount := 1, sqttMemoryLimit := 75, frameCaptureIndex := 0, enableSingleTokenSqtt := false
      enableExecPopTokens := false }
  spmSupportedGpus := ["Navi 31"]

def frameRequested : UbertraceCaptureConfig := ⟨.normal, ⟨RgpUbertraceClient.captureSources false, none⟩, true, false⟩

-- A frame capture with counters, until its thread calls the completion function.
def capturesWithCounters : List SpmAction :=
  [.registerSpmTraceListener true] ++ (connects 0 1).map .orchestrator ++
    [.requestBeginTrace 0 0 .normal ⟨"Navi 31", true, .success⟩] ++
    ((begins 0 1 frameRequested).drop 1).map .orchestrator ++
    [.configure (spmConfig false)] ++
    [.poller 0 (.stream "trace"), .poller 0 (.collected .success none), .poller 0 .go, .poller 0 .go, .poller 0 .go].map
      .orchestrator

def unreported (s : SpmRun) (thread : Nat) : Bool :=
  (s.orch.pollers thread).owner = 1 && s.onCompleted thread = .returned && (s.reports thread).length = 0

-- Counter collection is turned off while the capture runs.
theorem disabled_capture_unreported :
    ¬∀ s, Reachable (spmCaptures spmClient .default (spmConfig true)) s → s.AllReported spmClient := by
  intro always
  obtain ⟨s, reach, found⟩ := exec_finds (spmCaptures spmClient .default (spmConfig true))
    (capturesWithCounters ++ [.onCompleted 0]) (fun s => unreported s 0) (by decide)
  simp only [unreported, Bool.and_eq_true, decide_eq_true_eq] at found
  obtain ⟨⟨owner, returned⟩, silent⟩ := found
  have once := (always s reach 0 owner).once (.inl returned)
  rw [silent] at once
  contradiction

end Failures

end SpmRun

end RadeonPanel.Rgp

import RadeonPanel.Base.History
import RadeonPanel.Base.Runs
import RadeonPanel.Cli.Completion

set_option autoImplicit false

namespace RadeonPanel.Cli.ManualCapture

open Interleaving RadeonPanel.CaptureApi

structure CaptureConfig where
  mode : CaptureMode
  rraDelayMs : UInt32
deriving DecidableEq, Repr

-- In front of each access of PerformCapture and SaveAndCleanupCapture to what
-- they share with the callbacks, and of each call that they make.
inductive Pc where
  | prompt
  | checkStage
  | delay
  | trigger
  | triggering
  | wait
  | checkInterrupted
  | save
  | validate
  | write
  | clearData
  | clearComplete
  | clearSuccess
  | elseIf
  | clearFailed
  | ended
deriving DecidableEq, Repr

-- `whole` says whether the file takes all bytes that the stream is given, and
-- `clean` whether the return leaves both flags false and the data empty.
inductive Event where
  | triggered
  | finished (result : RdpCaptureResult) (data : List UInt8)
  | wrote (data : List UInt8) (whole : Bool)
  | returned (code : Int) (clean : Bool)
deriving DecidableEq, Repr

-- `log` is newest first.
structure State where
  cli : CaptureCli
  pc : Pc
  log : List Event
deriving DecidableEq, Repr

-- Of the capture API, the check for acceleration structures and the file; a
-- step reads the part that it asks for.
structure Answer where
  stage : RdpCaptureFeatureStage
  triggered : RdpCaptureResult
  noAccelerationStructures : Bool
  opens : Bool
  whole : Bool
deriving DecidableEq, Repr

def isClean (cli : CaptureCli) : Bool := !cli.captureComplete && !cli.captureSuccess && cli.traceData.isEmpty

def isReady (mode : CaptureMode) (stage : RdpCaptureFeatureStage) : Bool :=
  if mode = .memoryTrace then stage = .capturing else stage = .readyForCapture

-- The modes that TriggerCaptureForMode has a call for.
def supportsTrigger : CaptureMode → Bool
  | .profiling | .raytracing | .memoryTrace => true
  | .crashAnalysis | .clocks => false

namespace State

def goTo (s : State) (pc : Pc) : State := { s with pc := pc }

def record (s : State) (event : Event) : State := { s with log := event :: s.log }

-- An interrupted capture has cleaned up, and the loop ends.
def returns (s : State) (code : Int) : State :=
  (s.record (.returned code (isClean s.cli))).goTo (if code = 1 then .ended else .prompt)

def run (config : CaptureConfig) (answer : Answer) (s : State) : Option State :=
  match s.pc with
  | .prompt | .ended => none
  | .checkStage =>
      if !isReady config.mode answer.stage then some (s.returns (-1))
      else some (s.goTo (if config.mode = .raytracing && 0 < config.rraDelayMs then .delay else .trigger))
  | .delay => some (if s.cli.interrupted then s.returns (-1) else s.goTo .trigger)
  | .trigger =>
      if supportsTrigger config.mode then some ((s.record .triggered).goTo .triggering) else some (s.returns (-1))
  | .triggering => some (if answer.triggered ≠ .success then s.returns (-1) else s.goTo .wait)
  | .wait => some (s.goTo (if !s.cli.captureComplete && !s.cli.interrupted then .wait else .checkInterrupted))
  | .checkInterrupted => some (if s.cli.interrupted then s.returns 1 else s.goTo .save)
  | .save =>
      some (s.goTo (if s.cli.hasTrace then if config.mode = .raytracing then .validate else .write else .elseIf))
  | .validate => some (s.goTo (if answer.noAccelerationStructures then .clearData else .write))
  | .write => some ((if answer.opens then s.record (.wrote s.cli.traceData answer.whole) else s).goTo .clearData)
  | .clearData => some ({ s with cli := { s.cli with traceData := [] } }.goTo .clearComplete)
  | .clearComplete => some ({ s with cli := { s.cli with captureComplete := false } }.goTo .clearSuccess)
  | .clearSuccess => some ({ s with cli := { s.cli with captureSuccess := false } }.returns 0)
  | .elseIf => some (if !s.cli.captureSuccess then s.goTo .clearFailed else s.returns 0)
  | .clearFailed => some ({ s with cli := { s.cli with captureComplete := false } }.returns 0)

end State

-- Ctrl+C may come while the loop reads a command.
inductive Action where
  | command
  | run (answer : Answer)
  | traceFinished (result : RdpCaptureResult) (data : List UInt8)
  | statusChanged (newStage : RdpCaptureDetailedStage)
  | interrupt
deriving DecidableEq, Repr

def State.next (config : CaptureConfig) (s : State) : Action → Option State
  | .command => if s.pc = .prompt then some (s.goTo .checkStage) else none
  | .run answer => s.run config answer
  | .traceFinished result data =>
      some ({ s with cli := s.cli.traceFinished false result data }.record (.finished result data))
  | .statusChanged newStage => some { s with cli := s.cli.statusChanged false newStage }
  | .interrupt => some { s with cli := s.cli.interrupt }

def session (config : CaptureConfig) : Machine State Action := ⟨⟨.created, .prompt, []⟩, State.next config⟩

def sinceTrigger : List Event → List Event
  | [] | .triggered :: _ => []
  | .finished result data :: older => .finished result data :: sinceTrigger older
  | .wrote data whole :: older => .wrote data whole :: sinceTrigger older
  | .returned code clean :: older => .returned code clean :: sinceTrigger older

def Arrived (events : List Event) : Prop := ∃ result data, .finished result data ∈ events

def Written (events : List Event) : Prop :=
  ∀ data whole, .wrote data whole ∈ events → whole = true ∧ .finished .success data ∈ events

def savesOwnTrace : Event → List Event → Prop
  | .returned code clean, older =>
      code = 0 → clean = true ∧ Arrived (sinceTrigger older) ∧ Written (sinceTrigger older)
  | .triggered, _ | .finished _ _, _ | .wrote _ _, _ => True

-- Callbacks come between the trigger's call and the return: a success before the
-- save step looks, and with data. A trigger for which a completion has come is
-- not refused; a file that opens takes every byte; and Ctrl+C does not fall
-- between the last two stores.
def State.inTime (s : State) : Action → Bool
  | .traceFinished result data =>
      match s.pc with
      | .prompt | .checkStage | .delay | .trigger => false
      | .triggering | .wait | .checkInterrupted | .save =>
          result ≠ .success || !data.isEmpty || !s.cli.traceData.isEmpty
      | .validate | .write | .clearData | .clearComplete | .clearSuccess | .elseIf | .clearFailed => result ≠ .success
      | .ended => true
  | .run answer =>
      match s.pc with
      | .triggering => answer.triggered = .success || !s.cli.captureComplete || s.cli.interrupted
      | .write => !answer.opens || answer.whole
      | _ => true
  | .interrupt => s.pc ≠ .clearSuccess
  | .command | .statusChanged _ => true

-- From the trigger to the save step; `events` are those since the trigger.
structure Collecting (cli : CaptureCli) (events : List Event) : Prop where
  empty : cli.captureSuccess = false → cli.traceData = []
  own : cli.captureSuccess = true → cli.traceData ≠ [] ∧ .finished .success cli.traceData ∈ events
  complete : cli.captureSuccess = true → cli.captureComplete = true
  written : Written events

structure Settles (cli : CaptureCli) (events : List Event) (success : Bool) : Prop where
  flag : cli.captureSuccess = success
  arrived : Arrived events
  written : Written events

-- What the flags and the events say where the command stands.
def Stands (cli : CaptureCli) (events : List Event) : Pc → Prop
  | .prompt | .checkStage | .delay | .trigger => cli.interrupted = true ∨ isClean cli = true
  | .triggering | .wait =>
      cli.interrupted = true ∨ Collecting cli events ∧ (cli.captureComplete = true → Arrived events)
  | .checkInterrupted => cli.interrupted = true ∨ Collecting cli events ∧ Arrived events
  | .save => Collecting cli events ∧ Arrived events
  | .validate | .write => Settles cli events true ∧ .finished .success cli.traceData ∈ events
  | .clearData => Settles cli events true
  | .clearComplete => Settles cli events true ∧ cli.traceData = []
  | .clearSuccess => Settles cli events true ∧ cli.traceData = [] ∧ cli.captureComplete = false
  | .elseIf | .clearFailed => Settles cli events false ∧ cli.traceData = []
  | .ended => True

structure State.Sound (s : State) : Prop where
  each : AtEach savesOwnTrace s.log
  running : s.cli.autoCaptureTimedOut = false
  stands : Stands s.cli (sinceTrigger s.log) s.pc

section Callbacks
variable (cli : CaptureCli) (events : List Event) (result : RdpCaptureResult) (data : List UInt8)

theorem finished_keeps : (cli.traceFinished false result data).autoCaptureTimedOut = cli.autoCaptureTimedOut ∧
    (cli.traceFinished false result data).interrupted = cli.interrupted := by
  grind [CaptureCli.traceFinished]

theorem failure_keeps (failed : result ≠ .success) :
    (cli.traceFinished false result data).captureSuccess = cli.captureSuccess ∧
      (cli.traceFinished false result data).traceData = cli.traceData ∧
      (cli.captureSuccess = true → (cli.traceFinished false result data).captureComplete = cli.captureComplete) := by
  grind [CaptureCli.traceFinished]

theorem success_takes (running : cli.autoCaptureTimedOut = false) :
    (cli.traceFinished false .success data).captureSuccess = true ∧
      (cli.traceFinished false .success data).captureComplete = true ∧
      (cli.traceFinished false .success data).traceData = if data.isEmpty then cli.traceData else data := by
  simp [CaptureCli.traceFinished, running]

theorem arrived_finished : Arrived (.finished result data :: events) := ⟨result, data, List.mem_cons_self⟩

theorem written_finished (written : Written events) : Written (.finished result data :: events) := by
  intro other whole wrote
  obtain ⟨stored, own⟩ := written other whole (by simpa using wrote)
  exact ⟨stored, List.mem_cons_of_mem _ own⟩

theorem collecting_finished (collecting : Collecting cli events) (running : cli.autoCaptureTimedOut = false)
    (some : (result ≠ .success || !data.isEmpty || !cli.traceData.isEmpty) = true) :
    Collecting (cli.traceFinished false result data) (.finished result data :: events) := by
  obtain ⟨empty, own, complete, written⟩ := collecting
  by_cases success : result = .success
  · subst success
    obtain ⟨flag, done, taken⟩ := success_takes cli data running
    refine ⟨fun unset => ?_, fun _ => ?_, fun _ => done, written_finished _ _ _ written⟩
    · rw [flag] at unset
      cases unset
    · rw [taken]
      cases data with
      | cons byte rest => exact ⟨nofun, List.mem_cons_self⟩
      | nil =>
          have earlier : cli.traceData ≠ [] := by simpa using some
          have latched : cli.captureSuccess = true := by
            by_contra unset
            exact earlier (empty (by simpa using unset))
          exact ⟨earlier, List.mem_cons_of_mem _ (own latched).2⟩
  · obtain ⟨flag, same, latched⟩ := failure_keeps cli result data success
    refine ⟨?_, ?_, ?_, written_finished _ _ _ written⟩
    · rw [flag, same]
      exact empty
    · rw [flag, same]
      exact fun set => ⟨(own set).1, List.mem_cons_of_mem _ (own set).2⟩
    · rw [flag]
      exact fun set => (latched set).trans (complete set)

theorem settles_finished (success : Bool) (settles : Settles cli events success) (failed : result ≠ .success) :
    Settles (cli.traceFinished false result data) (.finished result data :: events) success :=
  ⟨(failure_keeps cli result data failed).1.trans settles.flag, arrived_finished events result data,
    written_finished _ _ _ settles.written⟩

end Callbacks

section Step
variable (config : CaptureConfig) (s t : State)

theorem sound_finished (result : RdpCaptureResult) (data : List UInt8) (sound : s.Sound)
    (inTime : s.inTime (.traceFinished result data) = true) (taken : s.next config (.traceFinished result data) = some t) :
    t.Sound := by
  cases taken
  obtain ⟨each, running, stands⟩ := sound
  obtain ⟨timedOut, interrupted⟩ := finished_keeps s.cli result data
  refine ⟨⟨trivial, each⟩, timedOut.trans running, ?_⟩
  have arrived := arrived_finished (sinceTrigger s.log) result data
  simp only [State.inTime] at inTime
  show Stands (s.cli.traceFinished false result data) (.finished result data :: sinceTrigger s.log) s.pc
  cases pc : s.pc with
  | prompt | checkStage | delay | trigger =>
      simp only [pc] at inTime
      cases inTime
  | triggering | wait =>
      simp only [pc] at inTime stands
      obtain stopped | ⟨collecting, _⟩ := stands
      · exact .inl (interrupted.trans stopped)
      · exact .inr ⟨collecting_finished _ _ result data collecting running inTime, fun _ => arrived⟩
  | checkInterrupted =>
      simp only [pc] at inTime stands
      obtain stopped | ⟨collecting, _⟩ := stands
      · exact .inl (interrupted.trans stopped)
      · exact .inr ⟨collecting_finished _ _ result data collecting running inTime, arrived⟩
  | save =>
      simp only [pc] at inTime stands
      exact ⟨collecting_finished _ _ result data stands.1 running inTime, arrived⟩
  | validate | write =>
      simp only [pc, decide_eq_true_eq] at inTime stands
      obtain ⟨settles, own⟩ := stands
      refine ⟨settles_finished _ _ result data true settles inTime, ?_⟩
      rw [(failure_keeps s.cli result data inTime).2.1]
      exact List.mem_cons_of_mem _ own
  | clearData =>
      simp only [pc, decide_eq_true_eq] at inTime stands
      exact settles_finished _ _ result data true stands inTime
  | clearComplete =>
      simp only [pc, decide_eq_true_eq] at inTime stands
      obtain ⟨_, same, _⟩ := failure_keeps s.cli result data inTime
      exact ⟨settles_finished _ _ result data true stands.1 inTime, same.trans stands.2⟩
  | clearSuccess =>
      simp only [pc, decide_eq_true_eq] at inTime stands
      obtain ⟨settles, empty, cleared⟩ := stands
      obtain ⟨_, same, latched⟩ := failure_keeps s.cli result data inTime
      exact ⟨settles_finished _ _ result data true settles inTime, same.trans empty, (latched settles.flag).trans cleared⟩
  | elseIf | clearFailed =>
      simp only [pc, decide_eq_true_eq] at inTime stands
      obtain ⟨_, same, _⟩ := failure_keeps s.cli result data inTime
      exact ⟨settles_finished _ _ result data false stands.1 inTime, same.trans stands.2⟩
  | ended => trivial

-- A return that is not a success promises nothing.
theorem sound_returns (code : Int) (sound : AtEach savesOwnTrace s.log) (running : s.cli.autoCaptureTimedOut = false)
    (failed : code ≠ 0) (clean : code = 1 ∨ s.cli.interrupted = true ∨ isClean s.cli = true) :
    (s.returns code).Sound := by
  refine ⟨⟨fun zero => absurd zero failed, sound⟩, running, ?_⟩
  simp only [State.returns, State.record, State.goTo]
  split
  · trivial
  · rename_i other
    exact clean.resolve_left other

theorem sound_saved (sound : AtEach savesOwnTrace s.log) (running : s.cli.autoCaptureTimedOut = false)
    (arrived : Arrived (sinceTrigger s.log)) (written : Written (sinceTrigger s.log)) (clean : isClean s.cli = true) :
    (s.returns 0).Sound :=
  ⟨⟨fun _ => ⟨clean, arrived, written⟩, sound⟩, running, .inr clean⟩

theorem sound_trigger (sound : s.Sound) (at_ : s.pc = .trigger) : ((s.record .triggered).goTo .triggering).Sound := by
  obtain ⟨each, running, stands⟩ := sound
  rw [at_] at stands
  refine ⟨⟨trivial, each⟩, running, stands.imp id fun clean => ?_⟩
  simp only [isClean, Bool.and_eq_true, Bool.not_eq_true', List.isEmpty_iff] at clean
  obtain ⟨⟨incomplete, unset⟩, empty⟩ := clean
  refine ⟨⟨fun _ => empty, ?_, ?_, fun data whole wrote => by cases wrote⟩, ?_⟩
  · simp [State.record, State.goTo, unset]
  · simp [State.record, State.goTo, unset]
  · simp [State.record, State.goTo, incomplete]

-- The loop leaves its wait with a capture that is complete, or interrupted.
theorem sound_wait (sound : s.Sound) (at_ : s.pc = .wait) :
    (s.goTo (if !s.cli.captureComplete && !s.cli.interrupted then .wait else .checkInterrupted)).Sound := by
  obtain ⟨each, running, stands⟩ := sound
  rw [at_] at stands
  refine ⟨each, running, ?_⟩
  simp only [State.goTo]
  split
  · exact stands
  · rename_i stopped
    obtain interrupted | ⟨collecting, arrived⟩ := stands
    · exact .inl interrupted
    · by_cases interrupted : s.cli.interrupted = true
      · exact .inl interrupted
      · exact .inr ⟨collecting, arrived (by simpa [interrupted] using stopped)⟩

theorem sound_triggering (answer : Answer) (sound : s.Sound) (at_ : s.pc = .triggering)
    (inTime : (answer.triggered = .success || !s.cli.captureComplete || s.cli.interrupted) = true) :
    (if answer.triggered ≠ .success then s.returns (-1) else s.goTo .wait).Sound := by
  obtain ⟨each, running, stands⟩ := sound
  rw [at_] at stands
  split
  · rename_i refused
    apply sound_returns s (-1) each running (by decide)
    obtain stopped | ⟨collecting, _⟩ := stands
    · exact .inr (.inl stopped)
    · have late : s.cli.captureComplete = false ∨ s.cli.interrupted = true := by simpa [refused] using inTime
      obtain incomplete | stopped := late
      · have unset : s.cli.captureSuccess = false := by
          by_contra set
          have complete := collecting.complete (by simpa using set)
          rw [incomplete] at complete
          cases complete
        exact .inr (.inr (by simp [isClean, incomplete, unset, collecting.empty unset]))
      · exact .inr (.inl stopped)
  · exact ⟨each, running, stands⟩

theorem sound_save (mode : CaptureMode) (sound : s.Sound) (at_ : s.pc = .save) :
    (s.goTo (if s.cli.hasTrace then if mode = .raytracing then .validate else .write else .elseIf)).Sound := by
  obtain ⟨each, running, stands⟩ := sound
  rw [at_] at stands
  obtain ⟨collecting, arrived⟩ := stands
  refine ⟨each, running, ?_⟩
  simp only [State.goTo]
  cases set : s.cli.captureSuccess with
  | true =>
      obtain ⟨some, own⟩ := collecting.own set
      have traced : s.cli.hasTrace = true := by simp [CaptureCli.hasTrace, set, some]
      have settles : Settles s.cli (sinceTrigger s.log) true := ⟨set, arrived, collecting.written⟩
      rw [if_pos traced]
      split
      · exact ⟨settles, own⟩
      · exact ⟨settles, own⟩
  | false =>
      have untraced : s.cli.hasTrace = false := by simp [CaptureCli.hasTrace, set]
      simp only [untraced, Bool.false_eq_true, if_false]
      exact ⟨⟨set, arrived, collecting.written⟩, collecting.empty set⟩

theorem sound_write (answer : Answer) (sound : s.Sound) (at_ : s.pc = .write)
    (inTime : (!answer.opens || answer.whole) = true) :
    ((if answer.opens then s.record (.wrote s.cli.traceData answer.whole) else s).goTo .clearData).Sound := by
  obtain ⟨each, running, stands⟩ := sound
  rw [at_] at stands
  obtain ⟨⟨flag, ⟨result, data, arrived⟩, written⟩, own⟩ := stands
  split
  · rename_i opens
    refine ⟨⟨trivial, each⟩, running, flag, ⟨result, data, List.mem_cons_of_mem _ arrived⟩, ?_⟩
    intro other whole wrote
    obtain here | earlier := List.mem_cons.mp wrote
    · cases here
      exact ⟨by simpa [opens] using inTime, List.mem_cons_of_mem _ own⟩
    · obtain ⟨stored, received⟩ := written other whole earlier
      exact ⟨stored, List.mem_cons_of_mem _ received⟩
  · exact ⟨each, running, flag, ⟨result, data, arrived⟩, written⟩

theorem sound_run (answer : Answer) (sound : s.Sound) (inTime : s.inTime (.run answer) = true)
    (taken : s.run config answer = some t) : t.Sound := by
  obtain ⟨each, running, stands⟩ := sound
  simp only [State.inTime] at inTime
  cases pc : s.pc with
  | checkStage =>
      simp only [State.run, pc] at taken
      rw [pc] at stands
      split at taken
      · cases taken
        exact sound_returns s (-1) each running (by decide) (.inr stands)
      · cases taken
        refine ⟨each, running, ?_⟩
        simp only [State.goTo]
        split
        · exact stands
        · exact stands
  | delay =>
      simp only [State.run, pc] at taken
      rw [pc] at stands
      cases taken
      split
      · exact sound_returns s (-1) each running (by decide) (.inr stands)
      · exact ⟨each, running, stands⟩
  | trigger =>
      simp only [State.run, pc] at taken
      split at taken
      · cases taken
        exact sound_trigger s ⟨each, running, stands⟩ pc
      · cases taken
        rw [pc] at stands
        exact sound_returns s (-1) each running (by decide) (.inr stands)
  | triggering =>
      simp only [State.run, pc] at taken
      simp only [pc] at inTime
      cases taken
      exact sound_triggering s answer ⟨each, running, stands⟩ pc inTime
  | wait =>
      simp only [State.run, pc] at taken
      cases taken
      exact sound_wait s ⟨each, running, stands⟩ pc
  | checkInterrupted =>
      simp only [State.run, pc] at taken
      rw [pc] at stands
      cases taken
      split
      · exact sound_returns s 1 each running (by decide) (.inl rfl)
      · rename_i going
        exact ⟨each, running, stands.resolve_left going⟩
  | save =>
      simp only [State.run, pc] at taken
      cases taken
      exact sound_save s config.mode ⟨each, running, stands⟩ pc
  | validate =>
      simp only [State.run, pc] at taken
      rw [pc] at stands
      cases taken
      refine ⟨each, running, ?_⟩
      simp only [State.goTo]
      split
      · exact stands.1
      · exact stands
  | write =>
      simp only [State.run, pc] at taken
      simp only [pc] at inTime
      cases taken
      exact sound_write s answer ⟨each, running, stands⟩ pc inTime
  | clearData =>
      simp only [State.run, pc] at taken
      rw [pc] at stands
      cases taken
      exact ⟨each, running, ⟨stands.flag, stands.arrived, stands.written⟩, rfl⟩
  | clearComplete =>
      simp only [State.run, pc] at taken
      rw [pc] at stands
      obtain ⟨⟨flag, arrived, written⟩, empty⟩ := stands
      cases taken
      exact ⟨each, running, ⟨flag, arrived, written⟩, empty, rfl⟩
  | clearSuccess =>
      simp only [State.run, pc] at taken
      rw [pc] at stands
      obtain ⟨⟨flag, arrived, written⟩, empty, cleared⟩ := stands
      cases taken
      exact sound_saved _ each running arrived written (by simp [isClean, cleared, empty])
  | elseIf =>
      simp only [State.run, pc] at taken
      rw [pc] at stands
      cases taken
      simp only [stands.1.flag, Bool.not_false, if_true]
      exact ⟨each, running, stands⟩
  | clearFailed =>
      simp only [State.run, pc] at taken
      rw [pc] at stands
      obtain ⟨⟨flag, arrived, written⟩, empty⟩ := stands
      cases taken
      exact sound_saved _ each running arrived written (by simp [isClean, flag, empty])
  | prompt | ended =>
      simp only [State.run, pc] at taken
      cases taken

-- Ctrl+C sets its own flag, and the other one only where that is looked at or cleared again.
theorem sound_interrupt (sound : s.Sound) (inTime : s.inTime .interrupt = true) (taken : s.next config .interrupt = some t) :
    t.Sound := by
  cases taken
  obtain ⟨each, running, stands⟩ := sound
  refine ⟨each, running, ?_⟩
  show Stands s.cli.interrupt (sinceTrigger s.log) s.pc
  cases pc : s.pc with
  | prompt | checkStage | delay | trigger | triggering | wait | checkInterrupted => exact .inl rfl
  | save =>
      rw [pc] at stands
      obtain ⟨⟨empty, own, _, written⟩, arrived⟩ := stands
      exact ⟨⟨empty, own, fun _ => rfl, written⟩, arrived⟩
  | validate | write | clearComplete | elseIf | clearFailed =>
      rw [pc] at stands
      obtain ⟨⟨flag, arrived, written⟩, own⟩ := stands
      exact ⟨⟨flag, arrived, written⟩, own⟩
  | clearData =>
      rw [pc] at stands
      exact ⟨stands.flag, stands.arrived, stands.written⟩
  | clearSuccess => simp [State.inTime, pc] at inTime
  | ended => trivial

theorem sound_next (a : Action) (sound : s.Sound) (inTime : s.inTime a = true) (taken : s.next config a = some t) : t.Sound := by
  cases a with
  | run answer => exact sound_run config s t answer sound inTime taken
  | traceFinished result data => exact sound_finished config s t result data sound inTime taken
  | interrupt => exact sound_interrupt config s t sound inTime taken
  | command =>
      rw [State.next] at taken
      split at taken
      · rename_i here
        cases taken
        have stands := sound.stands
        rw [here] at stands
        exact ⟨sound.each, sound.running, stands⟩
      · cases taken
  | statusChanged newStage =>
      have same : s.cli.statusChanged false newStage = s.cli := by simp [CaptureCli.statusChanged]
      simp only [State.next, same] at taken
      cases taken
      exact sound

end Step

def State.savesOwnTraces (s : State) : Prop := AtEach savesOwnTrace s.log

theorem manual_captures_save_own_traces (config : CaptureConfig) (s : State)
    (reach : Reach (session config) (fun s a => s.inTime a = true) s) : s.savesOwnTraces := by
  have sound := reach_invariant (session config) (fun s a => s.inTime a = true) State.Sound ⟨trivial, rfl, .inr rfl⟩
    (fun s a t _ sound inTime taken => sound_next config s t a sound inTime taken) s reach
  exact sound.each

def ready : Answer := ⟨.readyForCapture, .success, false, true, true⟩

def triggers : List Action := .command :: List.replicate 3 (.run ready)

-- A failure first, then a second capture with data.
theorem second_capture_saved : ∃ s : State,
    s.log = [.returned 0 true, .wrote [7] true, .finished .success [7], .triggered, .returned 0 true,
      .finished .aborted [], .triggered] ∧ s.savesOwnTraces := by
  obtain ⟨s, reach, found⟩ := exec_if_finds (session ⟨.profiling, 0⟩) State.inTime
    (triggers ++ .traceFinished .aborted [] :: List.replicate 5 (.run ready) ++ triggers ++
      .traceFinished .success [7] :: List.replicate 7 (.run ready))
    (fun s => s.log = [.returned 0 true, .wrote [7] true, .finished .success [7], .triggered, .returned 0 true,
      .finished .aborted [], .triggered]) (by decide)
  exact ⟨s, by simpa using found, manual_captures_save_own_traces ⟨.profiling, 0⟩ s reach⟩

-- A success without data leaves both flags set: the next command returns at once.
theorem empty_success_saves_nothing :
    ¬ ∀ (config : CaptureConfig) (s : State), Reachable (session config) s → s.savesOwnTraces := by
  intro saves
  obtain ⟨s, reach, found⟩ := exec_finds (session ⟨.profiling, 0⟩)
    (triggers ++ .traceFinished .success [] :: List.replicate 4 (.run ready) ++ triggers ++ List.replicate 4 (.run ready))
    (fun s => s.log = [.returned 0 false, .triggered, .returned 0 false, .finished .success [], .triggered]) (by decide)
  have log : s.log = [.returned 0 false, .triggered, .returned 0 false, .finished .success [], .triggered] := by
    simpa using found
  have sound := saves ⟨.profiling, 0⟩ s reach
  rw [State.savesOwnTraces, log] at sound
  obtain ⟨clean, _⟩ := sound.1 rfl
  cases clean

end RadeonPanel.Cli.ManualCapture

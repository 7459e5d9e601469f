import RadeonPanel.Base.History
import RadeonPanel.Base.Runs
import RadeonPanel.Cli.Completion

set_option autoImplicit false

namespace RadeonPanel.Cli.AutoCapture

open Interleaving RadeonPanel.CaptureApi

def kAutoCaptureFailureGraceMs : Nat := 5000

-- In front of each access of WaitForAutoCaptureAndSave to what it shares with
-- the callbacks, and of each call that it makes.
inductive Pc where
  | checkLoop
  | poll
  | decide (captureInProgress : Bool)
  | claim
  | checkInterrupted
  | save
  | validate
  | write
  | elseIf
  | cleanup
  | returned
deriving DecidableEq, Repr

-- `changed` says whether the callback has recorded something, `whole` whether
-- the file takes all bytes that the stream is given.
inductive Event where
  | finished (result : RdpCaptureResult) (data : List UInt8) (changed : Bool)
  | polled (stage : RdpCaptureFeatureStage)
  | armed
  | claimed
  | wrote (data : List UInt8) (whole : Bool)
  | returns (code : Int)
deriving DecidableEq, Repr

-- `log` is newest first.
structure State where
  cli : CaptureCli
  failureDeadline : Option Nat
  pc : Pc
  log : List Event
deriving DecidableEq, Repr

-- Of the capture API, the steady clock, the check for acceleration structures
-- and the file; a step reads the part that it asks for.
structure Answer where
  stage : RdpCaptureFeatureStage
  now : Nat
  noAccelerationStructures : Bool
  opens : Bool
  whole : Bool
deriving DecidableEq, Repr

def captureInProgress (stage : RdpCaptureFeatureStage) : Bool :=
  stage = .readyForCapture || stage = .waitingToBeginCapture || stage = .capturing || stage = .busy

namespace State

def goTo (s : State) (pc : Pc) : State := { s with pc := pc }

def record (s : State) (event : Event) : State := { s with log := event :: s.log }

def returns (s : State) (code : Int) : State := (s.record (.returns code)).goTo .cleanup

def run (mode : CaptureMode) (answer : Answer) (s : State) : Option State :=
  match s.pc with
  | .checkLoop => some (s.goTo (if !s.cli.captureComplete && !s.cli.interrupted then .poll else .checkInterrupted))
  | .poll =>
      let polled := s.record (.polled answer.stage)
      if answer.stage = .apiUnsupported then some (polled.goTo .checkLoop)
      else if isNegative answer.stage then some (polled.returns 1)
      else some (polled.goTo (.decide (captureInProgress answer.stage)))
  | .decide captureInProgress =>
      if s.cli.captureFailed && !captureInProgress then
        match s.failureDeadline with
        | none =>
            some (({ s with failureDeadline := some (answer.now + kAutoCaptureFailureGraceMs) }.record .armed).goTo .checkLoop)
        | some deadline => some (s.goTo (if deadline ≤ answer.now then .claim else .checkLoop))
      else some ({ s with failureDeadline := none }.goTo .checkLoop)
  -- under `g_output_mutex`
  | .claim =>
      if !s.cli.captureComplete then
        some (({ s with cli := { s.cli with autoCaptureTimedOut := true } }.record .claimed).returns 1)
      else some (s.goTo .checkLoop)
  | .checkInterrupted => some (if s.cli.interrupted then s.returns 1 else s.goTo .save)
  | .save => some (s.goTo (if s.cli.hasTrace then if mode = .raytracing then .validate else .write else .elseIf))
  | .validate => some (if answer.noAccelerationStructures then s.returns 1 else s.goTo .write)
  | .write =>
      some (if answer.opens then (s.record (.wrote s.cli.traceData answer.whole)).returns 0 else s.returns 1)
  | .elseIf => some (s.returns (if !s.cli.captureSuccess then 1 else 0))
  | .cleanup => some (s.goTo .returned)
  | .returned => none

end State

inductive Action where
  | run (answer : Answer)
  | traceFinished (result : RdpCaptureResult) (data : List UInt8)
  | statusChanged (newStage : RdpCaptureDetailedStage)
  | interrupt
deriving DecidableEq, Repr

-- The callbacks of any connection come at any time, after the return, too.
def State.next (mode : CaptureMode) (s : State) : Action → Option State
  | .run answer => s.run mode answer
  | .traceFinished result data =>
      let cli := s.cli.traceFinished true result data
      some ({ s with cli := cli }.record (.finished result data (cli ≠ s.cli)))
  | .statusChanged newStage => some { s with cli := s.cli.statusChanged true newStage }
  | .interrupt => some { s with cli := s.cli.interrupt }

def autoCapture (mode : CaptureMode) : Machine State Action := ⟨⟨.created, none, .checkLoop, []⟩, State.next mode⟩

theorem negative_idle (stage : RdpCaptureFeatureStage) (negative : isNegative stage = true) :
    captureInProgress stage = false := by
  cases stage <;> first | rfl | cases negative

-- The deadline is armed, and no poll since then has seen a capture in progress.
def quietSinceArmed : List Event → Bool
  | [] => false
  | .armed :: _ => true
  | .polled stage :: older => !captureInProgress stage && quietSinceArmed older
  | .finished _ _ _ :: older | .claimed :: older | .wrote _ _ :: older | .returns _ :: older => quietSinceArmed older

def decidesOnce : Event → List Event → Prop
  | .finished _ _ changed, older => .claimed ∈ older → changed = false
  | .claimed, older => (∀ data changed, .finished .success data changed ∉ older) ∧ quietSinceArmed older = true
  | .returns code, older =>
      code = 0 → ∃ data, .wrote data true ∈ older ∧ ∃ changed, .finished .success data changed ∈ older
  | .polled _, _ | .armed, _ | .wrote _ _, _ => True

def State.decidesOneOutcome (s : State) : Prop := AtEach decidesOnce s.log

-- Past the branch that writes, no success is recorded; and the file that opens
-- takes every byte.
def State.isSaved (s : State) : Action → Prop
  | .run answer =>
      match s.pc with
      | .write => answer.opens = true → answer.whole = true
      | .elseIf => s.cli.captureSuccess = false
      | _ => True
  | .traceFinished _ _ | .statusChanged _ | .interrupt => True

def Pc.isOver : Pc → Bool
  | .cleanup | .returned => true
  | _ => false

structure State.Sound (s : State) : Prop where
  claimed : .claimed ∈ s.log ↔ s.cli.autoCaptureTimedOut = true
  past : s.cli.autoCaptureTimedOut = true → s.pc.isOver = true
  unfinished : s.cli.autoCaptureTimedOut = false → s.cli.captureComplete = false →
    ∀ data changed, .finished .success data changed ∉ s.log
  armed : s.failureDeadline.isSome = true → s.pc = .decide true ∨ quietSinceArmed s.log = true
  claims : s.pc = .claim → quietSinceArmed s.log = true
  received : s.cli.traceData ≠ [] → ∃ changed, .finished .success s.cli.traceData changed ∈ s.log
  writes : s.pc = .validate ∨ s.pc = .write → s.cli.traceData ≠ []
  unwritten : s.pc.isOver = false → ∀ data whole, .wrote data whole ∉ s.log

section Callbacks
variable (cli : CaptureCli) (result : RdpCaptureResult) (data : List UInt8)

theorem finished_timed_out : (cli.traceFinished true result data).autoCaptureTimedOut = cli.autoCaptureTimedOut := by
  grind [CaptureCli.traceFinished]

theorem finished_ignored (timedOut : cli.autoCaptureTimedOut = true) : cli.traceFinished true result data = cli := by
  simp [CaptureCli.traceFinished, timedOut]

theorem finished_complete (here : (cli.traceFinished true result data).captureComplete = false) :
    cli.captureComplete = false ∧ (cli.autoCaptureTimedOut = false → result ≠ .success) := by
  grind [CaptureCli.traceFinished]

theorem finished_data : (cli.traceFinished true result data).traceData = cli.traceData ∨
    result = .success ∧ data ≠ [] ∧ (cli.traceFinished true result data).traceData = data := by
  grind [CaptureCli.traceFinished]

end Callbacks

section Step
variable (mode : CaptureMode) (s t : State)

theorem sound_finished (result : RdpCaptureResult) (data : List UInt8) (sound : s.Sound)
    (taken : s.next mode (.traceFinished result data) = some t) : t.Sound := by
  cases taken
  obtain ⟨claimed, past, unfinished, armed, claims, received, writes, unwritten⟩ := sound
  have kept := finished_timed_out s.cli result data
  refine ⟨?_, ?_, ?_, armed, claims, ?_, ?_, ?_⟩
  · simp [State.record, kept, claimed]
  · simpa [State.record, kept] using past
  · intro running incomplete earlier changed
    obtain ⟨before, failed⟩ := finished_complete s.cli result data incomplete
    have running : s.cli.autoCaptureTimedOut = false := kept ▸ running
    have absent := unfinished running before earlier changed
    simp [State.record, absent, (failed running).symm]
  · intro some
    obtain same | ⟨rfl, nonempty, new⟩ := finished_data s.cli result data
    · simp only [State.record, same] at some ⊢
      obtain ⟨changed, member⟩ := received some
      exact ⟨changed, List.mem_cons_of_mem _ member⟩
    · simp only [State.record, new]
      exact ⟨_, List.mem_cons_self⟩
  · intro here
    have before := writes here
    obtain same | ⟨_, nonempty, new⟩ := finished_data s.cli result data
    · simpa only [State.record, same] using before
    · simpa only [State.record, new] using nonempty
  · intro running earlier whole
    simpa [State.record] using unwritten running earlier whole

theorem still_running (sound : s.Sound) (inside : s.pc.isOver = false) : s.cli.autoCaptureTimedOut = false := by
  by_contra timedOut
  have past := sound.past (by simpa using timedOut)
  exact nomatch inside.symm.trans past

theorem received_recorded (event : Event) (sound : s.Sound) (some : s.cli.traceData ≠ []) :
    ∃ changed, .finished .success s.cli.traceData changed ∈ event :: s.log := by
  obtain ⟨changed, member⟩ := sound.received some
  exact ⟨changed, List.mem_cons_of_mem _ member⟩

-- A step that only moves on keeps everything but what the place itself promises.
theorem sound_go_to (here next : Pc) (sound : s.Sound) (at_ : s.pc = here) (past : here.isOver = true → next.isOver = true)
    (deciding : here = .decide true → s.failureDeadline.isSome = false)
    (claims : next = .claim → quietSinceArmed s.log = true)
    (writes : next = .validate ∨ next = .write → s.cli.traceData ≠ []) : (s.goTo next).Sound where
  claimed := sound.claimed
  past := fun timedOut => past (at_ ▸ sound.past timedOut)
  unfinished := sound.unfinished
  armed := by
    intro deadline
    obtain decides | quiet := sound.armed deadline
    · exact nomatch (deciding (at_.symm.trans decides)).symm.trans deadline
    · exact .inr quiet
  claims := claims
  received := sound.received
  writes := writes
  unwritten := by
    intro running
    refine sound.unwritten (Bool.eq_false_iff.mpr fun ended => ?_)
    exact nomatch (past (at_ ▸ ended)).symm.trans running

-- The end of the wait with an entry of the log that says nothing of the outcome.
theorem sound_ends (event : Event) (plain : ∀ log, quietSinceArmed (event :: log) = quietSinceArmed log)
    (unclaimed : event ≠ .claimed) (other : ∀ data changed, event ≠ .finished .success data changed)
    (sound : s.Sound) (undecided : s.pc ≠ .decide true) : ((s.record event).goTo .cleanup).Sound where
  claimed := by simp [State.record, State.goTo, sound.claimed, unclaimed.symm]
  past := fun _ => rfl
  unfinished := by
    intro running incomplete data changed
    have absent := sound.unfinished running incomplete data changed
    simpa [State.record, State.goTo, (other data changed).symm] using absent
  armed := fun deadline => .inr ((plain s.log).trans ((sound.armed deadline).resolve_left undecided))
  claims := nofun
  received := received_recorded s event sound
  writes := nofun
  unwritten := nofun

theorem sound_returns (code : Int) (sound : s.Sound) (undecided : s.pc ≠ .decide true) : (s.returns code).Sound :=
  sound_ends s (.returns code) (fun _ => rfl) nofun nofun sound undecided

theorem sound_wrote (data : List UInt8) (whole : Bool) (sound : s.Sound) (undecided : s.pc ≠ .decide true) :
    ((s.record (.wrote data whole)).returns 0).Sound := by
  have wrote := sound_ends s (.wrote data whole) (fun _ => rfl) nofun nofun sound undecided
  have returned := sound_returns _ 0 wrote nofun
  exact returned

-- A poll that sees no capture in progress leaves the deadline standing.
theorem sound_polled (stage : RdpCaptureFeatureStage) (next : Pc) (sound : s.Sound) (at_ : s.pc = .poll)
    (promises : next = .checkLoop ∨ next = .decide (captureInProgress stage))
    (idle : next = .checkLoop → captureInProgress stage = false) : ((s.record (.polled stage)).goTo next).Sound where
  claimed := by simp [State.record, State.goTo, sound.claimed]
  past := fun timedOut => nomatch (still_running s sound (by rw [at_]; rfl)).symm.trans timedOut
  unfinished := by
    intro running incomplete data changed
    simpa [State.record, State.goTo] using sound.unfinished running incomplete data changed
  armed := by
    intro deadline
    have quiet := (sound.armed deadline).resolve_left (by rw [at_]; nofun)
    cases inProgress : captureInProgress stage with
    | false => exact .inr (by simp [State.record, State.goTo, quietSinceArmed, inProgress, quiet])
    | true =>
        obtain rfl | rfl := promises
        · exact nomatch inProgress.symm.trans (idle rfl)
        · exact .inl (congrArg Pc.decide inProgress)
  claims := by obtain rfl | rfl := promises <;> nofun
  received := received_recorded s (.polled stage) sound
  writes := by obtain rfl | rfl := promises <;> nofun
  unwritten := by
    intro _ data whole
    simpa [State.record, State.goTo] using sound.unwritten (by rw [at_]; rfl) data whole

theorem sound_decides (deadline : Option Nat) (sound : s.Sound) (b : Bool) (at_ : s.pc = .decide b)
    (quiet : deadline.isSome = true → quietSinceArmed s.log = true) :
    State.Sound ({ s with failureDeadline := deadline }.goTo .checkLoop) where
  claimed := sound.claimed
  past := fun timedOut => nomatch (still_running s sound (by rw [at_]; rfl)).symm.trans timedOut
  unfinished := sound.unfinished
  armed := fun deadline => .inr (quiet deadline)
  claims := nofun
  received := sound.received
  writes := nofun
  unwritten := fun _ => sound.unwritten (by rw [at_]; rfl)

theorem sound_armed (sound : s.Sound) (b : Bool) (at_ : s.pc = .decide b) (now : Nat) :
    State.Sound (({ s with failureDeadline := some now }.record .armed).goTo .checkLoop) := by
  have quiet := sound_decides s none sound b at_ nofun
  exact {
    claimed := by simp [State.record, State.goTo, sound.claimed]
    past := quiet.past
    unfinished := by
      intro running incomplete data changed
      simpa [State.record, State.goTo] using sound.unfinished running incomplete data changed
    armed := fun _ => .inr rfl
    claims := nofun
    received := received_recorded s .armed sound
    writes := nofun
    unwritten := by
      intro running data whole
      simpa [State.record, State.goTo] using quiet.unwritten running data whole }

theorem sound_claimed (sound : s.Sound) (at_ : s.pc = .claim) :
    State.Sound (({ s with cli := { s.cli with autoCaptureTimedOut := true } }.record .claimed).returns 1) where
  claimed := by simp [State.returns, State.record, State.goTo]
  past := fun _ => rfl
  unfinished := nofun
  armed := fun _ => .inr (sound.claims at_)
  claims := nofun
  received := by
    intro some
    obtain ⟨changed, member⟩ := received_recorded s .claimed sound some
    exact ⟨changed, List.mem_cons_of_mem _ member⟩
  writes := nofun
  unwritten := nofun

theorem sound_poll (answer : Answer) (sound : s.Sound) (at_ : s.pc = .poll) (taken : s.run mode answer = some t) :
    t.Sound := by
  simp only [State.run, at_] at taken
  split at taken
  · rename_i unsupported
    cases taken
    exact sound_polled s answer.stage _ sound at_ (.inl rfl) fun _ => by rw [unsupported]; rfl
  · split at taken
    · rename_i negative
      cases taken
      have polled := sound_polled s answer.stage .checkLoop sound at_ (.inl rfl) fun _ =>
        negative_idle answer.stage negative
      have returned := sound_returns _ 1 polled nofun
      exact returned
    · cases taken
      exact sound_polled s answer.stage _ sound at_ (.inr rfl) nofun

theorem sound_decide (answer : Answer) (b : Bool) (sound : s.Sound) (at_ : s.pc = .decide b)
    (taken : s.run mode answer = some t) : t.Sound := by
  simp only [State.run, at_] at taken
  split at taken
  · rename_i failing
    simp only [Bool.and_eq_true, Bool.not_eq_true'] at failing
    obtain ⟨_, rfl⟩ := failing
    have quiet (deadline : s.failureDeadline.isSome = true) : quietSinceArmed s.log = true :=
      (sound.armed deadline).resolve_left (by rw [at_]; nofun)
    split at taken
    · cases taken
      exact sound_armed s sound false at_ _
    · rename_i deadline armed
      cases taken
      split
      · exact sound_go_to s _ .claim sound at_ nofun nofun (fun _ => quiet (by rw [armed]; rfl)) nofun
      · exact sound_go_to s _ .checkLoop sound at_ nofun nofun nofun nofun
  · cases taken
    exact sound_decides s none sound b at_ nofun

theorem sound_run (answer : Answer) (sound : s.Sound) (taken : s.run mode answer = some t) : t.Sound := by
  cases pc : s.pc with
  | poll => exact sound_poll mode s t answer sound pc taken
  | decide captureInProgress => exact sound_decide mode s t answer captureInProgress sound pc taken
  | checkLoop =>
      simp only [State.run, pc] at taken
      cases taken
      split
      · exact sound_go_to s _ _ sound pc nofun nofun nofun nofun
      · exact sound_go_to s _ _ sound pc nofun nofun nofun nofun
  | claim =>
      simp only [State.run, pc] at taken
      split at taken
      · cases taken
        exact sound_claimed s sound pc
      · cases taken
        exact sound_go_to s _ _ sound pc nofun nofun nofun nofun
  | checkInterrupted =>
      simp only [State.run, pc] at taken
      cases taken
      split
      · exact sound_returns s 1 sound (by rw [pc]; nofun)
      · exact sound_go_to s _ _ sound pc nofun nofun nofun nofun
  | save =>
      simp only [State.run, pc] at taken
      cases taken
      split
      · rename_i trace
        have some : s.cli.traceData ≠ [] := by
          intro empty
          simp [CaptureCli.hasTrace, empty] at trace
        split
        · exact sound_go_to s _ _ sound pc nofun nofun nofun fun _ => some
        · exact sound_go_to s _ _ sound pc nofun nofun nofun fun _ => some
      · exact sound_go_to s _ _ sound pc nofun nofun nofun nofun
  | validate =>
      simp only [State.run, pc] at taken
      cases taken
      split
      · exact sound_returns s 1 sound (by rw [pc]; nofun)
      · exact sound_go_to s _ _ sound pc nofun nofun nofun fun _ => sound.writes (.inl pc)
  | write =>
      simp only [State.run, pc] at taken
      cases taken
      split
      · exact sound_wrote s _ _ sound (by rw [pc]; nofun)
      · exact sound_returns s 1 sound (by rw [pc]; nofun)
  | elseIf =>
      simp only [State.run, pc] at taken
      cases taken
      exact sound_returns s _ sound (by rw [pc]; nofun)
  | cleanup =>
      simp only [State.run, pc] at taken
      cases taken
      exact sound_go_to s _ _ sound pc (fun _ => rfl) nofun nofun nofun
  | returned =>
      simp only [State.run, pc] at taken
      cases taken

-- A stage change touches the failure latch alone, an interrupt only sets its two flags.
theorem sound_cli (cli : CaptureCli) (sound : s.Sound) (timedOut : cli.autoCaptureTimedOut = s.cli.autoCaptureTimedOut)
    (complete : cli.captureComplete = false → s.cli.captureComplete = false) (data : cli.traceData = s.cli.traceData) :
    State.Sound { s with cli := cli } := by
  obtain ⟨claimed, past, unfinished, armed, claims, received, writes, unwritten⟩ := sound
  refine ⟨timedOut ▸ claimed, timedOut ▸ past, ?_, armed, claims, ?_, ?_, unwritten⟩
  · exact fun running incomplete => unfinished (timedOut ▸ running) (complete incomplete)
  · simpa only [data] using received
  · simpa only [data] using writes

theorem sound_next (a : Action) (sound : s.Sound) (taken : s.next mode a = some t) : t.Sound := by
  cases a with
  | run answer => exact sound_run mode s t answer sound taken
  | traceFinished result data => exact sound_finished mode s t result data sound taken
  | statusChanged newStage =>
      cases taken
      apply sound_cli s _ sound
      · grind [CaptureCli.statusChanged]
      · grind [CaptureCli.statusChanged]
      · grind [CaptureCli.statusChanged]
  | interrupt =>
      cases taken
      exact sound_cli s _ sound rfl nofun rfl

theorem go_to_decides (pc : Pc) : (s.goTo pc).decidesOneOutcome ↔ s.decidesOneOutcome := Iff.rfl

theorem failure_decides : (s.returns 1).decidesOneOutcome ↔ s.decidesOneOutcome :=
  ⟨fun decides => decides.2, fun decides => ⟨nofun, decides⟩⟩

theorem write_decides (answer : Answer) (sound : s.Sound) (decides : s.decidesOneOutcome) (pc : s.pc = .write) :
    (if answer.opens then (s.record (.wrote s.cli.traceData answer.whole)).returns 0 else s.returns 1).decidesOneOutcome ↔
      (answer.opens = true → answer.whole = true) := by
  cases opens : answer.opens with
  | false => simpa [failure_decides] using decides
  | true =>
      have unwritten := sound.unwritten (by rw [pc]; rfl)
      obtain ⟨changed, received⟩ := sound.received (sound.writes (.inr pc))
      constructor
      · rintro ⟨saved, _⟩ _
        obtain ⟨data, wrote, _⟩ := saved rfl
        obtain here | earlier := List.mem_cons.mp wrote
        · exact (Event.wrote.inj here).2.symm
        · exact absurd earlier (unwritten data true)
      · intro whole
        have stored := whole rfl
        refine ⟨fun _ => ⟨s.cli.traceData, ?_, changed, List.mem_cons_of_mem _ received⟩, trivial, decides⟩
        rw [stored]
        exact List.mem_cons_self

-- Nothing has been written where there was nothing to save.
theorem unsaved_decides (sound : s.Sound) (decides : s.decidesOneOutcome) (pc : s.pc = .elseIf) :
    (s.returns (if !s.cli.captureSuccess then 1 else 0)).decidesOneOutcome ↔ s.cli.captureSuccess = false := by
  cases success : s.cli.captureSuccess with
  | false => simpa [failure_decides] using decides
  | true =>
      have unwritten := sound.unwritten (by rw [pc]; rfl)
      simp only [Bool.true_eq_false, iff_false]
      rintro ⟨saved, _⟩
      obtain ⟨data, wrote, _⟩ := saved rfl
      exact unwritten data true wrote

theorem decides_run (answer : Answer) (sound : s.Sound) (decides : s.decidesOneOutcome)
    (taken : s.run mode answer = some t) : t.decidesOneOutcome ↔ s.isSaved (.run answer) := by
  cases pc : s.pc with
  | checkLoop | save | cleanup =>
      simp only [State.run, pc] at taken
      cases taken
      simpa only [State.isSaved, pc, iff_true, go_to_decides] using decides
  | poll =>
      simp only [State.run, pc] at taken
      have kept : t.decidesOneOutcome := by
        split at taken
        · cases taken
          exact ⟨trivial, decides⟩
        · split at taken
          · cases taken
            exact ⟨nofun, trivial, decides⟩
          · cases taken
            exact ⟨trivial, decides⟩
      simpa only [State.isSaved, pc, iff_true] using kept
  | decide captureInProgress =>
      simp only [State.run, pc] at taken
      have kept : t.decidesOneOutcome := by
        split at taken
        · split at taken
          · cases taken
            exact ⟨trivial, decides⟩
          · cases taken
            exact decides
        · cases taken
          exact decides
      simpa only [State.isSaved, pc, iff_true] using kept
  | claim =>
      simp only [State.run, pc] at taken
      have running := still_running s sound (by rw [pc]; rfl)
      have kept : t.decidesOneOutcome := by
        split at taken
        · rename_i incomplete
          cases taken
          exact ⟨nofun, ⟨sound.unfinished running (by simpa using incomplete), sound.claims pc⟩, decides⟩
        · cases taken
          exact decides
      simpa only [State.isSaved, pc, iff_true] using kept
  | checkInterrupted | validate =>
      simp only [State.run, pc] at taken
      cases taken
      simp only [State.isSaved, pc, iff_true]
      split
      · exact (failure_decides s).mpr decides
      · exact decides
  | write =>
      simp only [State.run, pc] at taken
      cases taken
      simp only [State.isSaved, pc]
      exact write_decides s answer sound decides pc
  | elseIf =>
      simp only [State.run, pc] at taken
      cases taken
      simp only [State.isSaved, pc]
      exact unsaved_decides s sound decides pc
  | returned =>
      simp only [State.run, pc] at taken
      cases taken

theorem decides_iff (a : Action) (sound : s.Sound) (decides : s.decidesOneOutcome) (taken : s.next mode a = some t) :
    t.decidesOneOutcome ↔ s.isSaved a := by
  cases a with
  | run answer => exact decides_run mode s t answer sound decides taken
  | traceFinished result data =>
      cases taken
      have ignored : .claimed ∈ s.log → (decide (s.cli.traceFinished true result data ≠ s.cli)) = false := by
        intro claimed
        simp [finished_ignored s.cli result data (sound.claimed.mp claimed)]
      exact ⟨fun _ => trivial, fun _ => ⟨ignored, decides⟩⟩
  | statusChanged newStage | interrupt =>
      cases taken
      exact ⟨fun _ => trivial, fun _ => decides⟩

end Step

theorem auto_capture_decides_once (mode : CaptureMode) (actions : List Action) :
    Meets (autoCapture mode) State.isSaved (autoCapture mode).init actions ↔
      Always (autoCapture mode) State.decidesOneOutcome (autoCapture mode).init actions := by
  apply keeps_iff_always (autoCapture mode) State.isSaved State.decidesOneOutcome trivial
  intro s a t reach decides taken
  have sound : s.Sound := by
    apply reachable_invariant (autoCapture mode) State.Sound _ (fun s a t sound next => sound_next mode s t a sound next) s reach
    exact ⟨by simp [autoCapture, CaptureCli.created], nofun, nofun, nofun, nofun, nofun, nofun, nofun⟩
  exact decides_iff mode s t a sound decides taken

def polling (stage : RdpCaptureFeatureStage) : Action := .run ⟨stage, 0, false, true, true⟩

-- A success without data ends the wait, and nothing is written.
theorem empty_success_returns_zero :
    ¬ ∀ (mode : CaptureMode) (s : State), Reachable (autoCapture mode) s → s.decidesOneOutcome := by
  intro decides
  obtain ⟨s, reach, found⟩ := exec_finds (autoCapture .profiling)
    (.traceFinished .success [] :: List.replicate 4 (polling .done))
    (fun s => s.log = [.returns 0, .finished .success [] true]) (by decide)
  have log : s.log = [.returns 0, .finished .success [] true] := by simpa using found
  have sound := decides .profiling s reach
  rw [State.decidesOneOutcome, log] at sound
  obtain ⟨data, wrote, _⟩ := sound.1 rfl
  simp at wrote

end RadeonPanel.Cli.AutoCapture

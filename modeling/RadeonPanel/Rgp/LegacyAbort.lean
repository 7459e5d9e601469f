import RadeonPanel.Rgp.LegacyTimer

set_option autoImplicit false

namespace RadeonPanel.Rgp.Legacy

open Interleaving RadeonPanel.Ubertrace

-- What callers and the listener see of the captures, newest first: RequestBeginTrace
-- has started one, a RequestAbortTrace has returned, the driver's call has
-- returned, the completion is reported.
inductive Moment where
  | requested
  | abortReturned
  | traceEnded (succeeded : Bool)
  | reported (status : TraceCompletionStatus)
deriving DecidableEq, Repr

structure Watched where
  state : State
  moments : List Moment

-- An abort that finds the client waiting has its state to set before it returns.
def State.abortReturns (s : State) (who : Who) : Bool :=
  match s.pcs who with
  | .checkWaiting => s.client.state ≠ .waitingToBeginCapture
  | .setIdle => true
  | _ => false

-- `t` is the state after the thread's step.
def State.moment (s t : State) (who : Who) (answer : Answer) : Option Moment :=
  match s.pcs who with
  | .startCapture _ _ => some .requested
  | .tracing _ _ => some (.traceEnded answer.succeeded)
  | .finalizeTrace _ _ _ _ =>
      match t.client.log with
      | .traceCompleted status :: _ => some (.reported status)
      | _ => none
  | _ => if s.abortReturns who then some .abortReturned else none

def Watched.next (api : Api) (w : Watched) (a : Action) : Option Watched :=
  (w.state.next api a).map fun t =>
    match a with
    | .run who answer => ⟨t, (w.state.moment t who answer).toList ++ w.moments⟩
    | _ => ⟨t, w.moments⟩

def watchedClient (api : Api) (gpuSupported : Bool) : Machine Watched Action :=
  ⟨⟨(legacyClient api gpuSupported).init, []⟩, Watched.next api⟩

-- Where the newest capture stands.
inductive Stage where
  | settled
  | requested
  | ended (succeeded : Bool)
deriving DecidableEq, Repr

def stage : List Moment → Stage
  | [] => .settled
  | .abortReturned :: older => stage older
  | .requested :: _ => .requested
  | .traceEnded succeeded :: _ => .ended succeeded
  | .reported _ :: _ => .settled

-- An abort returned after the newest capture was requested and before its trace ended.
def abortedInTime : List Moment → Bool
  | [] | .requested :: _ => false
  | .abortReturned :: older => stage older = .requested || abortedInTime older
  | .traceEnded _ :: older | .reported _ :: older => abortedInTime older

def abortKept : Moment → List Moment → Prop
  | .requested, older => stage older = .settled
  | .abortReturned, _ => True
  | .traceEnded _, older => stage older = .requested
  | .reported status, older =>
      stage older = .ended true ∨ stage older = .ended false ∧ (abortedInTime older = true → status = .aborted)

-- One report for each capture, and the capture's thread needs nobody else to get to it.
structure Watched.AbortsReported (api : Api) (gpuSupported : Bool) (w : Watched) : Prop where
  each : AtEach abortKept w.moments
  owed : stage w.moments ≠ .settled → ∃ n, ∀ answers : List Answer, answers.length = n →
    ∃ t status, exec (watchedClient api gpuSupported) w (answers.map (.run .capture)) = some t ∧
      t.moments.head? = some (.reported status)

def clearsAborted : Pc → Bool
  | .executeTrace _ _ => true
  | _ => false

def runsTrace : Pc → Bool
  | .tracing _ _ => true
  | _ => false

-- The thread of a capture clears `aborted_` when no abort has returned since
-- the request, and an abort that returns during the trace finds its flag still set.
def Watched.keepsAborts (w : Watched) : Action → Bool
  | .run who _ =>
      (!clearsAborted (w.state.pcs who) || !abortedInTime w.moments) &&
        (!runsTrace (w.state.pcs .capture) || !w.state.abortReturns who || w.state.client.aborted)
  | _ => true

def isCapture : Pc → Bool
  | .executeTrace _ _ | .tracing _ _ | .finalizeTrace _ _ _ _ | .finalState _ => true
  | _ => false

-- What the history and the flag say while the capture's thread stands at a point.
def Watched.Stands (w : Watched) : Pc → Prop
  | .executeTrace _ _ => stage w.moments = .requested
  | .tracing _ _ => stage w.moments = .requested ∧ (abortedInTime w.moments = true → w.state.client.aborted = true)
  | .finalizeTrace _ _ succeeded _ =>
      stage w.moments = .ended succeeded ∧ (abortedInTime w.moments = true → w.state.client.aborted = true)
  | .finalState _ | .outside => stage w.moments = .settled
  | _ => False

structure Watched.Sound (w : Watched) : Prop where
  each : AtEach abortKept w.moments
  stands : w.Stands (w.state.pcs .capture)
  joinable : w.state.pcs .capture ≠ .outside → w.state.client.captureJoinable = true
  own : ∀ who, isCapture (w.state.pcs who) = true → who = .capture

section Run
variable (api : Api) (answer : Answer) (c d : Client) (pc next : Pc)

theorem run_aborted (run : c.run api answer pc = some (d, next)) :
    d.aborted = c.aborted ∨ d.aborted = true ∨ ∃ isAuto spm, pc = .executeTrace isAuto spm := by
  cases pc <;> simp only [Client.run] at run <;> grind [Client.setState, Client.record]

theorem run_joinable (run : c.run api answer pc = some (d, next)) :
    d.captureJoinable = c.captureJoinable ∨ d.captureJoinable = true ∨ ∃ isAuto, pc = .joinCapture isAuto := by
  cases pc <;> simp only [Client.run] at run <;> grind [Client.setState, Client.record]

theorem run_capture (run : c.run api answer pc = some (d, next)) (here : isCapture next = true) : isCapture pc = true := by
  cases pc <;> simp only [Client.run] at run <;> grind [refused, unsuited, autoCapture, isCapture]

theorem starts_capture (thread : Who) (start : Pc) (started : starts pc = some (thread, start)) :
    (thread = .timer ∧ start = .timerWaits) ∨
      ∃ isAuto spm, thread = .capture ∧ start = .executeTrace isAuto spm ∧ pc = .startCapture isAuto spm := by
  cases pc <;> simp only [starts] at started <;> grind

theorem finalize_reports (isAuto spm succeeded chunksWritten : Bool)
    (run : c.run api answer (.finalizeTrace isAuto spm succeeded chunksWritten) = some (d, next)) :
    ∃ status, d.log = .traceCompleted status :: c.log ∧ next = .finalState isAuto ∧
      d.captureJoinable = c.captureJoinable ∧ (succeeded = false → c.aborted = true → status = .aborted) := by
  rw [Client.run] at run
  split at run
  · rename_i delivered
    cases run
    refine ⟨_, rfl, rfl, rfl, fun failed => ?_⟩
    simp [failed] at delivered
  · cases run
    exact ⟨_, rfl, rfl, rfl, fun failed flagged => by simp [traceStatus, failed, flagged]⟩

end Run

section Step
variable (api : Api) (s t : State) (w : Watched) (who : Who) (answer : Answer)

theorem run_waits (isAuto : Bool) (joining : s.pcs who = .joinCapture isAuto)
    (taken : s.runThread api who answer = some t) : s.pcs .capture = .outside := by
  rw [State.runThread] at taken
  split at taken
  · rename_i finished
    exact finished .capture (by simp [joining, waitsFor])
  · cases taken

theorem run_starts (isAuto spm : Bool) (starting : s.pcs who = .startCapture isAuto spm)
    (taken : s.runThread api who answer = some t) :
    s.client.captureJoinable = false ∧ t.client.captureJoinable = true ∧
      t.pcs .capture = .executeTrace isAuto spm := by
  simp only [State.runThread, starting, waitsFor, Client.run, starts] at taken
  cases joinable : s.client.captureJoinable with
  | true => simp [joinable] at taken
  | false =>
      simp only [joinable] at taken
      cases taken
      simp [State.jump]

theorem run_alone (pc : Pc) (here : s.pcs who = pc) (unstarted : starts pc = none)
    (taken : s.runThread api who answer = some t) : s.client.run api answer pc = some (t.client, t.pcs who) := by
  subst here
  rw [State.runThread] at taken
  split at taken
  · obtain ⟨⟨d, next⟩, run, moved⟩ := Option.map_eq_some_iff.mp taken
    simp only [unstarted] at moved
    subst moved
    simpa using run
  · cases taken

-- A step of another thread leaves the capture's where it stands, unless it starts it.
theorem run_elsewhere (apart : who ≠ .capture) (quiet : ∀ isAuto spm, s.pcs who ≠ .startCapture isAuto spm)
    (taken : s.runThread api who answer = some t) : t.pcs .capture = s.pcs .capture := by
  obtain ⟨next, _, moved⟩ := run_thread_moves api s t who answer taken
  obtain same | ⟨here, _⟩ | started := moved .capture
  · exact same
  · exact absurd here.symm apart
  · obtain ⟨other, _⟩ | ⟨isAuto, spm, _, _, starting⟩ := starts_capture (s.pcs who) _ _ started
    · cases other
    · exact absurd starting (quiet isAuto spm)

theorem run_own (own : ∀ other, isCapture (s.pcs other) = true → other = .capture)
    (taken : s.runThread api who answer = some t) (other : Who) (here : isCapture (t.pcs other) = true) :
    other = .capture := by
  obtain ⟨next, run, moved⟩ := run_thread_moves api s t who answer taken
  obtain same | ⟨rfl, same⟩ | started := moved other
  · exact own other (same ▸ here)
  · exact own other (run_capture api answer s.client t.client _ next run (same ▸ here))
  · obtain ⟨_, waits⟩ | ⟨_, _, capture, _⟩ := starts_capture (s.pcs who) _ _ started
    · rw [waits] at here
      cases here
    · exact capture

theorem moment_elsewhere (quiet : ∀ isAuto spm, s.pcs who ≠ .startCapture isAuto spm)
    (other : isCapture (s.pcs who) = false) :
    s.moment t who answer = if s.abortReturns who then some .abortReturned else none := by
  unfold State.moment
  split
  · rename_i starting
    exact absurd starting (quiet _ _)
  · rename_i tracing
    rw [tracing] at other
    cases other
  · rename_i finalizing
    rw [finalizing] at other
    cases other
  · rfl

-- What the actions outside the client's threads leave alone.
structure Quiet (s t : State) : Prop where
  capture : t.pcs .capture = s.pcs .capture
  aborted : t.client.aborted = s.client.aborted
  joinable : t.client.captureJoinable = s.client.captureJoinable ∨ s.pcs .capture = .outside
  own : ∀ who, isCapture (t.pcs who) = true → isCapture (s.pcs who) = true

theorem quiet_client (c : Client) (aborted : c.aborted = s.client.aborted)
    (joinable : c.captureJoinable = s.client.captureJoinable ∨ s.pcs .capture = .outside) :
    Quiet s { s with client := c } := ⟨rfl, aborted, joinable, fun _ here => here⟩

theorem quiet_jump (pc : Pc) (apart : who ≠ .capture) (other : isCapture pc = false) : Quiet s (s.jump who pc) := by
  refine ⟨Function.update_of_ne (Ne.symm apart) _ _, rfl, .inl rfl, fun thread here => ?_⟩
  have place : (s.jump who pc).pcs thread = if thread = who then pc else s.pcs thread :=
    Function.update_apply s.pcs who pc thread
  rw [place] at here
  split at here
  · rw [other] at here
    cases here
  · exact here

theorem quiet_disconnect (taken : s.disconnect = some t) : Quiet s t := by
  rw [State.disconnect] at taken
  split at taken
  · cases phase : s.client.phase with
    | created | failed | disconnected =>
        simp only [phase] at taken
        cases taken
    | bound | joined =>
        simp only [phase] at taken
        cases taken
        exact quiet_client s _ rfl (.inl rfl)
    | stoppingPolling =>
        simp only [phase] at taken
        split at taken
        · cases taken
          exact quiet_client s _ rfl (.inl rfl)
        · cases taken
    | aborting =>
        simp only [phase] at taken
        split at taken
        · cases taken
        · cases taken
          exact quiet_client s _ rfl (.inl rfl)
    | joining =>
        simp only [phase] at taken
        split at taken
        · rename_i finished
          cases taken
          exact quiet_client s _ rfl (.inr finished)
        · cases taken
  · cases taken

theorem next_quiet (a : Action) (apart : ∀ who answer, a ≠ .run who answer) (taken : s.next api a = some t) :
    Quiet s t := by
  cases a with
  | run who answer => exact absurd rfl (apart who answer)
  | disconnect => exact quiet_disconnect s t taken
  | initializeClient accepted =>
      rw [State.next] at taken
      split at taken
      · cases taken
        cases accepted with
        | true => exact quiet_client s _ rfl (.inl rfl)
        | false => exact quiet_client s _ rfl (.inl rfl)
      · cases taken
  | handleDriverState state mode =>
      rw [State.next] at taken
      split at taken
      · cases taken
        split
        · exact quiet_jump s .driver _ (by simp) rfl
        · exact quiet_client s s.client rfl (.inl rfl)
      · cases taken
  | call id call =>
      rw [State.next] at taken
      split at taken
      · cases taken
        have other : isCapture (call.entry api) = false := by cases call <;> rfl
        exact quiet_jump s (.caller id) _ (by simp) other
      · cases taken
  | onBeginTrace | onWritingStatus =>
      rw [State.next, State.duringTrace] at taken
      split at taken
      · cases taken
        exact quiet_client s _ rfl (.inl rfl)
      · cases taken
  | onActiveGpuUpdate supported =>
      rw [State.next] at taken
      split at taken
      · cases taken
        obtain ⟨capture, _, _, own⟩ := quiet_jump s .poller .checkGpu (by simp) rfl
        exact ⟨capture, rfl, .inl rfl, own⟩
      · cases taken
  | destroy =>
      rw [State.next] at taken
      split at taken
      · cases taken
        exact quiet_client s _ rfl (.inl rfl)
      · cases taken

end Step

-- An abort's return counts for the capture that has not ended yet.
theorem stands_aborted (w : Watched) (pc : Pc) (stands : w.Stands pc)
    (flagged : ∀ isAuto spm, pc = .tracing isAuto spm → w.state.client.aborted = true) :
    Watched.Stands { w with moments := .abortReturned :: w.moments } pc := by
  cases pc with
  | tracing isAuto spm => exact ⟨stands.1, fun _ => flagged isAuto spm rfl⟩
  | finalizeTrace isAuto spm succeeded chunksWritten =>
      obtain ⟨ended, kept⟩ := stands
      refine ⟨ended, fun inTime => kept ?_⟩
      simpa [abortedInTime, ended] using inTime
  | executeTrace | finalState | outside => exact stands
  | _ => cases stands

theorem stands_state (w : Watched) (pc : Pc) (t : State) (stands : w.Stands pc)
    (kept : w.state.client.aborted = true → t.client.aborted = true) : Watched.Stands { w with state := t } pc := by
  cases pc with
  | tracing isAuto spm => exact ⟨stands.1, fun inTime => kept (stands.2 inTime)⟩
  | finalizeTrace isAuto spm succeeded chunksWritten => exact ⟨stands.1, fun inTime => kept (stands.2 inTime)⟩
  | executeTrace | finalState | outside => exact stands
  | _ => cases stands

theorem sound_quiet (w : Watched) (t : State) (sound : w.Sound) (quiet : Quiet w.state t) :
    Watched.Sound ⟨t, w.moments⟩ := by
  refine ⟨sound.each, ?_, fun running => ?_, fun who here => sound.own who (quiet.own who here)⟩
  · rw [quiet.capture]
    exact stands_state w _ t sound.stands fun held => quiet.aborted.trans held
  · rw [quiet.capture] at running
    obtain same | ended := quiet.joinable
    · exact same.trans (sound.joinable running)
    · exact absurd ended running

section Sound
variable (api : Api) (w : Watched) (t : State) (who : Who) (answer : Answer)

theorem sound_requested (isAuto spm : Bool) (starting : w.state.pcs who = .startCapture isAuto spm) (sound : w.Sound)
    (taken : w.state.runThread api who answer = some t) : Watched.Sound ⟨t, .requested :: w.moments⟩ := by
  obtain ⟨free, joinable, begun⟩ := run_starts api w.state t who answer isAuto spm starting taken
  -- a thread that is not joinable has ended
  have ended : w.state.pcs .capture = .outside := by
    by_contra running
    have held := sound.joinable running
    rw [free] at held
    cases held
  have settled : stage w.moments = .settled := by
    have stands := sound.stands
    rw [ended] at stands
    exact stands
  refine ⟨⟨settled, sound.each⟩, ?_, fun _ => joinable, run_own api w.state t who answer sound.own taken⟩
  rw [begun]
  rfl

theorem sound_elsewhere (apart : who ≠ .capture) (quiet : ∀ isAuto spm, w.state.pcs who ≠ .startCapture isAuto spm)
    (sound : w.Sound) (kept : w.keepsAborts (.run who answer) = true)
    (taken : w.state.runThread api who answer = some t) :
    Watched.Sound ⟨t, (w.state.moment t who answer).toList ++ w.moments⟩ := by
  have other : isCapture (w.state.pcs who) = false := by
    by_contra capture
    exact apart (sound.own who (by simpa using capture))
  have untracing (isAuto spm : Bool) : w.state.pcs who ≠ .executeTrace isAuto spm := by
    intro tracing
    rw [tracing] at other
    cases other
  have same := run_elsewhere api w.state t who answer apart quiet taken
  obtain ⟨next, run, _⟩ := run_thread_moves api w.state t who answer taken
  have flag : w.state.client.aborted = true → t.client.aborted = true := by
    obtain unchanged | set | ⟨isAuto, spm, tracing⟩ := run_aborted api answer w.state.client t.client _ next run
    · exact fun held => unchanged.trans held
    · exact fun _ => set
    · exact absurd tracing (untracing isAuto spm)
  have joinable : t.pcs .capture ≠ .outside → t.client.captureJoinable = true := by
    intro running
    rw [same] at running
    obtain unchanged | set | ⟨isAuto, joining⟩ := run_joinable api answer w.state.client t.client _ next run
    · exact unchanged.trans (sound.joinable running)
    · exact set
    · exact absurd (run_waits api w.state t who answer isAuto joining taken) running
  have own := run_own api w.state t who answer sound.own taken
  have stands : Watched.Stands { w with state := t } (t.pcs .capture) := by
    rw [same]
    exact stands_state w _ t sound.stands flag
  rw [moment_elsewhere w.state t who answer quiet other]
  cases returns : w.state.abortReturns who with
  | false => exact ⟨sound.each, stands, joinable, own⟩
  | true =>
      refine ⟨⟨trivial, sound.each⟩, stands_aborted { w with state := t } _ stands ?_, joinable, own⟩
      intro isAuto spm tracing
      apply flag
      rw [same] at tracing
      simp only [Watched.keepsAborts, Bool.and_eq_true] at kept
      simpa [tracing, runsTrace, returns] using kept.2

-- The four steps of the capture's own thread.
theorem sound_capture (sound : w.Sound) (kept : w.keepsAborts (.run .capture answer) = true)
    (taken : w.state.runThread api .capture answer = some t) :
    Watched.Sound ⟨t, (w.state.moment t .capture answer).toList ++ w.moments⟩ := by
  have own := run_own api w.state t .capture answer sound.own taken
  have stands := sound.stands
  have joinable := sound.joinable
  cases pc : w.state.pcs .capture with
  | executeTrace isAuto spm =>
      have clear : abortedInTime w.moments = false := by
        simp only [Watched.keepsAborts, Bool.and_eq_true] at kept
        simpa [pc, clearsAborted] using kept.1
      have run := run_alone api w.state t .capture answer _ pc rfl taken
      simp only [Client.run, Option.some.injEq, Prod.mk.injEq] at run
      obtain ⟨client, next⟩ := run
      rw [pc] at stands joinable
      have held := joinable (by simp)
      have unseen : w.state.moment t .capture answer = none := by simp [State.moment, pc, State.abortReturns]
      rw [unseen]
      refine ⟨sound.each, ?_, fun _ => by simp [← client, Client.record, held], own⟩
      rw [← next]
      exact ⟨stands, fun inTime => absurd inTime (by simp [clear])⟩
  | tracing isAuto spm =>
      have run := run_alone api w.state t .capture answer _ pc rfl taken
      simp only [Client.run, Option.some.injEq, Prod.mk.injEq] at run
      obtain ⟨client, next⟩ := run
      rw [pc] at stands joinable
      have held := joinable (by simp)
      have ends : w.state.moment t .capture answer = some (.traceEnded answer.succeeded) := by simp [State.moment, pc]
      rw [ends]
      refine ⟨⟨stands.1, sound.each⟩, ?_, fun _ => by simp [← client, Client.record, held], own⟩
      rw [← next]
      exact ⟨rfl, fun inTime => by simp [← client, Client.record, stands.2 inTime]⟩
  | finalizeTrace isAuto spm succeeded chunksWritten =>
      have run := run_alone api w.state t .capture answer _ pc rfl taken
      rw [pc] at stands joinable
      have held := joinable (by simp)
      obtain ⟨status, reports, next, joins, aborts⟩ := finalize_reports api answer w.state.client t.client _ isAuto spm succeeded chunksWritten run
      have reported : w.state.moment t .capture answer = some (.reported status) := by simp [State.moment, pc, reports]
      rw [reported]
      refine ⟨⟨?_, sound.each⟩, ?_, fun _ => joins.trans held, own⟩
      · cases succeeded with
        | true => exact .inl stands.1
        | false => exact .inr ⟨stands.1, fun inTime => aborts rfl (stands.2 inTime)⟩
      · rw [next]
        rfl
  | finalState isAuto =>
      have run := run_alone api w.state t .capture answer _ pc rfl taken
      simp only [Client.run, Option.some.injEq, Prod.mk.injEq] at run
      obtain ⟨client, next⟩ := run
      have unseen : w.state.moment t .capture answer = none := by simp [State.moment, pc, State.abortReturns]
      rw [pc] at stands
      rw [unseen]
      refine ⟨sound.each, ?_, fun running => absurd next.symm running, own⟩
      rw [← next]
      exact stands
  | outside =>
      have run := run_alone api w.state t .capture answer _ pc rfl taken
      cases run
  | _ =>
      rw [pc] at stands
      cases stands

theorem sound_next (a : Action) (v : Watched) (sound : w.Sound) (kept : w.keepsAborts a = true)
    (taken : w.next api a = some v) : v.Sound := by
  obtain ⟨t, moved, rfl⟩ := Option.map_eq_some_iff.mp taken
  cases a with
  | run who answer =>
      by_cases capture : who = .capture
      · subst capture
        exact sound_capture api w t answer sound kept moved
      · by_cases starting : ∃ isAuto spm, w.state.pcs who = .startCapture isAuto spm
        · obtain ⟨isAuto, spm, starting⟩ := starting
          have starts : w.state.moment t who answer = some .requested := by simp [State.moment, starting]
          simp only [starts]
          exact sound_requested api w t who answer isAuto spm starting sound moved
        · have quiet (isAuto spm : Bool) : w.state.pcs who ≠ .startCapture isAuto spm :=
            fun here => starting ⟨isAuto, spm, here⟩
          exact sound_elsewhere api w t who answer capture quiet sound kept moved
  | _ => exact sound_quiet w t sound (next_quiet api w.state t _ (by simp) moved)

end Sound

section Settles
variable (api : Api) (gpuSupported : Bool) (w : Watched) (answer : Answer) (isAuto spm succeeded chunksWritten : Bool)

theorem finalize_settles (here : w.state.pcs .capture = .finalizeTrace isAuto spm succeeded chunksWritten) :
    ∃ v status, w.next api (.run .capture answer) = some v ∧ v.moments.head? = some (.reported status) := by
  obtain ⟨⟨d, next⟩, run⟩ : ∃ r, w.state.client.run api answer (w.state.pcs .capture) = some r := by
    rw [here, Client.run]
    split
    · exact ⟨_, rfl⟩
    · exact ⟨_, rfl⟩
  have report := run
  rw [here] at report
  obtain ⟨status, reports, _⟩ := finalize_reports api answer w.state.client d next isAuto spm succeeded chunksWritten report
  refine ⟨_, status, by rw [Watched.next, State.next, State.runThread, run]; simp [here, waitsFor, starts]; rfl, ?_⟩
  simp [State.moment, here, reports]

theorem tracing_goes_on (here : w.state.pcs .capture = .tracing isAuto spm) :
    ∃ v, w.next api (.run .capture answer) = some v ∧
      v.state.pcs .capture = .finalizeTrace isAuto spm answer.succeeded answer.chunksWritten := by
  simp [Watched.next, State.next, State.runThread, here, waitsFor, starts, Client.run]

theorem execute_goes_on (here : w.state.pcs .capture = .executeTrace isAuto spm) :
    ∃ v, w.next api (.run .capture answer) = some v ∧ v.state.pcs .capture = .tracing isAuto spm := by
  simp [Watched.next, State.next, State.runThread, here, waitsFor, starts, Client.run]

-- The capture's thread takes each of its steps alone, whatever the driver answers.
theorem capture_settles (sound : w.Sound) (unsettled : stage w.moments ≠ .settled) :
    ∃ n, ∀ answers : List Answer, answers.length = n →
      ∃ t status, exec (watchedClient api gpuSupported) w (answers.map (.run .capture)) = some t ∧
        t.moments.head? = some (.reported status) := by
  have stands := sound.stands
  cases here : w.state.pcs .capture with
  | executeTrace isAuto spm =>
      refine ⟨3, fun answers count => ?_⟩
      obtain ⟨a, b, c, rfl⟩ := List.length_eq_three.mp count
      obtain ⟨u, first, tracing⟩ := execute_goes_on api w a isAuto spm here
      obtain ⟨v, second, finalizing⟩ := tracing_goes_on api u b isAuto spm tracing
      obtain ⟨t, status, third, reported⟩ := finalize_settles api v c isAuto spm b.succeeded b.chunksWritten finalizing
      exact ⟨t, status, by simp [exec, watchedClient, first, second, third], reported⟩
  | tracing isAuto spm =>
      refine ⟨2, fun answers count => ?_⟩
      obtain ⟨a, b, rfl⟩ := List.length_eq_two.mp count
      obtain ⟨v, first, finalizing⟩ := tracing_goes_on api w a isAuto spm here
      obtain ⟨t, status, second, reported⟩ := finalize_settles api v b isAuto spm a.succeeded a.chunksWritten finalizing
      exact ⟨t, status, by simp [exec, watchedClient, first, second], reported⟩
  | finalizeTrace isAuto spm succeeded chunksWritten =>
      refine ⟨1, fun answers count => ?_⟩
      obtain ⟨a, rfl⟩ := List.length_eq_one_iff.mp count
      obtain ⟨t, status, first, reported⟩ := finalize_settles api w a isAuto spm succeeded chunksWritten here
      exact ⟨t, status, by simp [exec, watchedClient, first], reported⟩
  | finalState | outside =>
      rw [here] at stands
      exact absurd stands unsettled
  | _ =>
      rw [here] at stands
      cases stands

end Settles

def requestCapture : List Action :=
  .initializeClient true :: .call 0 (.requestBeginTrace 0) :: List.replicate 4 (.run (.caller 0) accepting)

def failing : Answer := { accepting with succeeded := false }

end RadeonPanel.Rgp.Legacy

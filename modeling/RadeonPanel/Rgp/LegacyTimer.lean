import RadeonPanel.Rgp.LegacyClient

set_option autoImplicit false

namespace RadeonPanel.Rgp.Legacy

open Interleaving RadeonPanel.Ubertrace

-- What ends the timer's capture: an abort that finds the client waiting once
-- the capture is prepared, or Disconnect.
def timerEnded : List Event → Bool
  | [] => false
  | .disconnects :: _ => true
  | .aborted :: older => older.contains .timerPrepared || timerEnded older
  | .timerPrepared :: older | .timerRequests :: older | .disconnected :: older | .executes :: older
  | .executed :: older | .traceCompleted _ :: older => timerEnded older

def neverFires : Event → List Event → Prop
  | .timerRequests, older => timerEnded older = false
  | .executes, older | .executed, older => .disconnected ∉ older
  | .timerPrepared, _ | .aborted, _ | .disconnects, _ | .disconnected, _ | .traceCompleted _, _ => True

def isTracing : Pc → Bool
  | .executeTrace _ _ | .tracing _ _ => true
  | _ => false

def isTimer : Pc → Bool
  | .timerWaits | .onTriggered => true
  | _ => false

-- The delay runs out only for a capture that has not ended, neither an abort nor
-- Disconnect comes between that and the timer's request, and no request starts
-- its thread once Disconnect has looked for one to join.
def State.isTimely (s : State) : Action → Bool
  | .run who _ =>
      match s.pcs who with
      | .timerWaits => s.client.timerCancelled || !timerEnded s.client.log
      | .setIdle => s.pcs .timer ≠ .onTriggered
      | .startCapture _ _ => !s.client.phase.isJoined
      | _ => true
  | .disconnect => s.client.phase ≠ .bound || s.pcs .timer ≠ .onTriggered
  | .initializeClient _ | .handleDriverState _ _ | .call _ _ | .onBeginTrace | .onWritingStatus | .onActiveGpuUpdate _
  | .destroy => true

structure State.Silent (s : State) : Prop where
  sound : AtEach neverFires s.client.log
  pending : s.pcs .timer = .onTriggered → timerEnded s.client.log = false
  joined : s.client.phase.isJoined = true → ∀ who, isTracing (s.pcs who) = false
  returned : .disconnected ∈ s.client.log → s.client.phase = .disconnected
  traced : ∀ who, isTracing (s.pcs who) = true → who = .capture
  timed : ∀ who, isTimer (s.pcs who) = true → who = .timer

-- The events of one step of a thread, by where it stands.
inductive Logs : Pc → List Event → List Event → Prop where
  | silent (pc : Pc) (log : List Event) : Logs pc log log
  | prepared (log : List Event) : Logs (.setWaiting true) log (.timerPrepared :: log)
  | completed (pc : Pc) (log : List Event) (status : TraceCompletionStatus) : Logs pc log (.traceCompleted status :: log)
  | requests (log : List Event) : Logs .onTriggered log (.timerRequests :: log)
  | aborted (log : List Event) : Logs .setIdle log (.aborted :: log)
  | executes (log : List Event) (isAuto spm : Bool) : Logs (.executeTrace isAuto spm) log (.executes :: log)
  | executed (log : List Event) (isAuto spm : Bool) : Logs (.tracing isAuto spm) log (.executed :: log)

theorem logs_ended (pc : Pc) (log log' : List Event) (logs : Logs pc log log') (apart : pc ≠ .setIdle) :
    timerEnded log' = timerEnded log := by
  cases logs with
  | silent => rfl
  | aborted => contradiction
  | _ => rfl

theorem logs_returned (pc : Pc) (log log' : List Event) (logs : Logs pc log log')
    (returned : .disconnected ∈ log') : .disconnected ∈ log := by
  cases logs with
  | silent => exact returned
  | _ => simpa using returned

theorem logs_sound (pc : Pc) (log log' : List Event) (logs : Logs pc log log') (sound : AtEach neverFires log)
    (pending : pc = .onTriggered → timerEnded log = false) (unreturned : isTracing pc = true → .disconnected ∉ log) :
    AtEach neverFires log' := by
  cases logs with
  | silent => exact sound
  | prepared | completed | aborted => exact ⟨trivial, sound⟩
  | requests => exact ⟨pending rfl, sound⟩
  | executes isAuto spm | executed isAuto spm => exact ⟨unreturned rfl, sound⟩

section Run
variable (api : Api) (answer : Answer) (c d : Client) (pc next : Pc)

theorem run_phase (run : c.run api answer pc = some (d, next)) : d.phase = c.phase := by
  cases pc <;> simp only [Client.run] at run <;> grind [Client.setState, Client.record]

theorem run_logs (run : c.run api answer pc = some (d, next)) : Logs pc c.log d.log := by
  cases pc with
  | outside => cases run
  | setWaiting timer =>
      cases timer with
      | true =>
          cases run
          exact .prepared c.log
      | false =>
          cases run
          exact .silent _ c.log
  | onTriggered =>
      cases run
      exact .requests c.log
  | setIdle =>
      cases run
      exact .aborted c.log
  | executeTrace isAuto spm =>
      cases run
      exact .executes c.log isAuto spm
  | tracing isAuto spm =>
      cases run
      exact .executed c.log isAuto spm
  | onCancelled | reportError =>
      cases run
      exact .completed _ c.log _
  | finalizeTrace isAuto spm succeeded chunksWritten =>
      rw [Client.run] at run
      split at run
      · cases run
        exact .completed _ c.log _
      · cases run
        exact .completed _ c.log _
  | checkIdle timer =>
      rw [Client.run] at run
      split at run
      · cases timer <;> cases run <;> exact .silent _ c.log
      · cases run
        exact .silent _ c.log
  | startTimer | timerWaits | cancelledDone | joinCapture | refusedDone | checkWaiting | finalState | checkGpu
  | setGpuState =>
      cases run
      exact .silent _ c.log
  | startPolling | lockAbort | startCapture | abortTrace =>
      rw [Client.run] at run
      split at run
      · cases run
      · cases run
        exact .silent _ c.log
  | beginTrace | configure =>
      rw [Client.run] at run
      split at run
      · cases run
        exact .silent _ c.log
      · split at run
        · cases run
          exact .silent _ c.log
        · cases run
          exact .silent _ c.log

theorem run_triggered (run : c.run api answer pc = some (d, .onTriggered)) :
    pc = .timerWaits ∧ c.timerCancelled = false := by
  cases pc <;> simp only [Client.run] at run <;> grind [refused, unsuited, autoCapture]

theorem run_timer (run : c.run api answer pc = some (d, next)) (here : isTimer next = true) : isTimer pc = true := by
  cases pc <;> simp only [Client.run] at run <;> grind [refused, unsuited, autoCapture, isTimer]

theorem run_tracing (run : c.run api answer pc = some (d, next)) (here : isTracing next = true) :
    isTracing pc = true := by
  cases pc <;> simp only [Client.run] at run <;> grind [refused, unsuited, autoCapture, isTracing]

theorem starts_quiet (thread : Who) (start : Pc) (started : starts pc = some (thread, start)) :
    start ≠ .onTriggered ∧ (isTimer start = true → thread = .timer) ∧
      (isTracing start = true → thread = .capture ∧ ∃ isAuto spm, pc = .startCapture isAuto spm) := by
  cases pc <;> simp only [starts] at started <;> grind [isTimer, isTracing]

end Run

section State
variable (api : Api) (s t : State)

theorem run_thread_moves (who : Who) (answer : Answer) (taken : s.runThread api who answer = some t) :
    ∃ next, s.client.run api answer (s.pcs who) = some (t.client, next) ∧
      ∀ other, t.pcs other = s.pcs other ∨ other = who ∧ t.pcs other = next ∨
        starts (s.pcs who) = some (other, t.pcs other) := by
  rw [State.runThread] at taken
  split at taken
  · obtain ⟨⟨d, next⟩, run, moved⟩ := Option.map_eq_some_iff.mp taken
    cases started : starts (s.pcs who) with
    | none =>
        simp only [started] at moved
        subst moved
        refine ⟨next, run, fun other => ?_⟩
        by_cases here : other = who
        · exact .inr (.inl ⟨here, by simp [here]⟩)
        · exact .inl (by simp [here])
    | some start =>
        obtain ⟨thread, pc⟩ := start
        simp only [started] at moved
        subst moved
        refine ⟨next, run, fun other => ?_⟩
        by_cases new : other = thread
        · exact .inr (.inr (by simp [State.jump, new]))
        · by_cases here : other = who
          · subst here
            exact .inr (.inl ⟨rfl, by simp [State.jump, new]⟩)
          · exact .inl (by simp [State.jump, new, here])
  · cases taken

theorem silent_run (who : Who) (answer : Answer) (silent : s.Silent) (timely : s.isTimely (.run who answer) = true)
    (taken : s.runThread api who answer = some t) : t.Silent := by
  obtain ⟨next, run, moved⟩ := run_thread_moves api s t who answer taken
  have logs := run_logs api answer s.client t.client (s.pcs who) next run
  have phase := run_phase api answer s.client t.client (s.pcs who) next run
  constructor
  · -- a request comes from a pending timer, a trace from a thread that Disconnect would have joined
    apply logs_sound _ _ _ logs silent.sound
    · intro triggered
      have timer : who = .timer := silent.timed who (by rw [triggered]; rfl)
      exact silent.pending (timer ▸ triggered)
    · intro tracing returned
      have joined : s.client.phase.isJoined = true := by rw [silent.returned returned]; rfl
      rw [silent.joined joined who] at tracing
      cases tracing
  · intro here
    obtain same | ⟨rfl, same⟩ | started := moved .timer
    · rw [same] at here
      rw [logs_ended _ _ _ logs]
      · exact silent.pending here
      · intro aborting
        simp [State.isTimely, aborting, here] at timely
    · rw [here] at same
      subst same
      obtain ⟨waits, running⟩ := run_triggered api answer s.client t.client (s.pcs .timer) run
      rw [logs_ended _ _ _ logs (by simp [waits])]
      simpa [State.isTimely, waits, running] using timely
    · exact absurd here (starts_quiet (s.pcs who) .timer (t.pcs .timer) started).1
  · intro joined other
    rw [phase] at joined
    have before := silent.joined joined
    obtain same | ⟨rfl, same⟩ | started := moved other
    · rw [same]
      exact before other
    · rw [same]
      by_contra tracing
      have earlier := run_tracing api answer s.client t.client _ next run (by simpa using tracing)
      rw [before other] at earlier
      cases earlier
    · by_contra tracing
      obtain ⟨_, isAuto, spm, starting⟩ :=
        (starts_quiet (s.pcs who) other (t.pcs other) started).2.2 (by simpa using tracing)
      simp [State.isTimely, starting, joined] at timely
  · intro returned
    rw [phase]
    exact silent.returned (logs_returned _ _ _ logs returned)
  · intro other here
    obtain same | ⟨rfl, same⟩ | started := moved other
    · exact silent.traced other (same ▸ here)
    · exact silent.traced other (run_tracing api answer s.client t.client _ next run (same ▸ here))
    · exact ((starts_quiet (s.pcs who) other (t.pcs other) started).2.2 here).1
  · intro other here
    obtain same | ⟨rfl, same⟩ | started := moved other
    · exact silent.timed other (same ▸ here)
    · exact silent.timed other (run_timer api answer s.client t.client _ next run (same ▸ here))
    · exact (starts_quiet (s.pcs who) other (t.pcs other) started).2.1 here

theorem silent_client (c : Client) (silent : s.Silent) (log : c.log = s.client.log) (phase : c.phase = s.client.phase) :
    State.Silent { s with client := c } := by
  obtain ⟨sound, pending, joined, returned, traced, timed⟩ := silent
  exact ⟨log ▸ sound, log ▸ pending, phase ▸ joined, by rw [log, phase]; exact returned, traced, timed⟩

theorem silent_jump (who : Who) (pc : Pc) (silent : s.Silent) (untimed : isTimer pc = false)
    (untraced : isTracing pc = false) : (s.jump who pc).Silent := by
  obtain ⟨sound, pending, joined, returned, traced, timed⟩ := silent
  have place (other : Who) : (s.jump who pc).pcs other = if other = who then pc else s.pcs other :=
    Function.update_apply s.pcs who pc other
  refine ⟨sound, fun here => ?_, fun closed other => ?_, returned, fun other here => ?_, fun other here => ?_⟩
  · rw [place] at here
    split at here
    · rw [here] at untimed
      cases untimed
    · exact pending here
  · rw [place]
    split
    · exact untraced
    · exact joined closed other
  · rw [place] at here
    split at here
    · rw [untraced] at here
      cases here
    · exact traced other here
  · rw [place] at here
    split at here
    · rw [untimed] at here
      cases here
    · exact timed other here

theorem silent_disconnect (silent : s.Silent) (timely : s.isTimely .disconnect = true) (taken : s.disconnect = some t) :
    t.Silent := by
  have unreturned (apart : s.client.phase ≠ .disconnected) : .disconnected ∉ s.client.log :=
    fun returned => apart (silent.returned returned)
  obtain ⟨sound, pending, joined, returned, traced, timed⟩ := silent
  rw [State.disconnect] at taken
  split at taken
  · cases phase : s.client.phase with
    | created | failed | disconnected =>
        simp only [phase] at taken
        cases taken
    | bound =>
        simp only [phase] at taken
        cases taken
        have waiting : s.pcs .timer ≠ .onTriggered := by simpa [State.isTimely, phase] using timely
        exact ⟨⟨trivial, sound⟩, fun here => absurd here waiting, nofun,
          fun again => absurd (by simpa [Client.record] using again) (unreturned (by simp [phase])), traced, timed⟩
    | stoppingPolling =>
        simp only [phase] at taken
        split at taken
        · cases taken
          exact ⟨sound, pending, nofun, fun again => absurd again (unreturned (by simp [phase])), traced, timed⟩
        · cases taken
    | aborting =>
        simp only [phase] at taken
        split at taken
        · cases taken
        · cases taken
          exact ⟨sound, pending, nofun, fun again => absurd again (unreturned (by simp [phase])), traced, timed⟩
    | joining =>
        simp only [phase] at taken
        split at taken
        · rename_i finished
          cases taken
          refine ⟨sound, pending, fun _ who => ?_, fun again => absurd again (unreturned (by simp [phase])), traced, timed⟩
          by_contra tracing
          have here : who = .capture := traced who (by simpa using tracing)
          subst here
          have untraced : isTracing (s.pcs .capture) = false := by rw [finished]; rfl
          exact tracing untraced
        · cases taken
    | joined =>
        simp only [phase] at taken
        cases taken
        exact ⟨⟨trivial, sound⟩, pending, fun _ => joined (by rw [phase]; rfl), fun _ => rfl, traced, timed⟩
  · cases taken

theorem entry_quiet (call : Call) : isTimer (call.entry api) = false ∧ isTracing (call.entry api) = false := by
  cases call <;> simp [Call.entry, isTimer, isTracing]

theorem silent_next (a : Action) (silent : s.Silent) (timely : s.isTimely a = true) (taken : s.next api a = some t) :
    t.Silent := by
  cases a with
  | run who answer => exact silent_run api s t who answer silent timely taken
  | disconnect => exact silent_disconnect s t silent timely taken
  | initializeClient accepted =>
      rw [State.next] at taken
      split at taken
      · rename_i created
        cases taken
        obtain ⟨sound, pending, _, returned, traced, timed⟩ := silent
        have unreturned : .disconnected ∉ s.client.log := fun again => by simp [returned again] at created
        cases accepted with
        | true => exact ⟨sound, pending, nofun, fun again => absurd again unreturned, traced, timed⟩
        | false => exact ⟨sound, pending, nofun, fun again => absurd again unreturned, traced, timed⟩
      · cases taken
  | handleDriverState state mode =>
      rw [State.next] at taken
      split at taken
      · cases taken
        split
        · exact silent_jump s .driver _ silent rfl rfl
        · exact silent
      · cases taken
  | call id call =>
      rw [State.next] at taken
      split at taken
      · cases taken
        obtain ⟨untimed, untraced⟩ := entry_quiet api call
        exact silent_jump s (.caller id) _ silent untimed untraced
      · cases taken
  | onBeginTrace | onWritingStatus =>
      rw [State.next, State.duringTrace] at taken
      split at taken
      · cases taken
        exact silent_client s _ silent rfl rfl
      · cases taken
  | onActiveGpuUpdate supported =>
      rw [State.next] at taken
      split at taken
      · cases taken
        exact silent_jump _ .poller .checkGpu (silent_client s _ silent rfl rfl) rfl rfl
      · cases taken
  | destroy =>
      rw [State.next] at taken
      split at taken
      · cases taken
        exact silent_client s _ silent rfl rfl
      · cases taken

end State

-- The history of every state of the run keeps to it.
def State.timerSilent (s : State) : Prop := AtEach neverFires s.client.log

def accepting : Answer := ⟨true, true, false, true, true, false⟩

-- A timer capture of a HIP application, prepared and waiting.
def timerCapture : List Action :=
  [.initializeClient true, .handleDriverState .postDeviceInit .timer] ++ List.replicate 5 (.run .driver accepting)

def abort (id : Nat) : List Action := .call id .requestAbortTrace :: List.replicate 3 (.run (.caller id) accepting)

end RadeonPanel.Rgp.Legacy

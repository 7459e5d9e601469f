import RadeonPanel.Ubertrace.Calls

set_option autoImplicit false

namespace RadeonPanel.Ubertrace

open Interleaving (LockUse)

-- Where a polling thread is in `PollForTraceCollectionFinished`. From `complete`
-- on it works for the user it has exchanged out of `capturingUser`.
inductive PollerPc where
  | absent
  | check
  | collect
  | exchange (collected : Bool)
  | complete (user : UbertraceUserId) (collected : Bool)
  | success (user : UbertraceUserId)
  | postProcess (user : UbertraceUserId)
  | abort (user : UbertraceUserId)
  | cancel (user : UbertraceUserId)
  | ended
  | exited
deriving DecidableEq, Repr

-- `owner` is the user whose request started the thread. The code does not keep
-- it: the thread only knows `capturingUser`.
structure Poller where
  owner : UbertraceUserId
  capture : Nat
  config : UbertraceCaptureConfig
  additionalChunkResult : Result
  path : String
  pc : PollerPc
deriving DecidableEq, Repr

def Poller.absent : Poller := ⟨invalidUbertraceUserId, 0, ⟨.normal, ⟨[], none⟩, false, false⟩, .success, "", .absent⟩

def Poller.start (owner : UbertraceUserId) (capture : Nat) (config : UbertraceCaptureConfig) : Poller :=
  ⟨owner, capture, config, .success, "", .check⟩

structure PollerEffect where
  orch : UbertraceOrchestrator
  poller : Poller
  lock : LockUse
  events : List Event

-- `CollectTrace` never reports that a file was written.
def wroteFile : Bool := false

-- The post-process operation runs in the writer's end callback: `chunks` is what
-- the additional chunk writer returns there, none when the driver does not end
-- the transfer.
def Poller.postProcessed (p : Poller) (chunks : Option Result) : Poller :=
  match chunks with
  | none => p
  | some result => if p.config.additionalChunkWriter then { p with additionalChunkResult := result } else p

def handleSuccessfulTrace (o : UbertraceOrchestrator) (thread : Nat) (p : Poller) (user : UbertraceUserId) :
    PollerEffect :=
  if p.additionalChunkResult ≠ .success then
    ⟨o.setState .idle user, { p with pc := .ended }, .release,
      [.finished user p.config.isAutoCapture, .delivered thread (.traceCompleted .error p.path)]⟩
  else if p.config.onCompleted then
    ⟨o.setState .postProcessing user, { p with pc := .postProcess user }, .keep, []⟩
  else
    ⟨o.setState (.finalState p.config.isAutoCapture) user, { p with pc := .ended }, .release,
      [.finished user p.config.isAutoCapture, .delivered thread (.traceCompleted .completed p.path)]⟩

-- The three ways out of the cancel loop: cancelled, refused or timed out.
def handleUnsuccessfulTrace (o : UbertraceOrchestrator) (thread : Nat) (p : Poller) (user : UbertraceUserId)
    (aborted : Bool) : PollerEffect :=
  if !aborted then
    ⟨o.setState .error user, { p with pc := .ended }, .release,
      [.finished user p.config.isAutoCapture, .delivered thread (.traceCompleted .error "")]⟩
  else
    ⟨o.setState (.finalState p.config.isAutoCapture) user, { p with pc := .ended }, .release,
      [.finished user p.config.isAutoCapture, .delivered thread (.traceCompleted .aborted "")]⟩

def pollerStep (o : UbertraceOrchestrator) (free : Bool) (thread : Nat) (p : Poller) (answer : Answer) :
    Option PollerEffect :=
  match p.pc, answer with
  | .check, .stream path =>
      if !o.shouldPollForTrace then none
      else some ⟨o, { p with pc := .collect, path := path }, .keep, []⟩
  | .check, .go =>
      if o.shouldPollForTrace then none
      else some ⟨o, { p with pc := .exchange false }, .keep, [.loopLeft thread p.owner false]⟩
  | .collect, .writing =>
      if !free then none else some ⟨o.setState .dumping o.capturingUser, p, .keep, []⟩
  | .collect, .collected result chunks =>
      if result = o.features.getTraceReadyCode then
        some ⟨o, { p.postProcessed chunks with pc := .check }, .keep, [.collected thread result chunks]⟩
      else if result = .success then
        some ⟨{ o with shouldPollForTrace := false }, { p.postProcessed chunks with pc := .exchange true }, .keep,
          [.loopLeft thread p.owner true, .storedPollFlag .collected false, .collected thread result chunks]⟩
      else
        some ⟨o, { p.postProcessed chunks with pc := .check }, .keep,
          (if wroteFile then [.delivered thread (.traceCompleted .error p.path)] else []) ++
            [.collected thread result chunks]⟩
  | .exchange collected, .go =>
      some ⟨{ o with capturingUser := invalidUbertraceUserId },
        { p with pc := .complete o.capturingUser collected }, .keep, []⟩
  | .complete user collected, .go =>
      if !free then none
      else
        some ⟨if p.config.isAutoCapture then o.setUserIsDisabled user true .done else o,
          { p with pc := if collected then .success user else .abort user }, .acquire, []⟩
  | .success user, .go => some (handleSuccessfulTrace o thread p user)
  | .postProcess user, .go =>
      some ⟨o.setState (.finalState p.config.isAutoCapture) user, { p with pc := .ended }, .release,
        [.finished user p.config.isAutoCapture, .delivered thread (.onCompleted p.path)]⟩
  | .abort user, .go =>
      some ⟨o.setState .busy invalidUbertraceUserId, { p with pc := .cancel user }, .keep, []⟩
  | .cancel user, .driver .success => some (handleUnsuccessfulTrace o thread p user true)
  | .cancel _, .driver .genericNotReady => some ⟨o, p, .keep, []⟩
  | .cancel user, .driver _ => some (handleUnsuccessfulTrace o thread p user false)
  | .cancel user, .timedOut => some (handleUnsuccessfulTrace o thread p user false)
  | .ended, .go => some ⟨o, { p with pc := .exited }, .keep, [.tracingEnded p.capture]⟩
  | _, _ => none

-- The moves of a polling thread, one for each outcome of a step.
inductive PollerMove (o : UbertraceOrchestrator) (free : Bool) (thread : Nat) (p : Poller) : PollerEffect → Prop where
  | poll (path : String) (here : p.pc = .check) (polls : o.shouldPollForTrace = true) :
      PollerMove o free thread p ⟨o, { p with pc := .collect, path := path }, .keep, []⟩
  | stop (here : p.pc = .check) (stopped : o.shouldPollForTrace = false) :
      PollerMove o free thread p ⟨o, { p with pc := .exchange false }, .keep, [.loopLeft thread p.owner false]⟩
  | writing (here : p.pc = .collect) (unlocked : free = true) :
      PollerMove o free thread p ⟨o.setState .dumping o.capturingUser, p, .keep, []⟩
  | retry (result : DdResult) (chunks : Option Result) (here : p.pc = .collect) (failed : result ≠ .success) :
      PollerMove o free thread p ⟨o, { p.postProcessed chunks with pc := .check }, .keep,
        [.collected thread result chunks]⟩
  | collect (chunks : Option Result) (here : p.pc = .collect) :
      PollerMove o free thread p
        ⟨{ o with shouldPollForTrace := false }, { p.postProcessed chunks with pc := .exchange true }, .keep,
          [.loopLeft thread p.owner true, .storedPollFlag .collected false, .collected thread .success chunks]⟩
  | exchange (collected : Bool) (here : p.pc = .exchange collected) :
      PollerMove o free thread p ⟨{ o with capturingUser := invalidUbertraceUserId },
        { p with pc := .complete o.capturingUser collected }, .keep, []⟩
  | complete (user : UbertraceUserId) (collected : Bool) (here : p.pc = .complete user collected)
      (unlocked : free = true) :
      PollerMove o free thread p ⟨if p.config.isAutoCapture then o.setUserIsDisabled user true .done else o,
        { p with pc := if collected then .success user else .abort user }, .acquire, []⟩
  | chunksFailed (user : UbertraceUserId) (here : p.pc = .success user) (failed : p.additionalChunkResult ≠ .success) :
      PollerMove o free thread p ⟨o.setState .idle user, { p with pc := .ended }, .release,
        [.finished user p.config.isAutoCapture, .delivered thread (.traceCompleted .error p.path)]⟩
  | postProcess (user : UbertraceUserId) (here : p.pc = .success user) (written : p.additionalChunkResult = .success)
      (completes : p.config.onCompleted = true) :
      PollerMove o free thread p ⟨o.setState .postProcessing user, { p with pc := .postProcess user }, .keep, []⟩
  | completed (user : UbertraceUserId) (here : p.pc = .success user) (written : p.additionalChunkResult = .success) :
      PollerMove o free thread p
        ⟨o.setState (.finalState p.config.isAutoCapture) user, { p with pc := .ended }, .release,
          [.finished user p.config.isAutoCapture, .delivered thread (.traceCompleted .completed p.path)]⟩
  | handedOver (user : UbertraceUserId) (here : p.pc = .postProcess user) :
      PollerMove o free thread p
        ⟨o.setState (.finalState p.config.isAutoCapture) user, { p with pc := .ended }, .release,
          [.finished user p.config.isAutoCapture, .delivered thread (.onCompleted p.path)]⟩
  | abort (user : UbertraceUserId) (here : p.pc = .abort user) :
      PollerMove o free thread p
        ⟨o.setState .busy invalidUbertraceUserId, { p with pc := .cancel user }, .keep, []⟩
  | cancelRetry (user : UbertraceUserId) (here : p.pc = .cancel user) : PollerMove o free thread p ⟨o, p, .keep, []⟩
  | aborted (user : UbertraceUserId) (here : p.pc = .cancel user) :
      PollerMove o free thread p
        ⟨o.setState (.finalState p.config.isAutoCapture) user, { p with pc := .ended }, .release,
          [.finished user p.config.isAutoCapture, .delivered thread (.traceCompleted .aborted "")]⟩
  | cancelFailed (user : UbertraceUserId) (here : p.pc = .cancel user) :
      PollerMove o free thread p ⟨o.setState .error user, { p with pc := .ended }, .release,
        [.finished user p.config.isAutoCapture, .delivered thread (.traceCompleted .error "")]⟩
  | ended (here : p.pc = .ended) :
      PollerMove o free thread p ⟨o, { p with pc := .exited }, .keep, [.tracingEnded p.capture]⟩

theorem handle_successful_moves (o : UbertraceOrchestrator) (free : Bool) (thread : Nat) (p : Poller)
    (user : UbertraceUserId) (here : p.pc = .success user) :
    PollerMove o free thread p (handleSuccessfulTrace o thread p user) := by
  unfold handleSuccessfulTrace
  by_cases failed : p.additionalChunkResult ≠ .success
  · rw [if_pos failed]
    exact .chunksFailed user here failed
  · rw [if_neg failed]
    by_cases completes : p.config.onCompleted = true
    · rw [if_pos completes]
      exact .postProcess user here (not_not.mp failed) completes
    · rw [if_neg completes]
      exact .completed user here (not_not.mp failed)

theorem poller_moves (o : UbertraceOrchestrator) (free : Bool) (thread : Nat) (p : Poller) (answer : Answer)
    (e : PollerEffect) (next : pollerStep o free thread p answer = some e) : PollerMove o free thread p e := by
  unfold pollerStep at next
  cases here : p.pc with
  | absent | exited =>
      rw [here] at next
      cases answer <;> cases next
  | check =>
      rw [here] at next
      cases polls : o.shouldPollForTrace with
      | true =>
          rw [polls] at next
          cases answer <;> cases next
          exact .poll _ here polls
      | false =>
          rw [polls] at next
          cases answer <;> cases next
          exact .stop here polls
  | collect =>
      rw [here] at next
      cases answer with
      | writing =>
          cases free <;> cases next
          exact .writing here rfl
      | collected result chunks =>
          by_cases ready : result = o.features.getTraceReadyCode
          · simp only [if_pos ready, Option.some.injEq] at next
            subst next
            exact .retry result chunks here (ready ▸ trace_ready_code_not_success o.features)
          · by_cases success : result = .success
            · simp only [if_neg ready, if_pos success, Option.some.injEq] at next
              subst next
              rw [success]
              exact .collect chunks here
            · simp only [if_neg ready, if_neg success, wroteFile, Bool.false_eq_true, if_false, List.nil_append,
                Option.some.injEq] at next
              subst next
              exact .retry result chunks here success
      | _ => cases next
  | exchange collected =>
      rw [here] at next
      cases answer <;> cases next
      exact .exchange collected here
  | complete user collected =>
      rw [here] at next
      cases answer <;> cases free <;> cases next
      exact .complete user collected here rfl
  | success user =>
      rw [here] at next
      cases answer <;> cases next
      exact handle_successful_moves o free thread p user here
  | postProcess user =>
      rw [here] at next
      cases answer <;> cases next
      exact .handedOver user here
  | abort user =>
      rw [here] at next
      cases answer <;> cases next
      exact .abort user here
  | cancel user =>
      rw [here] at next
      cases answer with
      | driver result =>
          cases result with
          | success =>
              cases next
              exact .aborted user here
          | genericNotReady =>
              cases next
              exact .cancelRetry user here
          | commonUnsupported | other code =>
              cases next
              exact .cancelFailed user here
      | timedOut =>
          cases next
          exact .cancelFailed user here
      | _ => cases next
  | ended =>
      rw [here] at next
      cases answer <;> cases next
      exact .ended here

-- A thread reports what the driver has answered.
theorem collected_answer (o : UbertraceOrchestrator) (free : Bool) (thread : Nat) (p : Poller) (answer : Answer)
    (e : PollerEffect) (result : DdResult) (chunks : Option Result)
    (next : pollerStep o free thread p answer = some e) (member : .collected thread result chunks ∈ e.events) :
    answer = .collected result chunks := by
  have here : p.pc = .collect := by
    cases poller_moves o free thread p answer e next with
    | retry _ _ here | collect _ here => exact here
    | _ => simp at member
  unfold pollerStep at next
  rw [here] at next
  cases answer with
  | collected other otherChunks =>
      by_cases ready : other = o.features.getTraceReadyCode
      · simp only [if_pos ready, Option.some.injEq] at next
        subst next
        simpa [eq_comm] using member
      · by_cases success : other = .success
        · simp only [if_neg ready, if_pos success, Option.some.injEq] at next
          subst next
          simpa [success, eq_comm] using member
        · simp only [if_neg ready, if_neg success, wroteFile, Bool.false_eq_true, if_false, List.nil_append,
            Option.some.injEq] at next
          subst next
          simpa [eq_comm] using member
  | writing =>
      cases free <;> cases next
      cases member
  | _ => cases next

end RadeonPanel.Ubertrace

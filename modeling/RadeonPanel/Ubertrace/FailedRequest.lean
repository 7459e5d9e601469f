import RadeonPanel.Ubertrace.AutoCapture

set_option autoImplicit false

namespace RadeonPanel.Ubertrace

open Interleaving UbertraceOrchestrator

-- What a failed request may not have changed. The invalid id is no user: a failed
-- configuration enters its error there.
structure LeftReady (o : UbertraceOrchestrator) (user : UbertraceUserId) (next : UbertraceOrchestrator) : Prop where
  settled : isCapturing (next.getUserState user) = false
  capturingUser : next.capturingUser = o.capturingUser
  polling : next.shouldPollForTrace = o.shouldPollForTrace
  others : ∀ other, other ≠ user → other ≠ invalidUbertraceUserId → next.userState other = o.userState other

def FailureLeavesReady (o : UbertraceOrchestrator) (user : UbertraceUserId)
    (attempt : Option (UbertraceOrchestrator × Result)) : Prop :=
  ∀ next result, attempt = some (next, result) → result ≠ .success → LeftReady o user next

-- A user that waits for a delayed capture gets its configuration to the driver.
def configuresWaiting (o : UbertraceOrchestrator) (user : UbertraceUserId) (configured : ConfigAnswer) : Prop :=
  o.getUserState user = .waitingToBeginCapture →
    updateConfiguration configured = .success ∨ user = invalidUbertraceUserId

-- The same for a client, which generates the configuration first.
def reachesWaiting (c : UbertraceClient) (o : UbertraceOrchestrator) (captureMode : UInt32)
    (captureType : UberTraceCaptureType) (a : RequestAnswers) : Prop :=
  o.getUserState c.user = .waitingToBeginCapture →
    (a.generateCaptureConfig captureMode captureType).result = .success ∧
      (updateConfiguration a.configured = .success ∨ c.user = invalidUbertraceUserId)

section

variable (o : UbertraceOrchestrator) (user : UbertraceUserId)

theorem ready_states (ready : o.isReadyForCapture user = some true) :
    o.getUserState user = .idle ∨ o.getUserState user = .waitingToBeginCapture := by
  obtain ⟨state, here, isReady⟩ := Option.map_eq_some_iff.mp ready
  rw [getUserState, here, Option.getD_some]
  obtain idle | ⟨waiting, _⟩ := of_decide_eq_true isReady
  · exact .inl idle
  · exact .inr waiting

theorem ready_settled (ready : o.isReadyForCapture user = some true) :
    isCapturing (o.getUserState user) = false ↔ o.getUserState user ≠ .waitingToBeginCapture := by
  obtain idle | waiting := ready_states o user ready
  · simp [idle, isCapturing]
  · simp [waiting, isCapturing]

theorem left_ready_same (ready : o.isReadyForCapture user = some true) :
    LeftReady o user o ↔ o.getUserState user ≠ .waitingToBeginCapture := by
  rw [← ready_settled o user ready]
  exact ⟨fun left => left.settled, fun settled => ⟨settled, rfl, rfl, fun _ _ _ => rfl⟩⟩

theorem left_ready_error (ready : o.isReadyForCapture user = some true) :
    LeftReady o user (o.setState .error invalidUbertraceUserId) ↔
      (o.getUserState user = .waitingToBeginCapture → user = invalidUbertraceUserId) := by
  have others : ∀ other, other ≠ user → other ≠ invalidUbertraceUserId →
      (o.setState .error invalidUbertraceUserId).userState other = o.userState other :=
    fun other _ named => set_state_elsewhere o .error invalidUbertraceUserId other named
  by_cases invalid : user = invalidUbertraceUserId
  · refine ⟨fun _ _ => invalid, fun _ => ⟨?_, rfl, rfl, others⟩⟩
    rw [get_user_state_set, if_pos invalid]
    rfl
  · have same : (o.setState .error invalidUbertraceUserId).getUserState user = o.getUserState user := by
      rw [get_user_state_set, if_neg invalid]
    constructor
    · intro left waiting
      have settled := left.settled
      rw [same, waiting] at settled
      cases settled
    · intro only
      refine ⟨?_, rfl, rfl, others⟩
      rw [same, ready_settled o user ready]
      exact fun waiting => invalid (only waiting)

-- A refusal of the driver is the failure that the source repairs.
theorem left_ready_reset (ready : o.isReadyForCapture user = some true) : LeftReady o user (o.resetWaiting user) := by
  obtain same | ⟨_, same⟩ := reset_waiting_cases o user
  · rw [same, left_ready_same o user ready, ← same]
    exact reset_not_waiting o user
  · rw [same]
    refine ⟨?_, rfl, rfl, fun other different _ => set_state_elsewhere o .idle user other different⟩
    rw [get_user_state_set, if_pos rfl]
    rfl

theorem request_leaves_ready (thread : Nat) (configured : ConfigAnswer) (requested : DdResult)
    (ready : o.isReadyForCapture user = some true) :
    FailureLeavesReady o user (o.requestBeginTrace user thread configured requested) ↔
      configuresWaiting o user configured := by
  rw [requestBeginTrace, ready, Option.map_some, Bool.not_true, if_neg Bool.false_ne_true]
  by_cases failed : updateConfiguration configured ≠ .success
  · rw [if_pos failed]
    have exact : configuresWaiting o user configured ↔
        LeftReady o user (o.setState .error invalidUbertraceUserId) := by
      rw [left_ready_error o user ready, configuresWaiting]
      simp [failed]
    rw [exact]
    constructor
    · exact fun leaves => leaves _ _ rfl failed
    · rintro left next result same _
      cases same
      exact left
  · rw [if_neg failed]
    refine ⟨fun _ _ => .inl (not_not.mp failed), fun _ next result same unsuccessful => ?_⟩
    by_cases refused : requested ≠ .success
    · rw [if_pos refused] at same
      cases same
      exact left_ready_reset o user ready
    · rw [if_neg refused] at same
      cases same
      exact absurd rfl unsuccessful

end

theorem client_leaves_ready (c : UbertraceClient) (o : UbertraceOrchestrator) (captureMode : UInt32)
    (captureType : UberTraceCaptureType) (a : RequestAnswers) (ready : o.isReadyForCapture c.user = some true) :
    FailureLeavesReady o c.user (c.requestBeginTrace o captureMode captureType a) ↔
      reachesWaiting c o captureMode captureType a := by
  unfold UbertraceClient.requestBeginTrace reachesWaiting
  by_cases ungenerated : (a.generateCaptureConfig captureMode captureType).result ≠ .success
  · rw [if_pos ungenerated]
    constructor
    · intro leaves waiting
      exact absurd waiting ((left_ready_same o c.user ready).mp (leaves _ _ rfl ungenerated))
    · intro reaches next result same _
      cases same
      rw [left_ready_same o c.user ready]
      exact fun waiting => ungenerated (reaches waiting).1
  · rw [if_neg ungenerated, request_leaves_ready o c.user a.thread a.configured a.requested ready, configuresWaiting]
    simp [not_not.mp ungenerated]

theorem failed_request_leaves_ready_iff (c : UbertraceClient) (o : UbertraceOrchestrator) (captureMode : UInt32)
    (captureType : UberTraceCaptureType) (a : RequestAnswers) (ready : o.isReadyForCapture c.user = some true) :
    (FailureLeavesReady o c.user (o.requestBeginTrace c.user a.thread a.configured a.requested) ↔
      configuresWaiting o c.user a.configured) ∧
    (FailureLeavesReady o c.user (c.requestBeginTrace o captureMode captureType a) ↔
      reachesWaiting c o captureMode captureType a) :=
  ⟨request_leaves_ready o c.user a.thread a.configured a.requested ready,
    client_leaves_ready c o captureMode captureType a ready⟩

def waitingOrchestrator : UbertraceOrchestrator := (new .default).setState .waitingToBeginCapture 1

def unserialized : RequestAnswers where
  generateCaptureConfig := fun _ _ => ⟨.success, ⟨[], none⟩, false⟩
  configured := .notSerialized
  requested := .success
  capture := 0
  thread := 0

theorem waiting_user_not_left_ready :
    ¬ FailureLeavesReady waitingOrchestrator 1 (waitingOrchestrator.requestBeginTrace 1 0 .notSerialized .success) ∧
      ¬ FailureLeavesReady waitingOrchestrator 1
        (UbertraceClient.requestBeginTrace ⟨1, false⟩ waitingOrchestrator 0 .normal unserialized) := by
  have ready : waitingOrchestrator.isReadyForCapture 1 = some true := by decide
  obtain ⟨alone, client⟩ :=
    failed_request_leaves_ready_iff ⟨1, false⟩ waitingOrchestrator 0 .normal unserialized ready
  refine ⟨fun leaves => ?_, fun leaves => ?_⟩
  · obtain configured | invalid := alone.mp leaves (by decide)
    · cases configured
    · exact absurd invalid (by decide)
  · obtain configured | invalid := (client.mp leaves (by decide)).2
    · cases configured
    · exact absurd invalid (by decide)

-- A delayed capture whose configuration fails goes on waiting.
theorem failed_configuration_keeps_waiting :
    ¬ ∀ features s user thread configured requested, Reachable (ubertrace features) s →
      s.orch.isReadyForCapture user = some true →
      FailureLeavesReady s.orch user (s.orch.requestBeginTrace user thread configured requested) := by
  intro claimed
  obtain ⟨s, reach, found⟩ := exec_finds (ubertrace .default)
    (connects 0 1 ++ [.call 0 (.prepareForDelayedCapture 1), .caller 0 .go])
    (fun s => s.orch.isReadyForCapture 1 = some true ∧ s.orch.getUserState 1 = .waitingToBeginCapture) (by decide)
  obtain ⟨ready, waiting⟩ := of_decide_eq_true found
  have leaves := claimed .default s 1 0 .notSerialized .success reach ready
  obtain failed | invalid := (request_leaves_ready s.orch 1 0 .notSerialized .success ready).mp leaves waiting
  · cases failed
  · exact absurd invalid (by decide)

end RadeonPanel.Ubertrace

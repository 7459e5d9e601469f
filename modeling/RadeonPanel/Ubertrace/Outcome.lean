import RadeonPanel.Ubertrace.Ownership

set_option autoImplicit false

namespace RadeonPanel.Ubertrace

open Interleaving

-- What the history has of one polling thread, newest first.
def deliveries (thread : Nat) : List Event → List Delivery
  | [] => []
  | .delivered other delivery :: older =>
      if other = thread then delivery :: deliveries thread older else deliveries thread older
  | _ :: older => deliveries thread older

def lastCollected (thread : Nat) : List Event → Option (DdResult × Option Result)
  | [] => none
  | .collected other result chunks :: older =>
      if other = thread then some (result, chunks) else lastCollected thread older
  | _ :: older => lastCollected thread older

-- The captures for which a request has succeeded, oldest first.
def begunCaptures : List Event → List (UbertraceUserId × UbertraceCaptureConfig)
  | [] => []
  | .returned (.requestBeginTrace user config) .success :: older => begunCaptures older ++ [(user, config)]
  | _ :: older => begunCaptures older

def TraceWritten (thread : Nat) (config : UbertraceCaptureConfig) (log : List Event) : Prop :=
  ∃ chunks, lastCollected thread log = some (.success, chunks) ∧
    (config.additionalChunkWriter = true → chunks = some .success)

def DeliveryFits (thread : Nat) (config : UbertraceCaptureConfig) (log : List Event) : Delivery → Prop
  | .onCompleted _ => config.onCompleted = true ∧ TraceWritten thread config log
  | .traceCompleted .completed _ => TraceWritten thread config log
  | .traceCompleted _ _ => True

-- The driver's part: a collected trace has been handed over to its end, so that
-- the writer's end callback has run.
def endsTransfer : Action → Bool
  | .poller _ (.collected .success none) => false
  | _ => true

def PollerPc.settled : PollerPc → Bool
  | .ended | .exited => true
  | _ => false

def PollerPc.traced : PollerPc → Bool
  | .exchange collected | .complete _ collected => collected
  | .success _ | .postProcess _ => true
  | _ => false

def PollerPc.handsOver : PollerPc → Bool
  | .postProcess _ => true
  | _ => false

structure OutcomeOf (thread : Nat) (p : Poller) (log : List Event) : Prop where
  pending : p.pc.settled = false → deliveries thread log = []
  settled : p.pc.settled = true → ∃ delivery, deliveries thread log = [delivery] ∧
    DeliveryFits thread p.config log delivery
  traced : p.pc.traced = true → ∃ chunks, lastCollected thread log = some (.success, chunks) ∧
    (p.config.additionalChunkWriter = true → chunks = some p.additionalChunkResult)
  handsOver : p.pc.handsOver = true → p.additionalChunkResult = .success ∧ p.config.onCompleted = true

theorem delivery_fits_same (thread : Nat) (config : UbertraceCaptureConfig) (log next : List Event)
    (delivery : Delivery) (same : lastCollected thread next = lastCollected thread log)
    (fits : DeliveryFits thread config log delivery) : DeliveryFits thread config next delivery := by
  unfold DeliveryFits TraceWritten at *
  rwa [same]

theorem outcome_elsewhere (thread : Nat) (p : Poller) (log events : List Event)
    (noDelivery : ∀ delivery, .delivered thread delivery ∉ events)
    (noCollect : ∀ result chunks, .collected thread result chunks ∉ events)
    (outcome : OutcomeOf thread p log) : OutcomeOf thread p (events ++ log) := by
  have same : deliveries thread (events ++ log) = deliveries thread log ∧
      lastCollected thread (events ++ log) = lastCollected thread log := by
    induction events with
    | nil => exact ⟨rfl, rfl⟩
    | cons event rest ih =>
        have later := ih (fun delivery member => noDelivery delivery (List.mem_cons_of_mem _ member))
          (fun result chunks member => noCollect result chunks (List.mem_cons_of_mem _ member))
        cases event with
        | delivered other delivery =>
            have apart : other ≠ thread := by
              rintro rfl
              exact noDelivery delivery List.mem_cons_self
            simpa only [List.cons_append, deliveries, lastCollected, if_neg apart] using later
        | collected other result chunks =>
            have apart : other ≠ thread := by
              rintro rfl
              exact noCollect result chunks List.mem_cons_self
            simpa only [List.cons_append, deliveries, lastCollected, if_neg apart] using later
        | _ => exact later
  obtain ⟨sameDeliveries, sameCollected⟩ := same
  refine ⟨?_, ?_, ?_, outcome.handsOver⟩
  · rw [sameDeliveries]
    exact outcome.pending
  · intro settled
    obtain ⟨delivery, delivered, fits⟩ := outcome.settled settled
    exact ⟨delivery, sameDeliveries.trans delivered, delivery_fits_same _ _ _ _ _ sameCollected fits⟩
  · rw [sameCollected]
    exact outcome.traced

theorem post_processed_chunks (p : Poller) (chunks : Option Result) (ended : chunks ≠ none)
    (writes : (p.postProcessed chunks).config.additionalChunkWriter = true) :
    chunks = some (p.postProcessed chunks).additionalChunkResult := by
  cases chunks with
  | none => exact absurd rfl ended
  | some result =>
      unfold Poller.postProcessed at writes ⊢
      by_cases writer : p.config.additionalChunkWriter = true
      · simp only [if_pos writer]
      · simp only [if_neg writer] at writes
        exact absurd writes writer

-- A thread delivers once, in the move that ends its completion section.
theorem outcome_move (o : UbertraceOrchestrator) (free : Bool) (thread : Nat) (p : Poller) (e : PollerEffect)
    (log : List Event) (move : PollerMove o free thread p e)
    (ended : .collected thread .success none ∉ e.events) (outcome : OutcomeOf thread p log) :
    OutcomeOf thread e.poller (e.events ++ log) := by
  have silent : p.pc.settled = false → deliveries thread log = [] := outcome.pending
  -- The end of a completion section, with the event that comes before its marker.
  have delivers : ∀ (user : UbertraceUserId) (delivery : Delivery), p.pc.settled = false →
      DeliveryFits thread p.config log delivery →
      OutcomeOf thread { p with pc := .ended }
        ([.finished user p.config.isAutoCapture, .delivered thread delivery] ++ log) := by
    intro user delivery unsettled fits
    refine ⟨nofun, fun _ => ⟨delivery, ?_, ?_⟩, nofun, nofun⟩
    · simp only [List.cons_append, List.nil_append, deliveries, if_true, silent unsettled]
    · exact delivery_fits_same _ _ _ _ _ rfl fits
  cases move with
  | poll path here | stop here | retry result chunks here | abort user here =>
      exact ⟨fun _ => silent (by rw [here]; rfl), nofun, nofun, nofun⟩
  | writing here | cancelRetry user here => exact outcome
  | collect chunks here =>
      refine ⟨fun _ => silent (by rw [here]; rfl), nofun, fun _ => ⟨chunks, ?_, ?_⟩, nofun⟩
      · simp only [List.cons_append, List.nil_append, lastCollected, if_true]
      · refine post_processed_chunks p chunks ?_
        rintro rfl
        exact ended (by simp)
  | exchange collected here =>
      refine ⟨fun _ => silent (by rw [here]; rfl), nofun, fun traced => ?_, nofun⟩
      exact outcome.traced (by rw [here]; exact traced)
  | complete user collected here =>
      cases collected with
      | false => exact ⟨fun _ => silent (by rw [here]; rfl), nofun, nofun, nofun⟩
      | true => exact ⟨fun _ => silent (by rw [here]; rfl), nofun, fun _ => outcome.traced (by rw [here]; rfl), nofun⟩
  | chunksFailed user here => exact delivers user _ (by rw [here]; rfl) trivial
  | postProcess user here written completes =>
      refine ⟨fun _ => silent (by rw [here]; rfl), nofun, fun _ => ?_, fun _ => ⟨written, completes⟩⟩
      exact outcome.traced (by rw [here]; rfl)
  | completed user here written =>
      obtain ⟨chunks, newest, writes⟩ := outcome.traced (by rw [here]; rfl)
      exact delivers user _ (by rw [here]; rfl) ⟨chunks, newest, fun writer => written ▸ writes writer⟩
  | handedOver user here =>
      obtain ⟨chunks, newest, writes⟩ := outcome.traced (by rw [here]; rfl)
      obtain ⟨written, completes⟩ := outcome.handsOver (by rw [here]; rfl)
      exact delivers user _ (by rw [here]; rfl) ⟨completes, chunks, newest, fun writer => written ▸ writes writer⟩
  | aborted user here | cancelFailed user here => exact delivers user _ (by rw [here]; rfl) trivial
  | ended here =>
      obtain ⟨delivery, delivered, fits⟩ := outcome.settled (by rw [here]; rfl)
      exact ⟨nofun, fun _ => ⟨delivery, delivered, delivery_fits_same _ _ _ _ _ rfl fits⟩, nofun, nofun⟩

theorem other_thread_silent (o : UbertraceOrchestrator) (free : Bool) (thread other : Nat) (p : Poller)
    (e : PollerEffect) (move : PollerMove o free thread p e) (apart : other ≠ thread) :
    (∀ delivery, .delivered other delivery ∉ e.events) ∧
      ∀ result chunks, .collected other result chunks ∉ e.events := by
  cases move <;> simp [apart]

structure State.Outcomes (s : State) : Prop where
  begun : (begunCaptures s.log).length = s.threads
  thread : ∀ thread, OutcomeOf thread (s.pollers thread) s.log
  starts : ∀ thread user config, (begunCaptures s.log)[thread]? = some (user, config) →
    (s.pollers thread).owner = user ∧ (s.pollers thread).config = config ∧ (s.pollers thread).pc ≠ .absent

theorem begun_elsewhere (events log : List Event)
    (silent : ∀ user config, .returned (.requestBeginTrace user config) .success ∉ events) :
    begunCaptures (events ++ log) = begunCaptures log := by
  induction events with
  | nil => rfl
  | cons event rest ih =>
      have later := ih fun user config member => silent user config (List.mem_cons_of_mem _ member)
      cases event with
      | returned call result =>
          cases call with
          | requestBeginTrace user config =>
              cases result with
              | success => exact absurd List.mem_cons_self (silent user config)
              | _ => exact later
          | _ => exact later
      | _ => exact later

theorem outcomes_quiet (s : State) (id : Nat) (answer : Answer) (e : CallerEffect) (outcomes : s.Outcomes)
    (effect : s.callerEffect id answer = some e) (spawned : e.spawned = none)
    (refused : ∀ user config, .returned (.requestBeginTrace user config) .success ∉ e.events) :
    (s.applyCaller id e).Outcomes := by
  have silent : ∀ event : Event, event.operation = none → event ∉ e.events :=
    caller_event_operation _ _ _ _ _ _ _ _ effect
  have begun := begun_elsewhere e.events s.log refused
  refine ⟨?_, fun thread => ?_, ?_⟩
  · simp only [State.applyCaller, spawned, Option.elim_none, begun]
    exact outcomes.begun
  · simp only [State.applyCaller, spawned, Option.elim_none]
    exact outcome_elsewhere thread _ s.log e.events (fun _ => silent _ rfl) (fun _ _ => silent _ rfl)
      (outcomes.thread thread)
  · simp only [State.applyCaller, spawned, Option.elim_none, begun]
    exact outcomes.starts

theorem outcomes_thread (s : State) (id capture : Nat) (user : UbertraceUserId) (config : UbertraceCaptureConfig)
    (orch : UbertraceOrchestrator) (numbered : s.Numbered) (outcomes : s.Outcomes) :
    (s.applyCaller id ⟨orch, .outside, .release, [.returned (.requestBeginTrace user config) .success],
      some (.start user capture config)⟩).Outcomes := by
  have fresh : deliveries s.threads s.log = [] := by
    refine (outcomes.thread s.threads).pending ?_
    rw [numbered s.threads (le_refl _)]
    rfl
  have begun : begunCaptures (.returned (.requestBeginTrace user config) .success :: s.log) =
      begunCaptures s.log ++ [(user, config)] := rfl
  refine ⟨?_, fun thread => ?_, fun thread other otherConfig started => ?_⟩
  · simp only [State.applyCaller, Option.elim_some, List.cons_append, List.nil_append, begun, List.length_append,
      outcomes.begun, List.length_cons, List.length_nil]
  · by_cases new : thread = s.threads
    · subst new
      simp only [State.applyCaller, Option.elim_some, Function.update_self]
      exact ⟨fun _ => fresh, (by intros; contradiction), (by intros; contradiction), (by intros; contradiction)⟩
    · simp only [State.applyCaller, Option.elim_some, Function.update_of_ne new]
      exact outcome_elsewhere thread _ s.log _ (by simp) (by simp) (outcomes.thread thread)
  · simp only [State.applyCaller, Option.elim_some, List.cons_append, List.nil_append, begun] at started ⊢
    by_cases old : thread < s.threads
    · rw [List.getElem?_append_left (by rw [outcomes.begun]; exact old)] at started
      rw [Function.update_of_ne (by omega)]
      exact outcomes.starts thread other otherConfig started
    · rw [List.getElem?_append_right (by rw [outcomes.begun]; omega), outcomes.begun] at started
      have last : thread = s.threads := by
        by_contra later
        rw [List.getElem?_eq_none (by simp; omega)] at started
        cases started
      subst last
      simp only [Nat.sub_self, List.getElem?_cons_zero, Option.some.injEq, Prod.mk.injEq] at started
      obtain ⟨rfl, rfl⟩ := started
      rw [Function.update_self]
      exact ⟨rfl, rfl, by simp [Poller.start]⟩

theorem outcomes_poller (s : State) (id : Nat) (e : PollerEffect) (outcomes : s.Outcomes)
    (move : PollerMove s.orch s.free id (s.pollers id) e) (ended : .collected id .success none ∉ e.events) :
    (s.applyPoller id e).Outcomes := by
  have begun := begun_elsewhere e.events s.log fun user config => poller_returns_nothing _ _ _ _ _ move _ _
  refine ⟨?_, fun thread => ?_, fun thread user config started => ?_⟩
  · simp only [State.applyPoller, begun]
    exact outcomes.begun
  · by_cases same : thread = id
    · subst same
      simp only [State.applyPoller, Function.update_self]
      exact outcome_move _ _ _ _ _ _ move ended (outcomes.thread thread)
    · obtain ⟨noDelivery, noCollect⟩ := other_thread_silent _ _ _ thread _ _ move same
      simp only [State.applyPoller, Function.update_of_ne same]
      exact outcome_elsewhere thread _ s.log e.events noDelivery noCollect (outcomes.thread thread)
  · simp only [State.applyPoller, begun] at started ⊢
    have old := outcomes.starts thread user config started
    by_cases same : thread = id
    · subst same
      obtain ⟨owner, _, sameConfig, present⟩ := poller_keeps _ _ _ _ _ move
      rw [Function.update_self, owner, sameConfig]
      exact ⟨old.1, old.2.1, present⟩
    · rw [Function.update_of_ne same]
      exact old

theorem outcomes_step (s t : State) (a : Action) (numbered : s.Numbered) (outcomes : s.Outcomes)
    (ends : endsTransfer a = true) (next : step s a = some t) : t.Outcomes := by
  rcases step_cases s t a next with ⟨_, rfl⟩ | ⟨id, call, _, _, rfl⟩ |
    ⟨id, answer, e, _, effect, rfl⟩ | ⟨id, answer, e, rfl, effect, rfl⟩
  · exact ⟨outcomes.begun, outcomes.thread, outcomes.starts⟩
  · exact ⟨outcomes.begun, outcomes.thread, outcomes.starts⟩
  · obtain ⟨_, quiet⟩ | ⟨user, config, pc, capture, _, starts⟩ := caller_cases _ _ _ _ _ _ _ _ effect
    · exact outcomes_quiet s id answer e outcomes effect quiet.spawned quiet.refused
    · cases starts with
      | thread => exact outcomes_thread s id capture user config _ numbered outcomes
      | _ => exact outcomes_quiet s id answer _ outcomes effect rfl (by simp)
  · refine outcomes_poller s id e outcomes (poller_moves _ _ _ _ _ _ effect) fun member => ?_
    rw [collected_answer _ _ _ _ _ _ _ _ effect member] at ends
    cases ends

end RadeonPanel.Ubertrace

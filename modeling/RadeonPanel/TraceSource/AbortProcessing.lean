import RadeonPanel.Base.Runs
import RadeonPanel.Base.SharedFlag

set_option autoImplicit false

namespace RadeonPanel.TraceSource

open Interleaving

inductive ProcessingKind where
  | spm
  | summaries
deriving DecidableEq, Repr

-- `runs` counts the parts of the work that may still be asked to stop: the runs of
-- the tool, or the one calculation of the derived counters.
inductive ProcessingPhase where
  | queued
  | working (runs : Nat)
  | concluding
  | ended
deriving DecidableEq, Repr

-- One processing, with what it has read of the flag, the aborts that had returned
-- when it was queued and those that have returned in its time.
structure Processing where
  phase : ProcessingPhase
  readings : List Reading
  earlier : List Nat
  accepted : List Nat
deriving DecidableEq

inductive ProcessingStep where
  | poll
  | runEnds (succeeds : Bool)
  | conclude
  | ends
deriving DecidableEq, Repr

namespace Processing

variable (p : Processing)

-- The tool gets killed and the next run starts; the calculation returns an error.
def stopRun (kind : ProcessingKind) (runs : Nat) : ProcessingPhase :=
  match kind with
  | .spm => .concluding
  | .summaries => .working runs

-- Only a failed calculation asks the flag once more, to tell an abort from an error.
def act (kind : ProcessingKind) (flag : SharedFlag) : ProcessingStep → Option Processing
  | .poll =>
      match p.phase with
      | .working (runs + 1) =>
          let reading := flag.read
          some { p with
            readings := reading :: p.readings
            phase := if reading.answer then stopRun kind runs else .working (runs + 1) }
      | _ => none
  | .runEnds succeeds =>
      match p.phase with
      | .working (runs + 1) => some { p with phase := if succeeds then .working runs else stopRun kind runs }
      | _ => none
  | .conclude =>
      if p.phase = .concluding then some { p with readings := flag.read :: p.readings, phase := .working 0 } else none
  | .ends => if p.phase = .working 0 then some { p with phase := .ended } else none

def isRunning : Bool :=
  match p.phase with
  | .working _ | .concluding => true
  | .queued | .ended => false

def observes (call : Nat) : Prop := ∃ reading ∈ p.readings, reading.sees call

def accepts (call : Nat) : Processing := if p.phase = .ended then p else { p with accepted := call :: p.accepted }

end Processing

-- What one trace source shares: the flag, and the processings in the order they were
-- queued in. `returned` are the calls of RequestAbortProcessing that have returned.
structure ProcessingSource where
  abort : SharedFlag
  processings : List Processing
  returned : List Nat

inductive ProcessingAction where
  | queue
  | start (processing : Nat) (runs : Nat)
  | act (processing : Nat) (step : ProcessingStep)
  | requestAbortProcessing
  | returns (call : Nat)
deriving DecidableEq, Repr

namespace ProcessingSource

variable (s : ProcessingSource)

def created : ProcessingSource := ⟨.created, [], []⟩

-- PerformProcessing holds the work mutex; counters are processed on the threads of
-- the clients, without it.
def mayStart (kind : ProcessingKind) : Bool :=
  match kind with
  | .spm => true
  | .summaries => !s.processings.any Processing.isRunning

def startedRuns (kind : ProcessingKind) (runs : Nat) : Nat :=
  match kind with
  | .spm => 1
  | .summaries => runs

-- Every processing clears the flag first. A request stores `true` and returns.
def step (kind : ProcessingKind) : ProcessingAction → Option ProcessingSource
  | .queue => some { s with processings := s.processings ++ [⟨.queued, [], s.returned, []⟩] }
  | .start processing runs =>
      s.processings[processing]?.bind fun p =>
        if p.phase = .queued && s.mayStart kind then
          some { s with
            abort := s.abort.lower
            processings := s.processings.set processing { p with phase := .working (startedRuns kind runs) } }
        else none
  | .act processing step =>
      s.processings[processing]?.bind fun p =>
        (p.act kind s.abort step).map fun next => { s with processings := s.processings.set processing next }
  | .requestAbortProcessing => some { s with abort := s.abort.raise }
  | .returns call =>
      if call < s.abort.raises && !s.returned.contains call then
        some { s with returned := call :: s.returned, processings := s.processings.map fun p => p.accepts call }
      else none

structure AbortsKept : Prop where
  observed : ∀ p ∈ s.processings, p.phase = .ended → ∀ call ∈ p.accepted, p.observes call
  own : ∀ p ∈ s.processings, ∀ call ∈ p.earlier, ¬ p.observes call
  caused : ∀ p ∈ s.processings, ∀ reading ∈ p.readings, reading.answer = true → ∃ call, reading.sees call

-- Each accepted abort is followed, before the processing ends, by a reading of its
-- with no start of a processing in between.
def readsInTime : ProcessingAction → Prop
  | .act processing .ends => ∀ p, s.processings[processing]? = some p →
      ∀ call ∈ p.accepted, ∃ reading ∈ p.readings, reading.follows call
  | _ => True

end ProcessingSource

-- Each of the two sources has a flag of its own.
def abortedProcessings : Machine (ProcessingKind → ProcessingSource) (ProcessingKind × ProcessingAction) where
  init := fun _ => .created
  step s a := ((s a.1).step a.1 a.2).map (Function.update s a.1)

-- A reading that an earlier abort could reach was made before the processing started.
structure ProcessingSource.Ordered (s : ProcessingSource) : Prop where
  made : ∀ call ∈ s.returned, call < s.abort.raises
  known : ∀ p ∈ s.processings, ∀ call ∈ p.earlier, call < s.abort.raises
  started : ∀ p ∈ s.processings, p.phase ≠ .queued → ∀ call ∈ p.earlier, call < s.abort.lowered
  read : ∀ p ∈ s.processings, ∀ reading ∈ p.readings, ∀ call ∈ p.earlier, call < reading.lowered

-- What a step of a running processing may do to it.
structure Processing.Goes (p next : Processing) (flag : SharedFlag) : Prop where
  wasRunning : p.phase ≠ .queued
  earlier : next.earlier = p.earlier
  accepted : next.accepted = p.accepted
  readings : ∀ reading ∈ next.readings, reading ∈ p.readings ∨ reading = flag.read

theorem act_goes (kind : ProcessingKind) (flag : SharedFlag) (p next : Processing) (step : ProcessingStep)
    (acted : p.act kind flag step = some next) :
    p.Goes next flag ∧ (next.phase = .ended ↔ step = .ends) ∧ (step = .ends → next.readings = p.readings) := by
  have stopped : ∀ runs, Processing.stopRun kind runs ≠ .ended := by
    intro runs
    cases kind <;> simp [Processing.stopRun]
  cases step with
  | poll =>
      simp only [Processing.act] at acted
      split at acted
      · rename_i runs phase
        cases acted
        refine ⟨⟨by simp [phase], rfl, rfl, fun reading member => (List.mem_cons.mp member).symm⟩, ?_, by simp⟩
        by_cases answer : flag.read.answer = true
        · simp [answer, stopped runs]
        · simp [answer]
      · cases acted
  | runEnds succeeds =>
      simp only [Processing.act] at acted
      split at acted
      · rename_i runs phase
        cases acted
        refine ⟨⟨by simp [phase], rfl, rfl, fun reading member => .inl member⟩, ?_, by simp⟩
        cases succeeds with
        | true => simp
        | false => simp [stopped runs]
      · cases acted
  | conclude =>
      simp only [Processing.act] at acted
      split at acted
      · rename_i phase
        cases acted
        exact ⟨⟨by simp [phase], rfl, rfl, fun reading member => (List.mem_cons.mp member).symm⟩, by simp, by simp⟩
      · cases acted
  | ends =>
      simp only [Processing.act] at acted
      split at acted
      · rename_i phase
        cases acted
        exact ⟨⟨by simp [phase], rfl, rfl, fun reading member => .inl member⟩, by simp, by simp⟩
      · cases acted

theorem accepts_same (p : Processing) (call : Nat) :
    (p.accepts call).phase = p.phase ∧ (p.accepts call).earlier = p.earlier ∧ (p.accepts call).readings = p.readings := by
  unfold Processing.accepts
  split
  · exact ⟨rfl, rfl, rfl⟩
  · exact ⟨rfl, rfl, rfl⟩

-- Everything a step of a source can do.
theorem source_step_cases (kind : ProcessingKind) (s t : ProcessingSource) (a : ProcessingAction)
    (next : s.step kind a = some t) :
    (a = .queue ∧ t = { s with processings := s.processings ++ [⟨.queued, [], s.returned, []⟩] }) ∨
    (∃ processing runs p, a = .start processing runs ∧ s.processings[processing]? = some p ∧ p.phase = .queued ∧
      t = { s with
        abort := s.abort.lower
        processings := s.processings.set processing
          { p with phase := .working (ProcessingSource.startedRuns kind runs) } }) ∨
    (∃ processing step p after, a = .act processing step ∧ s.processings[processing]? = some p ∧
      p.act kind s.abort step = some after ∧ t = { s with processings := s.processings.set processing after }) ∨
    (a = .requestAbortProcessing ∧ t = { s with abort := s.abort.raise }) ∨
    (∃ call, a = .returns call ∧ call < s.abort.raises ∧
      t = { s with returned := call :: s.returned, processings := s.processings.map fun p => p.accepts call }) := by
  cases a with
  | queue =>
      cases next
      exact .inl ⟨rfl, rfl⟩
  | start processing runs =>
      obtain ⟨p, found, started⟩ := Option.bind_eq_some_iff.mp next
      split at started
      · rename_i may
        simp only [Bool.and_eq_true, decide_eq_true_eq] at may
        cases started
        exact .inr (.inl ⟨processing, runs, p, rfl, found, may.1, rfl⟩)
      · cases started
  | act processing step =>
      obtain ⟨p, found, acted⟩ := Option.bind_eq_some_iff.mp next
      obtain ⟨after, went, rfl⟩ := Option.map_eq_some_iff.mp acted
      exact .inr (.inr (.inl ⟨processing, step, p, after, rfl, found, went, rfl⟩))
  | requestAbortProcessing =>
      cases next
      exact .inr (.inr (.inr (.inl ⟨rfl, rfl⟩)))
  | returns call =>
      simp only [ProcessingSource.step] at next
      split at next
      · rename_i may
        simp only [Bool.and_eq_true, decide_eq_true_eq] at may
        cases next
        exact .inr (.inr (.inr (.inr ⟨call, rfl, may.1, rfl⟩)))
      · cases next

theorem replaced_all {α : Type} {holds : α → Prop} {list : List α} {index : Nat} {after : α}
    (all : ∀ q ∈ list, holds q) (here : holds after) : ∀ q ∈ list.set index after, holds q := by
  intro q inside
  obtain old | rfl := List.mem_or_eq_of_mem_set inside
  · exact all q old
  · exact here

theorem created_ordered : ProcessingSource.created.Ordered := by
  refine ⟨?_, ?_, ?_, ?_⟩ <;> simp [ProcessingSource.created]

theorem source_step_ordered (kind : ProcessingKind) (s t : ProcessingSource) (a : ProcessingAction)
    (before : s.Ordered) (next : s.step kind a = some t) : t.Ordered := by
  obtain ⟨-, rfl⟩ | ⟨processing, runs, p, -, found, phase, rfl⟩ | ⟨processing, step, p, after, -, found, acted, rfl⟩ |
    ⟨-, rfl⟩ | ⟨call, -, made, rfl⟩ := source_step_cases kind s t a next
  · refine ⟨before.made, ?_, ?_, ?_⟩
    · simpa [or_imp, forall_and] using ⟨before.known, before.made⟩
    · simpa [or_imp, forall_and] using before.started
    · simpa [or_imp, forall_and] using before.read
  · have member : p ∈ s.processings := List.mem_of_getElem? found
    refine ⟨before.made, ?_, ?_, ?_⟩
    · exact replaced_all before.known (before.known p member)
    · exact replaced_all (fun q old _ => before.known q old) fun _ => before.known p member
    · exact replaced_all before.read (before.read p member)
  · have member : p ∈ s.processings := List.mem_of_getElem? found
    have goes := (act_goes kind s.abort p after step acted).1
    have started := before.started p member goes.wasRunning
    refine ⟨before.made, replaced_all before.known ?_, replaced_all before.started ?_, replaced_all before.read ?_⟩
    · rw [goes.earlier]
      exact before.known p member
    · rw [goes.earlier]
      exact fun _ => started
    · rw [goes.earlier]
      intro reading taken
      obtain old | rfl := goes.readings reading taken
      · exact before.read p member reading old
      · exact started
  · refine ⟨fun call returned => ?_, fun p member call old => ?_, before.started, before.read⟩
    · exact Nat.lt_succ_of_lt (before.made call returned)
    · exact Nat.lt_succ_of_lt (before.known p member call old)
  · refine ⟨?_, fun q inside => ?_, fun q inside => ?_, fun q inside => ?_⟩
    · simpa [made] using before.made
    · obtain ⟨p, member, rfl⟩ := List.mem_map.mp inside
      rw [(accepts_same p call).2.1]
      exact before.known p member
    · obtain ⟨p, member, rfl⟩ := List.mem_map.mp inside
      rw [(accepts_same p call).1, (accepts_same p call).2.1]
      exact before.started p member
    · obtain ⟨p, member, rfl⟩ := List.mem_map.mp inside
      rw [(accepts_same p call).2.1, (accepts_same p call).2.2]
      exact before.read p member

theorem earlier_unobserved (s : ProcessingSource) (ordered : s.Ordered) (p : Processing) (member : p ∈ s.processings)
    (call : Nat) (old : call ∈ p.earlier) : ¬ p.observes call := by
  rintro ⟨reading, taken, seen⟩
  exact reading.missed_before call (ordered.read p member reading taken call old) seen

-- What is left of the property is about the processings that have ended.
theorem ordered_kept_iff (s : ProcessingSource) (ordered : s.Ordered) :
    s.AbortsKept ↔ ∀ p ∈ s.processings, p.phase = .ended → ∀ call ∈ p.accepted, p.observes call := by
  constructor
  · exact fun kept => kept.observed
  · intro observed
    exact ⟨observed, earlier_unobserved s ordered, fun p _ reading _ answer => reading.answer_iff_sees.mp answer⟩

theorem observes_iff_follows (p : Processing) (call : Nat) :
    p.observes call ↔ ∃ reading ∈ p.readings, reading.follows call := by
  unfold Processing.observes
  simp only [Reading.sees_iff_follows]

theorem source_step_kept (kind : ProcessingKind) (s t : ProcessingSource) (a : ProcessingAction)
    (ordered : s.Ordered) (kept : s.AbortsKept) (next : s.step kind a = some t) : t.AbortsKept ↔ s.readsInTime a := by
  rw [ordered_kept_iff t (source_step_ordered kind s t a ordered next)]
  obtain ⟨rfl, rfl⟩ | ⟨processing, runs, p, rfl, found, phase, rfl⟩ |
    ⟨processing, step, p, after, rfl, found, acted, rfl⟩ | ⟨rfl, rfl⟩ | ⟨call, rfl, made, rfl⟩ :=
    source_step_cases kind s t a next
  · refine iff_of_true ?_ trivial
    simpa [or_imp, forall_and] using kept.observed
  · exact iff_of_true (replaced_all kept.observed (by simp)) trivial
  · obtain ⟨goes, ended, untouched⟩ := act_goes kind s.abort p after step acted
    by_cases ends : step = .ends
    · subst ends
      have observes : ∀ call, after.observes call ↔ ∃ reading ∈ p.readings, reading.follows call := by
        intro call
        rw [observes_iff_follows, untouched rfl]
      simp only [ProcessingSource.readsInTime, found, Option.some.injEq, forall_eq']
      constructor
      · intro all call accepted
        have inside : after ∈ s.processings.set processing after :=
          List.mem_set (List.getElem?_eq_some_iff.mp found).1 after
        rw [← goes.accepted] at accepted
        exact (observes call).mp (all after inside (ended.mpr rfl) call accepted)
      · intro reads
        refine replaced_all kept.observed fun _ call accepted => ?_
        rw [goes.accepted] at accepted
        exact (observes call).mpr (reads call accepted)
    · refine iff_of_true (replaced_all kept.observed fun phase => absurd (ended.mp phase) ends) ?_
      cases step with
      | ends => exact absurd rfl ends
      | poll => trivial
      | runEnds succeeds => trivial
      | conclude => trivial
  · exact iff_of_true kept.observed trivial
  · refine iff_of_true (fun q inside phase later accepted => ?_) trivial
    obtain ⟨p, member, rfl⟩ := List.mem_map.mp inside
    have wasOver : p.phase = .ended := (accepts_same p call).1.symm.trans phase
    have same : p.accepts call = p := by rw [Processing.accepts, if_pos wasOver]
    rw [same] at accepted ⊢
    exact kept.observed p member wasOver later accepted

theorem processings_step_cases (s t : ProcessingKind → ProcessingSource) (a : ProcessingKind × ProcessingAction)
    (next : abortedProcessings.step s a = some t) :
    ∃ after, (s a.1).step a.1 a.2 = some after ∧ t = Function.update s a.1 after := by
  obtain ⟨after, stepped, rfl⟩ := Option.map_eq_some_iff.mp next
  exact ⟨after, stepped, rfl⟩

theorem reachable_processings_ordered (s : ProcessingKind → ProcessingSource) (reach : Reachable abortedProcessings s) :
    ∀ kind, (s kind).Ordered := by
  refine reachable_invariant abortedProcessings (fun s => ∀ kind, (s kind).Ordered) (fun _ => created_ordered) ?_ s reach
  intro s a t ordered next kind
  obtain ⟨after, stepped, rfl⟩ := processings_step_cases s t a next
  by_cases same : kind = a.1
  · subst same
    rw [Function.update_self]
    exact source_step_ordered a.1 (s a.1) after a.2 (ordered a.1) stepped
  · rw [Function.update_of_ne same]
    exact ordered kind

-- An abort never reaches a processing that is queued after its return.
theorem reachable_earlier_unobserved (s : ProcessingKind → ProcessingSource) (reach : Reachable abortedProcessings s)
    (kind : ProcessingKind) (p : Processing) (member : p ∈ (s kind).processings) (call : Nat)
    (old : call ∈ p.earlier) : ¬ p.observes call :=
  earlier_unobserved (s kind) (reachable_processings_ordered s reach kind) p member call old

theorem accepted_aborts_observed_iff (actions : List (ProcessingKind × ProcessingAction)) :
    Meets abortedProcessings (fun s a => (s a.1).readsInTime a.2) abortedProcessings.init actions ↔
      Always abortedProcessings (fun s => ∀ kind, (s kind).AbortsKept) abortedProcessings.init actions := by
  refine keeps_iff_always abortedProcessings _ _ ?_ ?_ actions
  · intro kind
    exact (ordered_kept_iff .created created_ordered).mpr (by simp [ProcessingSource.created])
  · intro s a t reach kept next
    obtain ⟨after, stepped, rfl⟩ := processings_step_cases s t a next
    have exact := source_step_kept a.1 (s a.1) after a.2 (reachable_processings_ordered s reach a.1) (kept a.1) stepped
    rw [← exact]
    constructor
    · intro all
      simpa using all a.1
    · intro here kind
      by_cases same : kind = a.1
      · subst same
        rw [Function.update_self]
        exact here
      · rw [Function.update_of_ne same]
        exact kept kind

def startedLate (kind : ProcessingKind) : List (ProcessingKind × ProcessingAction) :=
  [(kind, .queue), (kind, .requestAbortProcessing), (kind, .returns 0), (kind, .start 0 1), (kind, .act 0 .poll),
    (kind, .act 0 (.runEnds true)), (kind, .act 0 .ends)]

def ProcessingSource.missesAbort (s : ProcessingSource) : Bool :=
  s.processings.any fun p =>
    p.phase = .ended && p.accepted.any fun call => !p.readings.any fun reading => reading.sees call

theorem misses_abort (s : ProcessingSource) (misses : s.missesAbort = true) : ¬ s.AbortsKept := by
  intro kept
  obtain ⟨p, member, missed⟩ := List.any_eq_true.mp misses
  obtain ⟨finished, unseen⟩ := Bool.and_eq_true_iff.mp missed
  obtain ⟨call, accepted, none⟩ := List.any_eq_true.mp unseen
  obtain ⟨reading, taken, seen⟩ := kept.observed p member (of_decide_eq_true finished) call accepted
  have found : p.readings.any (fun reading => reading.sees call) = true :=
    List.any_eq_true.mpr ⟨reading, taken, decide_eq_true seen⟩
  rw [found] at none
  cases none

-- The abort comes while the processing waits to start, and the start clears it.
theorem abort_before_start_lost :
    (¬ ∀ s, Reachable abortedProcessings s → (s .spm).AbortsKept) ∧
      ¬ ∀ s, Reachable abortedProcessings s → (s .summaries).AbortsKept := by
  constructor
  · intro claimed
    obtain ⟨s, reach, misses⟩ := exec_finds abortedProcessings (startedLate .spm)
      (fun s => (s .spm).missesAbort) (by decide)
    exact misses_abort (s .spm) misses (claimed s reach)
  · intro claimed
    obtain ⟨s, reach, misses⟩ := exec_finds abortedProcessings (startedLate .summaries)
      (fun s => (s .summaries).missesAbort) (by decide)
    exact misses_abort (s .summaries) misses (claimed s reach)

end RadeonPanel.TraceSource

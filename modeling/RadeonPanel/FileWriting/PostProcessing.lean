import RadeonPanel.FileWriting.SourceWriters

set_option autoImplicit false

namespace RadeonPanel.FileWriting

open Interleaving RadeonPanel.Ubertrace

def Event.toggles : Event → Option Bool
  | .opened => some true
  | .closed => some false
  | _ => none

def isOpen (log : List Event) : Bool := (log.findSome? Event.toggles).getD false

def Event.fails : Event → Bool
  | .wrote false _ | .stored false => true
  | _ => false

-- The transfer so far has opened the stream and no write of it has failed.
def Written (log : List Event) : Prop :=
  .opened ∈ since Event.begins log ∧ ∀ event ∈ since Event.begins log, event.fails = false

def NotYetRun (log : List Event) : Prop := ∀ event ∈ since Event.begins log, event.run = none

-- The operation runs once, at a successful end of a transfer that has written everything,
-- and an end leaves nothing open that was not closed by it.
def processesComplete (event : Event) (older : List Event) : Prop :=
  match event with
  | .postprocessed _ => older.head? = some (.endCalled .success) ∧ Written older ∧ NotYetRun older
  | .closed => isOpen older = true
  | .endReturned => isOpen older = false
  | _ => True

theorem is_open_cons (event : Event) (log : List Event) : isOpen (event :: log) = event.toggles.getD (isOpen log) := by
  cases found : event.toggles <;> simp [isOpen, found]

theorem is_open_begun (w : Writer) (announced : Option UInt64) :
    isOpen ((w.record (.beginCalled announced)).beginWriting).log = isOpen w.log := by
  have emitted (events : List Event) (quiet : ∀ event ∈ events, event.toggles = none) :
      isOpen (events ++ .beginCalled announced :: w.log) = isOpen w.log := by
    induction events with
    | nil => rfl
    | cons event rest ih =>
        obtain ⟨here, later⟩ := List.forall_mem_cons.mp quiet
        rw [List.cons_append, is_open_cons, here, Option.getD_none, ih later]
  refine emitted w.emitted fun event member => ?_
  obtain ⟨status, rfl⟩ := w.mem_emitted event member
  rfl

-- The log knows whether the stream is open, and one that has been processed is not.
structure Tracked (w : Writer) : Prop where
  stream : isOpen w.log = decide (w.stream = some true)
  memory : w.kind = .rgdByteWriter → w.stream ≠ some true
  processed : isOpen w.log = true → NotYetRun w.log

-- An end that has a stream finds it open, and with an operation also a transfer that has
-- written everything and succeeded.
def EndsComplete (w : Writer) : Effect → Prop
  | .ends result _ => w.stream = some true ∧ (w.postprocess = true → result = .success ∧ Written w.log)
  | _ => True

theorem not_yet_run_cons (event : Event) (log : List Event) (quiet : event.run = none) (notYet : NotYetRun log) :
    NotYetRun (event :: log) := by
  rw [NotYetRun]
  by_cases begins : event.begins = true
  · simp [since_mark log begins]
  · rw [since_other log (by simpa using begins)]
    exact List.forall_mem_cons.mpr ⟨quiet, notYet⟩

-- An event that neither opens, closes nor runs the operation is one of a transfer that goes on.
theorem tracked_cons (w : Writer) (event : Event) (tracked : Tracked w) (still : event.toggles = none) (quiet : event.run = none) :
    Tracked (w.record event) where
  stream := (is_open_cons event w.log).trans (by rw [still, Option.getD_none, tracked.stream]; rfl)
  memory := tracked.memory
  processed held := by
    refine not_yet_run_cons event w.log quiet (tracked.processed ?_)
    rwa [Writer.record, is_open_cons, still, Option.getD_none] at held

theorem perform_tracked (w : Writer) (e : Effect) (fits : w.Fits e) (tracked : Tracked w) : Tracked (w.perform e) := by
  cases e with
  | begins announced opens =>
      rw [w.perform_begins announced opens fits.2]
      have fresh : NotYetRun (w.emitted ++ .beginCalled announced :: w.log) := by
        rw [NotYetRun, w.since_begun]
        intro event member
        obtain ⟨status, rfl⟩ := w.mem_emitted event member
        rfl
      have before : isOpen (w.emitted ++ .beginCalled announced :: w.log) = isOpen w.log := is_open_begun w announced
      cases opens with
      | false =>
          refine ⟨?_, tracked.memory, fun _ => not_yet_run_cons .beginReturned _ rfl fresh⟩
          exact (is_open_cons _ _).trans (before.trans tracked.stream)
      | true =>
          refine ⟨rfl, fun memory => absurd memory fits.1, fun _ => ?_⟩
          exact not_yet_run_cons _ _ rfl (not_yet_run_cons _ _ rfl (not_yet_run_cons .opened _ rfl fresh))
  | ends result written =>
      rw [w.perform_ends result written]
      exact ⟨rfl, fun memory => absurd memory fits.1, fun held => by cases held⟩
  | endsAside result => exact tracked_cons _ _ (tracked_cons w (.endCalled result) tracked rfl rfl) rfl rfl
  | registers event =>
      have recorded := tracked_cons w (.registered event) tracked rfl rfl
      rw [Writer.perform, Writer.registerWritingStatusEvent]
      split <;> exact ⟨recorded.stream, recorded.memory, recorded.processed⟩
  | sets operation =>
      rw [Writer.perform, Writer.setPostProcessOperation]
      split <;> exact ⟨tracked.stream, tracked.memory, tracked.processed⟩
  | beginsInMemory announced => exact tracked_cons _ _ (tracked_cons w (.beginCalled announced) tracked rfl rfl) rfl rfl
  | counts size =>
      have wrote := tracked_cons w (.wrote true size) tracked rfl rfl
      have divided := tracked_cons _ (.divided (w.counted size).numBytesDumped (w.counted size).totalBytesToDump) wrote rfl rfl
      have reported := tracked_cons _ (.reported (w.counted size)) divided rfl rfl
      exact ⟨reported.stream, reported.memory, reported.processed⟩
  | refuses size => exact tracked_cons w (.wrote false size) tracked rfl rfl
  | remembers bytes size =>
      have recorded := tracked_cons w (.wrote true size) tracked rfl rfl
      exact ⟨recorded.stream, recorded.memory, recorded.processed⟩
  | stores succeeded => exact tracked_cons w (.stored succeeded) tracked rfl rfl
  | nothing => exact tracked

theorem written_end (result : DdResult) (log : List Event) : Written (.endCalled result :: log) ↔ Written log := by
  have within : Event.begins (.endCalled result) = false := rfl
  have apart : Event.opened ≠ .endCalled result := fun same => by cases same
  rw [Written, since_other log within, List.forall_mem_cons, List.mem_cons, or_iff_right apart]
  exact and_congr_right fun _ => and_iff_right rfl

section Processes
variable (w : Writer) (each : AtEach processesComplete w.log)
include each

theorem begun_processes (announced : Option UInt64) (opens : Bool) :
    AtEach processesComplete
      ((if opens then Writer.openedEvents announced else []) ++ (w.emitted ++ .beginCalled announced :: w.log)) := by
  refine at_each_append _ _ _ ?_ (at_each_append _ w.emitted _ ?_ ⟨trivial, each⟩)
  · cases opens <;> simp [Writer.openedEvents, processesComplete]
  · intro event member older
    obtain ⟨status, rfl⟩ := w.mem_emitted event member
    trivial

-- An end that finds the stream open closes it, and runs the operation on what was written.
theorem ended_processes (tracked : Tracked w) (result : DdResult) (written : Result) :
    AtEach processesComplete (w.perform (.ends result written)).log ↔ EndsComplete w (.ends result written) := by
  rw [w.perform_ends result written, EndsComplete]
  have here : isOpen (.endCalled result :: w.log) = decide (w.stream = some true) :=
    (is_open_cons _ _).trans tracked.stream
  have held : isOpen ((if w.postprocess then [.postprocessed written] else []) ++ .endCalled result :: w.log) =
      decide (w.stream = some true) := by
    cases w.postprocess
    · exact here
    · exact (is_open_cons _ _).trans here
  constructor
  · rintro ⟨-, closed, older⟩
    refine ⟨of_decide_eq_true (held.symm.trans closed), fun operation => ?_⟩
    rw [if_pos operation] at older
    obtain ⟨success, written, -⟩ := older.1
    exact ⟨by simpa using success, (written_end result w.log).mp written⟩
  · rintro ⟨stream, complete⟩
    refine ⟨rfl, held.trans (decide_eq_true stream), ?_⟩
    cases operation : w.postprocess with
    | false => exact ⟨trivial, each⟩
    | true =>
        obtain ⟨success, written⟩ := complete operation
        have fresh := tracked.processed (tracked.stream.trans (decide_eq_true stream))
        have through := (written_end result w.log).mpr written
        exact ⟨⟨by rw [success]; rfl, through, not_yet_run_cons _ _ rfl fresh⟩, trivial, each⟩

theorem perform_processes (e : Effect) (fits : w.Fits e) (tracked : Tracked w) :
    AtEach processesComplete (w.perform e).log ↔ EndsComplete w e := by
  cases e with
  | begins announced opens =>
      rw [w.perform_begins announced opens fits.2]
      exact iff_of_true ⟨trivial, begun_processes w each announced opens⟩ trivial
  | ends result written => exact ended_processes w each tracked result written
  | endsAside result =>
      have closed : isOpen w.log = false := by
        rw [tracked.stream, decide_eq_false_iff_not]
        exact fits.elim tracked.memory fun none => by simp [none]
      exact iff_of_true ⟨(is_open_cons _ _).trans closed, trivial, each⟩ trivial
  | registers event =>
      rw [Writer.perform, Writer.registerWritingStatusEvent]
      cases w.kind <;> exact iff_of_true ⟨trivial, each⟩ trivial
  | sets operation =>
      rw [Writer.perform, Writer.setPostProcessOperation]
      cases w.kind <;> exact iff_of_true each trivial
  | beginsInMemory announced => exact iff_of_true ⟨trivial, trivial, each⟩ trivial
  | counts size => exact iff_of_true ⟨trivial, trivial, trivial, each⟩ trivial
  | refuses size => exact iff_of_true ⟨trivial, each⟩ trivial
  | remembers bytes size => exact iff_of_true ⟨trivial, each⟩ trivial
  | stores succeeded => exact iff_of_true ⟨trivial, each⟩ trivial
  | nothing => exact iff_of_true each trivial

end Processes

theorem reachable_tracked (kind : WriterKind) (stream : Bool) (w : Writer) (reach : Reachable (writerMachine kind stream) w) :
    Tracked w := by
  refine reachable_invariant (writerMachine kind stream) Tracked ?_ ?_ w reach
  · cases stream <;> exact ⟨rfl, fun _ => by simp [writerMachine, Writer.create], fun held => by cases held⟩
  · intro w call t tracked taken
    have fits := w.effect_fits call t taken
    obtain rfl := w.step_effect call t taken
    exact perform_tracked w (w.effect call) fits tracked

theorem post_process_complete_iff (kind : WriterKind) (stream : Bool) (calls : List Call) :
    Meets (writerMachine kind stream) (fun w call => EndsComplete w (w.effect call)) (Writer.create kind stream) calls ↔
      Always (writerMachine kind stream) (fun w => AtEach processesComplete w.log) (Writer.create kind stream) calls := by
  refine keeps_iff_always (writerMachine kind stream) (fun w call => EndsComplete w (w.effect call))
    (fun w => AtEach processesComplete w.log) trivial ?_ calls
  intro w call t reach each taken
  have fits := w.effect_fits call t taken
  obtain rfl := w.step_effect call t taken
  exact perform_processes w each (w.effect call) fits (reachable_tracked kind stream w reach)

-- A transfer that ends with an error is processed all the same.
theorem failed_transfer_processed :
    ¬ Always (writerMachine .sourceByteWriter true) (fun w => AtEach processesComplete w.log)
      (Writer.create .sourceByteWriter true)
      [.setPostProcessOperation true, .writerBegin (some 4096) true, .writerEnd (.other 1) .success] := by
  intro always
  have last := always_here _ _ _ _ (((always.2 _ rfl).2 _ rfl).2 _ rfl)
  have processed := last.2.2.1
  cases processed.1

end RadeonPanel.FileWriting

import RadeonPanel.FileWriting.SourceWriters

set_option autoImplicit false

namespace RadeonPanel.FileWriting

open Interleaving

def Event.registration : Event → Option WritingStatusEvent
  | .registered event => some event
  | _ => none

def Event.notification : Event → Option (WritingStatusEvent × Bool)
  | .notified event isWriting => some (event, isWriting)
  | _ => none

-- In the order they were made.
def registrations (log : List Event) : List WritingStatusEvent := (log.filterMap Event.registration).reverse

-- Who was registered when the transfer began.
def listeners (log : List Event) : List WritingStatusEvent := (registrations (upTo Event.begins log)).filter (·.callback)

-- Who has been notified since then.
def notifications (log : List Event) : List (WritingStatusEvent × Bool) :=
  ((since Event.begins log).filterMap Event.notification).reverse

def Told (log : List Event) : Prop := notifications log = (listeners log).map fun event => (event, true)

instance (log : List Event) : Decidable (Told log) := inferInstanceAs (Decidable (_ = _))

-- Every listener is notified once when a begin returns, and when progress is reported.
def listenersTold (event : Event) (older : List Event) : Prop :=
  match event with
  | .reported _ | .beginReturned => Told older
  | _ => True

theorem registrations_cons (event : Event) (log : List Event) :
    registrations (event :: log) = registrations log ++ event.registration.toList := by
  cases found : event.registration <;> simp [registrations, found]

theorem told_cons (event : Event) (log : List Event) (begins : event.begins = false) (notifies : event.notification = none) :
    Told (event :: log) ↔ Told log := by
  rw [Told, notifications, since_other log begins, listeners, up_to_other log begins, List.filterMap_cons, notifies]
  rfl

theorem emitted_registrations (w : Writer) (log : List Event) : registrations (w.emitted ++ log) = registrations log := by
  have none_registers : w.emitted.filterMap Event.registration = [] := by
    rw [List.filterMap_eq_nil_iff]
    intro event member
    obtain ⟨status, rfl⟩ := w.mem_emitted event member
    rfl
  rw [registrations, List.filterMap_append, none_registers, List.nil_append, registrations]

-- A begin tells those in the helper's list.
theorem told_begun (w : Writer) (announced : Option UInt64) :
    Told ((w.record (.beginCalled announced)).beginWriting).log ↔
      w.baseStatusEvents.filter (·.callback) = (registrations w.log).filter (·.callback) := by
  have log : ((w.record (.beginCalled announced)).beginWriting).log = w.emitted ++ .beginCalled announced :: w.log := rfl
  have told : notifications (w.emitted ++ .beginCalled announced :: w.log) =
      (w.baseStatusEvents.filter (·.callback)).map fun event => (event, true) := by
    rw [notifications, w.since_begun, Writer.emitted, List.filterMap_reverse,
      List.reverse_reverse, List.filterMap_map]
    exact congrFun (List.filterMap_eq_map (f := fun event => (event, true))) _
  have asked : listeners (w.emitted ++ .beginCalled announced :: w.log) = (registrations w.log).filter (·.callback) := by
    rw [listeners, w.up_to_begun, registrations_cons]
    simp [Event.registration]
  rw [log, Told, told, asked]
  exact (List.map_injective_iff.mpr fun a b same => congrArg Prod.fst same).eq_iff

-- A begin that tells nobody: the kinds that do not pass a registration on to the helper.
def Unheard (w : Writer) : Prop := ∀ event ∈ registrations w.log, event.callback = false

-- Where the listeners of each kind of writer are kept.
def Registered (w : Writer) : Prop :=
  w.baseStatusEvents = if w.kind = .sourceByteWriter then registrations w.log else []

-- Each begin is one of a writer that passes registrations on, or finds no listener.
def Forwards (w : Writer) : Effect → Prop
  | .begins _ _ => w.kind = .sourceByteWriter ∨ Unheard w
  | .beginsInMemory _ => Unheard w
  | _ => True

theorem forwards_iff (w : Writer) (registered : Registered w) :
    w.baseStatusEvents.filter (·.callback) = (registrations w.log).filter (·.callback) ↔
      w.kind = .sourceByteWriter ∨ Unheard w := by
  rw [Registered] at registered
  by_cases kind : w.kind = .sourceByteWriter
  · rw [if_pos kind] at registered
    simp [registered, kind]
  · rw [if_neg kind] at registered
    rw [registered, List.filter_nil, eq_comm, List.filter_eq_nil_iff]
    simp [kind, Unheard]

theorem begun_each (w : Writer) (announced : Option UInt64) :
    AtEach listenersTold ((w.record (.beginCalled announced)).beginWriting).log ↔ AtEach listenersTold w.log := by
  have log : ((w.record (.beginCalled announced)).beginWriting).log = (w.emitted ++ [.beginCalled announced]) ++ w.log :=
    (List.append_assoc w.emitted [.beginCalled announced] w.log).symm
  rw [log]
  refine at_each_append_iff listenersTold _ w.log fun event member older => ?_
  obtain emitted | called := List.mem_append.mp member
  · obtain ⟨status, rfl⟩ := w.mem_emitted event emitted
    trivial
  · obtain rfl := List.mem_singleton.mp called
    trivial

theorem told_in_memory (log : List Event) (announced : Option UInt64) :
    Told (.beginCalled announced :: log) ↔ ∀ event ∈ registrations log, event.callback = false := by
  rw [Told, notifications, since_mark log rfl, listeners, up_to_mark log rfl, registrations_cons]
  simp [Event.registration, eq_comm (a := []), List.filter_eq_nil_iff]

-- Events between the begins that notify nobody.
def Event.Between (event : Event) : Prop := event.begins = false ∧ event.notification = none

theorem told_append (events log : List Event) (between : ∀ event ∈ events, event.Between) :
    Told (events ++ log) ↔ Told log := by
  induction events with
  | nil => rfl
  | cons event rest ih =>
      obtain ⟨here, later⟩ := List.forall_mem_cons.mp between
      rw [List.cons_append, told_cons event _ here.1 here.2, ih later]

-- Once everybody has been told, what goes on in the transfer may report.
theorem told_each (events log : List Event) (between : ∀ event ∈ events, event.Between) (told : Told log)
    (each : AtEach listenersTold log) : AtEach listenersTold (events ++ log) := by
  induction events with
  | nil => exact each
  | cons event rest ih =>
      obtain ⟨_, later⟩ := List.forall_mem_cons.mp between
      refine ⟨?_, ih later⟩
      have before := (told_append rest log later).mpr told
      cases event <;> first | exact before | trivial

-- What a begin adds behind its notifications.
theorem begins_log (w : Writer) (announced : Option UInt64) (opens : Bool) :
    ∃ events, (∀ event ∈ events, event.Between) ∧
      (w.perform (.begins announced opens)).log =
        .beginReturned :: (events ++ ((w.record (.beginCalled announced)).beginWriting).log) := by
  rw [Writer.perform]
  generalize (w.record (.beginCalled announced)).beginWriting = begun
  cases opens with
  | false => exact ⟨[], by simp, rfl⟩
  | true =>
      cases stream : begun.stream with
      | none => exact ⟨[], by simp, by simp [Writer.openStream, stream, Writer.record]⟩
      | some isOpen =>
          refine ⟨[.reported (begun.openStream (announced.getD 0) true).1.currentProgress, .opened], ?_, ?_⟩
          · simp [Event.Between, Event.begins, Event.notification]
          · simp [Writer.openStream, stream, Writer.record, Writer.reportCurrentProgress]

theorem other_log (w : Writer) (e : Effect) (other : ∀ announced opens, e ≠ .begins announced opens)
    (source : ∀ announced, e ≠ .beginsInMemory announced) :
    ∃ events, (∀ event ∈ events, event.Between) ∧ (w.perform e).log = events ++ w.log := by
  cases e with
  | registers event =>
      refine ⟨[.registered event], by simp [Event.Between, Event.begins, Event.notification], ?_⟩
      cases kind : w.kind <;> simp [Writer.perform, Writer.registerWritingStatusEvent, kind, Writer.record]
  | sets operation =>
      refine ⟨[], by simp, ?_⟩
      cases kind : w.kind <;> simp [Writer.perform, Writer.setPostProcessOperation, kind]
  | begins announced opens => exact absurd rfl (other announced opens)
  | beginsInMemory announced => exact absurd rfl (source announced)
  | counts size =>
      refine ⟨[.reported (w.perform (.counts size)).currentProgress, _, .wrote true size], ?_, rfl⟩
      simp [Event.Between, Event.begins, Event.notification]
  | refuses size => exact ⟨[.wrote false size], by simp [Event.Between, Event.begins, Event.notification], rfl⟩
  | remembers bytes size => exact ⟨[.wrote true size], by simp [Event.Between, Event.begins, Event.notification], rfl⟩
  | ends result written =>
      refine ⟨.endReturned :: .closed :: ((if w.postprocess then [.postprocessed written] else []) ++ [.endCalled result]), ?_, ?_⟩
      · cases w.postprocess <;> simp [Event.Between, Event.begins, Event.notification]
      · cases operation : w.postprocess <;> simp [Writer.perform, Writer.closeStream, Writer.record, operation]
  | endsAside result => exact ⟨[.endReturned, .endCalled result], by simp [Event.Between, Event.begins, Event.notification], rfl⟩
  | stores succeeded => exact ⟨[.stored succeeded], by simp [Event.Between, Event.begins, Event.notification], rfl⟩
  | nothing => exact ⟨[], by simp, rfl⟩

theorem open_kept (w : Writer) (total : UInt64) (opened : Bool) :
    (w.openStream total opened).1.kind = w.kind ∧ (w.openStream total opened).1.baseStatusEvents = w.baseStatusEvents ∧
      registrations (w.openStream total opened).1.log = registrations w.log := by
  cases stream : w.stream <;> cases opened <;>
    simp [Writer.openStream, stream, Writer.record, Writer.reportCurrentProgress, registrations_cons, Event.registration]

theorem perform_registered (w : Writer) (e : Effect) (registered : Registered w) :
    Registered (w.perform e) ∧ (w.perform e).kind = w.kind := by
  rw [Registered] at registered ⊢
  cases e with
  | registers event =>
      cases kind : w.kind <;>
        simp_all [Writer.perform, Writer.registerWritingStatusEvent, Writer.record, registrations_cons, Event.registration]
  | sets operation =>
      cases kind : w.kind <;> simp_all [Writer.perform, Writer.setPostProcessOperation]
  | begins announced opens =>
      have begun : registrations ((w.record (.beginCalled announced)).beginWriting).log = registrations w.log := by
        refine (emitted_registrations w (.beginCalled announced :: w.log)).trans ?_
        simp [registrations_cons, Event.registration]
      have returned (v : Writer) (kind : v.kind = w.kind) (base : v.baseStatusEvents = w.baseStatusEvents)
          (log : registrations v.log = registrations w.log) : Registered (v.record .beginReturned) ∧ v.kind = w.kind := by
        simp [Registered, Writer.record, registrations_cons, Event.registration, kind, base, log, registered]
      obtain ⟨kind, base, same⟩ := open_kept ((w.record (.beginCalled announced)).beginWriting) (announced.getD 0) true
      rw [Writer.perform]
      cases opens with
      | false => exact returned _ rfl rfl begun
      | true => exact returned _ kind base (same.trans begun)
  | beginsInMemory announced =>
      simpa [Writer.perform, Writer.record, registrations_cons, Event.registration] using registered
  | counts size =>
      simpa [Writer.perform, Writer.countBytes, Writer.reportCurrentProgress, Writer.record, registrations_cons,
        Event.registration] using registered
  | refuses size => simpa [Writer.perform, Writer.record, registrations_cons, Event.registration] using registered
  | remembers bytes size => simpa [Writer.perform, Writer.record, registrations_cons, Event.registration] using registered
  | ends result written =>
      cases operation : w.postprocess <;>
        simpa [Writer.perform, Writer.closeStream, operation, Writer.record, registrations_cons, Event.registration] using registered
  | endsAside result => simpa [Writer.perform, Writer.record, registrations_cons, Event.registration] using registered
  | stores succeeded => simpa [Writer.perform, Writer.record, registrations_cons, Event.registration] using registered
  | nothing => exact ⟨registered, rfl⟩

theorem perform_told (w : Writer) (e : Effect) (registered : Registered w) (told : Told w.log)
    (each : AtEach listenersTold w.log) : AtEach listenersTold (w.perform e).log ↔ Forwards w e := by
  by_cases memory : ∃ announced, e = .beginsInMemory announced
  · obtain ⟨announced, rfl⟩ := memory
    rw [Forwards, Unheard, ← told_in_memory w.log announced]
    exact ⟨And.left, fun here => ⟨here, trivial, each⟩⟩
  by_cases begins : ∃ announced opens, e = .begins announced opens
  · obtain ⟨announced, opens, rfl⟩ := begins
    obtain ⟨events, between, log⟩ := begins_log w announced opens
    rw [Forwards, ← forwards_iff w registered, ← told_begun w announced, log]
    constructor
    · intro all
      exact (told_append events _ between).mp all.1
    · intro here
      have returned := told_each events _ between here ((begun_each w announced).mpr each)
      exact ⟨(told_append events _ between).mpr here, returned⟩
  · have other announced opens : e ≠ .begins announced opens := fun same => begins ⟨announced, opens, same⟩
    have source announced : e ≠ .beginsInMemory announced := fun same => memory ⟨announced, same⟩
    obtain ⟨events, between, log⟩ := other_log w e other source
    rw [log]
    refine iff_of_true (told_each events w.log between told each) ?_
    cases e with
    | begins announced opens => exact absurd rfl (other announced opens)
    | beginsInMemory announced => exact absurd rfl (source announced)
    | _ => trivial

-- What the events ask for has been told, also for the transfer that is under way.
theorem told_after (w : Writer) (e : Effect) (told : Told w.log) (each : AtEach listenersTold (w.perform e).log) :
    Told (w.perform e).log := by
  by_cases memory : ∃ announced, e = .beginsInMemory announced
  · obtain ⟨announced, rfl⟩ := memory
    exact (told_cons .beginReturned _ rfl rfl).mpr each.1
  by_cases begins : ∃ announced opens, e = .begins announced opens
  · obtain ⟨announced, opens, rfl⟩ := begins
    obtain ⟨events, between, log⟩ := begins_log w announced opens
    rw [log] at each ⊢
    exact (told_cons .beginReturned _ rfl rfl).mpr each.1
  · obtain ⟨events, between, log⟩ := other_log w e (fun announced opens same => begins ⟨announced, opens, same⟩)
      (fun announced same => memory ⟨announced, same⟩)
    rw [log]
    exact (told_append events w.log between).mpr told

theorem reachable_told (kind : WriterKind) (stream : Bool) (w : Writer) (reach : Reachable (writerMachine kind stream) w) :
    Registered w ∧ (AtEach listenersTold w.log → Told w.log) := by
  refine reachable_invariant (writerMachine kind stream) (fun w => Registered w ∧ (AtEach listenersTold w.log → Told w.log))
    ?_ ?_ w reach
  · refine ⟨?_, fun _ => rfl⟩
    cases kind <;> rfl
  · rintro w call t ⟨registered, told⟩ taken
    obtain rfl := w.step_effect call t taken
    refine ⟨(perform_registered w _ registered).1, fun each => told_after w _ (told (w.each_before _ _ each)) each⟩

theorem listeners_told_iff (kind : WriterKind) (stream : Bool) (calls : List Call) :
    Meets (writerMachine kind stream) (fun w call => Forwards w (w.effect call)) (Writer.create kind stream) calls ↔
      Always (writerMachine kind stream) (fun w => AtEach listenersTold w.log) (Writer.create kind stream) calls := by
  refine keeps_iff_always (writerMachine kind stream) (fun w call => Forwards w (w.effect call))
    (fun w => AtEach listenersTold w.log) trivial ?_ calls
  intro w call t reach each taken
  obtain ⟨registered, told⟩ := reachable_told kind stream w reach
  obtain rfl := w.step_effect call t taken
  exact perform_told w (w.effect call) registered (told each) each

-- An RDF writer that is registered with tells nobody.
theorem rdf_listener_unheard :
    ¬ Always (writerMachine .sourceRdfWriter true) (fun w => AtEach listenersTold w.log) (Writer.create .sourceRdfWriter true)
      [.registerWritingStatusEvent ⟨1, true⟩, .heartbeat ⟨.ioBegin, .success, true, .success⟩ 4096] := by
  intro always
  have last := always_here _ _ _ _ ((always.2 _ rfl).2 _ rfl)
  have told : Told _ := last.1
  revert told
  decide

end RadeonPanel.FileWriting

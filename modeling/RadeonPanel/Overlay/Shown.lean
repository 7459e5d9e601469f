import RadeonPanel.Overlay.Joining

set_option autoImplicit false

namespace RadeonPanel.Overlay.Queues

open Interleaving Ubertrace

-- The callbacks that join threads come one after the other.
def Alone (s : System) : Action → Prop
  | .begin _ call => call.joins = true → ∀ task other, (s.calls task).call = some other → other.joins = false
  | _ => True

def Allowed (s : System) (action : Action) : Prop := Fresh s action ∧ Alone s action

-- The string that the last of some calls left on a line.
def latest (of : Sent → Bool) (line : Nat) (sent : List Sent) : Option String :=
  (sent.find? fun call => of call && call.line == line).map Sent.text

def lastBy (serial line : Nat) (sent : List Sent) : Option String := latest (fun call => call.serial == serial) line sent

-- What the overlay of a connection shows.
def shownOn (id : DdConnectionId) (line : Nat) (sent : List Sent) : Option String :=
  latest (fun call => call.client == id) line sent

-- A call that has taken the threads that it joins.
def CallPc.hasTaken : CallPc → Bool
  | .joining _ _ => true
  | .locking _ => true
  | .inside _ => true
  | _ => false

-- The call of a task on its way through JoinQueueThreads.
def CallPc.joinsFor : CallPc → Option Call
  | .taking call => some call
  | .inTaking call => some call
  | .joining _ call => some call
  | _ => none

-- Every thread that still runs without a queue is waited for before its connection gets a new queue.
structure Joined (s : System) : Prop where
  joiner : ∀ first second one two, (s.calls first).call = some one → one.joins = true →
    (s.calls second).call = some two → two.joins = true → first = second
  joins : ∀ task call, (s.calls task).joinsFor = some call → call.joins = true
  opened : ∀ serial thread, s.threads serial = some thread → thread.poll = true → s.queueOf thread.client = some serial
  pending : ∀ serial thread, s.threads serial = some thread → thread.poll = false → thread.pc = .finished ∨
    serial ∈ s.joinThreads ∨ ∃ task threads call, s.calls task = .joining threads call ∧ serial ∈ threads
  cleared : ∀ task id, (s.calls task).call = some (.driverConnected id) → (s.calls task).hasTaken = true →
    ∀ serial thread, s.threads serial = some thread → thread.client = id → thread.pc = .finished ∨
      ∃ threads call, s.calls task = .joining threads call ∧ serial ∈ threads
  alone : ∀ id serial, s.queueOf id = some serial → ∀ other thread, s.threads other = some thread →
    thread.client = id → other ≠ serial → thread.pc = .finished

section Calls
variable (s t : System) (task : Nat) (pc : CallPc) (joined : Joined s)
  (state : t = { s with calls := Function.update s.calls task pc, owner := t.owner, joinThreads := t.joinThreads })
include joined state

-- A step of a call that leaves the queues alone.
theorem joined_call
    (joiner : ∀ call, pc.call = some call → call.joins = true →
      ∀ other, other ≠ task → ∀ two, (s.calls other).call = some two → two.joins = false)
    (joins : ∀ call, pc.joinsFor = some call → call.joins = true)
    (pending : ∀ serial thread, s.threads serial = some thread → thread.poll = false →
      serial ∈ s.joinThreads ∨ (∃ threads call, s.calls task = .joining threads call ∧ serial ∈ threads) →
      thread.pc = .finished ∨ serial ∈ t.joinThreads ∨ ∃ threads call, pc = .joining threads call ∧ serial ∈ threads)
    (cleared : ∀ id, pc.call = some (.driverConnected id) → pc.hasTaken = true →
      ∀ serial thread, s.threads serial = some thread → thread.client = id → thread.pc = .finished ∨
        ∃ threads call, pc = .joining threads call ∧ serial ∈ threads) : Joined t := by
  have calls : t.calls = Function.update s.calls task pc := by rw [state]
  have threads : t.threads = s.threads := by rw [state]
  have queueOf : t.queueOf = s.queueOf := by rw [state]
  have others : ∀ other, other ≠ task → t.calls other = s.calls other := fun other apart => by
    rw [calls, Function.update_of_ne apart]
  have here : t.calls task = pc := by rw [calls, Function.update_self]
  constructor
  · intro first second one two isOne oneJoins isTwo twoJoins
    by_cases isFirst : first = task
    · by_cases isSecond : second = task
      · rw [isFirst, isSecond]
      · rw [isFirst, here] at isOne
        rw [others second isSecond] at isTwo
        have none := joiner one isOne oneJoins second isSecond two isTwo
        rw [none] at twoJoins
        cases twoJoins
    · rw [others first isFirst] at isOne
      by_cases isSecond : second = task
      · rw [isSecond, here] at isTwo
        have none := joiner two isTwo twoJoins first isFirst one isOne
        rw [none] at oneJoins
        cases oneJoins
      · rw [others second isSecond] at isTwo
        exact joined.joiner first second one two isOne oneJoins isTwo twoJoins
  · rw [calls]
    exact update_calls s task pc (fun _ pc => ∀ call, pc.joinsFor = some call → call.joins = true) joins
      (fun other _ => joined.joins other)
  · rw [threads, queueOf]
    exact joined.opened
  · intro serial thread found off
    rw [threads] at found
    have own : ∀ done : thread.pc = .finished ∨ serial ∈ t.joinThreads ∨
        ∃ threads call, pc = .joining threads call ∧ serial ∈ threads, thread.pc = .finished ∨
        serial ∈ t.joinThreads ∨ ∃ task threads call, t.calls task = .joining threads call ∧ serial ∈ threads := by
      intro done
      obtain finished | listed | ⟨list, call, same, member⟩ := done
      · exact .inl finished
      · exact .inr (.inl listed)
      · exact .inr (.inr ⟨task, list, call, here.trans same, member⟩)
    obtain finished | listed | ⟨other, list, call, place, member⟩ := joined.pending serial thread found off
    · exact .inl finished
    · exact own (pending serial thread found off (.inl listed))
    · by_cases same : other = task
      · rw [same] at place
        exact own (pending serial thread found off (.inr ⟨list, call, place, member⟩))
      · exact .inr (.inr ⟨other, list, call, (others other same).trans place, member⟩)
  · rw [threads]
    refine fun other => ?_
    by_cases same : other = task
    · rw [same, here]
      exact cleared
    · rw [others other same]
      exact joined.cleared other
  · rw [threads, queueOf]
    exact joined.alone

end Calls

-- A task that goes on with its call stays the only one that joins.
theorem still_alone (s : System) (joined : Joined s) (task : Nat) (call : Call) (here : (s.calls task).call = some call)
    (joins : call.joins = true) (other : Nat) (apart : other ≠ task) (two : Call)
    (there : (s.calls other).call = some two) : two.joins = false := by
  cases twoJoins : two.joins with
  | false => rfl
  | true => exact absurd (joined.joiner other task two call there twoJoins here joins) apart

theorem joined_begin (s t : System) (task : Nat) (call : Call) (joined : Joined s) (allowed : Alone s (.begin task call))
    (next : s.begin task call = some t) : Joined t := by
  obtain ⟨idle, same⟩ := Option.ite_none_right_eq_some.mp next
  cases same
  refine joined_call s _ task _ joined rfl ?_ ?_ ?_ ?_
  · intro made isMade makes other _ two there
    have same : call = made := by
      split at isMade <;> exact Option.some.inj isMade
    subst same
    exact allowed makes other two there
  · intro other same
    split at same
    next joins =>
      cases same
      exact joins
    next => cases same
  · intro serial thread _ _ listed
    obtain listed | ⟨threads, other, place, _⟩ := listed
    · exact .inr (.inl listed)
    · rw [idle] at place
      cases place
  · intro id made taken
    split at made
    next joins =>
      rw [if_pos joins] at taken
      cases taken
    next stays =>
      cases made
      exact absurd rfl stays

theorem joined_call_step (s t : System) (task : Nat) (walk : OverlayStartupState) (sound : Sound s) (joined : Joined s)
    (outside : ∀ call, s.calls task ≠ .inside call) (next : s.callStep task walk (s.calls task) = some t) : Joined t := by
  have only := still_alone s joined task
  cases place : s.calls task with
  | returned =>
      rw [place] at next
      cases next
  | taking call =>
      rw [place] at next only
      obtain ⟨_, same⟩ := Option.ite_none_right_eq_some.mp next
      cases same
      have joins := joined.joins task call (by rw [place]; rfl)
      refine joined_call s _ task (.inTaking call) joined rfl (fun made same => only made same)
        (fun _ same => by cases same; exact joins) ?_ (fun _ _ taken => by cases taken)
      intro serial thread _ _ listed
      obtain listed | ⟨threads, other, elsewhere, _⟩ := listed
      · exact .inr (.inl listed)
      · rw [place] at elsewhere
        cases elsewhere
  | inTaking call =>
      rw [place] at next only
      cases next
      have joins := joined.joins task call (by rw [place]; rfl)
      refine joined_call s _ task (.joining s.joinThreads call) joined rfl (fun made same => only made same)
        (fun _ same => by cases same; exact joins) ?_ ?_
      · intro serial thread _ _ listed
        obtain listed | ⟨threads, other, elsewhere, _⟩ := listed
        · exact .inr (.inr ⟨_, _, rfl, listed⟩)
        · rw [place] at elsewhere
          cases elsewhere
      -- Nobody else joins, so what still runs for the connection is in the list that was taken.
      · intro id made _ serial thread found client
        cases made
        have off : thread.poll = false := by
          cases poll : thread.poll with
          | false => rfl
          | true =>
              have absent := sound.fresh task id (by rw [place]; rfl)
              rw [← client, joined.opened serial thread found poll] at absent
              cases absent
        obtain finished | listed | ⟨other, threads, two, elsewhere, _⟩ := joined.pending serial thread found off
        · exact .inl finished
        · exact .inr ⟨_, _, rfl, listed⟩
        · have twoJoins := joined.joins other two (by rw [elsewhere]; rfl)
          have same := joined.joiner other task two _ (by rw [elsewhere]; rfl) twoJoins (by rw [place]; rfl) joins
          rw [same, place] at elsewhere
          cases elsewhere
  | joining threads call =>
      rw [place] at next only
      have joins := joined.joins task call (by rw [place]; rfl)
      cases threads with
      | nil =>
          cases next
          refine joined_call s _ task _ joined rfl ?_ ?_ ?_ ?_
          · intro made same
            split at same
            · cases same
            · exact only made same
          · intro made same
            split at same <;> cases same
          · intro serial thread _ _ listed
            obtain listed | ⟨list, other, elsewhere, member⟩ := listed
            · exact .inr (.inl listed)
            · rw [place] at elsewhere
              cases elsewhere
              cases member
          · intro id made _ serial thread found client
            have announces : call = .driverConnected id := by
              split at made
              · cases made
              · exact Option.some.inj made
            obtain finished | ⟨list, other, elsewhere, member⟩ :=
              joined.cleared task id (by rw [place, announces]; rfl) (by rw [place]; rfl) serial thread found client
            · exact .inl finished
            · rw [place] at elsewhere
              cases elsewhere
              cases member
      | cons head rest =>
          obtain ⟨done, same⟩ := Option.ite_none_right_eq_some.mp next
          cases same
          -- The head has finished, the others are still in the list.
          have shrinks : ∀ serial thread, s.threads serial = some thread → serial ∈ head :: rest →
              thread.pc = .finished ∨ serial ∈ rest := by
            intro serial thread found member
            obtain same | later := List.mem_cons.mp member
            · rw [same] at found
              simp only [hasFinished, found, Option.any_some, decide_eq_true_eq] at done
              exact .inl done
            · exact .inr later
          refine joined_call s _ task (.joining rest call) joined rfl (fun made same => only made same)
            (fun _ same => by cases same; exact joins) ?_ ?_
          · intro serial thread found _ listed
            obtain listed | ⟨list, other, elsewhere, member⟩ := listed
            · exact .inr (.inl listed)
            · rw [place] at elsewhere
              cases elsewhere
              obtain finished | later := shrinks serial thread found member
              · exact .inl finished
              · exact .inr (.inr ⟨_, _, rfl, later⟩)
          · intro id made _ serial thread found client
            cases made
            obtain finished | ⟨list, other, elsewhere, member⟩ :=
              joined.cleared task id (by rw [place]; rfl) (by rw [place]; rfl) serial thread found client
            · exact .inl finished
            · rw [place] at elsewhere
              cases elsewhere
              obtain finished | later := shrinks serial thread found member
              · exact .inl finished
              · exact .inr ⟨_, _, rfl, later⟩
  | locking call =>
      rw [place] at next only
      obtain ⟨_, same⟩ := Option.ite_none_right_eq_some.mp next
      cases same
      refine joined_call s _ task (.inside call) joined rfl (fun made same => only made same) (fun _ same => by cases same) ?_ ?_
      · intro serial thread _ _ listed
        obtain listed | ⟨threads, other, elsewhere, _⟩ := listed
        · exact .inr (.inl listed)
        · rw [place] at elsewhere
          cases elsewhere
      · intro id made _ serial thread found client
        cases made
        obtain finished | ⟨threads, other, elsewhere, _⟩ :=
          joined.cleared task id (by rw [place]; rfl) (by rw [place]; rfl) serial thread found client
        · exact .inl finished
        · rw [place] at elsewhere
          cases elsewhere
  | inside call => exact absurd place (outside call)

theorem steps_unfinished (s t : System) (serial : Nat) (thread : QueueThread) (next : s.threadStep serial thread = some t) :
    thread.pc ≠ .finished := by
  intro finished
  rw [System.threadStep, finished] at next
  cases next

theorem joined_thread (s t : System) (serial : Nat) (thread : QueueThread) (joined : Joined s)
    (found : s.threads serial = some thread) (next : s.threadStep serial thread = some t) : Joined t := by
  obtain ⟨moved, _, kept, _⟩ := thread_step_moved s t serial thread next
  have left := steps_unfinished s t serial thread next
  have calls := moved_calls kept
  have queueOf : t.queueOf = s.queueOf := by rw [kept.state]
  have joinThreads : t.joinThreads = s.joinThreads := by rw [kept.state]
  -- What holds of a thread that has finished, of its client and of its flag, holds as before.
  have threads : ∀ other held, t.threads other = some held → ∃ before, s.threads other = some before ∧
      held.client = before.client ∧ held.poll = before.poll ∧ (before.pc = .finished → held.pc = .finished) := by
    intro other held there
    rw [moved_threads kept] at there
    by_cases same : other = serial
    · subst same
      rw [Function.update_self] at there
      cases there
      exact ⟨thread, found, kept.client, kept.poll, fun finished => absurd finished left⟩
    · rw [Function.update_of_ne same] at there
      exact ⟨held, there, rfl, rfl, fun finished => finished⟩
  constructor
  · rw [calls]
    exact joined.joiner
  · rw [calls]
    exact joined.joins
  · intro other held there on
    obtain ⟨before, here, client, poll, _⟩ := threads other held there
    rw [queueOf, client]
    exact joined.opened other before here (poll ▸ on)
  · intro other held there off
    obtain ⟨before, here, _, poll, finishes⟩ := threads other held there
    rw [calls, joinThreads]
    exact (joined.pending other before here (poll ▸ off)).imp_left finishes
  · intro task id made taken other held there client
    rw [calls] at made taken ⊢
    obtain ⟨before, here, same, _, finishes⟩ := threads other held there
    exact (joined.cleared task id made taken other before here (same.symm.trans client)).imp_left finishes
  · intro id queue current other held there client apart
    rw [queueOf] at current
    obtain ⟨before, here, same, _, finishes⟩ := threads other held there
    exact finishes (joined.alone id queue current other before here (same.symm.trans client) apart)

-- What a body does to the threads that joins are about.
theorem effect_threads (s t : System) (call : Call) (effect : Effect s t call) (serial : Nat)
    (thread : QueueThread) (there : t.threads serial = some thread) : (∃ before, s.threads serial = some before ∧
      thread.client = before.client ∧ thread.pc = before.pc ∧ thread.taken = before.taken) ∨
    ∃ id, call = .driverConnected id ∧ serial = s.created ∧ thread = ⟨id, true, [], 0, .polling⟩ ∧ t.queueOf id = some serial := by
  cases effect with
  | grown manager clockInfo grows state =>
      rw [state] at there
      exact .inl ⟨thread, there, rfl, rfl, rfl⟩
  | connected id made absent startup state =>
      rw [state] at there ⊢
      by_cases same : serial = s.created
      · subst same
        simp only [Function.update_self, Option.some.injEq] at there
        exact .inr ⟨id, made, rfl, there.symm, Function.update_self _ _ _⟩
      · simp only [Function.update_of_ne same] at there
        exact .inl ⟨thread, there, rfl, rfl, rfl⟩
  | disconnected id closing found state =>
      rw [state] at there
      by_cases same : serial = closing
      · subst same
        simp only [Function.update_self] at there
        obtain ⟨before, here, closed⟩ := Option.map_eq_some_iff.mp there
        subst closed
        exact .inl ⟨before, here, rfl, rfl, rfl⟩
      · simp only [Function.update_of_ne same] at there
        exact .inl ⟨thread, there, rfl, rfl, rfl⟩

section Inside
variable (s t : System) (call : Call) (joined : Joined s) (effect : Effect s t call)
include joined effect

theorem effect_opened (fresh : ∀ id, call = .driverConnected id → s.queueOf id = none) (serial : Nat)
    (thread : QueueThread) (there : t.threads serial = some thread) (on : thread.poll = true) : t.queueOf thread.client = some serial := by
  cases effect with
  | grown manager clockInfo grows state =>
      rw [state] at there ⊢
      exact joined.opened serial thread there on
  | connected id made absent startup state =>
      rw [state] at there ⊢
      by_cases same : serial = s.created
      · subst same
        simp only [Function.update_self, Option.some.injEq] at there
        subst there
        exact Function.update_self _ _ _
      · simp only [Function.update_of_ne same] at there
        have queue := joined.opened serial thread there on
        have apart : thread.client ≠ id := by
          intro same
          rw [same, fresh id made] at queue
          cases queue
        simp only [Function.update_of_ne apart, queue]
  | disconnected id closing found state =>
      rw [state] at there ⊢
      by_cases same : serial = closing
      · subst same
        simp only [Function.update_self] at there
        obtain ⟨before, _, closed⟩ := Option.map_eq_some_iff.mp there
        subst closed
        cases on
      · simp only [Function.update_of_ne same] at there
        have queue := joined.opened serial thread there on
        have apart : thread.client ≠ id := by
          intro equal
          rw [equal, found] at queue
          exact same (Option.some.inj queue).symm
        simp only [Function.update_of_ne apart, queue]

theorem effect_pending (serial : Nat) (thread : QueueThread) (there : t.threads serial = some thread)
    (off : thread.poll = false) : thread.pc = .finished ∨ serial ∈ t.joinThreads ∨
      ∃ task threads call, s.calls task = .joining threads call ∧ serial ∈ threads := by
  cases effect with
  | grown manager clockInfo grows state =>
      rw [state] at there ⊢
      exact joined.pending serial thread there off
  | connected id made absent startup state =>
      rw [state] at there ⊢
      by_cases same : serial = s.created
      · subst same
        simp only [Function.update_self, Option.some.injEq] at there
        subst there
        cases off
      · simp only [Function.update_of_ne same] at there
        exact joined.pending serial thread there off
  | disconnected id closing found state =>
      rw [state] at there ⊢
      by_cases same : serial = closing
      · exact .inr (.inl (by simp [same]))
      · simp only [Function.update_of_ne same] at there
        obtain finished | listed | held := joined.pending serial thread there off
        · exact .inl finished
        · exact .inr (.inl (List.mem_append_left _ listed))
        · exact .inr (.inr held)

theorem effect_alone (cleared : ∀ id, call = .driverConnected id → ∀ serial thread, s.threads serial = some thread →
      thread.client = id → thread.pc = .finished)
    (id : DdConnectionId) (queue : Nat) (current : t.queueOf id = some queue) (serial : Nat) (thread : QueueThread)
    (there : t.threads serial = some thread) (client : thread.client = id) (apart : serial ≠ queue) :
    thread.pc = .finished := by
  obtain ⟨before, here, same, pc, _⟩ | ⟨new, _, _, made, first⟩ := effect_threads s t call effect serial thread there
  · rw [pc]
    have of : before.client = id := same.symm.trans client
    by_cases connects : call = .driverConnected id
    · exact cleared id connects serial before here of
    · have kept : s.queueOf id = some queue := by
        cases effect with
        | grown manager clockInfo grows state => rw [state] at current; exact current
        | connected other made absent startup state =>
            rw [state] at current
            have differs : id ≠ other := fun same => connects (by rw [made, same])
            simpa only [Function.update_of_ne differs] using current
        | disconnected other closing found state =>
            rw [state] at current
            by_cases equal : id = other
            · subst equal
              simp only [Function.update_self, reduceCtorEq] at current
            · simpa only [Function.update_of_ne equal] using current
      exact joined.alone id queue kept serial before here of apart
  · rw [made] at client
    rw [show new = id from client, current] at first
    exact absurd (Option.some.inj first).symm apart

end Inside

theorem joined_inside (s next : System) (task : Nat) (call : Call) (sound : Sound s) (joined : Joined s)
    (place : s.calls task = .inside call) (effect : Effect s next call) :
    Joined { next.setCall task .returned with owner := none } := by
  have fresh : ∀ id, call = .driverConnected id → s.queueOf id = none := fun id made =>
    sound.fresh task id (by rw [place, made]; rfl)
  have cleared : ∀ id, call = .driverConnected id → ∀ serial thread, s.threads serial = some thread →
      thread.client = id → thread.pc = .finished := by
    intro id made serial thread found client
    obtain finished | ⟨threads, other, elsewhere, _⟩ :=
      joined.cleared task id (by rw [place, made]; rfl) (by rw [place]; rfl) serial thread found client
    · exact finished
    · rw [place] at elsewhere
      cases elsewhere
  obtain ⟨calls, _, _⟩ := effect_frames s next call effect
  have updated : (next.setCall task .returned).calls = Function.update s.calls task .returned := by
    rw [System.setCall, calls]
  have others : ∀ other, other ≠ task → Function.update s.calls task CallPc.returned other = s.calls other :=
    fun other apart => Function.update_of_ne apart _ _
  have differs : ∀ other made, (Function.update s.calls task CallPc.returned other).call = some made → other ≠ task := by
    intro other made isMade same
    rw [same, Function.update_self] at isMade
    cases isMade
  constructor
  · simp only [updated]
    intro first second one two isOne oneJoins isTwo twoJoins
    rw [others first (differs first one isOne)] at isOne
    rw [others second (differs second two isTwo)] at isTwo
    exact joined.joiner first second one two isOne oneJoins isTwo twoJoins
  · simp only [updated]
    exact update_calls s task .returned (fun _ pc => ∀ call, pc.joinsFor = some call → call.joins = true)
      (fun _ same => by cases same) (fun other _ => joined.joins other)
  · exact effect_opened s next call joined effect fresh
  · intro serial thread found off
    obtain finished | listed | ⟨other, threads, two, elsewhere, member⟩ :=
      effect_pending s next call joined effect serial thread found off
    · exact .inl finished
    · exact .inr (.inl listed)
    · have apart : other ≠ task := by
        intro same
        rw [same, place] at elsewhere
        cases elsewhere
      refine .inr (.inr ⟨other, threads, two, ?_, member⟩)
      rw [updated, others other apart, elsewhere]
  · simp only [updated]
    intro other id made taken serial thread found client
    have apart := differs other _ made
    rw [others other apart] at made taken ⊢
    obtain ⟨before, here, same, pc, _⟩ | ⟨new, connects, _, thread_new, _⟩ :=
      effect_threads s next call effect serial thread found
    · rw [pc]
      exact joined.cleared other id made taken serial before here (same.symm.trans client)
    · rw [thread_new] at client
      have equal : new = id := client
      exact absurd (sound.single other task id made (by rw [place, connects, equal]; rfl)) apart
  · exact effect_alone s next call joined effect cleared

theorem joined_start (hasDriverUtils : Bool) : Joined (start hasDriverUtils) where
  joiner := fun _ _ _ _ made => by cases made
  joins := fun _ _ made => by cases made
  opened := fun _ _ found => by cases found
  pending := fun _ _ found => by cases found
  cleared := fun _ _ made => by cases made
  alone := fun _ _ current => by cases current

theorem joined_step (s t : System) (action : Action) (sound : Sound s) (joined : Joined s) (allowed : Alone s action)
    (next : s.next action = some t) : Joined t := by
  cases action with
  | begin task call => exact joined_begin s t task call joined allowed next
  | caller task walk =>
      by_cases inside : ∃ call, s.calls task = .inside call
      · obtain ⟨call, place⟩ := inside
        rw [System.next, place, System.callStep] at next
        obtain ⟨after, body, same⟩ := Option.map_eq_some_iff.mp next
        cases same
        exact joined_inside s after task call sound joined place (body_effect s after walk call sound.known body)
      · exact joined_call_step s t task walk sound joined (fun call place => inside ⟨call, place⟩) next
  | thread serial =>
      obtain ⟨thread, found, stepped⟩ := Option.bind_eq_some_iff.mp next
      exact joined_thread s t serial thread joined found stepped

-- The function that a thread has taken and not yet finished.
def undone : ThreadPc → List Job
  | .running job => [job]
  | .reading => [.setDeviceClocks]
  | .sending _ => [.setDeviceClocks]
  | .polling => []
  | .waiting => []
  | .finished => []

-- A thread has sent the strings of the oldest functions of its queue, in their order.
def Performed (jobs : List Job) (sent : List Sent) (serial : Nat) (thread : QueueThread) : Prop :=
  thread.taken ≤ jobs.length ∧ ∃ done, jobs.take thread.taken = done ++ undone thread.pc ∧
    ∀ feature, lastBy serial (lineOf feature) sent = done.reverse.findSome? (Job.stringFor feature)

theorem line_of_injective (one two : OverlayFeature) (same : lineOf one = lineOf two) : one = two := by
  cases one <;> cases two <;> first | rfl | cases same

theorem line_of_ne_clocks (feature : OverlayFeature) : kDeviceClocksIndex ≠ lineOf feature := by
  cases feature <;> decide

theorem latest_cons (of : Sent → Bool) (line : Nat) (call : Sent) (sent : List Sent) :
    latest of line (call :: sent) = if of call = true ∧ call.line = line then some call.text else latest of line sent := by
  rw [latest, List.find?_cons]
  by_cases mine : of call = true ∧ call.line = line
  · rw [if_pos mine]
    simp [mine.1, mine.2]
  · rw [if_neg mine]
    have skipped : (of call && call.line == line) = false := by
      cases here : of call with
      | false => rfl
      | true => simpa [here] using mine
    rw [skipped]
    rfl

theorem last_by_cons (serial line : Nat) (call : Sent) (sent : List Sent) : lastBy serial line (call :: sent) =
    if call.serial = serial ∧ call.line = line then some call.text else lastBy serial line sent := by
  rw [lastBy, latest_cons]
  simp only [beq_iff_eq]
  rfl

theorem shown_on_cons (id : DdConnectionId) (line : Nat) (call : Sent) (sent : List Sent) : shownOn id line (call :: sent) =
    if call.client = id ∧ call.line = line then some call.text else shownOn id line sent := by
  rw [shownOn, latest_cons]
  simp only [beq_iff_eq]
  rfl

section Thread
variable (s t : System) (serial : Nat) (thread : QueueThread) (performed : Performed (s.jobs thread) s.sent serial thread)
include performed

theorem performed_idle (pc : ThreadPc) (was : undone thread.pc = []) (is : undone pc = []) :
    Performed (s.jobs thread) s.sent serial { thread with pc := pc } := by
  obtain ⟨within, done, taken, last⟩ := performed
  exact ⟨within, done, by rw [is, ← was]; exact taken, last⟩

-- The string of a feature goes to the line of that feature only.
theorem performed_feature (feature : OverlayFeature) (state : OverlayState)
    (pc : thread.pc = .running (.setFeature feature state)) : Performed (s.jobs thread)
      (⟨serial, thread.client, lineOf feature, overlayString feature state⟩ :: s.sent) serial { thread with pc := .polling } := by
  obtain ⟨within, done, taken, last⟩ := performed
  refine ⟨within, done ++ [.setFeature feature state], ?_, fun other => ?_⟩
  · rw [pc] at taken
    simp only [taken, undone, List.append_nil]
  · rw [last_by_cons, List.reverse_append, List.reverse_singleton, List.singleton_append, List.findSome?_cons, last other]
    by_cases same : feature = other
    · subst same
      simp [Job.stringFor]
    · have apart : lineOf feature ≠ lineOf other := fun equal => same (line_of_injective feature other equal)
      simp [Job.stringFor, same, apart]

theorem performed_clocks (sent : List Sent) (pc : undone thread.pc = [.setDeviceClocks])
    (same : ∀ feature, lastBy serial (lineOf feature) sent = lastBy serial (lineOf feature) s.sent) :
    Performed (s.jobs thread) sent serial { thread with pc := .polling } := by
  obtain ⟨within, done, taken, last⟩ := performed
  refine ⟨within, done ++ [.setDeviceClocks], ?_, fun other => ?_⟩
  · rw [taken, pc]
    simp only [undone, List.append_nil]
  · rw [same, List.reverse_append, List.reverse_singleton, List.singleton_append, List.findSome?_cons, last other]
    rfl

theorem performed_take (waiting : thread.pc = .waiting) : ∃ moved,
    (s.takeJob serial thread).threads = Function.update s.threads serial (some moved) ∧
    (s.takeJob serial thread).sent = s.sent ∧ Performed (s.jobs thread) s.sent serial moved := by
  have idle : undone thread.pc = [] := by rw [waiting, undone]
  cases head : (s.jobs thread)[thread.taken]? with
  | none =>
      refine ⟨{ thread with pc := .polling }, ?_, ?_, performed_idle s serial thread performed .polling idle rfl⟩
      · simp only [System.takeJob, head]
        rfl
      · simp only [System.takeJob, head]
        rfl
  | some job =>
      by_cases on : thread.poll = true
      · refine ⟨{ thread with taken := thread.taken + 1, pc := .running job }, ?_, ?_, ?_⟩
        · simp only [System.takeJob, head, if_pos on]
          rfl
        · simp only [System.takeJob, head, if_pos on]
          rfl
        · obtain ⟨within, done, taken, last⟩ := performed
          obtain ⟨more, _⟩ := List.getElem?_eq_some_iff.mp head
          refine ⟨more, done, ?_, last⟩
          rw [List.take_add_one, taken, head, idle, List.append_nil]
          rfl
      · refine ⟨{ thread with pc := .finished }, ?_, ?_, performed_idle s serial thread performed .finished idle rfl⟩
        · simp only [System.takeJob, head, if_neg on]
          rfl
        · simp only [System.takeJob, head, if_neg on]
          rfl

theorem performed_step (next : s.threadStep serial thread = some t) : ∃ moved,
    t.threads = Function.update s.threads serial (some moved) ∧ Performed (s.jobs thread) t.sent serial moved := by
  rw [System.threadStep] at next
  split at next
  next pc =>
    cases next
    refine ⟨_, rfl, performed_idle s serial thread performed _ (by rw [pc, undone]) ?_⟩
    cases thread.poll <;> rfl
  next pc =>
    cases next
    obtain ⟨moved, threads, sent, after⟩ := performed_take s serial thread performed pc
    exact ⟨moved, threads, by rw [sent]; exact after⟩
  next pc =>
    cases next
    exact ⟨_, rfl, performed_feature s serial thread performed _ _ pc⟩
  next pc =>
    obtain ⟨_, same⟩ := Option.ite_none_right_eq_some.mp next
    cases same
    obtain ⟨within, done, taken, last⟩ := performed
    exact ⟨_, rfl, within, done, by rw [pc] at taken; exact taken, last⟩
  next pc =>
    cases next
    obtain ⟨within, done, taken, last⟩ := performed
    by_cases empty : getDeviceClocksString s.clockInfo = ""
    · refine ⟨{ thread with pc := .polling }, ?_, ?_⟩
      · simp only [System.readClocks, if_pos empty]
        rfl
      · exact performed_clocks s serial thread ⟨within, done, taken, last⟩ _ (by rw [pc, undone]) (fun _ => rfl)
    · refine ⟨{ thread with pc := .sending (getDeviceClocksString s.clockInfo) }, ?_, within, done, ?_, last⟩
      · simp only [System.readClocks, if_neg empty]
        rfl
      · rw [pc] at taken
        exact taken
  next pc =>
    cases next
    refine ⟨_, rfl, performed_clocks s serial thread performed _ (by rw [pc, undone]) (fun feature => ?_)⟩
    rw [System.send, last_by_cons, if_neg (fun both => line_of_ne_clocks feature both.2)]
  next => cases next

end Thread

structure Logged (s : System) : Prop where
  performed : ∀ serial thread, s.threads serial = some thread → Performed (s.jobs thread) s.sent serial thread
  logged : ∀ call ∈ s.sent, ∃ thread, s.threads call.serial = some thread ∧ thread.client = call.client
  shown : ∀ id serial, s.queueOf id = some serial → ∀ line text,
    lastBy serial line s.sent = some text → shownOn id line s.sent = some text

theorem logged_same (s t : System) (logged : Logged s) (threads : t.threads = s.threads) (manager : t.manager = s.manager)
    (queueOf : t.queueOf = s.queueOf) (sent : t.sent = s.sent) : Logged t := by
  have jobs : ∀ thread, t.jobs thread = s.jobs thread := fun thread => by rw [System.jobs, System.jobs, manager]
  constructor
  · simp only [jobs, threads, sent]
    exact logged.performed
  · rw [threads, sent]
    exact logged.logged
  · rw [queueOf, sent]
    exact logged.shown

-- A string of another thread is for another connection, or the thread has a queue that is gone.
theorem logged_thread (s t : System) (serial : Nat) (thread : QueueThread) (sound : Sound s) (joined : Joined s) (logged : Logged s)
    (found : s.threads serial = some thread) (next : s.threadStep serial thread = some t) : Logged t := by
  obtain ⟨kept, _, move, _⟩ := thread_step_moved s t serial thread next
  obtain ⟨moved, threads, performed⟩ := performed_step s t serial thread (logged.performed serial thread found) next
  have same : moved = kept := by
    have both := congrFun (threads.symm.trans (moved_threads move)) serial
    simpa only [Function.update_self, Option.some.injEq] using both
  subst same
  have manager : t.manager = s.manager := by rw [move.state]
  have queueOf : t.queueOf = s.queueOf := by rw [move.state]
  have jobs : ∀ held, t.jobs held = s.jobs held := fun held => by rw [System.jobs, System.jobs, manager]
  have sent := thread_step_sent s t serial thread next
  constructor
  · intro other held there
    rw [jobs]
    by_cases same : other = serial
    · subst same
      rw [threads, Function.update_self] at there
      cases there
      have jobs_same : s.jobs moved = s.jobs thread := by
        rw [System.jobs, System.jobs, move.poll, move.client, move.left]
      rw [jobs_same]
      exact performed
    · rw [threads, Function.update_of_ne same] at there
      obtain ⟨within, done, taken, last⟩ := logged.performed other held there
      refine ⟨within, done, taken, fun feature => ?_⟩
      obtain unsent | ⟨line, text, more⟩ := sent
      · rw [unsent, last feature]
      · rw [more, last_by_cons, if_neg (fun both => same both.1.symm), last feature]
  · intro call member
    have before : call ∈ s.sent ∨ (call.serial = serial ∧ call.client = thread.client) := by
      obtain unsent | ⟨line, text, more⟩ := sent
      · exact .inl (unsent ▸ member)
      · rw [more] at member
        obtain same | old := List.mem_cons.mp member
        · exact .inr (by rw [same]; exact ⟨rfl, rfl⟩)
        · exact .inl old
    rw [threads]
    by_cases mine : call.serial = serial
    · rw [mine, Function.update_self]
      refine ⟨moved, rfl, ?_⟩
      obtain old | ⟨_, client⟩ := before
      · obtain ⟨held, there, client⟩ := logged.logged call old
        rw [mine] at there
        cases found.symm.trans there
        exact move.client.trans client
      · rw [client, move.client]
    · obtain old | ⟨same, _⟩ := before
      · rw [Function.update_of_ne mine]
        exact logged.logged call old
      · exact absurd same mine
  · intro id queue current line text last
    rw [queueOf] at current
    obtain unsent | ⟨sentLine, sentText, more⟩ := sent
    · rw [unsent] at last ⊢
      exact logged.shown id queue current line text last
    · rw [more, last_by_cons] at last
      rw [more, shown_on_cons]
      by_cases client : thread.client = id
      · have mine : serial = queue := by
          by_cases same : serial = queue
          · exact same
          · have finished := joined.alone id queue current serial thread found client same
            exact absurd finished (steps_unfinished s t serial thread next)
        by_cases here : sentLine = line
        · rw [if_pos ⟨mine, here⟩] at last
          rw [if_pos ⟨client, here⟩, last]
        · rw [if_neg (fun both => here both.2)] at last
          rw [if_neg (fun both => here both.2)]
          exact logged.shown id queue current line text last
      · rw [if_neg (fun both => client both.1)]
        by_cases mine : serial = queue ∧ sentLine = line
        · obtain ⟨held, there, of, _⟩ := sound.queue id queue current
          rw [← mine.1, found] at there
          cases there
          exact absurd of client
        · rw [if_neg mine] at last
          exact logged.shown id queue current line text last

theorem effect_forward (s t : System) (call : Call) (sound : Sound s) (effect : Effect s t call) (serial : Nat)
    (thread : QueueThread) (here : s.threads serial = some thread) :
    ∃ after, t.threads serial = some after ∧ after.client = thread.client := by
  cases effect with
  | grown manager clockInfo grows state => rw [state]; exact ⟨thread, here, rfl⟩
  | connected id made absent startup state =>
      have apart : serial ≠ s.created := by
        intro same
        cases (sound.unmade serial (by omega)).symm.trans here
      rw [state]
      exact ⟨thread, by simp only [Function.update_of_ne apart, here], rfl⟩
  | disconnected id closing found state =>
      rw [state]
      by_cases same : serial = closing
      · subst same
        exact ⟨s.closed id thread, by simp only [Function.update_self, here, Option.map_some], rfl⟩
      · exact ⟨thread, by simp only [Function.update_of_ne same, here], rfl⟩

theorem unmade_unsent (s : System) (sound : Sound s) (logged : Logged s) (line : Nat) : lastBy s.created line s.sent = none := by
  rw [lastBy, latest, Option.map_eq_none_iff, List.find?_eq_none]
  intro call member mine
  obtain ⟨thread, there, _⟩ := logged.logged call member
  simp only [Bool.and_eq_true, beq_iff_eq] at mine
  rw [mine.1, sound.unmade _ (Nat.le_refl _)] at there
  cases there

theorem performed_grows (jobs more : List Job) (sent : List Sent) (serial : Nat) (thread : QueueThread)
    (performed : Performed jobs sent serial thread) : Performed (jobs ++ more) sent serial thread := by
  obtain ⟨within, done, taken, last⟩ := performed
  exact ⟨by rw [List.length_append]; omega, done, by rw [List.take_append_of_le_length within, taken], last⟩

theorem effect_performed (s t : System) (call : Call) (sound : Sound s) (joined : Joined s) (logged : Logged s)
    (effect : Effect s t call) (serial : Nat) (thread : QueueThread) (there : t.threads serial = some thread) :
    Performed (t.jobs thread) s.sent serial thread := by
  cases effect with
  | grown manager clockInfo grows state =>
      rw [state] at there ⊢
      have before := logged.performed serial thread there
      rw [System.jobs] at before ⊢
      by_cases on : thread.poll = true
      · rw [if_pos on] at before ⊢
        cases queue : s.manager.queues thread.client with
        | none =>
            rw [queue] at before
            rw [(grows thread.client).1 queue]
            exact before
        | some jobs =>
            obtain ⟨more, grown⟩ := (grows thread.client).2 jobs queue
            rw [queue, Option.getD_some] at before
            rw [grown, Option.getD_some, List.reverse_append]
            exact performed_grows _ _ _ _ _ before
      · rw [if_neg on] at before ⊢
        exact before
  | connected id made absent startup state =>
      rw [state] at there ⊢
      by_cases same : serial = s.created
      · subst same
        simp only [Function.update_self, Option.some.injEq] at there
        subst there
        refine ⟨Nat.zero_le _, [], by simp [undone], fun feature => ?_⟩
        exact unmade_unsent s sound logged _
      · simp only [Function.update_of_ne same] at there
        have before := logged.performed serial thread there
        -- A queue that is made is as empty as none.
        have jobs : (Function.update s.manager.queues id (some []) thread.client).getD [] =
            (s.manager.queues thread.client).getD [] := by
          by_cases client : thread.client = id
          · rw [client, Function.update_self, absent]
            rfl
          · rw [Function.update_of_ne client]
        rw [System.jobs] at before ⊢
        simp only [jobs]
        exact before
  | disconnected id closing found state =>
      rw [state] at there ⊢
      by_cases same : serial = closing
      · subst same
        simp only [Function.update_self] at there
        obtain ⟨held, here, closed⟩ := Option.map_eq_some_iff.mp there
        subst closed
        obtain ⟨other, again, client, on⟩ := sound.queue id serial found
        cases here.symm.trans again
        have before := logged.performed serial held here
        rw [System.jobs, if_pos on, client] at before
        exact before
      · simp only [Function.update_of_ne same] at there
        have before := logged.performed serial thread there
        rw [System.jobs] at before ⊢
        by_cases on : thread.poll = true
        · rw [if_pos on] at before ⊢
          have apart : thread.client ≠ id := by
            intro client
            have queue := joined.opened serial thread there on
            rw [client, found] at queue
            exact same (Option.some.inj queue).symm
          have kept : (s.manager.onDriverDisconnected id).queues thread.client = s.manager.queues thread.client :=
            Function.update_of_ne apart _ _
          rw [kept]
          exact before
        · rw [if_neg on] at before ⊢
          exact before

theorem effect_shown (s t : System) (call : Call) (sound : Sound s) (logged : Logged s) (effect : Effect s t call)
    (id : DdConnectionId) (serial : Nat) (current : t.queueOf id = some serial) (line : Nat) (text : String)
    (last : lastBy serial line s.sent = some text) : shownOn id line s.sent = some text := by
  cases effect with
  | grown manager clockInfo grows state =>
      rw [state] at current
      exact logged.shown id serial current line text last
  | connected new made absent startup state =>
      rw [state] at current
      by_cases same : id = new
      · subst same
        simp only [Function.update_self, Option.some.injEq] at current
        rw [← current, unmade_unsent s sound logged line] at last
        cases last
      · simp only [Function.update_of_ne same] at current
        exact logged.shown id serial current line text last
  | disconnected old closing found state =>
      rw [state] at current
      by_cases same : id = old
      · subst same
        simp only [Function.update_self, reduceCtorEq] at current
      · simp only [Function.update_of_ne same] at current
        exact logged.shown id serial current line text last

theorem logged_inside (s next : System) (task : Nat) (call : Call) (sound : Sound s) (joined : Joined s) (logged : Logged s)
    (effect : Effect s next call) : Logged { next.setCall task .returned with owner := none } := by
  obtain ⟨_, _, sent⟩ := effect_frames s next call effect
  have after : Logged next := by
    constructor
    · rw [sent]
      exact effect_performed s next call sound joined logged effect
    · rw [sent]
      intro made member
      obtain ⟨thread, here, client⟩ := logged.logged made member
      obtain ⟨moved, there, same⟩ := effect_forward s next call sound effect _ thread here
      exact ⟨moved, there, same.trans client⟩
    · rw [sent]
      exact effect_shown s next call sound logged effect
  exact logged_same next _ after rfl rfl rfl rfl

theorem call_step_same (s t : System) (task : Nat) (walk : OverlayStartupState)
    (outside : ∀ call, s.calls task ≠ .inside call) (next : s.callStep task walk (s.calls task) = some t) :
    t.threads = s.threads ∧ t.manager = s.manager ∧ t.queueOf = s.queueOf ∧ t.sent = s.sent := by
  cases place : s.calls task with
  | returned => rw [place] at next; cases next
  | taking call =>
      rw [place] at next
      obtain ⟨_, same⟩ := Option.ite_none_right_eq_some.mp next
      cases same
      exact ⟨rfl, rfl, rfl, rfl⟩
  | inTaking call =>
      rw [place] at next
      cases next
      exact ⟨rfl, rfl, rfl, rfl⟩
  | joining threads call =>
      rw [place] at next
      cases threads with
      | nil =>
          cases next
          exact ⟨rfl, rfl, rfl, rfl⟩
      | cons serial rest =>
          obtain ⟨_, same⟩ := Option.ite_none_right_eq_some.mp next
          cases same
          exact ⟨rfl, rfl, rfl, rfl⟩
  | locking call =>
      rw [place] at next
      obtain ⟨_, same⟩ := Option.ite_none_right_eq_some.mp next
      cases same
      exact ⟨rfl, rfl, rfl, rfl⟩
  | inside call => exact absurd place (outside call)

theorem logged_step (s t : System) (action : Action) (sound : Sound s) (joined : Joined s) (logged : Logged s)
    (next : s.next action = some t) : Logged t := by
  cases action with
  | begin task call =>
      obtain ⟨_, same⟩ := Option.ite_none_right_eq_some.mp next
      cases same
      exact logged_same s _ logged rfl rfl rfl rfl
  | caller task walk =>
      by_cases inside : ∃ call, s.calls task = .inside call
      · obtain ⟨call, place⟩ := inside
        rw [System.next, place, System.callStep] at next
        obtain ⟨after, body, same⟩ := Option.map_eq_some_iff.mp next
        cases same
        exact logged_inside s after task call sound joined logged (body_effect s after walk call sound.known body)
      · obtain ⟨threads, manager, queueOf, sent⟩ :=
          call_step_same s t task walk (fun call place => inside ⟨call, place⟩) next
        exact logged_same s t logged threads manager queueOf sent
  | thread serial =>
      obtain ⟨thread, found, stepped⟩ := Option.bind_eq_some_iff.mp next
      exact logged_thread s t serial thread sound joined logged found stepped

theorem logged_start (hasDriverUtils : Bool) : Logged (start hasDriverUtils) where
  performed := fun _ _ found => by cases found
  logged := fun _ member => by cases member
  shown := fun _ _ current => by cases current

structure Consistent (s : System) : Prop where
  sound : Sound s
  joined : Joined s
  logged : Logged s

theorem consistent_reachable (hasDriverUtils : Bool) (s : System)
    (reach : Reach (overlayQueues hasDriverUtils) Allowed s) : Consistent s := by
  refine reach_invariant (overlayQueues hasDriverUtils) Allowed Consistent
    ⟨sound_start hasDriverUtils, joined_start hasDriverUtils, logged_start hasDriverUtils⟩ ?_ s reach
  intro s action t _ before allowed next
  exact ⟨sound_step s t action before.sound allowed.1 next, joined_step s t action before.sound before.joined allowed.2 next,
    logged_step s t action before.sound before.joined before.logged next⟩

-- Once the thread of a connected client has performed what is in its queue, the overlay shows the
-- string that was enqueued last for each feature, also where an earlier client had the same id.
theorem overlay_shows_last (hasDriverUtils : Bool) (s : System) (reach : Reach (overlayQueues hasDriverUtils) Allowed s)
    (id : DdConnectionId) (serial : Nat) (thread : QueueThread) (current : s.queueOf id = some serial)
    (found : s.threads serial = some thread) (idle : undone thread.pc = []) (drained : thread.taken = (s.jobs thread).length)
    (feature : OverlayFeature) (text : String) (last : s.manager.lastString id feature = some text) :
    shownOn id (lineOf feature) s.sent = some text := by
  have consistent := consistent_reachable hasDriverUtils s reach
  obtain ⟨held, there, client, on⟩ := consistent.sound.queue id serial current
  cases found.symm.trans there
  obtain ⟨_, done, taken, sent⟩ := consistent.logged.performed serial thread found
  rw [drained, List.take_length, idle, List.append_nil] at taken
  apply consistent.logged.shown id serial current
  rw [sent feature, ← taken, System.jobs, if_pos on, List.reverse_reverse, client]
  exact last

theorem quiet_allowed (s : System) (action : Action) (quiet : action.quiet = true) : Allowed s action := by
  refine ⟨quiet_fresh s action quiet, ?_⟩
  cases action with
  | begin task call =>
      intro joins
      rw [Action.quiet, joins] at quiet
      cases quiet
  | caller => trivial
  | thread => trivial

def drains : List Action :=
  [.begin 1 (.routerConnected true), .caller 1 [], .caller 1 [], .caller 0 [], .caller 0 [], .caller 0 [], .caller 0 [], .caller 0 [],
    .begin 1 (.driverStateChanged 5 .deviceInit), .caller 1 [],
    .caller 1 [(.rgp, .inactive), (.rmv, .inactive), (.rra, .inactive), (.rgd, .inactive)],
    .begin 2 (.updateFeatureState 5 .rgp .capturing), .caller 2 [], .caller 2 []] ++
    List.replicate 19 (.thread 0)

theorem drained_shows_last : ∃ s : System, s.queueOf 5 = some 0 ∧
    s.manager.lastString 5 .rgp = some "RGP Profiling: Capturing" ∧
    shownOn 5 0 s.sent = some "RGP Profiling: Capturing" := by
  have reach : Reach (overlayQueues true) Allowed announced :=
    .step (start true) _ (.begin 0 (.driverConnected 5)) .init
      ⟨⟨rfl, fun _ made => by cases made⟩, fun _ _ _ made => by cases made⟩ rfl
  have finds : (exec (overlayQueues true) announced drains).any (fun s =>
      s.queueOf 5 == some 0 && s.manager.lastString 5 .rgp == some "RGP Profiling: Capturing" &&
      (s.threads 0).any (fun thread => undone thread.pc == [] && thread.taken == (s.jobs thread).length)) = true := by
    decide +kernel
  obtain ⟨s, run, found⟩ := (Option.any_eq_true _ _).mp finds
  simp only [Bool.and_eq_true, beq_iff_eq] at found
  obtain ⟨⟨current, last⟩, thread⟩ := found
  obtain ⟨thread, here, idle⟩ := (Option.any_eq_true _ _).mp thread
  simp only [Bool.and_eq_true, beq_iff_eq] at idle
  have arrived := quiet_reach true Allowed (fun s action => quiet_allowed s action) drains (by decide) announced s reach run
  exact ⟨s, current, last, overlay_shows_last true s arrived 5 0 thread current here idle.1 idle.2 .rgp _ last⟩

end RadeonPanel.Overlay.Queues

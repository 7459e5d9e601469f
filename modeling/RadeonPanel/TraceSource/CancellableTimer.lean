import RadeonPanel.Base.History
import RadeonPanel.Base.Ranks

set_option autoImplicit false

namespace RadeonPanel.TraceSource.Timers

open Interleaving

inductive Party where
  | controller
  | timer
deriving DecidableEq, Repr

-- Where the timer's thread stands: in front of its lock, in the wait (which gives the mutex
-- away), behind the wait with the mutex, and in front of, in and behind its callback.
inductive ThreadPc where
  | ready
  | waiting
  | decided (wasCancelled : Bool)
  | calling (wasCancelled : Bool)
  | running (wasCancelled : Bool)
  | finished
deriving DecidableEq, Repr

-- Start cancels first, and the destructor does nothing else.
inductive ControllerCall where
  | start
  | cancel
  | destroy
deriving DecidableEq, Repr

inductive ControllerPc where
  | idle
  | cancelling (call : ControllerCall)
  | raising (call : ControllerCall)
  | notifying (call : ControllerCall)
  | joining (call : ControllerCall)
  | resetting
  | lowering
  | spawning
  | destroyed
deriving DecidableEq, Repr

-- Threads are numbered by the starts they are made in.
inductive Event where
  | spawned (start : Nat)
  | called (start : Nat) (wasCancelled : Bool)
  | callbackReturned (start : Nat)
  | cancelReturned
deriving DecidableEq, Repr

-- No thread where there is none to join.
structure CancellableTimer where
  mutex : Option Party
  cancelled : Bool
  timerThread : Option (Nat × ThreadPc)
  starts : Nat
  controller : ControllerPc
  log : List Event
deriving DecidableEq, Repr

-- `timer` is the next step of the timer's thread outside its wait. `wake` ends a round of
-- the wait, after the time or before it (notified, or for no reason); there is no bound
-- on when the time is over.
inductive Action where
  | call (call : ControllerCall)
  | controller
  | timer
  | wake (timedOut : Bool)
deriving DecidableEq, Repr

namespace CancellableTimer

variable (s : CancellableTimer)

def record (event : Event) : CancellableTimer := { s with log := event :: s.log }

def afterCancel : ControllerCall → ControllerPc
  | .start => .resetting
  | .cancel => .idle
  | .destroy => .destroyed

-- The lock is taken in one step and given back with what it guards in the next.
def controllerStep : Option CancellableTimer :=
  match s.controller with
  | .idle | .destroyed => none
  | .cancelling call =>
      if s.mutex = none then some { s with mutex := some .controller, controller := .raising call } else none
  | .raising call => some { s with cancelled := true, mutex := none, controller := .notifying call }
  | .notifying call => some { s with controller := .joining call }
  | .joining call =>
      match s.timerThread with
      | none | some (_, .finished) =>
          some ({ s with timerThread := none, controller := afterCancel call }.record .cancelReturned)
      | some _ => none
  | .resetting => if s.mutex = none then some { s with mutex := some .controller, controller := .lowering } else none
  | .lowering => some { s with cancelled := false, mutex := none, controller := .spawning }
  | .spawning =>
      some ({ s with timerThread := some (s.starts, .ready), starts := s.starts + 1, controller := .idle }.record
        (.spawned s.starts))

-- The wait looks at the flag before it gives the mutex away.
def timerStep : Option CancellableTimer :=
  match s.timerThread with
  | none => none
  | some (n, pc) =>
      match pc with
      | .ready =>
          if s.mutex = none then
            if s.cancelled then some { s with mutex := some .timer, timerThread := some (n, .decided true) }
            else some { s with timerThread := some (n, .waiting) }
          else none
      | .waiting | .finished => none
      | .decided wasCancelled => some { s with mutex := none, timerThread := some (n, .calling wasCancelled) }
      | .calling wasCancelled =>
          some ({ s with timerThread := some (n, .running wasCancelled) }.record (.called n wasCancelled))
      | .running _ => some ({ s with timerThread := some (n, .finished) }.record (.callbackReturned n))

-- Once it has the mutex again, the wait goes by the flag, also when the time is over.
def wake (timedOut : Bool) : Option CancellableTimer :=
  match s.timerThread with
  | some (n, .waiting) =>
      if s.mutex = none then
        if s.cancelled then some { s with mutex := some .timer, timerThread := some (n, .decided true) }
        else if timedOut then some { s with mutex := some .timer, timerThread := some (n, .decided false) }
        else some s
      else none
  | _ => none

def step : Action → Option CancellableTimer
  | .call call => if s.controller = .idle then some { s with controller := .cancelling call } else none
  | .controller => s.controllerStep
  | .timer => s.timerStep
  | .wake timedOut => s.wake timedOut

end CancellableTimer

def timerMachine : Machine CancellableTimer Action where
  init := ⟨none, false, none, 0, .idle, []⟩
  step := CancellableTimer.step

-- A timer as its user sees it: the start it is at and how far its callback is.
inductive Stage where
  | pending
  | running
  | finished
deriving DecidableEq, Repr

structure Outcomes where
  current : Option (Nat × Stage)
  starts : Nat
  log : List Event

inductive Outcomes.Move : Outcomes → Outcomes → Prop where
  | joined (o : Outcomes) (ended : ∀ n stage, o.current = some (n, stage) → stage = .finished) :
      Move o ⟨none, o.starts, .cancelReturned :: o.log⟩
  | spawned (o : Outcomes) (joined : o.current = none) :
      Move o ⟨some (o.starts, .pending), o.starts + 1, .spawned o.starts :: o.log⟩
  | called (o : Outcomes) (n : Nat) (wasCancelled : Bool) (pending : o.current = some (n, .pending)) :
      Move o ⟨some (n, .running), o.starts, .called n wasCancelled :: o.log⟩
  | returned (o : Outcomes) (n : Nat) (running : o.current = some (n, .running)) :
      Move o ⟨some (n, .finished), o.starts, .callbackReturned n :: o.log⟩

def ThreadPc.stage : ThreadPc → Stage
  | .ready | .waiting | .decided _ | .calling _ => .pending
  | .running _ => .running
  | .finished => .finished

def CancellableTimer.outcomes (s : CancellableTimer) : Outcomes :=
  ⟨s.timerThread.map fun thread => (thread.1, thread.2.stage), s.starts, s.log⟩

def isSpawn (n : Nat) (event : Event) : Bool := event = .spawned n

-- A callback is called once, for the newest start and before a Cancel has returned behind
-- it; a timer is made, and a Cancel returns, when the callbacks of the starts before are over.
def oneOutcome (event : Event) (older : List Event) : Prop :=
  match event with
  | .called n _ =>
      .spawned n ∈ older ∧ (∀ wasCancelled, .called n wasCancelled ∉ older) ∧ (∀ m, .spawned m ∈ older → m ≤ n) ∧
        .cancelReturned ∉ since (isSpawn n) older
  | .spawned _ | .cancelReturned =>
      ∀ n, .spawned n ∈ older → (∃ wasCancelled, .called n wasCancelled ∈ older) ∧ .callbackReturned n ∈ older
  | .callbackReturned n => ∃ wasCancelled, .called n wasCancelled ∈ older

structure Outcomes.Sound (o : Outcomes) : Prop where
  numbered : ∀ n, .spawned n ∈ o.log ↔ n < o.starts
  known : ∀ n wasCancelled, .called n wasCancelled ∈ o.log → n < o.starts
  newest : ∀ n stage, o.current = some (n, stage) → n + 1 = o.starts
  past : ∀ n < o.starts, (∀ stage, o.current ≠ some (n, stage)) →
    (∃ wasCancelled, .called n wasCancelled ∈ o.log) ∧ .callbackReturned n ∈ o.log
  pending : ∀ n, o.current = some (n, .pending) → ∀ wasCancelled, .called n wasCancelled ∉ o.log
  called : ∀ n stage, o.current = some (n, stage) → stage ≠ .pending → ∃ wasCancelled, .called n wasCancelled ∈ o.log
  returned : ∀ n, o.current = some (n, .finished) → .callbackReturned n ∈ o.log
  live : ∀ n stage, o.current = some (n, stage) → .cancelReturned ∉ since (isSpawn n) o.log
  each : AtEach oneOutcome o.log

namespace Outcomes

variable {o : Outcomes} (sound : o.Sound)
include sound

-- Every start before the current one, and a finished current one, has had its callback.
theorem ended_of_finished (ended : ∀ n stage, o.current = some (n, stage) → stage = .finished) (n : Nat) (less : n < o.starts) :
    (∃ wasCancelled, .called n wasCancelled ∈ o.log) ∧ .callbackReturned n ∈ o.log := by
  by_cases here : ∃ stage, o.current = some (n, stage)
  · obtain ⟨stage, current⟩ := here
    obtain rfl := ended n stage current
    exact ⟨sound.called n .finished current (by simp), sound.returned n current⟩
  · exact sound.past n less fun stage current => here ⟨stage, current⟩

-- What is past of the other starts stays so as the log grows.
theorem past_grown (n : Nat) (stage : Stage) (current : o.current = some (n, stage)) (event : Event) (m : Nat) (less : m < o.starts)
    (apart : m ≠ n) : (∃ wasCancelled, .called m wasCancelled ∈ event :: o.log) ∧ .callbackReturned m ∈ event :: o.log := by
  have before := sound.past m less fun other here => by
    cases here.symm.trans current
    exact apart rfl
  exact ⟨before.1.imp fun _ => List.mem_cons_of_mem _, List.mem_cons_of_mem _ before.2⟩

theorem joined_sound (ended : ∀ n stage, o.current = some (n, stage) → stage = .finished) :
    Sound ⟨none, o.starts, .cancelReturned :: o.log⟩ where
  numbered n := by simpa using sound.numbered n
  known n wasCancelled member := sound.known n wasCancelled (by simpa using member)
  newest := by simp
  past n less _ := by simpa using ended_of_finished sound ended n less
  pending := by simp
  called := by simp
  returned := by simp
  live := by simp
  each := ⟨fun n spawned => ended_of_finished sound ended n ((sound.numbered n).mp spawned), sound.each⟩

theorem spawned_sound (joined : o.current = none) :
    Sound ⟨some (o.starts, .pending), o.starts + 1, .spawned o.starts :: o.log⟩ := by
  have done := ended_of_finished sound (by simp [joined])
  constructor
  case numbered =>
      intro n
      change Event.spawned n ∈ _ ↔ n < o.starts + 1
      simp only [List.mem_cons, Event.spawned.injEq, sound.numbered n]
      omega
  case known =>
      intro n wasCancelled member
      exact Nat.lt_succ_of_lt (sound.known n wasCancelled (by simpa using member))
  case newest =>
      rintro n stage ⟨⟩
      rfl
  case past =>
      intro n less other
      have before : n < o.starts := by
        by_contra last
        obtain rfl : n = o.starts := Nat.le_antisymm (Nat.lt_succ_iff.mp less) (Nat.le_of_not_lt last)
        exact other .pending rfl
      simpa using done n before
  case pending =>
      rintro n ⟨⟩ wasCancelled member
      exact Nat.lt_irrefl _ (sound.known o.starts wasCancelled (by simpa using member))
  case called =>
      rintro n stage ⟨⟩ apart
      exact absurd rfl apart
  case returned => rintro n ⟨⟩
  case live =>
      rintro n stage ⟨⟩
      simp [isSpawn]
  case each => exact ⟨fun n spawned => done n ((sound.numbered n).mp spawned), sound.each⟩

theorem called_sound (n : Nat) (wasCancelled : Bool) (pending : o.current = some (n, .pending)) :
    Sound ⟨some (n, .running), o.starts, .called n wasCancelled :: o.log⟩ := by
  have newest := sound.newest n .pending pending
  constructor
  case numbered =>
      intro m
      simpa using sound.numbered m
  case known =>
      intro m outcome member
      change m < o.starts
      obtain here | before := List.mem_cons.mp member
      · cases here
        omega
      · exact sound.known m outcome before
  case newest =>
      rintro m stage ⟨⟩
      exact newest
  case past =>
      intro m less other
      exact past_grown sound n .pending pending _ m less fun same => other .running (same ▸ rfl)
  case pending => rintro m ⟨⟩
  case called =>
      rintro m stage ⟨⟩ _
      exact ⟨wasCancelled, List.mem_cons_self⟩
  case returned => rintro m ⟨⟩
  case live =>
      rintro m stage ⟨⟩
      simpa [isSpawn] using sound.live n .pending pending
  case each =>
      refine ⟨⟨(sound.numbered n).mpr (by omega), sound.pending n pending, fun m spawned => ?_, sound.live n .pending pending⟩, sound.each⟩
      have less := (sound.numbered m).mp spawned
      omega

theorem returned_sound (n : Nat) (running : o.current = some (n, .running)) :
    Sound ⟨some (n, .finished), o.starts, .callbackReturned n :: o.log⟩ := by
  obtain ⟨outcome, was⟩ := sound.called n .running running (by simp)
  constructor
  case numbered =>
      intro m
      simpa using sound.numbered m
  case known =>
      intro m other member
      exact sound.known m other (by simpa using member)
  case newest =>
      rintro m stage ⟨⟩
      exact sound.newest n .running running
  case past =>
      intro m less other
      exact past_grown sound n .running running _ m less fun same => other .finished (same ▸ rfl)
  case pending => rintro m ⟨⟩
  case called =>
      rintro m stage ⟨⟩ _
      exact ⟨outcome, List.mem_cons_of_mem _ was⟩
  case returned =>
      rintro m ⟨⟩
      exact List.mem_cons_self
  case live =>
      rintro m stage ⟨⟩
      simpa [isSpawn] using sound.live n .running running
  case each => exact ⟨⟨outcome, was⟩, sound.each⟩

theorem move_sound {after : Outcomes} (move : o.Move after) : after.Sound := by
  cases move with
  | joined ended => exact joined_sound sound ended
  | spawned joined => exact spawned_sound sound joined
  | called n wasCancelled pending => exact called_sound sound n wasCancelled pending
  | returned n running => exact returned_sound sound n running

end Outcomes

def ControllerPc.locks : ControllerPc → Bool
  | .raising _ | .lowering => true
  | _ => false

def ThreadPc.locks : ThreadPc → Bool
  | .decided _ => true
  | _ => false

-- A new thread is only made where the one before has been joined.
def ControllerPc.alone : ControllerPc → Bool
  | .resetting | .lowering | .spawning => true
  | _ => false

namespace CancellableTimer

inductive Stepped (s : CancellableTimer) : Action → CancellableTimer → Prop where
  | called (call : ControllerCall) (here : s.controller = .idle) :
      Stepped s (.call call) { s with controller := .cancelling call }
  | locked (call : ControllerCall) (here : s.controller = .cancelling call) (free : s.mutex = none) :
      Stepped s .controller { s with mutex := some .controller, controller := .raising call }
  | raised (call : ControllerCall) (here : s.controller = .raising call) :
      Stepped s .controller { s with cancelled := true, mutex := none, controller := .notifying call }
  | notified (call : ControllerCall) (here : s.controller = .notifying call) :
      Stepped s .controller { s with controller := .joining call }
  | joined (call : ControllerCall) (here : s.controller = .joining call)
      (ended : ∀ n pc, s.timerThread = some (n, pc) → pc = .finished) :
      Stepped s .controller ({ s with timerThread := none, controller := afterCancel call }.record .cancelReturned)
  | relocked (here : s.controller = .resetting) (free : s.mutex = none) :
      Stepped s .controller { s with mutex := some .controller, controller := .lowering }
  | lowered (here : s.controller = .lowering) :
      Stepped s .controller { s with cancelled := false, mutex := none, controller := .spawning }
  | spawned (here : s.controller = .spawning) :
      Stepped s .controller
        ({ s with timerThread := some (s.starts, .ready), starts := s.starts + 1, controller := .idle }.record
          (.spawned s.starts))
  | waits (n : Nat) (here : s.timerThread = some (n, .ready)) (free : s.mutex = none) :
      Stepped s .timer { s with timerThread := some (n, .waiting) }
  | decided (n : Nat) (here : s.timerThread = some (n, .ready)) (free : s.mutex = none) :
      Stepped s .timer { s with mutex := some .timer, timerThread := some (n, .decided true) }
  | unlocked (n : Nat) (wasCancelled : Bool) (here : s.timerThread = some (n, .decided wasCancelled)) :
      Stepped s .timer { s with mutex := none, timerThread := some (n, .calling wasCancelled) }
  | calls (n : Nat) (wasCancelled : Bool) (here : s.timerThread = some (n, .calling wasCancelled)) :
      Stepped s .timer ({ s with timerThread := some (n, .running wasCancelled) }.record (.called n wasCancelled))
  | returns (n : Nat) (wasCancelled : Bool) (here : s.timerThread = some (n, .running wasCancelled)) :
      Stepped s .timer ({ s with timerThread := some (n, .finished) }.record (.callbackReturned n))
  | woken (n : Nat) (wasCancelled timedOut : Bool) (here : s.timerThread = some (n, .waiting)) (free : s.mutex = none) :
      Stepped s (.wake timedOut) { s with mutex := some .timer, timerThread := some (n, .decided wasCancelled) }
  | again (n : Nat) (here : s.timerThread = some (n, .waiting)) : Stepped s (.wake false) s

variable {s t : CancellableTimer} {a : Action}

theorem controller_cases (taken : s.controllerStep = some t) : Stepped s .controller t := by
  rw [controllerStep] at taken
  split at taken
  case h_1 | h_2 => cases taken
  case h_3 call here =>
      obtain ⟨free, ⟨⟩⟩ := Option.ite_none_right_eq_some.mp taken
      exact .locked call here free
  case h_4 call here =>
      cases taken
      exact .raised call here
  case h_5 call here =>
      cases taken
      exact .notified call here
  case h_6 call here =>
      split at taken
      case h_1 absent =>
          cases taken
          exact .joined call here (by simp [absent])
      case h_2 n ended =>
          cases taken
          exact .joined call here (by simp [ended])
      case h_3 => cases taken
  case h_7 here =>
      obtain ⟨free, ⟨⟩⟩ := Option.ite_none_right_eq_some.mp taken
      exact .relocked here free
  case h_8 here =>
      cases taken
      exact .lowered here
  case h_9 here =>
      cases taken
      exact .spawned here

theorem timer_cases (taken : s.timerStep = some t) : Stepped s .timer t := by
  rw [timerStep] at taken
  obtain absent | ⟨⟨n, pc⟩, here⟩ := Option.eq_none_or_eq_some s.timerThread
  · rw [absent] at taken
    cases taken
  rw [here] at taken
  cases pc with
  | ready =>
      obtain ⟨free, step⟩ := Option.ite_none_right_eq_some.mp taken
      split at step
      all_goals cases step
      · exact .decided n here free
      · exact .waits n here free
  | waiting | finished => cases taken
  | decided wasCancelled =>
      cases taken
      exact .unlocked n wasCancelled here
  | calling wasCancelled =>
      cases taken
      exact .calls n wasCancelled here
  | running wasCancelled =>
      cases taken
      exact .returns n wasCancelled here

theorem wake_cases (timedOut : Bool) (taken : s.wake timedOut = some t) : Stepped s (.wake timedOut) t := by
  rw [wake] at taken
  split at taken
  · rename_i n here
    obtain ⟨free, step⟩ := Option.ite_none_right_eq_some.mp taken
    by_cases cancelled : s.cancelled = true
    · rw [if_pos cancelled] at step
      cases step
      exact .woken n true timedOut here free
    rw [if_neg cancelled] at step
    cases timedOut with
    | true =>
        cases step
        exact .woken n false true here free
    | false =>
        cases step
        exact .again n here
  · cases taken

theorem step_cases (taken : s.step a = some t) : Stepped s a t := by
  cases a with
  | call call =>
      obtain ⟨here, ⟨⟩⟩ := Option.ite_none_right_eq_some.mp taken
      exact .called call here
  | controller => exact controller_cases taken
  | timer => exact timer_cases taken
  | wake timedOut => exact wake_cases timedOut taken

structure Locked (s : CancellableTimer) : Prop where
  controller : s.mutex = some .controller ↔ s.controller.locks = true
  timer : s.mutex = some .timer ↔ (s.timerThread.any fun thread => thread.2.locks) = true
  alone : s.controller.alone = true → s.timerThread = none

@[simp] theorem after_cancel_locks (call : ControllerCall) : (afterCancel call).locks = false := by
  cases call <;> rfl

theorem ended_locks (ended : ∀ n pc, s.timerThread = some (n, pc) → pc = .finished) :
    (s.timerThread.any fun thread => thread.2.locks) = false := by
  obtain absent | ⟨⟨n, pc⟩, here⟩ := Option.eq_none_or_eq_some s.timerThread
  · rw [absent]
    rfl
  · rw [here, ended n pc here]
    rfl

theorem step_locked (locked : s.Locked) (taken : s.step a = some t) : t.Locked := by
  obtain ⟨controller, timer, alone⟩ := locked
  cases step_cases taken with
  | joined call here ended =>
      rw [here] at controller
      refine ⟨?_, ?_, fun _ => rfl⟩
      · change s.mutex = some .controller ↔ (afterCancel call).locks = true
        rw [controller, after_cancel_locks]
        rfl
      · change s.mutex = some .timer ↔ _
        rw [timer, ended_locks ended]
        rfl
  | _ => constructor <;> simp_all [ControllerPc.locks, ControllerPc.alone, ThreadPc.locks, record]

-- The mutex and the condition variable are hidden from the user: only four of the steps
-- are moves of the timer, the others leave it as it is.
theorem step_outcomes (locked : s.Locked) (taken : s.step a = some t) :
    t.outcomes = s.outcomes ∨ s.outcomes.Move t.outcomes := by
  cases step_cases taken with
  | joined call here ended =>
      refine .inr (.joined s.outcomes fun _ stage current => ?_)
      obtain ⟨⟨_, pc⟩, thread, ⟨⟩⟩ := Option.map_eq_some_iff.mp current
      rw [ended _ pc thread]
      rfl
  | spawned here =>
      have joined := locked.alone (by rw [here]; rfl)
      exact .inr (.spawned s.outcomes (by rw [outcomes, joined]; rfl))
  | calls n wasCancelled here => exact .inr (.called s.outcomes n wasCancelled (by rw [outcomes, here]; rfl))
  | returns n wasCancelled here => exact .inr (.returned s.outcomes n (by rw [outcomes, here]; rfl))
  | waits n here | decided n here | unlocked n wasCancelled here | woken n wasCancelled timedOut here =>
      left
      rw [outcomes, outcomes, here]
      rfl
  | _ => exact .inl rfl

def Good (s : CancellableTimer) : Prop := s.Locked ∧ s.outcomes.Sound

theorem start_good : timerMachine.init.Good := by
  refine ⟨⟨by decide, by decide, fun _ => rfl⟩, ?_⟩
  constructor <;> simp [timerMachine, outcomes, AtEach]

theorem step_good (good : s.Good) (taken : s.step a = some t) : t.Good := by
  obtain ⟨locked, sound⟩ := good
  refine ⟨step_locked locked taken, ?_⟩
  obtain same | move := step_outcomes locked taken
  · rwa [same]
  · exact Outcomes.move_sound sound move

theorem log_grows (taken : s.step a = some t) (event : Event) (before : event ∈ s.log) : event ∈ t.log := by
  cases step_cases taken with
  | joined | spawned | calls | returns => exact List.mem_cons_of_mem _ before
  | _ => exact before

end CancellableTimer

-- How many of its steps are left to each party in what it is about.
def ThreadPc.rank : ThreadPc → Nat
  | .ready => 5
  | .waiting => 4
  | .decided _ => 3
  | .calling _ => 2
  | .running _ => 1
  | .finished => 0

def ControllerPc.rank : ControllerPc → Nat
  | .cancelling _ => 7
  | .raising _ => 6
  | .notifying _ => 5
  | .joining _ => 4
  | .resetting => 3
  | .lowering => 2
  | .spawning => 1
  | .idle | .destroyed => 0

def ControllerPc.starting : ControllerPc → Bool
  | .cancelling .start | .raising .start | .notifying .start | .joining .start | .resetting | .lowering | .spawning => true
  | _ => false

-- What the scheduler owes the thread, the end of its wait among it, and what it owes both.
def Action.ofThread : Action → Bool
  | .timer | .wake true => true
  | _ => false

def Action.owed : Action → Bool
  | .controller => true
  | action => action.ofThread

namespace CancellableTimer

variable {s t : CancellableTimer} {a : Action}

def threadRank (s : CancellableTimer) : Nat := s.timerThread.elim 0 fun thread => thread.2.rank

def called (s : CancellableTimer) (n : Nat) : Prop := ∃ wasCancelled, .called n wasCancelled ∈ s.log

theorem waits_for_call (sound : s.outcomes.Sound) (n : Nat) (spawned : .spawned n ∈ s.log) (uncalled : ¬s.called n) :
    ∃ pc, s.timerThread = some (n, pc) ∧ pc.stage = .pending := by
  have less := (sound.numbered n).mp spawned
  by_cases here : ∃ stage, s.outcomes.current = some (n, stage)
  · obtain ⟨stage, current⟩ := here
    have pending : stage = .pending := by
      by_contra later
      exact uncalled (sound.called n stage current later)
    obtain ⟨⟨m, pc⟩, thread, same⟩ := Option.map_eq_some_iff.mp current
    cases same
    exact ⟨pc, thread, pending⟩
  · exact absurd (sound.past n less fun stage current => here ⟨stage, current⟩).1 uncalled

theorem thread_rank (s t : CancellableTimer) (before : s.controller ≠ .spawning) (taken : s.step a = some t) :
    t.threadRank ≤ s.threadRank ∧ (a.ofThread = true → t.threadRank < s.threadRank) := by
  cases step_cases taken with
  | joined call here ended => exact ⟨Nat.zero_le _, by simp [Action.ofThread]⟩
  | spawned here => exact absurd here before
  | waits n here | decided n here | unlocked n wasCancelled here | calls n wasCancelled here
  | returns n wasCancelled here | woken n wasCancelled timedOut here =>
      simp [threadRank, record, here, ThreadPc.rank]
  | _ => simp [threadRank, Action.ofThread]

theorem controller_rank (s t : CancellableTimer) (starting : s.controller.starting = true) (before : s.controller ≠ .spawning)
    (taken : s.step a = some t) :
    t.controller.starting = true ∧ t.controller.rank ≤ s.controller.rank ∧
      (a = .controller → t.controller.rank < s.controller.rank) := by
  cases step_cases taken with
  | called call here => simp [here, ControllerPc.starting] at starting
  | spawned here => exact absurd here before
  | locked call here | raised call here | notified call here | joined call here =>
      cases call with
      | start => simp [here, record, afterCancel, ControllerPc.starting, ControllerPc.rank]
      | cancel | destroy => simp [here, ControllerPc.starting] at starting
  | relocked here | lowered here => simp [here, ControllerPc.starting, ControllerPc.rank]
  | _ => simpa [record] using starting

theorem waiting_rank (pc : ThreadPc) (pending : pc.stage = .pending) : 2 ≤ pc.rank := by
  cases pc with
  | running | finished => cases pending
  | _ => simp [ThreadPc.rank]

theorem thread_rank_le (s : CancellableTimer) : s.threadRank ≤ 5 := by
  obtain ⟨mutex, cancelled, _ | ⟨n, pc⟩, starts, controller, log⟩ := s
  · exact Nat.zero_le 5
  · cases pc <;> simp [threadRank, ThreadPc.rank]

-- Three of the steps owed to the thread may still leave its callback uncalled.
theorem called_in_time (good : s.Good) (n : Nat) (spawned : .spawned n ∈ s.log) (actions : List Action)
    (run : exec timerMachine s actions = some t) (owed : 4 ≤ (actions.filter Action.ofThread).length) : t.called n := by
  by_contra uncalled
  let inv : CancellableTimer → Prop := fun s => s.Good ∧ .spawned n ∈ s.log
  have kept : ∀ s a t, inv s → timerMachine.step s a = some t → inv t := fun s a t here taken =>
    ⟨step_good here.1 taken, log_grows taken _ here.2⟩
  have works : ∀ s a t, inv s → timerMachine.step s a = some t → ¬t.called n →
      ¬s.called n ∧ t.threadRank ≤ s.threadRank ∧ (a.ofThread = true → t.threadRank < s.threadRank) := by
    intro s a t here taken pending
    have before : ¬s.called n := fun was => pending (was.imp fun _ => log_grows taken _)
    obtain ⟨pc, thread, stage⟩ := waits_for_call here.1.2 n here.2 before
    refine ⟨before, thread_rank s t (fun spawning => ?_) taken⟩
    have joined := here.1.1.alone (by rw [spawning]; rfl)
    cases thread.symm.trans joined
  have used := rank_used_up timerMachine Action.ofThread inv (fun s => ¬s.called n) threadRank kept works actions s t
    ⟨good, spawned⟩ run uncalled
  have there := exec_keeps timerMachine inv kept actions s t ⟨good, spawned⟩ run
  obtain ⟨pc, thread, stage⟩ := waits_for_call there.1.2 n there.2 uncalled
  have most := thread_rank_le s
  have least : 2 ≤ t.threadRank := by simpa [threadRank, thread] using waiting_rank pc stage
  omega

theorem spawning_spawns (locked : s.Locked) (here : s.controller = .spawning) (taken : s.step a = some t) :
    .spawned s.starts ∈ t.log := by
  have joined := locked.alone (by rw [here]; rfl)
  cases step_cases taken with
  | spawned => exact List.mem_cons_self
  | _ => simp_all

theorem starts_kept (before : s.controller ≠ .spawning) (taken : s.step a = some t) : t.starts = s.starts := by
  cases step_cases taken with
  | spawned here => exact absurd here before
  | _ => rfl

theorem starting_rank (pc : ControllerPc) : pc.rank ≤ 7 ∧ (pc.starting = true → 1 ≤ pc.rank) := by
  cases pc <;> simp [ControllerPc.rank, ControllerPc.starting]

-- A Start joins what is left of the thread before, and then makes its own.
theorem spawned_in_time (good : s.Good) (starting : s.controller.starting = true) (actions : List Action)
    (run : exec timerMachine s actions = some t) (owed : 12 ≤ (actions.filter Action.owed).length) :
    .spawned s.starts ∈ t.log := by
  by_contra unspawned
  let inv : CancellableTimer → Prop := fun x =>
    x.Good ∧ (.spawned s.starts ∈ x.log ∨ x.controller.starting = true ∧ x.starts = s.starts)
  have kept : ∀ x a y, inv x → timerMachine.step x a = some y → inv y := by
    rintro x a y ⟨good, was | ⟨starting, same⟩⟩ taken
    · exact ⟨step_good good taken, .inl (log_grows taken _ was)⟩
    · refine ⟨step_good good taken, ?_⟩
      by_cases spawning : x.controller = .spawning
      · exact .inl (same ▸ spawning_spawns good.1 spawning taken)
      · exact .inr ⟨(controller_rank x y starting spawning taken).1, (starts_kept spawning taken).trans same⟩
  have works : ∀ x a y, inv x → timerMachine.step x a = some y → .spawned s.starts ∉ y.log →
      .spawned s.starts ∉ x.log ∧ y.controller.rank + y.threadRank ≤ x.controller.rank + x.threadRank ∧
        (a.owed = true → y.controller.rank + y.threadRank < x.controller.rank + x.threadRank) := by
    intro x a y here taken pending
    have before : .spawned s.starts ∉ x.log := fun was => pending (log_grows taken _ was)
    obtain ⟨starting, same⟩ := here.2.resolve_left before
    have elsewhere : x.controller ≠ .spawning := fun spawning => pending (same ▸ spawning_spawns here.1.1 spawning taken)
    obtain ⟨_, fewer, controls⟩ := controller_rank x y starting elsewhere taken
    obtain ⟨less, threads⟩ := thread_rank x y elsewhere taken
    refine ⟨before, Nat.add_le_add fewer less, fun owed => ?_⟩
    cases a with
    | call call => cases owed
    | controller => exact Nat.add_lt_add_of_lt_of_le (controls rfl) less
    | timer => exact Nat.add_lt_add_of_le_of_lt fewer (threads rfl)
    | wake timedOut => exact Nat.add_lt_add_of_le_of_lt fewer (threads owed)
  have first : inv s := ⟨good, .inr ⟨starting, rfl⟩⟩
  have used := rank_used_up timerMachine Action.owed inv (fun x => .spawned s.starts ∉ x.log)
    (fun x => x.controller.rank + x.threadRank) kept works actions s t first run unspawned
  have there := exec_keeps timerMachine inv kept actions s t first run
  have least := (starting_rank t.controller).2 (there.2.resolve_left unspawned).1
  have most := (starting_rank s.controller).1
  have thread := thread_rank_le s
  omega

theorem mutex_free (controller : s.mutex ≠ some .controller) (timer : s.mutex ≠ some .timer) : s.mutex = none := by
  obtain none | ⟨party, held⟩ := Option.eq_none_or_eq_some s.mutex
  · exact none
  · cases party with
    | controller => exact absurd held controller
    | timer => exact absurd held timer

theorem thread_goes_on (locked : s.Locked) (n : Nat) (pc : ThreadPc) (here : s.timerThread = some (n, pc))
    (unfinished : pc ≠ .finished) (elsewhere : s.mutex ≠ some .controller) :
    ∃ a t, Action.ofThread a = true ∧ s.step a = some t := by
  have held := locked.timer
  rw [here] at held
  cases pc with
  | ready =>
      have free := mutex_free elsewhere fun held' => Bool.false_ne_true (held.mp held')
      by_cases cancelled : s.cancelled = true
      · exact ⟨.timer, _, rfl, by simp [step, timerStep, here, free, cancelled]; rfl⟩
      · exact ⟨.timer, _, rfl, by simp [step, timerStep, here, free, cancelled]; rfl⟩
  | waiting =>
      have free := mutex_free elsewhere fun held' => Bool.false_ne_true (held.mp held')
      by_cases cancelled : s.cancelled = true
      · exact ⟨.wake true, _, rfl, by simp [step, wake, here, free, cancelled]; rfl⟩
      · exact ⟨.wake true, _, rfl, by simp [step, wake, here, free, cancelled]; rfl⟩
  | decided | calling | running => exact ⟨.timer, _, rfl, by rw [step, timerStep, here]⟩
  | finished => exact absurd rfl unfinished

-- The controller does not keep the mutex: its next step gives it back.
theorem call_goes_on (good : s.Good) (n : Nat) (spawned : .spawned n ∈ s.log) (uncalled : ¬s.called n) :
    (∃ a t, Action.ofThread a = true ∧ s.step a = some t) ∨
      ∃ between a t, s.step .controller = some between ∧ Action.ofThread a = true ∧ between.step a = some t := by
  obtain ⟨pc, here, stage⟩ := waits_for_call good.2 n spawned uncalled
  have unfinished : pc ≠ .finished := fun ended => by
    rw [ended] at stage
    cases stage
  by_cases held : s.mutex = some .controller
  · have locks := good.1.controller.mp held
    cases pcs : s.controller with
    | raising call =>
        have taken : s.step .controller = some { s with cancelled := true, mutex := none, controller := .notifying call } := by
          rw [step, controllerStep, pcs]
        obtain ⟨a, t, ofThread, next⟩ := thread_goes_on (step_good good taken).1 n pc here unfinished (by simp)
        exact .inr ⟨_, a, t, taken, ofThread, next⟩
    | lowering =>
        have joined := good.1.alone (by rw [pcs]; rfl)
        cases here.symm.trans joined
    | _ =>
        rw [pcs] at locks
        cases locks
  · exact .inl (thread_goes_on good.1 n pc here unfinished held)

theorem start_goes_on (good : s.Good) (starting : s.controller.starting = true) :
    ∃ a t, Action.owed a = true ∧ s.step a = some t := by
  obtain ⟨locked, sound⟩ := good
  have threads : ∀ n pc, s.timerThread = some (n, pc) → pc ≠ .finished → s.controller.locks = false →
      ∃ a t, Action.owed a = true ∧ s.step a = some t := by
    intro n pc here unfinished unlocked
    have elsewhere : s.mutex ≠ some .controller := fun held => by simpa [unlocked] using locked.controller.mp held
    obtain ⟨a, t, ofThread, next⟩ := thread_goes_on locked n pc here unfinished elsewhere
    exact ⟨a, t, by cases a <;> simp_all [Action.owed, Action.ofThread], next⟩
  cases pcs : s.controller with
  | idle | destroyed =>
      rw [pcs] at starting
      cases starting
  | cancelling call =>
      have elsewhere : s.mutex ≠ some .controller := fun held => by simpa [pcs, ControllerPc.locks] using locked.controller.mp held
      by_cases held : s.mutex = some .timer
      · obtain ⟨⟨n, pc⟩, here, locks⟩ := (Option.any_eq_true _ _).mp (locked.timer.mp held)
        refine threads n pc here (fun ended => ?_) (by rw [pcs]; rfl)
        rw [ended] at locks
        cases locks
      · have free := mutex_free elsewhere held
        exact ⟨.controller, _, rfl, by simp [step, controllerStep, pcs, free]; rfl⟩
  | raising | notifying | lowering | spawning => exact ⟨.controller, _, rfl, by rw [step, controllerStep, pcs]⟩
  | joining call =>
      obtain joined | ⟨⟨n, pc⟩, here⟩ := Option.eq_none_or_eq_some s.timerThread
      · exact ⟨.controller, _, rfl, by rw [step, controllerStep, pcs, joined]⟩
      · by_cases ended : pc = .finished
        · exact ⟨.controller, _, rfl, by rw [step, controllerStep, pcs, here, ended]⟩
        · exact threads n pc here ended (by rw [pcs]; rfl)
  | resetting =>
      have joined := locked.alone (by rw [pcs]; rfl)
      have elsewhere : s.mutex ≠ some .controller := fun held => by simpa [pcs, ControllerPc.locks] using locked.controller.mp held
      have free := mutex_free elsewhere fun held => by simpa [joined] using locked.timer.mp held
      exact ⟨.controller, _, rfl, by simp [step, controllerStep, pcs, free]; rfl⟩

end CancellableTimer

-- Neither party is ever stuck, so that a scheduler that keeps giving both what it owes them
-- takes a Start to its thread, and the thread to its one callback.
structure OneOutcome (s : CancellableTimer) : Prop where
  once : AtEach oneOutcome s.log
  starts : s.controller.starting = true →
    (∃ a t, Action.owed a = true ∧ timerMachine.step s a = some t) ∧
      ∀ actions t, exec timerMachine s actions = some t → 12 ≤ (actions.filter Action.owed).length → .spawned s.starts ∈ t.log
  calls : ∀ n, .spawned n ∈ s.log →
    (¬s.called n →
      (∃ a t, Action.ofThread a = true ∧ timerMachine.step s a = some t) ∨
        ∃ between a t, timerMachine.step s .controller = some between ∧ Action.ofThread a = true ∧
          timerMachine.step between a = some t) ∧
      ∀ actions t, exec timerMachine s actions = some t → 4 ≤ (actions.filter Action.ofThread).length → t.called n

-- A Cancel that comes too late: the wait was over, so the timer triggers all the same.
example : (exec timerMachine timerMachine.init
    [.call .start, .controller, .controller, .controller, .controller, .controller, .controller, .controller, .timer,
      .wake true, .call .cancel, .timer, .timer, .controller, .controller, .controller, .timer, .controller]).map
    CancellableTimer.log = some [.cancelReturned, .callbackReturned 0, .called 0 false, .spawned 0, .cancelReturned] := by
  decide

end RadeonPanel.TraceSource.Timers

import RadeonPanel.Base.History
import RadeonPanel.Base.Ranks

set_option autoImplicit false

namespace RadeonPanel.TraceSource.StandardTimers

open Interleaving

structure TimerSettings where
  msInterval : UInt64
  isSingleShot : Bool
deriving DecidableEq, Repr

-- Points of the steady clock are nanoseconds.
def milliseconds (begin now : Nat) : Int := ((now : Int) - begin).tdiv 1000000

namespace TimerSettings

variable (timer : TimerSettings) (begin now : Nat)

def elapsed : Bool := timer.msInterval.toInt64.toInt ≤ milliseconds begin now

def sleepMs : UInt64 := max ((timer.msInterval - UInt64.ofInt (milliseconds begin now)) / 2) 1

theorem elapsed_later (later : Nat) (le : now ≤ later) (due : timer.elapsed begin now = true) :
    timer.elapsed begin later = true := by
  have before : timer.msInterval.toInt64.toInt ≤ milliseconds begin now := of_decide_eq_true due
  have longer : milliseconds begin now ≤ milliseconds begin later := Int.tdiv_le_tdiv (by omega) (by omega)
  exact decide_eq_true (Int.le_trans before longer)

-- Every interval is over some time.
theorem elapses : ∃ later, now ≤ later ∧ timer.elapsed begin later = true := by
  refine ⟨now + (begin + timer.msInterval.toInt64.toInt.toNat * 1000000), by omega, decide_eq_true ?_⟩
  have least : (timer.msInterval.toInt64.toInt.toNat * 1000000 : Int).tdiv 1000000 ≤
      milliseconds begin (now + (begin + timer.msInterval.toInt64.toInt.toNat * 1000000)) :=
    Int.tdiv_le_tdiv (by omega) (by omega)
  rw [Int.mul_tdiv_cancel _ (by omega)] at least
  exact Int.le_trans (Int.self_le_toNat _) least

end TimerSettings

inductive ControllerCall where
  | start
  | stop
  | destroy
deriving DecidableEq, Repr

-- Start: its test of the flag, the raising of the flag, the two halves of the assignment to
-- `begin_`, the join and the new thread. Stop: the lowering of the flag. The destructor: the
-- same and a join.
inductive ControllerPc where
  | idle
  | testing
  | raising
  | timing
  | beginning (now : Nat)
  | joining
  | spawning
  | lowering
  | ending
  | joiningLast
  | destroyed
deriving DecidableEq, Repr

def ControllerCall.entry : ControllerCall → ControllerPc
  | .start => .testing
  | .stop => .lowering
  | .destroy => .ending

-- The Start of a callback that has found the flag lowered. It comes to join its own thread.
inductive StartPc where
  | raising
  | timing
  | beginning (now : Nat)
  | joining
deriving DecidableEq, Repr

-- Tick: the test of the flag, the clock, the comparison, then the sleep, or the callback, the
-- Stop of a single shot and the two halves of the assignment to `begin_`.
inductive LoopPc where
  | testing
  | reading
  | comparing (now : Nat)
  | sleeping (wakeAt : Nat)
  | firing (interval : Nat)
  | running
  | restarting (pc : StartPc)
  | lowering
  | timing
  | beginning (now : Nat)
  | finished
deriving DecidableEq, Repr

-- Intervals are numbered by the assignments to `begin_`. A Stop is recorded with the
-- interval it came in and whether that was over.
inductive Event where
  | started
  | stopped (interval : Nat) (due : Bool)
  | fired (interval : Nat)
deriving DecidableEq, Repr

-- The threads that run a Tick, the newest first. It is the one `loop_` stands for, if it has
-- not been joined; a thread is joined when it has finished.
structure StandardTimer where
  isRunning : Bool
  begin : Nat
  interval : Nat
  clock : Nat
  loops : List LoopPc
  controller : ControllerPc
  log : List Event
deriving DecidableEq, Repr

-- `callbackStart` and `callbackStop` are calls that the callback of a thread makes, `pass` is
-- the time going on.
inductive Action where
  | call (call : ControllerCall)
  | controller
  | loop (thread : Nat)
  | callbackStart (thread : Nat)
  | callbackStop (thread : Nat)
  | pass (nanoseconds : Nat)
deriving DecidableEq, Repr

namespace StandardTimer

variable (timer : TimerSettings) (s : StandardTimer)

def record (event : Event) : StandardTimer := { s with log := event :: s.log }

def stop : StandardTimer :=
  { s with isRunning := false }.record (.stopped s.interval (timer.elapsed s.begin s.clock))

def beginAt (now : Nat) : StandardTimer := { s with begin := now, interval := s.interval + 1 }

def move (thread : Nat) (pc : LoopPc) : StandardTimer := { s with loops := s.loops.set thread pc }

def joins : Bool := s.loops.head?.all fun pc => pc = .finished

def controllerStep : Option StandardTimer :=
  match s.controller with
  | .idle | .destroyed => none
  | .testing => some { s with controller := if s.isRunning then .idle else .raising }
  | .raising => some ({ s with isRunning := true, controller := .timing }.record .started)
  | .timing => some { s with controller := .beginning s.clock }
  | .beginning now => some { s.beginAt now with controller := .joining }
  | .joining => if s.joins then some { s with controller := .spawning } else none
  | .spawning => some { s with loops := .testing :: s.loops, controller := .idle }
  | .lowering => some { s.stop timer with controller := .idle }
  | .ending => some { s with isRunning := false, controller := .joiningLast }
  | .joiningLast => if s.joins then some { s with controller := .destroyed } else none

def restartStep (thread : Nat) : StartPc → Option StandardTimer
  | .raising => some ({ s.move thread (.restarting .timing) with isRunning := true }.record .started)
  | .timing => some (s.move thread (.restarting (.beginning s.clock)))
  | .beginning now => some ((s.beginAt now).move thread (.restarting .joining))
  | .joining => none

def loopStep (thread : Nat) : Option StandardTimer :=
  match s.loops[thread]? with
  | none => none
  | some pc =>
      match pc with
      | .testing => some (s.move thread (if s.isRunning then .reading else .finished))
      | .reading => some (s.move thread (.comparing s.clock))
      | .comparing now =>
          if timer.elapsed s.begin now then some (s.move thread (.firing s.interval))
          else some (s.move thread (.sleeping (s.clock + (timer.sleepMs s.begin now).toNat * 1000000)))
      | .sleeping wakeAt => if wakeAt ≤ s.clock then some (s.move thread .testing) else none
      | .firing interval => some ((s.move thread .running).record (.fired interval))
      | .running => some (s.move thread (if timer.isSingleShot then .lowering else .timing))
      | .restarting pc => s.restartStep thread pc
      | .lowering => some ((s.stop timer).move thread .timing)
      | .timing => some (s.move thread (.beginning s.clock))
      | .beginning now => some ((s.beginAt now).move thread .testing)
      | .finished => none

def step : Action → Option StandardTimer
  | .call call => if s.controller = .idle then some { s with controller := call.entry } else none
  | .controller => s.controllerStep timer
  | .loop thread => s.loopStep timer thread
  | .callbackStart thread =>
      if s.loops[thread]? = some .running then
        some (if s.isRunning then s else s.move thread (.restarting .raising))
      else none
  | .callbackStop thread => if s.loops[thread]? = some .running then some (s.stop timer) else none
  | .pass nanoseconds => some { s with clock := s.clock + nanoseconds }

end StandardTimer

def timerMachine (timer : TimerSettings) : Machine StandardTimer Action where
  init := ⟨false, 0, 0, 0, [], .idle, []⟩
  step := StandardTimer.step timer

namespace StandardTimer

-- What a step can do where no thread but the newest is left.
inductive Stepped (timer : TimerSettings) (s : StandardTimer) : Action → StandardTimer → Prop where
  | called (call : ControllerCall) (here : s.controller = .idle) :
      Stepped timer s (.call call) { s with controller := call.entry }
  | refused (here : s.controller = .testing) : Stepped timer s .controller { s with controller := .idle }
  | accepted (here : s.controller = .testing) : Stepped timer s .controller { s with controller := .raising }
  | raised (here : s.controller = .raising) :
      Stepped timer s .controller ({ s with isRunning := true, controller := .timing }.record .started)
  | timed (here : s.controller = .timing) : Stepped timer s .controller { s with controller := .beginning s.clock }
  | begun (now : Nat) (here : s.controller = .beginning now) :
      Stepped timer s .controller { s.beginAt now with controller := .joining }
  | joined (here : s.controller = .joining) (ended : s.joins = true) :
      Stepped timer s .controller { s with controller := .spawning }
  | spawned (here : s.controller = .spawning) :
      Stepped timer s .controller { s with loops := .testing :: s.loops, controller := .idle }
  | stopped (here : s.controller = .lowering) : Stepped timer s .controller { s.stop timer with controller := .idle }
  | ends (here : s.controller = .ending) :
      Stepped timer s .controller { s with isRunning := false, controller := .joiningLast }
  | destroyed (here : s.controller = .joiningLast) (ended : s.joins = true) :
      Stepped timer s .controller { s with controller := .destroyed }
  | goesOn (rest : List LoopPc) (here : s.loops = .testing :: rest) (up : s.isRunning = true) :
      Stepped timer s (.loop 0) { s with loops := .reading :: rest }
  | finishes (rest : List LoopPc) (here : s.loops = .testing :: rest) (down : s.isRunning = false) :
      Stepped timer s (.loop 0) { s with loops := .finished :: rest }
  | reads (rest : List LoopPc) (here : s.loops = .reading :: rest) :
      Stepped timer s (.loop 0) { s with loops := .comparing s.clock :: rest }
  | finds (rest : List LoopPc) (now : Nat) (here : s.loops = .comparing now :: rest) (due : timer.elapsed s.begin now = true) :
      Stepped timer s (.loop 0) { s with loops := .firing s.interval :: rest }
  | sleeps (rest : List LoopPc) (now wakeAt : Nat) (here : s.loops = .comparing now :: rest) :
      Stepped timer s (.loop 0) { s with loops := .sleeping wakeAt :: rest }
  | wakes (rest : List LoopPc) (wakeAt : Nat) (here : s.loops = .sleeping wakeAt :: rest) :
      Stepped timer s (.loop 0) { s with loops := .testing :: rest }
  | fires (rest : List LoopPc) (interval : Nat) (here : s.loops = .firing interval :: rest) :
      Stepped timer s (.loop 0) ({ s with loops := .running :: rest }.record (.fired interval))
  | returnsOnce (rest : List LoopPc) (here : s.loops = .running :: rest) (once : timer.isSingleShot = true) :
      Stepped timer s (.loop 0) { s with loops := .lowering :: rest }
  | returns (rest : List LoopPc) (here : s.loops = .running :: rest) (repeating : timer.isSingleShot = false) :
      Stepped timer s (.loop 0) { s with loops := .timing :: rest }
  | stopsItself (rest : List LoopPc) (here : s.loops = .lowering :: rest) :
      Stepped timer s (.loop 0) { s.stop timer with loops := .timing :: rest }
  | loopTimed (rest : List LoopPc) (here : s.loops = .timing :: rest) :
      Stepped timer s (.loop 0) { s with loops := .beginning s.clock :: rest }
  | loopBegun (rest : List LoopPc) (now : Nat) (here : s.loops = .beginning now :: rest) :
      Stepped timer s (.loop 0) { s.beginAt now with loops := .testing :: rest }
  | callbackRefused (rest : List LoopPc) (here : s.loops = .running :: rest) : Stepped timer s (.callbackStart 0) s
  | callbackStarts (rest : List LoopPc) (here : s.loops = .running :: rest) (down : s.isRunning = false) :
      Stepped timer s (.callbackStart 0) { s with loops := .restarting .raising :: rest }
  | restartRaised (rest : List LoopPc) (here : s.loops = .restarting .raising :: rest) :
      Stepped timer s (.loop 0) ({ s with loops := .restarting .timing :: rest, isRunning := true }.record .started)
  | restartTimed (rest : List LoopPc) (here : s.loops = .restarting .timing :: rest) :
      Stepped timer s (.loop 0) { s with loops := .restarting (.beginning s.clock) :: rest }
  | restartBegun (rest : List LoopPc) (now : Nat) (here : s.loops = .restarting (.beginning now) :: rest) :
      Stepped timer s (.loop 0) { s.beginAt now with loops := .restarting .joining :: rest }
  | callbackStops (rest : List LoopPc) (here : s.loops = .running :: rest) : Stepped timer s (.callbackStop 0) (s.stop timer)
  | passed (nanoseconds : Nat) : Stepped timer s (.pass nanoseconds) { s with clock := s.clock + nanoseconds }

variable {timer : TimerSettings} {s t : StandardTimer} {a : Action}

theorem controller_cases (taken : s.controllerStep timer = some t) : Stepped timer s .controller t := by
  rw [controllerStep] at taken
  split at taken
  case h_1 | h_2 => cases taken
  case h_3 here =>
      cases taken
      by_cases up : s.isRunning = true
      · rw [if_pos up]
        exact .refused here
      · rw [if_neg up]
        exact .accepted here
  case h_4 here =>
      cases taken
      exact .raised here
  case h_5 here =>
      cases taken
      exact .timed here
  case h_6 now here =>
      cases taken
      exact .begun now here
  case h_7 here =>
      obtain ⟨ended, ⟨⟩⟩ := Option.ite_none_right_eq_some.mp taken
      exact .joined here ended
  case h_8 here =>
      cases taken
      exact .spawned here
  case h_9 here =>
      cases taken
      exact .stopped here
  case h_10 here =>
      cases taken
      exact .ends here
  case h_11 here =>
      obtain ⟨ended, ⟨⟩⟩ := Option.ite_none_right_eq_some.mp taken
      exact .destroyed here ended

-- Only the newest thread has anything left to do.
theorem newest_thread (others : ∀ pc ∈ s.loops.tail, pc = .finished) (thread : Nat) (pc : LoopPc)
    (here : s.loops[thread]? = some pc) (unfinished : pc ≠ .finished) : thread = 0 ∧ ∃ rest, s.loops = pc :: rest := by
  cases loops : s.loops with
  | nil =>
      rw [loops] at here
      cases here
  | cons newest rest =>
      rw [loops] at here others
      cases thread with
      | zero =>
          cases here
          exact ⟨rfl, rest, rfl⟩
      | succ n =>
          have old : rest[n]? = some pc := by simpa using here
          exact absurd (others pc (List.mem_of_getElem? old)) unfinished

theorem move_newest (before after : LoopPc) (rest : List LoopPc) (loops : s.loops = before :: rest) :
    s.move 0 after = { s with loops := after :: rest } := by
  rw [move, loops, List.set_cons_zero]

theorem begin_newest (before after : LoopPc) (rest : List LoopPc) (loops : s.loops = before :: rest) (now : Nat) :
    (s.beginAt now).move 0 after = { s.beginAt now with loops := after :: rest } := by
  rw [move, beginAt, loops, List.set_cons_zero]

theorem restart_cases (pc : StartPc) (rest : List LoopPc) (loops : s.loops = .restarting pc :: rest)
    (taken : s.restartStep 0 pc = some t) : Stepped timer s (.loop 0) t := by
  cases pc with
  | raising =>
      cases taken
      rw [move_newest _ _ rest loops]
      exact .restartRaised rest loops
  | timing =>
      cases taken
      rw [move_newest _ _ rest loops]
      exact .restartTimed rest loops
  | beginning now =>
      cases taken
      rw [begin_newest _ _ rest loops]
      exact .restartBegun rest now loops
  | joining => cases taken

theorem loop_cases (others : ∀ pc ∈ s.loops.tail, pc = .finished) (thread : Nat) (taken : s.loopStep timer thread = some t) :
    Stepped timer s (.loop thread) t := by
  rw [loopStep] at taken
  obtain absent | ⟨pc, here⟩ := Option.eq_none_or_eq_some s.loops[thread]?
  · rw [absent] at taken
    cases taken
  have unfinished : pc ≠ .finished := fun ended => by simp [here, ended] at taken
  obtain ⟨rfl, rest, loops⟩ := newest_thread others thread pc here unfinished
  have moved (after : LoopPc) := move_newest pc after rest loops
  rw [here] at taken
  cases pc with
  | testing =>
      cases taken
      by_cases up : s.isRunning = true
      · rw [if_pos up, moved]
        exact .goesOn rest loops up
      · rw [if_neg up, moved]
        exact .finishes rest loops (Bool.eq_false_iff.mpr up)
  | reading =>
      cases taken
      rw [moved]
      exact .reads rest loops
  | comparing now =>
      by_cases due : timer.elapsed s.begin now = true
      · dsimp only at taken
        rw [if_pos due, moved] at taken
        cases taken
        exact .finds rest now loops due
      · dsimp only at taken
        rw [if_neg due, moved] at taken
        cases taken
        exact .sleeps rest now _ loops
  | sleeping wakeAt =>
      obtain ⟨_, ⟨⟩⟩ := Option.ite_none_right_eq_some.mp taken
      rw [moved]
      exact .wakes rest wakeAt loops
  | firing interval =>
      cases taken
      rw [moved]
      exact .fires rest interval loops
  | running =>
      cases taken
      by_cases once : timer.isSingleShot = true
      · rw [if_pos once, moved]
        exact .returnsOnce rest loops once
      · rw [if_neg once, moved]
        exact .returns rest loops (Bool.eq_false_iff.mpr once)
  | restarting pc => exact restart_cases pc rest loops taken
  | lowering =>
      cases taken
      have stopped : (s.stop timer).move 0 .timing = { s.stop timer with loops := .timing :: rest } := by
        rw [move, stop, record, loops, List.set_cons_zero]
      rw [stopped]
      exact .stopsItself rest loops
  | timing =>
      cases taken
      rw [moved]
      exact .loopTimed rest loops
  | beginning now =>
      cases taken
      rw [begin_newest _ _ rest loops]
      exact .loopBegun rest now loops
  | finished => exact absurd rfl unfinished

theorem step_cases (others : ∀ pc ∈ s.loops.tail, pc = .finished) (taken : s.step timer a = some t) : Stepped timer s a t := by
  cases a with
  | call call =>
      obtain ⟨here, ⟨⟩⟩ := Option.ite_none_right_eq_some.mp taken
      exact .called call here
  | controller => exact controller_cases taken
  | loop thread => exact loop_cases others thread taken
  | callbackStart thread =>
      obtain ⟨here, ⟨⟩⟩ := Option.ite_none_right_eq_some.mp taken
      obtain ⟨rfl, rest, loops⟩ := newest_thread others thread .running here (by simp)
      by_cases up : s.isRunning = true
      · rw [if_pos up]
        exact .callbackRefused rest loops
      · rw [if_neg up, move, loops, List.set_cons_zero]
        exact .callbackStarts rest loops (Bool.eq_false_iff.mpr up)
  | callbackStop thread =>
      obtain ⟨here, ⟨⟩⟩ := Option.ite_none_right_eq_some.mp taken
      obtain ⟨rfl, rest, loops⟩ := newest_thread others thread .running here (by simp)
      exact .callbackStops rest loops
  | pass nanoseconds =>
      cases taken
      exact .passed nanoseconds

variable (s) in
def quiet : Prop := ∀ pc ∈ s.loops, pc = .finished

-- A thread is only made where the one before has finished.
structure Alone (s : StandardTimer) : Prop where
  others : ∀ pc ∈ s.loops.tail, pc = .finished
  spawning : s.controller = .spawning → s.quiet

section Alone
variable (alone : s.Alone)
include alone

theorem joins_quiet (ended : s.joins = true) : s.quiet := by
  intro pc member
  cases loops : s.loops with
  | nil =>
      rw [loops] at member
      cases member
  | cons newest rest =>
      rw [loops] at member
      obtain rfl | old := List.mem_cons.mp member
      · simpa [joins, loops] using ended
      · exact alone.others pc (by rwa [loops])

theorem loop_alone (before after : LoopPc) (rest : List LoopPc) (here : s.loops = before :: rest)
    (unfinished : before ≠ .finished) (loops : t.loops = after :: rest) (same : t.controller = s.controller) : t.Alone where
  others pc member := alone.others pc (by simpa [loops, here] using member)
  spawning spawns := absurd (alone.spawning (same.symm.trans spawns) before (by simp [here])) unfinished

theorem controller_alone (loops : t.loops = s.loops) (spawning : t.controller ≠ .spawning) : t.Alone where
  others pc member := alone.others pc (by rwa [← loops])
  spawning spawns := absurd spawns spawning

theorem step_alone (taken : s.step timer a = some t) : t.Alone := by
  cases step_cases alone.others taken with
  | called call here =>
      have entry : call.entry ≠ .spawning := by cases call <;> simp [ControllerCall.entry]
      exact controller_alone alone rfl entry
  | refused | accepted | raised | timed | begun | stopped | ends | destroyed =>
      exact controller_alone alone rfl (by simp [record])
  | joined here ended =>
      have quiet := joins_quiet alone ended
      exact ⟨alone.others, fun _ => quiet⟩
  | spawned here => exact ⟨alone.spawning here, by simp⟩
  | goesOn rest here | finishes rest here | reads rest here | finds rest now here | sleeps rest now wakeAt here
  | wakes rest wakeAt here | fires rest interval here | returnsOnce rest here | returns rest here | stopsItself rest here
  | loopTimed rest here | loopBegun rest now here | callbackStarts rest here | restartRaised rest here
  | restartTimed rest here | restartBegun rest now here => exact loop_alone alone _ _ rest here (by simp) rfl rfl
  | callbackStops rest here => exact loop_alone alone _ _ rest here (by simp) here rfl
  | callbackRefused => exact alone
  | passed => exact ⟨alone.others, alone.spawning⟩

end Alone

end StandardTimer

def Action.ofLoop : Action → Bool
  | .loop _ | .pass _ => true
  | _ => false

namespace StandardTimer

-- A join comes to its end by what the loop and the time do, without a call on the timer.
def CanEnd (timer : TimerSettings) (s : StandardTimer) : Prop :=
  CanReach (timerMachine timer) Action.ofLoop (fun s => s.joins = true) s

section CanEnd
variable {timer : TimerSettings} {s t : StandardTimer} {rest : List LoopPc}

theorem can_end_step (a : Action) (mine : a.ofLoop = true) (taken : s.step timer a = some t) (later : t.CanEnd timer) :
    s.CanEnd timer :=
  can_reach_step (m := timerMachine timer) a mine taken later

theorem lowered_ends (down : s.isRunning = false) (here : s.loops = .testing :: rest) : s.CanEnd timer := by
  have taken : s.step timer (.loop 0) = some { s with loops := .finished :: rest } := by simp [step, loopStep, here, move, down]
  exact can_end_step (.loop 0) rfl taken (can_reach_here (by simp [joins]))

theorem beginning_ends (now : Nat) (here : s.loops = .beginning now :: rest)
    (later : ∀ t : StandardTimer, t.isRunning = s.isRunning → t.loops = .testing :: rest → t.CanEnd timer) : s.CanEnd timer := by
  have taken : s.step timer (.loop 0) = some { s.beginAt now with loops := .testing :: rest } := by
    simp [step, loopStep, here, move, beginAt]
  exact can_end_step (.loop 0) rfl taken (later _ rfl rfl)

theorem timing_ends (here : s.loops = .timing :: rest)
    (later : ∀ t : StandardTimer, t.isRunning = s.isRunning → t.loops = .testing :: rest → t.CanEnd timer) : s.CanEnd timer := by
  have taken : s.step timer (.loop 0) = some { s with loops := .beginning s.clock :: rest } := by
    simp [step, loopStep, here, move]
  exact can_end_step (.loop 0) rfl taken (beginning_ends s.clock rfl later)

theorem lowering_ends (here : s.loops = .lowering :: rest) : s.CanEnd timer := by
  have taken : s.step timer (.loop 0) = some { s.stop timer with loops := .timing :: rest } := by
    simp [step, loopStep, here, move, stop, record]
  exact can_end_step (.loop 0) rfl taken (timing_ends rfl fun t same => lowered_ends same)

-- The loop ends by itself, or its flag is down already.
theorem running_ends (free : timer.isSingleShot = true ∨ s.isRunning = false) (here : s.loops = .running :: rest) :
    s.CanEnd timer := by
  by_cases once : timer.isSingleShot = true
  · have taken : s.step timer (.loop 0) = some { s with loops := .lowering :: rest } := by
      simp [step, loopStep, here, move, once]
    exact can_end_step (.loop 0) rfl taken (lowering_ends rfl)
  · have down := free.resolve_left once
    have taken : s.step timer (.loop 0) = some { s with loops := .timing :: rest } := by
      simp [step, loopStep, here, move, once]
    exact can_end_step (.loop 0) rfl taken (timing_ends rfl fun t same => lowered_ends (same.trans down))

theorem firing_ends (free : timer.isSingleShot = true ∨ s.isRunning = false) (interval : Nat)
    (here : s.loops = .firing interval :: rest) : s.CanEnd timer := by
  have taken : s.step timer (.loop 0) = some ({ s with loops := .running :: rest }.record (.fired interval)) := by
    simp [step, loopStep, here, move]
  exact can_end_step (.loop 0) rfl taken (running_ends free rfl)

theorem over_ends (free : timer.isSingleShot = true ∨ s.isRunning = false) (now : Nat)
    (here : s.loops = .comparing now :: rest) (due : timer.elapsed s.begin now = true) : s.CanEnd timer := by
  have taken : s.step timer (.loop 0) = some { s with loops := .firing s.interval :: rest } := by
    simp [step, loopStep, here, move, due]
  exact can_end_step (.loop 0) rfl taken (firing_ends free s.interval rfl)

theorem testing_ends (free : timer.isSingleShot = true ∨ s.isRunning = false) (here : s.loops = .testing :: rest) :
    s.CanEnd timer := by
  by_cases up : s.isRunning = true
  · obtain ⟨later, le, due⟩ := timer.elapses s.begin s.clock
    have clock : s.clock + (later - s.clock) = later := Nat.add_sub_cancel' le
    have passes : s.step timer (.pass (later - s.clock)) = some { s with clock := later } := by simp [step, clock]
    have goesOn : step timer { s with clock := later } (.loop 0) = some { s with clock := later, loops := .reading :: rest } := by
      simp [step, loopStep, here, move, up]
    have reads : step timer { s with clock := later, loops := .reading :: rest } (.loop 0) =
        some { s with clock := later, loops := .comparing later :: rest } := by
      simp [step, loopStep, move]
    refine can_end_step _ rfl passes (can_end_step _ rfl goesOn (can_end_step _ rfl reads ?_))
    exact over_ends free later rfl due
  · exact lowered_ends (Bool.eq_false_iff.mpr up) here

theorem sleeping_ends (free : timer.isSingleShot = true ∨ s.isRunning = false) (wakeAt : Nat)
    (here : s.loops = .sleeping wakeAt :: rest) : s.CanEnd timer := by
  have passes : s.step timer (.pass wakeAt) = some { s with clock := s.clock + wakeAt } := rfl
  have wakes : step timer { s with clock := s.clock + wakeAt } (.loop 0) =
      some { s with clock := s.clock + wakeAt, loops := .testing :: rest } := by
    simp [step, loopStep, here, move]
  exact can_end_step _ rfl passes (can_end_step _ rfl wakes (testing_ends free rfl))

theorem comparing_ends (free : timer.isSingleShot = true ∨ s.isRunning = false) (now : Nat)
    (here : s.loops = .comparing now :: rest) : s.CanEnd timer := by
  by_cases due : timer.elapsed s.begin now = true
  · exact over_ends free now here due
  · have taken : ∃ wakeAt, s.step timer (.loop 0) = some { s with loops := .sleeping wakeAt :: rest } := by
      simp [step, loopStep, here, move, due]
    obtain ⟨wakeAt, sleeps⟩ := taken
    exact can_end_step (.loop 0) rfl sleeps (sleeping_ends free wakeAt rfl)

theorem loop_ends (free : timer.isSingleShot = true ∨ s.isRunning = false) (plain : ∀ pc, .restarting pc ∉ s.loops) :
    s.CanEnd timer := by
  cases here : s.loops with
  | nil => exact can_reach_here (by simp [joins, here])
  | cons pc rest =>
      have again (t : StandardTimer) (same : t.isRunning = s.isRunning) (loops : t.loops = .testing :: rest) :
          t.CanEnd timer := testing_ends (by rwa [same]) loops
      cases pc with
      | testing => exact testing_ends free here
      | reading =>
          have taken : s.step timer (.loop 0) = some { s with loops := .comparing s.clock :: rest } := by
            simp [step, loopStep, here, move]
          exact can_end_step (.loop 0) rfl taken (comparing_ends free s.clock rfl)
      | comparing now => exact comparing_ends free now here
      | sleeping wakeAt => exact sleeping_ends free wakeAt here
      | firing interval => exact firing_ends free interval here
      | running => exact running_ends free here
      | restarting start => exact absurd (by simp [here]) (plain start)
      | lowering => exact lowering_ends here
      | timing => exact timing_ends here again
      | beginning now => exact beginning_ends now here again
      | finished => exact can_reach_here (by simp [joins, here])

-- With the flag raised the loop of a repeating timer goes round for ever.
structure GoesRound (s : StandardTimer) : Prop where
  up : s.isRunning = true
  others : ∀ pc ∈ s.loops.tail, pc = .finished
  head : ∃ pc rest, s.loops = pc :: rest ∧ pc ≠ .finished ∧ pc ≠ .lowering

theorem goes_round_step (repeating : timer.isSingleShot = false) (a : Action) (round : s.GoesRound) (mine : a.ofLoop = true)
    (taken : s.step timer a = some t) : t.GoesRound := by
  obtain ⟨up, others, pc, loops, same, unfinished, apart⟩ := round
  have rest_ended (rest : List LoopPc) (newest : LoopPc) (here : s.loops = newest :: rest) : ∀ pc ∈ rest, pc = .finished := by
    rw [here] at others
    exact others
  cases step_cases others taken with
  | called | refused | accepted | raised | timed | begun | joined | spawned | stopped | ends | destroyed
  | callbackRefused | callbackStarts | callbackStops => cases mine
  | finishes rest here down => simp [up] at down
  | returnsOnce rest here once => simp [repeating] at once
  | stopsItself rest here =>
      rw [same] at here
      exact absurd (List.cons.inj here).1 apart
  | goesOn rest here | reads rest here | finds rest now here | sleeps rest now wakeAt here | wakes rest wakeAt here
  | fires rest interval here | returns rest here | loopTimed rest here | loopBegun rest now here | restartTimed rest here
  | restartBegun rest now here => exact ⟨up, rest_ended rest _ here, _, rest, rfl, by simp, by simp⟩
  | restartRaised rest here => exact ⟨rfl, rest_ended rest _ here, _, rest, rfl, by simp, by simp⟩
  | passed nanoseconds => exact ⟨up, others, pc, loops, same, unfinished, apart⟩

theorem repeating_never_ends (repeating : timer.isSingleShot = false) (round : s.GoesRound) : ¬s.CanEnd timer := by
  refine cannot_reach GoesRound (fun s a t round mine taken => goes_round_step repeating a round mine taken) ?_ round
  intro s ⟨_, _, pc, rest, loops, unfinished, _⟩ joins
  simp [StandardTimer.joins, loops, unfinished] at joins

end CanEnd

end StandardTimer

-- No callback for an interval that a Stop came in before it was over.
def unstopped (event : Event) (older : List Event) : Prop :=
  match event with
  | .fired interval => .stopped interval false ∉ older
  | .started | .stopped _ _ => True

def isStart (event : Event) : Bool := event = .started

def owes (log : List Event) : Prop := .started ∈ log ∧ ∀ interval, .fired interval ∉ since isStart log

def oncePerStart (event : Event) (older : List Event) : Prop :=
  match event with
  | .fired _ => owes older
  | .started | .stopped _ _ => True

def ControllerPc.restarts : ControllerPc → Bool
  | .timing | .beginning _ | .joining => true
  | _ => false

namespace StandardTimer

-- In the join of a Start, of the destructor or of a Start that the callback makes.
def Waits (s : StandardTimer) : Prop :=
  s.controller = .joining ∨ s.controller = .joiningLast ∨ .restarting .joining ∈ s.loops

structure CleanRestart (timer : TimerSettings) (s : StandardTimer) : Prop where
  ends : s.Waits → s.CanEnd timer
  one : (s.loops.filter fun pc => pc ≠ .finished).length ≤ 1
  unstopped : AtEach unstopped s.log
  once : timer.isSingleShot = true → AtEach oncePerStart s.log

-- The flag of a repeating timer is raised where no loop is left that would take it for its own,
-- and a Start of the callback finds it raised. No Stop comes, before the interval is over,
-- between the loop's test of the flag and a comparison that finds it over.
def clean (timer : TimerSettings) (s : StandardTimer) (a : Action) : Bool :=
  match a with
  | .controller => s.controller ≠ .raising || timer.isSingleShot || s.loops.all fun pc => pc = .finished
  | .loop thread =>
      match s.loops[thread]? with
      | some (.comparing now) => !timer.elapsed s.begin now || !s.log.contains (.stopped s.interval false)
      | _ => true
  | .callbackStart _ => s.isRunning
  | .call _ | .callbackStop _ | .pass _ => true

structure Restarting (timer : TimerSettings) (s : StandardTimer) : Prop where
  alone : s.Alone
  restarts : s.controller.restarts = true → timer.isSingleShot = true ∨ s.quiet
  ending : s.controller = .joiningLast → s.isRunning = false
  plain : ∀ pc, .restarting pc ∉ s.loops

-- What the loop has found over stays over in the same interval.
structure Found (timer : TimerSettings) (s : StandardTimer) : Prop where
  reading : ∀ now, s.loops.head? = some (.comparing now) → now ≤ s.clock
  firing : ∀ n, s.loops.head? = some (.firing n) →
    n ≤ s.interval ∧ .stopped n false ∉ s.log ∧ (n = s.interval → timer.elapsed s.begin s.clock = true)
  each : AtEach StandardTimers.unstopped s.log

-- The flag of a single shot is up for one callback, the loop in front of it with it.
def mayFire (s : StandardTimer) : Bool :=
  match s.loops.head? with
  | some .reading | some (.comparing _) | some (.firing _) => true
  | some .running | some .lowering => false
  | _ => s.isRunning

structure Owing (s : StandardTimer) : Prop where
  owes : s.mayFire = true → owes s.log
  each : AtEach oncePerStart s.log

section Kept
variable {timer : TimerSettings} {s t : StandardTimer} {a : Action}

theorem step_plain (alone : s.Alone) (plain : ∀ pc, .restarting pc ∉ s.loops) (allowed : s.clean timer a = true)
    (taken : s.step timer a = some t) : ∀ pc, .restarting pc ∉ t.loops := by
  have moved (before after : LoopPc) (rest : List LoopPc) (here : s.loops = before :: rest)
      (apart : ∀ pc, after ≠ .restarting pc) (pc : StartPc) : .restarting pc ∉ after :: rest := by
    rw [List.mem_cons, not_or]
    exact ⟨(apart pc).symm, fun old => plain pc (by simp [here, old])⟩
  cases step_cases alone.others taken with
  | called | refused | accepted | raised | timed | begun | joined | stopped | ends | destroyed | callbackStops
  | callbackRefused | passed => exact plain
  | spawned => simpa using plain
  | callbackStarts rest here down => simp [clean, down] at allowed
  | restartRaised rest here => exact absurd (by simp [here]) (plain .raising)
  | restartTimed rest here => exact absurd (by simp [here]) (plain .timing)
  | restartBegun rest now here => exact absurd (by simp [here]) (plain (.beginning now))
  | goesOn rest here | finishes rest here | reads rest here | finds rest now here | sleeps rest now wakeAt here
  | wakes rest wakeAt here | fires rest interval here | returnsOnce rest here | returns rest here | stopsItself rest here
  | loopTimed rest here | loopBegun rest now here => exact moved _ _ rest here (by simp)

theorem step_ending (alone : s.Alone) (ending : s.controller = .joiningLast → s.isRunning = false)
    (plain : ∀ pc, .restarting pc ∉ s.loops) (taken : s.step timer a = some t) :
    t.controller = .joiningLast → t.isRunning = false := by
  cases step_cases alone.others taken with
  | called call here => cases call <;> simp [ControllerCall.entry]
  | refused | accepted | raised | timed | begun | joined | spawned | stopped | destroyed => simp [record]
  | ends | stopsItself | callbackStops => exact fun _ => rfl
  | restartRaised rest here => exact absurd (by simp [here]) (plain .raising)
  | goesOn | finishes | reads | finds | sleeps | wakes | fires | returnsOnce | returns | loopTimed | loopBegun
  | callbackRefused | callbackStarts | restartTimed | restartBegun | passed => exact ending

theorem step_restarts (alone : s.Alone) (restarts : s.controller.restarts = true → timer.isSingleShot = true ∨ s.quiet)
    (allowed : s.clean timer a = true) (taken : s.step timer a = some t) :
    t.controller.restarts = true → timer.isSingleShot = true ∨ t.quiet := by
  -- A loop that takes a step has not finished.
  have moving (pc : LoopPc) (rest : List LoopPc) (here : s.loops = pc :: rest) (unfinished : pc ≠ .finished)
      (waits : s.controller.restarts = true) : timer.isSingleShot = true ∨ t.quiet :=
    (restarts waits).imp_right fun quiet => absurd (quiet pc (by simp [here])) unfinished
  cases step_cases alone.others taken with
  | called call here => cases call <;> simp [ControllerCall.entry, ControllerPc.restarts]
  | refused | accepted | joined | spawned | stopped | ends | destroyed => simp [ControllerPc.restarts]
  | raised here =>
      intro _
      simpa [clean, here, quiet, record] using allowed
  | timed here | begun now here =>
      intro _
      exact restarts (by rw [here]; rfl)
  | goesOn rest here | finishes rest here | reads rest here | finds rest now here | sleeps rest now wakeAt here
  | wakes rest wakeAt here | fires rest interval here | returnsOnce rest here | returns rest here | stopsItself rest here
  | loopTimed rest here | loopBegun rest now here | callbackStarts rest here | restartRaised rest here
  | restartTimed rest here | restartBegun rest now here => exact moving _ rest here (by simp)
  | callbackRefused | callbackStops | passed => exact restarts

theorem step_restarting (restarting : s.Restarting timer) (allowed : s.clean timer a = true) (taken : s.step timer a = some t) :
    t.Restarting timer where
  alone := step_alone restarting.alone taken
  restarts := step_restarts restarting.alone restarting.restarts allowed taken
  ending := step_ending restarting.alone restarting.ending restarting.plain taken
  plain := step_plain restarting.alone restarting.plain allowed taken

theorem found_elsewhere (comparing : ∀ now, t.loops.head? ≠ some (.comparing now)) (firing : ∀ n, t.loops.head? ≠ some (.firing n))
    (each : AtEach StandardTimers.unstopped t.log) : t.Found timer where
  reading now here := absurd here (comparing now)
  firing n here := absurd here (firing n)
  each := each

theorem step_found (alone : s.Alone) (found : s.Found timer) (allowed : s.clean timer a = true)
    (taken : s.step timer a = some t) : t.Found timer := by
  cases step_cases alone.others taken with
  | called | refused | accepted | timed | joined | ends | destroyed => exact ⟨found.reading, found.firing, found.each⟩
  | raised here =>
      refine ⟨found.reading, fun n head => ?_, trivial, found.each⟩
      obtain ⟨le, clear, due⟩ := found.firing n head
      exact ⟨le, by simpa [record] using clear, due⟩
  | begun now here =>
      refine ⟨found.reading, fun n head => ?_, found.each⟩
      obtain ⟨le, clear, _⟩ := found.firing n head
      exact ⟨Nat.le_succ_of_le le, clear, fun same => absurd le (by simp [same, beginAt])⟩
  | stopped here =>
      refine ⟨found.reading, fun n head => ?_, trivial, found.each⟩
      obtain ⟨le, clear, due⟩ := found.firing n head
      refine ⟨le, fun member => ?_, due⟩
      obtain now | before := List.mem_cons.mp member
      · obtain ⟨same, early⟩ := Event.stopped.inj now
        exact Bool.false_ne_true (early.trans (due same))
      · exact clear before
  | spawned | goesOn | finishes | sleeps | wakes | returnsOnce | returns | loopTimed | loopBegun | callbackStarts
  | restartTimed | restartBegun => exact found_elsewhere (by simp) (by simp) found.each
  | restartRaised => exact found_elsewhere (by simp [record]) (by simp [record]) ⟨trivial, found.each⟩
  | callbackRefused => exact found
  | reads rest here =>
      refine ⟨fun now head => ?_, by simp, found.each⟩
      cases head
      exact Nat.le_refl _
  | finds rest now here due =>
      refine ⟨by simp, fun n head => ?_, found.each⟩
      cases head
      have clear : .stopped s.interval false ∉ s.log := by simpa [clean, here, due] using allowed
      have le := found.reading now (by simp [here])
      exact ⟨Nat.le_refl _, clear, fun _ => timer.elapsed_later s.begin now s.clock le due⟩
  | fires rest interval here =>
      have clear := (found.firing interval (by simp [here])).2.1
      exact found_elsewhere (by simp [record]) (by simp [record]) ⟨clear, found.each⟩
  | stopsItself => exact found_elsewhere (by simp) (by simp) ⟨trivial, found.each⟩
  | callbackStops rest here => exact found_elsewhere (by simp [stop, record, here]) (by simp [stop, record, here]) ⟨trivial, found.each⟩
  | passed nanoseconds =>
      refine ⟨fun now head => Nat.le_add_right_of_le (found.reading now head), fun n head => ?_, found.each⟩
      obtain ⟨le, clear, due⟩ := found.firing n head
      exact ⟨le, clear, fun same => timer.elapsed_later _ _ _ (Nat.le_add_right _ _) (due same)⟩

theorem owes_elsewhere (event : Event) (log : List Event) (apart : isStart event = false) (quiet : ∀ n, event ≠ .fired n)
    (owed : StandardTimers.owes log) : StandardTimers.owes (event :: log) := by
  refine ⟨List.mem_cons_of_mem _ owed.1, fun n member => ?_⟩
  rw [since_other log apart] at member
  obtain here | before := List.mem_cons.mp member
  · exact quiet n here.symm
  · exact owed.2 n before

theorem may_fire_lowered (s t : StandardTimer) (loops : t.loops = s.loops) (down : t.isRunning = false) (may : t.mayFire = true) : s.mayFire = true := by
  rw [mayFire, loops, down] at may
  rw [mayFire]
  split at may
  case h_1 | h_2 | h_3 => rfl
  case h_4 | h_5 | h_6 => cases may

theorem step_owing (once : timer.isSingleShot = true) (alone : s.Alone) (owing : s.Owing) (taken : s.step timer a = some t) :
    t.Owing := by
  obtain ⟨owed, each⟩ := owing
  cases step_cases alone.others taken with
  | called | refused | accepted | timed | begun | joined | destroyed | passed => exact ⟨owed, each⟩
  | raised => exact ⟨fun _ => ⟨List.mem_cons_self, by simp [record, isStart]⟩, trivial, each⟩
  | callbackRefused => exact ⟨owed, each⟩
  | callbackStarts rest here down => exact ⟨fun may => by simp [mayFire, down] at may, each⟩
  | restartRaised => exact ⟨fun _ => ⟨List.mem_cons_self, by simp [record, isStart]⟩, trivial, each⟩
  | restartTimed rest here | restartBegun rest now here =>
      exact ⟨fun may => owed (by simpa [mayFire, here, beginAt] using may), each⟩
  | spawned here =>
      refine ⟨fun may => owed ?_, each⟩
      have ended := alone.spawning here
      cases loops : s.loops with
      | nil => simpa [mayFire, loops] using may
      | cons pc rest => simpa [mayFire, loops, ended pc (by simp [loops])] using may
  | stopped here =>
      exact ⟨fun may => owes_elsewhere _ _ rfl (by simp) (owed (may_fire_lowered s { s.stop timer with controller := .idle } rfl rfl may)), trivial, each⟩
  | ends here => exact ⟨fun may => owed (may_fire_lowered s { s with isRunning := false, controller := .joiningLast } rfl rfl may), each⟩
  | goesOn rest here up => exact ⟨fun _ => owed (by simp [mayFire, here, up]), each⟩
  | finishes rest here down => exact ⟨fun may => by simp [mayFire, down] at may, each⟩
  | reads rest here | finds rest now here => exact ⟨fun _ => owed (by simp [mayFire, here]), each⟩
  | sleeps rest now wakeAt here => exact ⟨fun _ => owed (by simp [mayFire, here]), each⟩
  | wakes rest wakeAt here => exact ⟨fun may => owed (by simpa [mayFire, here] using may), each⟩
  | fires rest interval here => exact ⟨by simp [mayFire, record], owed (by simp [mayFire, here]), each⟩
  | returnsOnce => exact ⟨by simp [mayFire], each⟩
  | returns rest here repeating => simp [once] at repeating
  | stopsItself rest here => exact ⟨by simp [mayFire, stop, record], trivial, each⟩
  | loopTimed rest here | loopBegun rest now here => exact ⟨fun may => owed (by simpa [mayFire, here, beginAt] using may), each⟩
  | callbackStops rest here => exact ⟨by simp [mayFire, stop, record, here], trivial, each⟩

end Kept

end StandardTimer

open StandardTimer

-- The threads stay apart, and a single shot fires once for a Start, in every run.
theorem timer_alone (timer : TimerSettings) (s : StandardTimer) (reach : Reachable (timerMachine timer) s) :
    s.Alone ∧ (timer.isSingleShot = true → s.Owing) := by
  refine reachable_invariant (timerMachine timer) (fun s => s.Alone ∧ (timer.isSingleShot = true → s.Owing)) ?_ ?_ s reach
  · exact ⟨⟨by simp [timerMachine], by simp [timerMachine]⟩,
      fun _ => ⟨by simp [timerMachine, mayFire], trivial⟩⟩
  · intro s a t ⟨alone, owing⟩ taken
    exact ⟨step_alone alone taken, fun once => step_owing once alone (owing once) taken⟩

theorem timer_found (timer : TimerSettings) (s : StandardTimer)
    (reach : Reach (timerMachine timer) (fun s a => s.clean timer a = true) s) : s.Restarting timer ∧ s.Found timer := by
  refine reach_invariant (timerMachine timer) _ (fun s => s.Restarting timer ∧ s.Found timer) ?_ ?_ s reach
  · have alone := (timer_alone timer _ .init).1
    exact ⟨⟨alone, by simp [timerMachine, ControllerPc.restarts], by simp [timerMachine], by simp [timerMachine]⟩,
      ⟨by simp [timerMachine], by simp [timerMachine], trivial⟩⟩
  · intro s a t _ ⟨restarting, found⟩ allowed taken
    exact ⟨step_restarting restarting allowed taken, step_found restarting.alone found allowed taken⟩

theorem waiting_ends (timer : TimerSettings) (s : StandardTimer) (restarting : s.Restarting timer) (waits : s.Waits) :
    s.CanEnd timer := by
  obtain start | destructor | callback := waits
  · obtain once | quiet := restarting.restarts (by rw [start]; rfl)
    · exact loop_ends (.inl once) restarting.plain
    · refine can_reach_here ?_
      cases loops : s.loops with
      | nil => simp [joins, loops]
      | cons pc rest => simp [joins, loops, quiet pc (by simp [loops])]
  · exact loop_ends (.inr (restarting.ending destructor)) restarting.plain
  · exact absurd callback (restarting.plain .joining)

theorem one_loop (s : StandardTimer) (alone : s.Alone) : (s.loops.filter fun pc => pc ≠ .finished).length ≤ 1 := by
  cases loops : s.loops with
  | nil => simp
  | cons pc rest =>
      have old : rest.filter (fun pc => decide (pc ≠ .finished)) = [] := by
        refine List.filter_eq_nil_iff.mpr fun other member => ?_
        simpa using alone.others other (by rwa [loops])
      rw [List.filter_cons, old]
      split <;> simp

theorem timer_restarts_cleanly (timer : TimerSettings) (actions : List Action)
    (clean : Meets (timerMachine timer) (fun s a => s.clean timer a = true) (timerMachine timer).init actions) :
    Always (timerMachine timer) (CleanRestart timer) (timerMachine timer).init actions := by
  refine meets_always (timerMachine timer) _ (CleanRestart timer) (fun s reach => ?_) _ .init actions clean
  obtain ⟨restarting, found⟩ := timer_found timer s reach
  obtain ⟨alone, owing⟩ := timer_alone timer s (reach_reachable _ _ s reach)
  exact ⟨waiting_ends timer s restarting, one_loop s alone, found.each, fun once => (owing once).each⟩

def startsTicking : List Action :=
  [.call .start, .controller, .controller, .controller, .controller, .controller, .controller, .loop 0]

def restartsAfterEnd : List Action :=
  startsTicking ++ [.loop 0, .loop 0, .call .stop, .controller, .pass 2000000, .loop 0, .loop 0] ++
    startsTicking ++ [.pass 5000000, .loop 0, .loop 0, .loop 0]

theorem restart_after_end :
    Always (timerMachine ⟨5, false⟩) (CleanRestart ⟨5, false⟩) (timerMachine ⟨5, false⟩).init restartsAfterEnd ∧
      (exec (timerMachine ⟨5, false⟩) (timerMachine ⟨5, false⟩).init restartsAfterEnd).map log =
        some [.fired 2, .started, .stopped 1 false, .started] := by
  constructor
  · let allowed : StandardTimer → Action → Prop := fun s a => s.clean ⟨5, false⟩ a = true
    obtain ⟨t, run⟩ : ∃ t, execIf (timerMachine ⟨5, false⟩) (fun s a => decide (allowed s a)) (timerMachine ⟨5, false⟩).init
        restartsAfterEnd = some t := Option.isSome_iff_exists.mp (by decide +kernel)
    exact timer_restarts_cleanly ⟨5, false⟩ restartsAfterEnd (exec_if_meets _ allowed _ _ t run).1
  · decide +kernel

-- The loop sleeps, and the Start behind a Stop raises the flag by which it would have ended.
theorem restart_keeps_old_loop :
    ¬Always (timerMachine ⟨5, false⟩) (CleanRestart ⟨5, false⟩) (timerMachine ⟨5, false⟩).init
      (startsTicking ++ [.loop 0, .loop 0, .call .stop, .controller, .call .start, .controller, .controller, .controller,
        .controller]) ∧
    -- A Stop between the test of the flag and the clock.
    ¬Always (timerMachine ⟨5, true⟩) (CleanRestart ⟨5, true⟩) (timerMachine ⟨5, true⟩).init
      (startsTicking ++ [.call .stop, .controller, .pass 5000000, .loop 0, .loop 0, .loop 0]) := by
  constructor
  · intro always
    obtain ⟨s, clean, here⟩ := always_finds _ _ _ _ (fun s : StandardTimer => decide (s.controller = .joining ∧ s.isRunning = true ∧
      s.loops = [.sleeping 2000000])) always (by decide +kernel)
    obtain ⟨waits, up, loops⟩ := of_decide_eq_true here
    have round : s.GoesRound := ⟨up, by simp [loops], _, [], loops, by simp, by simp⟩
    exact repeating_never_ends rfl round (clean.ends (.inl waits))
  · intro always
    obtain ⟨s, clean, here⟩ := always_finds _ _ _ _ (fun s : StandardTimer => decide (s.log = [.fired 1, .stopped 1 false, .started]))
      always (by decide +kernel)
    have fired := clean.unstopped
    rw [of_decide_eq_true here] at fired
    exact fired.1 List.mem_cons_self

end RadeonPanel.TraceSource.StandardTimers

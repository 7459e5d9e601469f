import Mathlib.Data.List.Infix
import Mathlib.Data.List.Range

set_option autoImplicit false

namespace EventChannel

variable {ε : Type}

-- A thread that takes events off a queue and calls the registered listeners with
-- each of them. It sleeps on a condition variable while there is nothing to take.
inductive Reader (ε : Type) where
  | test
  | asleep
  | taken (event : ε)
  | calling (event : ε) (next : Nat)
  | exited
deriving DecidableEq, Repr

-- A listener without a callback is passed by.
structure Listener where
  hasCallback : Bool
deriving DecidableEq, Repr

-- A finished round and how many listeners were registered then.
structure Round (ε : Type) where
  event : ε
  listeners : Nat
deriving DecidableEq, Repr

structure Call (ε : Type) where
  listener : Nat
  event : ε
deriving DecidableEq, Repr

-- `notifies` are the notifications that are still to be made. From `pushed` on the
-- fields only record, oldest first.
structure Channel (ε : Type) where
  queue : List ε
  exit : Bool
  listeners : List Listener
  reader : Reader ε
  notifies : Nat
  pushed : List ε
  beforeStop : Option (List ε)
  rounds : List (Round ε)
  calls : List (Call ε)
deriving DecidableEq, Repr

namespace Channel

def initial : Channel ε := ⟨[], false, [], .test, 0, [], none, [], []⟩

def push (c : Channel ε) (event : ε) : Channel ε :=
  { c with queue := c.queue ++ [event], pushed := c.pushed ++ [event], notifies := c.notifies + 1 }

-- The flag is set under the lock of the queue, the notification follows outside.
def stop (c : Channel ε) : Option (Channel ε) :=
  if c.exit then none
  else some { c with exit := true, notifies := c.notifies + 1, beforeStop := some c.pushed }

-- The reader holds the lock of the listeners while it calls them.
def locked (c : Channel ε) : Bool :=
  match c.reader with
  | .calling _ _ => true
  | _ => false

def register (c : Channel ε) (listener : Listener) : Option (Channel ε) :=
  if c.locked then none else some { c with listeners := c.listeners ++ [listener] }

-- Also what a spurious wake-up does.
def wake (c : Channel ε) : Channel ε :=
  match c.reader with
  | .asleep => { c with reader := .test }
  | _ => c

def notify (c : Channel ε) : Option (Channel ε) :=
  match c.notifies with
  | 0 => none
  | left + 1 => some { c with notifies := left }.wake

-- What is tested and taken in one locked section is one step.
def read (c : Channel ε) : Option (Channel ε) :=
  match c.reader with
  | .test =>
      match c.queue with
      | event :: rest => some { c with queue := rest, reader := .taken event }
      | [] => some { c with reader := if c.exit then .exited else .asleep }
  | .asleep => none
  | .taken event => some { c with reader := .calling event 0 }
  | .calling event next =>
      match c.listeners[next]? with
      | some listener => some { c with
          reader := .calling event (next + 1)
          calls := if listener.hasCallback then c.calls ++ [⟨next, event⟩] else c.calls }
      | none => some { c with reader := .test, rounds := c.rounds ++ [⟨event, c.listeners.length⟩] }
  | .exited => none

end Channel

inductive Move (ε : Type) where
  | push (event : ε)
  | stop
  | register (listener : Listener)
  | wake
  | notify
  | read
deriving DecidableEq, Repr

def Channel.step (c : Channel ε) : Move ε → Option (Channel ε)
  | .push event => some (c.push event)
  | .stop => c.stop
  | .register listener => c.register listener
  | .wake => some c.wake
  | .notify => c.notify
  | .read => c.read

-- The moves of the reader's surroundings that carry no event.
inductive Turn where
  | register (listener : Listener)
  | wake
  | notify
  | read
deriving DecidableEq, Repr

def Turn.move : Turn → Move ε
  | .register listener => .register listener
  | .wake => .wake
  | .notify => .notify
  | .read => .read

def Channel.turn (c : Channel ε) (turn : Turn) : Option (Channel ε) := c.step turn.move

def Channel.exited (c : Channel ε) : Bool :=
  match c.reader with
  | .exited => true
  | _ => false

theorem exited_iff (c : Channel ε) : c.exited = true ↔ c.reader = .exited := by
  unfold Channel.exited
  split <;> simp_all

def Reader.inHand : Reader ε → List ε
  | .taken event | .calling event _ => [event]
  | _ => []

def Reader.current : Reader ε → List (Round ε)
  | .calling event next => [⟨event, next⟩]
  | _ => []

-- The calls of a round that has come past the first `listeners` listeners.
def Round.calls (registered : List Listener) (round : Round ε) : List (Call ε) :=
  ((List.range round.listeners).filter fun i => registered[i]? = some ⟨true⟩).map fun i => ⟨i, round.event⟩

theorem round_calls_register (registered : List Listener) (listener : Listener) (round : Round ε)
    (bound : round.listeners ≤ registered.length) :
    round.calls (registered ++ [listener]) = round.calls registered := by
  rw [Round.calls, Round.calls]
  congr 1
  apply List.filter_congr
  intro i member
  have inside : i < registered.length := Nat.lt_of_lt_of_le (List.mem_range.mp member) bound
  rw [List.getElem?_append_left inside]

theorem round_calls_next (registered : List Listener) (event : ε) (next : Nat) (listener : Listener)
    (found : registered[next]? = some listener) :
    Round.calls registered ⟨event, next + 1⟩ =
      Round.calls registered ⟨event, next⟩ ++ if listener.hasCallback then [⟨next, event⟩] else [] := by
  obtain ⟨hasCallback⟩ := listener
  cases hasCallback <;> simp [Round.calls, List.range_succ, List.filter_append, found]

-- The rounds begun so far: the last one may still be under way.
def Channel.begun (c : Channel ε) : List (Round ε) := c.rounds ++ c.reader.current

-- What the reader must have delivered before it may exit.
def Channel.Served (c : Channel ε) : Prop :=
  c.exit = true ∧ ∀ before, c.beforeStop = some before → before <+: c.rounds.map Round.event

structure Channel.Lossless (c : Channel ε) : Prop where
  accounted : c.rounds.map Round.event ++ c.reader.inHand ++ c.queue = c.pushed
  called : c.calls = c.begun.flatMap (Round.calls c.listeners)
  bounded : ∀ round ∈ c.begun, round.listeners ≤ c.listeners.length
  grows : (c.rounds.map Round.listeners).Pairwise (· ≤ ·)
  marked : ∀ before, c.beforeStop = some before → before <+: c.pushed
  stopped : c.exit = c.beforeStop.isSome
  exits : c.reader = .exited → c.Served
  awake : c.reader = .asleep → (c.queue ≠ [] ∨ c.exit = true) → 0 < c.notifies

theorem initial_lossless : (Channel.initial : Channel ε).Lossless := by
  constructor <;> simp [Channel.initial, Channel.begun, Reader.inHand, Reader.current]

theorem push_lossless (c : Channel ε) (event : ε) (lossless : c.Lossless) : (c.push event).Lossless := by
  obtain ⟨accounted, called, bounded, grows, marked, stopped, exits, _⟩ := lossless
  refine ⟨?_, called, bounded, grows, ?_, stopped, exits, fun _ _ => Nat.succ_pos _⟩
  · simp [Channel.push, ← accounted]
  · exact fun before mark => (marked before mark).trans (List.prefix_append _ _)

theorem stop_lossless (c d : Channel ε) (lossless : c.Lossless) (next : c.stop = some d) : d.Lossless := by
  obtain ⟨accounted, called, bounded, grows, _, _, exits, _⟩ := lossless
  rw [Channel.stop] at next
  split at next
  · cases next
  · rename_i running
    cases next
    refine ⟨accounted, called, bounded, grows, ?_, rfl, ?_, fun _ _ => Nat.succ_pos _⟩
    · intro before mark
      cases mark
      exact List.prefix_rfl
    · exact fun exited => absurd (exits exited).1 running

theorem register_lossless (c d : Channel ε) (listener : Listener) (lossless : c.Lossless)
    (next : c.register listener = some d) : d.Lossless := by
  obtain ⟨accounted, called, bounded, grows, marked, stopped, exits, awake⟩ := lossless
  rw [Channel.register] at next
  split at next
  · cases next
  · cases next
    refine ⟨accounted, ?_, ?_, grows, marked, stopped, exits, awake⟩
    · refine called.trans (List.flatMap_congr fun round member => ?_)
      exact (round_calls_register c.listeners listener round (bounded round member)).symm
    · intro round member
      have bound := bounded round member
      rw [List.length_append]
      omega

theorem woken_lossless (c : Channel ε) (notifies : Nat) (lossless : c.Lossless) (asleep : c.reader = .asleep) :
    ({ c with reader := .test, notifies := notifies } : Channel ε).Lossless := by
  obtain ⟨accounted, called, bounded, grows, marked, stopped, _, _⟩ := lossless
  rw [asleep] at accounted
  rw [Channel.begun, asleep] at called bounded
  refine ⟨accounted, called, bounded, grows, marked, stopped, ?_, ?_⟩ <;> exact fun wrong => by cases wrong

theorem wake_lossless (c : Channel ε) (lossless : c.Lossless) : c.wake.Lossless := by
  rw [Channel.wake]
  split
  · rename_i asleep
    exact woken_lossless c c.notifies lossless asleep
  · exact lossless

theorem notify_lossless (c d : Channel ε) (lossless : c.Lossless) (next : c.notify = some d) : d.Lossless := by
  rw [Channel.notify] at next
  split at next
  · cases next
  · cases next
    rw [Channel.wake]
    split
    · rename_i asleep
      exact woken_lossless c _ lossless asleep
    · rename_i notAsleep
      obtain ⟨accounted, called, bounded, grows, marked, stopped, exits, _⟩ := lossless
      exact ⟨accounted, called, bounded, grows, marked, stopped, exits, fun asleep => absurd asleep notAsleep⟩

theorem read_lossless (c d : Channel ε) (lossless : c.Lossless) (next : c.read = some d) : d.Lossless := by
  obtain ⟨queue, exit, listeners, reader, notifies, pushed, beforeStop, rounds, calls⟩ := c
  obtain ⟨accounted, called, bounded, grows, marked, stopped, exits, awake⟩ := lossless
  simp only [Channel.begun] at accounted called bounded grows marked stopped exits awake
  cases reader with
  | test =>
      cases queue with
      | cons event rest =>
          cases next
          refine ⟨?_, called, bounded, grows, marked, stopped, by simp, by simp⟩
          simpa [Reader.inHand] using accounted
      | nil =>
          cases next
          have delivered : rounds.map Round.event = pushed := by simpa [Reader.inHand] using accounted
          cases exit with
          | true =>
              have served (before : List ε) (mark : beforeStop = some before) : before <+: rounds.map Round.event :=
                delivered ▸ marked before mark
              exact ⟨accounted, called, bounded, grows, marked, stopped, fun _ => ⟨rfl, served⟩, by simp⟩
          | false => exact ⟨accounted, called, bounded, grows, marked, stopped, by simp, by simp⟩
  | asleep => cases next
  | exited => cases next
  | taken event =>
      cases next
      simp only [Reader.current, List.append_nil] at called bounded
      refine ⟨accounted, ?_, ?_, grows, marked, stopped, by simp, by simp⟩
      · simpa [Channel.begun, Reader.current, Round.calls] using called
      · simp only [Channel.begun, Reader.current, List.mem_append, List.mem_singleton]
        rintro round (finished | rfl)
        · exact bounded round finished
        · exact Nat.zero_le _
  | calling event k =>
      simp only [Reader.current, List.flatMap_append, List.flatMap_singleton] at called
      have reached : k ≤ listeners.length := bounded ⟨event, k⟩ (by simp [Reader.current])
      have finished (round : Round ε) (member : round ∈ rounds) : round.listeners ≤ listeners.length :=
        bounded round (List.mem_append_left _ member)
      simp only [Channel.read] at next
      cases found : listeners[k]? with
      | some listener =>
          rw [found] at next
          cases next
          have inside := (List.getElem?_eq_some_iff.mp found).1
          refine ⟨accounted, ?_, ?_, grows, marked, stopped, by simp, by simp⟩
          · simp only [Channel.begun, Reader.current, List.flatMap_append, List.flatMap_singleton]
            rw [round_calls_next listeners event k listener found, ← List.append_assoc, ← called]
            split <;> simp
          · simp only [Channel.begun, Reader.current, List.mem_append, List.mem_singleton]
            rintro round (member | rfl)
            · exact finished round member
            · exact inside
      | none =>
          rw [found] at next
          cases next
          -- All of the listeners have been called.
          have all : k = listeners.length := Nat.le_antisymm reached (List.getElem?_eq_none_iff.mp found)
          subst all
          refine ⟨?_, ?_, ?_, ?_, marked, stopped, by simp, by simp⟩
          · simpa [Reader.inHand] using accounted
          · simpa [Channel.begun, Reader.current] using called
          · simp only [Channel.begun, Reader.current, List.mem_append, List.mem_singleton, List.not_mem_nil, or_false]
            rintro round (member | rfl)
            · exact finished round member
            · exact Nat.le_refl _
          · rw [List.map_append, List.pairwise_append]
            refine ⟨grows, by simp, ?_⟩
            simp only [List.mem_map, List.map_cons, List.map_nil, List.mem_singleton]
            rintro _ ⟨round, member, rfl⟩ _ rfl
            exact finished round member

theorem step_lossless (c d : Channel ε) (move : Move ε) (lossless : c.Lossless) (next : c.step move = some d) :
    d.Lossless := by
  cases move with
  | push event =>
      cases next
      exact push_lossless c event lossless
  | stop => exact stop_lossless c d lossless next
  | register listener => exact register_lossless c d listener lossless next
  | wake =>
      cases next
      exact wake_lossless c lossless
  | notify => exact notify_lossless c d lossless next
  | read => exact read_lossless c d lossless next

-- What a step of a larger system does to one of its channels.
def Moved (c d : Channel ε) : Prop := d = c ∨ ∃ move, c.step move = some d

theorem moved_lossless (c d : Channel ε) (lossless : c.Lossless) (moved : Moved c d) : d.Lossless := by
  obtain rfl | ⟨move, next⟩ := moved
  · exact lossless
  · exact step_lossless c d move lossless next

-- The same of a system that does not stop the channel.
def Flows (c d : Channel ε) : Prop := d = c ∨ ∃ move, move ≠ Move.stop ∧ c.step move = some d

theorem flows_moved (c d : Channel ε) (flows : Flows c d) : Moved c d := by
  obtain same | ⟨move, _, next⟩ := flows
  · exact .inl same
  · exact .inr ⟨move, next⟩

theorem push_flows (c : Channel ε) (event : ε) : Flows c (c.push event) := .inr ⟨.push event, by simp, rfl⟩

theorem turn_flows (c d : Channel ε) (turn : Turn) (next : c.turn turn = some d) : Flows c d := by
  refine .inr ⟨turn.move, ?_, next⟩
  cases turn <;> simp [Turn.move]

def Move.events : Move ε → List ε
  | .push event => [event]
  | _ => []

theorem step_marks (c d : Channel ε) (move : Move ε) (next : c.step move = some d) :
    d.pushed = c.pushed ++ move.events ∧
    ((d.exit = c.exit ∧ d.beforeStop = c.beforeStop) ∨
      (move = .stop ∧ c.exit = false ∧ d.exit = true ∧ d.beforeStop = some c.pushed)) := by
  obtain ⟨queue, exit, listeners, reader, notifies, pushed, beforeStop, rounds, calls⟩ := c
  cases move with
  | push event =>
      cases next
      exact ⟨rfl, .inl ⟨rfl, rfl⟩⟩
  | stop =>
      simp only [Channel.step, Channel.stop] at next
      split at next <;> cases next
      rename_i running
      exact ⟨(List.append_nil _).symm, .inr ⟨rfl, Bool.eq_false_iff.mpr running, rfl, rfl⟩⟩
  | register listener =>
      simp only [Channel.step, Channel.register] at next
      split at next <;> cases next
      exact ⟨(List.append_nil _).symm, .inl ⟨rfl, rfl⟩⟩
  | wake =>
      cases next
      cases reader <;> exact ⟨(List.append_nil _).symm, .inl ⟨rfl, rfl⟩⟩
  | notify =>
      cases notifies with
      | zero => cases next
      | succ left =>
          cases next
          cases reader <;> exact ⟨(List.append_nil _).symm, .inl ⟨rfl, rfl⟩⟩
  | read =>
      simp only [Channel.step, Channel.read] at next
      repeat' split at next
      all_goals cases next
      all_goals exact ⟨(List.append_nil _).symm, .inl ⟨rfl, rfl⟩⟩

theorem flows_exit (c d : Channel ε) (flows : Flows c d) : d.exit = c.exit := by
  obtain rfl | ⟨move, continues, next⟩ := flows
  · rfl
  · obtain ⟨_, same | ⟨stops, _⟩⟩ := step_marks c d move next
    · exact same.1
    · exact absurd stops continues

theorem turn_pushed (c d : Channel ε) (turn : Turn) (next : c.turn turn = some d) : d.pushed = c.pushed := by
  have pushed := (step_marks c d turn.move next).1
  cases turn <;> exact pushed.trans (List.append_nil _)

theorem stop_pushed (c d : Channel ε) (next : c.stop = some d) : d.pushed = c.pushed :=
  (step_marks c d .stop next).1.trans (List.append_nil _)

theorem exited_stays (c d : Channel ε) (moved : Moved c d) (exited : c.reader = .exited) : d.reader = .exited := by
  obtain rfl | ⟨move, next⟩ := moved
  · exact exited
  · cases move with
    | push event =>
        cases next
        exact exited
    | stop =>
        simp only [Channel.step, Channel.stop] at next
        split at next <;> cases next
        exact exited
    | register listener =>
        simp only [Channel.step, Channel.register] at next
        split at next <;> cases next
        exact exited
    | wake =>
        cases next
        simp only [Channel.wake, exited]
    | notify =>
        simp only [Channel.step, Channel.notify] at next
        split at next <;> cases next
        simp only [Channel.wake, exited]
    | read =>
        simp only [Channel.step, Channel.read, exited] at next
        cases next

-- `early` was pushed before the channel was stopped.
structure Channel.Since (early : List ε) (c : Channel ε) : Prop where
  kept : early <+: c.pushed
  marked : ∀ before, c.beforeStop = some before → early <+: before

theorem since_now (c : Channel ε) (lossless : c.Lossless) (running : c.exit = false) : c.Since c.pushed := by
  refine ⟨List.prefix_rfl, fun before mark => ?_⟩
  have stopped := lossless.stopped
  rw [running, mark] at stopped
  cases stopped

theorem since_moved (early : List ε) (c d : Channel ε) (since : c.Since early) (moved : Moved c d) : d.Since early := by
  obtain rfl | ⟨move, next⟩ := moved
  · exact since
  · obtain ⟨pushed, marks⟩ := step_marks c d move next
    have grows : c.pushed <+: d.pushed := ⟨move.events, pushed.symm⟩
    obtain ⟨_, sameMark⟩ | ⟨_, _, _, mark⟩ := marks
    · exact ⟨since.kept.trans grows, fun before was => since.marked before (sameMark ▸ was)⟩
    · refine ⟨since.kept.trans grows, fun before now => ?_⟩
      rw [mark] at now
      cases now
      exact since.kept

theorem exited_served (c : Channel ε) (lossless : c.Lossless) (exited : c.reader = .exited) :
    ∃ before, c.beforeStop = some before ∧ before <+: c.rounds.map Round.event := by
  obtain ⟨stopped, served⟩ := lossless.exits exited
  have marked := lossless.stopped
  rw [stopped] at marked
  obtain ⟨before, mark⟩ := Option.isSome_iff_exists.mp marked.symm
  exact ⟨before, mark, served before mark⟩

theorem exited_since (early : List ε) (c : Channel ε) (lossless : c.Lossless) (since : c.Since early)
    (exited : c.reader = .exited) : early <+: c.rounds.map Round.event := by
  obtain ⟨before, mark, served⟩ := exited_served c lossless exited
  exact (since.marked before mark).trans served

def Channel.heard (c : Channel ε) (listener : Nat) : List ε :=
  (c.calls.filter fun call => call.listener = listener).map Call.event

theorem round_heard (registered : List Listener) (round : Round ε) (listener : Nat) :
    ((round.calls registered).filter fun call => call.listener = listener).map Call.event =
      if registered[listener]? = some ⟨true⟩ ∧ listener < round.listeners then [round.event] else [] := by
  have single (i n : Nat) : (List.range n).filter (fun j => j = i) = if i < n then [i] else [] := by
    induction n with
    | zero => rfl
    | succ n ih =>
        rw [List.range_succ, List.filter_append, ih]
        by_cases below : i < n
        · have apart : n ≠ i := by omega
          have within : i < n + 1 := by omega
          simp [below, apart, within]
        · by_cases same : n = i
          · simp [same]
          · have outside : ¬ i < n + 1 := by omega
            simp [below, same, outside]
  rw [Round.calls, List.filter_map, List.map_map]
  have commuted : ((List.range round.listeners).filter fun i => registered[i]? = some ⟨true⟩).filter
      ((fun call : Call ε => decide (call.listener = listener)) ∘ fun i => ⟨i, round.event⟩) =
      ((List.range round.listeners).filter fun i => i = listener).filter fun i => registered[i]? = some ⟨true⟩ := by
    rw [List.filter_filter, List.filter_filter]
    exact List.filter_congr fun i _ => Bool.and_comm _ _
  rw [commuted, single]
  by_cases inside : listener < round.listeners <;> by_cases hears : registered[listener]? = some ⟨true⟩ <;>
    simp [inside, hears]

-- A listener hears each event at whose delivery it was registered exactly once,
-- in the order of the deliveries.
theorem heard_rounds (c : Channel ε) (lossless : c.Lossless) (listener : Nat) :
    c.heard listener = (c.begun.filter fun round =>
      c.listeners[listener]? = some ⟨true⟩ ∧ listener < round.listeners).map Round.event := by
  rw [Channel.heard, lossless.called]
  induction c.begun with
  | nil => rfl
  | cons round rest ih =>
      rw [List.flatMap_cons, List.filter_append, List.map_append, round_heard, ih]
      by_cases hears : c.listeners[listener]? = some ⟨true⟩ ∧ listener < round.listeners
      · rw [if_pos hears, List.filter_cons_of_pos (by simpa using hears)]
        rfl
      · rw [if_neg hears, List.filter_cons_of_neg (by simpa using hears)]
        rfl

theorem heard_begun (c : Channel ε) (lossless : c.Lossless) (listener : Nat)
    (hears : c.listeners[listener]? = some ⟨true⟩) :
    c.heard listener = (c.begun.filter fun round => listener < round.listeners).map Round.event := by
  simp only [heard_rounds c lossless, hears, true_and]

theorem deaf_hears_nothing (c : Channel ε) (lossless : c.Lossless) (listener : Nat)
    (deaf : c.listeners[listener]? ≠ some ⟨true⟩) : c.heard listener = [] := by
  simp [heard_rounds c lossless, deaf]

theorem later_rounds (rounds : List (Round ε)) (listener : Nat)
    (grows : (rounds.map Round.listeners).Pairwise (· ≤ ·)) :
    rounds.filter (fun round => listener < round.listeners) <:+ rounds := by
  induction rounds with
  | nil => exact List.suffix_rfl
  | cons round rest ih =>
      obtain ⟨least, later⟩ := List.pairwise_cons.mp grows
      by_cases registered : listener < round.listeners
      · -- Whoever is called in this round is called in all of the later ones.
        have all : (round :: rest).filter (fun round => listener < round.listeners) = round :: rest := by
          refine List.filter_eq_self.mpr fun other member => ?_
          obtain rfl | member := List.mem_cons.mp member
          · exact decide_eq_true registered
          · have bound := least other.listeners (List.mem_map_of_mem member)
            exact decide_eq_true (Nat.lt_of_lt_of_le registered bound)
        rw [all]
      · rw [List.filter_cons_of_neg (by simpa using registered)]
        exact (ih later).trans (List.suffix_cons round rest)

theorem heard_suffix (c : Channel ε) (lossless : c.Lossless) (listener : Nat) :
    c.heard listener <:+ c.rounds.map Round.event ∨
    (c.heard listener <:+ c.rounds.map Round.event ++ c.reader.inHand ∧ c.reader.current ≠ []) := by
  by_cases hears : c.listeners[listener]? = some ⟨true⟩
  · obtain ⟨earlier, split⟩ := later_rounds c.rounds listener lossless.grows
    rw [heard_begun c lossless listener hears, Channel.begun, List.filter_append, List.map_append]
    have finished : (c.rounds.filter fun round => listener < round.listeners).map Round.event <:+
        c.rounds.map Round.event := ⟨earlier.map Round.event, by rw [← List.map_append, split]⟩
    cases reader : c.reader with
    | calling event next =>
        by_cases called : listener < next
        · refine .inr ⟨?_, by simp [Reader.current]⟩
          simpa [Reader.current, Reader.inHand, called, List.suffix_append_self_iff] using finished
        · left
          simpa [Reader.current, called] using finished
    | _ =>
        left
        simpa [Reader.current] using finished
  · rw [deaf_hears_nothing c lossless listener hears]
    exact .inl (List.nil_suffix)

theorem heard_within (c : Channel ε) (lossless : c.Lossless) (listener : Nat) : c.heard listener <:+: c.pushed := by
  have begun : c.rounds.map Round.event ++ c.reader.inHand <+: c.pushed := ⟨c.queue, lossless.accounted⟩
  obtain finished | ⟨started, _⟩ := heard_suffix c lossless listener
  · exact finished.isInfix.trans ((List.prefix_append _ _).trans begun).isInfix
  · exact started.isInfix.trans begun.isInfix

-- Nothing is on its way to the listeners.
def Channel.Drained (c : Channel ε) : Prop := c.queue = [] ∧ c.reader.inHand = []

theorem heard_drained (c : Channel ε) (lossless : c.Lossless) (drained : c.Drained) (listener : Nat) :
    c.heard listener <:+ c.pushed := by
  obtain ⟨empty, noneInHand⟩ := drained
  have all : c.rounds.map Round.event = c.pushed := by simpa [empty, noneInHand] using lossless.accounted
  obtain finished | ⟨started, _⟩ := heard_suffix c lossless listener
  · exact all ▸ finished
  · rw [noneInHand, List.append_nil] at started
    exact all ▸ started

-- Without a step of the reader or a notification to come, nothing is left.
theorem stuck_delivered (c : Channel ε) (lossless : c.Lossless) (noRead : c.read = none) (noNotify : c.notify = none) :
    (c.exit = false ∧ c.rounds.map Round.event = c.pushed) ∨ c.reader = .exited := by
  obtain ⟨queue, exit, listeners, reader, notifies, pushed, beforeStop, rounds, calls⟩ := c
  cases reader with
  | test => cases queue <;> cases noRead
  | taken event => cases noRead
  | calling event k =>
      simp only [Channel.read] at noRead
      split at noRead <;> cases noRead
  | exited => exact .inr rfl
  | asleep =>
      have silent : notifies = 0 := by
        cases notifies with
        | zero => rfl
        | succ left => cases noNotify
      have awake := lossless.awake rfl
      simp only [silent, Nat.lt_irrefl, imp_false, not_or, not_not, Bool.not_eq_true] at awake
      obtain ⟨empty, running⟩ := awake
      refine .inl ⟨running, ?_⟩
      simpa [Reader.inHand, empty] using lossless.accounted

-- The steps that the reader has still to take for what it can see now.
def Reader.work (listeners : Nat) : Reader ε → Nat
  | .exited => 0
  | .asleep => 1
  | .test => 2
  | .taken _ => listeners + 5
  | .calling _ next => (listeners - next) + 4

def Channel.work (c : Channel ε) : Nat :=
  2 * c.notifies + c.queue.length * (c.listeners.length + 4) + c.reader.work c.listeners.length

theorem read_works (c d : Channel ε) (next : c.read = some d) : d.work < c.work := by
  obtain ⟨queue, exit, listeners, reader, notifies, pushed, beforeStop, rounds, calls⟩ := c
  cases reader with
  | test =>
      cases queue with
      | cons event rest =>
          cases next
          simp only [Channel.work, Reader.work, List.length_cons, Nat.succ_mul]
          omega
      | nil =>
          cases next
          cases exit <;> simp [Channel.work, Reader.work]
  | asleep => cases next
  | exited => cases next
  | taken event =>
      cases next
      simp only [Channel.work, Reader.work]
      omega
  | calling event k =>
      simp only [Channel.read] at next
      cases found : listeners[k]? with
      | some listener =>
          rw [found] at next
          cases next
          have inside := (List.getElem?_eq_some_iff.mp found).1
          simp only [Channel.work, Reader.work]
          omega
      | none =>
          rw [found] at next
          cases next
          simp only [Channel.work, Reader.work]
          omega

theorem notify_works (c d : Channel ε) (next : c.notify = some d) : d.work < c.work := by
  obtain ⟨queue, exit, listeners, reader, notifies, pushed, beforeStop, rounds, calls⟩ := c
  cases notifies with
  | zero => cases next
  | succ left =>
      cases next
      cases reader <;> simp only [Channel.wake, Channel.work, Reader.work] <;> omega

-- Every event is delivered once and in order to whoever is registered then, the
-- reader leaves nothing behind that was pushed before it was told to stop, and
-- it never sleeps through something: while it neither reads nor is about to be
-- notified there is nothing left, and it reads and is notified finitely often
-- for what is there.
structure Channel.Faithful (c : Channel ε) : Prop where
  inOrder : c.rounds.map Round.event ++ c.reader.inHand ++ c.queue = c.pushed
  heard : ∀ listener, c.listeners[listener]? = some ⟨true⟩ →
    c.heard listener = (c.begun.filter fun round => listener < round.listeners).map Round.event
  exits : c.reader = .exited → ∃ before, c.beforeStop = some before ∧ before <+: c.rounds.map Round.event
  wakes : c.read = none → c.notify = none →
    (c.exit = false ∧ c.rounds.map Round.event = c.pushed) ∨ c.reader = .exited
  works : ∀ d, c.read = some d ∨ c.notify = some d → d.work < c.work

theorem lossless_faithful (c : Channel ε) (lossless : c.Lossless) : c.Faithful := by
  refine ⟨lossless.accounted, heard_begun c lossless, exited_served c lossless, stuck_delivered c lossless, ?_⟩
  rintro d (reads | notified)
  · exact read_works c d reads
  · exact notify_works c d notified

end EventChannel

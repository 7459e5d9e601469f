import RadeonPanel.Overlay.Queues

set_option autoImplicit false

namespace RadeonPanel.Overlay.Queues

open Interleaving Ubertrace

-- Steps of the threads and of the calls under way, as opposed to a new call.
def Action.own : Action → Bool
  | .begin _ _ => false
  | .caller _ _ => true
  | .thread _ => true

-- How many steps a thread has left once its queue is gone.
def ThreadPc.rank : ThreadPc → Nat
  | .running _ => 4
  | .reading => 3
  | .sending _ => 2
  | .waiting => 2
  | .polling => 1
  | .finished => 0

-- How many strings it still sends.
def ThreadPc.unsent : ThreadPc → Nat
  | .running _ => 1
  | .reading => 1
  | .sending _ => 1
  | .waiting => 0
  | .polling => 0
  | .finished => 0

def sentBy (serial : Nat) (sent : List Sent) : List Sent := sent.filter fun call => call.serial == serial

section Stopped
variable (s t : System) (serial : Nat) (thread : QueueThread)

theorem stopped_step (off : thread.poll = false) (next : s.threadStep serial thread = some t) :
    ∃ moved, t.threads serial = some moved ∧ moved.poll = false ∧ moved.pc.rank < thread.pc.rank ∧
      (sentBy serial t.sent).length + moved.pc.unsent ≤ (sentBy serial s.sent).length + thread.pc.unsent := by
  rw [System.threadStep] at next
  split at next
  next pc =>
    cases next
    exact ⟨_, Function.update_self _ _ _, off, by simp [pc, off, ThreadPc.rank, ThreadPc.unsent, System.place, System.setThread]⟩
  next pc =>
    cases next
    cases head : (s.jobs thread)[thread.taken]? with
    | none =>
        simp only [System.takeJob, head]
        exact ⟨_, Function.update_self _ _ _, off,
          by simp [pc, ThreadPc.rank, ThreadPc.unsent, System.place, System.setThread]⟩
    | some job =>
        simp only [System.takeJob, head, off, Bool.false_eq_true, if_false]
        exact ⟨_, Function.update_self _ _ _, off,
          by simp [pc, ThreadPc.rank, ThreadPc.unsent, System.place, System.setThread]⟩
  next pc =>
    cases next
    exact ⟨_, Function.update_self _ _ _, off,
      by simp [pc, ThreadPc.rank, ThreadPc.unsent, System.send, System.place, System.setThread, sentBy]⟩
  next pc =>
    obtain ⟨_, same⟩ := Option.ite_none_right_eq_some.mp next
    cases same
    exact ⟨_, Function.update_self _ _ _, off,
      by simp [pc, ThreadPc.rank, ThreadPc.unsent, System.place, System.setThread]⟩
  next pc =>
    cases next
    refine ⟨_, Function.update_self _ _ _, off, ?_⟩
    split <;> simp [pc, ThreadPc.rank, ThreadPc.unsent, System.readClocks, System.place, System.setThread]
  next pc =>
    cases next
    exact ⟨_, Function.update_self _ _ _, off,
      by simp [pc, ThreadPc.rank, ThreadPc.unsent, System.send, System.place, System.setThread, sentBy]⟩
  next => cases next

-- A thread waits for nothing but the lock, which it takes for the device clocks.
theorem thread_enabled (left : thread.pc ≠ .finished)
    (free : thread.pc = .running .setDeviceClocks → s.owner = none) : ∃ t, s.threadStep serial thread = some t := by
  rw [System.threadStep]
  split
  next => exact ⟨_, rfl⟩
  next => exact ⟨_, rfl⟩
  next => exact ⟨_, rfl⟩
  next pc => exact ⟨_, if_pos (free pc)⟩
  next => exact ⟨_, rfl⟩
  next => exact ⟨_, rfl⟩
  next pc => exact absurd pc left

end Stopped

-- Other steps leave a stopped thread where it is.
theorem effect_elsewhere (s t : System) (call : Call) (sound : Sound s) (effect : Effect s t call) (serial : Nat)
    (thread : QueueThread) (here : s.threads serial = some thread) (off : thread.poll = false) :
    t.threads serial = some thread := by
  cases effect with
  | grown manager clockInfo grows state => rw [state]; exact here
  | connected id made absent startup state =>
      have apart : serial ≠ s.created := by
        intro same
        cases (sound.unmade serial (by omega)).symm.trans here
      rw [state]
      simp only [Function.update_of_ne apart, here]
  | disconnected id closing found state =>
      obtain ⟨held, there, _, on⟩ := sound.queue id closing found
      have apart : serial ≠ closing := by
        intro same
        subst same
        cases here.symm.trans there
        rw [on] at off
        cases off
      rw [state]
      simp only [Function.update_of_ne apart, here]

theorem inside_enabled (s : System) (sound : Sound s) (task : Nat) (call : Call) (place : s.calls task = .inside call) :
    ∃ walk next, s.body walk call = some next := by
  cases call with
  | driverConnected id =>
      have absent := sound.known id (sound.fresh task id (by rw [place]; rfl))
      have made : ∃ manager, s.manager.onDriverConnected id = some manager := by
        rw [OverlayManager.onDriverConnected, absent]
        cases s.manager.enabled <;> exact ⟨_, rfl⟩
      obtain ⟨manager, connected⟩ := made
      exact ⟨[], _, by rw [System.body, System.connect, connected, Option.map_some]⟩
  | driverStateChanged id state =>
      have handled : ∃ manager,
          s.manager.onDriverStateChanged id state ((s.manager.startupStates id).getD []) = some manager := by
        rw [OverlayManager.onDriverStateChanged, OverlayManager.onDeviceInit]
        split
        · exact ⟨_, rfl⟩
        · split
          · exact ⟨_, rfl⟩
          · cases s.manager.startupStates id with
            | none => exact ⟨_, rfl⟩
            | some startup => exact ⟨_, if_pos (List.isPerm_iff.mpr (List.Perm.refl startup))⟩
      obtain ⟨manager, changed⟩ := handled
      exact ⟨_, _, by rw [System.body, changed, Option.map_some]⟩
  | driverDisconnected id => exact ⟨[], _, rfl⟩
  | updateFeatureState id feature state => exact ⟨[], _, rfl⟩
  | updateDeviceClocks info => exact ⟨[], _, rfl⟩
  | routerConnected supported => exact ⟨[], _, rfl⟩
  | routerDisconnected => exact ⟨[], _, rfl⟩

-- What is kept while others finish with the lock.
def Kept (s t : System) : Prop := ∀ task, (s.calls task).locked = false → t.calls task = s.calls task

theorem kept_trans (s t u : System) (first : Kept s t) (second : Kept t u) : Kept s u := by
  intro task waits
  have same := first task waits
  rw [second task (by rw [same]; exact waits), same]

theorem kept_task (s t : System) (task : Nat) (pc : CallPc) (locked : (s.calls task).locked = true)
    (calls : t.calls = Function.update s.calls task pc) : Kept s t := by
  intro other waits
  have apart : other ≠ task := by
    intro same
    rw [same, locked] at waits
    cases waits
  rw [calls, Function.update_of_ne apart]

section Progress
variable (hasDriverUtils : Bool)

theorem own_step (s t : System) (action : Action) (own : action.own = true) (sound : Sound s)
    (next : s.next action = some t) : Sound t := by
  refine sound_step s t action sound ?_ next
  cases action with
  | begin => cases own
  | caller => trivial
  | thread => trivial

-- Who holds the lock needs one step to give it back.
theorem lock_freed (s : System) (sound : Sound s) : CanReach (overlayQueues hasDriverUtils) Action.own (fun t =>
    Sound t ∧ t.owner = none ∧ Kept s t ∧ ∀ serial thread, s.threads serial = some thread → thread.poll = false →
      thread.pc ≠ .reading → t.threads serial = some thread) s := by
  cases held : s.owner with
  | none => exact can_reach_here ⟨sound, held, fun _ _ => rfl, fun _ _ here _ _ => here⟩
  | some holder =>
      have holds := (sound.guarded holder).mpr held
      cases holder with
      | thread serial =>
          obtain ⟨thread, here, reading⟩ := holds
          have taken : s.next (.thread serial) = some (s.readClocks serial thread) := by
            rw [System.next, here, Option.bind_some, System.threadStep, reading]
          refine can_reach_step (.thread serial) rfl taken (can_reach_here ⟨own_step s _ _ rfl sound taken, rfl, fun _ _ => rfl, ?_⟩)
          intro other held there _ apart
          have differs : other ≠ serial := by
            intro same
            subst same
            cases here.symm.trans there
            exact apart reading
          exact (Function.update_of_ne differs _ _).trans there
      | caller task =>
          have locked : (s.calls task).locked = true := holds
          cases place : s.calls task with
          | inTaking call =>
              have taken : s.next (.caller task []) = some
                  { s.setCall task (.joining s.joinThreads call) with joinThreads := [], owner := none } := by
                rw [System.next, place, System.callStep]
              exact can_reach_step (.caller task []) rfl taken (can_reach_here ⟨own_step s _ _ rfl sound taken, rfl,
                kept_task s _ task _ locked rfl, fun _ _ here _ _ => here⟩)
          | inside call =>
              obtain ⟨walk, next, body⟩ := inside_enabled s sound task call place
              have taken : s.next (.caller task walk) = some { next.setCall task .returned with owner := none } := by
                rw [System.next, place, System.callStep, body, Option.map_some]
              have effect := body_effect s next walk call sound.known body
              have calls := (effect_frames s next call effect).1
              refine can_reach_step (.caller task walk) rfl taken (can_reach_here ⟨own_step s _ _ rfl sound taken, rfl,
                kept_task s _ task .returned locked (by rw [System.setCall, calls]), ?_⟩)
              exact fun serial thread here off _ => effect_elsewhere s next call sound effect serial thread here off
          | returned => rw [place] at locked; cases locked
          | taking call => rw [place] at locked; cases locked
          | joining threads call => rw [place] at locked; cases locked
          | locking call => rw [place] at locked; cases locked

theorem thread_finishes (serial rank : Nat) (s : System) (thread : QueueThread) (sound : Sound s)
    (here : s.threads serial = some thread) (off : thread.poll = false) (bound : thread.pc.rank ≤ rank) :
    CanReach (overlayQueues hasDriverUtils) Action.own (fun t =>
      Sound t ∧ hasFinished (t.threads serial) = true ∧ Kept s t) s := by
  induction rank generalizing s thread with
  | zero =>
      have done : thread.pc = .finished := by
        cases pc : thread.pc <;> simp [pc, ThreadPc.rank] at bound ⊢
      exact can_reach_here ⟨sound, by simp [here, hasFinished, done], fun _ _ => rfl⟩
  | succ rank ih =>
      by_cases done : thread.pc = .finished
      · exact can_reach_here ⟨sound, by simp [here, hasFinished, done], fun _ _ => rfl⟩
      -- Its own step, once nobody else holds the lock.
      have step : ∀ u, Sound u → u.threads serial = some thread → Kept s u →
          (thread.pc = .running .setDeviceClocks → u.owner = none) →
          CanReach (overlayQueues hasDriverUtils) Action.own (fun t =>
            Sound t ∧ hasFinished (t.threads serial) = true ∧ Kept s t) u := by
        intro u kept found same free
        obtain ⟨t, next⟩ := thread_enabled u serial thread done free
        have taken : u.next (.thread serial) = some t := by rw [System.next, found, Option.bind_some, next]
        obtain ⟨moved, there, stays, less, _⟩ := stopped_step u t serial thread off next
        obtain ⟨_, _, move, _⟩ := thread_step_moved u t serial thread next
        have after : Kept s t := kept_trans s u t same (fun task _ => by rw [moved_calls move])
        refine can_reach_step (.thread serial) rfl taken (can_reach_then
          (ih t moved (own_step u t _ rfl kept taken) there stays (by omega)) ?_)
        intro final reached
        exact can_reach_here ⟨reached.1, reached.2.1, kept_trans s t final after reached.2.2⟩
      by_cases reading : thread.pc = .reading
      · exact step s sound here (fun _ _ => rfl) (fun running => by rw [reading] at running; cases running)
      · apply can_reach_then (lock_freed hasDriverUtils s sound)
        intro u reached
        obtain ⟨kept, free, same, others⟩ := reached
        exact step u kept (others serial thread here off reading) same (fun _ => free)

theorem threads_joined (task : Nat) (call : Call) (threads : List Nat) (s : System) (sound : Sound s)
    (place : s.calls task = .joining threads call) : CanReach (overlayQueues hasDriverUtils) Action.own (fun t =>
      Sound t ∧ t.calls task = .joining [] call) s := by
  induction threads generalizing s with
  | nil => exact can_reach_here ⟨sound, place⟩
  | cons serial rest ih =>
      obtain ⟨thread, here, off⟩ := sound.joined task _ call place serial (by simp)
      apply can_reach_then (thread_finishes hasDriverUtils serial _ s thread sound here off (Nat.le_refl _))
      intro t reached
      obtain ⟨kept, finished, same⟩ := reached
      have waits : t.calls task = .joining (serial :: rest) call := by
        rw [same task (by rw [place]; rfl), place]
      have taken : t.next (.caller task []) = some (t.setCall task (.joining rest call)) := by
        rw [System.next, waits, System.callStep, if_pos finished]
      refine can_reach_step (.caller task []) rfl taken (ih _ (own_step t _ _ rfl kept taken) ?_)
      exact Function.update_self _ _ _

-- One stage of a call after the other, from its end.
def Returns (task : Nat) (s : System) : Prop :=
  CanReach (overlayQueues hasDriverUtils) Action.own (fun t => t.calls task = .returned) s

variable (task : Nat) (call : Call) (s : System) (sound : Sound s)
include sound

theorem inside_returns (place : s.calls task = .inside call) : Returns hasDriverUtils task s := by
  obtain ⟨walk, next, body⟩ := inside_enabled s sound task call place
  have taken : s.next (.caller task walk) = some { next.setCall task .returned with owner := none } := by
    rw [System.next, place, System.callStep, body, Option.map_some]
  exact can_reach_step (.caller task walk) rfl taken (can_reach_here (Function.update_self _ _ _))

theorem locked_then (pc : CallPc) (waits : (s.calls task).locked = false)
    (locks : ∀ u : System, u.calls task = s.calls task → u.callStep task [] (u.calls task) = u.lock task pc)
    (later : ∀ u, Sound u → u.calls task = pc → Returns hasDriverUtils task u) : Returns hasDriverUtils task s := by
  apply can_reach_then (lock_freed hasDriverUtils s sound)
  intro u reached
  obtain ⟨kept, free, same, _⟩ := reached
  have taken : u.next (.caller task []) = some { u.setCall task pc with owner := some (.caller task) } := by
    rw [System.next, locks u (same task waits), System.lock, if_pos free]
  exact can_reach_step (.caller task []) rfl taken (later _ (own_step u _ _ rfl kept taken) (Function.update_self _ _ _))

theorem locking_returns (place : s.calls task = .locking call) : Returns hasDriverUtils task s := by
  refine locked_then hasDriverUtils task s sound (.inside call) (by rw [place]; rfl) (fun u same => ?_)
    (fun u kept here => inside_returns hasDriverUtils task call u kept here)
  rw [same, place, System.callStep]

theorem joining_returns (threads : List Nat) (place : s.calls task = .joining threads call) :
    Returns hasDriverUtils task s := by
  apply can_reach_then (threads_joined hasDriverUtils task call threads s sound place)
  intro t reached
  obtain ⟨kept, joined⟩ := reached
  by_cases router : call = .routerDisconnected
  · have taken : t.next (.caller task []) = some (t.setCall task .returned) := by
      rw [System.next, joined, System.callStep, if_pos router]
    exact can_reach_step (.caller task []) rfl taken (can_reach_here (Function.update_self _ _ _))
  · have taken : t.next (.caller task []) = some (t.setCall task (.locking call)) := by
      rw [System.next, joined, System.callStep, if_neg router]
    exact can_reach_step (.caller task []) rfl taken
      (locking_returns hasDriverUtils task call _ (own_step t _ _ rfl kept taken) (Function.update_self _ _ _))

theorem in_taking_returns (place : s.calls task = .inTaking call) : Returns hasDriverUtils task s := by
  have taken : s.next (.caller task []) = some
      { s.setCall task (.joining s.joinThreads call) with joinThreads := [], owner := none } := by
    rw [System.next, place, System.callStep]
  exact can_reach_step (.caller task []) rfl taken
    (joining_returns hasDriverUtils task call _ (own_step s _ _ rfl sound taken) s.joinThreads (Function.update_self _ _ _))

theorem taking_returns (place : s.calls task = .taking call) : Returns hasDriverUtils task s := by
  refine locked_then hasDriverUtils task s sound (.inTaking call) (by rw [place]; rfl) (fun u same => ?_)
    (fun u kept here => in_taking_returns hasDriverUtils task call u kept here)
  rw [same, place, System.callStep]

end Progress

-- A call under way can always return by the steps of the calls and threads that are at work: nobody
-- waits for a thread with the lock that the thread needs.
theorem overlay_calls_return (hasDriverUtils : Bool) (s : System) (reach : Reach (overlayQueues hasDriverUtils) Fresh s)
    (task : Nat) : CanReach (overlayQueues hasDriverUtils) Action.own (fun t => t.calls task = .returned) s := by
  have sound := sound_reachable hasDriverUtils s reach
  cases place : s.calls task with
  | returned => exact can_reach_here place
  | taking call => exact taking_returns hasDriverUtils task call s sound place
  | inTaking call => exact in_taking_returns hasDriverUtils task call s sound place
  | joining threads call => exact joining_returns hasDriverUtils task call s sound threads place
  | locking call => exact locking_returns hasDriverUtils task call s sound place
  | inside call => exact inside_returns hasDriverUtils task call s sound place

theorem first_call_returns : ∃ s, Reach (overlayQueues true) Fresh s ∧ s.calls 0 = .taking (.driverConnected 5) ∧
    CanReach (overlayQueues true) Action.own (fun t => t.calls 0 = .returned) s := by
  have reach : Reach (overlayQueues true) Fresh ((start true).setCall 0 (.taking (.driverConnected 5))) :=
    .step (start true) _ (.begin 0 (.driverConnected 5)) .init ⟨rfl, fun _ made => by cases made⟩ rfl
  exact ⟨_, reach, rfl, overlay_calls_return true _ reach 0⟩

-- A thread whose queue is gone takes no further function from it.
def Ending (s t : System) (serial steps : Nat) (thread : QueueThread) : Prop :=
  ∃ moved, t.threads serial = some moved ∧ moved.poll = false ∧ steps + moved.pc.rank ≤ thread.pc.rank ∧
    (sentBy serial t.sent).length + moved.pc.unsent ≤ (sentBy serial s.sent).length + thread.pc.unsent

theorem ending_trans (s t u : System) (serial first second : Nat) (thread moved : QueueThread)
    (here : t.threads serial = some moved) (rank : first + moved.pc.rank ≤ thread.pc.rank)
    (sent : (sentBy serial t.sent).length + moved.pc.unsent ≤ (sentBy serial s.sent).length + thread.pc.unsent)
    (later : ∀ held, t.threads serial = some held → Ending t u serial second held) :
    Ending s u serial (first + second) thread := by
  obtain ⟨last, there, off, less, fewer⟩ := later moved here
  exact ⟨last, there, off, by omega, by omega⟩

theorem thread_step_sent (s t : System) (serial : Nat) (thread : QueueThread) (next : s.threadStep serial thread = some t) :
    t.sent = s.sent ∨ ∃ line text, t.sent = ⟨serial, thread.client, line, text⟩ :: s.sent := by
  rw [System.threadStep] at next
  split at next
  next => cases next; exact .inl rfl
  next =>
    cases next
    left
    rw [System.takeJob]
    split
    · rfl
    · split <;> rfl
  next => cases next; exact .inr ⟨_, _, rfl⟩
  next =>
    obtain ⟨_, same⟩ := Option.ite_none_right_eq_some.mp next
    cases same
    exact .inl rfl
  next => cases next; exact .inl rfl
  next => cases next; exact .inr ⟨_, _, rfl⟩
  next => cases next

theorem call_step_sent (s t : System) (task : Nat) (walk : OverlayStartupState) (sound : Sound s)
    (next : s.callStep task walk (s.calls task) = some t) : t.sent = s.sent ∧
      ∀ serial thread, s.threads serial = some thread → thread.poll = false → t.threads serial = some thread := by
  cases place : s.calls task with
  | returned => rw [place] at next; cases next
  | taking call =>
      rw [place] at next
      obtain ⟨_, same⟩ := Option.ite_none_right_eq_some.mp next
      cases same
      exact ⟨rfl, fun _ _ here _ => here⟩
  | inTaking call =>
      rw [place] at next
      cases next
      exact ⟨rfl, fun _ _ here _ => here⟩
  | joining threads call =>
      rw [place] at next
      cases threads with
      | nil =>
          cases next
          exact ⟨rfl, fun _ _ here _ => here⟩
      | cons serial rest =>
          obtain ⟨_, same⟩ := Option.ite_none_right_eq_some.mp next
          cases same
          exact ⟨rfl, fun _ _ here _ => here⟩
  | locking call =>
      rw [place] at next
      obtain ⟨_, same⟩ := Option.ite_none_right_eq_some.mp next
      cases same
      exact ⟨rfl, fun _ _ here _ => here⟩
  | inside call =>
      rw [place] at next
      obtain ⟨after, body, same⟩ := Option.map_eq_some_iff.mp next
      cases same
      have effect := body_effect s after walk call sound.known body
      exact ⟨(effect_frames s after call effect).2.2,
        fun serial thread here off => effect_elsewhere s after call sound effect serial thread here off⟩

theorem ending_step (s t : System) (action : Action) (serial : Nat) (thread : QueueThread) (sound : Sound s)
    (here : s.threads serial = some thread) (off : thread.poll = false) (next : s.next action = some t) :
    Ending s t serial (if action = .thread serial then 1 else 0) thread := by
  cases action with
  | begin task call =>
      obtain ⟨_, same⟩ := Option.ite_none_right_eq_some.mp next
      cases same
      exact ⟨thread, here, off, by simp, Nat.le_refl _⟩
  | caller task walk =>
      obtain ⟨sent, others⟩ := call_step_sent s t task walk sound next
      exact ⟨thread, others serial thread here off, off, by simp, Nat.le_of_eq (by rw [sent])⟩
  | thread other =>
      obtain ⟨held, there, stepped⟩ := Option.bind_eq_some_iff.mp next
      by_cases same : other = serial
      · subst same
        cases here.symm.trans there
        obtain ⟨moved, after, stays, less, sent⟩ := stopped_step s t other thread off stepped
        exact ⟨moved, after, stays, by rw [if_pos rfl]; omega, sent⟩
      · obtain ⟨moved, _, kept, _⟩ := thread_step_moved s t other held stepped
        have stays : t.threads serial = some thread := by
          rw [moved_threads kept, Function.update_of_ne (Ne.symm same), here]
        have sent : sentBy serial t.sent = sentBy serial s.sent := by
          obtain same | ⟨line, text, more⟩ := thread_step_sent s t other held stepped
          · rw [same]
          · rw [more, sentBy, List.filter_cons_of_neg (by simpa using same)]
            rfl
        exact ⟨thread, stays, off, by simp [same], Nat.le_of_eq (by rw [sent])⟩

-- A thread that is joined takes at most four more steps and sends at most one more string, however
-- many functions were still in its queue.
theorem stopped_thread_ends (hasDriverUtils : Bool) (s t : System) (reach : Reach (overlayQueues hasDriverUtils) Fresh s)
    (serial : Nat) (stopped : s.Stopped serial) (actions : List Action)
    (meets : Meets (overlayQueues hasDriverUtils) Fresh s actions)
    (run : exec (overlayQueues hasDriverUtils) s actions = some t) :
    actions.count (.thread serial) ≤ 4 ∧ (sentBy serial t.sent).length ≤ (sentBy serial s.sent).length + 1 := by
  obtain ⟨thread, here, off⟩ := stopped
  suffices ending : Ending s t serial (actions.count (.thread serial)) thread by
    obtain ⟨moved, _, _, rank, sent⟩ := ending
    have few : thread.pc.rank ≤ 4 ∧ thread.pc.unsent ≤ 1 := by
      cases thread.pc <;> simp [ThreadPc.rank, ThreadPc.unsent]
    omega
  induction actions generalizing s thread with
  | nil =>
      cases run
      exact ⟨thread, here, off, by simp, Nat.le_refl _⟩
  | cons action rest ih =>
      obtain ⟨u, taken, remaining⟩ := Option.bind_eq_some_iff.mp run
      obtain ⟨fresh, later⟩ := meets u taken
      have sound := sound_reachable hasDriverUtils s reach
      obtain ⟨moved, there, stays, rank, sent⟩ := ending_step s u action serial thread sound here off taken
      have after := ending_trans s u t serial _ (rest.count (.thread serial)) thread moved there rank sent
        (fun held found => by
          cases there.symm.trans found
          exact ih u (.step s u action reach fresh taken) later remaining moved there stays)
      rw [List.count_cons, Nat.add_comm]
      simpa using after

-- Everything but a call that joins is taken at any time.
def Action.quiet : Action → Bool
  | .begin _ call => !call.joins
  | .caller _ _ => true
  | .thread _ => true

theorem quiet_fresh (s : System) (action : Action) (quiet : action.quiet = true) : Fresh s action := by
  rw [Fresh.eq_def]
  split
  · cases quiet
  · trivial

theorem quiet_meets (hasDriverUtils : Bool) (actions : List Action) (quiet : ∀ action ∈ actions, action.quiet = true)
    (s : System) : Meets (overlayQueues hasDriverUtils) Fresh s actions := by
  induction actions generalizing s with
  | nil => trivial
  | cons action rest ih =>
      obtain ⟨here, others⟩ := List.forall_mem_cons.mp quiet
      exact fun t _ => ⟨quiet_fresh s action here, ih others t⟩

theorem quiet_reach (hasDriverUtils : Bool) (allowed : System → Action → Prop)
    (free : ∀ s (action : Action), action.quiet = true → allowed s action) (actions : List Action)
    (quiet : ∀ action ∈ actions, action.quiet = true) (s t : System)
    (reach : Reach (overlayQueues hasDriverUtils) allowed s) (run : exec (overlayQueues hasDriverUtils) s actions = some t) :
    Reach (overlayQueues hasDriverUtils) allowed t := by
  induction actions generalizing s with
  | nil =>
      cases run
      exact reach
  | cons action rest ih =>
      obtain ⟨here, others⟩ := List.forall_mem_cons.mp quiet
      obtain ⟨next, taken, remaining⟩ := Option.bind_eq_some_iff.mp run
      exact ih others next (.step s next action reach (free s action here) taken) remaining

-- A connection is announced, the router enables the overlay, the queue is made, and its thread
-- stopped with four functions enqueued and one taken.
def announced : System := (start true).setCall 0 (.taking (.driverConnected 5))

def stopsBusy : List Action :=
  [.begin 1 (.routerConnected true), .caller 1 [], .caller 1 [], .caller 0 [], .caller 0 [], .caller 0 [], .caller 0 [], .caller 0 [],
    .begin 1 (.driverStateChanged 5 .deviceInit), .caller 1 [],
    .caller 1 [(.rgp, .inactive), (.rmv, .inactive), (.rra, .inactive), (.rgd, .inactive)],
    .thread 0, .thread 0, .begin 1 (.driverDisconnected 5), .caller 1 [], .caller 1 []]

theorem stopped_busy_ends : ∃ s t : System, s.Stopped 0 ∧ exec (overlayQueues true) s [.thread 0, .thread 0] = some t ∧
    (sentBy 0 s.sent).length = 0 ∧ (sentBy 0 t.sent).length ≤ 1 := by
  have reach : Reach (overlayQueues true) Fresh announced :=
    .step (start true) _ (.begin 0 (.driverConnected 5)) .init ⟨rfl, fun _ made => by cases made⟩ rfl
  have finds : (exec (overlayQueues true) announced stopsBusy).any (fun s =>
      (s.threads 0).any (fun thread => !thread.poll) && (sentBy 0 s.sent).length == 0 &&
      (exec (overlayQueues true) s [.thread 0, .thread 0]).isSome) = true := by decide
  obtain ⟨s, run, found⟩ := (Option.any_eq_true _ _).mp finds
  simp only [Bool.and_eq_true, beq_iff_eq, Option.isSome_iff_exists] at found
  obtain ⟨⟨stopped, unsent⟩, t, later⟩ := found
  obtain ⟨thread, here, off⟩ := (Option.any_eq_true _ _).mp stopped
  have arrived := quiet_reach true Fresh (fun s action => quiet_fresh s action) stopsBusy (by decide) announced s reach run
  have halted : s.Stopped 0 := ⟨thread, here, by simpa using off⟩
  have bound := (stopped_thread_ends true s t arrived 0 halted [.thread 0, .thread 0]
    (quiet_meets true _ (by decide) s) later).2
  exact ⟨s, t, halted, later, unsent, by omega⟩

end RadeonPanel.Overlay.Queues

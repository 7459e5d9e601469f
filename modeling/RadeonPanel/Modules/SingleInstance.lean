import RadeonPanel.Base.Runs

set_option autoImplicit false

namespace RadeonPanel.Modules.SingleInstance

open Interleaving

-- The shared memory of one key. `creator` is the process that created it; `unseen` are the processes
-- that set the flag since the primary instance last saw it.
structure Segment where
  creator : Nat
  flag : Bool
  attached : List Nat
  unseen : List Nat
deriving DecidableEq, Repr

-- Where a process is in the constructor of SingleApplicationInstance. Once it is through,
-- m_anotherInstanceRunning has a value or, never assigned, none.
inductive Pc where
  | idle
  | create
  | cleanAttach
  | cleanDetach
  | createAgain
  | lower
  | attach
  | notifyPrimary
  | running (anotherInstanceRunning : Option Bool)
  | ended
deriving DecidableEq, Repr

structure System where
  segment : Option Segment
  pc : Nat → Pc
  heard : List Nat

-- `frees` is whether the system frees the memory when its last process is killed, `permits` whether
-- a process may attach to what another one, perhaps of another account, created.
structure Platform where
  frees : Bool
  permits : Nat → Nat → Bool

inductive Action where
  | start (process : Nat)
  | go (process : Nat)
  | onCheckForNewInstance (process : Nat)
  | quit (process : Nat)
  | kill (process : Nat)
deriving DecidableEq, Repr

def Segment.leave (segment : Segment) (process : Nat) : Segment :=
  { segment with attached := segment.attached.filter (· ≠ process) }

namespace System

variable (platform : Platform) (s : System) (process : Nat)

def move (pc : Pc) : System := { s with pc := Function.update s.pc process pc }

-- QSharedMemory::create, which also attaches.
def createdBy : System := { s with segment := some ⟨process, false, [process], []⟩ }

def attachedBy (segment : Segment) : System :=
  { s with segment := some { segment with attached := process :: segment.attached } }

-- QSharedMemory::detach: the last process to detach frees the memory.
def detachedBy : System :=
  match s.segment with
  | none => s
  | some segment =>
      if process ∈ segment.attached then
        { s with segment := if (segment.leave process).attached = [] then none else some (segment.leave process) }
      else s

def killedBy : System :=
  match s.segment with
  | none => s
  | some segment =>
      if process ∈ segment.attached ∧ platform.frees = true ∧ (segment.leave process).attached = [] then { s with segment := none }
      else { s with segment := some (segment.leave process) }

-- One step of the constructor. Qt performs each call on the memory under a lock of its own.
def go : Option System :=
  match s.pc process with
  | .idle => none
  | .create =>
      match s.segment with
      | none => some ((s.createdBy process).move process .lower)
      | some _ => some (s.move process .cleanAttach)
  | .cleanAttach =>
      match s.segment with
      | none => some (s.move process .cleanDetach)
      | some segment =>
          if platform.permits segment.creator process then some ((s.attachedBy process segment).move process .cleanDetach)
          else some (s.move process .cleanDetach)
  | .cleanDetach => some ((s.detachedBy process).move process .createAgain)
  | .createAgain =>
      match s.segment with
      | none => some ((s.createdBy process).move process .lower)
      | some _ => some (s.move process .attach)
  | .lower =>
      s.segment.map fun segment =>
        { s with segment := some { segment with flag := false } }.move process (.running (some false))
  | .attach =>
      match s.segment with
      | none => some (s.move process (.running none))
      | some segment =>
          if platform.permits segment.creator process then some ((s.attachedBy process segment).move process .notifyPrimary)
          -- permission denied
          else some (s.move process (.running (some true)))
  | .notifyPrimary =>
      s.segment.map fun segment =>
        { s with segment := some { segment with flag := true, unseen := process :: segment.unseen } }.move process
          (.running (some true))
  | .running _ => none
  | .ended => none

-- Only the primary instance has the timer.
def onCheckForNewInstance : Option System :=
  if s.pc process = .running (some false) then
    s.segment.map fun segment =>
      if segment.flag then
        { s with segment := some { segment with flag := false, unseen := [] }, heard := segment.unseen ++ s.heard }
      else s
  else none

def alive : Bool :=
  match s.pc process with
  | .idle => false
  | .ended => false
  | _ => true

def step (s : System) : Action → Option System
  | .start process => if s.pc process = .idle then some (s.move process .create) else none
  | .go process => s.go platform process
  | .onCheckForNewInstance process => s.onCheckForNewInstance process
  | .quit process =>
      match s.pc process with
      | .running _ => some ((s.detachedBy process).move process .ended)
      | _ => none
  | .kill process => if s.alive process then some ((s.killedBy platform process).move process .ended) else none

end System

def instances (platform : Platform) : Machine System Action := ⟨⟨none, fun _ => .idle, []⟩, System.step platform⟩

-- The process has created the memory and is or will be the primary instance.
def Primary (s : System) (process : Nat) : Prop :=
  s.pc process = .lower ∨ s.pc process = .running (some false)

-- The places where a process may be attached.
def Pc.mapped : Pc → Bool
  | .cleanDetach => true
  | .lower => true
  | .notifyPrimary => true
  | .running _ => true
  | _ => false

structure Inv (s : System) : Prop where
  primary : ∀ process, Primary s process → ∃ segment, s.segment = some segment ∧ segment.creator = process ∧ process ∈ segment.attached
  attached : ∀ segment, s.segment = some segment → ∀ process ∈ segment.attached, (s.pc process).mapped = true

-- What a step of one process does to the memory.
inductive Effect (s t : System) (process : Nat) : Prop where
  | same (still : t.segment = s.segment)
      (mapped : ∀ segment, s.segment = some segment → process ∈ segment.attached → (s.pc process).mapped = true →
        (t.pc process).mapped = true)
      (primary : Primary t process → Primary s process)
  | created (absent : s.segment = none) (fresh : t.segment = some ⟨process, false, [process], []⟩)
      (lower : t.pc process = .lower)
  | joined (segment : Segment) (before : s.segment = some segment)
      (after : t.segment = some { segment with attached := process :: segment.attached })
      (mapped : (t.pc process).mapped = true) (secondary : ¬ Primary t process)
  | left (segment : Segment) (before : s.segment = some segment)
      (after : t.segment = some (segment.leave process) ∨ t.segment = none ∧ (segment.leave process).attached = [])
      (secondary : ¬ Primary t process)
  | flagged (segment : Segment) (flag : Bool) (unseen : List Nat) (before : s.segment = some segment)
      (after : t.segment = some { segment with flag := flag, unseen := unseen })
      (mapped : (t.pc process).mapped = true) (primary : Primary t process → Primary s process)

@[simp] theorem move_pc (s : System) (process : Nat) (pc : Pc) : (s.move process pc).pc process = pc := Function.update_self ..

@[simp] theorem move_segment (s : System) (process : Nat) (pc : Pc) : (s.move process pc).segment = s.segment := rfl

theorem move_elsewhere (s : System) (process other : Nat) (pc : Pc) (apart : other ≠ process) :
    (s.move process pc).pc other = s.pc other := Function.update_of_ne apart _ _

theorem detached_pc (s : System) (process : Nat) : (s.detachedBy process).pc = s.pc := by
  unfold System.detachedBy
  cases s.segment with
  | none => rfl
  | some segment =>
      by_cases member : process ∈ segment.attached
      · simp only [if_pos member]
      · simp only [if_neg member]

theorem killed_pc (platform : Platform) (s : System) (process : Nat) : (s.killedBy platform process).pc = s.pc := by
  unfold System.killedBy
  cases s.segment with
  | none => rfl
  | some segment =>
      by_cases last : process ∈ segment.attached ∧ platform.frees = true ∧ (segment.leave process).attached = []
      · simp only [if_pos last]
      · simp only [if_neg last]

theorem detached_effect (s : System) (process : Nat) (pc : Pc) (secondary : ¬ Primary ((s.detachedBy process).move process pc) process) :
    Effect s ((s.detachedBy process).move process pc) process := by
  cases here : s.segment with
  | none =>
      have still : s.detachedBy process = s := by simp only [System.detachedBy, here]
      rw [still] at secondary ⊢
      exact .same rfl (fun segment held _ _ => by cases here.symm.trans held) (fun primary => absurd primary secondary)
  | some segment =>
      by_cases member : process ∈ segment.attached
      · refine .left segment here ?_ secondary
        rw [move_segment]
        simp only [System.detachedBy, here, if_pos member]
        by_cases last : (segment.leave process).attached = []
        · rw [if_pos last]
          exact .inr ⟨rfl, last⟩
        · rw [if_neg last]
          exact .inl rfl
      · have still : s.detachedBy process = s := by simp only [System.detachedBy, here, if_neg member]
        rw [still] at secondary ⊢
        refine .same rfl (fun held same attached _ => ?_) (fun primary => absurd primary secondary)
        cases here.symm.trans same
        exact absurd attached member

theorem killed_effect (platform : Platform) (s : System) (process : Nat) :
    Effect s ((s.killedBy platform process).move process .ended) process := by
  have secondary : ¬ Primary ((s.killedBy platform process).move process .ended) process := by simp [Primary]
  cases here : s.segment with
  | none =>
      have still : s.killedBy platform process = s := by simp only [System.killedBy, here]
      rw [still] at secondary ⊢
      exact .same rfl (fun segment held _ _ => by cases here.symm.trans held) (fun primary => absurd primary secondary)
  | some segment =>
      refine .left segment here ?_ secondary
      rw [move_segment]
      simp only [System.killedBy, here]
      by_cases last : process ∈ segment.attached ∧ platform.frees = true ∧ (segment.leave process).attached = []
      · rw [if_pos last]
        exact .inr ⟨rfl, last.2.2⟩
      · rw [if_neg last]
        exact .inl rfl

-- A move that leaves the memory alone, from a place where nothing is mapped or to one where it may be.
theorem move_effect (s : System) (process : Nat) (pc : Pc) (mapped : (s.pc process).mapped = true → pc.mapped = true)
    (secondary : pc ≠ .lower ∧ pc ≠ .running (some false)) : Effect s (s.move process pc) process := by
  refine .same rfl ?_ ?_
  · intro _ _ _ here
    rw [move_pc]
    exact mapped here
  · intro primary
    simp only [Primary, move_pc] at primary
    rcases primary with lower | running
    · exact absurd lower secondary.1
    · exact absurd running secondary.2

theorem attached_effect (s : System) (process : Nat) (pc : Pc) (segment : Segment) (here : s.segment = some segment)
    (mapped : pc.mapped = true) (secondary : pc ≠ .lower ∧ pc ≠ .running (some false)) :
    Effect s ((s.attachedBy process segment).move process pc) process := by
  apply Effect.joined segment here rfl
  · rw [move_pc]
    exact mapped
  · simp only [Primary, move_pc]
    exact not_or.mpr secondary

theorem go_effect (platform : Platform) (s t : System) (process : Nat) (next : s.go platform process = some t) :
    Effect s t process := by
  cases pc : s.pc process with
  | idle => simp [System.go, pc] at next
  | create =>
      cases here : s.segment with
      | none =>
          simp only [System.go, pc, here, Option.some.injEq] at next
          subst next
          exact .created here rfl (move_pc ..)
      | some segment =>
          simp only [System.go, pc, here, Option.some.injEq] at next
          subst next
          exact move_effect s process .cleanAttach (by rw [pc]; decide) (by decide)
  | cleanAttach =>
      cases here : s.segment with
      | none =>
          simp only [System.go, pc, here, Option.some.injEq] at next
          subst next
          exact move_effect s process .cleanDetach (fun _ => rfl) (by decide)
      | some segment =>
          simp only [System.go, pc, here] at next
          by_cases permitted : platform.permits segment.creator process = true
          · rw [if_pos permitted] at next
            cases next
            exact attached_effect s process .cleanDetach segment here rfl (by decide)
          · rw [if_neg permitted] at next
            cases next
            exact move_effect s process .cleanDetach (fun _ => rfl) (by decide)
  | cleanDetach =>
      simp only [System.go, pc, Option.some.injEq] at next
      subst next
      exact detached_effect s process .createAgain (by simp [Primary])
  | createAgain =>
      cases here : s.segment with
      | none =>
          simp only [System.go, pc, here, Option.some.injEq] at next
          subst next
          exact .created here rfl (move_pc ..)
      | some segment =>
          simp only [System.go, pc, here, Option.some.injEq] at next
          subst next
          exact move_effect s process .attach (by rw [pc]; decide) (by decide)
  | lower =>
      simp only [System.go, pc] at next
      obtain ⟨segment, here, same⟩ := Option.map_eq_some_iff.mp next
      subst same
      exact .flagged segment false segment.unseen here rfl (by rw [move_pc]; rfl) (fun _ => .inl pc)
  | attach =>
      cases here : s.segment with
      | none =>
          simp only [System.go, pc, here, Option.some.injEq] at next
          subst next
          exact move_effect s process (.running none) (fun _ => rfl) (by decide)
      | some segment =>
          simp only [System.go, pc, here] at next
          by_cases permitted : platform.permits segment.creator process = true
          · rw [if_pos permitted] at next
            cases next
            exact attached_effect s process .notifyPrimary segment here rfl (by decide)
          · rw [if_neg permitted] at next
            cases next
            exact move_effect s process (.running (some true)) (fun _ => rfl) (by decide)
  | notifyPrimary =>
      simp only [System.go, pc] at next
      obtain ⟨segment, here, same⟩ := Option.map_eq_some_iff.mp next
      subst same
      exact .flagged segment true (process :: segment.unseen) here rfl (by rw [move_pc]; rfl)
        (fun primary => by simp [Primary] at primary)
  | running another => simp [System.go, pc] at next
  | ended => simp [System.go, pc] at next

def Action.process : Action → Nat
  | .start process => process
  | .go process => process
  | .onCheckForNewInstance process => process
  | .quit process => process
  | .kill process => process

theorem poll_cases (s t : System) (process : Nat) (next : s.onCheckForNewInstance process = some t) :
    s.pc process = .running (some false) ∧ ∃ segment, s.segment = some segment ∧
      (segment.flag = true ∧ t = { s with segment := some { segment with flag := false, unseen := [] }, heard := segment.unseen ++ s.heard } ∨
        segment.flag = false ∧ t = s) := by
  unfold System.onCheckForNewInstance at next
  obtain ⟨primary, taken⟩ := Option.ite_none_right_eq_some.mp next
  obtain ⟨segment, here, same⟩ := Option.map_eq_some_iff.mp taken
  refine ⟨primary, segment, here, ?_⟩
  by_cases flag : segment.flag = true
  · rw [if_pos flag] at same
    exact .inl ⟨flag, same.symm⟩
  · rw [if_neg flag] at same
    exact .inr ⟨Bool.eq_false_iff.mpr flag, same.symm⟩

theorem step_effect (platform : Platform) (s t : System) (a : Action) (next : s.step platform a = some t) :
    Effect s t a.process := by
  cases a with
  | start process =>
      obtain ⟨idle, same⟩ := Option.ite_none_right_eq_some.mp next
      cases same
      exact move_effect s process .create (by rw [idle]; decide) (by decide)
  | go process => exact go_effect platform s t process next
  | onCheckForNewInstance process =>
      obtain ⟨primary, segment, here, taken | still⟩ := poll_cases s t process next
      · obtain ⟨_, same⟩ := taken
        subst same
        exact .flagged segment false [] here rfl (by simp only [Action.process, primary, Pc.mapped]) (fun _ => .inr primary)
      · obtain ⟨_, same⟩ := still
        subst same
        exact .same rfl (fun _ _ _ here => here) id
  | quit process =>
      cases pc : s.pc process with
      | running another =>
          simp only [System.step, pc, Option.some.injEq] at next
          subst next
          exact detached_effect s process .ended (by simp [Primary])
      | _ => simp [System.step, pc] at next
  | kill process =>
      obtain ⟨_, same⟩ := Option.ite_none_right_eq_some.mp next
      cases same
      exact killed_effect platform s process

theorem go_elsewhere (platform : Platform) (s t : System) (process other : Nat) (apart : other ≠ process)
    (next : s.go platform process = some t) : t.pc other = s.pc other := by
  unfold System.go at next
  split at next
  case h_1 | h_9 | h_10 => cases next
  case h_4 =>
    cases next
    rw [move_elsewhere _ process other _ apart, detached_pc]
  case h_6 | h_8 =>
    obtain ⟨segment, _, same⟩ := Option.map_eq_some_iff.mp next
    subst same
    exact move_elsewhere _ process other _ apart
  all_goals
    split at next
    · cases next
      exact move_elsewhere _ process other _ apart
    · first
      | (cases next; exact move_elsewhere _ process other _ apart)
      | (split at next <;> (cases next; exact move_elsewhere _ process other _ apart))

theorem step_elsewhere (platform : Platform) (s t : System) (a : Action) (other : Nat) (apart : other ≠ a.process)
    (next : s.step platform a = some t) : t.pc other = s.pc other := by
  cases a with
  | start process =>
      obtain ⟨_, same⟩ := Option.ite_none_right_eq_some.mp next
      cases same
      exact move_elsewhere s process other .create apart
  | go process => exact go_elsewhere platform s t process other apart next
  | onCheckForNewInstance process =>
      obtain ⟨_, segment, _, taken | still⟩ := poll_cases s t process next
      · rw [taken.2]
      · rw [still.2]
  | quit process =>
      cases pc : s.pc process with
      | running another =>
          simp only [System.step, pc, Option.some.injEq] at next
          subst next
          rw [move_elsewhere _ process other .ended apart, detached_pc]
      | _ => simp [System.step, pc] at next
  | kill process =>
      obtain ⟨_, same⟩ := Option.ite_none_right_eq_some.mp next
      cases same
      rw [move_elsewhere _ process other .ended apart, killed_pc]

theorem primary_elsewhere (s t : System) (other : Nat) (same : t.pc other = s.pc other) (primary : Primary t other) :
    Primary s other := by
  rwa [Primary, same] at primary

theorem inv_step (platform : Platform) (s t : System) (a : Action) (inv : Inv s) (next : s.step platform a = some t) :
    Inv t := by
  have others := fun other apart => step_elsewhere platform s t a other apart next
  cases step_effect platform s t a next with
  | same still mapped primary =>
      constructor
      · intro process holds
        rw [still]
        by_cases own : process = a.process
        · exact inv.primary process (own ▸ primary (own ▸ holds))
        · exact inv.primary process (primary_elsewhere s t process (others process own) holds)
      · intro segment here process member
        rw [still] at here
        have before := inv.attached segment here process member
        by_cases own : process = a.process
        · rw [own] at member before ⊢
          exact mapped segment here member before
        · rw [others process own]
          exact before
  | created absent fresh lower =>
      constructor
      · intro process holds
        by_cases own : process = a.process
        · exact ⟨_, fresh, own.symm, own ▸ List.mem_cons_self⟩
        · -- whoever else were the primary instance would have the memory
          obtain ⟨segment, here, _⟩ := inv.primary process (primary_elsewhere s t process (others process own) holds)
          cases absent.symm.trans here
      · intro segment here process member
        cases fresh.symm.trans here
        rw [List.mem_singleton.mp member, lower]
        rfl
  | joined segment before after mapped secondary =>
      constructor
      · intro process holds
        have own : process ≠ a.process := fun same => secondary (same ▸ holds)
        obtain ⟨held, here, creator, member⟩ := inv.primary process (primary_elsewhere s t process (others process own) holds)
        cases before.symm.trans here
        exact ⟨_, after, creator, List.mem_cons_of_mem _ member⟩
      · intro held here process member
        cases after.symm.trans here
        by_cases own : process = a.process
        · rw [own]
          exact mapped
        · rw [others process own]
          exact inv.attached segment before process ((List.mem_cons.mp member).resolve_left own)
  | left segment before after secondary =>
      have stays : ∀ process, process ≠ a.process → process ∈ segment.attached → process ∈ (segment.leave a.process).attached :=
        fun process own member => List.mem_filter.mpr ⟨member, decide_eq_true own⟩
      constructor
      · intro process holds
        have own : process ≠ a.process := fun same => secondary (same ▸ holds)
        obtain ⟨held, here, creator, member⟩ := inv.primary process (primary_elsewhere s t process (others process own) holds)
        cases before.symm.trans here
        have still := stays process own member
        rcases after with kept | ⟨_, last⟩
        · exact ⟨_, kept, creator, still⟩
        · rw [last] at still
          cases still
      · intro held here process member
        rcases after with kept | ⟨freed, _⟩
        · cases kept.symm.trans here
          obtain ⟨there, own⟩ := List.mem_filter.mp member
          rw [others process (of_decide_eq_true own)]
          exact inv.attached segment before process there
        · cases freed.symm.trans here
  | flagged segment flag unseen before after mapped primary =>
      constructor
      · intro process holds
        have was : Primary s process := by
          by_cases own : process = a.process
          · exact own ▸ primary (own ▸ holds)
          · exact primary_elsewhere s t process (others process own) holds
        obtain ⟨held, here, creator, member⟩ := inv.primary process was
        cases before.symm.trans here
        exact ⟨_, after, creator, member⟩
      · intro held here process member
        cases after.symm.trans here
        by_cases own : process = a.process
        · rw [own]
          exact mapped
        · rw [others process own]
          exact inv.attached segment before process member

theorem reachable_inv (platform : Platform) (s : System) (reach : Reachable (instances platform) s) : Inv s := by
  apply reachable_invariant (instances platform) Inv _ _ s reach
  · constructor
    · intro process primary
      rcases primary with lower | running
      · cases lower
      · cases running
    · intro segment here
      cases here
  · exact fun s a t inv next => inv_step platform s t a inv next

-- Nothing is left of the memory but what a killed process did not free.
def freeFor (platform : Platform) (s : System) (process : Nat) : Bool :=
  match s.segment with
  | none => true
  | some segment => platform.permits segment.creator process && segment.attached.isEmpty

theorem leave_absent (segment : Segment) (process : Nat) (absent : process ∉ segment.attached) :
    segment.leave process = segment := by
  have same : segment.attached.filter (· ≠ process) = segment.attached :=
    List.filter_eq_self.mpr fun other member => decide_eq_true (fun own => absent (own ▸ member))
  rw [Segment.leave, same]

theorem leave_joined (segment : Segment) (process : Nat) (absent : process ∉ segment.attached) :
    ({ segment with attached := process :: segment.attached } : Segment).leave process = segment := by
  have same := congrArg Segment.attached (leave_absent segment process absent)
  simp only [Segment.leave] at same ⊢
  rw [List.filter_cons_of_neg (by simp), same]

theorem detached_joined (s : System) (process : Nat) (segment : Segment) (pc : Pc) (absent : process ∉ segment.attached) :
    (((s.attachedBy process segment).move process pc).detachedBy process).segment =
      if segment.attached = [] then none else some segment := by
  have member : process ∈ process :: segment.attached := List.mem_cons_self
  simp only [System.detachedBy, System.attachedBy, move_segment, if_pos member, leave_joined segment process absent]

theorem own_step (platform : Platform) (s t u : System) (process n : Nat) (first : s.go platform process = some t)
    (rest : exec (instances platform) t (List.replicate n (.go process)) = some u) :
    exec (instances platform) s (List.replicate (n + 1) (.go process)) = some u := by
  rw [List.replicate_succ, exec]
  have taken : (instances platform).step s (.go process) = some t := first
  rw [taken, Option.bind_some, rest]

-- Alone with memory that it does not create, a process ends as the second one.
theorem second_alone (platform : Platform) (s : System) (process : Nat) (segment : Segment) (here : s.segment = some segment)
    (pc : s.pc process = .createAgain) :
    ∃ n t, exec (instances platform) s (List.replicate n (.go process)) = some t ∧ t.pc process = .running (some true) := by
  have first : s.go platform process = some (s.move process .attach) := by simp only [System.go, pc, here]
  by_cases permitted : platform.permits segment.creator process = true
  · have second : (s.move process .attach).go platform process =
        some (((s.move process .attach).attachedBy process segment).move process .notifyPrimary) := by
      simp only [System.go, move_pc, move_segment, here, if_pos permitted]
    exact ⟨3, _, own_step platform s _ _ process 2 first (own_step platform _ _ _ process 1 second
      (own_step platform _ _ _ process 0 (by simp only [System.go, move_pc]; rfl) rfl)), move_pc ..⟩
  · have second : (s.move process .attach).go platform process =
        some ((s.move process .attach).move process (.running (some true))) := by
      simp only [System.go, move_pc, move_segment, here, if_neg permitted]
    exact ⟨2, _, own_step platform s _ _ process 1 first (own_step platform _ _ _ process 0 second rfl), move_pc ..⟩

theorem first_alone (platform : Platform) (s : System) (process : Nat) (absent : s.segment = none)
    (pc : s.pc process = .create ∨ s.pc process = .createAgain) :
    exec (instances platform) s (List.replicate 2 (.go process)) =
      some (((s.createdBy process).move process .lower).move process (.running (some false))) := by
  have first : s.go platform process = some ((s.createdBy process).move process .lower) := by
    rcases pc with create | again
    · simp only [System.go, create, absent]
    · simp only [System.go, again, absent]
  exact own_step platform s _ _ process 1 first
    (own_step platform _ _ _ process 0 (by simp only [System.go, move_pc]; rfl) rfl)

theorem later_alone (platform : Platform) (s t : System) (process n : Nat) (another : Option Bool)
    (run : exec (instances platform) s (List.replicate n (.go process)) = some t)
    (rest : ∃ m u, exec (instances platform) t (List.replicate m (.go process)) = some u ∧ u.pc process = .running another) :
    ∃ m u, exec (instances platform) s (List.replicate m (.go process)) = some u ∧ u.pc process = .running another := by
  obtain ⟨m, u, final, there⟩ := rest
  induction n generalizing s with
  | zero =>
      cases run
      exact ⟨m, u, final, there⟩
  | succ n ih =>
      obtain ⟨next, taken, remaining⟩ := Option.bind_eq_some_iff.mp run
      obtain ⟨k, v, more, last⟩ := ih next remaining
      exact ⟨k + 1, v, own_step platform s next v process k taken more, last⟩

theorem undisturbed (platform : Platform) (s : System) (inv : Inv s) (process : Nat) (pc : s.pc process = .create) :
    ∃ n t, exec (instances platform) s (List.replicate n (.go process)) = some t ∧
      t.pc process = .running (some (!freeFor platform s process)) := by
  cases here : s.segment with
  | none =>
      refine ⟨2, _, first_alone platform s process here (.inl pc), ?_⟩
      simp only [move_pc, freeFor, here, Bool.not_true]
  | some segment =>
      have absent : process ∉ segment.attached := by
        intro member
        have mapped := inv.attached segment here process member
        rw [pc] at mapped
        cases mapped
      have first : s.go platform process = some (s.move process .cleanAttach) := by simp only [System.go, pc, here]
      by_cases permitted : platform.permits segment.creator process = true
      · have second : (s.move process .cleanAttach).go platform process =
            some (((s.move process .cleanAttach).attachedBy process segment).move process .cleanDetach) := by
          simp only [System.go, move_pc, move_segment, here, if_pos permitted]
        have third : (((s.move process .cleanAttach).attachedBy process segment).move process .cleanDetach).go platform process =
            some ((((((s.move process .cleanAttach).attachedBy process segment).move process .cleanDetach)).detachedBy process).move
              process .createAgain) := by
          simp only [System.go, move_pc]
        refine later_alone platform s _ process 3 _ (own_step platform s _ _ process 2 first
          (own_step platform _ _ _ process 1 second (own_step platform _ _ _ process 0 third rfl))) ?_
        have cleaned := detached_joined (s.move process .cleanAttach) process segment .cleanDetach absent
        by_cases empty : segment.attached = []
        · rw [if_pos empty] at cleaned
          refine ⟨2, _, first_alone platform _ process cleaned (.inr (move_pc ..)), ?_⟩
          simp only [move_pc, freeFor, here, permitted, empty, List.isEmpty_nil, Bool.and_true, Bool.not_true]
        · rw [if_neg empty] at cleaned
          have used : segment.attached.isEmpty = false := by rw [List.isEmpty_eq_false_iff]; exact empty
          simp only [freeFor, here, used, Bool.and_false, Bool.not_false]
          exact second_alone platform _ process segment cleaned (move_pc ..)
      · have second : (s.move process .cleanAttach).go platform process =
            some ((s.move process .cleanAttach).move process .cleanDetach) := by
          simp only [System.go, move_pc, move_segment, here, if_neg permitted]
        have third : ((s.move process .cleanAttach).move process .cleanDetach).go platform process =
            some ((((s.move process .cleanAttach).move process .cleanDetach).detachedBy process).move process .createAgain) := by
          simp only [System.go, move_pc]
        have still : (((s.move process .cleanAttach).move process .cleanDetach).detachedBy process).segment = some segment := by
          simp only [System.detachedBy, move_segment, here, if_neg absent]
        refine later_alone platform s _ process 3 _ (own_step platform s _ _ process 2 first
          (own_step platform _ _ _ process 1 second (own_step platform _ _ _ process 0 third rfl))) ?_
        simp only [freeFor, here, permitted, Bool.false_and, Bool.not_false]
        exact second_alone platform _ process segment still (move_pc ..)

-- A primary instance that is killed leaves its memory behind, and the next process replaces it.
def leaking : Platform := ⟨false, fun _ _ => true⟩

def startThenKill : List Action := [.start 0, .go 0, .go 0, .kill 0, .start 1]

-- The flag says exactly that another instance asked and was not seen.
def Heard (s : System) : Prop :=
  ∀ segment, s.segment = some segment → (segment.flag = true ↔ segment.unseen ≠ [])

-- The primary instance lowers the flag before any other instance has raised it.
def LowersUnasked (s : System) : Action → Prop
  | .go process => s.pc process = .lower → ∀ segment, s.segment = some segment → segment.unseen = []
  | _ => True

theorem heard_of_segment (s t : System) (heard : Heard s)
    (same : ∀ after, t.segment = some after → ∃ before, s.segment = some before ∧ after.flag = before.flag ∧ after.unseen = before.unseen) :
    Heard t := by
  intro after here
  obtain ⟨before, there, flag, unseen⟩ := same after here
  rw [flag, unseen]
  exact heard before there

theorem heard_of_same (s t : System) (heard : Heard s) (same : t.segment = s.segment) : Heard t :=
  heard_of_segment s t heard fun after here => ⟨after, same ▸ here, rfl, rfl⟩

theorem detached_heard (s : System) (process : Nat) (pc : Pc) (heard : Heard s) :
    Heard ((s.detachedBy process).move process pc) := by
  refine heard_of_segment s _ heard fun after here => ?_
  rw [move_segment] at here
  unfold System.detachedBy at here
  cases before : s.segment with
  | none =>
      simp only [before] at here
      cases here
  | some segment =>
      simp only [before] at here
      by_cases member : process ∈ segment.attached
      · rw [if_pos member] at here
        obtain ⟨_, same⟩ := Option.ite_none_left_eq_some.mp here
        cases same
        exact ⟨segment, rfl, rfl, rfl⟩
      · rw [if_neg member, before] at here
        cases here
        exact ⟨_, rfl, rfl, rfl⟩

theorem killed_heard (platform : Platform) (s : System) (process : Nat) (pc : Pc) (heard : Heard s) :
    Heard ((s.killedBy platform process).move process pc) := by
  refine heard_of_segment s _ heard fun after here => ?_
  rw [move_segment] at here
  unfold System.killedBy at here
  cases before : s.segment with
  | none =>
      simp only [before] at here
      cases here
  | some segment =>
      simp only [before] at here
      by_cases last : process ∈ segment.attached ∧ platform.frees = true ∧ (segment.leave process).attached = []
      · rw [if_pos last] at here
        cases here
      · rw [if_neg last] at here
        cases here
        exact ⟨segment, rfl, rfl, rfl⟩

theorem created_heard (s : System) (process : Nat) (pc : Pc) : Heard ((s.createdBy process).move process pc) := by
  intro segment here
  cases here
  simp

theorem joined_heard (s : System) (process : Nat) (pc : Pc) (segment : Segment) (before : s.segment = some segment)
    (heard : Heard s) : Heard ((s.attachedBy process segment).move process pc) := by
  refine heard_of_segment s _ heard fun after here => ⟨segment, before, ?_⟩
  cases here
  exact ⟨rfl, rfl⟩

theorem go_heard (platform : Platform) (s t : System) (process : Nat) (heard : Heard s)
    (next : s.go platform process = some t) : Heard t ↔ LowersUnasked s (.go process) := by
  have unasked : s.pc process ≠ .lower → LowersUnasked s (.go process) := fun apart pc => absurd pc apart
  cases pc : s.pc process with
  | idle => simp [System.go, pc] at next
  | create =>
      refine iff_of_true ?_ (unasked (by rw [pc]; decide))
      cases here : s.segment with
      | none =>
          simp only [System.go, pc, here, Option.some.injEq] at next
          subst next
          exact created_heard s process .lower
      | some segment =>
          simp only [System.go, pc, here, Option.some.injEq] at next
          subst next
          exact heard_of_same s _ heard rfl
  | cleanAttach =>
      refine iff_of_true ?_ (unasked (by rw [pc]; decide))
      cases here : s.segment with
      | none =>
          simp only [System.go, pc, here, Option.some.injEq] at next
          subst next
          exact heard_of_same s _ heard rfl
      | some segment =>
          simp only [System.go, pc, here] at next
          by_cases permitted : platform.permits segment.creator process = true
          · rw [if_pos permitted] at next
            cases next
            exact joined_heard s process .cleanDetach segment here heard
          · rw [if_neg permitted] at next
            cases next
            exact heard_of_same s _ heard rfl
  | cleanDetach =>
      refine iff_of_true ?_ (unasked (by rw [pc]; decide))
      simp only [System.go, pc, Option.some.injEq] at next
      subst next
      exact detached_heard s process .createAgain heard
  | createAgain =>
      refine iff_of_true ?_ (unasked (by rw [pc]; decide))
      cases here : s.segment with
      | none =>
          simp only [System.go, pc, here, Option.some.injEq] at next
          subst next
          exact created_heard s process .lower
      | some segment =>
          simp only [System.go, pc, here, Option.some.injEq] at next
          subst next
          exact heard_of_same s _ heard rfl
  | lower =>
      simp only [System.go, pc] at next
      obtain ⟨segment, here, same⟩ := Option.map_eq_some_iff.mp next
      subst same
      constructor
      · intro after _ held before
        cases here.symm.trans before
        have flag := after _ rfl
        simp only [Bool.false_eq_true, ne_eq, false_iff, not_not] at flag
        exact flag
      · intro empty held there
        cases there
        simp [empty pc segment here]
  | attach =>
      refine iff_of_true ?_ (unasked (by rw [pc]; decide))
      cases here : s.segment with
      | none =>
          simp only [System.go, pc, here, Option.some.injEq] at next
          subst next
          exact heard_of_same s _ heard rfl
      | some segment =>
          simp only [System.go, pc, here] at next
          by_cases permitted : platform.permits segment.creator process = true
          · rw [if_pos permitted] at next
            cases next
            exact joined_heard s process .notifyPrimary segment here heard
          · rw [if_neg permitted] at next
            cases next
            exact heard_of_same s _ heard rfl
  | notifyPrimary =>
      refine iff_of_true ?_ (unasked (by rw [pc]; decide))
      simp only [System.go, pc] at next
      obtain ⟨segment, here, same⟩ := Option.map_eq_some_iff.mp next
      subst same
      intro held there
      cases there
      simp
  | running another => simp [System.go, pc] at next
  | ended => simp [System.go, pc] at next

theorem step_heard (platform : Platform) (s t : System) (a : Action) (heard : Heard s)
    (next : s.step platform a = some t) : Heard t ↔ LowersUnasked s a := by
  cases a with
  | start process =>
      obtain ⟨_, same⟩ := Option.ite_none_right_eq_some.mp next
      cases same
      exact iff_of_true (heard_of_same s _ heard rfl) trivial
  | go process => exact go_heard platform s t process heard next
  | onCheckForNewInstance process =>
      refine iff_of_true ?_ trivial
      obtain ⟨_, segment, here, taken | still⟩ := poll_cases s t process next
      · rw [taken.2]
        intro held there
        cases there
        simp
      · rw [still.2]
        exact heard
  | quit process =>
      refine iff_of_true ?_ trivial
      cases pc : s.pc process with
      | running another =>
          simp only [System.step, pc, Option.some.injEq] at next
          subst next
          exact detached_heard s process .ended heard
      | _ => simp [System.step, pc] at next
  | kill process =>
      obtain ⟨_, same⟩ := Option.ite_none_right_eq_some.mp next
      cases same
      exact iff_of_true (killed_heard platform s process .ended heard) trivial

theorem heard_delivers (s t : System) (process : Nat) (heard : Heard s) (next : s.onCheckForNewInstance process = some t) :
    ∃ segment after, s.segment = some segment ∧ t.segment = some after ∧ after.unseen = [] ∧
      t.heard = segment.unseen ++ s.heard := by
  obtain ⟨_, segment, here, taken | still⟩ := poll_cases s t process next
  · rw [taken.2]
    exact ⟨segment, _, here, rfl, rfl, rfl⟩
  · have empty : segment.unseen = [] := by
      by_contra asked
      exact Bool.false_ne_true (still.1.symm.trans ((heard segment here).mpr asked))
    rw [still.2]
    exact ⟨segment, segment, here, here, empty, by rw [empty, List.nil_append]⟩

-- Along every run the flag tells of exactly the starts that the primary instance has not seen, and
-- its next poll of all of them, if and only if none asks between the creation of the memory and the
-- write that initializes it.
theorem notifications_heard_iff (platform : Platform) (actions : List Action) :
    (Meets (instances platform) LowersUnasked (instances platform).init actions ↔
      Always (instances platform) Heard (instances platform).init actions) ∧
    ∀ s t process, Heard s → s.onCheckForNewInstance process = some t →
      ∃ segment after, s.segment = some segment ∧ t.segment = some after ∧ after.unseen = [] ∧
        t.heard = segment.unseen ++ s.heard := by
  constructor
  · apply keeps_iff_always (instances platform) LowersUnasked Heard
    · intro segment here
      cases here
    · exact fun s a t _ heard next => step_heard platform s t a heard next
  · exact fun s t process heard next => heard_delivers s t process heard next

-- The second instance asks before the first one has initialized the memory.
example : (exec (instances leaking) (instances leaking).init
    ([.start 0, .go 0, .start 1] ++ List.replicate 6 (.go 1) ++ [.go 0])).any
      (fun s => s.segment = some ⟨0, false, [1, 0], [1]⟩) = true := by decide

end RadeonPanel.Modules.SingleInstance

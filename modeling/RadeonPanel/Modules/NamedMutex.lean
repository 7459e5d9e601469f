import RadeonPanel.Base.Runs
import RadeonPanel.Base.Semaphores

set_option autoImplicit false

namespace RadeonPanel.Modules.NamedMutex

open Interleaving Semaphores

inductive Handle where
  | null
  | failed
  | semaphore (id : Nat)
deriving DecidableEq, Repr

structure NamedMutexPosix where
  mutex : Handle
  threadId : Nat
  lockCount : Int
  mutexName : String
  owner : Bool
deriving DecidableEq, Repr

def NamedMutexPosix.constructed : NamedMutexPosix := ⟨.null, 0, 0, "", false⟩

-- All objects of all processes with the semaphores of the system. `locks` counts for each object and
-- thread the calls that locked and are not undone yet; no code reads it.
structure System where
  objects : Nat → NamedMutexPosix
  value : Nat → Nat
  named : String → Option Nat
  next : Nat
  invalidUse : Bool
  locks : Nat → Nat → Nat

def System.initial : System := ⟨fun _ => .constructed, fun _ => 0, fun _ => none, 0, false, fun _ _ => 0⟩

-- What the processes run on: SEM_FAILED is the null pointer on Linux and not on a Mac, and `ext` is
-- the suffix of the build that an object belongs to.
structure Platform where
  failedIsNull : Bool
  ext : Nat → String

def Platform.semFailed (platform : Platform) : Handle := if platform.failedIsNull then .null else .failed

def psMaxPath : Nat := 260

-- snprintf cuts what does not fit.
def semName (ext mutexName : String) (isGlobal : Bool) : String :=
  .ofList (("/" ++ mutexName ++ if isGlobal then "" else ext).toList.take (psMaxPath - 1))

-- No thread has the number zero.
def osGetCurrentThreadId (thread : Nat) : Nat := thread + 1

theorem no_thread_zero (thread : Nat) : 0 ≠ osGetCurrentThreadId thread := (Nat.succ_ne_zero thread).symm

namespace System
variable (platform : Platform) (s : System) (o thread : Nat)

def setObject (object : NamedMutexPosix) : System := { s with objects := Function.update s.objects o object }

def setValue (id value : Nat) : System := { s with value := Function.update s.value id value }

def misused : System := { s with invalidUse := true }

-- sem_open of a semaphore that must exist; `opens` is whether the system lets it.
def semOpen (name : String) (opens : Bool) : Option Nat := if opens then s.named name else none

-- sem_wait, which waits while the value is zero and may be interrupted.
def lock (interrupted : Bool) : Option (System × Bool) :=
  let object := s.objects o
  if osGetCurrentThreadId thread = object.threadId then
    some (s.setObject o { object with lockCount := object.lockCount + 1 }, true)
  else
    match object.mutex with
    | .semaphore id =>
        if interrupted then some (s, false)
        else if s.value id = 0 then none
        else
          some ((s.setValue id (s.value id - 1)).setObject o { object with threadId := osGetCurrentThreadId thread }, true)
    | .null | .failed => some (s.misused, false)

-- `creates` and `opens` are whether the system lets the semaphore be made and opened.
def createOrOpen (name : String) (creates opens : Bool) : System × Bool :=
  let object := s.objects o
  if s.named name = none ∧ creates = true then
    ({ (s.setValue s.next 1).setObject o { object with mutex := .semaphore s.next, mutexName := name, owner := true } with
        named := Function.update s.named name (some s.next), next := s.next + 1 }, true)
  else
    match semOpen s name opens with
    | none => (s.setObject o { object with mutex := platform.semFailed, owner := false }, false)
    | some id => (s.setObject o { object with mutex := .semaphore id, mutexName := name, owner := false }, true)

def openOrCreate (mutexName : String) (initialOwner isGlobal creates opens interrupted : Bool) : Option (System × Bool) :=
  let opened :=
    if (s.objects o).mutex = .null then createOrOpen platform s o (semName (platform.ext o) mutexName isGlobal) creates opens
    else (s, true)
  if opened.2 = false then some opened
  else if initialOwner then lock opened.1 o thread interrupted
  else some opened

def openExisting (mutexName : String) (isGlobal opens : Bool) : System × Bool :=
  let object := s.objects o
  if object.mutex = .null then
    let name := semName (platform.ext o) mutexName isGlobal
    match semOpen s name opens with
    | none => (s.setObject o { object with mutex := platform.semFailed }, false)
    | some id => (s.setObject o { object with mutex := .semaphore id, mutexName := name }, true)
  else (s, true)

def unlock : System :=
  let object := s.objects o
  let count := if osGetCurrentThreadId thread = object.threadId then object.lockCount - 1 else object.lockCount
  if count < 0 then
    let s := s.setObject o { object with lockCount := 0, threadId := 0 }
    match object.mutex with
    | .semaphore id => s.setValue id (s.value id + 1)
    | .null | .failed => s.misused
  else s.setObject o { object with lockCount := count }

def close : System :=
  let object := s.objects o
  if object.mutex = .null then s
  else
    let t := s.setObject o { object with mutex := .null, lockCount := 0, threadId := 0, owner := false }
    let t := if object.mutex = .failed then t.misused else t
    if object.owner then { t with named := Function.update t.named object.mutexName none } else t

end System

-- The calls that any thread makes on any object. The destructor is a Close.
inductive Call where
  | openOrCreate (o thread : Nat) (mutexName : String) (initialOwner isGlobal creates opens interrupted : Bool)
  | openExisting (o : Nat) (mutexName : String) (isGlobal opens : Bool)
  | lock (o thread : Nat) (interrupted : Bool)
  | unlock (o thread : Nat)
  | close (o : Nat)
deriving DecidableEq, Repr

-- A call that locked is counted, an unlock undoes one, and nothing is locked any more once the object is closed.
def counted (s : System) (o thread : Nat) (f : Nat → Nat) : System :=
  { s with locks := Function.update s.locks o (Function.update (s.locks o) thread (f (s.locks o thread))) }

section Running
variable (platform : Platform)

def perform (s : System) : Call → Option (System × Bool)
  | .openOrCreate o thread mutexName initialOwner isGlobal creates opens interrupted =>
      (s.openOrCreate platform o thread mutexName initialOwner isGlobal creates opens interrupted).map fun result =>
        (if initialOwner && result.2 then counted result.1 o thread (· + 1) else result.1, result.2)
  | .openExisting o mutexName isGlobal opens => some (s.openExisting platform o mutexName isGlobal opens)
  | .lock o thread interrupted =>
      (s.lock o thread interrupted).map fun result =>
        (if result.2 then counted result.1 o thread (· + 1) else result.1, result.2)
  | .unlock o thread => some (counted (s.unlock o thread) o thread (· - 1), false)
  | .close o => some ({ s.close o with locks := Function.update s.locks o fun _ => 0 }, false)

def machine : Machine System Call := ⟨.initial, fun s call => (perform platform s call).map Prod.fst⟩

end Running

-- What the semaphores are for: the object and the thread that have a name are the only ones, a semaphore is down
-- exactly as long as someone has locked it, and no call meets a handle that is not one.
structure RecursiveMutex (s : System) : Prop where
  exclusive : ∀ o thread other otherThread, 0 < s.locks o thread → 0 < s.locks other otherThread →
    (s.objects o).mutexName = (s.objects other).mutexName → o = other ∧ thread = otherThread
  locked : ∀ o thread, 0 < s.locks o thread → ∃ id, (s.objects o).mutex = .semaphore id ∧ s.value id = 0
  free : ∀ o id, (s.objects o).mutex = .semaphore id →
    (∀ other thread, (s.objects other).mutex = .semaphore id → s.locks other thread = 0) → s.value id = 1
  closed : ∀ o, (s.objects o).mutex ≠ .failed
  valid : s.invalidUse = false

-- The same of an object's own fields.
structure Tidy (object : NamedMutexPosix) (locks : Nat → Nat) : Prop where
  nonneg : 0 ≤ object.lockCount
  idle : object.threadId = 0 → object.lockCount = 0
  closed : object.mutex = .null → object.threadId = 0 ∧ object.owner = false
  opened : object.mutex ≠ .failed
  counted : ∀ thread, (locks thread : Int) = if object.threadId = osGetCurrentThreadId thread then object.lockCount + 1 else 0

-- A name belongs to the semaphore of the one object that made it and has not closed it.
structure Names (objects : Nat → NamedMutexPosix) (named : String → Option Nat) (next : Nat) : Prop where
  known : ∀ o id, (objects o).mutex = .semaphore id → id < next
  shared : ∀ o other id, (objects o).mutex = .semaphore id → (objects other).mutex = .semaphore id →
    (objects o).mutexName = (objects other).mutexName
  owned : ∀ name id, named name = some id ↔
    ∃ o, (objects o).owner = true ∧ (objects o).mutex = .semaphore id ∧ (objects o).mutexName = name
  once : ∀ o other, (objects o).owner = true → (objects other).owner = true →
    (objects o).mutexName = (objects other).mutexName → o = other

def NamedMutexPosix.use (object : NamedMutexPosix) : Option (Nat × Bool) :=
  match object.mutex with
  | .semaphore id => some (id, object.threadId != 0)
  | .null | .failed => none

def users (objects : Nat → NamedMutexPosix) : Users Nat Nat := fun o => (objects o).use

structure Sound (s : System) : Prop where
  tidy : ∀ o, Tidy (s.objects o) (s.locks o)
  names : Names s.objects s.named s.next
  guards : Guards (users s.objects) s.value
  exclusive : ∀ o other, (s.objects o).threadId ≠ 0 → (s.objects other).threadId ≠ 0 →
    (s.objects o).mutexName = (s.objects other).mutexName → o = other
  valid : s.invalidUse = false

theorem use_some (object : NamedMutexPosix) (id : Nat) (taken : Bool) :
    object.use = some (id, taken) ↔ object.mutex = .semaphore id ∧ (object.threadId != 0) = taken := by
  cases here : object.mutex <;> simp [NamedMutexPosix.use, here]

theorem users_update (objects : Nat → NamedMutexPosix) (o : Nat) (object : NamedMutexPosix) :
    users (Function.update objects o object) = Function.update (users objects) o object.use := by
  funext other
  by_cases same : other = o
  · subst same
    simp [users]
  · simp [users, same]

section Tidiness
variable {object : NamedMutexPosix} {locks : Nat → Nat} (tidy : Tidy object locks)
include tidy

theorem Tidy.locked_iff (thread : Nat) : 0 < locks thread ↔ object.threadId = osGetCurrentThreadId thread := by
  have here := tidy.counted thread
  have nonneg := tidy.nonneg
  by_cases mine : object.threadId = osGetCurrentThreadId thread
  · rw [if_pos mine] at here
    exact iff_of_true (by omega) mine
  · rw [if_neg mine] at here
    exact iff_of_false (by omega) mine

theorem Tidy.held_iff : object.threadId ≠ 0 ↔ ∃ thread, 0 < locks thread := by
  constructor
  · intro held
    obtain ⟨thread, is⟩ := Nat.exists_eq_succ_of_ne_zero held
    exact ⟨thread, (tidy.locked_iff thread).mpr is⟩
  · rintro ⟨thread, locked⟩
    rw [(tidy.locked_iff thread).mp locked]
    exact Nat.succ_ne_zero thread

theorem Tidy.opened_of (opened : object.mutex ≠ .null) : ∃ id, object.mutex = .semaphore id := by
  cases here : object.mutex with
  | null => exact absurd here opened
  | failed => exact absurd here tidy.opened
  | semaphore id => exact ⟨id, rfl⟩

theorem Tidy.held_open (held : object.threadId ≠ 0) : ∃ id, object.use = some (id, true) := by
  obtain ⟨id, here⟩ := tidy.opened_of fun null => held (tidy.closed null).1
  exact ⟨id, (use_some object id true).mpr ⟨here, by simpa using held⟩⟩

end Tidiness

theorem Sound.recursive {s : System} (sound : Sound s) : RecursiveMutex s := by
  refine ⟨?_, ?_, ?_, fun o => (sound.tidy o).opened, sound.valid⟩
  · intro o thread other otherThread here there same
    have mine := ((sound.tidy o).locked_iff thread).mp here
    have yours := ((sound.tidy other).locked_iff otherThread).mp there
    have equal := sound.exclusive o other ((sound.tidy o).held_iff.mpr ⟨thread, here⟩)
      ((sound.tidy other).held_iff.mpr ⟨otherThread, there⟩) same
    subst equal
    exact ⟨rfl, Nat.succ.inj (mine.symm.trans yours)⟩
  · intro o thread here
    obtain ⟨id, use⟩ := (sound.tidy o).held_open ((sound.tidy o).held_iff.mpr ⟨thread, here⟩)
    exact ⟨id, ((use_some _ id true).mp use).1, sound.guards.zero o id use⟩
  · intro o id here untaken
    refine sound.guards.one o id _ ((use_some _ id _).mpr ⟨here, rfl⟩) fun other use => ?_
    obtain ⟨there, held⟩ := (use_some _ id true).mp use
    obtain ⟨thread, locked⟩ := (sound.tidy other).held_iff.mp (by simpa using held)
    exact absurd (untaken other thread there) (Nat.ne_of_gt locked)

-- Nothing that a name depends on changes.
theorem Names.keep {objects others : Nat → NamedMutexPosix} {named : String → Option Nat} {next : Nat}
    (names : Names objects named next) (mutex : ∀ o, (others o).mutex = (objects o).mutex)
    (mutexName : ∀ o, (others o).mutexName = (objects o).mutexName) (owner : ∀ o, (others o).owner = (objects o).owner) :
    Names others named next := by
  refine ⟨?_, ?_, ?_, ?_⟩
  · simpa only [mutex] using names.known
  · simpa only [mutex, mutexName] using names.shared
  · simpa only [mutex, mutexName, owner] using names.owned
  · simpa only [mutexName, owner] using names.once

theorem Tidy.mine_counted {object : NamedMutexPosix} {locks : Nat → Nat} (tidy : Tidy object locks) (thread : Nat)
    (mine : osGetCurrentThreadId thread = object.threadId) : (locks thread : Int) = object.lockCount + 1 := by
  rw [tidy.counted, if_pos mine.symm]

-- The thread that holds it locks or unlocks it once more.
theorem Tidy.recounted {object : NamedMutexPosix} {locks : Nat → Nat} (tidy : Tidy object locks) (thread count : Nat) (lockCount : Int)
    (mine : osGetCurrentThreadId thread = object.threadId) (nonneg : 0 ≤ lockCount) (holds : (count : Int) = lockCount + 1) :
    Tidy { object with lockCount := lockCount } (Function.update locks thread count) := by
  refine ⟨nonneg, fun none => ?_, tidy.closed, tidy.opened, fun other => ?_⟩
  · exact absurd (mine.trans none) (Nat.succ_ne_zero thread)
  · by_cases same : other = thread
    · subst same
      rw [Function.update_self, if_pos mine.symm, holds]
    · have here := tidy.counted other
      have apart : object.threadId ≠ osGetCurrentThreadId other := fun also => same (Nat.succ.inj (also.symm.trans mine.symm))
      rw [if_neg apart] at here
      rw [Function.update_of_ne same, if_neg apart, here]

theorem Tidy.again {object : NamedMutexPosix} {locks : Nat → Nat} (tidy : Tidy object locks) (thread : Nat)
    (mine : osGetCurrentThreadId thread = object.threadId) :
    Tidy { object with lockCount := object.lockCount + 1 } (Function.update locks thread (locks thread + 1)) := by
  have nonneg := tidy.nonneg
  have counted := tidy.mine_counted thread mine
  exact tidy.recounted thread (locks thread + 1) (object.lockCount + 1) mine (by omega) (by omega)

theorem Tidy.taken {object : NamedMutexPosix} {locks : Nat → Nat} (tidy : Tidy object locks) (thread id : Nat)
    (opened : object.mutex = .semaphore id) (free : object.threadId = 0) :
    Tidy { object with threadId := osGetCurrentThreadId thread } (Function.update locks thread (locks thread + 1)) := by
  have none (other : Nat) : (locks other : Int) = 0 := by
    rw [tidy.counted other, if_neg (by rw [free]; exact no_thread_zero other)]
  refine ⟨tidy.nonneg, fun zero => absurd zero (Nat.succ_ne_zero thread), fun null => ?_, tidy.opened, fun other => ?_⟩
  · rw [opened] at null
    cases null
  · have idle := tidy.idle free
    by_cases same : other = thread
    · subst same
      have here := none other
      rw [Function.update_self, if_pos rfl]
      dsimp only
      omega
    · have apart : osGetCurrentThreadId thread ≠ osGetCurrentThreadId other := fun also => same (Nat.succ.inj also).symm
      rw [Function.update_of_ne same, if_neg apart, none]

theorem Tidy.undone {object : NamedMutexPosix} {locks : Nat → Nat} (tidy : Tidy object locks) (thread : Nat)
    (mine : osGetCurrentThreadId thread = object.threadId) (more : 0 < object.lockCount) :
    Tidy { object with lockCount := object.lockCount - 1 } (Function.update locks thread (locks thread - 1)) := by
  have counted := tidy.mine_counted thread mine
  exact tidy.recounted thread (locks thread - 1) (object.lockCount - 1) mine (by omega) (by omega)

theorem Tidy.released {object : NamedMutexPosix} {locks : Nat → Nat} (tidy : Tidy object locks) (thread id : Nat)
    (mine : osGetCurrentThreadId thread = object.threadId) (last : object.lockCount = 0) (opened : object.mutex = .semaphore id) :
    Tidy { object with lockCount := 0, threadId := 0 } (Function.update locks thread (locks thread - 1)) := by
  refine ⟨Int.le_refl 0, fun _ => rfl, fun null => ?_, tidy.opened, fun other => ?_⟩
  · rw [opened] at null
    cases null
  · have here := tidy.counted other
    refine Eq.trans ?_ (if_neg (no_thread_zero other)).symm
    by_cases same : other = thread
    · subst same
      rw [if_pos mine.symm, last] at here
      rw [Function.update_self]
      omega
    · have apart : object.threadId ≠ osGetCurrentThreadId other := fun also => same (Nat.succ.inj (also.symm.trans mine.symm))
      rw [if_neg apart] at here
      rw [Function.update_of_ne same, here]

theorem Tidy.reopened {object : NamedMutexPosix} {locks : Nat → Nat} (tidy : Tidy object locks) (id : Nat) (name : String)
    (owner : Bool) : Tidy { object with mutex := .semaphore id, mutexName := name, owner := owner } locks :=
  ⟨tidy.nonneg, tidy.idle, by simp, by simp, tidy.counted⟩

-- The object keeps what its name and its semaphore are.
theorem Names.update {objects : Nat → NamedMutexPosix} {named : String → Option Nat} {next : Nat}
    (names : Names objects named next) (o : Nat) (object : NamedMutexPosix) (mutex : object.mutex = (objects o).mutex)
    (mutexName : object.mutexName = (objects o).mutexName) (owner : object.owner = (objects o).owner) :
    Names (Function.update objects o object) named next := by
  have each {T : Type} (f : NamedMutexPosix → T) (same : f object = f (objects o)) (p : Nat) :
      f (Function.update objects o object p) = f (objects p) := by
    by_cases here : p = o
    · subst here
      rw [Function.update_self, same]
    · rw [Function.update_of_ne here]
  exact names.keep (each _ mutex) (each _ mutexName) (each _ owner)

theorem Names.close {objects : Nat → NamedMutexPosix} {named : String → Option Nat} {next : Nat}
    (names : Names objects named next) (o : Nat) (object : NamedMutexPosix) (null : object.mutex = .null)
    (owner : object.owner = false) :
    Names (Function.update objects o object)
      (if (objects o).owner = true then Function.update named (objects o).mutexName none else named) next := by
  have opened (p id : Nat) (here : (Function.update objects o object p).mutex = .semaphore id) :
      p ≠ o ∧ Function.update objects o object p = objects p := by
    have apart : p ≠ o := by
      rintro rfl
      rw [Function.update_self, null] at here
      cases here
    exact ⟨apart, Function.update_of_ne apart _ _⟩
  have owns (p : Nat) (here : (Function.update objects o object p).owner = true) :
      p ≠ o ∧ Function.update objects o object p = objects p := by
    have apart : p ≠ o := by
      rintro rfl
      rw [Function.update_self, owner] at here
      cases here
    exact ⟨apart, Function.update_of_ne apart _ _⟩
  refine ⟨fun p id here => ?_, fun p q id here there => ?_, fun name id => ?_, fun p q here there same => ?_⟩
  · exact names.known p id ((opened p id here).2 ▸ here)
  · obtain ⟨-, first⟩ := opened p id here
    obtain ⟨-, second⟩ := opened q id there
    rw [first] at here ⊢
    rw [second] at there ⊢
    exact names.shared p q id here there
  · have remaining : (∃ p, (Function.update objects o object p).owner = true ∧
        (Function.update objects o object p).mutex = .semaphore id ∧ (Function.update objects o object p).mutexName = name) ↔
        ∃ p, p ≠ o ∧ (objects p).owner = true ∧ (objects p).mutex = .semaphore id ∧ (objects p).mutexName = name := by
      refine exists_congr fun p => ⟨fun here => ?_, fun there => ?_⟩
      · obtain ⟨apart, same⟩ := owns p here.1
        rw [same] at here
        exact ⟨apart, here⟩
      · rw [Function.update_of_ne there.1]
        exact there.2
    rw [remaining]
    by_cases mine : (objects o).owner = true ∧ (objects o).mutexName = name
    · rw [if_pos mine.1, mine.2, Function.update_self]
      refine iff_of_false (by simp) ?_
      rintro ⟨p, apart, here, -, same⟩
      exact apart (names.once p o here mine.1 (same.trans mine.2.symm))
    · have unchanged : (if (objects o).owner = true then Function.update named (objects o).mutexName none else named) name =
          named name := by
        split
        · next owned => exact Function.update_of_ne (fun same => mine ⟨owned, same.symm⟩) _ _
        · rfl
      rw [unchanged, names.owned]
      refine exists_congr fun p => (and_iff_right_of_imp fun here => ?_).symm
      rintro rfl
      exact mine ⟨here.1, here.2.2⟩
  · obtain ⟨-, first⟩ := owns p here
    obtain ⟨-, second⟩ := owns q there
    rw [first] at here same
    rw [second] at there same
    exact names.once p q here there same

theorem Names.create {objects : Nat → NamedMutexPosix} {named : String → Option Nat} {next : Nat}
    (names : Names objects named next) (o : Nat) (object : NamedMutexPosix) (name : String)
    (unowned : ∀ p, (objects p).owner = true → (objects p).mutexName ≠ name) (mutex : object.mutex = .semaphore next)
    (mutexName : object.mutexName = name) (owner : object.owner = true) (free : (objects o).owner = false) :
    Names (Function.update objects o object) (Function.update named name (some next)) (next + 1) := by
  have here : Function.update objects o object o = object := Function.update_self ..
  have elsewhere (p : Nat) (apart : p ≠ o) : Function.update objects o object p = objects p := Function.update_of_ne apart ..
  have fresh (p : Nat) : (objects p).mutex ≠ .semaphore next := fun has => Nat.lt_irrefl next (names.known p next has)
  refine ⟨fun p id has => ?_, fun p q id has also => ?_, fun other id => ?_, fun p q owns also same => ?_⟩
  · by_cases same : p = o
    · rw [same, here, mutex] at has
      cases has
      exact Nat.lt_succ_self next
    · rw [elsewhere p same] at has
      exact Nat.lt_succ_of_lt (names.known p id has)
  · by_cases first : p = o <;> by_cases second : q = o
    · rw [first, second]
    · rw [first, here, mutex] at has
      rw [elsewhere q second] at also
      cases has
      exact absurd also (fresh q)
    · rw [second, here, mutex] at also
      rw [elsewhere p first] at has
      cases also
      exact absurd has (fresh p)
    · rw [elsewhere p first] at has ⊢
      rw [elsewhere q second] at also ⊢
      exact names.shared p q id has also
  · by_cases same : other = name
    · subst same
      rw [Function.update_self]
      constructor
      · intro is
        cases is
        exact ⟨o, by rw [here]; exact ⟨owner, mutex, mutexName⟩⟩
      · rintro ⟨p, owns, has, also⟩
        by_cases mine : p = o
        · rw [mine, here, mutex] at has
          rw [Handle.semaphore.inj has]
        · rw [elsewhere p mine] at owns also
          exact absurd also (unowned p owns)
    · rw [Function.update_of_ne same, names.owned]
      refine exists_congr fun p => ?_
      by_cases mine : p = o
      · rw [mine, here]
        exact iff_of_false (fun old => by simp [free] at old) (fun new => same (new.2.2.symm.trans mutexName))
      · rw [elsewhere p mine]
  · by_cases first : p = o <;> by_cases second : q = o
    · exact first.trans second.symm
    · rw [elsewhere q second] at also same
      rw [first, here, mutexName] at same
      exact absurd same.symm (unowned q also)
    · rw [elsewhere p first] at owns same
      rw [second, here, mutexName] at same
      exact absurd same (unowned p owns)
    · rw [elsewhere p first] at owns same
      rw [elsewhere q second] at also same
      exact names.once p q owns also same

theorem Names.attach {objects : Nat → NamedMutexPosix} {named : String → Option Nat} {next : Nat}
    (names : Names objects named next) (o id : Nat) (object : NamedMutexPosix) (name : String) (known : named name = some id)
    (mutex : object.mutex = .semaphore id) (mutexName : object.mutexName = name) (owner : object.owner = false)
    (free : (objects o).owner = false) : Names (Function.update objects o object) named next := by
  have here : Function.update objects o object o = object := Function.update_self ..
  have elsewhere (p : Nat) (apart : p ≠ o) : Function.update objects o object p = objects p := Function.update_of_ne apart ..
  obtain ⟨maker, owns, made, called⟩ := (names.owned name id).mp known
  have shared (p : Nat) (also : (objects p).mutex = .semaphore id) : (objects p).mutexName = name :=
    (names.shared p maker id also made).trans called
  refine ⟨fun p k has => ?_, fun p q k has also => ?_, fun other k => ?_, fun p q owns also same => ?_⟩
  · by_cases same : p = o
    · rw [same, here, mutex] at has
      cases has
      exact names.known maker id made
    · rw [elsewhere p same] at has
      exact names.known p k has
  · by_cases first : p = o <;> by_cases second : q = o
    · rw [first, second]
    · rw [first, here, mutex] at has
      rw [elsewhere q second] at also ⊢
      cases has
      rw [first, here, mutexName, shared q also]
    · rw [second, here, mutex] at also
      rw [elsewhere p first] at has ⊢
      cases also
      rw [second, here, mutexName, shared p has]
    · rw [elsewhere p first] at has ⊢
      rw [elsewhere q second] at also ⊢
      exact names.shared p q k has also
  · rw [names.owned]
    refine exists_congr fun p => ?_
    by_cases mine : p = o
    · rw [mine, here]
      exact iff_of_false (fun old => by simp [free] at old) (fun new => by simp [owner] at new)
    · rw [elsewhere p mine]
  · have notO (r : Nat) (owns : (Function.update objects o object r).owner = true) : r ≠ o := by
      rintro rfl
      rw [here, owner] at owns
      cases owns
    rw [elsewhere p (notO p owns)] at same
    rw [elsewhere q (notO q also)] at same
    exact names.once p q (elsewhere p (notO p owns) ▸ owns) (elsewhere q (notO q also) ▸ also) same

-- A step that changes one object, what is counted for it, and one semaphore.
theorem Sound.change {s t : System} (sound : Sound s) (o : Nat) (object : NamedMutexPosix) (locks : Nat → Nat)
    (objects : t.objects = Function.update s.objects o object) (count : t.locks = Function.update s.locks o locks)
    (tidy : Tidy object locks) (names : Names t.objects t.named t.next)
    (guards : Guards (Function.update (users s.objects) o object.use) t.value)
    (alone : object.threadId ≠ 0 → ∀ other ≠ o, (s.objects other).threadId ≠ 0 →
      (s.objects other).mutexName ≠ object.mutexName)
    (valid : t.invalidUse = false) : Sound t := by
  have at_o : t.objects o = object := by rw [objects, Function.update_self]
  have elsewhere (p : Nat) (apart : p ≠ o) : t.objects p = s.objects p := by rw [objects, Function.update_of_ne apart]
  refine ⟨fun p => ?_, names, ?_, fun p q held alsoHeld same => ?_, valid⟩
  · by_cases here : p = o
    · subst here
      rwa [at_o, count, Function.update_self]
    · rw [elsewhere p here, count, Function.update_of_ne here]
      exact sound.tidy p
  · rwa [objects, users_update]
  · by_cases first : p = o <;> by_cases second : q = o
    · exact first.trans second.symm
    · subst first
      rw [at_o] at held same
      rw [elsewhere q second] at alsoHeld same
      exact absurd same.symm (alone held q second alsoHeld)
    · subst second
      rw [at_o] at alsoHeld same
      rw [elsewhere p first] at held same
      exact absurd same (alone alsoHeld p first held)
    · rw [elsewhere p first] at held same
      rw [elsewhere q second] at alsoHeld same
      exact sound.exclusive p q held alsoHeld same

end RadeonPanel.Modules.NamedMutex

import RadeonPanel.Modules.NamedMutex

set_option autoImplicit false

namespace RadeonPanel.Modules.NamedMutex

open Interleaving Semaphores

-- The lock is the object's own, or no other object of the name is locked through another semaphore.
def lockable (s : System) (o thread : Nat) (interrupted : Bool) : Prop :=
  (s.objects o).threadId = osGetCurrentThreadId thread ∨
    ∃ id, (s.objects o).mutex = .semaphore id ∧ (interrupted = true ∨
      ∀ other, (s.objects other).threadId ≠ 0 → (s.objects other).mutexName = (s.objects o).mutexName →
        (s.objects other).mutex = .semaphore id)

inductive LockMove (s : System) (o thread : Nat) (interrupted : Bool) : System → Bool → Prop where
  | again (mine : osGetCurrentThreadId thread = (s.objects o).threadId) : LockMove s o thread interrupted
      (counted (s.setObject o { s.objects o with lockCount := (s.objects o).lockCount + 1 }) o thread (· + 1)) true
  | interrupted (other : osGetCurrentThreadId thread ≠ (s.objects o).threadId) (id : Nat)
      (opened : (s.objects o).mutex = .semaphore id) (signal : interrupted = true) : LockMove s o thread interrupted s false
  | taken (other : osGetCurrentThreadId thread ≠ (s.objects o).threadId) (id : Nat)
      (opened : (s.objects o).mutex = .semaphore id) (quiet : interrupted = false) (up : s.value id ≠ 0) :
      LockMove s o thread interrupted
        (counted ((s.setValue id (s.value id - 1)).setObject o
          { s.objects o with threadId := osGetCurrentThreadId thread }) o thread (· + 1)) true
  | misused (other : osGetCurrentThreadId thread ≠ (s.objects o).threadId)
      (missing : ∀ id, (s.objects o).mutex ≠ .semaphore id) : LockMove s o thread interrupted s.misused false

theorem lock_moves (platform : Platform) (s t : System) (o thread : Nat) (interrupted reply : Bool)
    (next : perform platform s (.lock o thread interrupted) = some (t, reply)) : LockMove s o thread interrupted t reply := by
  obtain ⟨⟨u, answer⟩, taken, result⟩ := Option.map_eq_some_iff.mp next
  simp only [System.lock] at taken
  by_cases mine : osGetCurrentThreadId thread = (s.objects o).threadId
  · rw [if_pos mine] at taken
    cases taken
    cases result
    exact .again mine
  · rw [if_neg mine] at taken
    split at taken
    · next id handle =>
      by_cases signal : interrupted = true
      · rw [if_pos signal] at taken
        cases taken
        cases result
        exact .interrupted mine id handle signal
      · rw [if_neg signal] at taken
        obtain ⟨up, same⟩ := Option.ite_none_left_eq_some.mp taken
        cases same
        cases result
        exact .taken mine id handle (by simpa using signal) up
    · next handle =>
      cases taken
      cases result
      exact .misused mine (by simp [handle])
    · next handle =>
      cases taken
      cases result
      exact .misused mine (by simp [handle])

def Opened (s : System) (o : Nat) : Prop := ∃ id, (s.objects o).mutex = .semaphore id

theorem held_elsewhere {s : System} (sound : Sound s) (o : Nat) (held : (s.objects o).threadId ≠ 0) :
    ∀ other ≠ o, (s.objects other).threadId ≠ 0 → (s.objects other).mutexName ≠ (s.objects o).mutexName :=
  fun other apart also same => apart (sound.exclusive other o also held same)

theorem lock_sound {s t : System} {o thread : Nat} {interrupted reply : Bool} (sound : Sound s)
    (move : LockMove s o thread interrupted t reply) (allowed : lockable s o thread interrupted) :
    Sound t ∧ (reply = true → Opened t o) := by
  have tidy := sound.tidy o
  cases move with
  | again mine =>
      have held : (s.objects o).threadId ≠ 0 := mine ▸ Nat.succ_ne_zero thread
      obtain ⟨id, use⟩ := tidy.held_open held
      have opened := ((use_some _ id true).mp use).1
      refine ⟨sound.change o _ _ rfl rfl (tidy.again thread mine) (sound.names.update o _ rfl rfl rfl) ?_
        (fun _ => held_elsewhere sound o held) sound.valid, fun _ => ⟨id, ?_⟩⟩
      · have same : NamedMutexPosix.use { s.objects o with lockCount := (s.objects o).lockCount + 1 } = users s.objects o := rfl
        rw [same, Function.update_eq_self]
        exact sound.guards
      · simpa [counted, System.setObject] using opened
  | interrupted other id opened signal => exact ⟨sound, fun taken => by cases taken⟩
  | taken other id opened quiet up =>
      have use : users s.objects o = some (id, (s.objects o).threadId != 0) := (use_some _ id _).mpr ⟨opened, rfl⟩
      obtain ⟨untaken, -⟩ := sound.guards.free o id _ use up
      have free : (s.objects o).threadId = 0 := by
        by_contra held
        exact untaken o ((use_some _ id true).mpr ⟨opened, by simpa using held⟩)
      have taken : NamedMutexPosix.use { s.objects o with threadId := osGetCurrentThreadId thread } = some (id, true) :=
        (use_some _ id true).mpr ⟨opened, by simp [osGetCurrentThreadId]⟩
      refine ⟨sound.change o _ _ rfl rfl (tidy.taken thread id opened free) (sound.names.update o _ rfl rfl rfl) ?_ ?_
        sound.valid, fun _ => ⟨id, ?_⟩⟩
      · rw [taken]
        exact sound.guards.acquire o id _ use up
      · intro _ p apart held same
        obtain mine | ⟨other, here, signal | elsewhere⟩ := allowed
        · exact other mine.symm
        · rw [quiet] at signal
          cases signal
        · cases opened.symm.trans here
          exact untaken p ((use_some _ id true).mpr ⟨elsewhere p held same, by simpa using held⟩)
      · simpa [counted, System.setObject, System.setValue] using opened
  | misused other missing =>
      obtain mine | ⟨id, opened, -⟩ := allowed
      · exact absurd mine.symm other
      · exact absurd opened (missing id)

theorem lock_needs {s t : System} {o thread : Nat} {interrupted reply : Bool} (sound : Sound s)
    (move : LockMove s o thread interrupted t reply) (recursive : RecursiveMutex t) : lockable s o thread interrupted := by
  cases move with
  | again mine => exact .inl mine.symm
  | interrupted other id opened signal => exact .inr ⟨id, opened, .inl signal⟩
  | taken other id opened quiet up =>
      refine .inr ⟨id, opened, .inr fun p held same => ?_⟩
      by_cases here : p = o
      · rw [here, opened]
      · obtain ⟨thread', locked⟩ := (sound.tidy p).held_iff.mp held
        refine absurd (recursive.exclusive p thread' o thread ?_ ?_ ?_).1 here
        · simpa [counted, here, System.setObject, System.setValue] using locked
        · simp [counted]
        · simpa [counted, here, System.setObject, System.setValue] using same
  | misused other missing => cases recursive.valid

-- An Unlock by a thread that has not locked changes nothing.
theorem unlock_other {s : System} (sound : Sound s) (o thread : Nat)
    (other : osGetCurrentThreadId thread ≠ (s.objects o).threadId) : counted (s.unlock o thread) o thread (· - 1) = s := by
  have none : s.locks o thread = 0 := by
    have here := (sound.tidy o).counted thread
    rw [if_neg (Ne.symm other)] at here
    omega
  have same : s.unlock o thread = s := by
    rw [System.unlock]
    simp only [if_neg other, if_neg (Int.not_lt.mpr (sound.tidy o).nonneg)]
    rw [System.setObject, Function.update_eq_self]
  rw [same, counted, none, Nat.zero_sub, ← none, Function.update_eq_self, Function.update_eq_self]

theorem unlock_sound {s : System} (sound : Sound s) (o thread : Nat) :
    Sound (counted (s.unlock o thread) o thread (· - 1)) := by
  by_cases mine : osGetCurrentThreadId thread = (s.objects o).threadId
  · have tidy := sound.tidy o
    have nonneg := tidy.nonneg
    have held : (s.objects o).threadId ≠ 0 := mine ▸ Nat.succ_ne_zero thread
    obtain ⟨id, use⟩ := tidy.held_open held
    have opened := ((use_some _ id true).mp use).1
    by_cases last : (s.objects o).lockCount = 0
    · have released : s.unlock o thread =
          (s.setObject o { s.objects o with lockCount := 0, threadId := 0 }).setValue id (s.value id + 1) := by
        rw [System.unlock]
        simp only [if_pos mine, last]
        rw [if_pos (by omega)]
        split
        · next other there =>
          cases opened.symm.trans there
          rfl
        · next there => cases opened.symm.trans there
        · next there => cases opened.symm.trans there
      rw [released]
      refine sound.change o _ _ rfl rfl (tidy.released thread id mine last opened) (sound.names.update o _ rfl rfl rfl) ?_
        (fun taken => absurd rfl taken) sound.valid
      have given : NamedMutexPosix.use { s.objects o with lockCount := 0, threadId := 0 } = some (id, false) :=
        (use_some _ id false).mpr ⟨opened, rfl⟩
      rw [given]
      exact sound.guards.release o id use
    · have kept : s.unlock o thread = s.setObject o { s.objects o with lockCount := (s.objects o).lockCount - 1 } := by
        rw [System.unlock]
        simp only [if_pos mine]
        rw [if_neg (by omega)]
      rw [kept]
      refine sound.change o _ _ rfl rfl (tidy.undone thread mine (by omega)) (sound.names.update o _ rfl rfl rfl) ?_
        (fun _ => held_elsewhere sound o held) sound.valid
      have same : NamedMutexPosix.use { s.objects o with lockCount := (s.objects o).lockCount - 1 } = users s.objects o := rfl
      rw [same, Function.update_eq_self]
      exact sound.guards
  · rw [unlock_other sound o thread mine]
    exact sound

-- Locked by nobody, or open nowhere else.
def closable (s : System) (o : Nat) : Prop :=
  (s.objects o).threadId = 0 ∨ ∀ other, (s.objects other).mutex = (s.objects o).mutex → other = o

theorem close_closed {s : System} (sound : Sound s) (o : Nat) (null : (s.objects o).mutex = .null) :
    { s.close o with locks := Function.update s.locks o fun _ => 0 } = s := by
  have idle : s.locks o = fun _ => 0 := by
    funext thread
    have here := (sound.tidy o).counted thread
    rw [((sound.tidy o).closed null).1, if_neg (no_thread_zero thread)] at here
    omega
  rw [System.close]
  simp only [if_pos null]
  rw [← idle, Function.update_eq_self]

structure Closes (s t : System) (o : Nat) (object : NamedMutexPosix) : Prop where
  objects : t.objects = Function.update s.objects o object
  value : t.value = s.value
  named : t.named = if (s.objects o).owner = true then Function.update s.named (s.objects o).mutexName none else s.named
  next : t.next = s.next
  valid : t.invalidUse = s.invalidUse
  locks : t.locks = Function.update s.locks o fun _ => 0

theorem close_closes (s : System) (o id : Nat) (opened : (s.objects o).mutex = .semaphore id) :
    Closes s { s.close o with locks := Function.update s.locks o fun _ => 0 } o
      { s.objects o with mutex := .null, lockCount := 0, threadId := 0, owner := false } := by
  rw [System.close]
  simp only [opened, reduceCtorEq, if_false]
  split
  · next owner => exact ⟨rfl, rfl, (if_pos owner).symm, rfl, rfl, rfl⟩
  · next other => exact ⟨rfl, rfl, (if_neg other).symm, rfl, rfl, rfl⟩

theorem close_sound {s t : System} (sound : Sound s) (o : Nat)
    (closes : Closes s t o { s.objects o with mutex := .null, lockCount := 0, threadId := 0, owner := false })
    (allowed : closable s o) : Sound t := by
  refine sound.change o _ _ closes.objects closes.locks ⟨Int.le_refl 0, fun _ => rfl, fun _ => ⟨rfl, rfl⟩, by simp, ?_⟩ ?_ ?_
    (fun held => absurd rfl held) (closes.valid.trans sound.valid)
  · intro thread
    exact (if_neg (no_thread_zero thread)).symm
  · rw [closes.objects, closes.named, closes.next]
    exact sound.names.close o _ rfl rfl
  · rw [closes.value]
    refine sound.guards.close_iff o |>.mpr fun k use p taken there => ?_
    obtain ⟨here, held⟩ := (use_some _ k true).mp use
    obtain free | alone := allowed
    · simp [free] at held
    · exact alone p (((use_some _ k taken).mp there).1.trans here.symm)

theorem close_needs {s t : System} (sound : Sound s) (o id : Nat) (opened : (s.objects o).mutex = .semaphore id)
    (closes : Closes s t o { s.objects o with mutex := .null, lockCount := 0, threadId := 0, owner := false })
    (recursive : RecursiveMutex t) : closable s o := by
  by_cases free : (s.objects o).threadId = 0
  · exact .inl free
  · refine .inr fun p same => ?_
    by_contra apart
    have elsewhere (q : Nat) (other : q ≠ o) : t.objects q = s.objects q := by rw [closes.objects, Function.update_of_ne other]
    have use : users s.objects o = some (id, true) := (use_some _ id true).mpr ⟨opened, by simpa using free⟩
    have up : t.value id = 1 := by
      refine recursive.free p id (by rw [elsewhere p apart, same, opened]) fun q thread there => ?_
      by_cases here : q = o
      · rw [here, closes.locks, Function.update_self]
      · rw [elsewhere q here] at there
        rw [closes.locks, Function.update_of_ne here]
        by_contra locked
        have held := (sound.tidy q).held_iff.mpr ⟨thread, Nat.pos_of_ne_zero locked⟩
        exact here (sound.exclusive q o held free (sound.names.shared q o id there opened))
    rw [closes.value, sound.guards.zero o id use] at up
    cases up

theorem Sound.owner_named {s : System} (sound : Sound s) (o : Nat) (owner : (s.objects o).owner = true) :
    ∃ id, s.named (s.objects o).mutexName = some id := by
  cases handle : (s.objects o).mutex with
  | null =>
      rw [((sound.tidy o).closed handle).2] at owner
      cases owner
  | failed => exact absurd handle (sound.tidy o).opened
  | semaphore id => exact ⟨id, (sound.names.owned _ id).mpr ⟨o, owner, handle, rfl⟩⟩

theorem create_sound {s : System} (sound : Sound s) (o : Nat) (null : (s.objects o).mutex = .null) (name : String)
    (missing : s.named name = none) :
    Sound { (s.setValue s.next 1).setObject o
        { s.objects o with mutex := .semaphore s.next, mutexName := name, owner := true } with
      named := Function.update s.named name (some s.next), next := s.next + 1 } := by
  obtain ⟨idle, unowned⟩ := (sound.tidy o).closed null
  have closed : users s.objects o = none := by simp [users, NamedMutexPosix.use, null]
  refine sound.change o _ _ rfl (Function.update_eq_self o s.locks).symm ((sound.tidy o).reopened s.next name true) ?_ ?_
    (fun held => absurd idle held) sound.valid
  · refine sound.names.create o _ name (fun p owns same => ?_) rfl rfl rfl unowned
    obtain ⟨id, known⟩ := sound.owner_named p owns
    rw [same, missing] at known
    cases known
  · have use : NamedMutexPosix.use { s.objects o with mutex := .semaphore s.next, mutexName := name, owner := true } =
        some (s.next, false) := (use_some _ _ _).mpr ⟨rfl, by simp [idle]⟩
    rw [use]
    refine sound.guards.create o s.next (by simp [closed]) fun p taken there => ?_
    exact Nat.lt_irrefl s.next (sound.names.known p s.next ((use_some _ _ _).mp there).1)

theorem attach_sound {s : System} (sound : Sound s) (o id : Nat) (null : (s.objects o).mutex = .null) (name : String)
    (known : s.named name = some id) (owner : Bool) (other : owner = false) :
    Sound (s.setObject o { s.objects o with mutex := .semaphore id, mutexName := name, owner := owner }) := by
  obtain ⟨idle, unowned⟩ := (sound.tidy o).closed null
  have closed : users s.objects o = none := by simp [users, NamedMutexPosix.use, null]
  refine sound.change o _ _ rfl (Function.update_eq_self o s.locks).symm ((sound.tidy o).reopened id name owner) ?_ ?_
    (fun held => absurd idle held) sound.valid
  · exact sound.names.attach o id _ name known rfl rfl other unowned
  · have use : NamedMutexPosix.use { s.objects o with mutex := .semaphore id, mutexName := name, owner := owner } =
        some (id, false) := (use_some _ _ _).mpr ⟨rfl, by simp [idle]⟩
    obtain ⟨maker, -, made, -⟩ := (sound.names.owned name id).mp known
    have apart : maker ≠ o := by
      rintro rfl
      cases null.symm.trans made
    rw [use]
    exact sound.guards.attach o maker id _ (by simp [closed]) apart ((use_some _ _ _).mpr ⟨made, rfl⟩)

-- What sem_open answers to OpenOrCreate.
def createdOrOpened (s : System) (name : String) (creates opens : Bool) : Option Nat :=
  if s.named name = none ∧ creates = true then some s.next else s.semOpen name opens

-- The object has been opened; nothing is known of it but its name and semaphore, and the others are as they were.
structure Attached (s t : System) (o : Nat) (name : String) (id : Nat) : Prop where
  sound : Sound t
  opened : (t.objects o).mutex = .semaphore id
  named : (t.objects o).mutexName = name
  idle : (t.objects o).threadId = 0
  others : ∀ p ≠ o, t.objects p = s.objects p

section Opening
variable {platform : Platform} {s : System} (sound : Sound s) (o : Nat) (null : (s.objects o).mutex = .null)
include sound null

theorem failed_kept (t : System) (owner : Bool) (other : owner = false)
    (is : t = s.setObject o { s.objects o with mutex := platform.semFailed, owner := owner }) :
    (platform.failedIsNull = true → Sound t) ∧ (RecursiveMutex t → platform.failedIsNull = true) := by
  constructor
  · intro linux
    have same : { s.objects o with mutex := platform.semFailed, owner := owner } = s.objects o := by
      rw [Platform.semFailed, if_pos linux, ← null, other, ← ((sound.tidy o).closed null).2]
    rw [is, same, System.setObject, Function.update_eq_self]
    exact sound
  · intro recursive
    by_contra mac
    refine recursive.closed o ?_
    simp [is, System.setObject, Platform.semFailed, mac]

theorem create_or_open_attached (name : String) (creates opens : Bool) (id : Nat)
    (answer : createdOrOpened s name creates opens = some id) :
    (s.createOrOpen platform o name creates opens).2 = true ∧
      Attached s (s.createOrOpen platform o name creates opens).1 o name id := by
  have idle := ((sound.tidy o).closed null).1
  rw [createdOrOpened] at answer
  rw [System.createOrOpen]
  by_cases made : s.named name = none ∧ creates = true
  · rw [if_pos made] at answer
    cases answer
    simp only [if_pos made]
    refine ⟨trivial, create_sound sound o null name made.1, ?_, ?_, ?_, fun p apart => ?_⟩ <;> simp [System.setObject, System.setValue, *]
  · rw [if_neg made] at answer
    simp only [if_neg made, answer]
    have known : s.named name = some id := by
      rw [System.semOpen] at answer
      exact (Option.ite_none_right_eq_some.mp answer).2
    refine ⟨trivial, attach_sound sound o id null name known false rfl, ?_, ?_, ?_, fun p apart => ?_⟩ <;> simp [System.setObject, *]

omit sound null in
theorem create_or_open_failed (name : String) (creates opens : Bool) (answer : createdOrOpened s name creates opens = none) :
    s.createOrOpen platform o name creates opens =
      (s.setObject o { s.objects o with mutex := platform.semFailed, owner := false }, false) := by
  rw [createdOrOpened] at answer
  by_cases made : s.named name = none ∧ creates = true
  · rw [if_pos made] at answer
    cases answer
  · rw [if_neg made] at answer
    rw [System.createOrOpen]
    simp only [if_neg made, answer]

end Opening

theorem Attached.lockable_iff {s t : System} {o id : Nat} {name : String} (attached : Attached s t o name id)
    (was : (s.objects o).threadId = 0) (thread : Nat) (interrupted : Bool) : lockable t o thread interrupted ↔
      interrupted = true ∨ ∀ other, (s.objects other).threadId ≠ 0 → (s.objects other).mutexName = name →
        (s.objects other).mutex = .semaphore id := by
  have elsewhere : (∀ other, (t.objects other).threadId ≠ 0 → (t.objects other).mutexName = (t.objects o).mutexName →
        (t.objects other).mutex = .semaphore id) ↔
      ∀ other, (s.objects other).threadId ≠ 0 → (s.objects other).mutexName = name → (s.objects other).mutex = .semaphore id := by
    refine forall_congr' fun other => ?_
    by_cases here : other = o
    · rw [here]
      exact iff_of_true (fun held => absurd attached.idle held) (fun held => absurd was held)
    · rw [attached.others other here, attached.named]
  rw [← elsewhere]
  constructor
  · rintro (mine | ⟨other, here, rest⟩)
    · exact absurd (attached.idle.symm.trans mine) (no_thread_zero thread)
    · cases attached.opened.symm.trans here
      exact rest
  · exact fun rest => .inr ⟨id, attached.opened, rest⟩

section Calls
variable (platform : Platform)

def Call.object : Call → Nat
  | .openOrCreate o _ _ _ _ _ _ _ | .openExisting o _ _ _ | .lock o _ _ | .unlock o _ | .close o => o

-- A call leaves the mutexes as they should be and succeeds only with an object that is open.
def Kept (s : System) (call : Call) : Prop :=
  ∀ t reply, perform platform s call = some (t, reply) → RecursiveMutex t ∧ (reply = true → Opened t call.object)

-- A Lock needs an open object, a Close one that is not locked unless nobody else has its semaphore, and no
-- name is locked through a second semaphore. Where SEM_FAILED is not null every open must succeed.
def keepsMutex (s : System) : Call → Prop
  | .openOrCreate o thread mutexName initialOwner isGlobal creates opens interrupted =>
      let name := semName (platform.ext o) mutexName isGlobal
      if (s.objects o).mutex = .null then
        match createdOrOpened s name creates opens with
        | none => platform.failedIsNull = true
        | some id => initialOwner = true → interrupted = true ∨
            ∀ other, (s.objects other).threadId ≠ 0 → (s.objects other).mutexName = name →
              (s.objects other).mutex = .semaphore id
      else initialOwner = true → lockable s o thread interrupted
  | .openExisting o mutexName isGlobal opens => (s.objects o).mutex = .null →
      s.semOpen (semName (platform.ext o) mutexName isGlobal) opens = none → platform.failedIsNull = true
  | .lock o thread interrupted => lockable s o thread interrupted
  | .unlock _ _ => True
  | .close o => closable s o

variable {platform} {s t : System} (sound : Sound s) {reply : Bool}
include sound

theorem open_existing_kept (o : Nat) (mutexName : String) (isGlobal opens : Bool)
    (next : perform platform s (.openExisting o mutexName isGlobal opens) = some (t, reply)) :
    (keepsMutex platform s (.openExisting o mutexName isGlobal opens) → Sound t ∧ (reply = true → Opened t o)) ∧
      (RecursiveMutex t → keepsMutex platform s (.openExisting o mutexName isGlobal opens)) := by
  rw [perform, System.openExisting, Option.some.injEq] at next
  by_cases null : (s.objects o).mutex = .null
  · have unowned := ((sound.tidy o).closed null).2
    rw [if_pos null] at next
    cases answer : s.semOpen (semName (platform.ext o) mutexName isGlobal) opens with
    | none =>
        simp only [answer, Prod.mk.injEq] at next
        obtain ⟨is, rfl⟩ := next
        obtain ⟨linux, needs⟩ := failed_kept sound o null t _ unowned is.symm
        exact ⟨fun allowed => ⟨linux (allowed null answer), by simp⟩, fun recursive _ _ => needs recursive⟩
    | some id =>
        simp only [answer, Prod.mk.injEq] at next
        obtain ⟨rfl, rfl⟩ := next
        have known := (Option.ite_none_right_eq_some.mp answer).2
        refine ⟨fun _ => ⟨attach_sound sound o id null _ known _ unowned, fun _ => ⟨id, ?_⟩⟩, fun _ _ missing => ?_⟩
        · simp [System.setObject]
        · cases answer.symm.trans missing
  · rw [if_neg null] at next
    cases next
    exact ⟨fun _ => ⟨sound, fun _ => (sound.tidy o).opened_of null⟩, fun _ closed => absurd closed null⟩

theorem open_or_create_kept (o thread : Nat) (mutexName : String) (initialOwner isGlobal creates opens interrupted : Bool)
    (next : perform platform s (.openOrCreate o thread mutexName initialOwner isGlobal creates opens interrupted) =
      some (t, reply)) :
    (keepsMutex platform s (.openOrCreate o thread mutexName initialOwner isGlobal creates opens interrupted) →
        Sound t ∧ (reply = true → Opened t o)) ∧
      (RecursiveMutex t →
        keepsMutex platform s (.openOrCreate o thread mutexName initialOwner isGlobal creates opens interrupted)) := by
  set name := semName (platform.ext o) mutexName isGlobal with name_eq
  -- Once the object is open the call is a Lock or nothing.
  have going_on (u : System) (opened : (if (s.objects o).mutex = .null then s.createOrOpen platform o name creates opens
      else (s, true)) = (u, true)) :
      (if initialOwner = true then perform platform u (.lock o thread interrupted) else some (u, true)) = some (t, reply) := by
    rw [perform, System.openOrCreate] at next
    simp only [← name_eq, opened] at next
    cases initialOwner <;> simpa [perform] using next
  have ends (u : System) (sound : Sound u) (open_ : Opened u o)
      (rest : (if initialOwner = true then perform platform u (.lock o thread interrupted) else some (u, true)) = some (t, reply)) :
      ((initialOwner = true → lockable u o thread interrupted) → Sound t ∧ (reply = true → Opened t o)) ∧
        (RecursiveMutex t → initialOwner = true → lockable u o thread interrupted) := by
    by_cases locks : initialOwner = true
    · rw [if_pos locks] at rest
      have move := lock_moves platform u t o thread interrupted reply rest
      exact ⟨fun allowed => lock_sound sound move (allowed locks), fun recursive _ => lock_needs sound move recursive⟩
    · rw [if_neg locks] at rest
      cases rest
      exact ⟨fun _ => ⟨sound, fun _ => open_⟩, fun _ asked => absurd asked locks⟩
  simp only [keepsMutex, ← name_eq]
  by_cases null : (s.objects o).mutex = .null
  · rw [if_pos null]
    cases answer : createdOrOpened s name creates opens with
    | none =>
        have failed : s.createOrOpen platform o name creates opens = _ := create_or_open_failed o name creates opens answer
        rw [perform, System.openOrCreate] at next
        simp only [← name_eq, if_pos null, failed, if_true, Option.map_some, Bool.and_false, Bool.false_eq_true, if_false,
          Option.some.injEq, Prod.mk.injEq] at next
        obtain ⟨is, rfl⟩ := next
        obtain ⟨linux, needs⟩ := failed_kept sound o null t false rfl is.symm
        exact ⟨fun allowed => ⟨linux allowed, by simp⟩, needs⟩
    | some id =>
        obtain ⟨opened, attached⟩ := create_or_open_attached sound o null name creates opens id answer
        have rest := going_on _ (by rw [if_pos null]; exact Prod.ext rfl opened)
        obtain ⟨keeps, needs⟩ := ends _ attached.sound ⟨id, attached.opened⟩ rest
        simp only [attached.lockable_iff ((sound.tidy o).closed null).1] at keeps needs
        exact ⟨keeps, needs⟩
  · rw [if_neg null]
    exact ends s sound ((sound.tidy o).opened_of null) (going_on s (if_neg null))

theorem call_kept (call : Call) (next : perform platform s call = some (t, reply)) :
    (keepsMutex platform s call → Sound t ∧ (reply = true → Opened t call.object)) ∧
      (RecursiveMutex t → keepsMutex platform s call) := by
  cases call with
  | openOrCreate o thread mutexName initialOwner isGlobal creates opens interrupted =>
      exact open_or_create_kept sound o thread mutexName initialOwner isGlobal creates opens interrupted next
  | openExisting o mutexName isGlobal opens => exact open_existing_kept sound o mutexName isGlobal opens next
  | lock o thread interrupted =>
      have move := lock_moves platform s t o thread interrupted reply next
      exact ⟨lock_sound sound move, lock_needs sound move⟩
  | unlock o thread =>
      cases next
      exact ⟨fun _ => ⟨unlock_sound sound o thread, by simp⟩, fun _ => trivial⟩
  | close o =>
      cases next
      cases handle : (s.objects o).mutex with
      | null =>
          rw [close_closed sound o handle]
          exact ⟨fun _ => ⟨sound, by simp⟩, fun _ => .inl ((sound.tidy o).closed handle).1⟩
      | failed => exact absurd handle (sound.tidy o).opened
      | semaphore id =>
          have closes := close_closes s o id handle
          exact ⟨fun allowed => ⟨close_sound sound o closes allowed, by simp⟩, close_needs sound o id handle closes⟩

omit sound in
theorem initial_sound : Sound .initial := by
  refine ⟨fun o => ⟨Int.le_refl 0, fun _ => rfl, fun _ => ⟨rfl, rfl⟩, by simp [System.initial, NamedMutexPosix.constructed], ?_⟩,
    ⟨?_, ?_, ?_, ?_⟩, ⟨?_, ?_, ?_⟩, ?_, rfl⟩ <;>
    simp [System.initial, NamedMutexPosix.constructed, users, NamedMutexPosix.use, no_thread_zero]

variable (platform) in
omit sound in
-- In whatever order the threads of all processes call, and whatever sem_open answers.
theorem mutex_kept_iff (calls : List Call) : Meets (machine platform) (Kept platform) .initial calls ↔
    Meets (machine platform) (keepsMutex platform) .initial calls := by
  refine meets_iff (machine platform) (Kept platform) (keepsMutex platform) Sound ?_ ?_ .initial initial_sound calls
  · intro s call t sound next
    obtain ⟨⟨u, reply⟩, performed, rfl⟩ := Option.map_eq_some_iff.mp next
    obtain ⟨keeps, needs⟩ := call_kept sound call performed
    constructor
    · exact fun kept => needs (kept u reply performed).1
    · intro allowed t' reply' also
      cases performed.symm.trans also
      obtain ⟨after, opened⟩ := keeps allowed
      exact ⟨after.recursive, opened⟩
  · intro s call t sound kept next
    obtain ⟨⟨u, reply⟩, performed, rfl⟩ := Option.map_eq_some_iff.mp next
    obtain ⟨keeps, needs⟩ := call_kept sound call performed
    exact (keeps (needs (kept u reply performed).1)).1

end Calls

def linux : Platform := ⟨true, fun _ => "_x64"⟩

def mac : Platform := ⟨false, fun _ => "_x64"⟩

-- A Lock after an Open that failed, a second Open on a Mac, a Close of what is locked, and a name that is
-- created again while the lock of its first semaphore is held.
theorem mutex_not_kept :
    ¬ Meets (machine linux) (Kept linux) .initial [.openExisting 0 "rdp" true true, .lock 0 0 false] ∧
      ¬ Meets (machine mac) (Kept mac) .initial [.openExisting 0 "rdp" true true, .openExisting 0 "rdp" true true] ∧
      ¬ Meets (machine linux) (Kept linux) .initial
        [.openOrCreate 0 0 "rdp" true true true true false, .openExisting 1 "rdp" true true, .close 0] ∧
      ¬ Meets (machine linux) (Kept linux) .initial
        [.openOrCreate 0 0 "rdp" false true true true false, .openExisting 1 "rdp" true true, .lock 1 1 false, .close 0,
          .openOrCreate 2 2 "rdp" true true true true false] := by
  refine ⟨fun meets => ?_, fun meets => ?_, fun meets => ?_, fun meets => ?_⟩
  · have kept := ((meets _ rfl).2 _ rfl).1 _ _ rfl
    exact Bool.noConfusion kept.1.valid
  · have kept := (meets _ rfl).1 _ _ rfl
    exact kept.1.closed 0 rfl
  · have kept := ((((meets _ rfl).2 _ rfl).2) _ rfl).1 _ _ rfl
    refine absurd (kept.1.free 1 0 rfl fun other thread _ => ?_) (by decide)
    cases other <;> rfl
  · have kept := ((((((meets _ rfl).2 _ rfl).2) _ rfl).2 _ rfl).2 _ rfl).1 _ _ rfl
    exact absurd (kept.1.exclusive 1 1 2 2 (by decide) (by decide) (by decide)).1 (by decide)

end RadeonPanel.Modules.NamedMutex

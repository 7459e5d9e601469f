import Mathlib.Data.List.Forall2
import Mathlib.Logic.Relation
import RadeonPanel.Base.Runs

set_option autoImplicit false

namespace RadeonPanel.Dipper

open Interleaving

-- A key is a type as its hash code stands for it.
variable {κ : Type}

-- What was registered as a value, or what a constructor made, numbered by its call.
inductive Obj (κ : Type) where
  | value (key : κ)
  | made (number : Nat)
deriving DecidableEq, Repr

-- FnFactory of a value, FnFactory and SingletonFactory of a constructor. The arguments are in the
-- order in which the compiler evaluates them.
inductive Factory (κ : Type) where
  | value
  | fn (args : List κ)
  | singleton (args : List κ) (value : Option (Obj κ))
deriving DecidableEq, Repr

def Factory.args : Factory κ → List κ
  | .value => []
  | .fn args => args
  | .singleton args _ => args

-- A call of a constructor, with what it was given.
structure Built (κ : Type) where
  key : κ
  args : List (Obj κ)
deriving DecidableEq, Repr

-- The container with the calls of constructors so far, the oldest first.
structure Container (κ : Type) where
  factories : κ → Option (Factory κ)
  built : List (Built κ)

namespace Container

def construct (c : Container κ) (key : κ) (args : List (Obj κ)) : Obj κ × Container κ :=
  (.made c.built.length, { c with built := c.built ++ [⟨key, args⟩] })

def keep [DecidableEq κ] (c : Container κ) (key : κ) (args : List κ) (object : Obj κ) : Container κ :=
  { c with factories := Function.update c.factories key (some (.singleton args (some object))) }

end Container

def resolveAll (resolve : Container κ → κ → Option (Obj κ × Container κ)) :
    Container κ → List κ → Option (List (Obj κ) × Container κ)
  | c, [] => some ([], c)
  | c, key :: rest =>
      (resolve c key).bind fun one => (resolveAll resolve one.2 rest).map fun others => (one.1 :: others.1, others.2)

-- `depth` bounds the calls inside one another. A key without a factory fails an assertion.
def resolve [DecidableEq κ] : Nat → Container κ → κ → Option (Obj κ × Container κ)
  | 0, _, _ => none
  | depth + 1, c, key =>
      match c.factories key with
      | none => none
      | some .value => some (.value key, c)
      | some (.fn args) => (resolveAll (resolve depth) c args).map fun given => given.2.construct key given.1
      | some (.singleton args none) =>
          (resolveAll (resolve depth) c args).map fun given =>
            ((given.2.construct key given.1).1,
              (given.2.construct key given.1).2.keep key args (given.2.construct key given.1).1)
      | some (.singleton _ (some object)) => some (object, c)

def registerInternal [DecidableEq κ] (c : Container κ) (key : κ) (factory : Factory κ) : Option (Container κ) :=
  if c.factories key = none then some { c with factories := Function.update c.factories key (some factory) } else none

-- The other container's factories in the order of its map, with the objects that they hold.
def install [DecidableEq κ] : Container κ → List (κ × Factory κ) → Option (Container κ)
  | c, [] => some c
  | c, (key, factory) :: rest => (registerInternal c key factory).bind fun d => install d rest

-- A factory as it is registered: a singleton that has not been made.
def Factory.unmade : Factory κ → Bool
  | .value => true
  | .fn _ => true
  | .singleton _ object => object.isNone

inductive Action (κ : Type) where
  | register (key : κ) (factory : Factory κ)
  | install (other : List (κ × Factory κ))
  | resolve (key : κ) (depth : Nat)
deriving DecidableEq, Repr

-- `handed` records what the callers of Resolve got.
structure State (κ : Type) where
  container : Container κ
  handed : List (κ × Obj κ)

def State.next [DecidableEq κ] (s : State κ) : Action κ → Option (State κ)
  | .register key factory => (registerInternal s.container key factory).map fun c => { s with container := c }
  | .install other => (install s.container other).map fun c => { s with container := c }
  | .resolve key depth =>
      (resolve depth s.container key).map fun result => ⟨result.2, (key, result.1) :: s.handed⟩

def dipper (κ : Type) [DecidableEq κ] : Machine (State κ) (Action κ) := ⟨⟨⟨fun _ => none, []⟩, []⟩, State.next⟩

def Below (rank : κ → Nat) (key : κ) (factory : Factory κ) : Prop := ∀ arg ∈ factory.args, rank arg < rank key

instance (rank : κ → Nat) (key : κ) (factory : Factory κ) : Decidable (Below rank key factory) :=
  inferInstanceAs (Decidable (∀ arg ∈ factory.args, rank arg < rank key))

-- No type is among the arguments of its own constructor, directly or not.
def Ranked (rank : κ → Nat) (_ : State κ) : Action κ → Prop
  | .register key factory => factory.unmade = true ∧ Below rank key factory
  | .install other => ∀ pair ∈ other, pair.2.unmade = true ∧ Below rank pair.1 pair.2
  | .resolve _ _ => True

instance (rank : κ → Nat) (s : State κ) : (a : Action κ) → Decidable (Ranked rank s a)
  | .register key factory => inferInstanceAs (Decidable (factory.unmade = true ∧ Below rank key factory))
  | .install other => inferInstanceAs (Decidable (∀ pair ∈ other, pair.2.unmade = true ∧ Below rank pair.1 pair.2))
  | .resolve _ _ => inferInstanceAs (Decidable True)

def Acyclic (rank : κ → Nat) (c : Container κ) : Prop :=
  ∀ key factory, c.factories key = some factory → Below rank key factory

-- What a constructor that is the n-th to be called may be given for a type.
def Provides (c : Container κ) (n : Nat) (key : κ) (object : Obj κ) : Prop :=
  match c.factories key with
  | none => False
  | some .value => object = .value key
  | some (.fn _) => ∃ m args, object = .made m ∧ m < n ∧ c.built[m]? = some ⟨key, args⟩
  | some (.singleton _ value) => ∃ m, object = .made m ∧ m < n ∧ value = some object

structure Sharing (c : Container κ) : Prop where
  made : ∀ key args object, c.factories key = some (.singleton args (some object)) →
    ∃ n given, object = .made n ∧ c.built[n]? = some ⟨key, given⟩
  single : ∀ n key given, c.built[n]? = some ⟨key, given⟩ → ∀ args value,
    c.factories key = some (.singleton args value) → value = some (.made n)
  given : ∀ n call, c.built[n]? = some call → ∃ factory, c.factories call.key = some factory ∧
    List.Forall₂ (Provides c n) factory.args call.args

-- From one container to a later one: factories stay but for singletons that are made, and calls of
-- constructors are added, by Resolve only for the types from some list.
structure Extends (c d : Container κ) : Prop where
  calls : ∃ more, d.built = c.built ++ more
  kept : ∀ key factory, c.factories key = some factory → (∀ args, factory ≠ .singleton args none) →
    d.factories key = some factory
  unmade : ∀ key args, c.factories key = some (.singleton args none) → ∃ value, d.factories key = some (.singleton args value)

theorem extends_refl (c : Container κ) : Extends c c :=
  ⟨⟨[], by simp⟩, fun _ _ here _ => here, fun _ args here => ⟨none, here⟩⟩

theorem extends_trans (c d e : Container κ) (first : Extends c d) (second : Extends d e) : Extends c e := by
  constructor
  · obtain ⟨one, calls⟩ := first.calls
    obtain ⟨two, later⟩ := second.calls
    exact ⟨one ++ two, by rw [later, calls, List.append_assoc]⟩
  · intro key factory here stays
    exact second.kept key factory (first.kept key factory here stays) stays
  · intro key args here
    obtain ⟨value, there⟩ := first.unmade key args here
    cases value with
    | none => exact second.unmade key args there
    | some object => exact ⟨some object, second.kept key _ there (fun _ same => by cases same)⟩

theorem extends_built (c d : Container κ) (ext : Extends c d) (n : Nat) (call : Built κ) (here : c.built[n]? = some call) :
    d.built[n]? = some call := by
  obtain ⟨more, calls⟩ := ext.calls
  obtain ⟨within, _⟩ := List.getElem?_eq_some_iff.mp here
  rw [calls, List.getElem?_append_left within, here]

theorem extends_provides (c d : Container κ) (ext : Extends c d) (n m : Nat) (later : n ≤ m) (key : κ) (object : Obj κ)
    (provides : Provides c n key object) : Provides d m key object := by
  unfold Provides at provides ⊢
  cases factory : c.factories key with
  | none =>
      rw [factory] at provides
      cases provides
  | some held =>
      rw [factory] at provides
      cases held with
      | value =>
          rw [ext.kept key _ factory (fun _ same => by cases same)]
          exact provides
      | fn args =>
          rw [ext.kept key _ factory (fun _ same => by cases same)]
          obtain ⟨number, given, made, before, call⟩ := provides
          exact ⟨number, given, made, by omega, extends_built c d ext number _ call⟩
      | singleton args value =>
          obtain ⟨number, made, before, known⟩ := provides
          rw [ext.kept key _ factory (fun _ same => by rw [known] at same; cases same)]
          exact ⟨number, made, by omega, known⟩

-- A constructor's call adds an object that nothing else is.
theorem construct_extends (c : Container κ) (key : κ) (args : List (Obj κ)) : Extends c (c.construct key args).2 :=
  ⟨⟨[⟨key, args⟩], rfl⟩, fun _ _ here _ => here, fun _ _ here => ⟨none, here⟩⟩

theorem construct_built (c : Container κ) (key : κ) (args : List (Obj κ)) (n : Nat) (call : Built κ)
    (here : (c.construct key args).2.built[n]? = some call) :
    c.built[n]? = some call ∨ n = c.built.length ∧ call = ⟨key, args⟩ := by
  have appended : (c.built ++ [⟨key, args⟩])[n]? = some call := here
  rcases Nat.lt_trichotomy n c.built.length with before | same | after
  · rw [List.getElem?_append_left before] at appended
    exact .inl appended
  · subst same
    rw [List.getElem?_concat_length] at appended
    exact .inr ⟨rfl, (Option.some.inj appended).symm⟩
  · rw [List.getElem?_eq_none (by simp only [List.length_append, List.length_singleton]; omega)] at appended
    cases appended

theorem construct_made (c : Container κ) (key : κ) (args : List (Obj κ)) :
    (c.construct key args).2.built[c.built.length]? = some ⟨key, args⟩ :=
  List.getElem?_concat_length

theorem provides_fn (c : Container κ) (key : κ) (keys : List κ) (factory : c.factories key = some (.fn keys)) (n m : Nat)
    (before : m < n) (args : List (Obj κ)) (call : c.built[m]? = some ⟨key, args⟩) : Provides c n key (.made m) := by
  unfold Provides
  rw [factory]
  exact ⟨m, args, rfl, before, call⟩

theorem provides_singleton (c : Container κ) (key : κ) (keys : List κ) (n m : Nat)
    (factory : c.factories key = some (.singleton keys (some (.made m)))) (before : m < n) :
    Provides c n key (.made m) := by
  unfold Provides
  rw [factory]
  exact ⟨m, rfl, before, rfl⟩

theorem provides_all (c d : Container κ) (ext : Extends c d) (n m : Nat) (later : n ≤ m) (keys : List κ)
    (objects : List (Obj κ)) (provided : List.Forall₂ (Provides c n) keys objects) :
    List.Forall₂ (Provides d m) keys objects :=
  provided.imp fun key object provides => extends_provides c d ext n m later key object provides

-- What one Resolve does to the container.
structure Resolved (rank : κ → Nat) (bound : Nat) (c d : Container κ) : Prop where
  ext : Extends c d
  sharing : Sharing d
  acyclic : Acyclic rank d
  above : ∀ key, bound ≤ rank key → d.factories key = c.factories key

theorem resolved_refl (rank : κ → Nat) (bound : Nat) (c : Container κ) (acyclic : Acyclic rank c) (sharing : Sharing c) :
    Resolved rank bound c c :=
  ⟨extends_refl c, sharing, acyclic, fun _ _ => rfl⟩

theorem resolved_trans (rank : κ → Nat) (bound : Nat) (c d e : Container κ) (first : Resolved rank bound c d)
    (second : Resolved rank bound d e) : Resolved rank bound c e :=
  ⟨extends_trans c d e first.ext second.ext, second.sharing, second.acyclic,
    fun key high => (second.above key high).trans (first.above key high)⟩

theorem resolved_mono (rank : κ → Nat) (low high : Nat) (le : low ≤ high) (c d : Container κ)
    (resolved : Resolved rank low c d) : Resolved rank high c d :=
  ⟨resolved.ext, resolved.sharing, resolved.acyclic, fun key above => resolved.above key (Nat.le_trans le above)⟩

theorem construct_fn (rank : κ → Nat) (c : Container κ) (key : κ) (keys : List κ) (args : List (Obj κ))
    (acyclic : Acyclic rank c) (sharing : Sharing c) (factory : c.factories key = some (.fn keys))
    (provided : List.Forall₂ (Provides c c.built.length) keys args) (bound : Nat) :
    Resolved rank bound c (c.construct key args).2 := by
  refine ⟨construct_extends c key args, ?_, acyclic, fun _ _ => rfl⟩
  constructor
  · intro other args' object here
    obtain ⟨n, given, made, call⟩ := sharing.made other args' object here
    exact ⟨n, given, made, extends_built c _ (construct_extends c key args) n _ call⟩
  · intro n other given call args' value here
    rcases construct_built c key args n _ call with before | ⟨_, last⟩
    · exact sharing.single n other given before args' value here
    · cases last
      exact absurd (factory.symm.trans here) (by simp)
  · intro n call here
    rcases construct_built c key args n _ here with before | ⟨last, same⟩
    · obtain ⟨held, found, given⟩ := sharing.given n call before
      exact ⟨held, found, provides_all c _ (construct_extends c key args) n n (Nat.le_refl _) _ _ given⟩
    · subst last same
      exact ⟨.fn keys, factory, provides_all c _ (construct_extends c key args) _ _ (Nat.le_refl _) _ _ provided⟩

section Keys

variable [DecidableEq κ]

theorem keep_self (c : Container κ) (key : κ) (args : List κ) (object : Obj κ) :
    (c.keep key args object).factories key = some (.singleton args (some object)) := Function.update_self ..

theorem keep_apart (c : Container κ) (key other : κ) (args : List κ) (object : Obj κ) (apart : other ≠ key) :
    (c.keep key args object).factories other = c.factories other := Function.update_of_ne apart _ _

-- A singleton that is kept was not made before.
theorem keep_extends (c : Container κ) (key : κ) (args : List κ) (object : Obj κ)
    (unmade : c.factories key = some (.singleton args none)) : Extends c (c.keep key args object) := by
  constructor
  · exact ⟨[], (List.append_nil c.built).symm⟩
  · intro other factory here stays
    have apart : other ≠ key := by
      intro same
      rw [same, unmade] at here
      exact stays args (Option.some.inj here).symm
    exact (keep_apart c key other args object apart).trans here
  · intro other args' here
    by_cases same : other = key
    · subst same
      rw [unmade] at here
      cases here
      exact ⟨some object, keep_self c other args object⟩
    · exact ⟨none, (keep_apart c key other args object same).trans here⟩

theorem construct_singleton (rank : κ → Nat) (c : Container κ) (key : κ) (keys : List κ) (args : List (Obj κ))
    (acyclic : Acyclic rank c) (sharing : Sharing c) (factory : c.factories key = some (.singleton keys none))
    (provided : List.Forall₂ (Provides c c.built.length) keys args) (bound : Nat) (below : rank key < bound) :
    Resolved rank bound c ((c.construct key args).2.keep key keys (.made c.built.length)) := by
  have grows : Extends c ((c.construct key args).2.keep key keys (.made c.built.length)) :=
    extends_trans c _ _ (construct_extends c key args) (keep_extends _ key keys _ factory)
  have elsewhere : ∀ other, other ≠ key →
      ((c.construct key args).2.keep key keys (.made c.built.length)).factories other = c.factories other :=
    fun other apart => keep_apart (c.construct key args).2 key other keys _ apart
  have here := keep_self (c.construct key args).2 key keys (.made c.built.length)
  refine ⟨grows, ?_, ?_, ?_⟩
  · constructor
    · intro other args' object held
      by_cases same : other = key
      · subst same
        rw [here] at held
        cases held
        exact ⟨c.built.length, args, rfl, construct_made c other args⟩
      · obtain ⟨n, given, made, call⟩ := sharing.made other args' object ((elsewhere other same).symm.trans held)
        exact ⟨n, given, made, extends_built c _ grows n _ call⟩
    · intro n other given call args' value held
      rcases construct_built c key args n _ call with before | ⟨last, same⟩
      · by_cases same : other = key
        · subst same
          -- a call before would have left its object in the factory
          cases sharing.single n other given before keys none factory
        · exact sharing.single n other given before args' value ((elsewhere other same).symm.trans held)
      · cases same
        rw [here] at held
        cases held
        rw [last]
    · intro n call held
      rcases construct_built c key args n _ held with before | ⟨last, same⟩
      · obtain ⟨first, found, given⟩ := sharing.given n call before
        by_cases again : call.key = key
        · rw [again, factory] at found
          cases found
          exact ⟨.singleton keys (some (.made c.built.length)), by rw [again, here],
            provides_all c _ grows n n (Nat.le_refl _) keys _ given⟩
        · exact ⟨first, (elsewhere call.key again).trans found, provides_all c _ grows n n (Nat.le_refl _) _ _ given⟩
      · subst last same
        exact ⟨_, here, provides_all c _ grows _ _ (Nat.le_refl _) _ _ provided⟩
  · intro other held found
    by_cases same : other = key
    · subst same
      rw [here] at found
      cases found
      exact acyclic other (.singleton keys none) factory
    · exact acyclic other held ((elsewhere other same).symm.trans found)
  · intro other high
    refine elsewhere other ?_
    intro same
    subst same
    omega

-- What Resolve is to do at one depth.
def Resolves (rank : κ → Nat) (depth : Nat) : Prop :=
  ∀ (c : Container κ) (key : κ) (object : Obj κ) (d : Container κ), Acyclic rank c → Sharing c →
    resolve depth c key = some (object, d) →
    Resolved rank (rank key + 1) c d ∧ Provides d d.built.length key object

theorem resolve_all_step (rank : κ → Nat) (depth bound : Nat) (one : Resolves rank depth) (keys : List κ) :
    ∀ (c : Container κ) (objects : List (Obj κ)) (d : Container κ), Acyclic rank c → Sharing c →
      (∀ key ∈ keys, rank key < bound) → resolveAll (resolve depth) c keys = some (objects, d) →
      Resolved rank bound c d ∧ List.Forall₂ (Provides d d.built.length) keys objects := by
  induction keys with
  | nil =>
      intro c objects d acyclic sharing _ result
      cases result
      exact ⟨resolved_refl rank bound c acyclic sharing, .nil⟩
  | cons key rest ih =>
      intro c objects d acyclic sharing below result
      obtain ⟨⟨object, middle⟩, first, more⟩ := Option.bind_eq_some_iff.mp result
      obtain ⟨⟨others, final⟩, remaining, same⟩ := Option.map_eq_some_iff.mp more
      cases same
      obtain ⟨head, provides⟩ := one c key object middle acyclic sharing first
      obtain ⟨tail, provided⟩ := ih middle others final head.acyclic head.sharing
        (fun other member => below other (List.mem_cons_of_mem key member)) remaining
      have low : rank key + 1 ≤ bound := below key List.mem_cons_self
      obtain ⟨calls, longer⟩ := tail.ext.calls
      have later : middle.built.length ≤ final.built.length := by
        rw [longer, List.length_append]
        omega
      exact ⟨resolved_trans rank bound c middle final (resolved_mono rank _ bound low c middle head) tail,
        .cons (extends_provides middle final tail.ext _ _ later key object provides) provided⟩

theorem resolve_step (rank : κ → Nat) (depth : Nat) : Resolves rank depth := by
  induction depth with
  | zero =>
      intro c key object d _ _ result
      cases result
  | succ depth ih =>
      intro c key object d acyclic sharing result
      rw [resolve] at result
      cases factory : c.factories key with
      | none =>
          rw [factory] at result
          cases result
      | some held =>
          rw [factory] at result
          cases held with
          | value =>
              cases result
              exact ⟨resolved_refl rank _ c acyclic sharing, by simp only [Provides, factory]⟩
          | fn keys =>
              obtain ⟨⟨args, middle⟩, given, same⟩ := Option.map_eq_some_iff.mp result
              cases same
              obtain ⟨before, provided⟩ := resolve_all_step rank depth (rank key) ih keys c args middle acyclic sharing
                (acyclic key _ factory) given
              have there : middle.factories key = some (.fn keys) := (before.above key (Nat.le_refl _)).trans factory
              refine ⟨resolved_trans rank _ c middle _ (resolved_mono rank _ _ (Nat.le_succ _) c middle before)
                (construct_fn rank middle key keys args before.acyclic before.sharing there provided _), ?_⟩
              exact provides_fn (middle.construct key args).2 key keys there _ _
                (List.getElem?_eq_some_iff.mp (construct_made middle key args)).1 args (construct_made middle key args)
          | singleton keys value =>
              cases value with
              | none =>
                  obtain ⟨⟨args, middle⟩, given, same⟩ := Option.map_eq_some_iff.mp result
                  cases same
                  obtain ⟨before, provided⟩ := resolve_all_step rank depth (rank key) ih keys c args middle acyclic sharing
                    (acyclic key _ factory) given
                  have there : middle.factories key = some (.singleton keys none) :=
                    (before.above key (Nat.le_refl _)).trans factory
                  refine ⟨resolved_trans rank _ c middle _ (resolved_mono rank _ _ (Nat.le_succ _) c middle before)
                    (construct_singleton rank middle key keys args before.acyclic before.sharing there provided _
                      (Nat.lt_succ_self _)), ?_⟩
                  exact provides_singleton _ key keys _ middle.built.length (keep_self ..)
                    (List.getElem?_eq_some_iff.mp (construct_made middle key args)).1
              | some kept =>
                  cases result
                  obtain ⟨n, given, made, call⟩ := sharing.made key keys object factory
                  subst made
                  exact ⟨resolved_refl rank _ c acyclic sharing,
                    provides_singleton c key keys _ n factory (List.getElem?_eq_some_iff.mp call).1⟩

theorem register_step (rank : κ → Nat) (c d : Container κ) (key : κ) (factory : Factory κ) (unmade : factory.unmade = true)
    (below : Below rank key factory) (acyclic : Acyclic rank c) (sharing : Sharing c)
    (registered : registerInternal c key factory = some d) : Extends c d ∧ Sharing d ∧ Acyclic rank d := by
  unfold registerInternal at registered
  obtain ⟨absent, same⟩ := Option.ite_none_right_eq_some.mp registered
  cases same
  have grows : Extends c { c with factories := Function.update c.factories key (some factory) } := by
    refine ⟨⟨[], (List.append_nil c.built).symm⟩, fun other held here _ => ?_, fun other args here => ⟨none, ?_⟩⟩
    all_goals
      refine (Function.update_of_ne (fun same => ?_) _ _).trans here
      rw [same, absent] at here
      cases here
  -- the type is new, so no constructor was called for it
  have elsewhere : ∀ other held, Function.update c.factories key (some factory) other = some held →
      c.factories other = some held ∨ other = key ∧ held = factory := by
    intro other held here
    by_cases same : other = key
    · subst same
      rw [Function.update_self] at here
      exact .inr ⟨rfl, (Option.some.inj here).symm⟩
    · exact .inl ((Function.update_of_ne same _ _).symm.trans here)
  refine ⟨grows, ⟨?_, ?_, ?_⟩, ?_⟩
  · intro other args object here
    rcases elsewhere other _ here with before | ⟨_, new⟩
    · exact sharing.made other args object before
    · subst new
      cases unmade
  · intro n other given call args value here
    rcases elsewhere other _ here with before | ⟨same, _⟩
    · exact sharing.single n other given call args value before
    · obtain ⟨held, found, _⟩ := sharing.given n _ call
      rw [same, absent] at found
      cases found
  · intro n call here
    obtain ⟨held, found, given⟩ := sharing.given n call here
    have there : Function.update c.factories key (some factory) call.key = some held := by
      refine (Function.update_of_ne (fun same => ?_) _ _).trans found
      rw [same, absent] at found
      cases found
    exact ⟨held, there, provides_all c _ grows n n (Nat.le_refl _) _ _ given⟩
  · intro other held here
    rcases elsewhere other held here with before | ⟨same, new⟩
    · exact acyclic other held before
    · rw [same, new]
      exact below

theorem install_step (rank : κ → Nat) (other : List (κ × Factory κ)) :
    ∀ (c d : Container κ), (∀ pair ∈ other, pair.2.unmade = true ∧ Below rank pair.1 pair.2) → Acyclic rank c → Sharing c →
      install c other = some d → Extends c d ∧ Sharing d ∧ Acyclic rank d := by
  induction other with
  | nil =>
      intro c d _ acyclic sharing installed
      cases installed
      exact ⟨extends_refl c, sharing, acyclic⟩
  | cons pair rest ih =>
      intro c d ranked acyclic sharing installed
      obtain ⟨middle, first, remaining⟩ := Option.bind_eq_some_iff.mp installed
      obtain ⟨unmade, below⟩ := ranked pair List.mem_cons_self
      obtain ⟨grows, shared, still⟩ := register_step rank c middle pair.1 pair.2 unmade below acyclic sharing first
      obtain ⟨more, last, after⟩ := ih middle d (fun one member => ranked one (List.mem_cons_of_mem pair member)) still
        shared remaining
      exact ⟨extends_trans c middle d grows more, last, after⟩

structure Inv (rank : κ → Nat) (s : State κ) : Prop where
  acyclic : Acyclic rank s.container
  sharing : Sharing s.container
  handed : ∀ one ∈ s.handed, Provides s.container s.container.built.length one.1 one.2

omit [DecidableEq κ] in
theorem handed_extends (s : State κ) (d : Container κ) (grows : Extends s.container d)
    (handed : ∀ one ∈ s.handed, Provides s.container s.container.built.length one.1 one.2) :
    ∀ one ∈ s.handed, Provides d d.built.length one.1 one.2 := by
  intro one member
  obtain ⟨more, longer⟩ := grows.calls
  have later : s.container.built.length ≤ d.built.length := by
    rw [longer, List.length_append]
    omega
  exact extends_provides s.container d grows _ _ later one.1 one.2 (handed one member)

theorem inv_step (rank : κ → Nat) (s t : State κ) (a : Action κ) (inv : Inv rank s) (ranked : Ranked rank s a)
    (next : s.next a = some t) : Inv rank t := by
  cases a with
  | register key factory =>
      obtain ⟨d, registered, same⟩ := Option.map_eq_some_iff.mp next
      cases same
      obtain ⟨grows, sharing, acyclic⟩ := register_step rank s.container d key factory ranked.1 ranked.2 inv.acyclic
        inv.sharing registered
      exact ⟨acyclic, sharing, handed_extends s d grows inv.handed⟩
  | install other =>
      obtain ⟨d, installed, same⟩ := Option.map_eq_some_iff.mp next
      cases same
      obtain ⟨grows, sharing, acyclic⟩ := install_step rank other s.container d ranked inv.acyclic inv.sharing installed
      exact ⟨acyclic, sharing, handed_extends s d grows inv.handed⟩
  | resolve key depth =>
      obtain ⟨result, resolved, same⟩ := Option.map_eq_some_iff.mp next
      cases same
      obtain ⟨step, provides⟩ := resolve_step rank depth s.container key result.1 result.2 inv.acyclic inv.sharing resolved
      refine ⟨step.acyclic, step.sharing, fun one member => ?_⟩
      rcases List.mem_cons.mp member with first | before
      · subst first
        exact provides
      · exact handed_extends s result.2 step.ext inv.handed one before

theorem run_inv (rank : κ → Nat) (s : State κ) (reach : Reach (dipper κ) (Ranked rank) s) : Inv rank s := by
  apply reach_invariant (dipper κ) (Ranked rank) (Inv rank) _ _ s reach
  · constructor
    · intro key factory here
      cases here
    · constructor
      · intro key args object here
        cases here
      · intro n key given call
        cases call
      · intro n call here
        cases here
    · intro one member
      cases member
  · exact fun s a t _ inv ranked next => inv_step rank s t a inv ranked next

-- Two singletons and a value under them, and a type that is made anew each time.
def someActions : List (Action Nat) :=
  [.register 0 .value, .install [(1, .singleton [0] none), (2, .singleton [0, 1] none), (3, .fn [1, 2])], .resolve 3 4,
    .resolve 2 3, .resolve 3 4]

-- Every argument of a constructor has a factory.
def Closed (c : Container κ) : Prop :=
  ∀ key factory, c.factories key = some factory → ∀ arg ∈ factory.args, c.factories arg ≠ none

-- What Resolve finds and leaves where it returns.
structure Ready (rank : κ → Nat) (c : Container κ) : Prop where
  acyclic : Acyclic rank c
  closed : Closed c

theorem keep_ready (rank : κ → Nat) (c : Container κ) (key : κ) (keys : List κ) (object : Obj κ) (ready : Ready rank c)
    (present : c.factories key ≠ none) (below : ∀ arg ∈ keys, rank arg < rank key ∧ c.factories arg ≠ none) :
    Ready rank (c.keep key keys object) ∧ ∀ other, (c.keep key keys object).factories other = none ↔ c.factories other = none := by
  have held : ∀ other, (c.keep key keys object).factories other = none ↔ c.factories other = none := by
    intro other
    by_cases same : other = key
    · rw [same, keep_self]
      exact iff_of_false (by simp) present
    · rw [keep_apart c key other keys object same]
  have args : ∀ other factory, (c.keep key keys object).factories other = some factory →
      (other = key ∧ factory.args = keys) ∨ c.factories other = some factory := by
    intro other factory here
    by_cases same : other = key
    · rw [same, keep_self] at here
      cases here
      exact .inl ⟨same, rfl⟩
    · exact .inr ((keep_apart c key other keys object same).symm.trans here)
  refine ⟨⟨fun other factory here arg member => ?_, fun other factory here arg member absent => ?_⟩, held⟩
  · rcases args other factory here with new | before
    · rw [new.2] at member
      rw [new.1]
      exact (below arg member).1
    · exact ready.acyclic other factory before arg member
  · rcases args other factory here with new | before
    · rw [new.2] at member
      exact (below arg member).2 ((held arg).mp absent)
    · exact ready.closed other factory before arg member ((held arg).mp absent)

theorem resolve_fn (depth : Nat) (c d : Container κ) (key : κ) (keys : List κ) (args : List (Obj κ))
    (factory : c.factories key = some (.fn keys)) (given : resolveAll (resolve depth) c keys = some (args, d)) :
    resolve (depth + 1) c key = some (d.construct key args) := by
  simp only [resolve, factory, given, Option.map_some]

theorem resolve_singleton (depth : Nat) (c d : Container κ) (key : κ) (keys : List κ) (args : List (Obj κ))
    (factory : c.factories key = some (.singleton keys none)) (given : resolveAll (resolve depth) c keys = some (args, d)) :
    resolve (depth + 1) c key =
      some (.made d.built.length, (d.construct key args).2.keep key keys (.made d.built.length)) := by
  simp only [resolve, factory, given, Option.map_some, Container.construct]

def Returns (rank : κ → Nat) (depth : Nat) : Prop :=
  ∀ (c : Container κ) (key : κ), Ready rank c → rank key < depth → c.factories key ≠ none →
    ∃ object d, resolve depth c key = some (object, d) ∧ Ready rank d ∧ ∀ other, d.factories other = none ↔ c.factories other = none

theorem resolve_all_returns (rank : κ → Nat) (depth : Nat) (one : Returns rank depth) (keys : List κ) :
    ∀ c : Container κ, Ready rank c → (∀ key ∈ keys, rank key < depth ∧ c.factories key ≠ none) →
      ∃ objects d, resolveAll (resolve depth) c keys = some (objects, d) ∧ Ready rank d ∧
        ∀ other, d.factories other = none ↔ c.factories other = none := by
  induction keys with
  | nil => exact fun c ready _ => ⟨[], c, rfl, ready, fun _ => Iff.rfl⟩
  | cons key rest ih =>
      intro c ready below
      obtain ⟨low, present⟩ := below key List.mem_cons_self
      obtain ⟨object, middle, first, still, held⟩ := one c key ready low present
      obtain ⟨others, d, remaining, after, kept⟩ := ih middle still fun other member =>
        ⟨(below other (List.mem_cons_of_mem key member)).1,
          fun absent => (below other (List.mem_cons_of_mem key member)).2 ((held other).mp absent)⟩
      exact ⟨object :: others, d, by rw [resolveAll, first, Option.bind_some, remaining, Option.map_some], after,
        fun other => (kept other).trans (held other)⟩

-- A resolver that knows every argument's type returns, with as many calls inside one another as
-- the types are deep.
theorem resolve_returns (rank : κ → Nat) (depth : Nat) : Returns rank depth := by
  induction depth with
  | zero =>
      intro c key _ low
      omega
  | succ depth ih =>
      intro c key ready low present
      cases factory : c.factories key with
      | none => exact absurd factory present
      | some held =>
          have given := resolve_all_returns rank depth ih held.args c ready fun arg member =>
            ⟨by have := ready.acyclic key held factory arg member; omega, ready.closed key held factory arg member⟩
          cases held with
          | value => exact ⟨.value key, c, by simp only [resolve, factory], ready, fun _ => Iff.rfl⟩
          | fn keys =>
              obtain ⟨args, d, resolved, after, kept⟩ := given
              exact ⟨_, _, resolve_fn depth c d key keys args factory resolved, ⟨after.acyclic, after.closed⟩, kept⟩
          | singleton keys value =>
              cases value with
              | some object => exact ⟨object, c, by simp only [resolve, factory], ready, fun _ => Iff.rfl⟩
              | none =>
                  obtain ⟨args, d, resolved, after, kept⟩ := given
                  obtain ⟨last, more⟩ := keep_ready rank (d.construct key args).2 key keys (.made d.built.length)
                    ⟨after.acyclic, after.closed⟩ (fun absent => present ((kept key).mp absent))
                    fun arg member => ⟨ready.acyclic key _ factory arg member,
                      fun absent => ready.closed key _ factory arg member ((kept arg).mp absent)⟩
                  exact ⟨_, _, resolve_singleton depth c d key keys args factory resolved, last,
                    fun other => (more other).trans (kept other)⟩

theorem install_returns (other : List (κ × Factory κ)) :
    ∀ c : Container κ, (∀ pair ∈ other, c.factories pair.1 = none) → (other.map Prod.fst).Nodup →
      ∃ d, install c other = some d ∧
        (∀ key, d.factories key = none ↔ c.factories key = none ∧ key ∉ other.map Prod.fst) ∧
        ∀ key factory, d.factories key = some factory → c.factories key = some factory ∨ (key, factory) ∈ other := by
  induction other with
  | nil => exact fun c _ _ => ⟨c, rfl, by simp, fun _ _ here => .inl here⟩
  | cons pair rest ih =>
      intro c absent distinct
      obtain ⟨fresh, apart⟩ := List.nodup_cons.mp distinct
      have first : registerInternal c pair.1 pair.2 =
          some { c with factories := Function.update c.factories pair.1 (some pair.2) } :=
        if_pos (absent pair List.mem_cons_self)
      obtain ⟨d, remaining, domain, found⟩ := ih { c with factories := Function.update c.factories pair.1 (some pair.2) }
        (by
          intro one member
          have other : one.1 ≠ pair.1 := fun same => fresh (same ▸ List.mem_map_of_mem member)
          exact (Function.update_of_ne other _ _).trans (absent one (List.mem_cons_of_mem pair member)))
        apart
      refine ⟨d, by rw [install, first, Option.bind_some, remaining], fun key => ?_, fun key factory here => ?_⟩
      · rw [domain key]
        by_cases same : key = pair.1
        · subst same
          simp
        · simp [same]
      · rcases found key factory here with before | later
        · by_cases same : key = pair.1
          · subst same
            cases (Function.update_self pair.1 (some pair.2) c.factories).symm.trans before
            exact .inr List.mem_cons_self
          · exact .inl ((Function.update_of_ne same _ _).symm.trans before)
        · exact .inr (List.mem_cons_of_mem pair later)

end Keys

-- What an object is, and what it holds at most: what its constructor was given.
def IsA (c : Container κ) (key : κ) : Obj κ → Prop
  | .value held => held = key
  | .made n => ∃ given, c.built[n]? = some ⟨key, given⟩

def Held (c : Container κ) (object arg : Obj κ) : Prop :=
  ∃ n call, object = .made n ∧ c.built[n]? = some call ∧ arg ∈ call.args

theorem is_a_unique (c : Container κ) (first second : κ) (object : Obj κ) (one : IsA c first object) (two : IsA c second object) :
    first = second := by
  cases object with
  | value held => exact Eq.trans (Eq.symm one) two
  | made n =>
      obtain ⟨given, call⟩ := one
      obtain ⟨other, same⟩ := two
      cases call.symm.trans same
      rfl

theorem extends_is_a (c d : Container κ) (ext : Extends c d) (key : κ) (object : Obj κ) (is : IsA c key object) :
    IsA d key object := by
  cases object with
  | value held => exact is
  | made n =>
      obtain ⟨given, call⟩ := is
      exact ⟨given, extends_built c d ext n _ call⟩

theorem provides_is_a (c : Container κ) (sharing : Sharing c) (n : Nat) (key : κ) (object : Obj κ)
    (provides : Provides c n key object) : IsA c key object := by
  unfold Provides at provides
  cases factory : c.factories key with
  | none =>
      rw [factory] at provides
      cases provides
  | some held =>
      rw [factory] at provides
      cases held with
      | value =>
          rw [provides]
          exact rfl
      | fn args =>
          obtain ⟨m, given, made, _, call⟩ := provides
          rw [made]
          exact ⟨given, call⟩
      | singleton args value =>
          obtain ⟨m, made, _, known⟩ := provides
          subst known made
          obtain ⟨number, given, same, call⟩ := sharing.made key args _ factory
          cases same
          exact ⟨given, call⟩

-- What an object holds is of a type below its own.
theorem held_below (rank : κ → Nat) (c : Container κ) (acyclic : Acyclic rank c) (sharing : Sharing c) (key : κ)
    (object arg : Obj κ) (is : IsA c key object) (held : Held c object arg) : ∃ needed, rank needed < rank key ∧ IsA c needed arg := by
  obtain ⟨n, call, made, built, member⟩ := held
  subst made
  obtain ⟨given, here⟩ := is
  cases built.symm.trans here
  obtain ⟨factory, found, provided⟩ := sharing.given n _ here
  obtain ⟨i, within, same⟩ := List.getElem_of_mem member
  have there : i < factory.args.length := by
    rw [provided.length_eq]
    exact within
  have provides := provided.get there within
  refine ⟨factory.args[i], acyclic key factory found _ (List.getElem_mem there), ?_⟩
  rw [← same]
  exact provides_is_a c sharing n _ _ provides

theorem reach_below (rank : κ → Nat) (c : Container κ) (acyclic : Acyclic rank c) (sharing : Sharing c) (key : κ)
    (root object : Obj κ) (is : IsA c key root) (reach : Relation.ReflTransGen (Held c) root object) :
    ∃ needed, rank needed ≤ rank key ∧ IsA c needed object := by
  induction reach with
  | refl => exact ⟨key, Nat.le_refl _, is⟩
  | tail _ held ih =>
      obtain ⟨middle, low, is_middle⟩ := ih
      obtain ⟨needed, lower, is_needed⟩ := held_below rank c acyclic sharing middle _ _ is_middle held
      exact ⟨needed, by omega, is_needed⟩

end RadeonPanel.Dipper

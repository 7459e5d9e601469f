import Mathlib.Data.List.Infix

set_option autoImplicit false

namespace PathStore

-- What stands at a path: a node that longer paths go through, or a value.
inductive Node (ν : Type) where
  | inner
  | value (v : ν)
deriving DecidableEq, Repr

-- A tree, as what stands at each path in it.
abbrev Store (κ ν : Type) := List κ → Option (Node ν)

variable {κ ν : Type}

def below (s : Store κ ν) (key : κ) : Store κ ν := fun path => s (key :: path)

-- A value stands before the end of the path.
def Blocked (s : Store κ ν) (path : List κ) : Prop :=
  ∃ reached v, reached <+: path ∧ reached ≠ path ∧ s reached = some (.value v)

theorem never_blocked_nil (s : Store κ ν) : ¬ Blocked s [] := by
  rintro ⟨reached, v, before, proper, _⟩
  exact proper (List.prefix_nil.mp before)

theorem blocked_cons (s : Store κ ν) (key : κ) (path : List κ) :
    Blocked s (key :: path) ↔ (∃ v, s [] = some (.value v)) ∨ Blocked (below s key) path := by
  constructor
  · rintro ⟨reached, v, before, proper, stands⟩
    cases reached with
    | nil => exact Or.inl ⟨v, stands⟩
    | cons first rest =>
        obtain ⟨rfl, inside⟩ := List.cons_prefix_cons.mp before
        exact Or.inr ⟨rest, v, inside, fun same => proper (by rw [same]), stands⟩
  · rintro (⟨v, stands⟩ | ⟨reached, v, before, proper, stands⟩)
    · exact ⟨[], v, List.nil_prefix, (List.cons_ne_nil key path).symm, stands⟩
    · exact ⟨key :: reached, v, List.cons_prefix_cons.mpr ⟨rfl, before⟩, fun same => proper (List.cons.inj same).2, stands⟩

section Writes
variable [DecidableEq κ]

-- The nodes that are missing on the way to the path, and at its end.
def touch (path : List κ) (s : Store κ ν) : Store κ ν :=
  fun q => (s q).or (if q <+: path then some .inner else none)

def put (path : List κ) (v : ν) (s : Store κ ν) : Store κ ν := fun q =>
  if q = path then some (.value v)
  else if path <+: q then none
  else if q <+: path then some .inner
  else s q

theorem touch_cons_nil (key : κ) (path : List κ) (s : Store κ ν) : touch (key :: path) s [] = (s []).or (some .inner) := by
  rw [touch, if_pos List.nil_prefix]

theorem touch_cons (key : κ) (path : List κ) (s : Store κ ν) (k : κ) (q : List κ) :
    touch (key :: path) s (k :: q) = if k = key then touch path (below s key) q else s (k :: q) := by
  by_cases same : k = key
  · subst same
    simp only [touch, below, List.cons_prefix_cons, true_and, if_true]
  · simp [touch, List.cons_prefix_cons, same]

theorem put_nil (v : ν) (s : Store κ ν) (q : List κ) : put [] v s q = if q = [] then some (.value v) else none := by
  by_cases root : q = [] <;> simp [put, root]

theorem put_cons_nil (key : κ) (path : List κ) (v : ν) (s : Store κ ν) : put (key :: path) v s [] = some .inner := by
  simp [put]

theorem put_cons (key : κ) (path : List κ) (v : ν) (s : Store κ ν) (k : κ) (q : List κ) :
    put (key :: path) v s (k :: q) = if k = key then put path v (below s key) q else s (k :: q) := by
  by_cases same : k = key
  · subst same
    simp only [put, below, List.cons_prefix_cons, List.cons.injEq, true_and, if_true]
  · simp [put, List.cons_prefix_cons, same, Ne.symm same]

-- A root that is made before a write makes no difference to it.
theorem blocked_rooted (path : List κ) (s : Store κ ν) : Blocked (touch [] s) path ↔ Blocked s path := by
  have stands (q : List κ) (v : ν) : touch [] s q = some (.value v) ↔ s q = some (.value v) := by
    cases known : s q with
    | none =>
        simp only [touch, known, Option.none_or]
        split <;> simp
    | some node => simp [touch, known]
  simp only [Blocked, stands]

theorem touch_rooted (path : List κ) (s : Store κ ν) : touch path (touch [] s) = touch path s := by
  funext q
  by_cases root : q = []
  · subst root
    cases known : s [] <;> simp [touch, known]
  · simp [touch, List.prefix_nil, root]

theorem put_rooted (path : List κ) (v : ν) (s : Store κ ν) : put path v (touch [] s) = put path v s := by
  funext q
  by_cases root : q = []
  · subst root
    by_cases here : path = []
    · simp [put, here]
    · simp [put, here, Ne.symm here]
  · simp [put, touch, List.prefix_nil, root]

-- A write of a value, or one that has none to write.
structure Write (κ ν : Type) where
  path : List κ
  written : Option ν

def Succeeds (s : Store κ ν) (w : Write κ ν) : Prop := ¬ Blocked s w.path ∧ w.written.isSome

open Classical in
noncomputable def write (s : Store κ ν) (w : Write κ ν) : Store κ ν :=
  if Blocked s w.path then s
  else match w.written with
    | some v => put w.path v s
    | none => touch w.path s

theorem write_blocked (s : Store κ ν) (w : Write κ ν) (blocked : Blocked s w.path) : write s w = s := if_pos blocked

theorem write_put (s : Store κ ν) (path : List κ) (v : ν) (free : ¬ Blocked s path) : write s ⟨path, some v⟩ = put path v s :=
  if_neg free

theorem write_touch (s : Store κ ν) (path : List κ) (free : ¬ Blocked s path) : write s ⟨path, none⟩ = touch path s :=
  if_neg free

theorem write_cons_nil (s : Store κ ν) (key : κ) (path : List κ) (written : Option ν) (free : ¬ Blocked s (key :: path))
    (root : s [] = some .inner) : write s ⟨key :: path, written⟩ [] = some .inner := by
  cases written with
  | none => rw [write_touch s _ free, touch_cons_nil, root, Option.some_or]
  | some v => rw [write_put s _ v free, put_cons_nil]

theorem write_cons (s : Store κ ν) (key : κ) (path : List κ) (written : Option ν) (free : ¬ Blocked s (key :: path)) (k : κ)
    (q : List κ) :
    write s ⟨key :: path, written⟩ (k :: q) = if k = key then write (below s key) ⟨path, written⟩ q else s (k :: q) := by
  have inside : ¬ Blocked (below s key) path := fun blocked => free ((blocked_cons s key path).mpr (Or.inr blocked))
  cases written with
  | none => rw [write_touch s _ free, write_touch _ _ inside, touch_cons]
  | some v => rw [write_put s _ v free, write_put _ _ v inside, put_cons]

theorem write_rooted (s : Store κ ν) (path : List κ) (written : Option ν) (free : ¬ Blocked s path) :
    write (touch [] s) ⟨path, written⟩ = write s ⟨path, written⟩ := by
  have rooted : ¬ Blocked (touch [] s) path := fun blocked => free ((blocked_rooted path s).mp blocked)
  cases written with
  | none => rw [write_touch s path free, write_touch _ path rooted, touch_rooted]
  | some v => rw [write_put s path v free, write_put _ path v rooted, put_rooted]

theorem write_kept (s : Store κ ν) (w : Write κ ν) (path : List κ) (v : ν) (stands : s path = some (.value v))
    (apart : Succeeds s w → ¬ w.path <+: path) : write s w path = some (.value v) := by
  obtain ⟨target, written⟩ := w
  by_cases blocked : Blocked s target
  · rw [write_blocked s ⟨target, written⟩ blocked, stands]
  cases written with
  | none => rw [write_touch s target blocked, touch, stands, Option.some_or]
  | some other =>
      have outside := apart ⟨blocked, rfl⟩
      -- The path would go through the value that stands there.
      have beside : ¬ path <+: target := by
        intro inside
        by_cases same : path = target
        · exact outside (same ▸ List.prefix_rfl)
        · exact blocked ⟨path, v, inside, same, stands⟩
      have differs : path ≠ target := fun same => beside (same ▸ List.prefix_rfl)
      rw [write_put s target other blocked, put, if_neg differs, if_neg outside, if_neg beside, stands]

-- No write of the sequence succeeds at the path or before its end.
def Unreplaced (path : List κ) : Store κ ν → List (Write κ ν) → Prop
  | _, [] => True
  | s, w :: rest => (Succeeds s w → ¬ w.path <+: path) ∧ Unreplaced path (write s w) rest

theorem writes_kept (path : List κ) (v : ν) (s : Store κ ν) (writes : List (Write κ ν)) (stands : s path = some (.value v))
    (apart : Unreplaced path s writes) : writes.foldl write s path = some (.value v) := by
  induction writes generalizing s with
  | nil => exact stands
  | cons w rest ih => exact ih (write s w) (write_kept s w path v stands apart.1) apart.2

theorem last_write_stands (s : Store κ ν) (path : List κ) (v : ν) (writes : List (Write κ ν)) (free : ¬ Blocked s path)
    (apart : Unreplaced path (write s ⟨path, some v⟩) writes) :
    (⟨path, some v⟩ :: writes).foldl write s path = some (.value v) := by
  refine writes_kept path v _ writes ?_ apart
  rw [write_put s path v free, put, if_pos rfl]

end Writes

end PathStore

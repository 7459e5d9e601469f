import Mathlib.Data.List.Sort

set_option autoImplicit false

namespace OrderedSets

variable {α : Type} [LinearOrder α]

section Lists
variable (v w : α) (xs : List α)

-- The place before the first larger value, or at the end.
def place : Nat := xs.findIdx fun x => decide (v < x)

def inserted : List α := xs.take (place v xs) ++ v :: xs.drop (place v xs)

theorem place_le : place v xs ≤ xs.length := List.findIdx_le_length

theorem inserted_cons (x : α) : inserted v (x :: xs) = if v < x then v :: x :: xs else x :: inserted v xs := by
  by_cases less : v < x
  · simp [inserted, place, List.findIdx_cons, less]
  · simp [inserted, place, List.findIdx_cons, less]

theorem inserted_at : (inserted v xs)[place v xs]? = some v := by
  have length : (xs.take (place v xs)).length = place v xs := by
    rw [List.length_take]
    exact Nat.min_eq_left (place_le v xs)
  rw [inserted, List.getElem?_append_right (Nat.le_of_eq length), length, Nat.sub_self, List.getElem?_cons_zero]

theorem mem_inserted : w ∈ inserted v xs ↔ w = v ∨ w ∈ xs := by
  have whole : w ∈ xs ↔ w ∈ xs.take (place v xs) ∨ w ∈ xs.drop (place v xs) := by
    rw [← List.mem_append, List.take_append_drop]
  rw [inserted, List.mem_append, List.mem_cons, whole]
  exact or_left_comm

theorem inserted_increasing (increasing : xs.Pairwise (· < ·)) (fresh : v ∉ xs) : (inserted v xs).Pairwise (· < ·) := by
  induction xs with
  | nil => exact List.pairwise_singleton _ v
  | cons x xs ih =>
      obtain ⟨below, later⟩ := List.pairwise_cons.mp increasing
      obtain ⟨different, absent⟩ := not_or.mp (mt List.mem_cons.mpr fresh)
      rw [inserted_cons]
      by_cases less : v < x
      · rw [if_pos less, List.pairwise_cons]
        refine ⟨?_, increasing⟩
        intro y member
        rcases List.mem_cons.mp member with rfl | behind
        · exact less
        · exact less.trans (below y behind)
      · rw [if_neg less, List.pairwise_cons]
        refine ⟨?_, ih later absent⟩
        intro y member
        rcases (mem_inserted v y xs).mp member with rfl | behind
        · exact lt_of_le_of_ne (not_lt.mp less) (Ne.symm different)
        · exact below y behind

end Lists

-- A set as its members in order.
structure OrderedSet (α : Type) [LinearOrder α] where
  elements : List α
  increasing : elements.Pairwise (· < ·)
deriving DecidableEq

namespace OrderedSet

instance : Membership α (OrderedSet α) := ⟨fun s v => v ∈ s.elements⟩

instance (v : α) (s : OrderedSet α) : Decidable (v ∈ s) := inferInstanceAs (Decidable (v ∈ s.elements))

def empty : OrderedSet α := ⟨[], List.Pairwise.nil⟩

def insert (v : α) (s : OrderedSet α) : OrderedSet α :=
  if fresh : v ∈ s then s else ⟨inserted v s.elements, inserted_increasing v s.elements s.increasing fresh⟩

theorem mem_elements {v : α} {s : OrderedSet α} : v ∈ s ↔ v ∈ s.elements := Iff.rfl

theorem not_mem_empty (v : α) : v ∉ (empty : OrderedSet α) := List.not_mem_nil

theorem mem_insert {v w : α} {s : OrderedSet α} : w ∈ s.insert v ↔ w = v ∨ w ∈ s := by
  rw [insert]
  split
  · next present => exact ⟨.inr, fun either => either.elim (fun same => same ▸ present) id⟩
  · exact mem_inserted v w s.elements

theorem same_elements {xs ys : List α} (left : xs.Pairwise (· < ·)) (right : ys.Pairwise (· < ·))
    (same : ∀ v, v ∈ xs ↔ v ∈ ys) : xs = ys := List.Pairwise.eq_of_mem_iff left right same

theorem same_members {s t : OrderedSet α} (same : ∀ v, v ∈ s ↔ v ∈ t) : s = t := by
  obtain ⟨xs, left⟩ := s
  obtain ⟨ys, right⟩ := t
  obtain rfl : xs = ys := same_elements left right same
  rfl

end OrderedSet

-- An increasing list that follows a set: what the set has and the list has not is still to
-- be inserted, and what the list has and the set has not is still to be filled in behind.
structure Follows (shown remaining pending : List α) (unique : OrderedSet α) : Prop where
  increasing : (shown ++ remaining).Pairwise (· < ·)
  distinct : pending.Nodup
  fresh : ∀ v ∈ pending, v ∉ shown ++ remaining
  members : ∀ v, v ∈ unique ↔ v ∈ shown ∨ v ∈ pending

section Following
variable {shown remaining pending : List α} {unique : OrderedSet α} {v : α}

theorem follows_empty (values : OrderedSet α) : Follows [] values.elements [] OrderedSet.empty where
  increasing := values.increasing
  distinct := List.nodup_nil
  fresh := by
    intro v member
    cases member
  members := by
    intro v
    simp [OrderedSet.not_mem_empty]

theorem follows_shown (follows : Follows shown remaining pending unique) : shown.Pairwise (· < ·) :=
  (List.pairwise_append.mp follows.increasing).1

theorem follows_perm {later : List α} (follows : Follows shown remaining pending unique) (same : later.Perm pending) :
    Follows shown remaining later unique where
  increasing := follows.increasing
  distinct := same.nodup_iff.mpr follows.distinct
  fresh := fun v member => follows.fresh v (same.mem_iff.mp member)
  members := fun v => by rw [follows.members, same.mem_iff]

theorem follows_logged (follows : Follows shown remaining pending unique) (absent : v ∉ unique) (apart : v ∉ remaining) :
    Follows shown remaining (v :: pending) (unique.insert v) := by
  obtain ⟨hidden, unasked⟩ := not_or.mp (mt (follows.members v).mpr absent)
  constructor
  · exact follows.increasing
  · exact List.nodup_cons.mpr ⟨unasked, follows.distinct⟩
  · intro w member
    rcases List.mem_cons.mp member with rfl | before
    · rw [List.mem_append]
      exact not_or.mpr ⟨hidden, apart⟩
    · exact follows.fresh w before
  · intro w
    rw [OrderedSet.mem_insert, follows.members, List.mem_cons]
    exact or_left_comm

theorem follows_inserted (follows : Follows shown [] (v :: pending) unique) : Follows (inserted v shown) [] pending unique := by
  obtain ⟨unasked, distinct⟩ := List.nodup_cons.mp follows.distinct
  have increasing := follows.increasing
  have absent := follows.fresh v List.mem_cons_self
  rw [List.append_nil] at increasing absent
  constructor
  · rw [List.append_nil]
    exact inserted_increasing v shown increasing absent
  · exact distinct
  · intro w member
    have hidden := follows.fresh w (List.mem_cons_of_mem v member)
    rw [List.append_nil] at hidden
    rw [List.append_nil, mem_inserted]
    exact not_or.mpr ⟨fun same => unasked (same ▸ member), hidden⟩
  · intro w
    rw [follows.members, mem_inserted, List.mem_cons, or_left_comm, or_assoc]

theorem follows_filled (follows : Follows shown (v :: remaining) pending unique) :
    Follows (shown ++ [v]) remaining pending (unique.insert v) := by
  have same : shown ++ [v] ++ remaining = shown ++ v :: remaining := List.append_cons shown v remaining |>.symm
  constructor
  · rw [same]
    exact follows.increasing
  · exact follows.distinct
  · intro w member
    rw [same]
    exact follows.fresh w member
  · intro w
    rw [OrderedSet.mem_insert, follows.members, List.mem_append, List.mem_singleton, ← or_assoc, @or_comm (w = v)]

-- A list with nothing left to do has exactly the members.
theorem follows_settled (follows : Follows shown [] [] unique) : shown = unique.elements := by
  refine OrderedSet.same_elements (follows_shown follows) unique.increasing ?_
  intro v
  rw [← OrderedSet.mem_elements, follows.members]
  simp

end Following

end OrderedSets

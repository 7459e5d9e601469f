import Mathlib.Data.List.TakeWhile

set_option autoImplicit false

namespace Trimming

variable {α : Type} (p : α → Bool)

-- A list that does not begin with one of the elements that are cut off.
def Begins (l : List α) : Prop := ∀ a ∈ l.head?, p a = false

def trim (l : List α) : List α := ((l.dropWhile p).reverse.dropWhile p).reverse

variable {p}

theorem begins_take (l : List α) (begins : Begins p l) : l.takeWhile p = [] := by
  cases l with
  | nil => rfl
  | cons a rest =>
      have free : p a = false := begins a rfl
      rw [List.takeWhile_cons, free]
      rfl

theorem begins_drop (l : List α) (begins : Begins p l) : l.dropWhile p = l := by
  cases l with
  | nil => rfl
  | cons a rest =>
      have free : p a = false := begins a rfl
      rw [List.dropWhile_cons, free]
      rfl

theorem drop_begins (l : List α) : Begins p (l.dropWhile p) := by
  intro a first
  have free := List.head?_dropWhile_not p l
  rw [Option.mem_def.mp first] at free
  simpa using free

theorem take_front (front rest : List α) (each : ∀ a ∈ front, p a = true) (begins : Begins p rest) :
    (front ++ rest).takeWhile p = front := by
  rw [List.takeWhile_append_of_pos each, begins_take rest begins, List.append_nil]

theorem drop_front (front rest : List α) (each : ∀ a ∈ front, p a = true) (begins : Begins p rest) :
    (front ++ rest).dropWhile p = rest := by
  rw [List.dropWhile_append_of_pos each, begins_drop rest begins]

theorem take_each (l : List α) : ∀ a ∈ l.takeWhile p, p a = true := fun _ member => List.mem_takeWhile_imp member

-- What `trim` leaves is the middle of the list, between two ends that are cut off whole.
structure Around (p : α → Bool) (l text : List α) : Prop where
  shape : ∃ before after, l = before ++ text ++ after ∧ (∀ a ∈ before, p a = true) ∧ ∀ a ∈ after, p a = true
  begins : Begins p text
  finishes : Begins p text.reverse

theorem trim_around (l : List α) : Around p l (trim p l) := by
  have front := List.takeWhile_append_dropWhile (p := p) (l := l)
  have back := congrArg List.reverse (List.takeWhile_append_dropWhile (p := p) (l := (l.dropWhile p).reverse))
  rw [List.reverse_append, List.reverse_reverse] at back
  refine ⟨⟨l.takeWhile p, ((l.dropWhile p).reverse.takeWhile p).reverse, ?_, take_each l, ?_⟩, ?_, ?_⟩
  · rw [trim, List.append_assoc, back, front]
  · exact fun a member => take_each _ a (List.mem_reverse.mp member)
  · intro a first
    apply drop_begins l a
    rw [← back, List.head?_append]
    exact Option.or_eq_some_iff.mpr (.inl first)
  · rw [trim, List.reverse_reverse]
    exact drop_begins _

theorem trim_iff (l text : List α) : trim p l = text ↔ Around p l text := by
  constructor
  · rintro rfl
    exact trim_around l
  · rintro ⟨⟨before, after, rfl, ends, more⟩, begins, finishes⟩
    have tail : ∀ a ∈ after.reverse, p a = true := fun a member => more a (List.mem_reverse.mp member)
    cases text with
    | nil =>
        have nothing : (before ++ [] ++ after).dropWhile p = [] := by
          rw [List.append_nil, List.dropWhile_eq_nil_iff]
          exact fun a member => (List.mem_append.mp member).elim (ends a) (more a)
        rw [trim, nothing]
        rfl
    | cons c rest =>
        have middle : (before ++ c :: rest ++ after).dropWhile p = c :: rest ++ after := by
          rw [List.append_assoc]
          exact drop_front before _ ends begins
        rw [trim, middle, List.reverse_append, drop_front _ _ tail finishes, List.reverse_reverse]

theorem trim_nil (l : List α) : trim p l = [] ↔ ∀ a ∈ l, p a = true := by
  rw [trim_iff]
  constructor
  · rintro ⟨⟨before, after, rfl, ends, more⟩, _, _⟩ a member
    rw [List.append_nil] at member
    exact (List.mem_append.mp member).elim (ends a) (more a)
  · intro each
    exact ⟨⟨l, [], by simp, each, by simp⟩, by simp [Begins], by simp [Begins]⟩

end Trimming

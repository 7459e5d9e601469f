import Mathlib.Computability.Language

set_option autoImplicit false

namespace Globs

variable {α : Type}

inductive Item (α : Type) where
  | star
  | one (accepts : α → Bool)

def Item.language : Item α → Language α
  | .star => ⊤
  | .one accepts => {word | ∃ c, accepts c = true ∧ word = [c]}

def language : List (Item α) → Language α
  | [] => 1
  | item :: rest => item.language * language rest

@[simp] theorem mem_language_nil (text : List α) : text ∈ language [] ↔ text = [] := Iff.rfl

theorem mem_language_star (text : List α) (rest : List (Item α)) :
    text ∈ language (.star :: rest) ↔ ∃ used left, text = used ++ left ∧ left ∈ language rest := by
  constructor
  · rintro ⟨used, -, left, inside, rfl⟩
    exact ⟨used, left, rfl, inside⟩
  · rintro ⟨used, left, rfl, inside⟩
    exact ⟨used, Set.mem_univ used, left, inside, rfl⟩

theorem mem_language_one (accepts : α → Bool) (text : List α) (rest : List (Item α)) :
    text ∈ language (.one accepts :: rest) ↔ ∃ c tail, text = c :: tail ∧ accepts c = true ∧ tail ∈ language rest := by
  constructor
  · rintro ⟨_, ⟨c, accepted, rfl⟩, tail, inside, rfl⟩
    exact ⟨c, tail, rfl, accepted, inside⟩
  · rintro ⟨c, tail, rfl, accepted, inside⟩
    exact ⟨[c], ⟨c, accepted, rfl⟩, tail, inside, rfl⟩

@[simp] theorem cons_mem_language_one (accepts : α → Bool) (c : α) (tail : List α) (rest : List (Item α)) :
    c :: tail ∈ language (.one accepts :: rest) ↔ accepts c = true ∧ tail ∈ language rest := by
  simp [mem_language_one]

@[simp] theorem nil_mem_language_one (accepts : α → Bool) (rest : List (Item α)) :
    [] ∉ language (.one accepts :: rest) := by
  simp [mem_language_one]

-- A star takes nothing, or one more character.
theorem cons_mem_language_star (c : α) (tail : List α) (rest : List (Item α)) :
    c :: tail ∈ language (.star :: rest) ↔ c :: tail ∈ language rest ∨ tail ∈ language (.star :: rest) := by
  rw [mem_language_star, mem_language_star]
  constructor
  · rintro ⟨used, left, text, inside⟩
    cases used with
    | nil => exact .inl (text ▸ inside)
    | cons head used =>
        obtain ⟨rfl, rfl⟩ := List.cons.inj text
        exact .inr ⟨used, left, rfl, inside⟩
  · rintro (inside | ⟨used, left, rfl, inside⟩)
    · exact ⟨[], c :: tail, rfl, inside⟩
    · exact ⟨c :: used, left, rfl, inside⟩

theorem append_mem_language_star (used text : List α) (rest : List (Item α))
    (inside : text ∈ language (.star :: rest)) : used ++ text ∈ language (.star :: rest) := by
  induction used with
  | nil => exact inside
  | cons c used ih => exact (cons_mem_language_star c (used ++ text) rest).mpr (.inr ih)

theorem nil_mem_language_iff (pattern : List (Item α)) : [] ∈ language pattern ↔ ∀ item ∈ pattern, item = .star := by
  induction pattern with
  | nil => simp
  | cons item rest ih =>
      cases item with
      | star =>
          rw [mem_language_star]
          simp [ih]
      | one accepts => simp

-- Some characters taken by as many single items.
inductive Takes : List (Item α) → List α → Prop where
  | nil : Takes [] []
  | cons {items : List (Item α)} {used : List α} (accepts : α → Bool) (c : α) (accepted : accepts c = true)
      (later : Takes items used) : Takes (.one accepts :: items) (c :: used)

theorem Takes.concat {items : List (Item α)} {used : List α} (taken : Takes items used) (accepts : α → Bool) (c : α)
    (accepted : accepts c = true) : Takes (items ++ [.one accepts]) (used ++ [c]) := by
  induction taken with
  | nil => exact .cons accepts c accepted .nil
  | cons first head was _ ih => exact .cons first head was ih

theorem Takes.append_mem {items : List (Item α)} {used : List α} (taken : Takes items used) (pattern : List (Item α))
    (text : List α) : used ++ text ∈ language (items ++ pattern) ↔ text ∈ language pattern := by
  induction taken with
  | nil => rfl
  | cons accepts c accepted _ ih => simp [accepted, ih]

-- What single items leave of a text is the text less as many characters.
theorem Takes.suffix_of_mem {items : List (Item α)} {used : List α} (taken : Takes items used) (pattern : List (Item α))
    (text : List α) (inside : text ∈ language (items ++ pattern)) :
    ∃ before left, text = before ++ left ∧ before.length = used.length ∧ left ∈ language pattern := by
  induction taken generalizing text with
  | nil => exact ⟨[], text, rfl, rfl, inside⟩
  | cons accepts c _ _ ih =>
      obtain ⟨head, tail, rfl, -, inside⟩ := (mem_language_one ..).mp inside
      obtain ⟨before, left, rfl, same, left_in⟩ := ih tail inside
      exact ⟨head :: before, left, rfl, by simp [same], left_in⟩

-- A match that goes through single items from some place of a text ends no earlier than one from its start.
theorem Takes.left_of_mem {items : List (Item α)} {used : List α} (taken : Takes items used) (pattern : List (Item α))
    (text : List α) (inside : used ++ text ∈ language (.star :: (items ++ pattern))) :
    ∃ skipped left, text = skipped ++ left ∧ left ∈ language pattern := by
  obtain ⟨before, rest, split, inside⟩ := (mem_language_star ..).mp inside
  obtain ⟨through, left, rfl, same, left_in⟩ := taken.suffix_of_mem pattern rest inside
  rw [← List.append_assoc] at split
  have shorter : left.length ≤ text.length := by
    have lengths := congrArg List.length split
    simp only [List.length_append] at lengths
    omega
  obtain ⟨skipped, rfl⟩ : left <:+ text :=
    List.suffix_of_suffix_length_le ⟨_, split.symm⟩ (List.suffix_append used text) shorter
  exact ⟨skipped, left, rfl, left_in⟩

-- A matcher that returns to its last star only: what is left of the pattern and of the text, and where the star stood.
structure Search (α : Type) where
  pattern : List (Item α)
  text : List α
  saved : Option (List (Item α) × List α)

namespace Search

variable (s : Search α)

def backtrack : Option (Search α) :=
  match s.saved with
  | some (pattern, _ :: rest) => some ⟨pattern, rest, some (pattern, rest)⟩
  | _ => none

def step (c : α) (tail : List α) : Option (Search α) :=
  match s.pattern with
  | .star :: rest => some ⟨rest, c :: tail, some (rest, c :: tail)⟩
  | .one accepts :: rest => if accepts c then some ⟨rest, tail, s.saved⟩ else s.backtrack
  | [] => s.backtrack

-- The items since the last star are single ones and have taken the text up to here.
def Valid : Prop :=
  ∀ pattern text, s.saved = some (pattern, text) →
    ∃ items used, Takes items used ∧ pattern = items ++ s.pattern ∧ text = used ++ s.text

-- What the search has still to decide.
def Answers : Prop :=
  match s.saved with
  | none => s.text ∈ language s.pattern
  | some (pattern, text) => text ∈ language (.star :: pattern)

variable {s}

theorem backtrack_valid {t : Search α} (taken : s.backtrack = some t) : t.Valid := by
  unfold backtrack at taken
  split at taken
  · obtain rfl := Option.some.inj taken
    rintro _ _ ⟨rfl, rfl⟩
    exact ⟨[], [], .nil, rfl, rfl⟩
  · cases taken

-- Where the text cannot go on as the pattern does, nothing is lost by moving the star.
theorem backtrack_answers (valid : s.Valid) {c : α} {tail : List α} (text : s.text = c :: tail)
    (fails : s.text ∉ language s.pattern) : s.Answers ↔ ∃ t, s.backtrack = some t ∧ t.Answers := by
  cases saved : s.saved with
  | none => simp [Answers, backtrack, saved, fails]
  | some star =>
      obtain ⟨starPattern, starText⟩ := star
      obtain ⟨items, used, taken, pattern, was⟩ := valid starPattern starText saved
      have failed : starText ∉ language starPattern := by
        rw [pattern, was, taken.append_mem]
        exact fails
      cases starText with
      | nil => simp [text] at was
      | cons first rest => simp [Answers, backtrack, saved, cons_mem_language_star, failed]

theorem step_valid (valid : s.Valid) {c : α} {tail : List α} (text : s.text = c :: tail) {t : Search α}
    (taken : s.step c tail = some t) : t.Valid := by
  unfold step at taken
  split at taken
  · obtain rfl := Option.some.inj taken
    rintro _ _ ⟨rfl, rfl⟩
    exact ⟨[], [], .nil, rfl, rfl⟩
  · next accepts rest pattern =>
      split at taken
      · next accepted =>
          obtain rfl := Option.some.inj taken
          intro starPattern starText saved
          obtain ⟨items, used, single, samePattern, sameText⟩ := valid starPattern starText saved
          refine ⟨items ++ [.one accepts], used ++ [c], single.concat accepts c accepted, ?_, ?_⟩
          · simp [samePattern, pattern]
          · simp [sameText, text]
      · exact backtrack_valid taken
  · exact backtrack_valid taken

theorem star_answers (valid : s.Valid) {rest : List (Item α)} (pattern : s.pattern = .star :: rest) :
    s.Answers ↔ s.text ∈ language (.star :: rest) := by
  cases saved : s.saved with
  | none => simp [Answers, saved, pattern]
  | some star =>
      obtain ⟨items, used, taken, samePattern, sameText⟩ := valid star.1 star.2 saved
      simp only [Answers, saved, samePattern, sameText, pattern]
      constructor
      · intro inside
        obtain ⟨skipped, left, text, left_in⟩ := taken.left_of_mem (.star :: rest) s.text inside
        rw [text]
        exact append_mem_language_star skipped left rest left_in
      · intro inside
        exact (mem_language_star ..).mpr ⟨[], used ++ s.text, rfl, (taken.append_mem _ _).mpr inside⟩

-- One step leaves the answer as it is; where there is none, the answer is no.
theorem step_answers (valid : s.Valid) {c : α} {tail : List α} (text : s.text = c :: tail) :
    s.Answers ↔ ∃ t, s.step c tail = some t ∧ t.Answers := by
  cases pattern : s.pattern with
  | nil =>
      rw [backtrack_answers valid text (by simp [pattern, text])]
      simp [step, pattern]
  | cons item rest =>
      cases item with
      | star =>
          rw [star_answers valid pattern, text]
          simp [step, pattern, Answers]
      | one accepts =>
          by_cases accepted : accepts c
          · cases saved : s.saved <;> simp [step, pattern, accepted, Answers, saved, text]
          · rw [backtrack_answers valid text (by simp [pattern, text, accepted])]
            simp [step, pattern, accepted]

theorem finish_answers (valid : s.Valid) (text : s.text = []) : s.Answers ↔ ∀ item ∈ s.pattern, item = .star := by
  rw [← nil_mem_language_iff]
  cases saved : s.saved with
  | none => simp [Answers, saved, text]
  | some star =>
      obtain ⟨items, used, taken, pattern, was⟩ := valid star.1 star.2 saved
      rw [text] at was
      simp only [Answers, saved, pattern, was]
      constructor
      · intro inside
        obtain ⟨skipped, left, empty, left_in⟩ := taken.left_of_mem s.pattern [] inside
        rwa [(List.append_eq_nil_iff.mp empty.symm).2] at left_in
      · intro inside
        exact (mem_language_star ..).mpr ⟨[], used ++ [], rfl, (taken.append_mem _ _).mpr inside⟩

end Search

end Globs

import Mathlib.Data.List.TakeWhile
import RadeonPanel.Base.Globs

set_option autoImplicit false

namespace RadeonPanel.CaptureApi

open Globs

-- The characters of a string, or those from a pointer to the terminating zero.
abbrev Chars := List UInt8

def ascii (s : String) : Chars := s.toList.map Char.toUInt8

def cStr (s : Chars) : Chars := s.takeWhile (· ≠ 0)

theorem c_str_plain (s : Chars) (plain : 0 ∉ s) : cStr s = s := by
  refine List.takeWhile_eq_self_iff.mpr ?_
  intro c member
  exact decide_eq_true fun zero => plain (zero ▸ member)

namespace Wildcard

def backslash : UInt8 := 92

def openBracket : UInt8 := 91

def closeBracket : UInt8 := 93

def bang : UInt8 := 33

def hyphen : UInt8 := 45

def asterisk : UInt8 := 42

def question : UInt8 := 63

example : ascii "\\[]!-*?" = [backslash, openBracket, closeBracket, bang, hyphen, asterisk, question] := by decide

-- The language of a pattern, one token after the other. A class has at least
-- one member, and its first may be the closing bracket.
def literal (x : UInt8) : Item UInt8 := .one (· == x)

def splitClass : Chars → Option (Chars × Chars)
  | [] => none
  | first :: rest =>
      if closeBracket ∈ rest then
        some (first :: rest.takeWhile (· ≠ closeBracket), (rest.dropWhile (· ≠ closeBracket)).tail)
      else none

def ranges : Chars → List (UInt8 × UInt8)
  | low :: dash :: high :: rest =>
      if dash = hyphen then (low, high) :: ranges rest else (low, low) :: ranges (dash :: high :: rest)
  | c :: rest => (c, c) :: ranges rest
  | [] => []

def classAccepts (negate : Bool) (members : Chars) (c : UInt8) : Bool :=
  (ranges members).any (fun range => range.1 ≤ c && c ≤ range.2) != negate

def token (first : UInt8) (rest : Chars) : Item UInt8 × Chars :=
  if first = backslash then
    match rest with
    | x :: after => (literal x, after)
    | [] => (literal first, [])
  else if first = openBracket then
    let negate : Bool := rest.head? = some bang
    match splitClass (if negate then rest.tail else rest) with
    | some (members, after) => (.one (classAccepts negate members), after)
    | none => (literal first, rest)
  else if first = asterisk then (.star, rest)
  else if first = question then (.one fun _ => true, rest)
  else (literal first, rest)

theorem split_class_shorter (text members after : Chars) (split : splitClass text = some (members, after)) :
    after.length < text.length := by
  cases text with
  | nil => cases split
  | cons first rest =>
      by_cases closed : closeBracket ∈ rest
      · rw [splitClass, if_pos closed] at split
        obtain ⟨-, rfl⟩ := Prod.mk.inj (Option.some.inj split)
        have bound := (List.dropWhile_suffix (· ≠ closeBracket) (l := rest)).length_le
        simp only [List.length_tail, List.length_cons]
        omega
      · rw [splitClass, if_neg closed] at split
        cases split

theorem token_shorter (first : UInt8) (rest : Chars) : (token first rest).2.length ≤ rest.length := by
  unfold token
  split_ifs with escape opened
  · cases rest with
    | nil => simp
    | cons x after => simp
  · dsimp only
    split
    · next members after split =>
        have bound := split_class_shorter _ members after split
        split at bound
        · rw [List.length_tail] at bound
          change after.length ≤ rest.length
          omega
        · exact bound.le
    · rfl
  all_goals rfl

theorem token_asterisk (rest : Chars) : token asterisk rest = (.star, rest) := rfl

theorem token_is_star (first : UInt8) (rest : Chars) : (token first rest).1 = .star ↔ first = asterisk := by
  constructor
  · intro star
    unfold token at star
    split_ifs at star with escape opened same
    · cases rest <;> cases star
    · dsimp only at star
      split at star <;> cases star
    · exact same
    · cases star
  · rintro rfl
    rfl

def items : Chars → List (Item UInt8)
  | [] => []
  | first :: rest => (token first rest).1 :: items (token first rest).2
termination_by pattern => pattern.length
decreasing_by exact Nat.lt_succ_of_le (token_shorter first rest)

@[simp] theorem items_nil : items [] = [] := by rw [items]

theorem items_cons (first : UInt8) (rest : Chars) :
    items (first :: rest) = (token first rest).1 :: items (token first rest).2 := by rw [items]

-- Only asterisks are stars, and they stand for themselves.
theorem stars_only (pattern : Chars) :
    (∀ c ∈ pattern, decide (c = asterisk) = true) ↔ ∀ item ∈ items pattern, item = .star := by
  induction pattern with
  | nil => simp
  | cons first rest ih =>
      rw [items_cons, List.forall_mem_cons, List.forall_mem_cons, ih]
      rw [token_is_star]
      by_cases star : first = asterisk
      · simp [star, token_asterisk]
      · simp [star]

def patternLanguage (pattern : Chars) : Language UInt8 := language (items pattern)

-- From the first member of a class: its members and what follows the closing bracket.
def findClassEnd (classP : Chars) : Option (Chars × Chars) :=
  let leading := if classP.head? = some closeBracket then 1 else 0
  match (classP.drop leading).dropWhile (· ≠ closeBracket) with
  | _ :: after => some (classP.take leading ++ (classP.drop leading).takeWhile (· ≠ closeBracket), after)
  | [] => none

-- `matched` as the loop goes through the members.
def matchClass (n : UInt8) : Chars → Bool → Bool
  | q :: dash :: high :: rest, matched =>
      if dash = hyphen then matchClass n rest (if q ≤ n ∧ n ≤ high then true else matched)
      else matchClass n (dash :: high :: rest) (if n = q then true else matched)
  | q :: rest, matched => matchClass n rest (if n = q then true else matched)
  | [], matched => matched

-- `star_n` stands at `n` or before it; the two pointers are null together.
structure Cursor where
  n : Chars
  p : Chars
  star : Option (Chars × Chars)
  behind : ∀ saved ∈ star, n <:+ saved.2

namespace Cursor

variable (c : Cursor)

def backtrack : Option Cursor :=
  match c.star with
  | some (starP, _ :: starN) => some ⟨starN, starP, some (starP, starN), by simp⟩
  | _ => none

def advance {head : UInt8} {tail : Chars} (text : c.n = head :: tail) (p : Chars) : Cursor :=
  ⟨tail, p, c.star, fun saved there => (text ▸ List.suffix_cons head tail).trans (c.behind saved there)⟩

-- One round of the loop, none where it returns false.
def step {head : UInt8} {tail : Chars} (text : c.n = head :: tail) : Option Cursor :=
  match c.p with
  | [] => c.backtrack
  | first :: rest =>
      if escaped : first = backslash ∧ rest ≠ [] then
        if head ≠ rest.head escaped.2 then c.backtrack else some (c.advance text rest.tail)
      else if first = openBracket then
        let negate : Bool := rest.head? = some bang
        match findClassEnd (if negate then rest.tail else rest) with
        | none => if head ≠ openBracket then c.backtrack else some (c.advance text rest)
        | some (members, after) =>
            let matched := matchClass head members false
            if (if negate then !matched else matched) then some (c.advance text after) else c.backtrack
      else if first = asterisk then some ⟨c.n, rest, some (rest, c.n), by simp⟩
      else if first = question ∨ first = head then some (c.advance text rest)
      else c.backtrack

-- What the characters from the saved place on are, one more while no star has been met.
def room : Nat :=
  match c.star with
  | none => c.n.length + 1
  | some saved => saved.2.length

variable {c}

theorem backtrack_room {next : Cursor} (moved : c.backtrack = some next) : next.room < c.room := by
  unfold backtrack at moved
  split at moved
  · next saved =>
      obtain rfl := Option.some.inj moved
      simp [room, saved]
  · cases moved

theorem advance_room {head : UInt8} {tail : Chars} (text : c.n = head :: tail) (p : Chars) :
    (c.advance text p).room ≤ c.room := by
  cases saved : c.star <;> simp [room, advance, saved, text]

theorem star_room (rest : Chars) (behind : ∀ saved ∈ some (rest, c.n), c.n <:+ saved.2) :
    (⟨c.n, rest, some (rest, c.n), behind⟩ : Cursor).room ≤ c.room := by
  cases saved : c.star with
  | none => simp [room, saved]
  | some star =>
      have bound := (c.behind star saved).length_le
      simpa [room, saved] using bound

end Cursor

theorem split_class_cons (first : UInt8) (rest : Chars) :
    splitClass (first :: rest) =
      match rest.dropWhile (· ≠ closeBracket) with
      | _ :: after => some (first :: rest.takeWhile (· ≠ closeBracket), after)
      | [] => none := by
  have closes : rest.dropWhile (· ≠ closeBracket) = [] ↔ closeBracket ∉ rest := by
    rw [List.dropWhile_eq_nil_iff]
    constructor
    · intro none member
      simpa using none closeBracket member
    · intro absent c member
      exact decide_eq_true fun same => absent (same ▸ member)
  rw [splitClass]
  cases remains : rest.dropWhile (· ≠ closeBracket) with
  | nil => rw [if_neg (closes.mp remains)]
  | cons last after =>
      rw [if_pos (by by_contra absent; rw [closes.mpr absent] at remains; cases remains)]
      rfl

theorem find_class_end_eq (classP : Chars) : findClassEnd classP = splitClass classP := by
  cases classP with
  | nil => rfl
  | cons first rest =>
      rw [split_class_cons]
      by_cases leading : first = closeBracket <;> simp [findClassEnd, leading]

theorem single_range (q n : UInt8) : (decide (q ≤ n) && decide (n ≤ q)) = decide (n = q) := by
  rw [← Bool.decide_and, decide_eq_decide]
  exact ⟨fun ⟨low, high⟩ => UInt8.le_antisymm high low, fun same => same ▸ ⟨UInt8.le_refl n, UInt8.le_refl n⟩⟩

theorem match_class_eq (n : UInt8) (members : Chars) (matched : Bool) :
    matchClass n members matched = (matched || (ranges members).any fun range => range.1 ≤ n && n ≤ range.2) := by
  fun_induction matchClass n members matched with
  | case1 q high rest matched ih =>
      rw [ih, ranges, if_pos rfl]
      rw [List.any_cons, ← Bool.decide_and]
      by_cases inside : q ≤ n ∧ n ≤ high <;> simp [inside]
  | case2 q dash high rest matched other ih =>
      rw [ih, ranges, if_neg other, List.any_cons, single_range]
      by_cases same : n = q <;> simp [same]
  | case3 q rest matched short ih =>
      rw [ih, ranges, List.any_cons, single_range]
      · by_cases same : n = q <;> simp [same]
      · exact short
  | case4 matched => simp [ranges]

namespace Cursor

variable {c : Cursor}

-- The token that the pattern goes on with decides the branch.
theorem step_token {head : UInt8} {tail : Chars} (text : c.n = head :: tail) {first : UInt8} {rest : Chars}
    (pattern : c.p = first :: rest) :
    c.step text =
      match (token first rest).1 with
      | .star => some ⟨c.n, rest, some (rest, c.n), by simp⟩
      | .one accepts => if accepts head then some (c.advance text (token first rest).2) else c.backtrack := by
  unfold step token
  rw [pattern]
  dsimp only
  by_cases escape : first = backslash
  · cases rest with
    | nil =>
        have apart : backslash ≠ openBracket ∧ backslash ≠ asterisk ∧ backslash ≠ question := by decide
        by_cases same : head = backslash
        · simp [escape, literal, same, apart]
        · simp [escape, literal, same, Ne.symm same, apart]
    | cons x after => by_cases same : head = x <;> simp [escape, literal, same]
  · rw [dif_neg fun both => escape both.1, if_neg escape]
    by_cases opened : first = openBracket
    · rw [if_pos opened, if_pos opened, find_class_end_eq]
      cases split : splitClass (if (decide (rest.head? = some bang)) = true then rest.tail else rest) with
      | none => by_cases same : head = openBracket <;> simp [literal, opened, same]
      | some found =>
          have negated (negate inside : Bool) : (if negate then !inside else inside) = (inside != negate) := by
            cases negate <;> cases inside <;> rfl
          simp only [match_class_eq, classAccepts, Bool.false_or, negated]
          rfl
    · rw [if_neg opened, if_neg opened]
      by_cases star : first = asterisk
      · simp [star]
      · by_cases any : first = question
        · simp [any, question, asterisk]
        · by_cases same : head = first
          · simp [star, any, literal, same]
          · simp [star, any, literal, same, Ne.symm same]

-- Every round takes room away, or leaves it and goes on in the pattern.
theorem step_shrinks {head : UInt8} {tail : Chars} (text : c.n = head :: tail) {next : Cursor}
    (moved : c.step text = some next) :
    next.room < c.room ∨ next.room ≤ c.room ∧ next.p.length < c.p.length := by
  cases pattern : c.p with
  | nil =>
      rw [step, pattern] at moved
      exact .inl (backtrack_room moved)
  | cons first rest =>
      have shorter := token_shorter first rest
      rw [step_token text pattern] at moved
      split at moved
      · obtain rfl := Option.some.inj moved
        exact .inr ⟨star_room rest _, by simp⟩
      · split at moved
        · obtain rfl := Option.some.inj moved
          exact .inr ⟨advance_room text _, Nat.lt_succ_of_le shorter⟩
        · exact .inl (backtrack_room moved)

def loop (c : Cursor) : Bool :=
  match text : c.n with
  | [] => (c.p.dropWhile (· = asterisk)).isEmpty
  | head :: tail =>
      match _moved : c.step text with
      | none => false
      | some next => next.loop
termination_by (c.room, c.p.length)
decreasing_by
  rw [Prod.lex_def]
  obtain less | ⟨same, less⟩ := step_shrinks text _moved
  · exact .inl less
  · exact (Nat.lt_or_eq_of_le same).imp id fun equal => ⟨equal, less⟩

-- The cursor as a search among the tokens.
def search (c : Cursor) : Search UInt8 :=
  ⟨items c.p, c.n, c.star.map fun saved => (items saved.1, saved.2)⟩

theorem search_backtrack : c.backtrack.map search = c.search.backtrack := by
  cases saved : c.star with
  | none => simp [backtrack, Search.backtrack, search, saved]
  | some star =>
      obtain ⟨starP, starN⟩ := star
      cases starN <;> simp [backtrack, Search.backtrack, search, saved]

theorem search_step {head : UInt8} {tail : Chars} (text : c.n = head :: tail) :
    (c.step text).map search = c.search.step head tail := by
  cases pattern : c.p with
  | nil => simp [step, Search.step, pattern, search_backtrack, search]
  | cons first rest =>
      rw [step_token text pattern, Search.step]
      simp only [show c.search.pattern = _ from congrArg items pattern, items_cons]
      cases shape : (token first rest).1 with
      | star =>
          obtain rfl := (token_is_star first rest).mp shape
          simp [search, token_asterisk, text]
      | one accepts => by_cases accepted : accepts head <;> simp [accepted, search_backtrack, search, advance]

-- The loop decides what its cursor has still to decide.
theorem loop_answers (valid : c.search.Valid) : c.loop = true ↔ c.search.Answers := by
  fun_induction loop c with
  | case1 c text =>
      rw [Search.finish_answers valid text, List.isEmpty_iff, List.dropWhile_eq_nil_iff]
      exact stars_only c.p
  | case2 c head tail text stopped =>
      rw [Search.step_answers valid text, ← search_step text, stopped]
      simp
  | case3 c head tail text next moved ih =>
      have stepped := search_step text
      rw [moved] at stepped
      rw [Search.step_answers valid text, ← stepped, ih (Search.step_valid valid text stepped.symm)]
      simp

end Cursor

-- The characters of a string, and the pattern the loop starts with.
def matchesWildcard (name pattern : Chars) : Bool :=
  Cursor.loop ⟨cStr name, cStr pattern, none, by simp⟩

theorem matches_c_str (name pattern : Chars) :
    matchesWildcard name pattern = true ↔ cStr name ∈ patternLanguage (cStr pattern) := by
  rw [matchesWildcard, Cursor.loop_answers (by rintro _ _ ⟨⟩)]
  rfl

theorem matches_wildcard_iff (name pattern : Chars) (plainName : 0 ∉ name) (plainPattern : 0 ∉ pattern) :
    matchesWildcard name pattern = true ↔ name ∈ patternLanguage pattern := by
  rw [matches_c_str, c_str_plain name plainName, c_str_plain pattern plainPattern]

theorem matches_wildcard_of_class :
    matchesWildcard (ascii "a]") (ascii "*[]x]") = true ↔ ascii "a]" ∈ patternLanguage (ascii "*[]x]") :=
  matches_wildcard_iff (ascii "a]") (ascii "*[]x]") (by decide) (by decide)

end Wildcard
end RadeonPanel.CaptureApi

import RadeonPanel.Base.Argv
import Mathlib.Data.List.Forall2
import Mathlib.Data.List.TakeWhile

set_option autoImplicit false

namespace RadeonPanel.Cli

open Argv

abbrev WChar := UInt16

def WChar.nul : WChar := 0
def WChar.tab : WChar := 9
def WChar.newline : WChar := 10
def WChar.verticalTab : WChar := 11
def WChar.space : WChar := 32
def WChar.quote : WChar := 34
def WChar.backslash : WChar := 92

-- What find_first_of looks for.
def needsQuoting : List WChar := [.space, .tab, .newline, .verticalTab, .quote]

-- From an iterator past backslashes, with their number. `none` where the iterator is read or
-- advanced at or behind the end.
def skipBackslashes (arg : List WChar) : Nat → Nat → Nat → Option (Nat × Nat)
  | 0, _, _ => none
  | fuel + 1, it, backslashes =>
      if it = arg.length then some (it, backslashes)
      else
        match arg[it]? with
        | none => none
        | some c => if c = .backslash then skipBackslashes arg fuel (it + 1) (backslashes + 1) else some (it, backslashes)

def quoteLoop (arg : List WChar) : Nat → Nat → List WChar → Option (List WChar)
  | 0, _, _ => none
  | fuel + 1, it, out =>
      match skipBackslashes arg (arg.length + 1) it 0 with
      | none => none
      | some (it, backslashes) =>
          if it = arg.length then some (out ++ List.replicate (backslashes * 2) .backslash)
          else
            match arg[it]? with
            | none => none
            | some c =>
                if c = .quote then quoteLoop arg fuel (it + 1) (out ++ List.replicate (backslashes * 2 + 1) .backslash ++ [.quote])
                else quoteLoop arg fuel (it + 1) (out ++ List.replicate backslashes .backslash ++ [c])

def quoteArgWindows (arg : List WChar) : Option (List WChar) :=
  if arg.isEmpty || arg.any (· ∈ needsQuoting) then
    (quoteLoop arg (arg.length + 1) 0 [.quote]).map fun out => out ++ [.quote]
  else some arg

-- The images as they are joined behind the one of the program.
def commandLine (args : List (List WChar)) : Option (List WChar) :=
  (args.mapM quoteArgWindows).map fun images => [WChar.space].intercalate images

-- Arguments are delimited by spaces and tabs, and a command line ends at its terminator.
def windowsSyntax : Syntax WChar where
  quote := .quote
  backslash := .backslash
  blank c := c = .space || c = .tab
  apart := by decide
  quoteFilled := by decide
  backslashFilled := by decide

def commandLineToArgv (doubled : Bool) (commandLine : List WChar) : List (List WChar) :=
  split windowsSyntax doubled none (commandLine.takeWhile (· ≠ .nul))

section Loop

-- What the loop makes of a text behind some backslashes.
def quotedFrom : Nat → List WChar → List WChar
  | n, [] => List.replicate (2 * n) .backslash
  | n, c :: rest =>
      if c = .backslash then quotedFrom (n + 1) rest
      else if c = .quote then List.replicate (2 * n + 1) .backslash ++ .quote :: quotedFrom 0 rest
      else List.replicate n .backslash ++ c :: quotedFrom 0 rest

theorem quoted_backslashes (k n : Nat) (rest : List WChar) :
    quotedFrom n (List.replicate k .backslash ++ rest) = quotedFrom (n + k) rest := by
  induction k generalizing n with
  | zero => rfl
  | succ k ih => rw [List.replicate_succ, List.cons_append, quotedFrom, if_pos rfl, ih, Nat.add_assoc, Nat.add_comm 1 k]

theorem backslash_run (rest : List WChar) :
    ∃ k tail, rest = List.replicate k WChar.backslash ++ tail ∧ ∀ c ∈ tail.head?, c ≠ WChar.backslash := by
  induction rest with
  | nil => exact ⟨0, [], rfl, by simp⟩
  | cons c rest ih =>
      by_cases backslash : c = .backslash
      · obtain ⟨k, tail, run, stops⟩ := ih
        exact ⟨k + 1, tail, by rw [backslash, run, List.replicate_succ, List.cons_append], stops⟩
      · refine ⟨0, c :: rest, rfl, fun d head => ?_⟩
        cases head
        exact backslash

theorem skip_run (k fuel n : Nat) (before tail : List WChar) (stops : ∀ c ∈ tail.head?, c ≠ .backslash) (enough : k < fuel) :
    skipBackslashes (before ++ (List.replicate k .backslash ++ tail)) fuel before.length n = some (before.length + k, n + k) := by
  induction k generalizing fuel n before with
  | zero =>
      obtain ⟨fuel, rfl⟩ := Nat.exists_eq_succ_of_ne_zero (Nat.ne_zero_of_lt enough)
      cases tail with
      | nil => simp [skipBackslashes]
      | cons c tail =>
          have other : c ≠ .backslash := stops c rfl
          simp [skipBackslashes, other]
  | succ k ih =>
      obtain ⟨fuel, rfl⟩ := Nat.exists_eq_succ_of_ne_zero (Nat.ne_zero_of_lt enough)
      have next := ih fuel (n + 1) (before ++ [.backslash]) (Nat.lt_of_succ_lt_succ enough)
      rw [List.append_assoc, List.singleton_append, List.length_append, List.length_singleton] at next
      have inside : before.length ≠ (before ++ WChar.backslash :: (List.replicate k .backslash ++ tail)).length := by
        simp only [List.length_append, List.length_cons]
        omega
      rw [List.replicate_succ, List.cons_append, skipBackslashes, if_neg inside]
      simp only [List.getElem?_append_right (Nat.le_refl before.length), Nat.sub_self, List.getElem?_cons_zero,
        if_true, next]
      rw [Nat.add_assoc, Nat.add_comm 1 k, Nat.add_assoc, Nat.add_comm 1 k]

-- The loop reads to the end of the argument and not behind it.
theorem quote_loop (fuel : Nat) (before rest out : List WChar) (enough : rest.length < fuel) :
    quoteLoop (before ++ rest) fuel before.length out = some (out ++ quotedFrom 0 rest) := by
  induction fuel generalizing before rest out with
  | zero => exact absurd enough (Nat.not_lt_zero _)
  | succ fuel ih =>
      obtain ⟨k, tail, rfl, stops⟩ := backslash_run rest
      have skipped := skip_run k ((before ++ (List.replicate k WChar.backslash ++ tail)).length + 1) 0 before tail stops
        (by simp only [List.length_append, List.length_replicate]; omega)
      rw [quoteLoop, skipped, quoted_backslashes, Nat.zero_add]
      cases tail with
      | nil => simp [quotedFrom, Nat.mul_comm]
      | cons c tail =>
          have other : c ≠ .backslash := stops c rfl
          have short : tail.length < fuel := by
            simp only [List.length_append, List.length_replicate, List.length_cons] at enough
            omega
          have next := fun out => ih (before ++ (List.replicate k WChar.backslash ++ [c])) tail out short
          have passed : before ++ (List.replicate k WChar.backslash ++ [c]) ++ tail = before ++ (List.replicate k WChar.backslash ++ c :: tail) := by simp
          have place : (before ++ (List.replicate k WChar.backslash ++ [c])).length = before.length + k + 1 := by simp [Nat.add_assoc]
          have inside : before.length + k ≠ (before ++ (List.replicate k WChar.backslash ++ c :: tail)).length := by simp
          have here : (before ++ (List.replicate k WChar.backslash ++ c :: tail))[before.length + k]? = some c := by simp
          rw [passed, place] at next
          dsimp only
          rw [if_neg inside, here, quotedFrom, if_neg other]
          by_cases quote : c = .quote
          · subst quote
            simp only [if_true, next]
            simp [Nat.mul_comm]
          · simp only [if_neg quote, next]
            simp

end Loop

section Images
variable (doubled : Bool)

-- In a quoted part the parser has the text itself when the closing quote comes.
theorem split_quoted (text rest word : List WChar) (n : Nat) :
    split windowsSyntax doubled (some ⟨word, true, 0, false⟩) (quotedFrom n text ++ .quote :: rest) =
      split windowsSyntax doubled (some ⟨word ++ List.replicate n .backslash ++ text, false, 0, true⟩) rest := by
  induction text generalizing n word with
  | nil =>
      have run := split_backslashes windowsSyntax doubled word (.quote :: rest) true 0 (2 * n)
      rw [Nat.zero_add] at run
      rw [quotedFrom, List.append_nil]
      exact run.trans (split_quote windowsSyntax doubled word rest true n)
  | cons c text ih =>
      rw [quotedFrom]
      by_cases backslash : c = .backslash
      · rw [if_pos backslash, ih, backslash]
        simp [List.replicate_succ']
      · rw [if_neg backslash]
        by_cases quote : c = .quote
        · have run := split_backslashes windowsSyntax doubled word (.quote :: (quotedFrom 0 text ++ .quote :: rest)) true 0 (2 * n + 1)
          have escaped := split_escaped windowsSyntax doubled word (quotedFrom 0 text ++ .quote :: rest) true n
          rw [Nat.zero_add] at run
          rw [if_pos quote, List.append_assoc, List.cons_append, quote]
          refine run.trans (escaped.trans ?_)
          rw [ih]
          simp [windowsSyntax]
        · have run := split_backslashes windowsSyntax doubled word (c :: (quotedFrom 0 text ++ .quote :: rest)) true 0 n
          have plain := split_character windowsSyntax doubled word (quotedFrom 0 text ++ .quote :: rest) true false n c
            ⟨backslash, quote⟩ (.inl rfl)
          rw [Nat.zero_add] at run
          rw [if_neg quote, List.append_assoc, List.cons_append]
          refine run.trans (plain.trans ?_)
          rw [ih]
          simp [windowsSyntax]

theorem quoted_reads (arg : List WChar) : Reads windowsSyntax doubled (.quote :: quotedFrom 0 arg ++ [.quote]) arg := by
  intro rest boundary
  have opened := split_quote windowsSyntax doubled [] (quotedFrom 0 arg ++ .quote :: rest) false 0
  have started := split_started windowsSyntax doubled (quotedFrom 0 arg ++ .quote :: rest) .quote rfl
  rw [List.cons_append, List.cons_append, List.append_assoc, List.singleton_append]
  refine started.trans (opened.trans ?_)
  rw [List.nil_append]
  have ended := split_ended windowsSyntax doubled arg rest true 0 boundary
  rw [List.replicate_zero, List.append_nil] at ended
  exact (split_quoted doubled arg rest [] 0).trans ended

-- The image that an argument has, whatever is in it.
def image (arg : List WChar) : List WChar :=
  if arg.isEmpty || arg.any (· ∈ needsQuoting) then .quote :: quotedFrom 0 arg ++ [.quote] else arg

theorem quote_image (arg : List WChar) : quoteArgWindows arg = some (image arg) := by
  have loop : quoteLoop arg (arg.length + 1) 0 [.quote] = some ([.quote] ++ quotedFrom 0 arg) :=
    quote_loop (arg.length + 1) [] arg [.quote] (Nat.lt_succ_self _)
  rw [quoteArgWindows, image]
  split
  · rw [loop]
    rfl
  · rfl

theorem image_reads (arg : List WChar) : Reads windowsSyntax doubled (image arg) arg := by
  rw [image]
  split
  · exact quoted_reads doubled arg
  · rename_i plain
    simp only [Bool.or_eq_true, not_or, List.isEmpty_iff, List.any_eq_true, decide_eq_true_eq, not_exists, not_and] at plain
    refine reads_plain windowsSyntax doubled arg plain.1 fun c member => ?_
    have free := plain.2 c member
    simp only [needsQuoting, List.mem_cons, List.not_mem_nil, or_false, not_or] at free
    exact ⟨free.2.2.2.2, by simp [windowsSyntax, free.1, free.2.1]⟩

theorem quoted_characters (text : List WChar) (n : Nat) (c : WChar) (member : c ∈ quotedFrom n text) :
    c = .backslash ∨ c = .quote ∨ c ∈ text := by
  induction text generalizing n with
  | nil => exact .inl (List.eq_of_mem_replicate member)
  | cons d text ih =>
      have later := fun n (member : c ∈ quotedFrom n text) => (ih n member).imp_right (Or.imp_right (List.mem_cons_of_mem d))
      rw [quotedFrom] at member
      split at member
      · exact later (n + 1) member
      · split at member
        · obtain run | rest := List.mem_append.mp member
          · exact .inl (List.eq_of_mem_replicate run)
          · obtain same | rest := List.mem_cons.mp rest
            · exact .inr (.inl same)
            · exact later 0 rest
        · obtain run | rest := List.mem_append.mp member
          · exact .inl (List.eq_of_mem_replicate run)
          · obtain same | rest := List.mem_cons.mp rest
            · exact .inr (.inr (same ▸ List.mem_cons_self))
            · exact later 0 rest

theorem image_terminated (arg : List WChar) (inside : .nul ∈ image arg) : .nul ∈ arg := by
  rw [image] at inside
  split at inside
  · obtain opened | closed := List.mem_append.mp inside
    · obtain quote | quoted := List.mem_cons.mp opened
      · cases quote
      · obtain backslash | quote | member := quoted_characters arg 0 .nul quoted
        · cases backslash
        · cases quote
        · exact member
    · cases List.mem_singleton.mp closed
  · exact inside

theorem joined_terminated (texts : List (List WChar)) (inside : .nul ∈ [WChar.space].intercalate texts) :
    ∃ text ∈ texts, .nul ∈ text := by
  induction texts with
  | nil => cases inside
  | cons text texts ih =>
      cases texts with
      | nil => exact ⟨text, List.mem_cons_self, by simpa [List.intercalate] using inside⟩
      | cons next more =>
          have joined : [WChar.space].intercalate (text :: next :: more) = text ++ .space :: [WChar.space].intercalate (next :: more) := by
            simp [List.intercalate]
          rw [joined] at inside
          obtain here | rest := List.mem_append.mp inside
          · exact ⟨text, List.mem_cons_self, here⟩
          · obtain space | rest := List.mem_cons.mp rest
            · cases space
            · obtain ⟨other, member, there⟩ := ih rest
              exact ⟨other, List.mem_cons_of_mem text member, there⟩

end Images

-- Whether or not two quotes in a quoted part are taken for a literal one.
theorem windows_quoting_undone (doubled : Bool) (args : List (List WChar)) (plain : ∀ arg ∈ args, .nul ∉ arg) :
    ∃ text, commandLine args = some text ∧ commandLineToArgv doubled text = args := by
  have images : args.mapM quoteArgWindows = some (args.map image) := by
    rw [funext quote_image]
    exact List.mapM_pure
  refine ⟨[WChar.space].intercalate (args.map image), by rw [commandLine, images]; rfl, ?_⟩
  have terminated : ([WChar.space].intercalate (args.map image)).takeWhile (· ≠ .nul) = [WChar.space].intercalate (args.map image) := by
    refine List.takeWhile_eq_self_iff.mpr fun c member => decide_eq_true fun nul => ?_
    obtain ⟨text, listed, inside⟩ := joined_terminated (args.map image) (nul ▸ member)
    obtain ⟨arg, member, rfl⟩ := List.mem_map.mp listed
    exact plain arg member (image_terminated arg inside)
  rw [commandLineToArgv, terminated]
  refine split_joined windowsSyntax doubled .space rfl ?_
  rw [List.forall₂_map_left_iff]
  exact List.forall₂_same.mpr fun arg _ => image_reads doubled arg

theorem hard_arguments_undone :
    ∃ text, commandLine [[], [.backslash, .quote, .backslash], [.tab]] = some text ∧
      commandLineToArgv true text = [[], [.backslash, .quote, .backslash], [.tab]] :=
  windows_quoting_undone true _ (by decide)

end RadeonPanel.Cli

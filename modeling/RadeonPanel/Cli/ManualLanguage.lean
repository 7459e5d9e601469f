import RadeonPanel.Cli.ManualCommands

set_option autoImplicit false

namespace RadeonPanel.Cli.ManualCommands

open Trimming

theorem lower_eq (c d : Char) (low : d.val.toNat < 65) : c.toLower = d ↔ c = d := by
  unfold Char.toLower
  split
  · rename_i upper
    have least : 65 ≤ c.val.toNat := UInt32.le_iff_toNat_le.mp upper.1
    have most : c.val.toNat ≤ 90 := UInt32.le_iff_toNat_le.mp upper.2
    constructor
    · intro same
      have value : (c.val + ('a'.val - 'A'.val)).toNat = d.val.toNat := congrArg (fun c : Char => c.val.toNat) same
      have shift : ('a'.val - 'A'.val).toNat = 32 := by decide
      rw [UInt32.toNat_add] at value
      omega
    · rintro rfl
      omega
  · exact Iff.rfl

theorem lower_decide (c d : Char) (low : d.val.toNat < 65) : decide (c.toLower = d) = decide (c = d) :=
  decide_eq_decide.mpr (lower_eq c d low)

theorem lower_gap (c : Char) : isGap c.toLower = isGap c := by
  rw [isGap, isGap, lower_decide c ' ' (by decide), lower_decide c '\t' (by decide)]

theorem lower_space (c : Char) : isSpace c.toLower = isSpace c := by
  rw [isSpace, isSpace, lower_decide c ' ' (by decide), lower_decide c '\t' (by decide), lower_decide c '\r' (by decide),
    lower_decide c '\n' (by decide)]

theorem gap_space (c : Char) (gap : isGap c = true) : isSpace c = true := by
  rw [isSpace]
  rw [isGap] at gap
  rw [gap]
  rfl

-- A text that ends in no blank has no gap at the end of its lower case form.
theorem lower_ends (text front rest : List Char) (finishes : Begins isSpace text.reverse) (shape : toLower text = front ++ rest)
    (each : ∀ c ∈ rest, isGap c = true) : rest = [] := by
  cases last : rest.reverse with
  | nil => exact List.reverse_eq_nil_iff.mp last
  | cons c before =>
      have whole : (toLower text).reverse = c :: (before ++ front.reverse) := by
        rw [shape, List.reverse_append, last, List.cons_append]
      rw [toLower, ← List.map_reverse] at whole
      obtain ⟨typed, more, found, same, _⟩ := List.map_eq_cons_iff.mp whole
      have free : isSpace typed = false := finishes typed (by rw [found]; rfl)
      have member : c ∈ rest := List.mem_reverse.mp (last ▸ List.mem_cons_self)
      rw [← lower_space, same, gap_space c (each c member)] at free
      cases free

theorem mode_command_iff (command : List Char) :
    isModeCommand command = true ↔ ∃ rest, command = "mode".toList ++ rest ∧ ∀ c ∈ rest.head?, isGap c = true := by
  rw [isModeCommand, Bool.and_eq_true, List.isPrefixOf_iff_prefix]
  constructor
  · rintro ⟨⟨rest, rfl⟩, after⟩
    refine ⟨rest, rfl, fun c first => ?_⟩
    rw [show ("mode".toList ++ rest).drop 4 = rest from rfl, Option.mem_def.mp first] at after
    exact after
  · rintro ⟨rest, rfl, after⟩
    refine ⟨List.prefix_append _ _, ?_⟩
    rw [show ("mode".toList ++ rest).drop 4 = rest from rfl]
    cases rest with
    | nil => rfl
    | cons c more => exact after c rfl

theorem argument_command (text gap argument : List Char) (spelled : ModeArgument text gap argument) :
    isModeCommand (toLower text) = true ∧ ((toLower text).drop 4).dropWhile isGap = argument := by
  constructor
  · apply (mode_command_iff _).mpr
    refine ⟨gap ++ argument, spelled.shape, fun c first => ?_⟩
    obtain ⟨g, more, rfl⟩ := List.exists_cons_of_ne_nil spelled.apart
    cases first
    exact spelled.each c List.mem_cons_self
  · rw [spelled.shape]
    exact drop_front gap argument spelled.each spelled.begins

theorem command_argument (text : List Char) (finishes : Begins isSpace text.reverse)
    (command : isModeCommand (toLower text) = true) :
    toLower text = "mode".toList ∧ ((toLower text).drop 4).dropWhile isGap = [] ∨
      ∃ gap, ModeArgument text gap (((toLower text).drop 4).dropWhile isGap) := by
  obtain ⟨rest, shape, after⟩ := (mode_command_iff _).mp command
  have tail : (toLower text).drop 4 = rest := by
    rw [shape]
    rfl
  rw [tail]
  by_cases given : rest.dropWhile isGap = []
  · have nothing := lower_ends text _ rest finishes shape (List.dropWhile_eq_nil_iff.mp given)
    rw [nothing, List.append_nil] at shape
    exact .inl ⟨shape, given⟩
  · right
    refine ⟨rest.takeWhile isGap, ?_, ?_, take_each rest, drop_begins rest, given⟩
    · rw [List.takeWhile_append_dropWhile]
      exact shape
    · intro none
      have begins : Begins isGap rest := by
        rw [← List.takeWhile_append_dropWhile (p := isGap) (l := rest), none, List.nil_append]
        exact drop_begins rest
      cases rest with
      | nil => exact given rfl
      | cons c more =>
          have gap := after c rfl
          rw [begins c rfl] at gap
          cases gap

theorem mode_names (name : List Char) (captureMode : RdpCaptureProfilingCaptureMode)
    (named : parseRgpCaptureMode name = some captureMode) : ':' ∉ name := by
  unfold parseRgpCaptureMode at named
  split at named
  · rename_i same
    rw [same]
    decide
  · split at named
    · rename_i same
      rw [same]
      decide
    · split at named
      · rename_i same
        rw [same]
        decide
      · split at named
        · rename_i same
          rw [same]
          decide
        · cases named

-- The text in front of the first colon, and the rest from there.
theorem colon_split (name rest : List Char) (colon : ':' ∉ name) (ends : ∀ c ∈ rest.head?, c = ':') :
    (name ++ rest).takeWhile (· ≠ ':') = name ∧ (name ++ rest).dropWhile (· ≠ ':') = rest := by
  have each : ∀ c ∈ name, decide (c ≠ ':') = true := fun c member => decide_eq_true fun same => colon (same ▸ member)
  have begins : Begins (fun c => decide (c ≠ ':')) rest := fun c first => decide_eq_false (not_not_intro (ends c first))
  exact ⟨take_front name rest each begins, drop_front name rest each begins⟩

theorem colon_parts (argument : List Char) : ∃ name rest, argument = name ++ rest ∧ ':' ∉ name ∧ (∀ c ∈ rest.head?, c = ':') ∧
    argument.takeWhile (· ≠ ':') = name ∧ argument.dropWhile (· ≠ ':') = rest := by
  refine ⟨_, _, List.takeWhile_append_dropWhile.symm, ?_, ?_, rfl, rfl⟩
  · intro member
    have apart := List.mem_takeWhile_imp member
    simp at apart
  · intro c first
    have free := drop_begins (p := fun c => decide (c ≠ ':')) argument c first
    simpa using free

theorem argument_spells (text gap argument : List Char) (spelled : ModeArgument text gap argument) :
    Spells .profiling text (readMode argument) := by
  obtain ⟨name, rest, rfl, colon, ends, before, after⟩ := colon_parts argument
  rw [readMode, if_neg spelled.given, before, after, readNamed]
  cases named : parseRgpCaptureMode name with
  | none => exact .badMode gap name rest rfl spelled named colon ends
  | some captureMode =>
      cases rest with
      | nil =>
          rw [List.append_nil] at spelled
          exact .setMode gap name captureMode rfl spelled named
      | cons c digits =>
          obtain rfl := ends c rfl
          dsimp only
          cases counts : usesRenderOps captureMode with
          | false => exact .noCount gap name digits captureMode rfl spelled named counts
          | true =>
              cases number : parseNumber digits with
              | none => exact .badCount gap name digits captureMode rfl spelled named counts (by simp [number])
              | some count =>
                  by_cases zero : count = 0
                  · rw [zero] at number
                    simp only [Bool.not_true, Bool.false_eq_true, if_false, if_pos zero]
                    exact .badCount gap name digits captureMode rfl spelled named counts (by simp [number])
                  · simp only [Bool.not_true, Bool.false_eq_true, if_false, if_neg zero]
                    exact .setCount gap name digits captureMode count rfl spelled named counts number zero

theorem read_named (name rest : List Char) (given : name ++ rest ≠ []) (colon : ':' ∉ name) (ends : ∀ c ∈ rest.head?, c = ':') :
    readMode (name ++ rest) = readNamed name rest := by
  obtain ⟨before, after⟩ := colon_split name rest colon ends
  rw [readMode, if_neg given, before, after]

-- No text with the keyword `mode` is one of the words in front of it.
theorem mode_word (command : List Char) (isMode : isModeCommand command = true) : command ∉ quitWords ∧ command ∉ captureWords := by
  obtain ⟨rest, rfl, _⟩ := (mode_command_iff command).mp isMode
  constructor
  · simp [quitWords]
  · simp [captureWords]

theorem read_mode_text (text : List Char) (isMode : isModeCommand (toLower text) = true) :
    readText .profiling text = readMode (((toLower text).drop 4).dropWhile isGap) := by
  obtain ⟨notQuit, notCapture⟩ := mode_word _ isMode
  rw [readText, if_neg notQuit, if_neg notCapture, if_pos ⟨rfl, isMode⟩]

theorem read_argument (text gap argument : List Char) (spelled : ModeArgument text gap argument) :
    readText .profiling text = readMode argument := by
  obtain ⟨isMode, same⟩ := argument_command text gap argument spelled
  rw [read_mode_text text isMode, same]

theorem keyword_text (word gap name : List Char) (keyword : toLower word ∈ snapshotWords) (each : ∀ c ∈ gap, isGap c = true)
    (begins : Begins isGap name) (apart : gap = [] ↔ name = []) :
    (toLower (word ++ (gap ++ name))).takeWhile (fun c => !isGap c) = toLower word ∧
      ((word ++ (gap ++ name)).drop (toLower word).length).dropWhile isGap = name := by
  have free : ∀ c ∈ toLower word, (!isGap c) = true := by
    simp only [snapshotWords, List.mem_cons, List.not_mem_nil, or_false] at keyword
    apply List.all_eq_true.mp
    obtain same | same := keyword <;> rw [same] <;> decide
  have stops : Begins (fun c => !isGap c) (toLower (gap ++ name)) := by
    intro c first
    cases gap with
    | nil =>
        rw [apart.mp rfl] at first
        cases first
    | cons g more =>
        cases first
        have gap : isGap g.toLower = true := (lower_gap g).trans (each g List.mem_cons_self)
        exact congrArg Bool.not gap
  constructor
  · rw [toLower, List.map_append]
    exact take_front (toLower word) _ free stops
  · rw [toLower, List.length_map, List.drop_left]
    exact drop_front gap name each begins

-- A text that begins with a snapshot keyword is neither of the words in front of it.
theorem snapshot_word (word rest : List Char) (keyword : toLower word ∈ snapshotWords) :
    toLower (word ++ rest) ∉ quitWords ∧ toLower (word ++ rest) ∉ captureWords := by
  simp only [snapshotWords, List.mem_cons, List.not_mem_nil, or_false] at keyword
  rw [toLower, List.map_append]
  obtain same | same := keyword
  · rw [← toLower, same]
    constructor
    · simp [quitWords]
    · simp [captureWords]
  · rw [← toLower, same]
    constructor
    · simp [quitWords]
    · simp [captureWords]

theorem spells_read (mode : CaptureMode) (text : List Char) (command : Command) (spells : Spells mode text command) :
    readText mode text = command := by
  cases spells with
  | quit word =>
      rw [readText]
      exact if_pos word
  | capture word =>
      have notQuit : toLower text ∉ quitWords := by
        simp only [captureWords, List.mem_cons, List.not_mem_nil, or_false] at word
        obtain same | same := word <;> rw [same] <;> decide
      rw [readText, if_neg notQuit, if_pos word]
  | showMode profiling word =>
      subst profiling
      rw [read_mode_text text (by rw [word]; decide), word]
      rfl
  | setMode gap name captureMode profiling spelled named =>
      subst profiling
      have whole := read_named name [] (by rw [List.append_nil]; exact spelled.given) (mode_names name captureMode named) (by simp)
      rw [List.append_nil] at whole
      rw [read_argument text gap name spelled, whole, readNamed, named]
  | setCount gap name digits captureMode count profiling spelled named counts number positive =>
      subst profiling
      rw [read_argument text gap _ spelled, read_named name _ spelled.given (mode_names name captureMode named) (by simp),
        readNamed, named]
      simp only [counts, Bool.not_true, Bool.false_eq_true, if_false, number, if_neg positive]
  | badMode gap name rest profiling spelled unnamed colon ends =>
      subst profiling
      rw [read_argument text gap _ spelled, read_named name rest spelled.given colon ends, readNamed, unnamed]
  | noCount gap name digits captureMode profiling spelled named counts =>
      subst profiling
      rw [read_argument text gap _ spelled, read_named name _ spelled.given (mode_names name captureMode named) (by simp),
        readNamed, named]
      simp only [counts, Bool.not_false, if_true]
  | badCount gap name digits captureMode profiling spelled named counts number =>
      subst profiling
      rw [read_argument text gap _ spelled, read_named name _ spelled.given (mode_names name captureMode named) (by simp),
        readNamed, named]
      simp only [counts, Bool.not_true, Bool.false_eq_true, if_false]
      cases read : parseNumber digits with
      | none => rfl
      | some count => exact if_pos (number count read)
  | snapshot word gap name tracing keyword shape each begins apart =>
      subst tracing shape
      obtain ⟨taken, named⟩ := keyword_text word gap name keyword each begins apart
      obtain ⟨notQuit, notCapture⟩ := snapshot_word word (gap ++ name) keyword
      rw [readText, taken, named, if_neg notQuit, if_neg notCapture, if_neg (by simp), if_pos ⟨rfl, keyword⟩]

theorem snapshot_spells (text : List Char) (finishes : Begins isSpace text.reverse)
    (keyword : (toLower text).takeWhile (fun c => !isGap c) ∈ snapshotWords) :
    Spells .memoryTrace text
      (.snapshot ((text.drop ((toLower text).takeWhile fun c => !isGap c).length).dropWhile isGap)) := by
  have lowered : (toLower text).takeWhile (fun c => !isGap c) = toLower (text.takeWhile fun c => !isGap c) := by
    rw [toLower, List.takeWhile_map]
    congr 2
    funext c
    exact congrArg Bool.not (lower_gap c)
  have front : text.drop ((toLower text).takeWhile fun c => !isGap c).length = text.dropWhile fun c => !isGap c := by
    rw [lowered, toLower, List.length_map]
    have parts := List.takeWhile_append_dropWhile (p := fun c => !isGap c) (l := text)
    exact (congrArg (List.drop _) parts.symm).trans List.drop_left
  rw [front]
  rw [lowered] at keyword
  refine .snapshot _ ((text.dropWhile fun c => !isGap c).takeWhile isGap) _ rfl keyword ?_ (take_each _) (drop_begins _) ?_
  · rw [List.takeWhile_append_dropWhile, List.takeWhile_append_dropWhile]
  · constructor
    · intro none
      cases rest : text.dropWhile fun c => !isGap c with
      | nil => rfl
      | cons c more =>
          have gap : isGap c = true := by
            have stops := drop_begins (p := fun c => !isGap c) text c (by rw [rest]; rfl)
            simpa using stops
          rw [rest, List.takeWhile_cons, gap] at none
          cases none
    · intro none
      have each : ∀ c ∈ toLower (text.dropWhile fun c => !isGap c), isGap c = true := by
        intro c member
        obtain ⟨typed, here, rfl⟩ := List.mem_map.mp member
        rw [lower_gap]
        exact List.dropWhile_eq_nil_iff.mp none typed here
      have shape : toLower text = toLower (text.takeWhile fun c => !isGap c) ++ toLower (text.dropWhile fun c => !isGap c) := by
        rw [toLower, toLower, toLower, ← List.map_append, List.takeWhile_append_dropWhile]
      have nothing := lower_ends text _ _ finishes shape each
      rw [List.map_eq_nil_iff.mp nothing]
      rfl

-- Every text is a command that it spells, or unknown.
theorem read_spells (mode : CaptureMode) (text : List Char) (finishes : Begins isSpace text.reverse) :
    Spells mode text (readText mode text) ∨ readText mode text = .unknown (toLower text) := by
  rw [readText]
  by_cases quits : toLower text ∈ quitWords
  · rw [if_pos quits]
    exact .inl (.quit quits)
  · rw [if_neg quits]
    by_cases captures : toLower text ∈ captureWords
    · rw [if_pos captures]
      exact .inl (.capture captures)
    · rw [if_neg captures]
      by_cases modes : mode = .profiling ∧ isModeCommand (toLower text) = true
      · rw [if_pos modes]
        obtain ⟨rfl, isMode⟩ := modes
        left
        obtain ⟨word, nothing⟩ | ⟨gap, spelled⟩ := command_argument text finishes isMode
        · rw [nothing]
          exact .showMode rfl word
        · exact argument_spells text gap _ spelled
      · rw [if_neg modes]
        by_cases snapshots : mode = .memoryTrace ∧ (toLower text).takeWhile (fun c => !isGap c) ∈ snapshotWords
        · rw [if_pos snapshots]
          obtain ⟨rfl, keyword⟩ := snapshots
          exact .inl (snapshot_spells text finishes keyword)
        · rw [if_neg snapshots]
          exact .inr rfl

theorem spells_known (mode : CaptureMode) (text command : List Char) : ¬ Spells mode text (.unknown command) := fun spells => nomatch spells

theorem spells_given (mode : CaptureMode) (text : List Char) : ¬ Spells mode text .blank := fun spells => nomatch spells

theorem spells_some (mode : CaptureMode) (text : List Char) (command : Command) (spells : Spells mode text command) : text ≠ [] := by
  rintro rfl
  have read := spells_read mode [] command spells
  have unknown : readText mode [] = .unknown [] := by cases mode <;> decide
  rw [← read, unknown] at spells
  exact spells_known mode [] [] spells

theorem line_text (mode : CaptureMode) (line text : List Char) (around : Around isSpace line text) (given : text ≠ []) :
    readLine mode line = readText mode text := by
  have trimmed : trimLine line = text := (trim_iff line text).mpr around
  rw [readLine, trimmed, if_neg given]

theorem line_spells (mode : CaptureMode) (line text : List Char) (command : Command) (around : Around isSpace line text)
    (spells : Spells mode text command) : readLine mode line = command :=
  (line_text mode line text around (spells_some mode text command spells)).trans (spells_read mode text command spells)

theorem blank_line (mode : CaptureMode) (line : List Char) (blank : ∀ c ∈ line, isSpace c = true) : readLine mode line = .blank := by
  have trimmed : trimLine line = [] := (trim_nil line).mpr blank
  rw [readLine, if_pos trimmed]

theorem unknown_line (mode : CaptureMode) (line text : List Char) (around : Around isSpace line text) (given : text ≠ [])
    (nothing : ∀ other, ¬ Spells mode text other) : readLine mode line = .unknown (toLower text) := by
  rw [line_text mode line text around given]
  obtain spells | unknown := read_spells mode text around.finishes
  · exact absurd spells (nothing _)
  · exact unknown

theorem means_read (mode : CaptureMode) (line : List Char) (command : Command) (means : Means mode line command) :
    readLine mode line = command := by
  cases command with
  | blank => exact blank_line mode line means
  | unknown command =>
      obtain ⟨text, given, around, rfl, nothing⟩ := means
      exact unknown_line mode line text around given nothing
  | quit =>
      obtain ⟨text, around, spells⟩ := means
      exact line_spells mode line text _ around spells
  | capture =>
      obtain ⟨text, around, spells⟩ := means
      exact line_spells mode line text _ around spells
  | showMode =>
      obtain ⟨text, around, spells⟩ := means
      exact line_spells mode line text _ around spells
  | setMode captureMode count =>
      obtain ⟨text, around, spells⟩ := means
      exact line_spells mode line text _ around spells
  | snapshot name =>
      obtain ⟨text, around, spells⟩ := means
      exact line_spells mode line text _ around spells
  | refused refusal =>
      obtain ⟨text, around, spells⟩ := means
      exact line_spells mode line text _ around spells

theorem spelled_means (mode : CaptureMode) (line text : List Char) (command : Command) (around : Around isSpace line text)
    (spells : Spells mode text command) : Means mode line command := by
  cases command with
  | blank => exact absurd spells (spells_given mode text)
  | unknown command => exact absurd spells (spells_known mode text command)
  | quit => exact ⟨text, around, spells⟩
  | capture => exact ⟨text, around, spells⟩
  | showMode => exact ⟨text, around, spells⟩
  | setMode captureMode count => exact ⟨text, around, spells⟩
  | snapshot name => exact ⟨text, around, spells⟩
  | refused refusal => exact ⟨text, around, spells⟩

-- Every line has a meaning, so the reading is the meaning.
theorem line_means (mode : CaptureMode) (line : List Char) : Means mode line (readLine mode line) := by
  have around := trim_around (p := isSpace) line
  by_cases given : trimLine line = []
  · have blank := (trim_nil line).mp given
    rw [blank_line mode line blank]
    exact blank
  · obtain spells | unknown := read_spells mode (trimLine line) around.finishes
    · rw [line_text mode line _ around given]
      exact spelled_means mode line _ _ around spells
    · have nothing : ∀ other, ¬ Spells mode (trimLine line) other := by
        intro other spells
        have read := spells_read mode _ other spells
        rw [unknown] at read
        exact spells_known mode _ _ (read ▸ spells)
      rw [unknown_line mode line _ around given nothing]
      exact ⟨trimLine line, given, around, rfl, nothing⟩

-- The loop reads a line as a command exactly if the line means it.
theorem manual_commands (mode : CaptureMode) (line : List Char) (command : Command) :
    readLine mode line = command ↔ Means mode line command := by
  constructor
  · rintro rfl
    exact line_means mode line
  · exact means_read mode line command

example : readLine .profiling "  Mode \t Draw:05 \r".toList = .setMode .draw (some 5) := by decide

end RadeonPanel.Cli.ManualCommands

import RadeonPanel.Base.Keyed
import RadeonPanel.Base.Runs
import RadeonPanel.Base.Separators
import RadeonPanel.CaptureApi.MatchesWildcard

set_option autoImplicit false

namespace RadeonPanel.CaptureApi

open Interleaving Wildcard

-- The system the library is compiled for.
inductive TargetSystem where
  | win32
  | linux
  | other
deriving DecidableEq, Repr

namespace TargetSystem

def kCaseSensitive : TargetSystem → Bool
  | .win32 => false
  | _ => true

def kBlocklistSection : TargetSystem → Chars
  | .win32 => ascii "Win32"
  | .linux => ascii "Linux"
  | .other => []

end TargetSystem

def kFallbackEntriesWin32 : List Chars :=
  ["svchost.exe", "RadeonSettings.exe", "RadeonSoftware.exe", "taskhost.exe", "taskhostw.exe", "Taskmgr.exe",
    "amddvr.exe", "dwm.exe", "dxgiadaptercache.exe", "steamwebhelper.exe", "AMDRSServ.exe", "DeviceCensus.exe",
    "Code.exe", "msedge.exe", "chrome.exe", "Skype.exe", "RadeonInstaller.exe", "Teams.exe", "RadeonGPUAnalyzer.exe",
    "amdspv.exe", "rga.exe", "dx12_backend.exe", "vulkan_backend.exe", "vulkandriverquery.exe",
    "vulkandriverquery64.exe", "RadeonRaytracingAnalyzer*", "msedgewebview2.exe", "dxdiag.exe", "clinfo.exe",
    "EpicWebHelper.exe", "EpicGamesLauncher.exe", "AMDRSSrcExt.exe", "GPUQuery_External*", "cncmd.exe"].map ascii

def kFallbackEntriesLinux : List Chars :=
  ["RadeonGPUAnalyzer", "amdspv", "vulkan_backend", "rga", "vulkandriverquery", "fossilize_replay",
    "RadeonRaytracingAnalyzer*"].map ascii

-- In the C locale.
def toLowerChar (c : UInt8) : UInt8 := if 65 ≤ c ∧ c ≤ 90 then c + 32 else c

def getlines (line : Chars) : Chars → List Chars
  | [] => if line = [] then [] else [line]
  | c :: rest => if c = 10 then line :: getlines [] rest else getlines (line ++ [c]) rest

def isBlank (c : UInt8) : Bool := c = 32 ∨ c = 9

-- None for a line of blanks only.
def trimBlanks (line : Chars) : Option Chars :=
  let first := line.dropWhile isBlank
  if first = [] then none else some (first.rdropWhile isBlank)

def dropReturn (line : Chars) : Chars := if line.getLast? = some 13 then line.dropLast else line

def equalsSign : UInt8 := 61

def numberSign : UInt8 := 35

def kNameSuffix : Chars := ascii "\\name"

-- The section flag after a line of the ini file, and the value that is looked up among the patterns.
def readIniLine (t : TargetSystem) (inSection : Bool) (text : Chars) : Bool × Option Chars :=
  let line := dropReturn text
  if line = [] then (inSection, none)
  else if line.head? = some openBracket then
    (if closeBracket ∈ line then line.tail.takeWhile (· ≠ closeBracket) = t.kBlocklistSection else inSection, none)
  else if !inSection then (inSection, none)
  else if equalsSign ∉ line then (inSection, none)
  else
    let key := (line.takeWhile (· ≠ equalsSign)).rdropWhile isBlank
    if ¬ kNameSuffix <:+ key then (inSection, none)
    else
      match trimBlanks (Separated.afterFirst equalsSign line) with
      | none => (inSection, none)
      | some value => (inSection, if value ≠ [] then some value else none)

structure IniReading where
  inSection : Bool
  anyRead : Bool
  patterns : List Chars
deriving DecidableEq, Repr

def IniReading.line (t : TargetSystem) (r : IniReading) (text : Chars) : IniReading :=
  match readIniLine t r.inSection text with
  | (inSection, none) => { r with inSection := inSection }
  | (inSection, some value) =>
      if value ∈ r.patterns then { r with inSection := inSection }
      else { inSection := inSection, anyRead := true, patterns := r.patterns ++ [value] }

-- A file is what its stream delivers, none where it cannot be opened.
def loadFromIniFile (t : TargetSystem) (file : Option Chars) (patterns : List Chars) : Bool × List Chars :=
  match file with
  | none => (false, patterns)
  | some content =>
      let r := (getlines [] content).foldl (IniReading.line t) ⟨false, false, patterns⟩
      (r.anyRead, r.patterns)

def loadFallbackDefaults (t : TargetSystem) (patterns : List Chars) : List Chars :=
  match t with
  | .win32 => patterns ++ kFallbackEntriesWin32
  | .linux => patterns ++ kFallbackEntriesLinux
  | .other => patterns

inductive BlocklistResult where
  | success
  | invalidParams
  | notFound
deriving DecidableEq, Repr

structure ApiBlocklist where
  patterns : List Chars
deriving DecidableEq, Repr

namespace ApiBlocklist

-- The constructor, with the `blocklist.ini` beside the module.
def create (t : TargetSystem) (ini : Option Chars) : ApiBlocklist :=
  let loaded := loadFromIniFile t ini []
  ⟨if loaded.1 then loaded.2 else loadFallbackDefaults t loaded.2⟩

-- The lambda `matches` of AddEntry and RemoveEntry.
def sameEntry (t : TargetSystem) (pattern existing : Chars) : Bool :=
  if t.kCaseSensitive then existing = pattern
  else if existing.length ≠ pattern.length then false
  else (existing.zip pattern).all fun pair => toLowerChar pair.1 = toLowerChar pair.2

variable (t : TargetSystem) (b : ApiBlocklist)

def addEntry : Option Chars → BlocklistResult × ApiBlocklist
  | none | some [] => (.invalidParams, b)
  | some pattern =>
      (.success, if (b.patterns.find? (sameEntry t pattern)).isNone then ⟨b.patterns ++ [pattern]⟩ else b)

def removeEntry : Option Chars → BlocklistResult × ApiBlocklist
  | none => (.invalidParams, b)
  | some pattern =>
      match b.patterns.find? (sameEntry t pattern) with
      | none => (.notFound, b)
      | some _ => (.success, ⟨b.patterns.eraseP (sameEntry t pattern)⟩)

def clear : ApiBlocklist := ⟨[]⟩

def filePattern (line : Chars) : Option Chars :=
  match trimBlanks (dropReturn line) with
  | none => none
  | some entry => if entry.head? = some numberSign then none else if entry ≠ [] then some entry else none

def newPatterns (content : Chars) : List Chars := (getlines [] content).filterMap filePattern

def loadFile (filePath : Option Chars) (file : Option Chars) : BlocklistResult × ApiBlocklist :=
  match filePath, file with
  | none, _ | some [], _ => (.invalidParams, b)
  | some (_ :: _), none => (.notFound, b)
  | some (_ :: _), some content =>
      (.success, ⟨(newPatterns content).foldl
        (fun patterns pattern => if pattern ∈ patterns then patterns else patterns ++ [pattern]) b.patterns⟩)

def getBasename (path : Chars) : Chars := path.rtakeWhile fun c => c ≠ 47 ∧ c ≠ backslash

def contains (processPath : Chars) : Bool :=
  let basename := getBasename processPath
  if basename = [] then false
  else
    let lower (text : Chars) := if t.kCaseSensitive then text else text.map toLowerChar
    b.patterns.any fun pattern => matchesWildcard (lower basename) (lower pattern)

-- A name as the platform compares it.
def compared (text : Chars) : Chars := if t.kCaseSensitive then text else text.map toLowerChar

theorem lower_eq_iff (existing pattern : Chars) :
    (existing.length = pattern.length ∧ (existing.zip pattern).all fun pair => toLowerChar pair.1 = toLowerChar pair.2) ↔
      existing.map toLowerChar = pattern.map toLowerChar := by
  induction existing generalizing pattern with
  | nil => cases pattern <;> simp
  | cons c rest ih =>
      cases pattern with
      | nil => simp
      | cons d other =>
          simp only [List.length_cons, Nat.add_right_cancel_iff, List.zip_cons_cons, List.all_cons, Bool.and_eq_true,
            decide_eq_true_eq, List.map_cons, List.cons.injEq, ← ih other]
          tauto

theorem same_entry_iff (pattern existing : Chars) :
    sameEntry t pattern existing = true ↔ compared t existing = compared t pattern := by
  by_cases sensitive : t.kCaseSensitive = true
  · simp [sameEntry, compared, sensitive]
  · rw [sameEntry, if_neg sensitive, compared, if_neg sensitive, compared, if_neg sensitive, ← lower_eq_iff]
    by_cases lengths : existing.length = pattern.length <;> simp [lengths]

theorem same_entry_eq (pattern : Chars) :
    sameEntry t pattern = fun existing => decide (compared t existing = compared t pattern) := by
  funext existing
  rw [Bool.eq_iff_iff, same_entry_iff, decide_eq_true_iff]

def Distinct (patterns : List Chars) : Prop := patterns.Pairwise fun a b => ¬ sameEntry t a b = true

theorem distinct_iff_keys (patterns : List Chars) : Distinct t patterns ↔ (Keyed.keys (compared t) patterns).Nodup := by
  rw [Distinct, Keyed.keys, List.Nodup, List.pairwise_map]
  simp only [same_entry_iff]
  exact ⟨fun h => h.imp fun apart same => apart same.symm, fun h => h.imp fun apart same => apart same.symm⟩

-- Names that the platform does not tell apart are the same name.
def ToldApart (patterns : List Chars) : Prop :=
  ∀ a ∈ patterns, ∀ b ∈ patterns, compared t a = compared t b → a = b

theorem append_missing_eq (others patterns : List Chars) :
    others.foldl (fun patterns pattern => if pattern ∈ patterns then patterns else patterns ++ [pattern]) patterns =
      others.foldl (Keyed.appendNew id) patterns := by
  congr 1
  funext patterns pattern
  simp [Keyed.appendNew, Keyed.keys]

-- Exact repetitions are left out, so what is stored is distinct exactly where no two
-- names differ by what the platform overlooks.
theorem append_missing_distinct (others patterns : List Chars) (distinct : Distinct t patterns) :
    Distinct t (others.foldl (Keyed.appendNew id) patterns) ↔ ToldApart t (patterns ++ others) := by
  rw [distinct_iff_keys] at distinct ⊢
  rw [Keyed.distinct_iff]
  have members : (others.foldl (Keyed.appendNew id) patterns).Nodup := by
    have kept := Keyed.append_all_distinct id patterns others (by simpa [Keyed.keys] using distinct.of_map)
    simpa [Keyed.keys] using kept
  have present (x : Chars) : x ∈ others.foldl (Keyed.appendNew id) patterns ↔ x ∈ patterns ++ others := by
    have keys := Keyed.append_all_keys id patterns x others
    simpa [Keyed.keys] using keys
  simp only [members, true_and, present, ToldApart]

-- The values that the lines of an ini file give.
def iniValues : Bool → List Chars → List Chars
  | _, [] => []
  | inSection, line :: rest =>
      let r := readIniLine t inSection line
      r.2.toList ++ iniValues r.1 rest

def iniEntries : Option Chars → List Chars
  | none => []
  | some content => iniValues t false (getlines [] content)

theorem ini_lines (lines : List Chars) (r : IniReading) :
    (lines.foldl (IniReading.line t) r).patterns = (iniValues t r.inSection lines).foldl (Keyed.appendNew id) r.patterns := by
  induction lines generalizing r with
  | nil => rfl
  | cons line rest ih =>
      rw [List.foldl_cons, ih, iniValues, IniReading.line]
      obtain ⟨inSection, value⟩ := readIniLine t r.inSection line
      cases value with
      | none => rfl
      | some value => by_cases listed : value ∈ r.patterns <;> simp [listed, Keyed.appendNew, Keyed.keys]

theorem ini_any_read (lines : List Chars) (r : IniReading) (told : r.anyRead = !r.patterns.isEmpty) :
    (lines.foldl (IniReading.line t) r).anyRead = !(lines.foldl (IniReading.line t) r).patterns.isEmpty := by
  induction lines generalizing r with
  | nil => exact told
  | cons line rest ih =>
      refine ih _ ?_
      rw [IniReading.line]
      obtain ⟨inSection, value⟩ := readIniLine t r.inSection line
      cases value with
      | none => exact told
      | some value => by_cases listed : value ∈ r.patterns <;> simp [listed, told]

theorem create_patterns (ini : Option Chars) :
    (create t ini).patterns =
      if (iniEntries t ini).foldl (Keyed.appendNew id) [] = [] then loadFallbackDefaults t []
      else (iniEntries t ini).foldl (Keyed.appendNew id) [] := by
  cases ini with
  | none => rfl
  | some content =>
      have read := ini_lines t (getlines [] content) ⟨false, false, []⟩
      have any := ini_any_read t (getlines [] content) ⟨false, false, []⟩ rfl
      simp only [create, loadFromIniFile, any, read, iniEntries]
      by_cases nothing : (iniValues t false (getlines [] content)).foldl (Keyed.appendNew id) [] = [] <;> simp [nothing]

theorem fallback_distinct : Distinct t (loadFallbackDefaults t []) := by
  rw [distinct_iff_keys]
  cases t <;> decide +kernel

theorem create_distinct (ini : Option Chars) : Distinct t (create t ini).patterns ↔ ToldApart t (iniEntries t ini) := by
  have read := append_missing_distinct t (iniEntries t ini) [] List.Pairwise.nil
  rw [List.nil_append] at read
  rw [create_patterns]
  by_cases nothing : (iniEntries t ini).foldl (Keyed.appendNew id) [] = []
  · rw [if_pos nothing, ← read, nothing]
    exact iff_of_true (fallback_distinct t) List.Pairwise.nil
  · rw [if_neg nothing, read]

-- A platform that compares names exactly tells all names apart.
theorem told_apart_exactly (sensitive : t.kCaseSensitive = true) (patterns : List Chars) : ToldApart t patterns := by
  intro a _ b _ same
  simpa [compared, sensitive] using same

theorem find_entry (pattern : Chars) (patterns : List Chars) :
    patterns.find? (sameEntry t pattern) = Keyed.lookup (compared t) patterns (compared t pattern) := by
  rw [same_entry_eq, Keyed.lookup]

theorem add_entry_eq (c : UInt8) (rest : Chars) :
    addEntry t b (some (c :: rest)) = (.success, ⟨Keyed.appendNew (compared t) b.patterns (c :: rest)⟩) := by
  rw [addEntry, find_entry, Keyed.appendNew]
  · cases found : Keyed.lookup (compared t) b.patterns (compared t (c :: rest)) with
    | none => rw [if_neg ((Keyed.lookup_none _ _ _).mp found), Option.isNone_none, if_pos rfl]
    | some existing =>
        obtain ⟨member, same⟩ := Keyed.lookup_mem _ _ _ existing found
        rw [Option.isNone_some, if_neg Bool.false_ne_true, if_pos (same ▸ List.mem_map_of_mem member)]
  · exact List.cons_ne_nil c rest

theorem remove_entry_eq (pattern : Chars) :
    removeEntry t b (some pattern) =
      if compared t pattern ∈ Keyed.keys (compared t) b.patterns then
        (.success, ⟨Keyed.remove (compared t) b.patterns (compared t pattern)⟩)
      else (.notFound, b) := by
  rw [removeEntry, find_entry]
  cases found : Keyed.lookup (compared t) b.patterns (compared t pattern) with
  | none => rw [if_neg ((Keyed.lookup_none _ _ _).mp found)]
  | some existing =>
      obtain ⟨member, same⟩ := Keyed.lookup_mem _ _ _ existing found
      rw [if_pos (same ▸ List.mem_map_of_mem member), same_entry_eq, Keyed.remove]

theorem add_entry_keeps (pattern : Option Chars) (distinct : Distinct t b.patterns) :
    Distinct t (addEntry t b pattern).2.patterns := by
  match pattern with
  | none | some [] => exact distinct
  | some (c :: rest) =>
      rw [distinct_iff_keys] at distinct ⊢
      rw [add_entry_eq]
      exact Keyed.append_new_distinct (compared t) b.patterns (c :: rest) distinct

theorem remove_entry_keeps (pattern : Option Chars) (distinct : Distinct t b.patterns) :
    Distinct t (removeEntry t b pattern).2.patterns := by
  cases pattern with
  | none => exact distinct
  | some pattern =>
      rw [remove_entry_eq]
      by_cases listed : compared t pattern ∈ Keyed.keys (compared t) b.patterns
      · rw [if_pos listed]
        exact distinct.sublist (Keyed.remove_sublist _ _ _)
      · rw [if_neg listed]
        exact distinct

-- What a successful removal leaves: nothing that the platform takes for the name.
def Removes (patterns : List Chars) : Prop :=
  ∀ pattern, (removeEntry t ⟨patterns⟩ (some pattern)).1 = .success →
    (∀ existing ∈ (removeEntry t ⟨patterns⟩ (some pattern)).2.patterns, sameEntry t pattern existing = false) ∧
      (removeEntry t (removeEntry t ⟨patterns⟩ (some pattern)).2 (some pattern)).1 = .notFound

theorem removes_of_distinct (patterns : List Chars) (distinct : Distinct t patterns) : Removes t patterns := by
  intro pattern removed
  rw [distinct_iff_keys] at distinct
  by_cases listed : compared t pattern ∈ Keyed.keys (compared t) patterns
  · have gone : compared t pattern ∉ Keyed.keys (compared t) (Keyed.remove (compared t) patterns (compared t pattern)) :=
      fun there => ((Keyed.remaining_keys _ _ _ distinct _).mp there).1 rfl
    rw [remove_entry_eq, if_pos listed]
    refine ⟨fun existing member => ?_, by rw [remove_entry_eq, if_neg gone]⟩
    rw [Bool.eq_false_iff, Ne, same_entry_iff]
    intro same
    rw [← same] at gone
    exact gone (List.mem_map_of_mem (same ▸ member))
  · rw [remove_entry_eq, if_neg listed] at removed
    cases removed

inductive Call where
  | addEntry (pattern : Option Chars)
  | loadFile (filePath file : Option Chars)
  | removeEntry (pattern : Option Chars)
  | clear
deriving DecidableEq, Repr

def call : Call → ApiBlocklist
  | .addEntry pattern => (addEntry t b pattern).2
  | .loadFile filePath file => (loadFile b filePath file).2
  | .removeEntry pattern => (removeEntry t b pattern).2
  | .clear => clear

-- The object that starts with an ini file, and its calls.
def machine (ini : Option Chars) : Machine ApiBlocklist Call where
  init := create t ini
  step := fun b c => some (call t b c)

structure SetLike : Prop where
  distinct : Distinct t b.patterns
  removes : Removes t b.patterns

-- A file that is read names nothing twice, also together with what is stored, in
-- spellings that the platform does not tell apart.
def LoadsApart (b : ApiBlocklist) : Call → Prop
  | .loadFile (some (_ :: _)) (some content) => ToldApart t (b.patterns ++ newPatterns content)
  | _ => True

theorem set_like_iff : SetLike t b ↔ Distinct t b.patterns :=
  ⟨SetLike.distinct, fun distinct => ⟨distinct, removes_of_distinct t b.patterns distinct⟩⟩

theorem call_distinct (c : Call) (distinct : Distinct t b.patterns) :
    Distinct t (call t b c).patterns ↔ LoadsApart t b c := by
  cases c with
  | addEntry pattern => exact iff_of_true (add_entry_keeps t b pattern distinct) trivial
  | removeEntry pattern => exact iff_of_true (remove_entry_keeps t b pattern distinct) trivial
  | clear => exact iff_of_true List.Pairwise.nil trivial
  | loadFile filePath file =>
      match filePath, file with
      | none, _ | some [], _ | some (_ :: _), none => exact iff_of_true distinct trivial
      | some (_ :: _), some content =>
          rw [call, loadFile, append_missing_eq]
          exact append_missing_distinct t (newPatterns content) b.patterns distinct

-- From a start without repetitions every call keeps the set exactly where it loads apart.
theorem set_like_runs (ini : Option Chars) (start : Distinct t (create t ini).patterns) (calls : List Call) :
    Meets (machine t ini) (LoadsApart t) (create t ini) calls ↔ Always (machine t ini) (SetLike t) (create t ini) calls := by
  refine keeps_iff_always (machine t ini) (LoadsApart t) (SetLike t) ((set_like_iff t _).mpr start) ?_ calls
  intro b c after _ holds taken
  cases taken
  exact (set_like_iff t _).trans (call_distinct t b c holds.distinct)

theorem blocklist_is_set_iff (ini : Option Chars) (calls : List Call) :
    ToldApart t (iniEntries t ini) ∧ Meets (machine t ini) (LoadsApart t) (create t ini) calls ↔
      Always (machine t ini) (SetLike t) (create t ini) calls := by
  have start := create_distinct t ini
  constructor
  · rintro ⟨apart, meets⟩
    exact (set_like_runs t ini (start.mpr apart) calls).mp meets
  · intro always
    have distinct := (set_like_iff t _).mp (always_here _ _ _ _ always)
    exact ⟨start.mp distinct, (set_like_runs t ini distinct calls).mpr always⟩

-- Both spellings of one name in a file are stored.
theorem blocklist_keeps_spellings :
    ¬ Always (machine .win32 none) (SetLike .win32) (create .win32 none)
      [.clear, .loadFile (some (ascii "list.txt")) (some (ascii "Game.exe\ngame.exe"))] := by
  intro always
  have stored := (set_like_iff .win32 _).mp (always_here _ _ _ _ ((always.2 _ rfl).2 _ rfl))
  revert stored
  rw [Distinct]
  decide +kernel

-- Where names are compared exactly there is nothing to overlook.
theorem blocklist_is_set_exactly (sensitive : t.kCaseSensitive = true) (ini : Option Chars) (calls : List Call) :
    Always (machine t ini) (SetLike t) (create t ini) calls := by
  have start := (create_distinct t ini).mpr (told_apart_exactly t sensitive _)
  have always_set (b : ApiBlocklist) (reach : Reachable (machine t ini) b) : SetLike t b := by
    refine reachable_invariant (machine t ini) (SetLike t) ((set_like_iff t _).mpr start) ?_ b reach
    intro b c after holds taken
    cases taken
    refine (set_like_iff t _).mpr ((call_distinct t b c holds.distinct).mpr ?_)
    match c with
    | .addEntry _ | .removeEntry _ | .clear => trivial
    | .loadFile none _ | .loadFile (some []) _ | .loadFile (some (_ :: _)) none => trivial
    | .loadFile (some (_ :: _)) (some content) => exact told_apart_exactly t sensitive _
  exact meets_always (machine t ini) unrestricted (SetLike t) always_set _ .init calls (meets_unrestricted _ _ calls)

-- A process is blocked where its name belongs to the language of a stored pattern.
theorem contains_iff (processPath : Chars) :
    contains t b processPath = true ↔
      getBasename processPath ≠ [] ∧ ∃ pattern ∈ b.patterns,
        cStr (compared t (getBasename processPath)) ∈ patternLanguage (cStr (compared t pattern)) := by
  rw [contains]
  by_cases empty : getBasename processPath = []
  · simp [empty]
  · simp [empty, matches_c_str, compared]

end ApiBlocklist

end RadeonPanel.CaptureApi

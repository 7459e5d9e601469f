import RadeonPanel.Base.Runs
import RadeonPanel.Base.Settings
import RadeonPanel.Frontend.ApplicationModel
import Mathlib.Data.List.Dedup

set_option autoImplicit false

namespace RadeonPanel.Frontend

open Interleaving Settings

inductive Platform where
  | unknown
  | windows
  | linux
deriving DecidableEq, Repr

-- The platforms from behind `unknown` up to the count.
def platforms : List Platform := [.windows, .linux]

def kBlocklistGroup : String := "Blocklist"

def kRemovedDefaultsGroup : String := "BlocklistRemovedDefaults"

def groupNameFromPlatform : Platform → String
  | .windows => "Win32"
  | .linux => "Linux"
  | .unknown => "Unknown"

def applicationsPath (platform : Platform) : Path := [.group (groupNameFromPlatform platform), .group "applications"]

def platformPath (group : String) (platform : Platform) : Path := .group group :: applicationsPath platform

def legacyPath : Path := [.group kBlocklistGroup, .group "applications"]

def versionPath : Path := [.group "version"]

def fileSuffix (name : String) : String :=
  let fileName := name.toList.reverse.takeWhile (· ≠ '/')
  if '.' ∈ fileName then .ofList (fileName.takeWhile (· ≠ '.')).reverse else ""

-- What the panel finds outside: the compiled-in default blocklist, the wildcard
-- expression of an item (none when it is not valid) and the order in which a
-- set of names is walked.
structure Surroundings where
  defaultSettings : Store
  fromWildcard : String → Option (String → Bool)
  walk : List String → List String
  walk_perm : ∀ names, (walk names).Perm names

def Surroundings.defaults (env : Surroundings) (platform : Platform) : List String :=
  readArray env.defaultSettings (applicationsPath platform)

-- The lists by their platform, with the settings file the model saves into.
-- A set is a list without repetitions.
structure BlocklistModel where
  blocklists : Platform → List String
  defaultBlocklist : Platform → List String
  removedDefaultBlocklist : Platform → List String
  platform : Platform
  settings : Store

namespace BlocklistModel

def constructed (settings : Store) : BlocklistModel :=
  ⟨fun _ => [], fun _ => [], fun _ => [], .unknown, settings⟩

def writeLists (group : String) (lists : Platform → List String) (settings : Store) : Store :=
  platforms.foldl (fun s p => writeArray s (platformPath group p) (lists p)) settings

def readLists (group : String) (settings : Store) (platform : Platform) : List String :=
  if platform ∈ platforms then readArray settings (platformPath group platform) else []

-- The old format kept one list for all platforms.
def legacyLists (settings : Store) : Platform → List String
  | .unknown => []
  | .windows => (readArray settings legacyPath).filter (fileSuffix · = "exe")
  | .linux => (readArray settings legacyPath).filter (fileSuffix · ≠ "exe")

def loadBlocklists (settings : Store) : (Platform → List String) × Store :=
  if (value settings versionPath (.number 1)).toInt ≤ 1 ∧ .group kBlocklistGroup ∈ childGroups settings then
    let lists := legacyLists settings
    (lists, KeyedValues.assign (writeLists kBlocklistGroup lists settings) versionPath (.text "2"))
  else if .group kBlocklistGroup ∈ childGroups settings then (readLists kBlocklistGroup settings, settings)
  else (fun _ => [], settings)

def loadRemovedDefaults (groups : List Segment) (settings : Store) (platform : Platform) : List String :=
  if .group kRemovedDefaultsGroup ∈ groups then (readLists kRemovedDefaultsGroup settings platform).dedup else []

def addDefaults (ignored : List String) : List String → List String → List String
  | list, [] => list
  | list, name :: rest =>
      addDefaults ignored (if name ∉ ignored ∧ name ∉ list then list ++ [name] else list) rest

section Operations
variable (env : Surroundings) (m : BlocklistModel)

def load : BlocklistModel :=
  let loaded := loadBlocklists m.settings
  let removed := loadRemovedDefaults (childGroups m.settings) loaded.2
  { m with
    blocklists := fun p => if p ∈ platforms then addDefaults (removed p) (loaded.1 p) (env.defaults p) else []
    defaultBlocklist := fun p => if p ∈ platforms then env.defaults p else m.defaultBlocklist p
    removedDefaultBlocklist := fun p => if p ∈ platforms then removed p else m.removedDefaultBlocklist p
    settings := loaded.2 }

def save : BlocklistModel :=
  { m with
    settings :=
      writeLists kRemovedDefaultsGroup (fun p => env.walk (m.removedDefaultBlocklist p))
        (writeLists kBlocklistGroup m.blocklists (KeyedValues.assign m.settings versionPath (.number 3))) }

def containsOn (name : String) (platform : Platform) : Bool :=
  (m.blocklists platform).any fun item =>
    match env.fromWildcard item with
    | some hasMatch => hasMatch name
    | none => name = item

def contains (name : String) : Bool :=
  if m.platform ≠ .unknown then containsOn env m name m.platform else platforms.any (containsOn env m name)

def setList (platform : Platform) (list : List String) : BlocklistModel :=
  { m with blocklists := Function.update m.blocklists platform list }

-- The loop runs through the platforms but takes the list of the current one each time.
def restoreDefaults : BlocklistModel :=
  save env (platforms.foldl (fun m p =>
    { setList m m.platform (m.defaultBlocklist m.platform) with
      removedDefaultBlocklist := Function.update m.removedDefaultBlocklist p [] }) m)

def addApplication (name : String) : BlocklistModel :=
  if m.platform = .unknown then m
  else if trimmed name = "" then m
  else if contains env m (trimmed name) then m
  else save env (setList m m.platform (m.blocklists m.platform ++ [trimmed name]))

-- A row outside the list ends the program.
def setData (row : Int) (text : String) (editRole : Bool) : Option (BlocklistModel × Bool) :=
  if editRole = false then some (m, false)
  else if trimmed text = "" then some (m, false)
  else if contains env m (trimmed text) then some (m, false)
  else if row < 0 ∨ (m.blocklists m.platform).length ≤ row.toNat then none
  else some (save env (setList m m.platform ((m.blocklists m.platform).set row.toNat (trimmed text))), true)

def removeAt (m : BlocklistModel) (row : Nat) : Nat → Option BlocklistModel
  | 0 => some m
  | count + 1 =>
      match (m.blocklists m.platform)[row]? with
      | none => none
      | some name =>
          let removed := m.removedDefaultBlocklist m.platform
          removeAt
            { setList m m.platform ((m.blocklists m.platform).eraseIdx row) with
              removedDefaultBlocklist := Function.update m.removedDefaultBlocklist m.platform
                (if name ∈ m.defaultBlocklist m.platform then removed.insert name else removed) }
            row count

def removeRows (row count : Int) : Option (BlocklistModel × Bool) :=
  if 0 ≤ row then (removeAt m row.toNat count.toNat).map fun removed => (save env removed, true)
  else some (m, false)

def kWindowsIdentifier : String := "Windows"

def kLinuxIdentifier : String := "Linux"

def mentions (text word : String) : Bool := decide (word.toList <:+: text.toList)

def onSystemInfoModelLoaded (osName osDescription : String) : BlocklistModel :=
  load env
    (if mentions osName kWindowsIdentifier || mentions osDescription kWindowsIdentifier then
      { m with platform := .windows }
    else if mentions osName kLinuxIdentifier || mentions osDescription kLinuxIdentifier then
      { m with platform := .linux }
    else m)

def netDisconnecting : BlocklistModel := load env { m with platform := .unknown }

end Operations

inductive Operation where
  | restoreDefaults
  | addApplication (name : String)
  | setData (row : Int) (text : String) (editRole : Bool)
  | removeRows (row count : Int)
  | onSystemInfoModelLoaded (osName osDescription : String)
  | netDisconnecting
deriving DecidableEq, Repr

def step (env : Surroundings) (m : BlocklistModel) : Operation → Option BlocklistModel
  | .restoreDefaults => some (restoreDefaults env m)
  | .addApplication name => some (addApplication env m name)
  | .setData row text editRole => (setData env m row text editRole).map Prod.fst
  | .removeRows row count => (removeRows env m row count).map Prod.fst
  | .onSystemInfoModelLoaded osName osDescription => some (onSystemInfoModelLoaded env m osName osDescription)
  | .netDisconnecting => some (netDisconnecting env m)

-- The panel as it starts: constructed on the stored settings and loaded.
def machine (env : Surroundings) (settings : Store) : Machine BlocklistModel Operation :=
  ⟨load env (constructed settings), step env⟩

-- The lists after the panel has been closed and started again.
def restarted (env : Surroundings) (m : BlocklistModel) : BlocklistModel := load env (constructed m.settings)

def Survives (env : Surroundings) (m : BlocklistModel) : Prop :=
  ∀ p ∈ platforms, (restarted env m).blocklists p = m.blocklists p

def Restored (env : Surroundings) (m : BlocklistModel) : Prop :=
  ∀ p ∈ platforms, m.blocklists p = env.defaults p

end BlocklistModel

end RadeonPanel.Frontend

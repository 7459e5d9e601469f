import Mathlib.Data.List.Infix
import RadeonPanel.CaptureApi.SystemInfo

set_option autoImplicit false

namespace RadeonPanel.TraceSource

open CaptureApi (DriverInfo GpuInfo SystemInfo Text)

inductive GpuSeries where
  | unknown | polaris | vega | navi1 | navi2 | vanGogh | navi3 | rembrandt | mgfx | phoenix | raphael | strix | krackan | mendocino | navi4
deriving DecidableEq, Repr

-- The value of the enumeration.
def GpuSeries.value : GpuSeries → Nat
  | .unknown => 0
  | .polaris => 1
  | .vega => 2
  | .navi1 => 3
  | .navi2 => 4
  | .vanGogh => 5
  | .navi3 => 6
  | .rembrandt => 7
  | .mgfx => 8
  | .phoenix => 9
  | .raphael => 10
  | .strix => 11
  | .krackan => 12
  | .mendocino => 13
  | .navi4 => 14

inductive GpuArchitecture where
  | unknown | gcn4 | gcn5 | rdna1 | rdna2 | rdna3 | rdna4
deriving DecidableEq, Repr

def kFamilyPolaris : UInt32 := 0x82
def kGfx9Start : UInt32 := 0x8D
def kGfx9End : UInt32 := 0x8E
def kFamilyNavi : UInt32 := 0x8F
def kNavi2XMinimumRevision : UInt32 := 0x28
def kFamilyVanGogh : UInt32 := 0x90
def kFamilyNavi3 : UInt32 := 0x91
def kFamilyRembrandt : UInt32 := 0x92
def kFamilyMgfx : UInt32 := 0x93
def kFamilyPhoenix : UInt32 := 0x94
def kFamilyRaphael : UInt32 := 0x95
def kFamilyStrix : UInt32 := 0x96
def kFamilyMendocino : UInt32 := 0x97
def kFamilyNavi4 : UInt32 := 0x98

def kStrix1Id : UInt32 := 0x150E
def kStrixHaloId : UInt32 := 0x1586
def kKrackan1Id : UInt32 := 0x1114
def kKrackan2Id : UInt32 := 0x1902

def kKrackanDevices : List UInt32 := [kKrackan1Id, kKrackan2Id]

namespace AsicInfo

-- A device of the Krackan series is told by its id, every other one by its family.
def familySeries (asicFamily asicERev : UInt32) : GpuSeries :=
  if asicFamily = kFamilyPolaris then .polaris
  else if kGfx9Start ≤ asicFamily ∧ asicFamily ≤ kGfx9End then .vega
  else if asicFamily = kFamilyNavi then if asicERev < kNavi2XMinimumRevision then .navi1 else .navi2
  else if asicFamily = kFamilyVanGogh then .vanGogh
  else if asicFamily = kFamilyRembrandt then .rembrandt
  else if asicFamily = kFamilyMgfx then .mgfx
  else if asicFamily = kFamilyRaphael then .raphael
  else if asicFamily = kFamilyMendocino then .mendocino
  else if asicFamily = kFamilyNavi3 then .navi3
  else if asicFamily = kFamilyPhoenix then .phoenix
  else if asicFamily = kFamilyStrix then .strix
  else if asicFamily = kFamilyNavi4 then .navi4
  else .unknown

def getGpuSeries (deviceId asicFamily asicERev : UInt32) : GpuSeries :=
  if deviceId ∈ kKrackanDevices then .krackan else familySeries asicFamily asicERev

def getGpuArchitecture : GpuSeries → GpuArchitecture
  | .polaris => .gcn4
  | .vega => .gcn5
  | .navi1 => .rdna1
  | .navi2 | .vanGogh | .rembrandt | .mgfx | .raphael | .mendocino => .rdna2
  | .navi3 | .phoenix | .strix | .krackan => .rdna3
  | .navi4 => .rdna4
  | .unknown => .unknown

def seriesOf (gpu : GpuInfo) : GpuSeries := getGpuSeries gpu.asic.device gpu.asic.family gpu.asic.eRev

theorem family_not_krackan (asicFamily asicERev : UInt32) : familySeries asicFamily asicERev ≠ .krackan := by
  have either {p : Prop} [Decidable p] {first rest : GpuSeries} (here : first ≠ .krackan) (later : rest ≠ .krackan) :
      (if p then first else rest) ≠ .krackan := iteInduction (motive := (· ≠ GpuSeries.krackan)) (fun _ => here) fun _ => later
  rw [familySeries]
  iterate 2 refine either (by simp) ?_
  refine either (either (by simp) (by simp)) ?_
  iterate 9 refine either (by simp) ?_
  simp

-- The series that have a family for themselves.
def ownFamily : GpuSeries → Option UInt32
  | .polaris => some kFamilyPolaris
  | .vanGogh => some kFamilyVanGogh
  | .navi3 => some kFamilyNavi3
  | .rembrandt => some kFamilyRembrandt
  | .mgfx => some kFamilyMgfx
  | .phoenix => some kFamilyPhoenix
  | .raphael => some kFamilyRaphael
  | .strix => some kFamilyStrix
  | .mendocino => some kFamilyMendocino
  | .navi4 => some kFamilyNavi4
  | .unknown | .vega | .navi1 | .navi2 | .krackan => none

def Owned (asicFamily : UInt32) (series : GpuSeries) : Prop := ownFamily series = none ∨ ownFamily series = some asicFamily

theorem family_owned (asicFamily asicERev : UInt32) : Owned asicFamily (familySeries asicFamily asicERev) := by
  have own : ∀ {family : UInt32} {series : GpuSeries}, ownFamily series = some family → asicFamily = family → Owned asicFamily series :=
    fun family same => .inr (same ▸ family)
  have shared : ∀ {series : GpuSeries}, ownFamily series = none → Owned asicFamily series := .inl
  rw [familySeries]
  refine iteInduction (own rfl) fun _ => ?_
  refine iteInduction (fun _ => shared rfl) fun _ => ?_
  refine iteInduction (fun _ => iteInduction (fun _ => shared rfl) fun _ => shared rfl) fun _ => ?_
  iterate 9 refine iteInduction (own rfl) fun _ => ?_
  exact shared rfl

theorem family_series_iff {series : GpuSeries} {family : UInt32} (own : ownFamily series = some family) (asicFamily asicERev : UInt32) :
    familySeries asicFamily asicERev = series ↔ asicFamily = family := by
  constructor
  · intro same
    obtain missing | found := family_owned asicFamily asicERev
    · rw [same, own] at missing
      cases missing
    · rw [same, own] at found
      exact (Option.some.inj found).symm
  · intro same
    rw [same]
    cases series <;> cases own <;> rfl

theorem series_krackan_iff (deviceId asicFamily asicERev : UInt32) :
    getGpuSeries deviceId asicFamily asicERev = .krackan ↔ deviceId ∈ kKrackanDevices := by
  rw [getGpuSeries]
  split
  · exact ⟨fun _ => ‹_›, fun _ => rfl⟩
  · rename_i other
    exact ⟨fun krackan => absurd krackan (family_not_krackan asicFamily asicERev), fun device => absurd device other⟩

end AsicInfo

section Drivers

-- `string::find(part) != npos`
def containsText (part text : Text) : Bool := text.tails.any fun rest => part.isPrefixOf rest

def isDriverTooOld (driver : DriverInfo) (desiredMajorVersion desiredMinorVersion : UInt32) : Bool :=
  driver.packagingVersionMajor < desiredMajorVersion ||
    (driver.packagingVersionMajor == desiredMajorVersion && driver.packagingVersionMinor < desiredMinorVersion)

-- The order of the pairs of major and minor version.
def isOlder (driver other : DriverInfo) : Bool := isDriverTooOld driver other.packagingVersionMajor other.packagingVersionMinor

-- `std::ranges::max_element`: of equal ones the first.
def newestOf : DriverInfo → List DriverInfo → DriverInfo
  | newest, [] => newest
  | newest, driver :: rest => newestOf (if isOlder newest driver then driver else newest) rest

def getNewestDriver (systemInfo : SystemInfo) : DriverInfo :=
  match systemInfo.drivers with
  | [] => systemInfo.driver
  | driver :: rest => newestOf driver rest

theorem old_iff (driver : DriverInfo) (major minor : UInt32) :
    isDriverTooOld driver major minor = true ↔
      driver.packagingVersionMajor.toNat < major.toNat ∨
        driver.packagingVersionMajor.toNat = major.toNat ∧ driver.packagingVersionMinor.toNat < minor.toNat := by
  simp [isDriverTooOld, UInt32.lt_iff_toNat_lt, UInt32.toNat_inj]

-- A driver that is not older than another one is at least as new as whatever the other one is.
theorem old_later {driver later : DriverInfo} {major minor : UInt32} (kept : isOlder later driver = false)
    (old : isDriverTooOld later major minor = true) : isDriverTooOld driver major minor = true := by
  rw [← Bool.not_eq_true, isOlder, old_iff] at kept
  rw [old_iff] at old ⊢
  omega

end Drivers

section Reported

def reportedGpu (device family eRev : UInt32) : GpuInfo where
  name := []
  asic := ⟨0, 0, 0, family, device, 0, eRev, 0x1002, 0, .replicate 8 0⟩
  memory := ⟨[], 0, 0, 0, 0, 0, []⟩
  pci := ⟨0, 0, 0, 0⟩
  bigSw := ⟨0, 0, 0⟩
  driverIndex := none

def reportedDriver (major minor : UInt32) : DriverInfo := ⟨[], [], [], none, [], major, minor⟩

def reportedSystem (osName : Text) (driver : DriverInfo) (gpus : List GpuInfo) : SystemInfo where
  os := ⟨osName, osName, [], [], 0, 0, false, false, false⟩
  driver := driver
  drivers := []
  cpus := []
  gpus := gpus

end Reported

end RadeonPanel.TraceSource

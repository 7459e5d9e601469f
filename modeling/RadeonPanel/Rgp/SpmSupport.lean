import RadeonPanel.TraceSource.AsicInfo

set_option autoImplicit false

namespace RadeonPanel.Rgp

open CaptureApi (DriverInfo GpuInfo OsInfo SystemInfo Text)
open TraceSource AsicInfo

def kZ2ANavi2Id : UInt32 := 0x163F

def kSpmDisabledGpuSeries : List GpuSeries := [.rembrandt, .vanGogh, .phoenix]
def kSpmConditionalDisabledRdna3_5ApuSeries : List GpuSeries := [.strix, .krackan]
def kSpmConditionalDisabledRdna3ApuSeries : GpuSeries := .phoenix

-- "Linux"
def linuxName : Text := [76, 105, 110, 117, 120]

-- `enableSpmCounters` is whether the environment variable is set.
def isSpmCaptureSupported (enableSpmCounters : Bool) (gpu : GpuInfo) (systemInfo : SystemInfo) : Bool :=
  if enableSpmCounters then true
  else
    let gpuSeries := getGpuSeries 0 gpu.asic.family gpu.asic.eRev
    let driver := getNewestDriver systemInfo
    if gpuSeries.value < GpuSeries.navi1.value || kSpmDisabledGpuSeries.contains gpuSeries then false
    else if GpuSeries.navi2.value ≤ gpuSeries.value &&
        (containsText linuxName systemInfo.os.desc && isDriverTooOld driver 22 40) then false
    else if (kSpmConditionalDisabledRdna3_5ApuSeries.contains gpuSeries || gpu.asic.device == kZ2ANavi2Id) &&
        isDriverTooOld driver 25 10 then false
    else if gpuSeries == kSpmConditionalDisabledRdna3ApuSeries && isDriverTooOld driver 26 10 then false
    else true

inductive VersionGate where
  | linux | rdna3_5Apu | rdna3Apu | z2A
deriving DecidableEq, Repr

namespace VersionGate

def minimum : VersionGate → UInt32 × UInt32
  | .linux => (22, 40)
  | .rdna3_5Apu | .z2A => (25, 10)
  | .rdna3Apu => (26, 10)

def concernsSeries (series : GpuSeries) (device : UInt32) (os : OsInfo) : VersionGate → Bool
  | .linux => containsText linuxName os.desc && GpuSeries.navi2.value ≤ series.value
  | .rdna3_5Apu => kSpmConditionalDisabledRdna3_5ApuSeries.contains series
  | .rdna3Apu => series == .phoenix
  | .z2A => device == kZ2ANavi2Id

def concerns (gpu : GpuInfo) (os : OsInfo) : VersionGate → Bool := concernsSeries (seriesOf gpu) gpu.asic.device os

def passes (driver : DriverInfo) (gate : VersionGate) : Bool := !isDriverTooOld driver gate.minimum.1 gate.minimum.2

end VersionGate

-- The series must be new enough and not be excluded, unless it or the device has a minimum version.
structure OtherGatesMet (gpu : GpuInfo) (os : OsInfo) (driver : DriverInfo) (gate : VersionGate) : Prop where
  recent : GpuSeries.navi1.value ≤ (seriesOf gpu).value
  listed : kSpmDisabledGpuSeries.contains (seriesOf gpu) = true → seriesOf gpu = .phoenix ∨ gpu.asic.device = kZ2ANavi2Id
  others : ∀ other ≠ gate, other.concerns gpu os = true → other.passes driver = true

structure Gated (gpu : GpuInfo) (os : OsInfo) : Prop where
  monotone : ∀ older newer : SystemInfo, older.os = os → newer.os = os → isOlder (getNewestDriver newer) (getNewestDriver older) = false →
    isSpmCaptureSupported false gpu older = true → isSpmCaptureSupported false gpu newer = true
  effective : ∀ gate : VersionGate, gate.concerns gpu os = true → ∀ systemInfo : SystemInfo, systemInfo.os = os →
    OtherGatesMet gpu os (getNewestDriver systemInfo) gate →
    (isSpmCaptureSupported false gpu systemInfo = true ↔ gate.passes (getNewestDriver systemInfo) = true)

section Support
variable {gpu : GpuInfo} {os : OsInfo} {systemInfo : SystemInfo}

theorem every_gate {kept : VersionGate → Prop} :
    (∀ gate, kept gate) ↔ kept .linux ∧ kept .rdna3_5Apu ∧ kept .rdna3Apu ∧ kept .z2A := by
  constructor
  · exact fun all => ⟨all .linux, all .rdna3_5Apu, all .rdna3Apu, all .z2A⟩
  · intro ⟨linux, rdna3_5Apu, rdna3Apu, z2A⟩ gate
    cases gate <;> assumption

-- What is looked at is the series that the family alone gives.
theorem spm_supported_iff :
    isSpmCaptureSupported false gpu systemInfo = true ↔
      GpuSeries.navi1.value ≤ (familySeries gpu.asic.family gpu.asic.eRev).value ∧
      kSpmDisabledGpuSeries.contains (familySeries gpu.asic.family gpu.asic.eRev) = false ∧
      ∀ gate : VersionGate, gate.concernsSeries (familySeries gpu.asic.family gpu.asic.eRev) gpu.asic.device systemInfo.os = true →
        gate.passes (getNewestDriver systemInfo) = true := by
  have series : getGpuSeries 0 gpu.asic.family gpu.asic.eRev = familySeries gpu.asic.family gpu.asic.eRev := rfl
  rw [isSpmCaptureSupported, series, every_gate]
  generalize familySeries gpu.asic.family gpu.asic.eRev = series
  simp only [VersionGate.concernsSeries, VersionGate.passes, VersionGate.minimum, kSpmConditionalDisabledRdna3ApuSeries]
  generalize isDriverTooOld (getNewestDriver systemInfo) 22 40 = linuxOld
  generalize isDriverTooOld (getNewestDriver systemInfo) 25 10 = apuOld
  generalize isDriverTooOld (getNewestDriver systemInfo) 26 10 = phoenixOld
  generalize containsText linuxName systemInfo.os.desc = linux
  generalize kSpmDisabledGpuSeries.contains series = disabled
  generalize kSpmConditionalDisabledRdna3_5ApuSeries.contains series = conditional
  grind

theorem series_of_family {series : GpuSeries} {family : UInt32} (own : ownFamily series = some family) (same : seriesOf gpu = series) :
    gpu.asic.family = family := by
  rw [seriesOf, getGpuSeries] at same
  split at same
  · rw [← same] at own
    cases own
  · exact (family_series_iff own _ _).mp same

theorem spm_monotone {older newer : SystemInfo} (same : older.os = newer.os)
    (kept : isOlder (getNewestDriver newer) (getNewestDriver older) = false) (supported : isSpmCaptureSupported false gpu older = true) :
    isSpmCaptureSupported false gpu newer = true := by
  rw [spm_supported_iff] at supported ⊢
  obtain ⟨recent, listed, gates⟩ := supported
  refine ⟨recent, listed, fun gate concerned => ?_⟩
  have passed := gates gate (same ▸ concerned)
  rw [VersionGate.passes, Bool.not_eq_true'] at passed ⊢
  by_contra old
  rw [Bool.not_eq_false] at old
  exact Bool.false_ne_true (passed.symm.trans (old_later kept old))

-- Where the family gives the gates of the series.
theorem spm_gates (krackan : gpu.asic.device ∈ kKrackanDevices → gpu.asic.family = kFamilyStrix) :
    isSpmCaptureSupported false gpu systemInfo = true ↔
      GpuSeries.navi1.value ≤ (seriesOf gpu).value ∧ kSpmDisabledGpuSeries.contains (seriesOf gpu) = false ∧
      ∀ gate : VersionGate, gate.concerns gpu systemInfo.os = true → gate.passes (getNewestDriver systemInfo) = true := by
  rw [spm_supported_iff, VersionGate.concerns]
  by_cases device : gpu.asic.device ∈ kKrackanDevices
  · have series : seriesOf gpu = .krackan := (series_krackan_iff _ _ _).mpr device
    have family : familySeries gpu.asic.family gpu.asic.eRev = .strix := (family_series_iff rfl _ _).mpr (krackan device)
    have alike : VersionGate.concernsSeries .strix gpu.asic.device systemInfo.os =
        VersionGate.concernsSeries .krackan gpu.asic.device systemInfo.os := by
      funext gate
      cases gate <;> rfl
    rw [series, family, alike]
    exact and_congr (by decide) (and_congr (by decide) Iff.rfl)
  · have series : seriesOf gpu = familySeries gpu.asic.family gpu.asic.eRev := if_neg device
    rw [series]

def systemWith (os : OsInfo) (driver : DriverInfo) : SystemInfo := ⟨os, driver, [], [], []⟩

-- From 26.10 on every gate passes.
theorem gated_supported (gated : Gated gpu os) {gate : VersionGate} (concerned : gate.concerns gpu os = true)
    (recent : GpuSeries.navi1.value ≤ (seriesOf gpu).value)
    (listed : kSpmDisabledGpuSeries.contains (seriesOf gpu) = true → seriesOf gpu = .phoenix ∨ gpu.asic.device = kZ2ANavi2Id) :
    isSpmCaptureSupported false gpu (systemWith os (reportedDriver 26 10)) = true := by
  have passed : ∀ other : VersionGate, other.passes (reportedDriver 26 10) = true := by
    intro other
    cases other <;> rfl
  exact (gated.effective gate concerned (systemWith os (reportedDriver 26 10)) rfl ⟨recent, listed, fun other _ _ => passed other⟩).mpr
    (passed gate)

theorem gated_krackan (gated : Gated gpu os) (device : gpu.asic.device ∈ kKrackanDevices) : gpu.asic.family = kFamilyStrix := by
  have series : seriesOf gpu = .krackan := (series_krackan_iff _ _ _).mpr device
  have other_device : gpu.asic.device ≠ kZ2ANavi2Id := fun same => absurd (same ▸ device) (by decide)
  have concerned : VersionGate.rdna3_5Apu.concerns gpu os = true := by
    rw [VersionGate.concerns, series]
    rfl
  have recent : GpuSeries.navi1.value ≤ (seriesOf gpu).value := by
    rw [series]
    decide
  have listed : kSpmDisabledGpuSeries.contains (seriesOf gpu) = false := by
    rw [series]
    rfl
  have supported := gated_supported gated concerned recent fun excluded => absurd (listed.symm.trans excluded) Bool.false_ne_true
  obtain ⟨seen_recent, seen_listed, _⟩ := spm_supported_iff.mp supported
  have unsupported : ¬isSpmCaptureSupported false gpu (systemWith os (reportedDriver 25 9)) = true := by
    intro early
    have passed := (gated.effective .rdna3_5Apu concerned (systemWith os (reportedDriver 25 9)) rfl ⟨recent, ?_, ?_⟩).mp early
    · cases passed
    · exact fun excluded => absurd (listed.symm.trans excluded) Bool.false_ne_true
    · intro other different concerned
      cases other with
      | linux => rfl
      | rdna3_5Apu => exact absurd rfl different
      | rdna3Apu =>
          rw [VersionGate.concerns, series] at concerned
          cases concerned
      | z2A => exact absurd (beq_iff_eq.mp concerned) other_device
  by_contra family
  refine unsupported (spm_supported_iff.mpr ⟨seen_recent, seen_listed, fun gate concerned => ?_⟩)
  cases gate with
  | linux => rfl
  | rdna3_5Apu =>
      have strix : familySeries gpu.asic.family gpu.asic.eRev ≠ .strix := fun same => family ((family_series_iff rfl _ _).mp same)
      have other := family_not_krackan gpu.asic.family gpu.asic.eRev
      simp [VersionGate.concernsSeries, kSpmConditionalDisabledRdna3_5ApuSeries, strix, other] at concerned
  | rdna3Apu =>
      have phoenix := beq_iff_eq.mp concerned
      rw [phoenix] at seen_listed
      cases seen_listed
  | z2A => exact absurd (beq_iff_eq.mp concerned) other_device

-- A series with a minimum version, or that of a device with one, is not excluded.
theorem gated_family (gated : Gated gpu os) (other : gpu.asic.device ∉ kKrackanDevices) {series : GpuSeries} {family : UInt32}
    (own : ownFamily series = some family) (excluded : kSpmDisabledGpuSeries.contains series = true)
    (recent : GpuSeries.navi1.value ≤ series.value) (minimum : series = .phoenix ∨ gpu.asic.device = kZ2ANavi2Id) :
    gpu.asic.family ≠ family := by
  intro same
  have seen : familySeries gpu.asic.family gpu.asic.eRev = series := (family_series_iff own _ _).mpr same
  have identity : seriesOf gpu = series := (if_neg other).trans seen
  obtain ⟨gate, concerned⟩ : ∃ gate : VersionGate, gate.concerns gpu os = true := by
    obtain phoenix | device := minimum
    · exact ⟨.rdna3Apu, beq_iff_eq.mpr (identity.trans phoenix)⟩
    · exact ⟨.z2A, beq_iff_eq.mpr device⟩
  have supported := gated_supported gated concerned (identity ▸ recent) fun _ => identity ▸ minimum
  have listed := (spm_supported_iff.mp supported).2.1
  rw [seen] at listed
  exact Bool.false_ne_true (listed.symm.trans excluded)

end Support

theorem spm_gated_iff (gpu : GpuInfo) (os : OsInfo) :
    Gated gpu os ↔
      (gpu.asic.device ∈ kKrackanDevices → gpu.asic.family = kFamilyStrix) ∧ gpu.asic.family ≠ kFamilyPhoenix ∧
      (gpu.asic.device = kZ2ANavi2Id → gpu.asic.family ≠ kFamilyVanGogh ∧ gpu.asic.family ≠ kFamilyRembrandt) := by
  constructor
  · intro gated
    have krackan := gated_krackan gated
    refine ⟨krackan, fun family => ?_, fun device => ?_⟩
    · have other : gpu.asic.device ∉ kKrackanDevices := fun device => absurd (family.symm.trans (krackan device)) (by decide)
      exact gated_family gated other (rfl : ownFamily .phoenix = _) rfl (by decide) (.inl rfl) family
    · have other : gpu.asic.device ∉ kKrackanDevices := device ▸ (by decide)
      exact ⟨gated_family gated other (rfl : ownFamily .vanGogh = _) rfl (by decide) (.inr device),
        gated_family gated other (rfl : ownFamily .rembrandt = _) rfl (by decide) (.inr device)⟩
  · intro ⟨krackan, phoenix, z2A⟩
    refine ⟨fun older newer same same' => spm_monotone (same.trans same'.symm), fun gate concerned systemInfo same met => ?_⟩
    have listed : kSpmDisabledGpuSeries.contains (seriesOf gpu) = false := by
      by_contra excluded
      rw [Bool.not_eq_false] at excluded
      have other : seriesOf gpu ≠ .phoenix := fun series => phoenix (series_of_family rfl series)
      have device := (met.listed excluded).resolve_left other
      obtain series | series : seriesOf gpu = .rembrandt ∨ seriesOf gpu = .vanGogh := by
        simpa [kSpmDisabledGpuSeries, other] using excluded
      · exact (z2A device).2 (series_of_family rfl series)
      · exact (z2A device).1 (series_of_family rfl series)
    rw [spm_gates krackan, same]
    refine ⟨fun supported => supported.2.2 gate concerned, fun passed => ⟨met.recent, listed, fun other concerned => ?_⟩⟩
    by_cases one : other = gate
    · rw [one]
      exact passed
    · exact met.others other one concerned

def unnamedOs : OsInfo := ⟨[], [], [], [], 0, 0, false, false, false⟩

-- From 26.10 on SPM is meant to be there for Phoenix.
theorem phoenix_excluded : ¬Gated (reportedGpu 0x15BF kFamilyPhoenix 0) unnamedOs := by
  intro gated
  have supported := (gated.effective .rdna3Apu rfl (systemWith unnamedOs (reportedDriver 26 10)) rfl
    ⟨by decide, fun _ => .inl rfl, fun other _ _ => by cases other <;> rfl⟩).mpr rfl
  exact absurd supported (by decide)

end RadeonPanel.Rgp

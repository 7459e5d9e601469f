import RadeonPanel.Base.Keyed
import RadeonPanel.Spm.RawSpm

set_option autoImplicit false

namespace RadeonPanel.Spm.CounterHandler

open Keyed

structure DerivedSpmCounter where
  counterName : String
  counterFormula : String
deriving DecidableEq, Repr

structure DDGpuProfilingSpmCounterId where
  blockId : UInt32
  instanceId : UInt32
  eventId : UInt32
deriving DecidableEq, Repr

inductive GpaCounterInfo where
  | derived (gpaHwCounters : List GpaHwCounter)
  | hardware (gpaHwCounter : GpaHwCounter)
deriving DecidableEq, Repr

def GpaCounterInfo.hwCounters : GpaCounterInfo → List GpaHwCounter
  | .derived counters => counters
  | .hardware counter => [counter]

-- The counter library, `none` for a call that fails. A block is one of the
-- `kGpaHwBlockCount` that there are.
structure GpaCounterLib where
  opensContext : Bool
  getCounterIndex : String → Option UInt32
  getCounterInfo : UInt32 → Option GpaCounterInfo
  kGpaHwBlockCount : UInt32
  isBlock : ∀ index info, getCounterInfo index = some info → ∀ counter ∈ info.hwCounters, counter.gpaHwBlock < kGpaHwBlockCount

inductive Result where
  | kSuccess | kFailure
deriving DecidableEq, Repr

section Query
variable (gpa : GpaCounterLib)

-- The name with a 0 in front of one of its underscores, for each of them.
def withBlockZero (name : String) : List String :=
  ((List.range name.toList.length).filter fun upos => name.toList[upos]? = some '_').map fun upos =>
    String.ofList (name.toList.take upos ++ '0' :: name.toList.drop upos)

def findCounterIndex (name : String) : Option UInt32 :=
  match gpa.getCounterIndex name with
  | some index => some index
  | none => (withBlockZero name).findSome? gpa.getCounterIndex

-- Formula counters are not asked for.
def findCounter (requested : DerivedSpmCounter) : Option GpaCounterInfo :=
  if requested.counterFormula = "" then (findCounterIndex gpa requested.counterName).bind gpa.getCounterInfo else none

def counterId (counter : GpaHwCounter) : DDGpuProfilingSpmCounterId := ⟨counter.gpaHwBlock, 4095, counter.gpaHwBlockEventId⟩

def addHardwareCounters (prevHwBlock prevEventId : UInt32) (hardwareCounters : List DDGpuProfilingSpmCounterId) :
    List GpaHwCounter → List DDGpuProfilingSpmCounterId
  | [] => hardwareCounters
  | counter :: rest =>
      if counter.isTimingBlock = false ∧ (prevHwBlock ≠ counter.gpaHwBlock ∨ prevEventId ≠ counter.gpaHwBlockEventId) then
        let hwCounterFound := hardwareCounters.any fun c => c.blockId == counter.gpaHwBlock && c.eventId == counter.gpaHwBlockEventId
        addHardwareCounters counter.gpaHwBlock counter.gpaHwBlockEventId
          (if hwCounterFound then hardwareCounters else hardwareCounters ++ [counterId counter]) rest
      else addHardwareCounters prevHwBlock prevEventId hardwareCounters rest

def addHardwareCountersForDerivedCounter (counters : List GpaHwCounter) (hardwareCounters : List DDGpuProfilingSpmCounterId) :
    List DDGpuProfilingSpmCounterId :=
  addHardwareCounters gpa.kGpaHwBlockCount 0xFFFFFFFF hardwareCounters counters

def addRequested (hardwareCounters : List DDGpuProfilingSpmCounterId) (requested : DerivedSpmCounter) : List DDGpuProfilingSpmCounterId :=
  match findCounter gpa requested with
  | none => hardwareCounters
  | some (.derived counters) => addHardwareCountersForDerivedCounter gpa counters hardwareCounters
  | some (.hardware counter) => hardwareCounters ++ [counterId counter]

def querySpmCounters (derivedCounters : List DerivedSpmCounter) : Result × List DDGpuProfilingSpmCounterId :=
  if gpa.opensContext then (.kSuccess, derivedCounters.foldl (addRequested gpa) []) else (.kFailure, [])

end Query

abbrev Pair := UInt32 × UInt32

def idPair (id : DDGpuProfilingSpmCounterId) : Pair := (id.blockId, id.eventId)

def pairOf (counter : GpaHwCounter) : Pair := (counter.gpaHwBlock, counter.gpaHwBlockEventId)

-- The pairs of the hardware counters that are no timing counters.
def GpaCounterInfo.wanted (info : GpaCounterInfo) : List Pair :=
  (info.hwCounters.filter fun counter => !counter.isTimingBlock).map pairOf

-- What the query adds for a counter: a plain one whatever it is.
def GpaCounterInfo.added : GpaCounterInfo → List Pair
  | .derived counters => (GpaCounterInfo.derived counters).wanted
  | .hardware counter => [pairOf counter]

section Adding
variable {gpa : GpaCounterLib}

theorem any_iff_listed (counter : GpaHwCounter) (hardwareCounters : List DDGpuProfilingSpmCounterId) :
    (hardwareCounters.any fun c => c.blockId == counter.gpaHwBlock && c.eventId == counter.gpaHwBlockEventId) = true ↔
      idPair (counterId counter) ∈ keys idPair hardwareCounters := by
  simp [keys, idPair, counterId]

-- The pair that is remembered is only there to spare the search: when it comes again it is listed.
theorem add_hardware_counters (prevHwBlock prevEventId : UInt32) (counters : List GpaHwCounter)
    (hardwareCounters : List DDGpuProfilingSpmCounterId)
    (remembered : ∀ counter ∈ counters, pairOf counter = (prevHwBlock, prevEventId) → pairOf counter ∈ keys idPair hardwareCounters) :
    addHardwareCounters prevHwBlock prevEventId hardwareCounters counters =
      ((counters.filter fun counter => !counter.isTimingBlock).map counterId).foldl
        (appendNew idPair) hardwareCounters := by
  induction counters generalizing prevHwBlock prevEventId hardwareCounters with
  | nil => rfl
  | cons counter rest ih =>
      have later := fun c member => remembered c (List.mem_cons_of_mem counter member)
      cases timing : counter.isTimingBlock with
      | true => simpa [addHardwareCounters, timing] using ih prevHwBlock prevEventId hardwareCounters later
      | false =>
          have listed : pairOf counter ∈ keys idPair (appendNew idPair hardwareCounters (counterId counter)) :=
            (append_new_keys _ _ _ _).mpr (.inr rfl)
          by_cases again : pairOf counter = (prevHwBlock, prevEventId)
          · obtain ⟨block, event⟩ := Prod.mk.inj again
            have kept : appendNew idPair hardwareCounters (counterId counter) = hardwareCounters :=
              if_pos (remembered counter List.mem_cons_self again)
            rw [addHardwareCounters, if_neg (by simp [block, event]), ih prevHwBlock prevEventId hardwareCounters later]
            simp [timing, kept]
          · have apart : prevHwBlock ≠ counter.gpaHwBlock ∨ prevEventId ≠ counter.gpaHwBlockEventId := by
              by_cases block : prevHwBlock = counter.gpaHwBlock
              · exact .inr fun event => again (by rw [block, event]; rfl)
              · exact .inl block
            have appended : (if (hardwareCounters.any fun c => c.blockId == counter.gpaHwBlock && c.eventId == counter.gpaHwBlockEventId) = true
                then hardwareCounters else hardwareCounters ++ [counterId counter]) =
                  appendNew idPair hardwareCounters (counterId counter) := by
              by_cases there : idPair (counterId counter) ∈ keys idPair hardwareCounters
              · rw [if_pos ((any_iff_listed counter hardwareCounters).mpr there), appendNew, if_pos there]
              · rw [if_neg fun found => there ((any_iff_listed counter hardwareCounters).mp found), appendNew, if_neg there]
            rw [addHardwareCounters, if_pos ⟨timing, apart⟩]
            dsimp only
            rw [appended, ih _ _ _ fun c _ same => same ▸ listed]
            simp [timing]

def addInfo (gpa : GpaCounterLib) (hardwareCounters : List DDGpuProfilingSpmCounterId) : GpaCounterInfo → List DDGpuProfilingSpmCounterId
  | .derived counters => addHardwareCountersForDerivedCounter gpa counters hardwareCounters
  | .hardware counter => hardwareCounters ++ [counterId counter]

def IsBlock (gpa : GpaCounterLib) (info : GpaCounterInfo) : Prop := ∀ counter ∈ info.hwCounters, counter.gpaHwBlock < gpa.kGpaHwBlockCount

theorem add_derived (counters : List GpaHwCounter) (hardwareCounters : List DDGpuProfilingSpmCounterId)
    (isBlock : IsBlock gpa (.derived counters)) : addInfo gpa hardwareCounters (.derived counters) =
      ((counters.filter fun counter => !counter.isTimingBlock).map counterId).foldl
        (appendNew idPair) hardwareCounters := by
  refine add_hardware_counters _ _ counters hardwareCounters fun counter member same => ?_
  have small := isBlock counter member
  rw [(Prod.mk.inj same).1] at small
  exact absurd small (UInt32.lt_irrefl _)

theorem added_keys (counters : List GpaHwCounter) :
    keys idPair ((counters.filter fun counter => !counter.isTimingBlock).map counterId) = (GpaCounterInfo.derived counters).wanted := by
  rw [keys, List.map_map]
  rfl

variable {pair : Pair} {hardwareCounters : List DDGpuProfilingSpmCounterId}

theorem add_info_pairs (info : GpaCounterInfo) (isBlock : IsBlock gpa info) :
    pair ∈ keys idPair (addInfo gpa hardwareCounters info) ↔ pair ∈ keys idPair hardwareCounters ∨ pair ∈ info.added := by
  cases info with
  | derived counters =>
      rw [add_derived counters hardwareCounters isBlock, append_all_keys, added_keys]
      rfl
  | hardware counter => simp [addInfo, keys, GpaCounterInfo.added, idPair, counterId, pairOf]

theorem add_infos_pairs (infos : List GpaCounterInfo) (isBlock : ∀ info ∈ infos, IsBlock gpa info) :
    pair ∈ keys idPair (infos.foldl (addInfo gpa) hardwareCounters) ↔
      pair ∈ keys idPair hardwareCounters ∨ ∃ info ∈ infos, pair ∈ info.added := by
  induction infos generalizing hardwareCounters with
  | nil => simp
  | cons info rest ih =>
      have later := fun other member => isBlock other (List.mem_cons_of_mem info member)
      rw [List.foldl_cons, ih later, add_info_pairs info (isBlock info List.mem_cons_self), or_assoc]
      simp

theorem add_info_distinct (info : GpaCounterInfo) (isBlock : IsBlock gpa info) :
    (keys idPair (addInfo gpa hardwareCounters info)).Nodup ↔
      (keys idPair hardwareCounters).Nodup ∧ ∀ counter, info = .hardware counter → pairOf counter ∉ keys idPair hardwareCounters := by
  cases info with
  | derived counters =>
      rw [add_derived counters hardwareCounters isBlock]
      refine ⟨fun distinct => ⟨?_, by simp⟩, fun distinct => append_all_distinct _ _ _ distinct.1⟩
      exact distinct.sublist ((append_all_extends idPair hardwareCounters _).sublist.map idPair)
  | hardware counter =>
      have appended : keys idPair (addInfo gpa hardwareCounters (.hardware counter)) = keys idPair hardwareCounters ++ [pairOf counter] := by
        simp [addInfo, keys, idPair, counterId, pairOf]
      rw [appended, List.nodup_append]
      simp only [GpaCounterInfo.hardware.injEq, forall_eq', List.nodup_cons, List.not_mem_nil, List.nodup_nil, not_false_eq_true,
        true_and, List.mem_singleton]
      refine and_congr_right fun _ => ⟨fun apart listed => apart _ listed _ rfl rfl, fun fresh a listed b same again => ?_⟩
      exact fresh (same ▸ again ▸ listed)

theorem add_infos_distinct (infos : List GpaCounterInfo) (isBlock : ∀ info ∈ infos, IsBlock gpa info) :
    (keys idPair (infos.foldl (addInfo gpa) hardwareCounters)).Nodup ↔ (keys idPair hardwareCounters).Nodup ∧
      ∀ before counter after, infos = before ++ .hardware counter :: after →
        pairOf counter ∉ keys idPair hardwareCounters ∧ ∀ info ∈ before, pairOf counter ∉ info.added := by
  induction infos generalizing hardwareCounters with
  | nil => simp
  | cons info rest ih =>
      have later := fun other member => isBlock other (List.mem_cons_of_mem info member)
      have first := isBlock info List.mem_cons_self
      rw [List.foldl_cons, ih later, add_info_distinct info first]
      constructor
      · rintro ⟨⟨distinct, here⟩, rests⟩
        refine ⟨distinct, fun before counter after split => ?_⟩
        cases before with
        | nil => exact ⟨here counter (List.cons.inj split).1, by simp⟩
        | cons other more =>
            obtain ⟨rfl, remaining⟩ := List.cons.inj split
            obtain ⟨fresh, apart⟩ := rests more counter after remaining
            rw [add_info_pairs info first, not_or] at fresh
            exact ⟨fresh.1, List.forall_mem_cons.mpr ⟨fresh.2, apart⟩⟩
      · rintro ⟨distinct, all⟩
        refine ⟨⟨distinct, fun counter same => (all [] counter rest (by rw [same]; rfl)).1⟩, fun before counter after split => ?_⟩
        obtain ⟨fresh, apart⟩ := all (info :: before) counter after (by rw [split]; rfl)
        obtain ⟨here, apart⟩ := List.forall_mem_cons.mp apart
        exact ⟨fun listed => ((add_info_pairs info first).mp listed).elim fresh here, apart⟩

end Adding

section Claim
variable (gpa : GpaCounterLib) (derivedCounters : List DerivedSpmCounter)

def described : List GpaCounterInfo := derivedCounters.filterMap (findCounter gpa)

structure ExactSet (infos : List GpaCounterInfo) (hardwareCounters : List DDGpuProfilingSpmCounterId) : Prop where
  distinct : (keys idPair hardwareCounters).Nodup
  exact : ∀ pair, pair ∈ keys idPair hardwareCounters ↔ ∃ info ∈ infos, pair ∈ info.wanted

-- A plain counter is one that no counter before it has added, and one that is wanted.
def PlainCountersNew (infos : List GpaCounterInfo) : Prop :=
  ∀ before counter after, infos = before ++ .hardware counter :: after →
    (∀ info ∈ before, pairOf counter ∉ info.added) ∧ ∃ info ∈ infos, pairOf counter ∈ info.wanted

theorem query_infos (hardwareCounters : List DDGpuProfilingSpmCounterId) :
    derivedCounters.foldl (addRequested gpa) hardwareCounters = (described gpa derivedCounters).foldl (addInfo gpa) hardwareCounters := by
  induction derivedCounters generalizing hardwareCounters with
  | nil => rfl
  | cons requested rest ih =>
      rw [List.foldl_cons, ih, described, described, List.filterMap_cons]
      cases known : findCounter gpa requested with
      | none => simp [addRequested, known]
      | some info => cases info <;> simp [addRequested, known, addInfo]

theorem described_blocks : ∀ info ∈ described gpa derivedCounters, IsBlock gpa info := by
  intro info member
  obtain ⟨requested, _, found⟩ := List.mem_filterMap.mp member
  obtain ⟨_, found⟩ := Option.ite_none_right_eq_some.mp found
  obtain ⟨index, _, known⟩ := Option.bind_eq_some_iff.mp found
  exact gpa.isBlock index info known

theorem wanted_added (info : GpaCounterInfo) (pair : Pair) (wanted : pair ∈ info.wanted) : pair ∈ info.added := by
  cases info with
  | derived counters => exact wanted
  | hardware counter =>
      obtain ⟨other, member, same⟩ := List.mem_map.mp wanted
      rw [List.mem_singleton.mp (List.mem_filter.mp member).1] at same
      exact List.mem_singleton.mpr same.symm

theorem added_wanted_iff (infos : List GpaCounterInfo) :
    (∀ pair, (∃ info ∈ infos, pair ∈ info.added) ↔ ∃ info ∈ infos, pair ∈ info.wanted) ↔
      ∀ counter, .hardware counter ∈ infos → ∃ info ∈ infos, pairOf counter ∈ info.wanted := by
  constructor
  · intro same counter member
    exact (same (pairOf counter)).mp ⟨_, member, List.mem_singleton.mpr rfl⟩
  · intro plain pair
    constructor
    · rintro ⟨info, member, added⟩
      cases info with
      | derived counters => exact ⟨_, member, added⟩
      | hardware counter => exact List.mem_singleton.mp added ▸ plain counter member
    · rintro ⟨info, member, wanted⟩
      exact ⟨info, member, wanted_added info pair wanted⟩

theorem exact_set_iff (infos : List GpaCounterInfo) (isBlock : ∀ info ∈ infos, IsBlock gpa info) :
    ExactSet infos (infos.foldl (addInfo gpa) []) ↔ PlainCountersNew infos := by
  have members : (∀ pair, pair ∈ keys idPair (infos.foldl (addInfo gpa) []) ↔ ∃ info ∈ infos, pair ∈ info.wanted) ↔
      ∀ counter, .hardware counter ∈ infos → ∃ info ∈ infos, pairOf counter ∈ info.wanted := by
    rw [← added_wanted_iff]
    refine forall_congr' fun pair => iff_congr ?_ Iff.rfl
    rw [add_infos_pairs infos isBlock]
    simp [keys]
  constructor
  · rintro ⟨distinct, exact'⟩ before counter after split
    obtain ⟨_, apart⟩ := (add_infos_distinct infos isBlock).mp distinct
    exact ⟨(apart before counter after split).2, members.mp exact' counter (by rw [split]; simp)⟩
  · intro plain
    refine ⟨(add_infos_distinct infos isBlock).mpr ⟨List.nodup_nil, fun before counter after split => ?_⟩, members.mpr ?_⟩
    · exact ⟨List.not_mem_nil, (plain before counter after split).1⟩
    · intro counter member
      obtain ⟨before, after, split⟩ := List.append_of_mem member
      exact (plain before counter after split).2

theorem query_exact_iff :
    ((querySpmCounters gpa derivedCounters).1 = .kSuccess →
      ExactSet (described gpa derivedCounters) (querySpmCounters gpa derivedCounters).2) ↔
        (gpa.opensContext = true → PlainCountersNew (described gpa derivedCounters)) := by
  cases opens : gpa.opensContext with
  | false => simp [querySpmCounters, opens]
  | true =>
      simp only [querySpmCounters, opens, if_true, forall_const, query_infos]
      exact exact_set_iff gpa _ (described_blocks gpa derivedCounters)

-- A derived counter and one of its hardware counters by name.
def overlapping : GpaCounterLib where
  opensContext := true
  getCounterIndex name := if name = "L0CacheHit" then some 0 else if name = "TCP0_REQ" then some 1 else none
  getCounterInfo index :=
    if index = 0 then some (.derived [⟨false, 7, 0, 18⟩]) else if index = 1 then some (.hardware ⟨false, 7, 0, 18⟩) else none
  kGpaHwBlockCount := 9
  isBlock index info known counter member := by
    split at known
    · obtain rfl := Option.some.inj known
      rw [List.mem_singleton.mp member]
      decide
    · obtain ⟨_, known⟩ := Option.ite_none_right_eq_some.mp known
      obtain rfl := Option.some.inj known
      rw [List.mem_singleton.mp member]
      decide

theorem plain_counter_twice : ¬ ((querySpmCounters overlapping [⟨"L0CacheHit", ""⟩, ⟨"TCP_REQ", ""⟩]).1 = .kSuccess →
    ExactSet (described overlapping [⟨"L0CacheHit", ""⟩, ⟨"TCP_REQ", ""⟩])
      (querySpmCounters overlapping [⟨"L0CacheHit", ""⟩, ⟨"TCP_REQ", ""⟩]).2) := by
  intro exact'
  exact absurd (exact' rfl).distinct (by decide)

end Claim

end RadeonPanel.Spm.CounterHandler

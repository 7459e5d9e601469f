import Mathlib.Data.List.Find
import Mathlib.Data.List.MinMax
import Mathlib.Data.Prod.Lex
import RadeonPanel.TraceSource.AsicInfo

set_option autoImplicit false

namespace RadeonPanel.Rgp

structure TargetGpu where
  gpuName : String
  deviceId : UInt32
  revisionId : UInt32
  vendorId : UInt32
  isFinalized : Bool
  queueCount : UInt32
  frameCount : UInt32
  attachedScreens : UInt32
deriving DecidableEq, Repr

-- What is read of a GPU of the system besides what the other consumers read.
structure CandidateGpu extends CaptureApi.GpuInfo where
  numCus : UInt32

-- `GpuInfo{}`
def CandidateGpu.empty : CandidateGpu where
  name := []
  asic := ⟨0, 0, 0, 0, 0, 0, 0, 0, 0, .replicate 8 0⟩
  memory := ⟨[], 0, 0, 0, 0, 0, []⟩
  pci := ⟨0, 0, 0, 0⟩
  bigSw := ⟨0, 0, 0⟩
  driverIndex := none
  numCus := 0

def score (gpu : TargetGpu) : UInt32 := gpu.isFinalized.toUInt32 + gpu.queueCount * 10

def corresponds (gpu : TargetGpu) (candidate : CandidateGpu) : Bool :=
  gpu.deviceId == candidate.asic.device && gpu.revisionId == candidate.asic.revision

section Selection
variable (candidates : List CandidateGpu)

def getCorrespondingGpu (gpu : TargetGpu) : CandidateGpu := (candidates.find? (corresponds gpu)).getD .empty

-- With the highest score so far goes the GPU that is the best.
def selectFrom : UInt32 × CandidateGpu → List TargetGpu → UInt32 × CandidateGpu
  | best, [] => best
  | (highestScore, bestGpu), gpu :: rest =>
      let correspondingGpu := getCorrespondingGpu candidates gpu
      if highestScore < score gpu then selectFrom (score gpu, correspondingGpu) rest
      else if score gpu = highestScore ∧ bestGpu.numCus < correspondingGpu.numCus then selectFrom (highestScore, correspondingGpu) rest
      else selectFrom (highestScore, bestGpu) rest

-- `none` where there is nothing to select from.
def selectGpu : List TargetGpu → Option (UInt32 × CandidateGpu)
  | [] => none
  | gpu :: rest =>
      if candidates.isEmpty then none
      else some (selectFrom candidates (score gpu, getCorrespondingGpu candidates gpu) rest)

def getActiveGpu (gpus : List TargetGpu) : CandidateGpu := ((selectGpu candidates gpus).map (·.2)).getD .empty

-- The one with the most CUs, the first of them: `std::ranges::max_element`.
def mostCus : CandidateGpu → List CandidateGpu → CandidateGpu
  | best, [] => best
  | best, gpu :: rest => mostCus (if best.numCus < gpu.numCus then gpu else best) rest

-- `palClientInfo` is what the driver has answered, if it has.
def queryActiveGpu (palClientInfo : Option (List TargetGpu)) : CandidateGpu :=
  match candidates with
  | [] => .empty
  | first :: rest =>
      match (palClientInfo.map (getActiveGpu candidates)).filter fun gpu => !gpu.name.isEmpty with
      | some gpu => gpu
      | none => mostCus first rest

end Selection

section Property
variable (candidates : List CandidateGpu) (gpus : List TargetGpu)

def rank (gpu : TargetGpu) (candidate : CandidateGpu) : ℕ ×ₗ ℕ := toLex ((score gpu).toNat, candidate.numCus.toNat)

def Pair (gpu : TargetGpu) (candidate : CandidateGpu) : Prop :=
  gpu ∈ gpus ∧ candidate ∈ candidates ∧ corresponds gpu candidate = true

def IsBest (gpu : TargetGpu) (candidate : CandidateGpu) : Prop :=
  Pair candidates gpus gpu candidate ∧ ∀ other another, Pair candidates gpus other another → rank other another ≤ rank gpu candidate

def reached : Option (UInt32 × UInt32) := (selectGpu candidates gpus).map fun best => (best.1, best.2.numCus)

-- What holds of the lists where the best pair is reached.
def BestReached : Prop :=
  ∃ gpu candidate, gpu ∈ gpus ∧ (∀ other ∈ gpus, score other ≤ score gpu) ∧ candidates.find? (corresponds gpu) = some candidate ∧
    (∀ other another, Pair candidates gpus other another → score other = score gpu → another.numCus ≤ candidate.numCus) ∧
    (candidate.numCus ≠ 0 ∨ ∃ first, gpus.find? (score · = score gpu) = some first ∧ ∃ own ∈ candidates, corresponds first own = true)

def EmptyBest : Prop := ∃ gpu, IsBest candidates gpus gpu .empty

structure BestExisting : Prop where
  best : (∃ gpu candidate, Pair candidates gpus gpu candidate) → ∃ gpu, IsBest candidates gpus gpu (getActiveGpu candidates gpus)
  exact_score : candidates ≠ [] → ∀ gpu ∈ gpus, (score gpu).toNat = gpu.isFinalized.toNat + gpu.queueCount.toNat * 10
  unordered : ∀ others, others.Perm gpus → reached candidates others = reached candidates gpus

end Property

section Fold
variable {candidates : List CandidateGpu} {gpu : TargetGpu} {gpus rest : List TargetGpu}

def ownRank (candidates : List CandidateGpu) (gpu : TargetGpu) : ℕ ×ₗ ℕ := rank gpu (getCorrespondingGpu candidates gpu)

theorem argmax_step {α β : Type} [Preorder β] [DecidableLT β] (f : α → β) (a b : α) (rest : List α) :
    List.argmax f (a :: b :: rest) = List.argmax f ((if f a < f b then b else a) :: rest) := by
  simp only [List.argmax, List.foldl_cons, List.argAux]
  split <;> rfl

theorem own_rank_lt {other : TargetGpu} :
    ownRank candidates gpu < ownRank candidates other ↔ score gpu < score other ∨
      score other = score gpu ∧ (getCorrespondingGpu candidates gpu).numCus < (getCorrespondingGpu candidates other).numCus := by
  rw [ownRank, ownRank, rank, rank, Prod.Lex.toLex_lt_toLex, UInt32.lt_iff_toNat_lt, UInt32.lt_iff_toNat_lt, ← UInt32.toNat_inj,
    eq_comm (a := (score other).toNat)]

-- What has been gathered belongs to one target: the first of those with the highest rank.
theorem select_from_argmax {best : TargetGpu} (top : List.argmax (ownRank candidates) (gpu :: rest) = some best) :
    selectFrom candidates (score gpu, getCorrespondingGpu candidates gpu) rest = (score best, getCorrespondingGpu candidates best) := by
  induction rest generalizing gpu with
  | nil =>
      cases top
      rfl
  | cons other rest ih =>
      rw [argmax_step] at top
      rw [selectFrom]
      by_cases higher : score gpu < score other
      · rw [if_pos (own_rank_lt.mpr (.inl higher))] at top
        rw [if_pos higher]
        exact ih top
      · rw [if_neg higher]
        by_cases tie : score other = score gpu ∧ (getCorrespondingGpu candidates gpu).numCus < (getCorrespondingGpu candidates other).numCus
        · rw [if_pos (own_rank_lt.mpr (.inr tie))] at top
          rw [if_pos tie, ← tie.1]
          exact ih top
        · rw [if_neg fun less => (own_rank_lt.mp less).elim higher tie] at top
          rw [if_neg tie]
          exact ih top

theorem select_argmax (some_candidate : candidates ≠ []) :
    selectGpu candidates gpus =
      (List.argmax (ownRank candidates) gpus).map fun best => (score best, getCorrespondingGpu candidates best) := by
  cases gpus with
  | nil => rfl
  | cons gpu rest =>
      rw [selectGpu, if_neg (by simpa using some_candidate)]
      cases top : List.argmax (ownRank candidates) (gpu :: rest) with
      | none => cases List.argmax_eq_none.mp top
      | some best => rw [select_from_argmax top, Option.map_some]

theorem reached_perm {others : List TargetGpu} (same : others.Perm gpus) : reached candidates others = reached candidates gpus := by
  by_cases none_candidate : candidates = []
  · subst none_candidate
    have nothing : ∀ gpus, reached [] gpus = none := fun gpus => by cases gpus <;> rfl
    rw [nothing, nothing]
  · rw [reached, reached, select_argmax none_candidate, select_argmax none_candidate, Option.map_map, Option.map_map]
    cases top : List.argmax (ownRank candidates) gpus with
    | none =>
        have empty := List.argmax_eq_none.mp top
        rw [empty] at same
        rw [List.perm_nil.mp same]
        rfl
    | some best =>
        cases top' : List.argmax (ownRank candidates) others with
        | none =>
            have empty := List.argmax_eq_none.mp top'
            rw [empty] at same
            rw [List.nil_perm.mp same] at top
            cases top
        | some other =>
            have ranks : ownRank candidates other = ownRank candidates best :=
              le_antisymm (List.le_of_mem_argmax (same.mem_iff.mp (List.argmax_mem top')) top)
                (List.le_of_mem_argmax (same.mem_iff.mpr (List.argmax_mem top)) top')
            have parts := Prod.mk.inj (toLex.injective ranks)
            simp only [Option.map_some, Function.comp_apply, UInt32.toNat_inj.mp parts.1, UInt32.toNat_inj.mp parts.2]

theorem argmax_find {α β : Type} [LinearOrder β] {f : α → β} {xs : List α} {m : α} (top : List.argmax f xs = some m) :
    xs.find? (f · = f m) = some m := by
  induction xs generalizing m with
  | nil => cases top
  | cons x xs ih =>
      rw [List.argmax_cons] at top
      cases later : List.argmax f xs with
      | none =>
          rw [later] at top
          cases top
          exact List.find?_cons_of_pos (decide_eq_true rfl)
      | some c =>
          rw [later] at top
          dsimp only at top
          split at top
          · rename_i less
            cases top
            rw [List.find?_cons_of_neg (by simpa using ne_of_lt less)]
            exact ih later
          · cases top
            exact List.find?_cons_of_pos (decide_eq_true rfl)

theorem rank_le {other : TargetGpu} {candidate another : CandidateGpu} :
    rank other another ≤ rank gpu candidate ↔
      score other < score gpu ∨ score other = score gpu ∧ another.numCus ≤ candidate.numCus := by
  rw [rank, rank, Prod.Lex.toLex_le_toLex, UInt32.lt_iff_toNat_lt, UInt32.le_iff_toNat_le, ← UInt32.toNat_inj]

variable {best : TargetGpu}

theorem top_rank (top : List.argmax (ownRank candidates) gpus = some best) {other : TargetGpu} (member : other ∈ gpus) :
    score other < score best ∨
      score other = score best ∧ (getCorrespondingGpu candidates other).numCus ≤ (getCorrespondingGpu candidates best).numCus := by
  have ranks : ownRank candidates other ≤ ownRank candidates best := List.le_of_mem_argmax member top
  exact rank_le.mp ranks

theorem top_highest (top : List.argmax (ownRank candidates) gpus = some best) {other : TargetGpu} (member : other ∈ gpus) :
    score other ≤ score best := by
  obtain less | ⟨same, _⟩ := top_rank top member
  · exact UInt32.le_of_lt less
  · exact same ▸ UInt32.le_refl _

-- Without CUs the first target with the highest score is the one.
theorem top_first (top : List.argmax (ownRank candidates) gpus = some best) (zero : (getCorrespondingGpu candidates best).numCus = 0) :
    gpus.find? (score · = score best) = some best := by
  rw [← argmax_find top]
  refine List.find?_congr fun other member => decide_eq_decide.mpr ⟨fun same => ?_, fun same => ?_⟩
  · obtain less | ⟨_, cus⟩ := top_rank top member
    · exact absurd less (same ▸ UInt32.lt_irrefl _)
    · have alike : (getCorrespondingGpu candidates other).numCus = (getCorrespondingGpu candidates best).numCus := by
        rw [zero] at cus ⊢
        exact UInt32.le_zero_iff.mp cus
      rw [ownRank, ownRank, rank, rank, same, alike]
  · exact UInt32.toNat_inj.mp (Prod.mk.inj (toLex.injective same)).1

end Fold

section Best
variable {candidates : List CandidateGpu} {gpus : List TargetGpu} {best : TargetGpu}

theorem corresponding_found {candidate : CandidateGpu} (found : candidates.find? (corresponds best) = some candidate) :
    getCorrespondingGpu candidates best = candidate ∧ candidate ∈ candidates ∧ corresponds best candidate = true :=
  ⟨by rw [getCorrespondingGpu, found, Option.getD_some], List.mem_of_find?_eq_some found, List.find?_some found⟩

theorem corresponding_missing (missing : candidates.find? (corresponds best) = none) : getCorrespondingGpu candidates best = .empty := by
  rw [getCorrespondingGpu, missing, Option.getD_none]

theorem active_gpu_top (some_candidate : candidates ≠ []) (top : List.argmax (ownRank candidates) gpus = some best) :
    getActiveGpu candidates gpus = getCorrespondingGpu candidates best := by
  rw [getActiveGpu, select_argmax some_candidate, top]
  rfl

-- A pair of a target with the highest score is the best one if no other one of such a target has more CUs.
theorem best_if_most {gpu : TargetGpu} {candidate : CandidateGpu} (pair : Pair candidates gpus gpu candidate)
    (highest : ∀ other ∈ gpus, score other ≤ score gpu)
    (most : ∀ other another, Pair candidates gpus other another → score other = score gpu → another.numCus ≤ candidate.numCus) :
    IsBest candidates gpus gpu candidate := by
  refine ⟨pair, fun other another there => rank_le.mpr ?_⟩
  obtain less | same := UInt32.lt_or_eq_of_le (highest other there.1)
  · exact .inl less
  · exact .inr ⟨same, most other another there same⟩

theorem reached_of_best (some_candidate : candidates ≠ []) (top : List.argmax (ownRank candidates) gpus = some best)
    {gpu : TargetGpu} (is_best : IsBest candidates gpus gpu (getActiveGpu candidates gpus)) :
    BestReached candidates gpus ∨ EmptyBest candidates gpus := by
  rw [active_gpu_top some_candidate top] at is_best
  cases found : candidates.find? (corresponds best) with
  | none =>
      rw [corresponding_missing found] at is_best
      exact .inr ⟨gpu, is_best⟩
  | some candidate =>
      obtain ⟨own, listed, matches_top⟩ := corresponding_found found
      rw [own] at is_best
      refine .inl ⟨best, candidate, List.argmax_mem top, fun other member => top_highest top member, found, ?_, ?_⟩
      · intro other another pair same
        obtain less | ⟨_, cus⟩ := rank_le.mp (is_best.2 other another pair)
        · have bound := top_highest top is_best.1.1
          exact absurd less (UInt32.not_lt.mpr (same ▸ bound))
        · exact cus
      · by_cases zero : candidate.numCus = 0
        · exact .inr ⟨best, top_first top (own.symm ▸ zero), candidate, listed, matches_top⟩
        · exact .inl zero

theorem best_of_reached (some_candidate : candidates ≠ []) (top : List.argmax (ownRank candidates) gpus = some best)
    (reaches : BestReached candidates gpus ∨ EmptyBest candidates gpus) :
    ∃ gpu, IsBest candidates gpus gpu (getActiveGpu candidates gpus) := by
  rw [active_gpu_top some_candidate top]
  have member := List.argmax_mem top
  obtain ⟨gpu, candidate, listed, highest, first, most, decided⟩ | ⟨gpu, is_best⟩ := reaches
  · have same : score gpu = score best := UInt32.le_antisymm (top_highest top listed) (highest best member)
    have own := (corresponding_found first).1
    obtain less | ⟨_, cus⟩ := top_rank top listed
    · exact absurd less (same ▸ UInt32.lt_irrefl _)
    rw [own] at cus
    cases found : candidates.find? (corresponds best) with
    | some topmost =>
        obtain ⟨own_top, there, matches_top⟩ := corresponding_found found
        rw [own_top] at cus ⊢
        refine ⟨best, best_if_most ⟨member, there, matches_top⟩ (fun other listed => top_highest top listed) ?_⟩
        exact fun other another pair alike => UInt32.le_trans (most other another pair (alike.trans same.symm)) cus
    | none =>
        have nothing := corresponding_missing found
        rw [nothing] at cus
        obtain positive | ⟨target, search, own, there, corresponding⟩ := decided
        · exact absurd (UInt32.le_zero_iff.mp cus) positive
        · have at_top := top_first top (by rw [nothing]; rfl)
          rw [← same, search] at at_top
          cases at_top
          exact absurd corresponding (List.find?_eq_none.mp found own there)
  · cases found : candidates.find? (corresponds best) with
    | none =>
        rw [corresponding_missing found]
        exact ⟨gpu, is_best⟩
    | some topmost =>
        obtain ⟨own_top, there, matches_top⟩ := corresponding_found found
        rw [own_top]
        refine ⟨best, ⟨member, there, matches_top⟩, fun other another pair => le_trans (is_best.2 other another pair) ?_⟩
        obtain less | same := UInt32.lt_or_eq_of_le (top_highest top is_best.1.1)
        · exact rank_le.mpr (.inl less)
        · exact rank_le.mpr (.inr ⟨same, UInt32.zero_le⟩)

theorem most_cus_listed (first : CandidateGpu) (rest : List CandidateGpu) : mostCus first rest ∈ first :: rest := by
  induction rest generalizing first with
  | nil => exact List.mem_cons_self
  | cons gpu rest ih =>
      rw [mostCus]
      split
      · exact List.mem_cons_of_mem first (ih gpu)
      · obtain same | later := List.mem_cons.mp (ih first)
        · exact List.mem_cons.mpr (.inl same)
        · exact List.mem_cons_of_mem first (List.mem_cons_of_mem gpu later)

theorem active_gpu_listed (named : (getActiveGpu candidates gpus).name ≠ []) : getActiveGpu candidates gpus ∈ candidates := by
  by_cases some_candidate : candidates = []
  · subst some_candidate
    cases gpus <;> exact absurd rfl named
  · cases top : List.argmax (ownRank candidates) gpus with
    | none =>
        rw [List.argmax_eq_none.mp top] at named
        exact absurd rfl named
    | some best =>
        rw [active_gpu_top some_candidate top] at named ⊢
        cases found : candidates.find? (corresponds best) with
        | none =>
            rw [corresponding_missing found] at named
            exact absurd rfl named
        | some candidate =>
            obtain ⟨own, listed, _⟩ := corresponding_found found
            exact own ▸ listed

-- Of a system with GPUs one of them is provided, whatever the driver has answered.
theorem query_active_gpu_listed (some_candidate : candidates ≠ []) (palClientInfo : Option (List TargetGpu)) :
    queryActiveGpu candidates palClientInfo ∈ candidates := by
  obtain ⟨first, rest, rfl⟩ := List.exists_cons_of_ne_nil some_candidate
  rw [queryActiveGpu]
  split
  · rename_i gpu provided
    obtain ⟨answered, named⟩ := Option.filter_eq_some_iff.mp provided
    obtain ⟨gpus, _, rfl⟩ := Option.map_eq_some_iff.mp answered
    exact active_gpu_listed (by simpa using named)
  · exact most_cus_listed first rest

theorem score_exact_iff (gpu : TargetGpu) :
    (score gpu).toNat = gpu.isFinalized.toNat + gpu.queueCount.toNat * 10 ↔ gpu.isFinalized.toNat + gpu.queueCount.toNat * 10 < 4294967296 := by
  have whole : (score gpu).toNat = (gpu.isFinalized.toNat + gpu.queueCount.toNat * 10) % 4294967296 := by
    have flag : gpu.isFinalized.toUInt32.toNat = gpu.isFinalized.toNat := by cases gpu.isFinalized <;> rfl
    have ten : (10 : UInt32).toNat = 10 := rfl
    rw [score, UInt32.toNat_add, UInt32.toNat_mul, flag, ten]
    omega
  rw [whole]
  exact Nat.mod_eq_iff_lt (by decide)

end Best

theorem active_gpu_best_iff (candidates : List CandidateGpu) (gpus : List TargetGpu) :
    BestExisting candidates gpus ↔
      (candidates ≠ [] → ∀ gpu ∈ gpus, gpu.isFinalized.toNat + gpu.queueCount.toNat * 10 < 4294967296) ∧
      ((∃ gpu candidate, Pair candidates gpus gpu candidate) → BestReached candidates gpus ∨ EmptyBest candidates gpus) := by
  have top_of_pair : (∃ gpu candidate, Pair candidates gpus gpu candidate) →
      candidates ≠ [] ∧ ∃ best, List.argmax (ownRank candidates) gpus = some best := by
    intro ⟨gpu, candidate, member, listed, _⟩
    refine ⟨List.ne_nil_of_mem listed, Option.ne_none_iff_exists'.mp fun missing => ?_⟩
    exact List.ne_nil_of_mem member (List.argmax_eq_none.mp missing)
  constructor
  · intro existing
    refine ⟨fun some_candidate gpu member => (score_exact_iff gpu).mp (existing.exact_score some_candidate gpu member), fun pair => ?_⟩
    obtain ⟨some_candidate, best, top⟩ := top_of_pair pair
    obtain ⟨gpu, is_best⟩ := existing.best pair
    exact reached_of_best some_candidate top is_best
  · intro ⟨exact_score, reaches⟩
    refine ⟨fun pair => ?_, fun some_candidate gpu member => (score_exact_iff gpu).mpr (exact_score some_candidate gpu member),
      fun others same => reached_perm same⟩
    obtain ⟨some_candidate, best, top⟩ := top_of_pair pair
    exact best_of_reached some_candidate top (reaches pair)

def target (deviceId queueCount : UInt32) : TargetGpu := ⟨"", deviceId, 0, 0x1002, false, queueCount, 0, 0⟩

def candidate (device numCus : UInt32) : CandidateGpu := { TraceSource.reportedGpu device 0 0 with numCus := numCus }

-- The target with more queues is not among the GPUs of the system.
theorem known_gpu_passed_over : ¬BestExisting [candidate 0x744C 96] [target 0x73DF 2, target 0x744C 1] := by
  intro existing
  obtain ⟨gpu, is_best⟩ := existing.best
    ⟨target 0x744C 1, candidate 0x744C 96, List.mem_cons_of_mem _ List.mem_cons_self, List.mem_cons_self, by decide⟩
  have cus := congrArg CandidateGpu.numCus (List.mem_singleton.mp is_best.1.2.1)
  exact absurd cus (by decide)

end RadeonPanel.Rgp

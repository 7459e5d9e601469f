import Mathlib.Data.List.Basic
import RadeonPanel.Spm.DerivedQueries

set_option autoImplicit false

namespace RadeonPanel.Spm

variable {Value : Type}

def RgpSpmDataBase.created (db : RgpSpmDataBase Value) : List Nat := db.counterValues.map Row.counter

-- Every write went to the writer's row, and every reader finds the row of what it reads.
structure OwnRows (db : RgpSpmDataBase Value) : Prop where
  written : ∀ write ∈ db.writes, db.created[write.row]? = some write.counter
  listed : ∀ counter ∈ db.availableDerivedCounters, ∃ entry, db.expectedDerivedCounters[counter.counter]? = some entry ∧
    entry.isComponentCounter = false ∧ entry.counterInfo = counter.info.counterInfo
  read : ∀ k counter, db.availableDerivedCounters[k]? = some counter →
    ∃ row, db.getAdjustedIndex k = some row ∧ db.created[row]? = some counter.counter
  components : ∀ component ∈ db.availableCounterComponents, ∃ row i entry,
    componentRow component.counterInfo.gpaCounterName db.expectedDerivedCounters 0 0 = some row ∧
    db.created[row]? = some i ∧ db.expectedDerivedCounters[i]? = some entry ∧ entry.isComponentCounter = true ∧
    entry.counterInfo.gpaCounterName = component.counterInfo.gpaCounterName

def answersFrom (doubles : Doubles Value) (gpa : Gpa Value) (raw : RawSpmDb) (z : Nat)
    (expected : List ExpectedDerivedCounter) : List (CounterAnswer Value) :=
  (expected.zipIdx z).map fun entry => answerFor doubles gpa raw entry.2 entry.1.counterInfo.gpaCounterName

def RgpSpmDataBase.answers (db : RgpSpmDataBase Value) (gpa : Gpa Value) : List (CounterAnswer Value) :=
  answersFrom db.doubles gpa db.raw 0 db.expectedDerivedCounters

def NoneBehindPassedOver (answers : List (CounterAnswer Value)) : Prop :=
  answers.Pairwise fun earlier later => earlier.isPassedOver = true → later.isSupported = false

instance (answers : List (CounterAnswer Value)) : Decidable (NoneBehindPassedOver answers) :=
  inferInstanceAs (Decidable (List.Pairwise _ _))

section Readers

theorem adjust_from_kept {xs : List Nat} {bad : List Bool} {k good x : Nat} (result : Nat) (reached : good ≤ k)
    (kept : (((xs.zip bad).filter fun entry => !entry.2).map Prod.fst)[k - good]? = some x) :
    ∃ n, adjustFrom k bad good result = some (result + n) ∧ xs[k - good + n]? = some x := by
  induction bad generalizing xs good result with
  | nil => simp at kept
  | cons isBad rest ih =>
      cases xs with
      | nil => simp at kept
      | cons head tail =>
          cases isBad with
          | true =>
              obtain ⟨n, found, place⟩ := @ih tail good (result + 1) reached (by simpa using kept)
              exact ⟨n + 1, by rw [adjustFrom, if_pos rfl, found, Nat.add_assoc, Nat.add_comm 1], by
                rw [← Nat.add_assoc, List.getElem?_cons_succ, place]⟩
          | false =>
              by_cases here : good = k
              · subst here
                exact ⟨0, by simp [adjustFrom], by simpa using kept⟩
              · have further : k - good = k - (good + 1) + 1 := by omega
                rw [further] at kept ⊢
                obtain ⟨n, found, place⟩ := @ih tail (good + 1) result (by omega) (by simpa using kept)
                exact ⟨n, by rw [adjustFrom, if_neg (by decide), if_neg here, found], by
                  rw [Nat.add_right_comm, List.getElem?_cons_succ, place]⟩

-- The scan ends at the first component of that name. It counts the entries that are
-- not available, so what is left of its position are the available ones before it.
theorem component_row_rank {name : String} {expected : List ExpectedDerivedCounter} (first skipped : Nat) (counted : skipped ≤ first)
    (present : ∃ entry ∈ expected, named name entry = true) :
    ∃ i entry, expected[i]? = some entry ∧ named name entry = true ∧
      componentRow name expected first skipped = some (first - skipped + (expected.take i).countP ExpectedDerivedCounter.isAvailable) := by
  induction expected generalizing first skipped with
  | nil => simp at present
  | cons head rest ih =>
      by_cases here : named name head = true
      · have available : head.isAvailable = true := by
          simp only [named, Bool.and_eq_true] at here
          exact here.1.2
        refine ⟨0, head, rfl, here, ?_⟩
        rw [componentRow, if_pos available, if_pos here, List.take_zero, List.countP_nil, Nat.add_zero]
      · have later : ∃ entry ∈ rest, named name entry = true := by
          obtain ⟨entry, member, holds⟩ := present
          rcases List.mem_cons.mp member with rfl | below
          · exact absurd holds here
          · exact ⟨entry, below, holds⟩
        cases available : head.isAvailable with
        | true =>
            obtain ⟨i, entry, at_index, holds, found⟩ := ih (first + 1) skipped (by omega) later
            refine ⟨i + 1, entry, by rwa [List.getElem?_cons_succ], holds, ?_⟩
            rw [componentRow, if_pos available, if_neg here, found, List.take_succ_cons, List.countP_cons_of_pos available]
            congr 1
            omega
        | false =>
            have unavailable : ¬ head.isAvailable = true := by rw [available]; decide
            obtain ⟨i, entry, at_index, holds, found⟩ := ih (first + 1) (skipped + 1) (by omega) later
            refine ⟨i + 1, entry, by rwa [List.getElem?_cons_succ], holds, ?_⟩
            rw [componentRow, if_neg unavailable, if_neg here, found, List.take_succ_cons, List.countP_cons_of_neg unavailable]
            congr 1
            omega

end Readers

section Filling
variable {doubles : Doubles Value}

def Work.created (w : Work Value) : List Nat := w.counterValues.map Row.counter

-- What the loop has done for the counters in `done`, `missed` of them passed over.
structure Filled (done : List ExpectedDerivedCounter) (missed : Nat) (w : Work Value) : Prop where
  counted : w.numberOfSkippedCounters + missed + w.created.length = done.length
  ranked : w.created.length = done.countP ExpectedDerivedCounter.isAvailable
  placed : ∀ i entry, done[i]? = some entry → entry.isAvailable = true →
    w.created[(done.take i).countP ExpectedDerivedCounter.isAvailable]? = some i
  earlier : ∀ counter ∈ w.created, counter < done.length
  distinct : w.created.Nodup
  listed : ∀ counter ∈ w.availableDerivedCounters, ∃ entry, done[counter.counter]? = some entry ∧
    entry.isComponentCounter = false ∧ entry.counterInfo = counter.info.counterInfo
  components : ∀ component ∈ w.availableCounterComponents, ∃ entry ∈ done,
    named component.counterInfo.gpaCounterName entry = true

-- What holds as long as no counter was passed over before a supported one.
structure Straight (w : Work Value) : Prop where
  own : ∀ write ∈ w.writes, w.created[write.row]? = some write.counter
  kept : ((w.created.zip w.counterValueIsBad).filter fun entry => !entry.2).map Prod.fst =
    w.availableDerivedCounters.map Available.counter
  within : w.counterValueIsBad.length ≤ w.created.length

-- A write that went to another row than the writer's.
def Strayed (w : Work Value) : Prop :=
  ∃ write ∈ w.writes, ∃ own, w.created[own]? = some write.counter ∧ own ≠ write.row

theorem modify_created (rows : List (Row Value)) (row : Nat) (values : List Value) :
    (rows.modify row fun row => { row with values := values ++ row.values.drop values.length }).map Row.counter =
      rows.map Row.counter := by
  apply List.ext_getElem?
  intro i
  simp only [List.getElem?_map, List.getElem?_modify]
  cases rows[i]? with
  | none => rfl
  | some found => by_cases here : row = i <;> simp [here]

@[simp] theorem write_values_created (w : Work Value) (z : Nat) (values : List Value) :
    (w.writeValues z values).created = w.created := modify_created w.counterValues _ values

@[simp] theorem push_row_created (w : Work Value) (z timestamps : Nat) :
    (w.pushRow doubles z timestamps).created = w.created ++ [z] := by
  simp [Work.created, Work.pushRow]

-- A supported counter gets its entry and its row, and then its values.
def Work.store (w : Work Value) (doubles : Doubles Value) (numberOfTimestamps z : Nat) (isComponentCounter : Bool)
    (info : AvailableCounterInfo) (values : List Value) : Work Value :=
  ((w.pushCounter z isComponentCounter info).pushRow doubles z numberOfTimestamps).writeValues z values

@[simp] theorem push_counter_created (w : Work Value) (z : Nat) (isComponentCounter : Bool) (info : AvailableCounterInfo) :
    (w.pushCounter z isComponentCounter info).created = w.created := by
  cases isComponentCounter <;> rfl

@[simp] theorem push_counter_skipped (w : Work Value) (z : Nat) (isComponentCounter : Bool) (info : AvailableCounterInfo) :
    (w.pushCounter z isComponentCounter info).numberOfSkippedCounters = w.numberOfSkippedCounters := by
  cases isComponentCounter <;> rfl

@[simp] theorem push_counter_writes (w : Work Value) (z : Nat) (isComponentCounter : Bool) (info : AvailableCounterInfo) :
    (w.pushCounter z isComponentCounter info).writes = w.writes := by
  cases isComponentCounter <;> rfl

section Store
variable (w : Work Value) (timestamps z : Nat) (isComponentCounter : Bool) (info : AvailableCounterInfo) (values : List Value)

@[simp] theorem store_created :
    (w.store doubles timestamps z isComponentCounter info values).created = w.created ++ [z] := by
  rw [Work.store, write_values_created, push_row_created, push_counter_created]

@[simp] theorem store_skipped : (w.store doubles timestamps z isComponentCounter info values).numberOfSkippedCounters =
    w.numberOfSkippedCounters := push_counter_skipped w z isComponentCounter info

@[simp] theorem store_writes : (w.store doubles timestamps z isComponentCounter info values).writes =
    w.writes ++ values.map fun _ => ⟨z, z - w.numberOfSkippedCounters⟩ := by
  simp [Work.store, Work.writeValues, Work.pushRow]

end Store

-- What the loop does for a counter after which it goes on.
inductive Took (doubles : Doubles Value) (filterBad : Bool) (timestamps z : Nat) (entry : ExpectedDerivedCounter) (w : Work Value) :
    CounterAnswer Value → ExpectedDerivedCounter → Work Value → Prop where
  | passedOver : Took doubles filterBad timestamps z entry w .passedOver entry w
  | skipped (answer : CounterAnswer Value) (asked : answer.isPassedOver = false) (without : answer.isSupported = false) :
      Took doubles filterBad timestamps z entry w answer entry w.skip
  | stored (counterDesc : String) (usage : CounterUsageType) (samples : Samples Value) (completed : samples.failed = false)
      (drops : Bool) (filtered : drops = (filterBad && !entry.isComponentCounter && 0 < samples.badValueCount)) (stored : Work Value)
      (stores : stored = w.store doubles timestamps z entry.isComponentCounter ⟨entry.counterInfo, counterDesc, usage⟩ samples.values) :
      Took doubles filterBad timestamps z entry w (.supported counterDesc usage samples) { entry with isAvailable := true }
        (if drops then stored.dropBad z else stored)

theorem process_going {filterBad shouldAbort : Bool} {timestamps z : Nat} {entry : ExpectedDerivedCounter} {w : Work Value}
    {answer : CounterAnswer Value} {one : Processed Value} (unavailable : entry.isAvailable = false)
    (processed : processCounter doubles filterBad shouldAbort timestamps z entry w answer = one) (going : one.returned = none) :
    Took doubles filterBad timestamps z entry w answer one.entry one.work := by
  subst processed
  cases answer with
  | notFound => exact .skipped _ rfl rfl
  | failed => cases going
  | passedOver => exact .passedOver
  | undescribed => cases going
  | unsupported =>
      obtain ⟨info, isComponent, isAvailable⟩ := entry
      subst unavailable
      exact .skipped _ rfl rfl
  | supported counterDesc usage samples =>
      simp only [processCounter] at going ⊢
      by_cases stopped : samples.failed = true
      · rw [if_pos stopped] at going
        cases going
      · rw [if_neg stopped]
        exact .stored counterDesc usage samples (Bool.eq_false_iff.mpr stopped) _ rfl _ rfl

-- What every step that goes on keeps holds at the end of a loop that returns kRgpOk.
theorem process_run {gpa : Gpa Value} {raw : RawSpmDb} {filterBad : Bool} {shouldAbort : Nat → Bool}
    (keeps : List ExpectedDerivedCounter → List ExpectedDerivedCounter → Work Value → Prop)
    (step : ∀ done entry rest w entry' w', keeps done (entry :: rest) w →
      Took doubles filterBad raw.numberOfTimestamps.toNat done.length entry w
        (answerFor doubles gpa raw done.length entry.counterInfo.gpaCounterName) entry' w' →
      keeps (done ++ [entry']) rest w')
    (done rest : List ExpectedDerivedCounter) (w : Work Value) (unavailable : ∀ entry ∈ rest, entry.isAvailable = false)
    (start : keeps done rest w)
    (returned : (processCounters doubles gpa raw filterBad shouldAbort done.length rest w).returned = none) :
    keeps (done ++ (processCounters doubles gpa raw filterBad shouldAbort done.length rest w).expected) []
      (processCounters doubles gpa raw filterBad shouldAbort done.length rest w).work := by
  induction rest generalizing done w with
  | nil => rw [processCounters, List.append_nil]; exact start
  | cons entry rest ih =>
      rw [processCounters] at returned ⊢
      generalize processed : processCounter doubles filterBad (shouldAbort done.length) raw.numberOfTimestamps.toNat done.length entry w
        (answerFor doubles gpa raw done.length entry.counterInfo.gpaCounterName) = one at returned ⊢
      cases going : one.returned with
      | some code =>
          rw [going] at returned
          cases returned
      | none =>
          rw [going] at returned
          have took := process_going (unavailable entry (List.mem_cons_self ..)) processed going
          have next := step done entry rest w one.entry one.work start took
          have length : (done ++ [one.entry]).length = done.length + 1 := by simp
          have later := ih (done ++ [one.entry]) one.work (fun other below => unavailable other (List.mem_cons_of_mem _ below)) next
            (by rw [length]; exact returned)
          rw [length, List.append_assoc, List.singleton_append] at later
          exact later

-- What a list that has grown still has at an index, and where it has grown.
theorem at_index_later {α : Type} {xs : List α} {i : Nat} {x : α} (place : xs[i]? = some x) (more : List α) :
    (xs ++ more)[i]? = some x := by
  rw [List.getElem?_append_left (List.getElem?_eq_some_iff.mp place).1, place]

theorem at_index_last {α : Type} {xs : List α} {x y : α} {i : Nat} (at_index : (xs ++ [x])[i]? = some y)
    (later : ¬ i < xs.length) : i = xs.length := by
  have bound := (List.getElem?_eq_some_iff.mp at_index).1
  rw [List.length_append, List.length_singleton] at bound
  omega

section Filled
variable {done : List ExpectedDerivedCounter} {missed : Nat} {w : Work Value} {entry : ExpectedDerivedCounter}

theorem listed_later {counters : List Available} (listed : ∀ counter ∈ counters, ∃ entry, done[counter.counter]? = some entry ∧
      entry.isComponentCounter = false ∧ entry.counterInfo = counter.info.counterInfo) :
    ∀ counter ∈ counters, ∃ found, (done ++ [entry])[counter.counter]? = some found ∧
      found.isComponentCounter = false ∧ found.counterInfo = counter.info.counterInfo := by
  intro counter member
  obtain ⟨found, place, same⟩ := listed counter member
  exact ⟨found, at_index_later place [entry], same⟩

theorem components_later {infos : List AvailableCounterInfo} (known : ∀ component ∈ infos, ∃ entry ∈ done,
      named component.counterInfo.gpaCounterName entry = true) :
    ∀ component ∈ infos, ∃ found ∈ done ++ [entry], named component.counterInfo.gpaCounterName found = true := by
  intro component member
  obtain ⟨found, there, same⟩ := known component member
  exact ⟨found, List.mem_append_left _ there, same⟩

theorem placed_later (filled : Filled done missed w) {created : List Nat} (extends_created : ∃ more, created = w.created ++ more)
    (i : Nat) (found : ExpectedDerivedCounter) (before : i < done.length) (at_index : (done ++ [entry])[i]? = some found)
    (available : found.isAvailable = true) :
    created[((done ++ [entry]).take i).countP ExpectedDerivedCounter.isAvailable]? = some i := by
  obtain ⟨more, rfl⟩ := extends_created
  rw [List.getElem?_append_left before] at at_index
  have place := filled.placed i found at_index available
  rw [List.take_append_of_le_length (Nat.le_of_lt before)]
  exact at_index_later place more

theorem filled_unavailable (filled : Filled done missed w) (unavailable : entry.isAvailable = false) {w' : Work Value} {missed' : Nat}
    (created : w'.created = w.created) (counted : w'.numberOfSkippedCounters + missed' = w.numberOfSkippedCounters + missed + 1)
    (available : w'.availableDerivedCounters = w.availableDerivedCounters)
    (components : w'.availableCounterComponents = w.availableCounterComponents) : Filled (done ++ [entry]) missed' w' where
  counted := by
    have before := filled.counted
    rw [created, List.length_append, List.length_singleton]
    omega
  ranked := by
    rw [created, filled.ranked, List.countP_append, List.countP_singleton, unavailable]
    rfl
  placed := by
    intro i found at_index isAvailable
    by_cases before : i < done.length
    · exact placed_later filled ⟨[], by rw [created, List.append_nil]⟩ i found before at_index isAvailable
    · have last : i = done.length := at_index_last at_index before
      rw [last, List.getElem?_concat_length, Option.some_inj] at at_index
      rw [← at_index, unavailable] at isAvailable
      cases isAvailable
  earlier := by
    intro counter member
    rw [created] at member
    have before := filled.earlier counter member
    rw [List.length_append, List.length_singleton]
    omega
  distinct := by rw [created]; exact filled.distinct
  listed := by rw [available]; exact listed_later filled.listed
  components := by rw [components]; exact components_later filled.components

theorem filled_supported (filled : Filled done missed w) {w' : Work Value} (drops : Bool) (info : AvailableCounterInfo)
    (same : info.counterInfo = entry.counterInfo)
    (created : w'.created = w.created ++ [done.length]) (skipped : w'.numberOfSkippedCounters = w.numberOfSkippedCounters)
    (available : w'.availableDerivedCounters =
      if entry.isComponentCounter || drops then w.availableDerivedCounters else w.availableDerivedCounters ++ [⟨done.length, info⟩])
    (components : w'.availableCounterComponents =
      if entry.isComponentCounter then w.availableCounterComponents ++ [info] else w.availableCounterComponents) :
    Filled (done ++ [{ entry with isAvailable := true }]) missed w' where
  counted := by
    have before := filled.counted
    rw [created, skipped, List.length_append, List.length_append, List.length_singleton, List.length_singleton]
    omega
  ranked := by
    rw [created, List.length_append, filled.ranked, List.countP_append, List.countP_singleton]
    rfl
  placed := by
    intro i found at_index isAvailable
    by_cases before : i < done.length
    · exact placed_later filled ⟨_, created⟩ i found before at_index isAvailable
    · have last : i = done.length := at_index_last at_index before
      rw [last, List.take_left, ← filled.ranked, created, List.getElem?_concat_length]
  earlier := by
    intro counter member
    rw [created] at member
    rw [List.length_append, List.length_singleton]
    rcases List.mem_append.mp member with before | here
    · exact Nat.lt_succ_of_lt (filled.earlier counter before)
    · rw [List.mem_singleton.mp here]
      exact Nat.lt_succ_self _
  distinct := by
    rw [created]
    refine List.nodup_append.mpr ⟨filled.distinct, List.nodup_singleton _, fun a member b here => ?_⟩
    rw [List.mem_singleton.mp here]
    exact Nat.ne_of_lt (filled.earlier a member)
  listed := by
    rw [available]
    split
    · exact listed_later filled.listed
    · rename_i kept
      intro other member
      rcases List.mem_append.mp member with before | here
      · exact listed_later filled.listed other before
      · rw [List.mem_singleton.mp here]
        simp only [Bool.or_eq_true, not_or, Bool.not_eq_true] at kept
        exact ⟨_, List.getElem?_concat_length, kept.1, same.symm⟩
  components := by
    rw [components]
    split
    · rename_i isComponent
      intro other member
      rcases List.mem_append.mp member with before | here
      · exact components_later filled.components other before
      · rw [List.mem_singleton.mp here, same]
        exact ⟨_, List.mem_append_right _ (List.mem_singleton_self _), by simp [named, isComponent]⟩
    · exact components_later filled.components

end Filled

section Straight
variable {done : List ExpectedDerivedCounter} {missed : Nat} {w : Work Value} {isComponentCounter : Bool} {timestamps : Nat}
  {info : AvailableCounterInfo} {values : List Value}

theorem zip_longer (xs more : List Nat) (bad : List Bool) (within : bad.length ≤ xs.length) : (xs ++ more).zip bad = xs.zip bad := by
  induction xs generalizing bad with
  | nil =>
      have empty : bad = [] := List.length_eq_zero_iff.mp (Nat.le_zero.mp within)
      rw [empty, List.zip_nil_right, List.zip_nil_right]
  | cons x rest ih =>
      cases bad with
      | nil => rfl
      | cons isBad later =>
          rw [List.cons_append, List.zip_cons_cons, List.zip_cons_cons, ih later (Nat.le_of_succ_le_succ within)]

theorem stored_row (filled : Filled done missed w) :
    done.length - (w.store doubles timestamps done.length isComponentCounter info values).numberOfSkippedCounters =
      missed + w.created.length := by
  have counted := filled.counted
  rw [store_skipped]
  omega

theorem own_store (filled : Filled done 0 w) (straight : Straight w) :
    ∀ write ∈ (w.store doubles timestamps done.length isComponentCounter info values).writes,
      (w.created ++ [done.length])[write.row]? = some write.counter := by
  intro write member
  rw [store_writes] at member
  rcases List.mem_append.mp member with before | here
  · have place := straight.own write before
    exact at_index_later place [done.length]
  · obtain ⟨value, _, rfl⟩ := List.mem_map.mp here
    have row : done.length - w.numberOfSkippedCounters = w.created.length := by
      have counted := filled.counted
      omega
    rw [row, List.getElem?_concat_length]

theorem straight_component (filled : Filled done 0 w) (straight : Straight w) :
    Straight (w.store doubles timestamps done.length true info values) where
  own := by rw [store_created]; exact own_store filled straight
  kept := by
    rw [store_created]
    exact (congrArg (fun pairs => (pairs.filter fun entry => !entry.2).map Prod.fst)
      (zip_longer w.created [done.length] w.counterValueIsBad straight.within)).trans straight.kept
  within := by
    rw [store_created, List.length_append]
    exact Nat.le_add_right_of_le straight.within

theorem straight_counter (filled : Filled done 0 w) (straight : Straight w) (level : w.counterValueIsBad.length = w.created.length)
    (drops : Bool) {stored : Work Value} (stores : stored = w.store doubles timestamps done.length false info values) :
    Straight (if drops then stored.dropBad done.length else stored) ∧
      (if drops then stored.dropBad done.length else stored).counterValueIsBad.length = w.created.length + 1 := by
  have created : stored.created = w.created ++ [done.length] := by rw [stores, store_created]
  have own : ∀ write ∈ stored.writes, stored.created[write.row]? = some write.counter := by
    rw [created, stores]
    exact own_store filled straight
  have bad : stored.counterValueIsBad = w.counterValueIsBad ++ [false] := by rw [stores]; rfl
  have available : stored.availableDerivedCounters = w.availableDerivedCounters ++ [⟨done.length, info⟩] := by rw [stores]; rfl
  have pairs (flag : Bool) : ((w.created ++ [done.length]).zip (w.counterValueIsBad ++ [flag])).filter (fun entry => !entry.2) =
      (w.created.zip w.counterValueIsBad).filter (fun entry => !entry.2) ++ [(done.length, flag)].filter fun entry => !entry.2 := by
    rw [List.zip_append level.symm, List.filter_append]
    rfl
  cases drops with
  | false =>
      refine ⟨⟨own, ?_, ?_⟩, ?_⟩
      · show ((stored.created.zip stored.counterValueIsBad).filter _).map _ = stored.availableDerivedCounters.map _
        rw [created, bad, available, pairs false, List.map_append, straight.kept, List.map_append]
        rfl
      · show stored.counterValueIsBad.length ≤ stored.created.length
        rw [created, bad, List.length_append, List.length_append, level]
        exact Nat.le_refl _
      · show stored.counterValueIsBad.length = _
        rw [bad, List.length_append, level]
        rfl
  | true =>
      have row : done.length - stored.numberOfSkippedCounters = w.counterValueIsBad.length := by
        rw [stores, stored_row filled, Nat.zero_add, level]
      have dropped : (stored.dropBad done.length).counterValueIsBad = w.counterValueIsBad ++ [true] := by
        rw [Work.dropBad, row, bad, List.set_append_right _ _ (Nat.le_refl _), Nat.sub_self]
        rfl
      refine ⟨⟨own, ?_, ?_⟩, ?_⟩
      · show ((stored.created.zip (stored.dropBad done.length).counterValueIsBad).filter _).map _ =
          stored.availableDerivedCounters.dropLast.map _
        rw [created, dropped, available, List.dropLast_concat, pairs true, List.map_append, straight.kept]
        exact List.append_nil _
      · show (stored.dropBad done.length).counterValueIsBad.length ≤ stored.created.length
        rw [created, dropped, List.length_append, List.length_append, level]
        exact Nat.le_refl _
      · show (stored.dropBad done.length).counterValueIsBad.length = _
        rw [dropped, List.length_append, level]
        rfl

theorem strayed_later {w' : Work Value} (strayed : Strayed w) (created : ∃ more, w'.created = w.created ++ more)
    (writes : ∃ more, w'.writes = w.writes ++ more) : Strayed w' := by
  obtain ⟨write, member, own, place, other⟩ := strayed
  obtain ⟨rows, created⟩ := created
  obtain ⟨more, writes⟩ := writes
  refine ⟨write, by rw [writes]; exact List.mem_append_left _ member, own, ?_, other⟩
  rw [created]
  exact at_index_later place rows

theorem strayed_store (filled : Filled done missed w) (behind : 0 < missed) (some_value : values ≠ []) :
    Strayed (w.store doubles timestamps done.length isComponentCounter info values) := by
  obtain ⟨value, rest, rfl⟩ := List.exists_cons_of_ne_nil some_value
  refine ⟨⟨done.length, done.length - w.numberOfSkippedCounters⟩, ?_, w.created.length, ?_, ?_⟩
  · rw [store_writes]
    exact List.mem_append_right _ (List.mem_cons_self ..)
  · rw [store_created, List.getElem?_concat_length]
  · have counted := filled.counted
    show w.created.length ≠ done.length - w.numberOfSkippedCounters
    omega

end Straight

section Steps
variable {gpa : Gpa Value} {raw : RawSpmDb} {filterBad : Bool} {done rest : List ExpectedDerivedCounter} {missed : Nat}
  {w w' : Work Value} {entry entry' : ExpectedDerivedCounter} {answer : CounterAnswer Value} {timestamps : Nat}

theorem took_filled (filled : Filled done missed w) (unavailable : entry.isAvailable = false)
    (took : Took doubles filterBad timestamps done.length entry w answer entry' w') :
    Filled (done ++ [entry']) (missed + if answer.isPassedOver then 1 else 0) w' := by
  cases took with
  | passedOver => exact filled_unavailable filled unavailable rfl rfl rfl rfl
  | skipped _ asked without =>
      rw [asked]
      exact filled_unavailable filled unavailable rfl (Nat.add_right_comm ..) rfl rfl
  | stored counterDesc usage samples completed drops filtered stored stores =>
      subst stores
      have created : (if drops then (w.store doubles timestamps done.length entry.isComponentCounter
            ⟨entry.counterInfo, counterDesc, usage⟩ samples.values).dropBad done.length
          else w.store doubles timestamps done.length entry.isComponentCounter
            ⟨entry.counterInfo, counterDesc, usage⟩ samples.values).created = w.created ++ [done.length] := by
        cases drops <;> exact store_created ..
      refine filled_supported filled drops ⟨entry.counterInfo, counterDesc, usage⟩ rfl created ?_ ?_ ?_
      · cases drops <;> exact push_counter_skipped w done.length entry.isComponentCounter ⟨entry.counterInfo, counterDesc, usage⟩
      · cases component : entry.isComponentCounter with
        | true =>
            rw [component, Bool.not_true, Bool.and_false, Bool.false_and] at filtered
            rw [filtered]
            rfl
        | false =>
            cases drops with
            | true => exact List.dropLast_concat
            | false => rfl
      · cases entry.isComponentCounter <;> cases drops <;> rfl

-- Rows of components have no flag for bad values, so they come last.
def Level (rest : List ExpectedDerivedCounter) (w : Work Value) : Prop :=
  (∀ entry ∈ rest, entry.isComponentCounter = true) ∨ w.counterValueIsBad.length = w.created.length

theorem took_straight (filled : Filled done 0 w) (straight : Straight w) (level : Level (entry :: rest) w)
    (ordered : ∀ other ∈ rest, entry.isComponentCounter = true → other.isComponentCounter = true)
    (took : Took doubles filterBad timestamps done.length entry w answer entry' w') : Straight w' ∧ Level rest w' := by
  have kept : Level rest w := level.imp_left fun all other member => all other (List.mem_cons_of_mem _ member)
  cases took with
  | passedOver => exact ⟨straight, kept⟩
  | skipped _ asked without => exact ⟨⟨straight.own, straight.kept, straight.within⟩, kept⟩
  | stored counterDesc usage samples completed drops filtered stored stores =>
      cases component : entry.isComponentCounter with
      | true =>
          rw [component, Bool.not_true, Bool.and_false, Bool.false_and] at filtered
          subst filtered
          subst stores
          rw [component]
          exact ⟨straight_component filled straight, .inl fun other member => ordered other member component⟩
      | false =>
          have equal : w.counterValueIsBad.length = w.created.length := by
            rcases level with all | equal
            · have contrary := all entry (List.mem_cons_self ..)
              rw [component] at contrary
              cases contrary
            · exact equal
          rw [component] at stores
          obtain ⟨next, length⟩ := straight_counter filled straight equal drops stores
          have longer : stored.created.length = w.created.length + 1 := by
            rw [stores, store_created, List.length_append, List.length_singleton]
          refine ⟨next, .inr (length.trans ?_)⟩
          cases drops <;> exact longer.symm

theorem took_strayed (strayed : Strayed w) (took : Took doubles filterBad timestamps done.length entry w answer entry' w') :
    Strayed w' := by
  cases took with
  | passedOver => exact strayed
  | skipped _ asked without => exact strayed_later strayed ⟨[], (List.append_nil _).symm⟩ ⟨[], (List.append_nil _).symm⟩
  | stored counterDesc usage samples completed drops filtered stored stores =>
      have next : Strayed stored := by
        subst stores
        exact strayed_later strayed ⟨_, store_created ..⟩ ⟨_, store_writes ..⟩
      cases drops with
      | false => exact next
      | true => exact strayed_later next ⟨[], (List.append_nil _).symm⟩ ⟨[], (List.append_nil _).symm⟩

-- What is left to go wrong once a counter was passed over.
def Misleads (answers : List (CounterAnswer Value)) (missed : Nat) (w : Work Value) : Prop :=
  Strayed w ∨ (0 < missed ∧ ∃ answer ∈ answers, answer.isSupported = true) ∨ ¬ NoneBehindPassedOver answers

theorem answer_values {z : Nat} {name counterDesc : String} {usage : CounterUsageType} {samples : Samples Value}
    (answered : answerFor doubles gpa raw z name = .supported counterDesc usage samples) (completed : samples.failed = false) :
    samples.values.length = raw.numberOfTimestamps.toNat := by
  unfold answerFor at answered
  repeat' split at answered
  all_goals try cases answered
  rw [compute_samples_length doubles gpa raw z name _ _ _ _ completed]
  simp

theorem took_misleads (some_timestamp : 0 < raw.numberOfTimestamps.toNat) (filled : Filled done missed w)
    (misleads : Misleads (answersFrom doubles gpa raw done.length (entry :: rest)) missed w)
    (took : Took doubles filterBad raw.numberOfTimestamps.toNat done.length entry w
      (answerFor doubles gpa raw done.length entry.counterInfo.gpaCounterName) entry' w') :
    Misleads (answersFrom doubles gpa raw (done.length + 1) rest)
      (missed + if (answerFor doubles gpa raw done.length entry.counterInfo.gpaCounterName).isPassedOver then 1 else 0) w' := by
  have answers : answersFrom doubles gpa raw done.length (entry :: rest) =
      answerFor doubles gpa raw done.length entry.counterInfo.gpaCounterName :: answersFrom doubles gpa raw (done.length + 1) rest := rfl
  rw [answers] at misleads
  generalize answersFrom doubles gpa raw (done.length + 1) rest = later at misleads ⊢
  generalize answered : answerFor doubles gpa raw done.length entry.counterInfo.gpaCounterName = answer at misleads took ⊢
  rcases misleads with strayed | ⟨behind, other, member, supported⟩ | against
  · exact .inl (took_strayed strayed took)
  · rcases List.mem_cons.mp member with rfl | below
    · cases took with
      | passedOver => cases supported
      | skipped _ asked without =>
          rw [without] at supported
          cases supported
      | stored counterDesc usage samples completed drops filtered stored stores =>
          have some_value : samples.values ≠ [] := by
            have length := answer_values answered completed
            intro empty
            rw [empty] at length
            exact absurd length (Nat.ne_of_lt some_timestamp)
          have next : Strayed stored := by
            rw [stores]
            exact strayed_store filled behind some_value
          refine .inl ?_
          cases drops with
          | false => exact next
          | true => exact strayed_later next ⟨[], (List.append_nil _).symm⟩ ⟨[], (List.append_nil _).symm⟩
    · exact .inr (.inl ⟨Nat.add_pos_left behind _, other, below, supported⟩)
  · by_cases tail : NoneBehindPassedOver later
    · have first : ¬ ∀ other ∈ later, answer.isPassedOver = true → other.isSupported = false := fun all =>
        against (List.pairwise_cons.mpr ⟨all, tail⟩)
      simp only [not_forall, Bool.not_eq_false] at first
      obtain ⟨other, member, passed, supported⟩ := first
      rw [passed]
      exact .inr (.inl ⟨Nat.succ_pos _, other, member, supported⟩)
    · exact .inr (.inr tail)

end Steps

end Filling

section Outcome

def Work.start : Work Value := ⟨[], [], [], [], 0, []⟩

theorem filled_start : Filled [] 0 (Work.start : Work Value) :=
  ⟨rfl, rfl, nofun, nofun, List.nodup_nil, nofun, nofun⟩

theorem straight_start : Straight (Work.start : Work Value) := ⟨nofun, rfl, Nat.le_refl 0⟩

variable (doubles : Doubles Value) (gpa : Gpa Value) (raw : RawSpmDb)

-- In a list of expected counters the components come last, and none is available yet.
structure Ordered (expected : List ExpectedDerivedCounter) : Prop where
  unavailable : ∀ entry ∈ expected, entry.isAvailable = false
  phases : expected.Pairwise fun entry other => entry.isComponentCounter = true → other.isComponentCounter = true

structure OnCourse (done rest : List ExpectedDerivedCounter) (w : Work Value) : Prop where
  ordered : Ordered rest
  none_behind : NoneBehindPassedOver (answersFrom doubles gpa raw done.length rest)
  straight : Straight w
  counted : ∃ missed, Filled done missed w ∧
    ((missed = 0 ∧ Level rest w) ∨ ∀ answer ∈ answersFrom doubles gpa raw done.length rest, answer.isSupported = false)

structure OffCourse (done rest : List ExpectedDerivedCounter) (w : Work Value) : Prop where
  ordered : Ordered rest
  misleads : ∃ missed, Filled done missed w ∧ Misleads (answersFrom doubles gpa raw done.length rest) missed w

variable {doubles : Doubles Value} {gpa : Gpa Value} {raw : RawSpmDb} {filterBad : Bool} {shouldAbort : Nat → Bool}
  {done rest expected : List ExpectedDerivedCounter} {entry entry' : ExpectedDerivedCounter} {w w' : Work Value}

theorem ordered_tail (ordered : Ordered (entry :: rest)) : Ordered rest :=
  ⟨fun other below => ordered.unavailable other (List.mem_cons_of_mem _ below), (List.pairwise_cons.mp ordered.phases).2⟩

theorem on_course_step (course : OnCourse doubles gpa raw done (entry :: rest) w)
    (took : Took doubles filterBad raw.numberOfTimestamps.toNat done.length entry w
      (answerFor doubles gpa raw done.length entry.counterInfo.gpaCounterName) entry' w') :
    OnCourse doubles gpa raw (done ++ [entry']) rest w' := by
  obtain ⟨ordered, none_behind, straight, missed, filled, phase⟩ := course
  have next := took_filled filled (ordered.unavailable entry (List.mem_cons_self ..)) took
  obtain ⟨behind, later⟩ := List.pairwise_cons.mp none_behind
  have length : (done ++ [entry']).length = done.length + 1 := by simp
  refine ⟨ordered_tail ordered, by rw [length]; exact later, ?_, _, next, ?_⟩
  · rcases phase with ⟨rfl, level⟩ | without
    · exact (took_straight filled straight level (List.pairwise_cons.mp ordered.phases).1 took).1
    · have unsupported : (answerFor doubles gpa raw done.length entry.counterInfo.gpaCounterName).isSupported = false :=
        without _ (List.mem_cons_self ..)
      generalize answerFor doubles gpa raw done.length entry.counterInfo.gpaCounterName = answer at took unsupported
      cases took with
      | passedOver => exact straight
      | skipped _ _ _ => exact ⟨straight.own, straight.kept, straight.within⟩
      | stored => cases unsupported
  · rw [length]
    rcases phase with ⟨rfl, level⟩ | without
    · cases passed : (answerFor doubles gpa raw done.length entry.counterInfo.gpaCounterName).isPassedOver with
      | true => exact .inr fun answer member => behind answer member passed
      | false => exact .inl ⟨rfl, (took_straight filled straight level (List.pairwise_cons.mp ordered.phases).1 took).2⟩
    · exact .inr fun answer member => without answer (List.mem_cons_of_mem _ member)

theorem off_course_step (some_timestamp : 0 < raw.numberOfTimestamps.toNat) (course : OffCourse doubles gpa raw done (entry :: rest) w)
    (took : Took doubles filterBad raw.numberOfTimestamps.toNat done.length entry w
      (answerFor doubles gpa raw done.length entry.counterInfo.gpaCounterName) entry' w') :
    OffCourse doubles gpa raw (done ++ [entry']) rest w' := by
  obtain ⟨ordered, missed, filled, misleads⟩ := course
  have next := took_filled filled (ordered.unavailable entry (List.mem_cons_self ..)) took
  have length : (done ++ [entry']).length = done.length + 1 := by simp
  exact ⟨ordered_tail ordered, _, next, by rw [length]; exact took_misleads some_timestamp filled misleads took⟩

theorem process_on_course (ordered : Ordered expected) (none_behind : NoneBehindPassedOver (answersFrom doubles gpa raw 0 expected))
    (returned : (processCounters doubles gpa raw filterBad shouldAbort 0 expected Work.start).returned = none) :
    OnCourse doubles gpa raw (processCounters doubles gpa raw filterBad shouldAbort 0 expected Work.start).expected []
      (processCounters doubles gpa raw filterBad shouldAbort 0 expected Work.start).work :=
  process_run (OnCourse doubles gpa raw) (fun _ _ _ _ _ _ course took => on_course_step course took) [] expected Work.start
    ordered.unavailable ⟨ordered, none_behind, straight_start, 0, filled_start, .inl ⟨rfl, .inr rfl⟩⟩ returned

theorem process_strays (ordered : Ordered expected) (some_timestamp : 0 < raw.numberOfTimestamps.toNat)
    (behind : ¬ NoneBehindPassedOver (answersFrom doubles gpa raw 0 expected))
    (returned : (processCounters doubles gpa raw filterBad shouldAbort 0 expected Work.start).returned = none) :
    Strayed (processCounters doubles gpa raw filterBad shouldAbort 0 expected Work.start).work ∧
      (processCounters doubles gpa raw filterBad shouldAbort 0 expected Work.start).work.created.Nodup := by
  have course := process_run (OffCourse doubles gpa raw) (fun _ _ _ _ _ _ course took => off_course_step some_timestamp course took)
    [] expected Work.start ordered.unavailable ⟨ordered, 0, filled_start, .inr (.inr behind)⟩ returned
  obtain ⟨_, missed, filled, misleads⟩ := course
  refine ⟨?_, filled.distinct⟩
  rcases misleads with strayed | ⟨_, _, member, _⟩ | against
  · exact strayed
  · cases member
  · exact absurd List.Pairwise.nil against

theorem own_place {created : List Nat} {i j counter : Nat} (distinct : created.Nodup) (first : created[i]? = some counter)
    (second : created[j]? = some counter) : i = j := by
  obtain ⟨left, there⟩ := List.getElem?_eq_some_iff.mp first
  obtain ⟨right, here⟩ := List.getElem?_eq_some_iff.mp second
  exact (List.Nodup.getElem_inj_iff distinct).mp (there.trans here.symm)

theorem adjusted_index_kept {db : RgpSpmDataBase Value} {k : Nat} {counter : Available}
    (kept : ((db.created.zip db.counterValueIsBad).filter fun entry => !entry.2).map Prod.fst =
      db.availableDerivedCounters.map Available.counter)
    (at_index : db.availableDerivedCounters[k]? = some counter) :
    ∃ row, db.getAdjustedIndex k = some row ∧ db.created[row]? = some counter.counter := by
  have place : (((db.created.zip db.counterValueIsBad).filter fun entry => !entry.2).map Prod.fst)[k - 0]? = some counter.counter := by
    rw [kept, Nat.sub_zero, List.getElem?_map, at_index]
    rfl
  obtain ⟨n, found, there⟩ := adjust_from_kept k (Nat.zero_le k) place
  have bound : k < db.counterValueIsBad.length := by
    have within := (List.getElem?_eq_some_iff.mp place).1
    rw [List.length_map, Nat.sub_zero] at within
    have filtered := List.length_filter_le (fun entry => !entry.2) (db.created.zip db.counterValueIsBad)
    rw [List.length_zip] at filtered
    omega
  exact ⟨k + n, by rw [RgpSpmDataBase.getAdjustedIndex, if_pos bound, found], by rwa [Nat.sub_zero] at there⟩

theorem filled_own_rows {db : RgpSpmDataBase Value} {missed : Nat} (filled : Filled db.expectedDerivedCounters missed w)
    (straight : Straight w) (available : db.availableDerivedCounters = w.availableDerivedCounters)
    (components : db.availableCounterComponents = w.availableCounterComponents) (bad : db.counterValueIsBad = w.counterValueIsBad)
    (created : db.created = w.created) (writes : db.writes = w.writes) : OwnRows db where
  written := by
    rw [writes, created]
    exact straight.own
  listed := by
    rw [available]
    exact filled.listed
  read := by
    intro k counter at_index
    have kept := straight.kept
    rw [← created, ← bad, ← available] at kept
    exact adjusted_index_kept kept at_index
  components := by
    intro component member
    rw [components] at member
    obtain ⟨i, entry, at_index, holds, found⟩ :=
      component_row_rank 0 0 (Nat.le_refl 0) (filled.components component member)
    simp only [named, Bool.and_eq_true, beq_iff_eq] at holds
    refine ⟨_, i, entry, found, ?_, at_index, holds.1.1, holds.2⟩
    rw [created, Nat.zero_add]
    exact filled.placed i entry at_index holds.1.2

theorem fill_ordered (requested : List DerivedCounterInfo) (components : List (String × CounterComponentInfo)) :
    Ordered (fillExpectedCounters requested components) := by
  have requests : ∀ entry ∈ requested.map fun info => (⟨info, false, false⟩ : ExpectedDerivedCounter), entry.isComponentCounter = false ∧
      entry.isAvailable = false := by
    intro entry member
    obtain ⟨info, _, rfl⟩ := List.mem_map.mp member
    exact ⟨rfl, rfl⟩
  have parts : ∀ entry ∈ (components.flatMap fun entry => entry.2.derivedCounterList.map fun name =>
      (⟨⟨name, "", .unknown⟩, true, false⟩ : ExpectedDerivedCounter)), entry.isComponentCounter = true ∧ entry.isAvailable = false := by
    intro entry member
    obtain ⟨pair, _, inside⟩ := List.mem_flatMap.mp member
    obtain ⟨name, _, rfl⟩ := List.mem_map.mp inside
    exact ⟨rfl, rfl⟩
  refine ⟨fun entry member => ?_, List.pairwise_append.mpr ⟨?_, ?_, ?_⟩⟩
  · rcases List.mem_append.mp member with asked | part
    · exact (requests entry asked).2
    · exact (parts entry part).2
  · refine List.Pairwise.imp_of_mem (fun {entry other} here _ _ component => ?_) (List.pairwise_of_forall fun _ _ => trivial)
    rw [(requests entry here).1] at component
    cases component
  · exact List.Pairwise.imp_of_mem (fun {entry other} _ there _ _ => (parts other there).1) (List.pairwise_of_forall fun _ _ => trivial)
  · exact fun entry _ other there _ => (parts other there).1

end Outcome

-- A database as it is loaded. Its context may have been opened for a raw counter since.
inductive RgpSpmDataBase.Loaded : RgpSpmDataBase Value → Prop where
  | intro (raw : RawSpmDb) (doubles : Doubles Value) (gfxIpLevel : Nat) (requested : List DerivedCounterInfo)
      (components : List (String × CounterComponentInfo)) (filterBadSpmData gpaCounterContext : Bool) :
      Loaded { RgpSpmDataBase.initialized raw doubles gfxIpLevel requested components filterBadSpmData with
        gpaCounterContext := gpaCounterContext }

section Loaded
variable {db : RgpSpmDataBase Value} {a : Attempt Value}

theorem loaded_first (loaded : db.Loaded) : db.derivedCountersCalculated = false := by
  cases loaded
  rfl

theorem loaded_ordered (loaded : db.Loaded) : Ordered db.expectedDerivedCounters := by
  obtain ⟨_, _, _, requested, components, _, _⟩ := loaded
  exact fill_ordered requested components

theorem loaded_start (loaded : db.Loaded) : db.startWork = Work.start := by
  cases loaded
  rfl

theorem calculates_timestamp (calculates : db.calculates = true) : 0 < db.raw.numberOfTimestamps.toNat := by
  rw [RgpSpmDataBase.calculates, Bool.and_eq_true] at calculates
  exact of_decide_eq_true calculates.2

theorem idle_own_rows (loaded : db.Loaded) (idle : db.calculates = false) : OwnRows (db.calculateDerivedCounters a).2 := by
  rw [db.calculate_nothing (loaded_first loaded) idle]
  cases loaded
  exact ⟨nofun, nofun, nofun, nofun⟩

theorem returned_opened (loaded : db.Loaded) (calculates : db.calculates = true)
    (returned : (db.calculateDerivedCounters a).1 = none) : db.contextOpen a = true := by
  by_cases opened : db.contextOpen a = true
  · exact opened
  · rw [db.calculate_closed (loaded_first loaded) calculates (Bool.eq_false_iff.mpr opened)] at returned
    cases returned

end Loaded

theorem own_rows_iff (db : RgpSpmDataBase Value) (loaded : db.Loaded) (a : Attempt Value)
    (returned : (db.calculateDerivedCounters a).1 = none) :
    OwnRows (db.calculateDerivedCounters a).2 ↔ (db.calculates = true → NoneBehindPassedOver (db.answers a.gpa)) := by
  cases calculates : db.calculates with
  | false => exact ⟨fun _ contrary => absurd contrary (by decide), fun _ => idle_own_rows loaded calculates⟩
  | true =>
      have opened := returned_opened loaded calculates returned
      rw [db.calculate_opened (loaded_first loaded) calculates opened] at returned ⊢
      have ended : db.process a = processCounters db.doubles a.gpa db.raw db.filterBadSpmData a.shouldAbort 0
          db.expectedDerivedCounters Work.start := by rw [RgpSpmDataBase.process, loaded_start loaded]
      have completed : (processCounters db.doubles a.gpa db.raw db.filterBadSpmData a.shouldAbort 0 db.expectedDerivedCounters
          Work.start).returned = none := by rwa [ended] at returned
      rw [ended]
      constructor
      · intro own _
        by_cases none_behind : NoneBehindPassedOver (db.answers a.gpa)
        · exact none_behind
        · obtain ⟨⟨write, member, row, place, other⟩, distinct⟩ :=
            process_strays (loaded_ordered loaded) (calculates_timestamp calculates) none_behind completed
          exact absurd (own_place distinct place (own.written write member)) other
      · intro none_behind
        obtain ⟨_, _, straight, missed, filled, _⟩ := process_on_course (loaded_ordered loaded) (none_behind rfl) completed
        exact filled_own_rows filled straight rfl rfl rfl rfl rfl

def oneSample : RawSpmDb where
  format := .rdf
  samplingInterval := 4096
  numberOfTimestamps := 1
  timestamps := [10]
  spmCounterInfo := [⟨3, 0, 7, 0, 2⟩]
  counterOffsets := [0]
  counterData := [5]
  timestamped := rfl
  offsetsKept := fun _ => rfl

def wholeNumbers : Doubles Int := ⟨0, (· + ·), fun value => value < 0, fun value => value < -2⟩

-- The library knows every counter and gives it the one recorded hardware counter, but
-- for the expected counter `without` it has no information.
def oneCounterGpa (without : Option Nat) : Gpa Int where
  opensContext := true
  getCounterIndex := fun z _ => .found (UInt32.ofNat z)
  getCounterInfo := fun z _ => if without = some z then none else some ⟨true, some [⟨false, 3, 0, 7⟩]⟩
  getCounterDescription := fun _ _ => some "description"
  getCounterUsageType := fun _ _ => some .items
  computeDerivedCounterResult := fun _ _ _ values => some (values.foldl (fun total value => total + value.toNat) 0)
  outside := 0

def twoRequested : RgpSpmDataBase Int :=
  .initialized oneSample wholeNumbers kRgpGfxLevelMinGfx10 [⟨"Wavefronts", "Waves", .unknown⟩, ⟨"VALUBusy", "VALU", .unknown⟩] [] true

def uninterrupted (gpa : Gpa Int) : Attempt Int := ⟨gpa, fun _ => false⟩

theorem both_own_rows : OwnRows (twoRequested.calculateDerivedCounters (uninterrupted (oneCounterGpa none))).2 :=
  (own_rows_iff twoRequested (.intro ..) _ (by decide)).mpr fun _ => by decide

theorem second_row_missing :
    (twoRequested.calculateDerivedCounters (uninterrupted (oneCounterGpa (some 0)))).1 = none ∧
    ¬ OwnRows (twoRequested.calculateDerivedCounters (uninterrupted (oneCounterGpa (some 0)))).2 := by
  refine ⟨by decide, fun own => ?_⟩
  have missing := own.written ⟨1, 1⟩ (by decide)
  exact absurd missing (by decide)

end RadeonPanel.Spm

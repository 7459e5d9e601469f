import Mathlib.Algebra.GroupWithZero.Nat
import RadeonPanel.FileWriting.SourceWriters

set_option autoImplicit false

namespace RadeonPanel.FileWriting

open Interleaving

def Event.bytes : Event → Nat
  | .wrote true size => size.toNat
  | _ => 0

-- The bytes that the transfer has written so far.
def written (log : List Event) : Nat := ((since Event.begins log).map Event.bytes).sum

-- What the transfer's begin announced, none where it had no total to announce.
def announced (log : List Event) : Option UInt64 :=
  match upTo Event.begins log with
  | .beginCalled total :: _ => total
  | _ => none

-- What a report says of the transfer, and the quotient it is made with.
def soundProgress (event : Event) (older : List Event) : Prop :=
  match event with
  | .reported p =>
      p.numBytesDumped.toNat = written older ∧ p.numBytesDumped ≤ p.totalBytesToDump ∧
        (∀ total, announced older = some total → total ≤ p.totalBytesToDump) ∧
        ∀ earlier, .reported earlier ∈ since Event.begins older → earlier.totalBytesToDump ≤ p.totalBytesToDump
  | .divided _ denominator => denominator ≠ 0
  | _ => True

theorem written_cons (event : Event) (log : List Event) (between : event.begins = false) :
    written (event :: log) = event.bytes + written log := by
  rw [written, since_other log between, List.map_cons, List.sum_cons, written]

theorem written_begun (w : Writer) (total : Option UInt64) : written (w.emitted ++ .beginCalled total :: w.log) = 0 := by
  rw [written, w.since_begun, List.sum_eq_zero_iff_forall_eq_nat]
  intro size member
  obtain ⟨event, emitted, rfl⟩ := List.mem_map.mp member
  obtain ⟨status, rfl⟩ := w.mem_emitted event emitted
  rfl

theorem announced_cons (event : Event) (log : List Event) (between : event.begins = false) :
    announced (event :: log) = announced log := by
  rw [announced, up_to_other log between, announced]

theorem announced_begun (w : Writer) (total : Option UInt64) :
    announced (w.emitted ++ .beginCalled total :: w.log) = total := by
  rw [announced, w.up_to_begun]

theorem max_to_nat (a b : UInt64) : (max a b).toNat = max a.toNat b.toNat := by
  rw [show max a b = if a ≤ b then b else a from rfl]
  split
  · next less => exact (Nat.max_eq_right (UInt64.le_iff_toNat_le.mp less)).symm
  · next more => exact (Nat.max_eq_left (Nat.le_of_lt (Nat.not_le.mp fun le => more (UInt64.le_iff_toNat_le.mpr le)))).symm

-- What the counters say of a transfer that has been reported soundly. Without an open
-- stream the total is only what has been written.
structure Counted (w : Writer) : Prop where
  num : w.currentProgress.numBytesDumped.toNat = written w.log
  within : w.currentProgress.numBytesDumped ≤ w.currentProgress.totalBytesToDump
  reports : ∀ p, .reported p ∈ since Event.begins w.log → p.totalBytesToDump ≤ w.currentProgress.totalBytesToDump
  announces : .opened ∈ since Event.begins w.log →
    ∀ total, announced w.log = some total → total ≤ w.currentProgress.totalBytesToDump
  refused : .opened ∉ since Event.begins w.log → w.currentProgress.totalBytesToDump = w.currentProgress.numBytesDumped

-- A begin that opens the stream announces less than 2 ^ 32 bytes. A write keeps the sum
-- below 2 ^ 64, is not one of no bytes while nothing is to be dumped, and where the begin
-- was refused reaches what that announced.
def CountsExactly (w : Writer) : Effect → Prop
  | .begins total opens => opens = true → (total.getD 0).toNat < 2 ^ 32
  | .counts size =>
      written w.log + size.toNat < 2 ^ 64 ∧ (size = 0 → 0 < w.currentProgress.totalBytesToDump) ∧
        (.opened ∈ since Event.begins w.log ∨ ∀ total, announced w.log = some total → total.toNat ≤ written w.log + size.toNat)
  | _ => True

-- What is announced goes through 32 bits unharmed exactly when it fits.
theorem truncated_iff (total : UInt64) : total ≤ total.toUInt32.toUInt64 ↔ total.toNat < 2 ^ 32 := by
  rw [UInt64.le_iff_toNat_le, UInt32.toNat_toUInt64, UInt64.toNat_toUInt32]
  omega

theorem counted_num (w : Writer) (size : UInt64) (counted : Counted w) :
    (w.counted size).numBytesDumped.toNat = (written w.log + size.toNat) % 2 ^ 64 := by
  rw [Writer.counted, UInt64.toNat_add, counted.num]

theorem counted_total (w : Writer) (size : UInt64) :
    (w.counted size).totalBytesToDump.toNat =
      max w.currentProgress.totalBytesToDump.toNat (w.counted size).numBytesDumped.toNat := max_to_nat _ _

theorem written_counting (log : List Event) (size numerator denominator : UInt64) :
    written (.divided numerator denominator :: .wrote true size :: log) = written log + size.toNat := by
  rw [written_cons _ _ rfl, written_cons _ _ rfl]
  simp only [Event.bytes]
  omega

theorem announced_counting (log : List Event) (size numerator denominator : UInt64) :
    announced (.divided numerator denominator :: .wrote true size :: log) = announced log := by
  rw [announced_cons _ _ rfl, announced_cons _ _ rfl]

theorem counted_sound_iff (w : Writer) (size : UInt64) (counted : Counted w) (each : AtEach soundProgress w.log) :
    AtEach soundProgress (w.perform (.counts size)).log ↔ CountsExactly w (.counts size) := by
  have num := counted_num w size counted
  have total := counted_total w size
  have within := UInt64.le_iff_toNat_le.mp counted.within
  rw [counted.num] at within
  rw [w.perform_counts, CountsExactly]
  constructor
  · rintro ⟨⟨exact_num, -, announces, -⟩, denominator, -⟩
    rw [written_counting] at exact_num
    rw [announced_counting] at announces
    have fits : written w.log + size.toNat < 2 ^ 64 := by omega
    refine ⟨fits, fun none => ?_, ?_⟩
    · have positive : (w.counted size).totalBytesToDump.toNat ≠ 0 := fun zero => denominator (UInt64.toNat_inj.mp zero)
      have empty : size.toNat = 0 := by rw [none, UInt64.toNat_zero]
      rw [total, exact_num] at positive
      rw [UInt64.lt_iff_toNat_lt, UInt64.toNat_zero]
      omega
    · by_cases opened : .opened ∈ since Event.begins w.log
      · exact .inl opened
      · refine .inr fun asked there => ?_
        have reached := UInt64.le_iff_toNat_le.mp (announces asked there)
        rw [total, counted.refused opened, counted.num] at reached
        omega
  · rintro ⟨fits, something, reached⟩
    rw [Nat.mod_eq_of_lt fits] at num
    refine ⟨⟨?_, ?_, ?_, ?_⟩, ?_, trivial, each⟩
    · rw [written_counting, num]
    · rw [UInt64.le_iff_toNat_le, total]
      exact Nat.le_max_right _ _
    · intro asked there
      rw [announced_counting] at there
      rw [UInt64.le_iff_toNat_le, total, num]
      obtain opened | reached := reached
      · have enough := UInt64.le_iff_toNat_le.mp (counted.announces opened asked there)
        omega
      · have enough := reached asked there
        omega
    · intro earlier member
      rw [since_other _ rfl, since_other _ rfl] at member
      have before := UInt64.le_iff_toNat_le.mp (counted.reports earlier (by simpa using member))
      rw [UInt64.le_iff_toNat_le, total]
      omega
    · intro zero
      have nothing := congrArg UInt64.toNat zero
      rw [total, num, UInt64.toNat_zero] at nothing
      have empty : size = 0 := UInt64.toNat_inj.mp (by rw [UInt64.toNat_zero]; omega)
      have positive := UInt64.lt_iff_toNat_lt.mp (something empty)
      omega

theorem none_reported (w : Writer) (total : Option UInt64) (p : WritingProgress) :
    .reported p ∉ since Event.begins (.opened :: (w.emitted ++ .beginCalled total :: w.log)) := by
  rw [since_other _ rfl, w.since_begun]
  intro member
  obtain here | emitted := List.mem_cons.mp member
  · cases here
  · obtain ⟨status, same⟩ := w.mem_emitted _ emitted
    cases same

theorem begins_sound_iff (w : Writer) (total : Option UInt64) (opens : Bool) (fits : w.Fits (.begins total opens))
    (each : AtEach soundProgress w.log) :
    AtEach soundProgress (w.perform (.begins total opens)).log ↔ CountsExactly w (.begins total opens) := by
  have begun : AtEach soundProgress (w.emitted ++ .beginCalled total :: w.log) := by
    refine at_each_append _ w.emitted _ ?_ ⟨trivial, each⟩
    intro event member older
    obtain ⟨status, rfl⟩ := w.mem_emitted event member
    trivial
  rw [w.perform_begins total opens fits.2, CountsExactly]
  cases opens with
  | false => exact iff_of_true ⟨trivial, begun⟩ fun opens => by cases opens
  | true =>
      have nothing : written (.opened :: (w.emitted ++ .beginCalled total :: w.log)) = 0 := by
        rw [written_cons _ _ rfl, written_begun]
        rfl
      have asked : announced (.opened :: (w.emitted ++ .beginCalled total :: w.log)) = total := by
        rw [announced_cons _ _ rfl, announced_begun]
      constructor
      · rintro ⟨-, ⟨-, -, announces, -⟩, -⟩ -
        cases total with
        | none => exact Nat.zero_lt_succ _
        | some total => exact (truncated_iff total).mp (announces total asked)
      · intro small
        refine ⟨trivial, ⟨nothing.symm, UInt64.le_iff_toNat_le.mpr (Nat.zero_le _), ?_, ?_⟩, trivial, begun⟩
        · intro there same
          obtain rfl := asked.symm.trans same
          exact (truncated_iff there).mpr (small rfl)
        · intro earlier member
          exact absurd member (none_reported w total earlier)

theorem perform_sound_iff (w : Writer) (e : Effect) (fits : w.Fits e) (counted : w.kind ≠ .rgdByteWriter → Counted w)
    (each : AtEach soundProgress w.log) : AtEach soundProgress (w.perform e).log ↔ CountsExactly w e := by
  cases e with
  | begins total opens => exact begins_sound_iff w total opens fits each
  | counts size => exact counted_sound_iff w size (counted fits) each
  | registers event =>
      rw [Writer.perform, Writer.registerWritingStatusEvent]
      split <;> exact iff_of_true ⟨trivial, each⟩ trivial
  | sets operation =>
      rw [Writer.perform, Writer.setPostProcessOperation]
      split <;> exact iff_of_true each trivial
  | beginsInMemory total => exact iff_of_true ⟨trivial, trivial, each⟩ trivial
  | refuses size => exact iff_of_true ⟨trivial, each⟩ trivial
  | remembers bytes size => exact iff_of_true ⟨trivial, each⟩ trivial
  | ends result written =>
      rw [w.perform_ends]
      cases w.postprocess
      · exact iff_of_true ⟨trivial, trivial, trivial, each⟩ trivial
      · exact iff_of_true ⟨trivial, trivial, trivial, trivial, each⟩ trivial
  | endsAside result => exact iff_of_true ⟨trivial, trivial, each⟩ trivial
  | stores succeeded => exact iff_of_true ⟨trivial, each⟩ trivial
  | nothing => exact iff_of_true each trivial

-- Events that neither count, report nor open.
theorem counted_record (w : Writer) (event : Event) (counted : Counted w) (between : event.begins = false)
    (nothing : event.bytes = 0) (opens : event ≠ .opened) (reports : ∀ p, event ≠ .reported p) : Counted (w.record event) := by
  have transfer : since Event.begins (w.record event).log = event :: since Event.begins w.log := since_other w.log between
  have opened : .opened ∈ since Event.begins (w.record event).log ↔ .opened ∈ since Event.begins w.log := by
    rw [transfer, List.mem_cons]
    exact or_iff_right fun same => opens same.symm
  refine ⟨?_, counted.within, ?_, ?_, fun refused => counted.refused fun there => refused (opened.mpr there)⟩
  · exact counted.num.trans (by rw [Writer.record, written_cons _ _ between, nothing, Nat.zero_add])
  · intro p member
    rw [transfer] at member
    obtain here | earlier := List.mem_cons.mp member
    · exact absurd here.symm (reports p)
    · exact counted.reports p earlier
  · intro there total same
    rw [Writer.record, announced_cons _ _ between] at same
    exact counted.announces (opened.mp there) total same

theorem counted_begun (w : Writer) (total : Option UInt64) : Counted ((w.record (.beginCalled total)).beginWriting) := by
  refine ⟨(written_begun w total).symm, UInt64.le_refl _, fun p member => ?_, fun there => ?_, fun _ => rfl⟩
  · rw [w.begun_log, w.since_begun] at member
    obtain ⟨status, same⟩ := w.mem_emitted _ member
    cases same
  · rw [w.begun_log, w.since_begun] at there
    obtain ⟨status, same⟩ := w.mem_emitted _ there
    cases same

-- The report of a begin that opens the stream.
theorem counted_opened (w : Writer) (total : Option UInt64) (small : (total.getD 0).toNat < 2 ^ 32) :
    Counted { w with
      currentProgress := ⟨(total.getD 0).toUInt32.toUInt64, 0, none⟩
      log := Writer.openedEvents total ++ (w.emitted ++ .beginCalled total :: w.log) } := by
  have transfer : since Event.begins (Writer.openedEvents total ++ (w.emitted ++ .beginCalled total :: w.log)) =
      Writer.openedEvents total ++ w.emitted := by
    rw [since_append _ _ (by simp [Writer.openedEvents, Event.begins]), w.since_begun]
  refine ⟨?_, UInt64.le_iff_toNat_le.mpr (Nat.zero_le _), fun p member => ?_, fun _ there same => ?_, fun refused => ?_⟩
  · have opened : written (Writer.openedEvents total ++ (w.emitted ++ .beginCalled total :: w.log)) = 0 := by
      rw [Writer.openedEvents, List.cons_append, written_cons _ _ rfl, List.cons_append, written_cons _ _ rfl,
        List.nil_append, written_begun]
      rfl
    exact opened.symm
  · rw [transfer] at member
    obtain here | emitted := List.mem_append.mp member
    · obtain rfl : p = ⟨(total.getD 0).toUInt32.toUInt64, 0, none⟩ := by simpa [Writer.openedEvents] using here
      exact UInt64.le_refl _
    · obtain ⟨status, same⟩ := w.mem_emitted _ emitted
      cases same
  · have asked : announced (Writer.openedEvents total ++ (w.emitted ++ .beginCalled total :: w.log)) = total := by
      rw [Writer.openedEvents, List.cons_append, announced_cons _ _ rfl, List.cons_append, announced_cons _ _ rfl,
        List.nil_append, announced_begun]
    obtain rfl := asked.symm.trans same
    exact (truncated_iff there).mpr small
  · refine absurd ?_ refused
    rw [transfer]
    simp [Writer.openedEvents]

theorem counted_begins (w : Writer) (total : Option UInt64) (opens : Bool) (held : opens = true → w.stream.isSome = true)
    (small : opens = true → (total.getD 0).toNat < 2 ^ 32) : Counted (w.perform (.begins total opens)) := by
  cases opens with
  | false => exact counted_record _ .beginReturned (counted_begun w total) rfl rfl (by simp) (by simp)
  | true =>
      have returned := counted_record _ .beginReturned (counted_opened w total (small rfl)) rfl rfl (by simp) (by simp)
      rw [w.perform_begins total true held]
      exact ⟨returned.num, returned.within, returned.reports, returned.announces, returned.refused⟩

theorem counted_counts (w : Writer) (size : UInt64) (counted : Counted w) (fits : written w.log + size.toNat < 2 ^ 64) :
    Counted (w.perform (.counts size)) := by
  have num := counted_num w size counted
  rw [Nat.mod_eq_of_lt fits] at num
  have total := counted_total w size
  have larger : w.currentProgress.totalBytesToDump ≤ (w.counted size).totalBytesToDump := by
    rw [UInt64.le_iff_toNat_le, total]
    exact Nat.le_max_left _ _
  have transfer : since Event.begins (w.perform (.counts size)).log =
      .reported (w.counted size) :: .divided (w.counted size).numBytesDumped (w.counted size).totalBytesToDump ::
        .wrote true size :: since Event.begins w.log := by
    rw [w.perform_counts, since_other _ rfl, since_other _ rfl, since_other _ rfl]
  have opened : .opened ∈ since Event.begins (w.perform (.counts size)).log ↔ .opened ∈ since Event.begins w.log := by
    rw [transfer]
    simp
  refine ⟨?_, ?_, ?_, ?_, ?_⟩
  · refine num.trans ?_
    rw [w.perform_counts, written_cons _ _ rfl, written_counting]
    exact (Nat.zero_add _).symm
  · exact UInt64.le_iff_toNat_le.mpr (total ▸ Nat.le_max_right _ _)
  · intro p member
    rw [transfer] at member
    obtain here | earlier := List.mem_cons.mp member
    · rw [Event.reported.inj here]
      exact UInt64.le_refl _
    · exact UInt64.le_trans (counted.reports p (by simpa using earlier)) larger
  · intro there asked same
    rw [w.perform_counts, announced_cons _ _ rfl, announced_counting] at same
    exact UInt64.le_trans (counted.announces (opened.mp there) asked same) larger
  · intro refused
    have only := congrArg UInt64.toNat (counted.refused fun there => refused (opened.mpr there))
    rw [counted.num] at only
    refine UInt64.toNat_inj.mp (total.trans ?_)
    change max _ _ = (w.counted size).numBytesDumped.toNat
    omega

theorem perform_counted (w : Writer) (e : Effect) (fits : w.Fits e) (source : w.kind ≠ .rgdByteWriter) (counted : Counted w)
    (exactly : CountsExactly w e) : Counted (w.perform e) := by
  cases e with
  | begins total opens => exact counted_begins w total opens fits.2 exactly
  | counts size => exact counted_counts w size counted exactly.1
  | registers event =>
      have recorded := counted_record w (.registered event) counted rfl rfl (by simp) (by simp)
      rw [Writer.perform, Writer.registerWritingStatusEvent]
      split <;> exact ⟨recorded.num, recorded.within, recorded.reports, recorded.announces, recorded.refused⟩
  | sets operation =>
      rw [Writer.perform, Writer.setPostProcessOperation]
      split <;> exact ⟨counted.num, counted.within, counted.reports, counted.announces, counted.refused⟩
  | beginsInMemory total => exact absurd fits source
  | remembers bytes size => exact absurd fits source
  | refuses size => exact counted_record w (.wrote false size) counted rfl rfl (by simp) (by simp)
  | ends result written =>
      have ended := counted_record w (.endCalled result) counted rfl rfl (by simp) (by simp)
      have processed : Counted (if w.postprocess then (w.record (.endCalled result)).record (.postprocessed written)
          else w.record (.endCalled result)) := by
        split
        · exact counted_record _ (.postprocessed written) ended rfl rfl (by simp) (by simp)
        · exact ended
      have closed := counted_record _ .endReturned (counted_record _ .closed processed rfl rfl (by simp) (by simp))
        rfl rfl (by simp) (by simp)
      rw [w.perform_ends]
      cases operation : w.postprocess <;> rw [operation] at closed <;>
        exact ⟨closed.num, closed.within, closed.reports, closed.announces, closed.refused⟩
  | endsAside result =>
      exact counted_record _ .endReturned (counted_record w (.endCalled result) counted rfl rfl (by simp) (by simp))
        rfl rfl (by simp) (by simp)
  | stores succeeded => exact counted_record w (.stored succeeded) counted rfl rfl (by simp) (by simp)
  | nothing => exact counted

theorem reachable_counted (kind : WriterKind) (stream : Bool) (w : Writer) (reach : Reachable (writerMachine kind stream) w) :
    AtEach soundProgress w.log → w.kind ≠ .rgdByteWriter → Counted w := by
  refine reachable_invariant (writerMachine kind stream)
    (fun w => AtEach soundProgress w.log → w.kind ≠ .rgdByteWriter → Counted w) ?_ ?_ w reach
  · intro _ _
    exact ⟨rfl, UInt64.le_refl _, fun _ there => absurd there List.not_mem_nil, fun there => absurd there List.not_mem_nil, fun _ => rfl⟩
  · intro w call t counted taken after source
    have fits := w.effect_fits call t taken
    obtain rfl := w.step_effect call t taken
    have before := w.each_before _ _ after
    have here : w.kind ≠ .rgdByteWriter := by rwa [← (w.perform_extends (w.effect call)).1]
    exact perform_counted w _ fits here (counted before here) ((perform_sound_iff w _ fits (counted before) before).mp after)

theorem progress_sound_iff (kind : WriterKind) (stream : Bool) (calls : List Call) :
    Meets (writerMachine kind stream) (fun w call => CountsExactly w (w.effect call)) (Writer.create kind stream) calls ↔
      Always (writerMachine kind stream) (fun w => AtEach soundProgress w.log) (Writer.create kind stream) calls := by
  refine keeps_iff_always (writerMachine kind stream) (fun w call => CountsExactly w (w.effect call))
    (fun w => AtEach soundProgress w.log) trivial ?_ calls
  intro w call t reach each taken
  have fits := w.effect_fits call t taken
  obtain rfl := w.step_effect call t taken
  exact perform_sound_iff w (w.effect call) fits (reachable_counted kind stream w reach each) each

-- A file of 4 GiB is announced as one of no bytes.
theorem large_total_truncated :
    ¬ Always (writerMachine .sourceByteWriter true) (fun w => AtEach soundProgress w.log)
      (Writer.create .sourceByteWriter true) [.writerBegin (some 0x100000000) true] := by
  intro always
  have last := always_here _ _ _ _ (always.2 _ rfl)
  have reported := last.2.1.2.2.1 0x100000000 rfl
  revert reported
  decide

end RadeonPanel.FileWriting

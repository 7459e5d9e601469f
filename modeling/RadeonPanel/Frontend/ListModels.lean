import Mathlib.Data.List.InsertIdx
import RadeonPanel.Base.Rows
import RadeonPanel.Frontend.ApplicationModel
import RadeonPanel.Frontend.BlocklistModel

set_option autoImplicit false

namespace RadeonPanel.Frontend.ListModels

open Rows

section Applications

-- The applications behind their shared pointers: each is made once.
structure Applications where
  pointers : List Nat
  application : Nat → Application
  distinct : pointers.Nodup

namespace Applications
variable (m : Applications)

def content : List Application := m.pointers.map m.application

end Applications

-- The row goes up although the rows behind the erased one have moved down. `none` is past the end.
def eraseEach {α : Type} (xs : List α) (row : Nat) : Nat → Option (List α)
  | 0 => some xs
  | count + 1 => if row < xs.length then eraseEach (xs.eraseIdx row) (row + 1) count else none

def removeApplications (m : Applications) (row count : Int) : Option (Outcome Nat) :=
  match anyAlive m.content row count.toNat with
  | none => none
  | some true => some ⟨[], m.pointers⟩
  | some false =>
      if row < 0 then some ⟨[], m.pointers⟩
      else
        let last := row + (count - 1)
        (eraseEach m.pointers row.toNat count.toNat).map fun pointers => ⟨[.removed row last], pointers⟩

theorem erase_each_content (f : Nat → Application) (pointers : List Nat) (row count : Nat) :
    eraseRows (pointers.map f) row count = (eraseEach pointers row count).map fun rest => rest.map f := by
  induction count generalizing pointers row with
  | zero => rfl
  | succ count ih =>
      rw [eraseRows, eraseEach, List.length_map]
      split
      · rw [List.eraseIdx_map, ih]
      · rfl

-- What goes of the panel's applications goes here.
theorem remove_applications_panel (s : Panel) (m : Applications) (row count : Int) (same : s.applications = m.content) :
    s.removeRows row count = match removeApplications m row count with
      | none => s.crash
      | some made => { s with applications := made.content.map m.application } := by
  have kept : { s with applications := m.content } = s := by rw [← same]
  rw [Panel.removeRows, removeApplications, same]
  cases anyAlive m.content row count.toNat with
  | none => rfl
  | some alive =>
      cases alive with
      | true => exact kept.symm
      | false =>
          dsimp only
          split
          · exact kept.symm
          · rw [Applications.content, erase_each_content]
            cases eraseEach m.pointers row.toNat count.toNat <;> rfl

end Applications

section Blocklist
open BlocklistModel

def blocklistRows (m : BlocklistModel) : List String := if m.platform = .unknown then [] else m.blocklists m.platform

def removeBlocklisted (env : Surroundings) (m : BlocklistModel) (row count : Int) : Option (Outcome String) :=
  let last := row + (count - 1)
  (removeRows env m row count).map fun made => ⟨if 0 ≤ row then [.removed row last] else [], blocklistRows made.1⟩

-- `QList::insert` takes a row up to the end.
def insertEach (xs : List String) (row : Nat) : Nat → Option (List String)
  | 0 => some xs
  | count + 1 => if row ≤ xs.length then insertEach (xs.insertIdx row "") (row + 1) count else none

-- There is no list for an unknown platform.
def insertBlocklisted (m : BlocklistModel) (row count : Int) : Option (Outcome String) :=
  let last := row + count
  if row < 0 ∨ m.platform = .unknown then if 0 < count then none else some ⟨[.inserted row last], blocklistRows m⟩
  else (insertEach (m.blocklists m.platform) row.toNat count.toNat).map fun list => ⟨[.inserted row last], list⟩

end Blocklist

section Logging

inductive LogLevel where
  | verbose | info | warning | error
deriving DecidableEq, Repr

structure LogMessage where
  message : String
  source : String
  pid : UInt32
  umdId : DdConnectionId
  logLevel : LogLevel
  timestamp : Nat
deriving DecidableEq

-- What the call on the thread of the model does with the messages that are queued.
def insertQueued (messages messageQueue : List LogMessage) : Outcome LogMessage :=
  if messageQueue.isEmpty then ⟨[], messages⟩
  else ⟨[.inserted messages.length (messages.length + messageQueue.length)], messages ++ messageQueue⟩

end Logging

inductive Call where
  | removeApplications (m : Applications) (row count : Int)
  | removeBlocklisted (env : Surroundings) (m : BlocklistModel) (row count : Int)
  | insertBlocklisted (m : BlocklistModel) (row count : Int)
  | insertQueued (messages messageQueue : List LogMessage)

-- The range is one of the model.
def Call.Inside : Call → Prop
  | .removeApplications m row count => 0 ≤ row ∧ 0 ≤ count ∧ row + count ≤ m.pointers.length
  | .removeBlocklisted _ m row count => 0 ≤ row ∧ 0 ≤ count ∧ row + count ≤ (blocklistRows m).length
  | .insertBlocklisted m row count => 0 ≤ row ∧ 0 ≤ count ∧ row ≤ (blocklistRows m).length
  | .insertQueued .. => True

def Call.Announces : Call → Prop
  | .removeApplications m row count =>
      ∃ made, ListModels.removeApplications m row count = some made ∧ Exact m.pointers (.remove row.toNat count.toNat) made
  | .removeBlocklisted env m row count =>
      ∃ made, ListModels.removeBlocklisted env m row count = some made ∧ Exact (blocklistRows m) (.remove row.toNat count.toNat) made
  | .insertBlocklisted m row count =>
      ∃ made, ListModels.insertBlocklisted m row count = some made ∧
        Exact (blocklistRows m) (.insert row.toNat (List.replicate count.toNat "")) made
  | .insertQueued messages messageQueue =>
      Exact messages (.insert messages.length messageQueue) (ListModels.insertQueued messages messageQueue)

-- When the models keep to it: of the applications one row at a time goes, or none.
def Call.Kept : Call → Prop
  | .removeApplications m row count =>
      count ≤ 1 ∨ ∃ app ∈ (m.content.drop row.toNat).take count.toNat, app.isAlive = true
  | .removeBlocklisted .. => True
  | .insertBlocklisted .. => False
  | .insertQueued _ messageQueue => messageQueue = []

section Removal
variable {α : Type} {xs ys : List α} {row count : Nat}

theorem erase_each_below (erased : eraseEach xs row count = some ys) {i : Nat} (below : i < row) : ys[i]? = xs[i]? := by
  induction count generalizing xs row with
  | zero => rw [← Option.some.inj erased]
  | succ count ih =>
      rw [eraseEach] at erased
      split at erased
      · rw [ih erased (Nat.lt_succ_of_lt below), List.getElem?_eraseIdx_of_lt below]
      · cases erased

-- The first row is taken by the entry that was to go next.
theorem erase_each_misses (distinct : xs.Nodup) (inside : row + count ≤ xs.length) (several : 1 < count)
    (erased : eraseEach xs row count = some ys) : ys ≠ xs.take row ++ xs.drop (row + count) := by
  intro same
  obtain ⟨count, rfl⟩ := Nat.exists_eq_succ_of_ne_zero (Nat.ne_zero_of_lt several)
  rw [eraseEach, if_pos (by omega)] at erased
  have here := erase_each_below erased (Nat.lt_succ_self row)
  rw [List.getElem?_eraseIdx_of_ge (Nat.le_refl row)] at here
  have length : (xs.take row).length = row := List.length_take_of_le (by omega)
  have asked : (xs.take row ++ xs.drop (row + (count + 1)))[row]? = xs[row + (count + 1)]? := by
    rw [List.getElem?_append_right (by omega), length, List.getElem?_drop]
    simp
  rw [same, asked] at here
  have apart : row + 1 = row + (count + 1) := (List.getElem?_inj (by omega) distinct).mp here.symm
  omega

theorem any_alive_range (applications : List Application) (row count : Nat) (inside : row + count ≤ applications.length) :
    anyAlive applications row count = some (((applications.drop row).take count).any Application.isAlive) := by
  induction count generalizing row with
  | zero => simp [anyAlive]
  | succ count ih =>
      have bound : row < applications.length := by omega
      have here : atRow applications row = some applications[row] := by
        rw [atRow, if_neg (by omega), Int.toNat_natCast, List.getElem?_eq_getElem bound]
      have next := ih (row + 1) (by omega)
      rw [anyAlive, here, List.drop_eq_getElem_cons bound, List.take_succ_cons, List.any_cons]
      cases alive : applications[row].isAlive with
      | true => simp [alive]
      | false => simpa [alive] using next

theorem erase_one (xs : List α) (row : Nat) : xs.eraseIdx row = xs.take row ++ xs.drop (row + 1) := List.eraseIdx_eq_take_drop_succ xs row

theorem applications_kept_iff (m : Applications) (row count : Nat) (inside : row + count ≤ m.pointers.length) :
    (∃ made, removeApplications m row count = some made ∧ Exact m.pointers (.remove row count) made) ↔
      count ≤ 1 ∨ ∃ app ∈ (m.content.drop row).take count, app.isAlive = true := by
  have checked := any_alive_range m.content row count (by simpa [Applications.content] using inside)
  rw [removeApplications, Int.toNat_natCast, checked]
  by_cases alive : ∃ app ∈ (m.content.drop row).take count, app.isAlive = true
  · rw [List.any_eq_true.mpr alive]
    exact ⟨fun _ => .inr alive, fun _ => ⟨_, rfl, exact_refused _ _⟩⟩
  · rw [Bool.eq_false_iff.mpr fun any => alive (List.any_eq_true.mp any)]
    have last : (row : Int) + (count - 1) = row + count - 1 := by omega
    simp only [alive, or_false, Int.toNat_natCast, if_neg (show ¬(row : Int) < 0 by omega), last]
    constructor
    · intro ⟨made, removed, exact_made⟩
      obtain ⟨rest, erased, rfl⟩ := Option.map_eq_some_iff.mp removed
      obtain ⟨_, content⟩ | ⟨announced, _⟩ := exact_made.asked
      · by_contra several
        exact erase_each_misses m.distinct inside (by omega) erased content
      · cases announced
    · intro single
      have erased : eraseEach m.pointers row count = some (m.pointers.take row ++ m.pointers.drop (row + count)) := by
        obtain rfl | rfl : count = 0 ∨ count = 1 := by omega
        · simp [eraseEach]
        · rw [eraseEach, if_pos (by omega), erase_one, eraseEach]
      have fits : (Change.remove row count : Change Nat).fits m.pointers.length := inside
      exact ⟨_, congrArg _ erased, exact_changed fits⟩

end Removal

section Lists
open BlocklistModel

theorem erase_range (xs : List String) (row count : Nat) (inside : row < xs.length) :
    (xs.eraseIdx row).take row ++ (xs.eraseIdx row).drop (row + count) = xs.take row ++ xs.drop (row + (count + 1)) := by
  have length : (xs.take row).length = row := List.length_take_of_le (Nat.le_of_lt inside)
  have kept : (xs.eraseIdx row).take row = xs.take row := by rw [List.eraseIdx_eq_take_drop_succ, List.take_left' length]
  have left : (xs.eraseIdx row).drop (row + count) = xs.drop (row + (count + 1)) := by
    rw [List.eraseIdx_eq_take_drop_succ, List.drop_append, length, Nat.add_sub_cancel_left, List.drop_drop,
      List.drop_eq_nil_of_le (by omega), List.nil_append]
    congr 1
    omega
  rw [kept, left]

theorem remove_at_rows (m : BlocklistModel) (row count : Nat) (inside : row + count ≤ (m.blocklists m.platform).length) :
    ∃ t, removeAt m row count = some t ∧ t.platform = m.platform ∧
      t.blocklists m.platform = (m.blocklists m.platform).take row ++ (m.blocklists m.platform).drop (row + count) := by
  induction count generalizing m with
  | zero => exact ⟨m, rfl, rfl, by simp⟩
  | succ count ih =>
      have bound : row < (m.blocklists m.platform).length := by omega
      rw [removeAt, List.getElem?_eq_getElem bound]
      dsimp only
      generalize Function.update m.removedDefaultBlocklist m.platform _ = removed
      obtain ⟨t, taken, platform, rows⟩ := ih { setList m m.platform ((m.blocklists m.platform).eraseIdx row) with
          removedDefaultBlocklist := removed } (by
        change row + count ≤ (Function.update m.blocklists m.platform _ m.platform).length
        rw [Function.update_self, List.length_eraseIdx_of_lt bound]
        omega)
      refine ⟨t, taken, platform, rows.trans ?_⟩
      change (Function.update m.blocklists m.platform _ m.platform).take row ++
        (Function.update m.blocklists m.platform _ m.platform).drop (row + count) = _
      rw [Function.update_self, erase_range _ row count bound]

theorem blocklist_removed (env : Surroundings) (m : BlocklistModel) (row count : Nat) (inside : row + count ≤ (blocklistRows m).length) :
    ∃ made, removeBlocklisted env m row count = some made ∧ Exact (blocklistRows m) (.remove row count) made := by
  have last : (row : Int) + (count - 1) = row + count - 1 := by omega
  have listed : row + count ≤ (m.blocklists m.platform).length := by
    rw [blocklistRows] at inside
    split at inside
    · rw [List.length_nil] at inside
      omega
    · exact inside
  obtain ⟨t, taken, platform, rows⟩ := remove_at_rows m row count listed
  have left : blocklistRows (save env t) = (Change.remove row count : Change String).apply (blocklistRows m) := by
    have kept : (save env t).platform = m.platform := platform
    have list : (save env t).blocklists m.platform = t.blocklists m.platform := rfl
    rw [blocklistRows, blocklistRows, kept, list, rows]
    split
    · simp [Change.apply]
    · rfl
  have removed : removeBlocklisted env m row count = some ⟨[(Change.remove row count : Change String).announcement],
      (Change.remove row count : Change String).apply (blocklistRows m)⟩ := by
    rw [removeBlocklisted, removeRows, if_pos (by omega), Int.toNat_natCast, Int.toNat_natCast, taken]
    simp only [Option.map_some, left, last, if_pos (show (0 : Int) ≤ row by omega)]
    rfl
  exact ⟨_, removed, exact_changed inside⟩

-- One row too many is announced, and none would have been for no row.
theorem blocklist_inserted (m : BlocklistModel) (row count : Nat) :
    ¬∃ made, insertBlocklisted m row count = some made ∧ Exact (blocklistRows m) (.insert row (List.replicate count "")) made := by
  intro ⟨made, inserted, exact_made⟩
  have announced : made.announced = [.inserted row (row + count)] := by
    rw [insertBlocklisted] at inserted
    split at inserted
    · split at inserted
      · cases inserted
      · rw [← Option.some.inj inserted]
    · obtain ⟨list, _, rfl⟩ := Option.map_eq_some_iff.mp inserted
      rfl
  obtain ⟨asked, _⟩ | ⟨refused, _⟩ := exact_made.asked
  · rw [announced, Change.announcement, List.length_replicate] at asked
    have last := (Announcement.inserted.inj (List.cons.inj asked).1).2
    omega
  · rw [announced] at refused
    cases refused

theorem queued_inserted_iff (messages messageQueue : List LogMessage) :
    Exact messages (.insert messages.length messageQueue) (insertQueued messages messageQueue) ↔ messageQueue = [] := by
  cases messageQueue with
  | nil => exact ⟨fun _ => rfl, fun _ => exact_refused messages _⟩
  | cons message rest =>
      refine ⟨fun exact_made => ?_, fun contrary => by cases contrary⟩
      obtain ⟨asked, _⟩ | ⟨refused, _⟩ := exact_made.asked
      · have last := (Announcement.inserted.inj (List.cons.inj asked).1).2
        omega
      · cases refused

end Lists

theorem list_models_announce_iff (call : Call) (inside : call.Inside) : call.Announces ↔ call.Kept := by
  cases call with
  | removeApplications m row count =>
      obtain ⟨first, some_count, last⟩ := inside
      obtain ⟨row, rfl⟩ := Int.eq_ofNat_of_zero_le first
      obtain ⟨count, rfl⟩ := Int.eq_ofNat_of_zero_le some_count
      refine (applications_kept_iff m row count (by omega)).trans (or_congr_left ?_)
      omega
  | removeBlocklisted env m row count =>
      obtain ⟨first, some_count, last⟩ := inside
      obtain ⟨row, rfl⟩ := Int.eq_ofNat_of_zero_le first
      obtain ⟨count, rfl⟩ := Int.eq_ofNat_of_zero_le some_count
      exact ⟨fun _ => trivial, fun _ => blocklist_removed env m row count (by omega)⟩
  | insertBlocklisted m row count =>
      obtain ⟨first, some_count, last⟩ := inside
      obtain ⟨row, rfl⟩ := Int.eq_ofNat_of_zero_le first
      obtain ⟨count, rfl⟩ := Int.eq_ofNat_of_zero_le some_count
      exact ⟨blocklist_inserted m row count, False.elim⟩
  | insertQueued messages messageQueue => exact queued_inserted_iff messages messageQueue

def threeIdle : Applications := ⟨[0, 1, 2], fun _ => ⟨"game.exe", []⟩, by decide⟩

-- Rows 0 and 1 were to go.
theorem third_application_removed :
    removeApplications threeIdle 0 2 = some ⟨[.removed 0 1], [1]⟩ ∧ ¬(Call.removeApplications threeIdle 0 2).Announces := by
  refine ⟨by decide, fun ⟨made, removed, exact_made⟩ => ?_⟩
  have computed : removeApplications threeIdle 0 2 = some ⟨[.removed 0 1], [1]⟩ := by decide
  cases Option.some.inj (removed.symm.trans computed)
  obtain ⟨_, content⟩ | ⟨announced, _⟩ := exact_made.asked
  · exact absurd content (by decide)
  · cases announced

theorem single_removal_announced : (Call.removeApplications threeIdle 1 1).Announces :=
  (list_models_announce_iff (.removeApplications threeIdle 1 1) (by simp [Call.Inside, threeIdle])).mpr (.inl (Int.le_refl 1))

end RadeonPanel.Frontend.ListModels

import Mathlib.Data.List.Perm.Basic
import RadeonPanel.Frontend.ApplicationModel

set_option autoImplicit false

namespace RadeonPanel.Frontend

open Interleaving

namespace Application
variable (app : Application)

def connectionIds : List DdConnectionId := Keyed.keys UmdConnection.umdConnectionId app.connections

def holds (id : DdConnectionId) : Bool := id ∈ app.connectionIds

-- The connection is the application's last one.
def losesLast (id : DdConnectionId) : Bool := app.isAlive && !(app.clientDisconnected id).isAlive

theorem alive_iff : app.isAlive = true ↔ app.connections ≠ [] := by
  simp [isAlive, getClientCount, List.length_pos_iff]

theorem alive_holds (alive : app.isAlive = true) : ∃ id, app.holds id = true := by
  obtain ⟨connection, listed⟩ := List.exists_mem_of_ne_nil _ ((alive_iff app).mp alive)
  exact ⟨connection.umdConnectionId, decide_eq_true (List.mem_map_of_mem listed)⟩

theorem holds_alive (id : DdConnectionId) (holds : app.holds id = true) : app.isAlive = true := by
  rw [alive_iff]
  intro empty
  have listed := of_decide_eq_true holds
  rw [connectionIds, empty] at listed
  contradiction

variable (info : DdConnectionInfo) (fresh : app.holds info.umdConnectionId = false)
include fresh

theorem connected_ids : (app.clientConnected info).connectionIds = app.connectionIds ++ [info.umdConnectionId] := by
  have absent : Keyed.lookup UmdConnection.umdConnectionId app.connections info.umdConnectionId = none :=
    (Keyed.lookup_none _ _ _).mpr (of_decide_eq_false fresh)
  simp [clientConnected, absent, connectionIds, Keyed.keys]

theorem connected_holds (id : DdConnectionId) :
    (app.clientConnected info).holds id = (app.holds id || id = info.umdConnectionId) := by
  simp [holds, connected_ids app info fresh, Bool.decide_or]

end Application

namespace Application
variable (app : Application) (id : DdConnectionId)

theorem disconnected_ids : (app.clientDisconnected id).connectionIds = app.connectionIds.erase id :=
  Keyed.remove_keys _ _ _

theorem disconnected_holds (other : DdConnectionId) (apart : other ≠ id) :
    (app.clientDisconnected id).holds other = app.holds other := by
  simp [holds, disconnected_ids, List.mem_erase_of_ne apart]

theorem disconnected_alive (alive : (app.clientDisconnected id).isAlive = true) : app.isAlive = true := by
  obtain ⟨other, holds⟩ := alive_holds _ alive
  refine holds_alive app other (decide_eq_true ?_)
  have listed := of_decide_eq_true holds
  rw [disconnected_ids] at listed
  exact List.mem_of_mem_erase listed

end Application

namespace Panel

-- The applications, the lock and the live connections agree.
structure Agrees (s : Panel) : Prop where
  sound : s.crashed = false
  held : ∀ c ∈ s.live, s.applications.countP (·.holds c.umdConnectionId) = 1
  oneProcess : ∀ c ∈ s.live, ∀ d ∈ s.live, c.processId = d.processId
  locked : s.modulesLocked = true ↔ ∃ app ∈ s.applications, app.isAlive = true

structure Kept (s : Panel) : Prop where
  owned : ∀ app ∈ s.applications, ∀ id, app.holds id = true → id ∈ s.live.map DdConnectionInfo.umdConnectionId
  once : ∀ app ∈ s.applications, app.connectionIds.Nodup

-- Two panels that hold the same connections in the same number of applications,
-- with any applications without connections beside them.
structure SameHolding (s t : Panel) : Prop where
  live : t.live = s.live
  locked : t.modulesLocked = s.modulesLocked
  crashed : t.crashed = s.crashed
  connections : ∃ n m, (t.applications.map Application.connections ++ List.replicate n []).Perm
    (s.applications.map Application.connections ++ List.replicate m [])

section SameHolding
variable (s t : Panel) (same : SameHolding s t)
include same

theorem same_holding_symm : SameHolding t s := by
  obtain ⟨live, locked, crashed, n, m, perm⟩ := same
  exact ⟨live.symm, locked.symm, crashed.symm, m, n, perm.symm⟩

-- Whatever is not had without connections is had by as many applications.
theorem same_count (p : List UmdConnection → Bool) (empty : p [] = false) :
    t.applications.countP (fun app => p app.connections) = s.applications.countP (fun app => p app.connections) := by
  obtain ⟨n, m, perm⟩ := same.connections
  have counted := perm.countP_eq p
  have none : ∀ n, (List.replicate n ([] : List UmdConnection)).countP p = 0 := by
    intro n
    rw [List.countP_replicate, empty]
    rfl
  rw [List.countP_append, List.countP_append, none, none, List.countP_map, List.countP_map] at counted
  exact counted

theorem same_connections (app : Application) (member : app ∈ t.applications) (nonempty : app.connections ≠ []) :
    ∃ old ∈ s.applications, old.connections = app.connections := by
  obtain ⟨n, m, perm⟩ := same.connections
  have listed := (perm.mem_iff (a := app.connections)).mp (List.mem_append_left _ (List.mem_map_of_mem member))
  obtain old | padded := List.mem_append.mp listed
  · exact List.mem_map.mp old
  · exact absurd (List.eq_of_mem_replicate padded) nonempty

theorem same_agrees (agrees : s.Agrees) : t.Agrees := by
  have alive (s t : Panel) (same : SameHolding s t) (here : ∃ app ∈ t.applications, app.isAlive = true) :
      ∃ app ∈ s.applications, app.isAlive = true := by
    obtain ⟨app, member, alive⟩ := here
    have nonempty := (Application.alive_iff app).mp alive
    obtain ⟨old, listed, connections⟩ := same_connections s t same app member nonempty
    exact ⟨old, listed, (Application.alive_iff old).mpr (connections ▸ nonempty)⟩
  refine ⟨same.crashed.trans agrees.sound, ?_, ?_, ?_⟩
  · rw [same.live]
    intro c live
    have counted := same_count s t same
      (fun connections => c.umdConnectionId ∈ Keyed.keys UmdConnection.umdConnectionId connections) (by simp [Keyed.keys])
    exact counted.trans (agrees.held c live)
  · rw [same.live]
    exact agrees.oneProcess
  · rw [same.locked, agrees.locked]
    exact ⟨alive t s (same_holding_symm s t same), alive s t same⟩

theorem same_kept (kept : s.Kept) : t.Kept := by
  refine ⟨fun app member id holds => ?_, fun app member => ?_⟩
  · have nonempty := (Application.alive_iff app).mp (Application.holds_alive app id holds)
    obtain ⟨old, listed, connections⟩ := same_connections s t same app member nonempty
    rw [same.live]
    refine kept.owned old listed id ?_
    rw [Application.holds, Application.connectionIds, connections]
    exact holds
  · by_cases empty : app.connections = []
    · rw [Application.connectionIds, empty]
      exact List.nodup_nil
    · obtain ⟨old, listed, connections⟩ := same_connections s t same app member empty
      rw [Application.connectionIds, ← connections]
      exact kept.once old listed

end SameHolding

theorem same_holding_refl (s t : Panel) (live : t.live = s.live) (locked : t.modulesLocked = s.modulesLocked)
    (crashed : t.crashed = s.crashed)
    (connections : t.applications.map Application.connections = s.applications.map Application.connections) :
    SameHolding s t :=
  ⟨live, locked, crashed, 0, 0, by rw [connections]⟩

theorem add_application_same (s : Panel) (name : String) : SameHolding s (s.addApplication name) := by
  unfold addApplication
  simp only
  split
  · exact same_holding_refl s s rfl rfl rfl rfl
  · split
    · exact same_holding_refl s s rfl rfl rfl rfl
    · split
      · exact same_holding_refl s s rfl rfl rfl rfl
      · exact ⟨rfl, rfl, rfl, 0, 1, by simp⟩

theorem set_data_same (s : Panel) (row : Nat) (value : String) (inside : row < s.applications.length) :
    SameHolding s (s.setData row value) := by
  unfold setData
  rw [List.getElem?_eq_getElem inside]
  simp only
  split
  · exact same_holding_refl s s rfl rfl rfl rfl
  · split
    · exact same_holding_refl s s rfl rfl rfl rfl
    · split
      · exact same_holding_refl s s rfl rfl rfl rfl
      · refine same_holding_refl s _ rfl rfl rfl ?_
        have unchanged : (s.applications.set row s.applications[row]).map Application.connections =
            s.applications.map Application.connections := by rw [List.set_getElem_self]
        rw [List.map_set] at unchanged ⊢
        exact unchanged

section Rows
variable (applications : List Application)

-- The erased rows are every second one.
theorem erase_rows_some (row count : Nat) (rest : List Application) (erased : eraseRows applications row count = some rest) :
    ∃ gone, applications.Perm (gone ++ rest) ∧ (∀ k < count, ∃ app ∈ gone, applications[row + 2 * k]? = some app) ∧
      ∀ app ∈ gone, ∃ k < count, applications[row + 2 * k]? = some app := by
  induction count generalizing applications row with
  | zero =>
      obtain rfl := Option.some.inj erased
      exact ⟨[], .refl _, by simp, by simp⟩
  | succ count ih =>
      unfold eraseRows at erased
      split at erased
      · rename_i inside
        have first : applications[row + 2 * 0]? = some applications[row] := List.getElem?_eq_getElem inside
        have shifted : ∀ k, (applications.eraseIdx row)[row + 1 + 2 * k]? = applications[row + 2 * (k + 1)]? := by
          intro k
          rw [List.getElem?_eraseIdx_of_ge (by omega)]
          congr 1
          omega
        obtain ⟨gone, perm, taken, only⟩ := ih (applications.eraseIdx row) (row + 1) erased
        refine ⟨applications[row] :: gone, ?_, ?_, ?_⟩
        · exact (List.getElem_cons_eraseIdx_perm inside).symm.trans (perm.cons _)
        · intro k below
          cases k with
          | zero => exact ⟨_, List.mem_cons_self, first⟩
          | succ k =>
              obtain ⟨app, member, here⟩ := taken k (Nat.lt_of_succ_lt_succ below)
              exact ⟨app, List.mem_cons_of_mem _ member, (shifted k).symm.trans here⟩
        · intro app member
          obtain rfl | member := List.mem_cons.mp member
          · exact ⟨0, Nat.succ_pos count, first⟩
          · obtain ⟨k, below, here⟩ := only app member
            exact ⟨k + 1, Nat.succ_lt_succ below, (shifted k).symm.trans here⟩
      · contradiction

theorem erase_rows_none (row count : Nat) (outside : eraseRows applications row count = none) :
    ∃ k < count, applications[row + 2 * k]? = none := by
  induction count generalizing applications row with
  | zero => contradiction
  | succ count ih =>
      unfold eraseRows at outside
      split at outside
      · obtain ⟨k, below, here⟩ := ih (applications.eraseIdx row) (row + 1) outside
        rw [List.getElem?_eraseIdx_of_ge (by omega)] at here
        refine ⟨k + 1, Nat.succ_lt_succ below, ?_⟩
        rw [← here]
        congr 1
        omega
      · rename_i beyond
        exact ⟨0, Nat.succ_pos count, List.getElem?_eq_none (Nat.le_of_not_lt beyond)⟩

end Rows

-- All rows are there until one of an application that is alive stops the removal;
-- else the rows erased, every second one from the first, are there and not alive.
def removable (s : Panel) (row count : Int) : Prop :=
  match anyAlive s.applications row count.toNat with
  | none => False
  | some true => True
  | some false => 0 ≤ row → ∀ k < count.toNat, ∃ app, s.applications[row.toNat + 2 * k]? = some app ∧ app.isAlive = false

theorem crash_disagrees (s : Panel) : ¬s.crash.Agrees := fun agrees => nomatch agrees.sound

section Removal
variable (s : Panel) (row count : Int) (agrees : s.Agrees) (kept : s.Kept)

theorem erased_dead_same (rest gone : List Application) (perm : s.applications.Perm (gone ++ rest))
    (dead : ∀ app ∈ gone, app.isAlive = false) : SameHolding s { s with applications := rest } := by
  have empty : gone.map Application.connections = List.replicate gone.length [] := by
    refine List.eq_replicate_iff.mpr ⟨List.length_map _, fun connections member => ?_⟩
    obtain ⟨app, gone, rfl⟩ := List.mem_map.mp member
    by_contra nonempty
    exact absurd ((Application.alive_iff app).mpr nonempty) (by rw [dead app gone]; nofun)
  refine ⟨rfl, rfl, rfl, gone.length, 0, ?_⟩
  rw [List.replicate_zero, List.append_nil, ← empty, ← List.map_append]
  exact ((perm.trans List.perm_append_comm).map _).symm

include agrees kept in
theorem erased_alive_disagrees (rest gone : List Application) (perm : s.applications.Perm (gone ++ rest))
    (app : Application) (member : app ∈ gone) (alive : app.isAlive = true) :
    ¬({ s with applications := rest } : Panel).Agrees := by
  intro after
  obtain ⟨id, holds⟩ := Application.alive_holds app alive
  obtain ⟨c, live, rfl⟩ := List.mem_map.mp (kept.owned app (perm.symm.subset (List.mem_append_left _ member)) id holds)
  have one := agrees.held c live
  have still : rest.countP (·.holds c.umdConnectionId) = 1 := after.held c live
  rw [perm.countP_eq, List.countP_append, still] at one
  have removed : 0 < gone.countP (·.holds c.umdConnectionId) := List.countP_pos_iff.mpr ⟨app, member, holds⟩
  omega

include agrees kept in
theorem remove_rows_agrees_iff : (s.removeRows row count).Agrees ↔ s.removable row count := by
  unfold removeRows removable
  cases checked : anyAlive s.applications row count.toNat with
  | none => exact iff_of_false (crash_disagrees s) id
  | some found =>
      cases found with
      | true => exact iff_of_true agrees trivial
      | false =>
          simp only
          split
          · rename_i negative
            exact iff_of_true agrees fun inside => absurd negative (by omega)
          · rename_i inside
            cases erased : eraseRows s.applications row.toNat count.toNat with
            | none =>
                obtain ⟨k, below, outside⟩ := erase_rows_none s.applications row.toNat count.toNat erased
                refine iff_of_false (crash_disagrees s) fun removable => ?_
                obtain ⟨app, here, _⟩ := removable (by omega) k below
                rw [outside] at here
                contradiction
            | some rest =>
                obtain ⟨gone, perm, taken, only⟩ := erase_rows_some s.applications row.toNat count.toNat rest erased
                constructor
                · intro after _ k below
                  obtain ⟨app, member, here⟩ := taken k below
                  refine ⟨app, here, Bool.eq_false_iff.mpr fun alive => ?_⟩
                  exact erased_alive_disagrees s agrees kept rest gone perm app member alive after
                · intro removable
                  refine same_agrees s _ (erased_dead_same s rest gone perm fun app member => ?_) agrees
                  obtain ⟨k, below, here⟩ := only app member
                  obtain ⟨other, there, dead⟩ := removable (by omega) k below
                  obtain rfl := Option.some.inj (here.symm.trans there)
                  exact dead

theorem remove_rows_kept (kept : s.Kept) : (s.removeRows row count).Kept := by
  unfold removeRows
  split
  · exact ⟨kept.owned, kept.once⟩
  · exact kept
  · split
    · exact kept
    · split
      · exact ⟨kept.owned, kept.once⟩
      · rename_i rest erased
        obtain ⟨gone, perm, _⟩ := erase_rows_some s.applications row.toNat count.toNat rest erased
        have old : ∀ app ∈ rest, app ∈ s.applications := fun app member =>
          perm.symm.subset (List.mem_append_right _ member)
        exact ⟨fun app member => kept.owned app (old app member), fun app member => kept.once app (old app member)⟩

end Removal

section Blocklist
variable (sameName : String → String → Bool) (s : Panel) (name : String)

-- The row that is found is there, and only one that is not alive is removed.
theorem blocklist_item_cases : s.onBlocklistItemChanged sameName name = s ∨
    ∃ row, s.onBlocklistItemChanged sameName name = s.removeRows row 1 ∧ s.removable row 1 := by
  unfold onBlocklistItemChanged
  split
  · exact .inl rfl
  · rename_i row found
    have inside : row < s.applications.length := (List.findIdx?_eq_some_iff_getElem.mp found).1
    rw [List.getElem?_eq_getElem inside]
    simp only
    split
    · exact .inl rfl
    · rename_i dead
      refine .inr ⟨row, rfl, ?_⟩
      have here : atRow s.applications row = some s.applications[row] := by
        simp [atRow, List.getElem?_eq_getElem inside]
      have checked : anyAlive s.applications row (1 : Int).toNat = some false := by
        simp [anyAlive, here, dead]
      rw [removable, checked]
      intro _ k below
      obtain rfl : k = 0 := by omega
      exact ⟨s.applications[row], by simp, by simpa using dead⟩

end Blocklist

section Disconnecting
variable (s : Panel) (id : DdConnectionId)

theorem disconnect_each (applications : List Application) (locked : Bool) :
    disconnectEach id applications locked =
      (applications.map (·.clientDisconnected id), locked && !applications.any (·.losesLast id)) := by
  induction applications generalizing locked with
  | nil => simp [disconnectEach]
  | cons app rest ih =>
      simp only [disconnectEach, ih, List.map_cons, List.any_cons, Prod.mk.injEq, true_and, Application.losesLast]
      cases app.isAlive && !(app.clientDisconnected id).isAlive <;> simp

def forget : Panel := { s with live := s.live.filter (·.umdConnectionId ≠ id) }

theorem disconnected_eq : (s.forget id).onDriverDisconnected id =
    { s with
      live := s.live.filter (·.umdConnectionId ≠ id)
      applications := s.applications.map (·.clientDisconnected id)
      modulesLocked := s.modulesLocked && !s.applications.any (·.losesLast id) } := by
  rw [onDriverDisconnected, forget, disconnect_each]

-- Where an application loses its last connection, no other application is alive.
def lastAlive : Prop :=
  (∃ app ∈ s.applications, app.losesLast id = true) →
    ∀ other ∈ s.applications, other.isAlive = true → other.losesLast id = true

theorem disconnected_agrees_iff (agrees : s.Agrees) :
    ((s.forget id).onDriverDisconnected id).Agrees ↔ s.lastAlive id := by
  have alive : (∃ app ∈ s.applications.map (·.clientDisconnected id), app.isAlive = true) ↔
      ∃ app ∈ s.applications, app.isAlive = true ∧ app.losesLast id = false := by
    constructor
    · rintro ⟨after, member, alive⟩
      obtain ⟨app, listed, rfl⟩ := List.mem_map.mp member
      exact ⟨app, listed, Application.disconnected_alive app id alive, by simp [Application.losesLast, alive]⟩
    · rintro ⟨app, listed, alive, stays⟩
      refine ⟨app.clientDisconnected id, List.mem_map_of_mem listed, ?_⟩
      simpa [Application.losesLast, alive] using stays
  rw [disconnected_eq]
  constructor
  · intro after loses other listed otherAlive
    by_contra stays
    have unlocked : s.applications.any (·.losesLast id) = true := List.any_eq_true.mpr loses
    have still := after.locked.mpr (alive.mpr ⟨other, listed, otherAlive, by simpa using stays⟩)
    simp [unlocked] at still
  · intro last
    refine ⟨agrees.sound, fun c live => ?_, fun c live d other => ?_, ?_⟩
    · obtain ⟨before, apart⟩ := List.mem_filter.mp live
      have same : ∀ app ∈ s.applications,
          (app.clientDisconnected id).holds c.umdConnectionId = true ↔ app.holds c.umdConnectionId = true := by
        intro app _
        rw [Application.disconnected_holds app id _ (by simpa using apart)]
      rw [List.countP_map, ← agrees.held c before]
      exact List.countP_congr same
    · exact agrees.oneProcess c (List.mem_of_mem_filter live) d (List.mem_of_mem_filter other)
    · simp only [alive, Bool.and_eq_true, agrees.locked, Bool.not_eq_true']
      constructor
      · rintro ⟨⟨app, listed, appAlive⟩, none⟩
        exact ⟨app, listed, appAlive, Bool.eq_false_iff.mpr (List.any_eq_false.mp none app listed)⟩
      · rintro ⟨app, listed, appAlive, stays⟩
        refine ⟨⟨app, listed, appAlive⟩, List.any_eq_false.mpr fun other member loses => ?_⟩
        rw [last ⟨other, member, loses⟩ app listed appAlive] at stays
        contradiction

theorem disconnected_kept (kept : s.Kept) : ((s.forget id).onDriverDisconnected id).Kept := by
  rw [disconnected_eq]
  refine ⟨fun after member other holds => ?_, fun after member => ?_⟩
  · obtain ⟨app, listed, rfl⟩ := List.mem_map.mp member
    have remains := of_decide_eq_true holds
    rw [Application.disconnected_ids, (kept.once app listed).mem_erase_iff] at remains
    obtain ⟨apart, before⟩ := remains
    obtain ⟨c, live, rfl⟩ := List.mem_map.mp (kept.owned app listed other (decide_eq_true before))
    exact List.mem_map_of_mem (List.mem_filter.mpr ⟨live, decide_eq_true apart⟩)
  · obtain ⟨app, listed, rfl⟩ := List.mem_map.mp member
    rw [Application.disconnected_ids]
    exact (kept.once app listed).erase id

end Disconnecting

section Connecting
variable (s : Panel)

-- The name is found as it is: it has an entry, or it is added untrimmed.
def entryFor (name : String) : Prop :=
  s.hasEntryForName name = true ∨ trimmed name = name ∧ name ≠ "" ∧ s.blocklistContains name = false

theorem add_application_entry (name : String) : (s.addApplication name).hasEntryForName name = true ↔ s.entryFor name := by
  unfold addApplication entryFor
  simp only
  split
  · rename_i blank
    refine ⟨.inl, ?_⟩
    rintro (entry | ⟨same, nonempty, _⟩)
    · exact entry
    · exact absurd (same.symm.trans blank) nonempty
  · split
    · rename_i known
      refine ⟨.inl, ?_⟩
      rintro (entry | ⟨same, _⟩)
      · exact entry
      · rwa [same] at known
    · split
      · rename_i blocked
        refine ⟨.inl, ?_⟩
        rintro (entry | ⟨same, _, unblocked⟩)
        · exact entry
        · rw [same, unblocked] at blocked
          cases blocked
      · rename_i nonempty unknown unblocked
        have added : (Keyed.lookup Application.name (s.applications ++ [⟨trimmed name, []⟩]) name).isSome = true ↔
            s.hasEntryForName name = true ∨ trimmed name = name := by
          simp [Keyed.lookup, List.find?_append, hasEntryForName, findApplicationForName, Option.isSome_or]
        refine added.trans (or_congr_right ⟨fun same => ⟨same, ?_, ?_⟩, And.left⟩)
        · rwa [same] at nonempty
        · simpa [same] using unblocked

variable (accepted : List DdConnectionInfo) (info : DdConnectionInfo)

def acceptClient : Panel := { s with accepted := accepted, live := s.live ++ [info] }

theorem accept_client_add : (s.acceptClient accepted info).addApplication info.processName =
    (s.addApplication info.processName).acceptClient accepted info := by
  have same : ∀ name, (s.acceptClient accepted info).hasEntryForName name = s.hasEntryForName name := fun _ => rfl
  unfold addApplication
  simp only [same]
  split
  · rfl
  · split
    · rfl
    · have blocklist : ∀ name, (s.acceptClient accepted info).blocklistContains name = s.blocklistContains name := fun _ => rfl
      simp only [blocklist]
      split <;> rfl

theorem connect_client_unknown (unknown : Keyed.lookup Application.name s.applications info.processName = none) :
    (s.acceptClient accepted info).connectClient info = (s.acceptClient accepted info).crash := by
  rw [connectClient, findApplicationForName, show (s.acceptClient accepted info).applications = s.applications from rfl,
    unknown]

theorem connect_client_known (app : Application)
    (found : Keyed.lookup Application.name s.applications info.processName = some app) :
    ∃ before after, s.applications = before ++ app :: after ∧
      (s.acceptClient accepted info).connectClient info =
        { s.acceptClient accepted info with
          applications := before ++ app.clientConnected info :: after
          modulesLocked := if app.isAlive then s.modulesLocked else true } := by
  obtain ⟨before, after, split, modified⟩ :=
    Keyed.modify_split Application.name s.applications info.processName (·.clientConnected info) app found
  refine ⟨before, after, split, ?_⟩
  rw [connectClient, findApplicationForName, show (s.acceptClient accepted info).applications = s.applications from rfl,
    found]
  simp only [acceptClient, modified]

variable (agrees : s.Agrees) (kept : s.Kept) (fresh : info.umdConnectionId ∉ s.live.map DdConnectionInfo.umdConnectionId)
include kept fresh

theorem fresh_unheld (app : Application) (member : app ∈ s.applications) : app.holds info.umdConnectionId = false :=
  Bool.eq_false_iff.mpr fun holds => fresh (kept.owned app member _ holds)

include agrees in
theorem connected_held (before after : List Application) (app : Application)
    (split : s.applications = before ++ app :: after) (c : DdConnectionInfo) (live : c ∈ s.live ++ [info]) :
    (before ++ app.clientConnected info :: after).countP (·.holds c.umdConnectionId) = 1 := by
  have unheld := fresh_unheld s info kept fresh
  have connected := Application.connected_holds app info (unheld app (by simp [split]))
  obtain old | new := List.mem_append.mp live
  · have apart : c.umdConnectionId ≠ info.umdConnectionId := fun same => fresh (same ▸ List.mem_map_of_mem old)
    have held := agrees.held c old
    simp only [split, List.countP_append, List.countP_cons] at held
    simp only [List.countP_append, List.countP_cons, connected, decide_eq_false apart, Bool.or_false]
    exact held
  · obtain rfl := List.mem_singleton.mp new
    have nobody : ∀ rest : List Application, (∀ app ∈ rest, app ∈ s.applications) →
        rest.countP (·.holds c.umdConnectionId) = 0 := fun rest inside =>
      List.countP_eq_zero.mpr fun app member => by simp [unheld app (inside app member)]
    simp only [List.countP_append, List.countP_cons, connected, decide_true, Bool.or_true, if_true]
    rw [nobody before (by simp_all), nobody after (by simp_all)]

include agrees in
theorem connect_client_agrees_iff : ((s.acceptClient accepted info).connectClient info).Agrees ↔
    s.hasEntryForName info.processName = true ∧ ∀ c ∈ s.live, c.processId = info.processId := by
  rw [hasEntryForName, findApplicationForName]
  cases found : Keyed.lookup Application.name s.applications info.processName with
  | none =>
      rw [connect_client_unknown s accepted info found]
      exact iff_of_false (crash_disagrees _) (by simp)
  | some app =>
      obtain ⟨before, after, split, made⟩ := connect_client_known s accepted info app found
      have member : app ∈ s.applications := by simp [split]
      have connected := Application.connected_holds app info (fresh_unheld s info kept fresh app member)
      have alive : (app.clientConnected info).isAlive = true :=
        Application.holds_alive _ info.umdConnectionId (by simp [connected])
      rw [made]
      simp only [Option.isSome_some, true_and]
      constructor
      · intro all c live
        exact all.oneProcess c (List.mem_append_left _ live) info (List.mem_append_right _ (List.mem_singleton_self info))
      · intro one
        have process : ∀ c ∈ s.live ++ [info], c.processId = info.processId := by
          intro c live
          obtain old | new := List.mem_append.mp live
          · exact one c old
          · rw [List.mem_singleton.mp new]
        refine ⟨agrees.sound, connected_held s info agrees kept fresh before after app split, fun c live d other => ?_, ?_⟩
        · rw [process c live, process d other]
        · refine iff_of_true ?_ ⟨app.clientConnected info, by simp, alive⟩
          split
          · rename_i was
            exact agrees.locked.mpr ⟨app, member, was⟩
          · rfl

theorem connect_client_kept : ((s.acceptClient accepted info).connectClient info).Kept := by
  have more : ∀ id ∈ s.live.map DdConnectionInfo.umdConnectionId,
      id ∈ (s.live ++ [info]).map DdConnectionInfo.umdConnectionId := by
    intro id listed
    rw [List.map_append]
    exact List.mem_append_left _ listed
  cases found : Keyed.lookup Application.name s.applications info.processName with
  | none =>
      rw [connect_client_unknown s accepted info found]
      exact ⟨fun app member id holds => more id (kept.owned app member id holds), kept.once⟩
  | some app =>
      obtain ⟨before, after, split, made⟩ := connect_client_known s accepted info app found
      have here : app ∈ s.applications := by simp [split]
      have unheld := fresh_unheld s info kept fresh app here
      rw [made]
      have cases : ∀ other ∈ before ++ app.clientConnected info :: after,
          other ∈ s.applications ∨ other = app.clientConnected info := by
        intro other member
        rw [split]
        simp only [List.mem_append, List.mem_cons] at member ⊢
        tauto
      refine ⟨fun other member id holds => ?_, fun other member => ?_⟩
      · obtain old | rfl := cases other member
        · exact more id (kept.owned other old id holds)
        · rw [Application.connected_holds app info unheld] at holds
          obtain held | new := Bool.or_eq_true_iff.mp holds
          · exact more id (kept.owned app here id held)
          · rw [of_decide_eq_true new]
            simp [acceptClient]
      · obtain old | rfl := cases other member
        · exact kept.once other old
        · rw [Application.connected_ids app info unheld]
          refine (kept.once app here).append (List.nodup_singleton _) ?_
          simpa [List.disjoint_singleton] using of_decide_eq_false unheld

include agrees in
theorem connected_agrees_iff : ((s.acceptClient accepted info).onDriverConnected info).Agrees ↔
    s.entryFor info.processName ∧ ∀ c ∈ s.live, c.processId = info.processId := by
  have same := add_application_same s info.processName
  have live : (s.addApplication info.processName).live = s.live := same.live
  have added := same_agrees s _ same agrees
  have addedKept := same_kept s _ same kept
  rw [onDriverConnected, accept_client_add, connect_client_agrees_iff _ accepted info added addedKept (by rwa [live]),
    add_application_entry, live]

theorem connected_kept : ((s.acceptClient accepted info).onDriverConnected info).Kept := by
  have same := add_application_same s info.processName
  rw [onDriverConnected, accept_client_add]
  exact connect_client_kept _ accepted info (same_kept s _ same kept) (by rwa [same.live])

end Connecting

-- What the model needs of an event: a client whose name has an entry under it as
-- it is and whose process is the only one that is connected, no other application
-- alive at the end of an application, and rows that are there.
def handled (s : Panel) : Action → Prop
  | .onDriverConnected info => s.entryFor info.processName ∧ ∀ c ∈ s.live, c.processId = info.processId
  | .onDriverDisconnected id => s.lastAlive id
  | .setData row _ => row < s.applications.length
  | .removeRows row count => s.removable row count
  | _ => True

section Runs
variable (sameName : String → String → Bool) (names : List String)

theorem connected_event (s : Panel) (info : DdConnectionInfo) (t : Panel)
    (next : s.event sameName (.onDriverConnected info) = some t) :
    info.umdConnectionId ∉ s.live.map DdConnectionInfo.umdConnectionId ∧
      t = (s.acceptClient (s.accepted.erase info) info).onDriverConnected info := by
  rw [event] at next
  split at next
  · rename_i admitted
    exact ⟨admitted.2, (Option.some.inj next).symm⟩
  · contradiction

theorem set_data_outside (s : Panel) (row : Nat) (value : String) (outside : ¬row < s.applications.length) :
    s.setData row value = s.crash := by
  simp [setData, List.getElem?_eq_none (Nat.le_of_not_lt outside)]

theorem ignored_same (s : Panel) (models : Option Models) (info : DdConnectionInfo) (t : Panel)
    (next : s.event sameName (.shouldClientBeIgnored models info) = some t) : SameHolding s t := by
  obtain rfl := Option.some.inj next
  split <;> exact same_holding_refl s _ rfl rfl rfl rfl

theorem kept_event (s : Panel) (a : Action) (t : Panel) (kept : s.Kept) (next : s.event sameName a = some t) : t.Kept := by
  cases a with
  | shouldClientBeIgnored models info => exact same_kept s t (ignored_same sameName s models info t next) kept
  | onDriverConnected info =>
      obtain ⟨fresh, accepted⟩ := connected_event sameName s info t next
      rw [accepted]
      exact connected_kept s _ info kept fresh
  | onDriverDisconnected id =>
      obtain rfl := Option.some.inj next
      exact disconnected_kept s id kept
  | addApplication name =>
      obtain rfl := Option.some.inj next
      exact same_kept s _ (add_application_same s name) kept
  | setData row value =>
      obtain rfl := Option.some.inj next
      by_cases inside : row < s.applications.length
      · exact same_kept s _ (set_data_same s row value inside) kept
      · rw [set_data_outside s row value inside]
        exact ⟨kept.owned, kept.once⟩
  | removeRows row count =>
      obtain rfl := Option.some.inj next
      exact remove_rows_kept s row count kept
  | onBlocklistItemChanged name =>
      obtain rfl := Option.some.inj next
      obtain same | ⟨row, removes, _⟩ := blocklist_item_cases sameName s name
      · rw [same]
        exact kept
      · rw [removes]
        exact remove_rows_kept s row 1 kept
  | setBlocklist | setAutoConnectMode | setApiFilter =>
      obtain rfl := Option.some.inj next
      exact ⟨kept.owned, kept.once⟩

theorem event_agrees_iff (s : Panel) (a : Action) (t : Panel) (agrees : s.Agrees) (kept : s.Kept)
    (next : s.event sameName a = some t) : t.Agrees ↔ s.handled a := by
  cases a with
  | shouldClientBeIgnored models info =>
      exact iff_of_true (same_agrees s t (ignored_same sameName s models info t next) agrees) trivial
  | onDriverConnected info =>
      obtain ⟨fresh, accepted⟩ := connected_event sameName s info t next
      rw [accepted]
      exact connected_agrees_iff s _ info agrees kept fresh
  | onDriverDisconnected id =>
      obtain rfl := Option.some.inj next
      exact disconnected_agrees_iff s id agrees
  | addApplication name =>
      obtain rfl := Option.some.inj next
      exact iff_of_true (same_agrees s _ (add_application_same s name) agrees) trivial
  | setData row value =>
      obtain rfl := Option.some.inj next
      by_cases inside : row < s.applications.length
      · exact iff_of_true (same_agrees s _ (set_data_same s row value inside) agrees) inside
      · rw [set_data_outside s row value inside]
        exact iff_of_false (crash_disagrees s) inside
  | removeRows row count =>
      obtain rfl := Option.some.inj next
      exact remove_rows_agrees_iff s row count agrees kept
  | onBlocklistItemChanged name =>
      obtain rfl := Option.some.inj next
      obtain same | ⟨row, removes, removable⟩ := blocklist_item_cases sameName s name
      · rw [same]
        exact iff_of_true agrees trivial
      · rw [removes]
        exact iff_of_true ((remove_rows_agrees_iff s row 1 agrees kept).mpr removable) trivial
  | setBlocklist | setAutoConnectMode | setApiFilter =>
      obtain rfl := Option.some.inj next
      exact iff_of_true (same_agrees s _ (same_holding_refl s _ rfl rfl rfl rfl) agrees) trivial

theorem step_event (s : Panel) (a : Action) (t : Panel) (next : s.step sameName a = some t) :
    s.event sameName a = some t := by
  rw [step] at next
  split at next
  · contradiction
  · exact next

theorem initial_agrees : (initial names).Agrees where
  sound := rfl
  held := nofun
  oneProcess := nofun
  locked := by
    refine iff_of_false nofun ?_
    rintro ⟨app, member, alive⟩
    obtain ⟨name, _, rfl⟩ := List.mem_map.mp member
    contradiction

theorem reachable_kept (s : Panel) (reach : Reachable (applicationModel sameName names) s) : s.Kept := by
  refine reachable_invariant (applicationModel sameName names) Kept ⟨?_, ?_⟩
    (fun s a t kept next => kept_event sameName s a t kept (step_event sameName s a t next)) s reach
  · intro app member id holds
    obtain ⟨name, _, rfl⟩ := List.mem_map.mp member
    contradiction
  · intro app member
    obtain ⟨name, _, rfl⟩ := List.mem_map.mp member
    exact List.nodup_nil

end Runs

end Panel

section Failures

def vulkanModels : Models := ⟨true, fun _ => true, fun api => api = .vulkan⟩

def vulkanClient (umdConnectionId : DdConnectionId) (processId : UInt32) (processName : String) : DdConnectionInfo :=
  ⟨umdConnectionId, processId, processName, some "AMD Vulkan Driver"⟩

def passes (info : DdConnectionInfo) : List Action := [.shouldClientBeIgnored (some vulkanModels) info]

def connects (info : DdConnectionInfo) : List Action := passes info ++ [.onDriverConnected info]

def emptyBlocklist : Action := .setBlocklist (some fun _ => false)

abbrev emptyPanel : Machine Panel Action := applicationModel (· = ·) []

end Failures

end RadeonPanel.Frontend

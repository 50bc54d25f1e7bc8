import Mathlib.Data.Finset.Sort
import LabFleet.Proofs.Daemon.Exclusion

/-!
The lock table as an abstract map.

A lock table keeps one slot per service named when it was built, in a list sorted by name.
Seen from outside it is a map from that fixed set of services to an optional lock
(`LockMap`), and every call is an operation on that map:

  * a call on a name outside the set fails as an unknown object and changes nothing;
  * `acquire` maps a free service to the new lock and refuses a locked one, whoever holds it;
  * `release` frees a service for its holder only, answers `false` on a free one, and refuses
    any other connection as busy;
  * `enter` admits the holder, or anyone on a free service, and changes nothing;
  * `release_all` frees exactly the services a connection holds and lists them in name order;
  * `force_release` frees a service whoever holds it and gives back its lock;
  * a snapshot lists the whole map in name order.

The table stands for the map `view` reads off it. On a table sorted by name each call is one
commuting square (`call_refines`): the table answers what the map answers and ends where the
map ends. Sortedness is what makes the squares of `release_all` and the snapshot commute: the
table's list is then the map's services in order, each once.

Main statement: `lock_table_refines_lock_map` — from the table built for any list of services,
every sequence of calls answers call for call as the map built for the same services does, and
leaves a table that stands for the map's final state.
-/

namespace LabFleet.Daemon

set_option autoImplicit false

/-- A call on a lock table. -/
inductive LockCall where
  | acquire (service : String) (holder : ConnectionId) (user : Option String) (now : Timestamp)
  | release (service : String) (holder : ConnectionId)
  | enter (service : String) (caller : ConnectionId)
  | holder (service : String)
  | releaseAll (holder : ConnectionId)
  | forceRelease (service : String)
  | snapshot

/-- What a call on a lock table answers when it succeeds. -/
inductive LockAnswer where
  /-- `acquire` and `enter` answer nothing. -/
  | done
  /-- Whether `release` freed a held service. -/
  | released (held : Bool)
  /-- The lock `holder` reads, or the one `force_release` took away. -/
  | lock (l : Option Lock)
  /-- The services `release_all` freed. -/
  | freed (services : List String)
  /-- The snapshot: each service with its lock, in name order. -/
  | slots (entries : List (String × Option Lock))
  deriving DecidableEq

/-- Calls one after another on a state: the answer of each, and the state after the last. -/
def runCalls {σ : Type} (call : σ → LockCall → Result LockAnswer × σ) :
    σ → List LockCall → List (Result LockAnswer) × σ
  | s, [] => ([], s)
  | s, c :: cs => ((call s c).1 :: (runCalls call (call s c).2 cs).1, (runCalls call (call s c).2 cs).2)

/-- The lock table as clients see it: the services fixed when it was built, each free or
mapped to its lock. -/
structure LockMap where
  services : Finset String
  lockOf : String → Option Lock

namespace LockMap

/-- The map of a table built for some services: all of them, all free. -/
def new (services : List String) : LockMap := ⟨services.toFinset, fun _ => none⟩

/-- The lock of a service of the map; any other name is an unknown object. -/
def lookup (m : LockMap) (s : String) : Result (Option Lock) :=
  if s ∈ m.services then .ok (m.lockOf s) else .error (.unknownObject s)

/-- The map with one service's lock set. -/
def set (m : LockMap) (s : String) (x : Option Lock) : LockMap :=
  { m with lockOf := Function.update m.lockOf s x }

/-- The services a connection holds. -/
def heldBy (m : LockMap) (c : ConnectionId) : Finset String :=
  m.services.filter fun s => (m.lockOf s).map Lock.holder = some c

/-- A call on the map: its answer, and the map after it. A refused call changes nothing. -/
def call (m : LockMap) : LockCall → Result LockAnswer × LockMap
  | .acquire s c u now =>
    match m.lookup s with
    | .error e => (.error e, m)
    | .ok (some cur) => (.error (.alreadyLocked s cur.describe), m)
    | .ok none => (.ok .done, m.set s (some ⟨c, u, now⟩))
  | .release s c =>
    match m.lookup s with
    | .error e => (.error e, m)
    | .ok none => (.ok (.released false), m)
    | .ok (some cur) =>
      if cur.holder = c then (.ok (.released true), m.set s none)
      else (.error (.resourceBusy s cur.describe), m)
  | .enter s c =>
    match m.lookup s with
    | .error e => (.error e, m)
    | .ok none => (.ok .done, m)
    | .ok (some cur) =>
      if cur.holder = c then (.ok .done, m) else (.error (.resourceBusy s cur.describe), m)
  | .holder s => (LockAnswer.lock <$> m.lookup s, m)
  | .releaseAll c =>
    (.ok (.freed ((m.heldBy c).sort (· ≤ ·))),
      { m with lockOf := fun s => if s ∈ m.heldBy c then none else m.lockOf s })
  | .forceRelease s =>
    match m.lookup s with
    | .error e => (.error e, m)
    | .ok x => (.ok (.lock x), m.set s none)
  | .snapshot => (.ok (.slots ((m.services.sort (· ≤ ·)).map fun s => (s, m.lockOf s))), m)

end LockMap

namespace LockTable

/-- A call on the table: its answer, and the table after it. A refused call leaves no new
table, so the table stays as it was. -/
def call (t : LockTable) : LockCall → Result LockAnswer × LockTable
  | .acquire s c u now =>
    match t.acquire s c u now with
    | .ok t' => (.ok .done, t')
    | .error e => (.error e, t)
  | .release s c =>
    match t.release s c with
    | .ok (b, t') => (.ok (.released b), t')
    | .error e => (.error e, t)
  | .enter s c => ((fun _ => LockAnswer.done) <$> t.enter s c, t)
  | .holder s => (LockAnswer.lock <$> t.holder s, t)
  | .releaseAll c => (.ok (.freed (t.releaseAll c).1), (t.releaseAll c).2)
  | .forceRelease s =>
    match t.forceRelease s with
    | .ok (x, t') => (.ok (.lock x), t')
    | .error e => (.error e, t)
  | .snapshot => (.ok (.slots t.slots), t)

/-- The map a table stands for: the services it has slots for, and the lock in each. -/
def view (t : LockTable) : LockMap := ⟨t.slots.keys.toFinset, t.lockOn⟩

variable {t : LockTable} {s : String}

theorem mem_keys_of_find? {x : Option Lock} (h : t.slots.find? s = some x) : s ∈ t.slots.keys :=
  (NameMap.isSome_find?_iff s t.slots).1 (by simp [h])

theorem view_lookup (t : LockTable) (s : String) : t.view.lookup s = t.slot s := by
  rw [slot_eq]
  unfold LockMap.lookup view
  cases h : t.slots.find? s with
  | none =>
    have hs : s ∉ t.slots.keys := fun hs => by
      simpa [h] using (NameMap.isSome_find?_iff s t.slots).2 hs
    simp [hs]
  | some x => simp [mem_keys_of_find? h, lockOn, h]

theorem view_setSlot (hs : s ∈ t.slots.keys) (x : Option Lock) :
    (t.setSlot s x).view = t.view.set s x := by
  show LockMap.mk _ _ = LockMap.mk _ _
  congr 1
  · ext k
    simp only [view, List.mem_toFinset]
    exact NameMap.mem_keys_insert.trans ⟨fun h => h.elim (· ▸ hs) id, .inr⟩
  · funext k
    rw [lockOn_setSlot, Function.update_apply]
    by_cases hk : k = s
    · simp [hk]
    · simp [hk, Ne.symm hk, view]

theorem lockOn_of_mem (hs : NameMap.Sorted t.slots) {x : Option Lock} (h : (s, x) ∈ t.slots) :
    t.lockOn s = x := by
  simp [lockOn, (hs.find?_eq_some_iff).2 h]

theorem mem_keys_of_lockOn {l : Lock} (h : t.lockOn s = some l) : s ∈ t.slots.keys := by
  cases hf : t.slots.find? s with
  | none => simp [lockOn, hf] at h
  | some x => exact mem_keys_of_find? hf

/-! ## Freeing a connection's locks -/

theorem releaseAll_fst_sublist (c : ConnectionId) : List.Sublist (t.releaseAll c).1 t.slots.keys :=
  List.filter_sublist.map _

theorem mem_releaseAll_fst (c : ConnectionId) :
    s ∈ (t.releaseAll c).1 ↔ ∃ x, (s, x) ∈ t.slots ∧ x.map Lock.holder = some c := by
  simp only [releaseAll, List.mem_map, List.mem_filter]
  constructor
  · rintro ⟨⟨n, x⟩, ⟨hmem, hheld⟩, rfl⟩
    refine ⟨x, hmem, ?_⟩
    rcases x with _ | l <;> simp_all
  · rintro ⟨x, hmem, hx⟩
    refine ⟨(s, x), ⟨hmem, ?_⟩, rfl⟩
    rcases x with _ | l <;> simp_all

theorem mem_heldBy_view (c : ConnectionId) :
    s ∈ t.view.heldBy c ↔ s ∈ t.slots.keys ∧ (t.lockOn s).map Lock.holder = some c := by
  simp [LockMap.heldBy, view]

/-- **The services freed, in name order.** On a sorted table the services `releaseAll` lists
are exactly those the connection holds, sorted: the table's list is in name order, and a
filter keeps that order. -/
theorem releaseAll_fst_eq (hs : NameMap.Sorted t.slots) (c : ConnectionId) :
    (t.releaseAll c).1 = (t.view.heldBy c).sort (· ≤ ·) := by
  have hlt : (t.releaseAll c).1.Pairwise (· < ·) :=
    hs.keys_pairwise.sublist (releaseAll_fst_sublist c)
  have hset : (t.releaseAll c).1.toFinset = t.view.heldBy c := by
    ext k
    rw [List.mem_toFinset, mem_releaseAll_fst, mem_heldBy_view]
    constructor
    · rintro ⟨x, hmem, hx⟩
      exact ⟨NameMap.mem_keys_of_mem hmem, by rw [lockOn_of_mem hs hmem]; exact hx⟩
    · rintro ⟨hk, hx⟩
      obtain ⟨x, hf⟩ := Option.isSome_iff_exists.1 ((NameMap.isSome_find?_iff k t.slots).2 hk)
      refine ⟨x, (hs.find?_eq_some_iff).1 hf, ?_⟩
      simpa [lockOn, hf] using hx
  rw [← hset]
  exact ((List.toFinset_sort (· ≤ ·) (hlt.imp ne_of_lt)).2 (hlt.imp le_of_lt)).symm

theorem view_releaseAll (c : ConnectionId) :
    (t.releaseAll c).2.view =
      { t.view with lockOf := fun s => if s ∈ t.view.heldBy c then none else t.view.lockOf s } := by
  show LockMap.mk _ _ = LockMap.mk _ _
  congr 1
  · rw [show (t.releaseAll c).2.slots.keys = t.slots.keys from NameMap.keys_map _ fun ⟨_, _⟩ => rfl]
    rfl
  · funext k
    show (t.releaseAll c).2.lockOn k = if k ∈ t.view.heldBy c then none else t.lockOn k
    rw [lockOn_releaseAll]
    cases hl : t.lockOn k with
    | none => simp
    | some l =>
      -- a service with a lock is one of the table's, so it is held by `c` exactly when its
      -- lock is `c`'s
      have hmem : k ∈ t.view.heldBy c ↔ l.holder = c := by
        rw [mem_heldBy_view, hl]
        simp [mem_keys_of_lockOn hl]
      by_cases hc : l.holder = c
      · simp [hc, hmem.2 hc]
      · simp [hc, mt hmem.1 hc]

theorem sorted_releaseAll (hs : NameMap.Sorted t.slots) (c : ConnectionId) :
    NameMap.Sorted (t.releaseAll c).2.slots :=
  hs.map fun ⟨_, _⟩ => rfl

/-! ## The snapshot -/

/-- **The snapshot is the whole map.** A sorted table lists the map's services in name order,
each with its lock. -/
theorem slots_eq_view (hs : NameMap.Sorted t.slots) :
    t.slots = (t.view.services.sort (· ≤ ·)).map fun s => (s, t.view.lockOf s) := by
  have hkeys : t.view.services.sort (· ≤ ·) = t.slots.keys :=
    (List.toFinset_sort (· ≤ ·) hs.keys_nodup).2 (hs.keys_pairwise.imp le_of_lt)
  rw [hkeys, NameMap.keys, List.map_map]
  -- each entry is its key with the lock stored under it
  conv_lhs => rw [← List.map_id t.slots]
  refine List.map_congr_left fun e he => ?_
  obtain ⟨k, x⟩ := e
  simp [view, lockOn_of_mem hs he]

/-! ## A new table -/

theorem sorted_new (services : List String) : NameMap.Sorted (LockTable.new services).slots :=
  (show NameMap.Sorted ([] : NameMap (Option Lock)) from List.Pairwise.nil).foldl_insert _

theorem view_new (services : List String) : (LockTable.new services).view = LockMap.new services := by
  show LockMap.mk _ _ = LockMap.mk _ _
  congr 1
  · ext k
    rw [List.mem_toFinset, List.mem_toFinset, ← NameMap.isSome_find?_iff]
    simp [LockTable.new, NameMap.find?_ofList_const]
  · funext k
    simp only [lockOn, LockTable.new, NameMap.find?_ofList_const]
    split <;> rfl

/-! ## The squares -/

/-- The table is sorted by name and stands for the map. -/
structure Refines (t : LockTable) (m : LockMap) : Prop where
  sorted : NameMap.Sorted t.slots
  view : t.view = m

theorem refines_new (services : List String) :
    (LockTable.new services).Refines (LockMap.new services) :=
  ⟨sorted_new services, view_new services⟩

theorem Refines.setSlot (hs : NameMap.Sorted t.slots) {x : Option Lock} (h : t.slots.find? s = some x)
    (y : Option Lock) : (t.setSlot s y).Refines (t.view.set s y) :=
  ⟨hs.insert s y, view_setSlot (mem_keys_of_find? h) y⟩

/-- **One call.** On a table that stands for a map, a call answers what the map answers and
leaves a table that stands for the map after the call. -/
theorem call_refines {m : LockMap} (h : t.Refines m) (c : LockCall) :
    (t.call c).1 = (m.call c).1 ∧ (t.call c).2.Refines (m.call c).2 := by
  obtain ⟨hs, rfl⟩ := h
  have same : t.Refines t.view := ⟨hs, rfl⟩
  cases c with
  | acquire s c u now =>
    simp only [call, LockMap.call, view_lookup, acquire_eq, slot_eq]
    rcases hf : t.slots.find? s with _ | _ | cur
    · exact ⟨rfl, same⟩
    · exact ⟨rfl, Refines.setSlot hs hf _⟩
    · exact ⟨rfl, same⟩
  | release s c =>
    simp only [call, LockMap.call, view_lookup, release_eq, slot_eq]
    rcases hf : t.slots.find? s with _ | _ | cur
    · exact ⟨rfl, same⟩
    · exact ⟨rfl, same⟩
    · by_cases hc : cur.holder = c
      · simp only [hc, if_true, true_and]
        exact Refines.setSlot hs hf _
      · simp only [hc, if_false, true_and]
        exact same
  | enter s c =>
    simp only [call, LockMap.call, view_lookup, enter_eq, slot_eq]
    rcases hf : t.slots.find? s with _ | _ | cur
    · exact ⟨rfl, same⟩
    · exact ⟨rfl, same⟩
    · by_cases hc : cur.holder = c
      · simp only [hc, if_true]
        exact ⟨rfl, same⟩
      · simp only [hc, if_false]
        exact ⟨rfl, same⟩
  | holder s => exact ⟨by simp only [call, LockMap.call, view_lookup]; rfl, same⟩
  | releaseAll c =>
    simp only [call, LockMap.call]
    exact ⟨by rw [releaseAll_fst_eq hs], sorted_releaseAll hs c, view_releaseAll c⟩
  | forceRelease s =>
    simp only [call, LockMap.call, view_lookup, forceRelease_eq, slot_eq]
    rcases hf : t.slots.find? s with _ | x
    · exact ⟨rfl, same⟩
    · exact ⟨rfl, Refines.setSlot hs hf _⟩
  | snapshot =>
    simp only [call, LockMap.call]
    exact ⟨by rw [← slots_eq_view hs], same⟩

/-- **The run lemma.** From a table that stands for a map, any sequence of calls answers as the
map does, call for call, and ends in a table that stands for the map's final state. -/
theorem runCalls_refines {m : LockMap} (h : t.Refines m) (calls : List LockCall) :
    (runCalls LockTable.call t calls).1 = (runCalls LockMap.call m calls).1 ∧
      (runCalls LockTable.call t calls).2.Refines (runCalls LockMap.call m calls).2 := by
  induction calls generalizing t m with
  | nil => exact ⟨rfl, h⟩
  | cons c calls ih =>
    obtain ⟨hanswer, h'⟩ := call_refines h c
    obtain ⟨hrest, hend⟩ := ih h'
    exact ⟨by simp only [runCalls, hanswer, hrest], hend⟩

end LockTable

/-- **The lock table refines the abstract lock map.** From the table built for any list of
services, every sequence of calls answers call for call as the map of the same services does:
a name outside them is an unknown object and changes nothing; `acquire` takes exactly a free
service; `release` frees only for the holder and answers `false` on a free service; `enter`
admits the holder or anyone on a free service and changes nothing; `release_all` frees and
lists, in name order, exactly the holder's services; `force_release` frees any service and
gives back its lock; and a snapshot is the whole map in name order. The table left stands for
the map the calls leave. -/
theorem lock_table_refines_lock_map (services : List String) (calls : List LockCall) :
    (runCalls LockTable.call (LockTable.new services) calls).1 =
        (runCalls LockMap.call (LockMap.new services) calls).1 ∧
      (runCalls LockTable.call (LockTable.new services) calls).2.view =
        (runCalls LockMap.call (LockMap.new services) calls).2 := by
  obtain ⟨hanswers, hend⟩ := LockTable.runCalls_refines (LockTable.refines_new services) calls
  exact ⟨hanswers, hend.view⟩

end LabFleet.Daemon

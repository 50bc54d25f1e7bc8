import LabFleet.Nameserver.Directory
import LabFleet.Proofs.NameMap

/-!
The directory as a map.

A nameserver's directory changes its table only by registering, removing and cleaning, each
done by computing the new table, handing it to the store, and taking it once the store has it.
This module shows that the table is exactly the map the successful changes build.

* `Change`: the three changes as operations on a map. Registering sets a name's entry whether
  or not it had one, removing drops a name, and cleaning drops each name that still has an
  address found dead.
* `step_outcome`: one step of a directory (a call, the second half of a cleaning pass, or the
  file system starting or stopping to take writes) either leaves the directory as it was, or
  has the store take the table its change gives. A step that fails is always of the first kind.
* `clean_probe`: a cleaning pass that nothing interleaves with drops exactly the unreachable
  names; interleaved with registrations, `foldl_sweepStep` drops only the names whose address
  is still the probed one.
* `entries_runAll`: over any run the table is the one the successful changes build, in order.
* `reopens_runAll`: a snapshot store reopened at any point of a run gives that table back, as
  long as each table written reads back from its snapshot.
* `directory_refines_change_log` puts these together for a directory opened on any store:
  lookups and listings answer from that map, registering overwrites without a word, and a
  step that fails or that a read-only snapshot refuses changes nothing.
-/

namespace LabFleet.Nameserver

open Wire Service NameMap

set_option autoImplicit false

/-- A change to the table. -/
inductive Change where
  | register (name : String) (entry : Entry)
  | remove (name : String)
  /-- A cleaning pass, with the names its probe found unreachable and the address each had. -/
  | clean (dead : List (String × Address))

/-- The table after a change. Registering sets the name's entry whether or not it had one,
removing drops the name, and cleaning drops each name whose address is one found dead for it. -/
def Change.apply : Change → NameMap Entry → NameMap Entry
  | .register n e, m => m.insert n e
  | .remove n, m => m.erase n
  | .clean dead, m => m.filter fun e => !decide ((e.1, e.2.address) ∈ dead)

/-- A step of a directory's life: a call served at a time, the second half of a cleaning pass
given what its first half found, or the file system starting or stopping to take the
snapshot's writes. -/
inductive DirStep where
  | call (now : Timestamp) (call : Call)
  | sweep (dead : List (String × Address))
  | writable (b : Bool)

namespace Directory

/-- Whether a step succeeded, and the directory after it. -/
def step (d : Directory) : DirStep → Bool × Directory
  | .call now c => ((d.dispatch now c).1.isOk, (d.dispatch now c).2)
  | .sweep dead =>
    match d.sweep dead with
    | .ok (_, d') => (true, d')
    | .error _ => (false, d)
  | .writable b => (true, { d with file := { d.file with writable := b } })

/-- The directory after a run of steps. -/
def runAll (d : Directory) (steps : List DirStep) : Directory :=
  steps.foldl (fun d e => (d.step e).2) d

end Directory

/-- The change a step asks for: a registration or a removal whose arguments read, or a
cleaning pass. Other calls and the file system's steps ask for none. -/
def DirStep.change : DirStep → Option Change
  | .call now c =>
    if c.object ≠ directoryObject then none
    else
      let args : Args := ⟨c.args⟩
      match c.method with
      | "register" =>
        (do
          let name ← args.required 0 "name" Json.Decoder.string
          let address ← args.required 1 "address" addressValue
          let metadata ← args.optional 2 "metadata" strings
          return Change.register name { address, metadata := metadata.getD [], registeredAt := now }
            : Result Change).toOption
      | "remove" => (Change.remove <$> args.required 0 "name" Json.Decoder.string).toOption
      | _ => none
  | .sweep dead => some (.clean dead)
  | .writable _ => none

namespace Directory

/-- The changes of a run that succeeded, in order. -/
def log : Directory → List DirStep → List Change
  | _, [] => []
  | d, e :: es => (if (d.step e).1 then e.change.toList else []) ++ log (d.step e).2 es

/-- The directory once its store has taken a new table: a snapshot store writes it out whole. -/
def commit (d : Directory) (next : NameMap Entry) : Directory :=
  match d.store with
  | .memory => { d with entries := next }
  | .snapshot => { d with entries := next, file := { d.file with text := some (snapshotText next) } }

variable {d : Directory}

@[simp] theorem commit_entries (next : NameMap Entry) : (d.commit next).entries = next := by
  unfold commit
  split <;> rfl

@[simp] theorem commit_store (next : NameMap Entry) : (d.commit next).store = d.store := by
  unfold commit
  split <;> rfl

theorem commit_text (hs : d.store = .snapshot) (next : NameMap Entry) :
    (d.commit next).file.text = some (snapshotText next) := by
  simp [commit, hs]

theorem persist_cases (next : NameMap Entry) :
    d.persist next = .ok (d.commit next) ∨
      d.persist next = .error (.io "Is a directory (os error 21)") := by
  obtain ⟨entries, store, file⟩ := d
  cases store <;> cases hw : file.writable <;> simp [persist, commit, hw]

theorem persist_eq (next : NameMap Entry) :
    d.persist next = if d.store = .snapshot ∧ d.file.writable = false then
      .error (.io "Is a directory (os error 21)") else .ok (d.commit next) := by
  obtain ⟨entries, store, file⟩ := d
  cases store <;> cases hw : file.writable <;> simp [persist, commit, hw]

end Directory

/-- The table after a list of changes, applied in order. -/
def Change.applyList (changes : List Change) (m : NameMap Entry) : NameMap Entry :=
  changes.foldl (fun m ch => ch.apply m) m

theorem erase_of_contains_eq_false {m : NameMap Entry} {n : String} (h : m.contains n = false) :
    m.erase n = m :=
  List.filter_eq_self.2 fun e he => by
    have hne : e.1 ≠ n := fun hn => by
      simp only [NameMap.contains, List.any_eq_false, beq_iff_eq] at h
      exact h e he hn
    simpa using hne

theorem Change.sorted_apply {m : NameMap Entry} (hm : Sorted m) : ∀ ch : Change, Sorted (ch.apply m)
  | .register n e => hm.insert n e
  | .remove n => hm.erase n
  | .clean _ => List.Pairwise.filter _ hm

/-! ## Cleaning -/

section Clean

variable {m : NameMap Entry} {n : String} {a : Address}

theorem clean_cons_of_found (hm : Sorted m) (rest : List (String × Address))
    (hfound : (m.find? n).any (·.address == a) = true) :
    (Change.clean rest).apply (m.erase n) = (Change.clean ((n, a) :: rest)).apply m := by
  simp only [Change.apply, NameMap.erase, List.filter_filter]
  refine List.filter_congr fun ke hke => ?_
  obtain ⟨k, e⟩ := ke
  by_cases hk : k = n
  · -- the table's one entry for the name has the probed address
    subst hk
    rw [hm.find?_eq_some_iff.2 hke] at hfound
    have ha : e.address = a := by simpa using hfound
    simp [ha]
  · simp [hk]

theorem clean_cons_of_not_found (hm : Sorted m) (rest : List (String × Address))
    (hnot : (m.find? n).any (·.address == a) = false) :
    (Change.clean rest).apply m = (Change.clean ((n, a) :: rest)).apply m := by
  simp only [Change.apply]
  refine List.filter_congr fun ⟨k, e⟩ hke => ?_
  have hne : (k, e.address) ≠ (n, a) := by
    intro he
    simp only [Prod.mk.injEq] at he
    obtain ⟨rfl, rfl⟩ := he
    rw [hm.find?_eq_some_iff.2 hke] at hnot
    simp at hnot
  simp [hne]

/-- **The second half of a cleaning pass.** On a sorted table, folding `sweepStep` over the
probed names from `(r, m)` notes more names after `r` and leaves the table cleaning gives;
noting none, it leaves `m` itself. -/
theorem foldl_sweepStep (dead : List (String × Address)) {r : List String} (hm : Sorted m) :
    (dead.foldl Directory.sweepStep (r, m)).2 = (Change.clean dead).apply m ∧
      r <+: (dead.foldl Directory.sweepStep (r, m)).1 ∧
      ((dead.foldl Directory.sweepStep (r, m)).1 = r →
        (dead.foldl Directory.sweepStep (r, m)).2 = m) := by
  induction dead generalizing r m with
  | nil => simp [Change.apply]
  | cons p rest ih =>
    obtain ⟨n, a⟩ := p
    rw [List.foldl_cons]
    by_cases hfound : (m.find? n).any (·.address == a) = true
    · -- the name is dropped and noted
      have hs : Directory.sweepStep (r, m) (n, a) = (r ++ [n], m.erase n) := by
        simp [Directory.sweepStep, hfound]
      rw [hs]
      obtain ⟨h₁, h₂, -⟩ := ih (hm.erase n)
      refine ⟨h₁.trans (clean_cons_of_found hm rest hfound),
        (List.prefix_append r [n]).trans h₂, fun he => absurd h₂.length_le ?_⟩
      rw [he]
      simp
    · -- the name stays
      have hs : Directory.sweepStep (r, m) (n, a) = (r, m) := by
        simp [Directory.sweepStep, hfound]
      rw [hs]
      obtain ⟨h₁, h₂, h₃⟩ := ih hm
      exact ⟨h₁.trans (clean_cons_of_not_found hm rest (by simpa using hfound)), h₂, h₃⟩

theorem mem_probe (d : Directory) (reachable : Endpoint → Bool) :
    (n, a) ∈ d.probe reachable ↔
      ∃ e, (n, e) ∈ d.entries ∧ e.address = a ∧ reachable a.endpoint = false := by
  simp only [Directory.probe, List.mem_map, List.mem_filter, Prod.exists, Prod.mk.injEq]
  constructor
  · rintro ⟨k, e, ⟨hke, hr⟩, rfl, rfl⟩
    exact ⟨e, hke, rfl, by simpa using hr⟩
  · rintro ⟨e, hne, rfl, hr⟩
    exact ⟨n, e, ⟨hne, by simpa using hr⟩, rfl, rfl⟩

theorem clean_probe (d : Directory) (reachable : Endpoint → Bool) :
    (Change.clean (d.probe reachable)).apply d.entries =
      d.entries.filter fun x => reachable x.2.address.endpoint := by
  simp only [Change.apply]
  refine List.filter_congr fun ⟨k, e⟩ hke => ?_
  -- another entry found under the name has the same address, so the same answer
  have hdead : (k, e.address) ∈ d.probe reachable ↔ reachable e.address.endpoint = false := by
    rw [mem_probe]
    constructor
    · rintro ⟨e', -, he', hr⟩
      rwa [← he'] at hr ⊢
    · exact fun hr => ⟨e, hke, rfl, hr⟩
  cases hr : reachable e.address.endpoint <;> simp [hdead, hr]

end Clean

namespace Directory

variable {d : Directory}

/-- What a step that asked for `change` and reported `ok` may do to a directory: leave it as
it was, a change reported done then changing nothing in the table; have the store take the
table the change gives; or, asking for nothing, let the file system start or stop taking
writes. -/
inductive Outcome (d : Directory) (change : Option Change) : Bool → Directory → Prop
  | same (ok : Bool) (h : ∀ ch, ok = true → change = some ch → ch.apply d.entries = d.entries) :
      Outcome d change ok d
  | committed (ch : Change) (h : change = some ch)
      (hp : d.persist (ch.apply d.entries) = .ok (d.commit (ch.apply d.entries))) :
      Outcome d change true (d.commit (ch.apply d.entries))
  | writable (b : Bool) (h : change = none) :
      Outcome d change true { d with file := { d.file with writable := b } }

namespace Outcome

variable {change : Option Change} {ok : Bool} {d' : Directory}

theorem entries (h : Outcome d change ok d') :
    d'.entries = Change.applyList (if ok then change.toList else []) d.entries := by
  cases h with
  | same ok hsame =>
    cases ok with
    | false => rfl
    | true =>
      cases change with
      | none => rfl
      | some ch => exact (hsame ch rfl rfl).symm
  | committed ch hch => simp [hch, Change.applyList]
  | writable b hnone => simp [hnone, Change.applyList]

theorem failed (h : Outcome d change ok d') (hok : ok = false) : d' = d := by
  cases h with
  | same => rfl
  | committed => cases hok
  | writable => cases hok

theorem store (h : Outcome d change ok d') : d'.store = d.store := by
  cases h <;> simp

theorem text (h : Outcome d change ok d') (hs : d.store = .snapshot) :
    (d'.file.text = d.file.text ∧ d'.entries = d.entries) ∨
      d'.file.text = some (snapshotText d'.entries) := by
  cases h with
  | same => exact .inl ⟨rfl, rfl⟩
  | committed ch _ _ => exact .inr (by rw [commit_text hs, commit_entries])
  | writable => exact .inl ⟨rfl, rfl⟩

end Outcome

end Directory

namespace Directory

variable {d : Directory}

theorem dispatch_register (now : Timestamp) (a : Json) :
    d.dispatch now ⟨directoryObject, "register", a⟩ =
      match (do
          let name ← Args.required ⟨a⟩ 0 "name" Json.Decoder.string
          let address ← Args.required ⟨a⟩ 1 "address" addressValue
          let metadata ← Args.optional ⟨a⟩ 2 "metadata" strings
          d.register name address (metadata.getD []) now : Result Directory) with
      | .ok d' => (.ok .null, d')
      | .error e => (.error e, d) := rfl

theorem dispatch_remove (now : Timestamp) (a : Json) :
    d.dispatch now ⟨directoryObject, "remove", a⟩ =
      match (do
          let name ← Args.required ⟨a⟩ 0 "name" Json.Decoder.string
          d.remove name : Result (Bool × Directory)) with
      | .ok (b, d') => (.ok (.bool b), d')
      | .error e => (.error e, d) := rfl

theorem dispatch_read (now : Timestamp) {m : String} (a : Json) (h₁ : m ≠ "register")
    (h₂ : m ≠ "remove") : (d.dispatch now ⟨directoryObject, m, a⟩).2 = d := by
  unfold dispatch
  simp only [ne_eq, not_true_eq_false, if_false]
  split
  · rfl
  · exact absurd rfl h₁
  · rfl
  · exact absurd rfl h₂
  · rfl
  · rfl

theorem change_read (now : Timestamp) {o m : String} (a : Json) (h₁ : m ≠ "register")
    (h₂ : m ≠ "remove") : DirStep.change (.call now ⟨o, m, a⟩) = none := by
  simp only [DirStep.change]
  split <;> rfl

theorem register_outcome (now : Timestamp) (a : Json) :
    Outcome d (DirStep.change (.call now ⟨directoryObject, "register", a⟩))
      (d.dispatch now ⟨directoryObject, "register", a⟩).1.isOk
      (d.dispatch now ⟨directoryObject, "register", a⟩).2 := by
  rw [dispatch_register]
  show Outcome d (Except.toOption _) _ _
  cases hn : Args.required ⟨a⟩ 0 "name" Json.Decoder.string with
  | error e => exact .same false (fun _ h => nomatch h)
  | ok name =>
    cases ha : Args.required ⟨a⟩ 1 "address" addressValue with
    | error e => exact .same false (fun _ h => nomatch h)
    | ok address =>
      cases hm : Args.optional ⟨a⟩ 2 "metadata" strings with
      | error e => exact .same false (fun _ h => nomatch h)
      | ok md =>
        -- the arguments read: the store takes the new table or refuses it
        show Outcome d (some (.register name ⟨address, md.getD [], now⟩)) _ _
        simp only [bind, Except.bind, register]
        rcases persist_cases (d := d) (d.entries.insert name ⟨address, md.getD [], now⟩)
          with hp | hp <;> rw [hp]
        · exact .committed _ rfl hp
        · exact .same false (fun _ h => nomatch h)

theorem remove_outcome (now : Timestamp) (a : Json) :
    Outcome d (DirStep.change (.call now ⟨directoryObject, "remove", a⟩))
      (d.dispatch now ⟨directoryObject, "remove", a⟩).1.isOk
      (d.dispatch now ⟨directoryObject, "remove", a⟩).2 := by
  rw [dispatch_remove]
  show Outcome d (Except.toOption _) _ _
  cases hn : Args.required ⟨a⟩ 0 "name" Json.Decoder.string with
  | error e => exact .same false (fun _ h => nomatch h)
  | ok name =>
    show Outcome d (some (.remove name)) _ _
    simp only [bind, Except.bind, remove]
    by_cases hc : d.entries.contains name = true
    · -- a name it holds: the store takes the table without it, or refuses it
      rw [if_pos hc]
      rcases persist_cases (d := d) (d.entries.erase name) with hp | hp <;> rw [hp]
      · exact .committed _ rfl hp
      · exact .same false (fun _ h => nomatch h)
    · -- a name it does not hold: nothing to drop
      rw [if_neg hc]
      refine .same true fun ch _ h => ?_
      obtain rfl := Option.some.inj h
      exact erase_of_contains_eq_false (by simpa using hc)

/-- **What a call does.** A call to the directory either leaves it as it was, or has the store
take the table that the change it asks for gives. -/
theorem dispatch_outcome (now : Timestamp) (c : Call) :
    Outcome d (DirStep.change (.call now c)) (d.dispatch now c).1.isOk (d.dispatch now c).2 := by
  obtain ⟨o, m, a⟩ := c
  by_cases ho : o = directoryObject
  · subst ho
    by_cases h₁ : m = "register"
    · subst h₁
      exact register_outcome now a
    by_cases h₂ : m = "remove"
    · subst h₂
      exact remove_outcome now a
    -- every other method only reads
    rw [dispatch_read now a h₁ h₂, change_read now a h₁ h₂]
    exact .same _ (fun _ _ h => nomatch h)
  · have he : d.dispatch now ⟨o, m, a⟩ = (.error (.unknownObject o), d) := by
      simp [dispatch, ho]
    rw [he]
    exact .same false (fun _ h => nomatch h)

/-- **What a cleaning pass's second half does.** On a sorted table it either leaves the
directory as it was, or has the store take the table cleaning gives. -/
theorem sweep_outcome (hs : Sorted d.entries) (dead : List (String × Address)) :
    Outcome d (some (.clean dead)) (d.step (.sweep dead)).1 (d.step (.sweep dead)).2 := by
  obtain ⟨hclean, -, hnone⟩ := foldl_sweepStep dead (r := []) hs
  have hsweep : d.sweep dead = if dead.isEmpty then .ok ([], d) else
      if (dead.foldl sweepStep ([], d.entries)).1.isEmpty then .ok ([], d)
      else ((dead.foldl sweepStep ([], d.entries)).1, ·) <$>
        d.persist (dead.foldl sweepStep ([], d.entries)).2 := by
    simp only [sweep]
  generalize dead.foldl sweepStep ([], d.entries) = out at hclean hnone hsweep
  obtain ⟨removed, next⟩ := out
  simp only at hclean hnone hsweep
  -- a pass that drops nothing leaves the directory, and cleaning leaves the table
  have unchanged : d.sweep dead = .ok ([], d) → (Change.clean dead).apply d.entries = d.entries →
      Outcome d (some (.clean dead)) (d.step (.sweep dead)).1 (d.step (.sweep dead)).2 :=
    fun hok hsame => by
      simp only [step, hok]
      exact .same true fun ch _ h => (Option.some.inj h) ▸ hsame
  by_cases hempty : dead.isEmpty = true
  · rw [if_pos hempty] at hsweep
    refine unchanged hsweep ?_
    rw [List.isEmpty_iff.1 hempty]
    simp [Change.apply]
  · rw [if_neg hempty] at hsweep
    by_cases hr : removed.isEmpty = true
    · rw [if_pos hr] at hsweep
      exact unchanged hsweep (hclean ▸ hnone (List.isEmpty_iff.1 hr))
    · rw [if_neg hr] at hsweep
      rcases persist_cases (d := d) next with hp | hp <;> simp only [hp] at hsweep <;>
        simp only [step, hsweep]
      · rw [hclean] at hp ⊢
        exact .committed _ rfl hp
      · exact .same false (fun _ h => nomatch h)

/-- **What a step does.** On a sorted table, a step either leaves the directory as it was, or
has the store take the table its change gives, or, asking for no change, lets the file system
start or stop taking writes. -/
theorem step_outcome (hs : Sorted d.entries) :
    ∀ e : DirStep, Outcome d e.change (d.step e).1 (d.step e).2
  | .call now c => dispatch_outcome now c
  | .sweep dead => sweep_outcome hs dead
  | .writable b => .writable b rfl

/-! ## Runs -/

theorem Change.sorted_applyList {m : NameMap Entry} (hm : Sorted m) :
    ∀ changes : List Change, Sorted (Change.applyList changes m)
  | [] => hm
  | ch :: rest => Change.sorted_applyList (Change.sorted_apply hm ch) rest

theorem Change.applyList_append (l₁ l₂ : List Change) (m : NameMap Entry) :
    Change.applyList (l₁ ++ l₂) m = Change.applyList l₂ (Change.applyList l₁ m) :=
  List.foldl_append

theorem sorted_step (hs : Sorted d.entries) (e : DirStep) : Sorted (d.step e).2.entries := by
  rw [(step_outcome hs e).entries]
  exact Change.sorted_applyList hs _

theorem store_runAll (hs : Sorted d.entries) (steps : List DirStep) :
    (d.runAll steps).store = d.store := by
  induction steps generalizing d with
  | nil => rfl
  | cons e es ih => exact (ih (sorted_step hs e)).trans (step_outcome hs e).store

theorem sorted_runAll (hs : Sorted d.entries) (steps : List DirStep) :
    Sorted (d.runAll steps).entries := by
  induction steps generalizing d with
  | nil => exact hs
  | cons e es ih => exact ih (sorted_step hs e)

/-- **The table is the map the successful changes build.** Over any run from a sorted table,
the table reached is the old one with the changes of the steps that succeeded applied in
order. -/
theorem entries_runAll (hs : Sorted d.entries) (steps : List DirStep) :
    (d.runAll steps).entries = Change.applyList (d.log steps) d.entries := by
  induction steps generalizing d with
  | nil => rfl
  | cons e es ih =>
    -- the first step's change, then the rest of the run from where it left the table
    rw [runAll, List.foldl_cons, ← runAll, ih (sorted_step hs e), log,
      Change.applyList_append, ← (step_outcome hs e).entries]

/-- Reopening a directory's snapshot store gives its table back. -/
def Reopens (d : Directory) : Prop :=
  d.store = .snapshot → (load .snapshot d.file).entries = d.entries

theorem load_entries (file : SnapshotFile) :
    (load .snapshot file).entries = match file.text with
      | some text => (readSnapshot text).getD []
      | none => [] := by
  obtain ⟨text, writable⟩ := file
  cases text <;> rfl

theorem Outcome.reopens {change : Option Change} {ok : Bool} {d' : Directory}
    (h : Outcome d change ok d') (hr : Reopens d)
    (hread : readSnapshot (snapshotText d'.entries) = some d'.entries) : Reopens d' := by
  intro hs'
  have hs : d.store = .snapshot := h.store ▸ hs'
  rcases h.text hs with ⟨htext, hsame⟩ | htext
  · rw [hsame, ← hr hs, load_entries, load_entries, htext]
  · simp only [load_entries, htext, hread, Option.getD_some]

/-- **Reopening gives the table back.** Over any run from a sorted table that its store
reopens to, the store reopens to each table reached, as long as each reads back from its
snapshot. -/
theorem reopens_runAll (hs : Sorted d.entries) (hr : Reopens d) (steps : List DirStep)
    (hread : ∀ k, readSnapshot (snapshotText (d.runAll (steps.take k)).entries) =
      some (d.runAll (steps.take k)).entries) : Reopens (d.runAll steps) := by
  induction steps generalizing d with
  | nil => exact hr
  | cons e es ih =>
    refine ih (sorted_step hs e) ((step_outcome hs e).reopens hr (hread 1)) fun k => ?_
    exact hread (k + 1)

/-! ## Opening and refused writes -/

theorem sorted_of_readSnapshot {text : String} {m : NameMap Entry}
    (h : readSnapshot text = some m) : Sorted m := by
  unfold readSnapshot at h
  split at h
  · split at h
    · cases h
      exact Sorted.foldl_insert List.Pairwise.nil _
    · cases h
  · cases h

theorem sorted_load (store : Store) (file : SnapshotFile) : Sorted (load store file).entries := by
  unfold load
  split
  · cases h : readSnapshot _ with
    | none => exact List.Pairwise.nil
    | some m => exact sorted_of_readSnapshot h
  · exact List.Pairwise.nil

theorem reopens_load (store : Store) (file : SnapshotFile) : Reopens (load store file) := by
  intro hs
  have hstore : store = .snapshot := hs
  subst hstore
  rfl

/-- **A refused write changes nothing.** When the snapshot's file cannot be written, a step
whose change would alter the table fails and leaves the directory as it was. -/
theorem step_refused (hs : Sorted d.entries) (hsnap : d.store = .snapshot)
    (hw : d.file.writable = false) {e : DirStep} {ch : Change} (hch : e.change = some ch)
    (hne : ch.apply d.entries ≠ d.entries) : d.step e = (false, d) := by
  have hrefused : d.persist (ch.apply d.entries) = .error (.io "Is a directory (os error 21)") := by
    rw [persist_eq, if_pos ⟨hsnap, hw⟩]
  have ho := step_outcome hs e
  rw [hch] at ho
  revert ho
  generalize d.step e = r
  obtain ⟨ok, d'⟩ := r
  intro ho
  cases ho with
  | same ok hsame =>
    cases ok with
    | false => rfl
    | true => exact absurd (hsame ch rfl rfl) hne
  | committed ch' hch' hp =>
    obtain rfl := Option.some.inj hch'
    rw [hrefused] at hp
    cases hp
  | writable b hnone => cases hnone

theorem dispatch_register_ok {now : Timestamp} {c : Call} {n : String} {entry : Entry}
    (hch : DirStep.change (.call now c) = some (.register n entry))
    (htakes : d.store = .memory ∨ d.file.writable = true) :
    d.dispatch now c = (.ok .null, d.commit (d.entries.insert n entry)) := by
  have htakes' : ¬(d.store = .snapshot ∧ d.file.writable = false) := by
    rcases htakes with h | h <;> simp [h]
  obtain ⟨o, m, a⟩ := c
  by_cases ho : o = directoryObject
  swap
  · simp [DirStep.change, ho] at hch
  subst ho
  by_cases h₁ : m = "register"
  swap
  · -- only a registration asks for one
    by_cases h₂ : m = "remove"
    · subst h₂
      simp only [DirStep.change] at hch
      cases hn : Args.required ⟨a⟩ 0 "name" Json.Decoder.string <;>
        simp [hn, Functor.map, Except.map, Except.toOption] at hch
    · rw [change_read now a h₁ h₂] at hch
      exact nomatch hch
  subst h₁
  rw [dispatch_register]
  change Except.toOption _ = _ at hch
  cases hn : Args.required ⟨a⟩ 0 "name" Json.Decoder.string <;>
    cases ha : Args.required ⟨a⟩ 1 "address" addressValue <;>
    cases hm : Args.optional ⟨a⟩ 2 "metadata" strings <;>
    simp only [hn, ha, hm, bind, Except.bind, pure, Except.pure, Except.toOption,
      reduceCtorEq, Option.some.injEq, Change.register.injEq] at hch
  -- the arguments read: they name the entry, and the store takes the table
  obtain ⟨rfl, rfl⟩ := hch
  simp only [bind, Except.bind, register, persist_eq, if_neg htakes']

/-- **The directory is the map its successful changes build.** Open a directory on a store and
run any steps: calls of every method with any arguments, second halves of cleaning passes with
whatever their probes found (names registered again meanwhile included), and the file system
starting or stopping to take writes. The table reached is the opened one with the changes of
the steps that succeeded applied in order, and lookups and listings answer from it. From there
a registration succeeds whenever the store takes writes, a step that fails (a refused write
among them) leaves the directory as it was, and a snapshot store reopened gives the table
back, as long as each table written reads back from its snapshot. -/
theorem directory_refines_change_log (store : Store) (file : SnapshotFile) (steps : List DirStep)
    (hread : ∀ k, readSnapshot (snapshotText ((load store file).runAll (steps.take k)).entries) =
      some ((load store file).runAll (steps.take k)).entries) :
    let d₀ := load store file
    let d := d₀.runAll steps
    let m := Change.applyList (d₀.log steps) d₀.entries
    d.entries = m ∧
      (∀ name, d.lookup name = (m.find? name).elim (.error (.unknownObject name)) .ok) ∧
      (∀ pre, d.list pre = match pre with
        | some p => m.filter (·.1.startsWith p)
        | none => m) ∧
      (∀ now c n entry, DirStep.change (.call now c) = some (.register n entry) →
        (store = .memory ∨ d.file.writable = true) → (d.step (.call now c)).1 = true) ∧
      (∀ e, (d.step e).1 = false → (d.step e).2 = d) ∧
      (∀ e ch, e.change = some ch → store = .snapshot → d.file.writable = false →
        ch.apply d.entries ≠ d.entries → d.step e = (false, d)) ∧
      (store = .snapshot → (load .snapshot d.file).entries = m) := by
  intro d₀ d m
  have hs₀ : Sorted d₀.entries := sorted_load store file
  have hs : Sorted d.entries := sorted_runAll hs₀ steps
  have hstore : d.store = store := store_runAll hs₀ steps
  have htable : d.entries = m := entries_runAll hs₀ steps
  refine ⟨htable, fun name => ?_, fun pre => ?_, fun now c n entry hch htakes => ?_,
    fun e hfail => (step_outcome hs e).failed hfail,
    fun e ch hch hsnap hw hne => step_refused hs (hstore.trans hsnap) hw hch hne,
    fun hsnap => ?_⟩
  · simp only [lookup, ← htable]
    cases d.entries.find? name <;> rfl
  · rw [← htable]
    cases pre <;> rfl
  · simp only [step, dispatch_register_ok hch (hstore ▸ htakes)]
    rfl
  · rw [← htable]
    exact reopens_runAll hs₀ (reopens_load store file) steps hread (hstore.trans hsnap)

/-- A run on a snapshot store: `probe` is registered; the file system stops taking writes, so
removing it is refused; it takes them again, and a cleaning pass that found `probe` dead at its
address drops it. -/
def refusalRun : List DirStep :=
  [.call ⟨1700000000, 0⟩ ⟨directoryObject, "register",
      .array [.string "probe", .string "obj:probe@localhost:7000"]⟩,
    .writable false,
    .call ⟨1700000001, 0⟩ ⟨directoryObject, "remove", .array [.string "probe"]⟩,
    .writable true,
    .sweep [("probe", ⟨"probe", .tcp "localhost" 7000⟩)]]

/-- Every table of `refusalRun` reads back from its snapshot, and the run ends with the table
its successful changes build. -/
theorem refusalRun_replayed :
    (∀ k, readSnapshot (snapshotText ((load .snapshot {}).runAll (refusalRun.take k)).entries) =
      some ((load .snapshot {}).runAll (refusalRun.take k)).entries) ∧
    ((load .snapshot {}).runAll refusalRun).entries =
      Change.applyList ((load .snapshot {}).log refusalRun) (load .snapshot {}).entries := by
  have hread : ∀ k, readSnapshot (snapshotText ((load .snapshot {}).runAll (refusalRun.take k)).entries) =
      some ((load .snapshot {}).runAll (refusalRun.take k)).entries := by
    intro k
    rcases k with _ | _ | _ | _ | _ | k
    any_goals decide +kernel
    rw [List.take_of_length_le (by simp [refusalRun])]
    decide +kernel
  exact ⟨hread, (directory_refines_change_log .snapshot {} refusalRun hread).1⟩

end Directory

end LabFleet.Nameserver

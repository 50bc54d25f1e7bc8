import LabFleet.Supervisor.Registry

/-!
The record table of the process registry and the machine under it, as the ownership proofs
read them. Records are kept sorted by key, so a key has at most one record and storing a
record replaces the one of its key. A record holds a process through its handle; a process is
alive while it exists and has not ended. Each primitive of the registry is summed up here by
what it does to the records, the processes and the next PID, the only parts of the state that
ownership depends on.
-/

namespace LabFleet.Supervisor

open Control

/-! ## Key order -/

namespace ProfileKey

theorem lt_irrefl (a : ProfileKey) : a.lt a = false := by
  simp [lt]

theorem lt_trans {a b c : ProfileKey} (hab : a.lt b = true) (hbc : b.lt c = true) :
    a.lt c = true := by
  simp only [lt, Bool.or_eq_true, decide_eq_true_eq, Bool.and_eq_true, beq_iff_eq] at *
  rcases hab with hab | ⟨hk, hn⟩ <;> rcases hbc with hbc | ⟨hk', hn'⟩
  · exact .inl (Nat.lt_trans hab hbc)
  · exact .inl (hk' ▸ hab)
  · exact .inl (hk ▸ hbc)
  · exact .inr ⟨hk.trans hk', String.lt_trans hn hn'⟩

theorem lt_asymm {a b : ProfileKey} (hab : a.lt b = true) : b.lt a = false := by
  cases h : b.lt a
  · rfl
  · have := lt_trans hab h
    rw [lt_irrefl] at this
    exact absurd this (by decide)

theorem rank_injective {k k' : ProfileKind} (h : k.rank = k'.rank) : k = k' := by
  cases k <;> cases k' <;> simp_all [ProfileKind.rank]

theorem lt_total {a b : ProfileKey} (hne : a ≠ b) : a.lt b = true ∨ b.lt a = true := by
  obtain ⟨k, n⟩ := a
  obtain ⟨k', n'⟩ := b
  simp only [lt, Bool.or_eq_true, decide_eq_true_eq, Bool.and_eq_true, beq_iff_eq]
  rcases Nat.lt_trichotomy k.rank k'.rank with h | h | h
  · exact .inl (.inl h)
  · have hk := rank_injective h
    subst hk
    have hn : n ≠ n' := fun e => hne (by rw [e])
    rcases String.le_total n n' with hle | hle
    · refine .inl (.inr ⟨rfl, ?_⟩)
      rcases Decidable.em (n < n') with hlt | hlt
      · exact hlt
      · exact absurd (String.le_antisymm hle (String.not_lt.1 hlt)) hn
    · refine .inr (.inr ⟨rfl, ?_⟩)
      rcases Decidable.em (n' < n) with hlt | hlt
      · exact hlt
      · exact absurd (String.le_antisymm (String.not_lt.1 hlt) hle) hn
  · exact .inr (.inl h)

end ProfileKey

/-! ## Sorted record tables -/

/-- Records in strictly increasing key order: each key has at most one record. -/
def Sorted (rs : List Record) : Prop := rs.Pairwise (fun a b => a.key.lt b.key = true)

theorem Sorted.eq_of_key_eq {rs : List Record} (hs : Sorted rs) {a b : Record} (ha : a ∈ rs)
    (hb : b ∈ rs) (hk : a.key = b.key) : a = b := by
  induction rs with
  | nil => simp at ha
  | cons x xs ih =>
    obtain ⟨hx, hxs⟩ := List.pairwise_cons.1 hs
    have first : ∀ y ∈ xs, y.key ≠ x.key := fun y hy he => by
      have := hx y hy
      rw [he, ProfileKey.lt_irrefl] at this
      exact absurd this (by decide)
    simp only [List.mem_cons] at ha hb
    rcases ha with ha' | ha' <;> rcases hb with hb' | hb'
    · rw [ha', hb']
    · exact absurd (hk.symm.trans (congrArg Record.key ha')) (first b hb')
    · exact absurd (hk.trans (congrArg Record.key hb')) (first a ha')
    · exact ih hxs ha' hb'

theorem mem_insertRecord {rs : List Record} (hs : Sorted rs) (e x : Record) :
    x ∈ insertRecord e rs ↔ x = e ∨ (x ∈ rs ∧ x.key ≠ e.key) := by
  induction rs with
  | nil => simp [insertRecord]
  | cons y ys ih =>
    obtain ⟨hy, hys⟩ := List.pairwise_cons.1 hs
    simp only [insertRecord]
    split
    · -- the key is already there: its record is replaced
      rename_i hk
      have hk : y.key = e.key := by simpa using hk
      have rest : ∀ z ∈ ys, z.key ≠ e.key := fun z hz he => by
        have := hy z hz
        rw [hk, he, ProfileKey.lt_irrefl] at this
        exact absurd this (by decide)
      simp only [List.mem_cons]
      constructor
      · intro hx
        rcases hx with hx | hx
        · exact .inl hx
        · exact .inr ⟨.inr hx, rest x hx⟩
      · intro hx
        rcases hx with hx | ⟨hx | hx, hne⟩
        · exact .inl hx
        · exact absurd (hx ▸ hk) hne
        · exact .inr hx
    · split
      · -- the new key comes first: nothing has it
        rename_i hne hlt
        have hne : y.key ≠ e.key := by simpa using hne
        have rest : ∀ z ∈ y :: ys, z.key ≠ e.key := fun z hz he => by
          simp only [List.mem_cons] at hz
          rcases hz with hz | hz
          · exact hne (hz ▸ he)
          · have := ProfileKey.lt_trans hlt (hy z hz)
            rw [he, ProfileKey.lt_irrefl] at this
            exact absurd this (by decide)
        constructor
        · intro hx
          rcases List.mem_cons.1 hx with hx | hx
          · exact .inl hx
          · exact .inr ⟨hx, rest x hx⟩
        · intro hx
          rcases hx with hx | ⟨hx, -⟩
          · exact hx ▸ List.mem_cons_self
          · exact List.mem_cons_of_mem _ hx
      · rename_i hne _
        have hne : y.key ≠ e.key := by simpa using hne
        simp only [List.mem_cons, ih hys]
        constructor
        · intro hx
          rcases hx with hx | hx | ⟨hx, hk⟩
          · exact .inr ⟨.inl hx, hx ▸ hne⟩
          · exact .inl hx
          · exact .inr ⟨.inr hx, hk⟩
        · intro hx
          rcases hx with hx | ⟨hx | hx, hk⟩
          · exact .inr (.inl hx)
          · exact .inl hx
          · exact .inr (.inr ⟨hx, hk⟩)

theorem mem_insertRecord_self (e : Record) (rs : List Record) : e ∈ insertRecord e rs := by
  induction rs with
  | nil => exact List.mem_singleton_self e
  | cons y ys ih =>
    simp only [insertRecord]
    split
    · exact List.mem_cons_self
    · split
      · exact List.mem_cons_self
      · exact List.mem_cons_of_mem _ ih

theorem mem_insertRecord_or {e x : Record} {rs : List Record} (hx : x ∈ insertRecord e rs) :
    x = e ∨ x ∈ rs := by
  induction rs with
  | nil => exact .inl (List.mem_singleton.1 hx)
  | cons y ys ih =>
    simp only [insertRecord] at hx
    split at hx
    · rcases List.mem_cons.1 hx with hx | hx
      · exact .inl hx
      · exact .inr (List.mem_cons_of_mem _ hx)
    · split at hx
      · rcases List.mem_cons.1 hx with hx | hx
        · exact .inl hx
        · exact .inr hx
      · rcases List.mem_cons.1 hx with hx | hx
        · exact .inr (hx ▸ List.mem_cons_self)
        · exact (ih hx).imp id (List.mem_cons_of_mem _)

theorem sorted_insertRecord {rs : List Record} (hs : Sorted rs) (e : Record) :
    Sorted (insertRecord e rs) := by
  induction rs with
  | nil => simp [insertRecord, Sorted]
  | cons y ys ih =>
    obtain ⟨hy, hys⟩ := List.pairwise_cons.1 hs
    simp only [insertRecord]
    split
    · rename_i hk
      have hk : y.key = e.key := by simpa using hk
      refine List.pairwise_cons.2 ⟨fun z hz => ?_, hys⟩
      rw [← hk]
      exact hy z hz
    · split
      · rename_i hne hlt
        refine List.pairwise_cons.2 ⟨fun z hz => ?_, hs⟩
        rcases List.mem_cons.1 hz with hz | hz
        · exact hz ▸ hlt
        · exact ProfileKey.lt_trans hlt (hy z hz)
      · rename_i hne hnlt
        have hne : y.key ≠ e.key := by simpa using hne
        have hye : y.key.lt e.key = true := by
          rcases ProfileKey.lt_total hne with h | h
          · exact h
          · simp_all
        refine List.pairwise_cons.2 ⟨fun z hz => ?_, ih hys⟩
        rcases (mem_insertRecord hys e z).1 hz with hz | ⟨hz, -⟩
        · exact hz ▸ hye
        · exact hy z hz

theorem Sorted.filter {rs : List Record} (hs : Sorted rs) (f : Record → Bool) :
    Sorted (rs.filter f) :=
  List.Pairwise.filter f hs

theorem Sorted.of_keys {rs out : List Record} (hs : Sorted rs)
    (h : out.map Record.key = rs.map Record.key) : Sorted out := by
  have hk : (rs.map Record.key).Pairwise (fun a b => a.lt b = true) := List.pairwise_map.2 hs
  rw [← h] at hk
  exact List.pairwise_map.1 hk

theorem Sorted.find?_eq_some {rs : List Record} (hs : Sorted rs) {k : ProfileKey} {x : Record} :
    rs.find? (·.key == k) = some x ↔ x ∈ rs ∧ x.key = k := by
  constructor
  · intro hx
    exact ⟨List.mem_of_find?_eq_some hx, by simpa using List.find?_some hx⟩
  · rintro ⟨hx, hk⟩
    cases hf : rs.find? (·.key == k) with
    | none =>
      have := List.find?_eq_none.1 hf x hx
      simp [hk] at this
    | some y =>
      have hy := List.mem_of_find?_eq_some hf
      have hyk : y.key = k := by simpa using List.find?_some hf
      rw [hs.eq_of_key_eq hy hx (hyk.trans hk.symm)]

theorem find?_eq_none_iff {rs : List Record} {k : ProfileKey} :
    rs.find? (·.key == k) = none ↔ ∀ x ∈ rs, x.key ≠ k := by
  simp

/-! ## Handles and live processes -/

/-- The PID a handle holds. -/
def Handle.pid : Handle → Nat
  | .spawned p => p
  | .adopted p => p

/-- Whether a record holds the process with a PID. -/
def Record.holds (e : Record) (p : Nat) : Prop := e.handle.map Handle.pid = some p

/-- Whether some record of a table holds the process with a PID. -/
def Held (rs : List Record) (p : Nat) : Prop := ∃ e ∈ rs, e.holds p

instance (e : Record) (p : Nat) : Decidable (e.holds p) :=
  inferInstanceAs (Decidable (e.handle.map Handle.pid = some p))

instance (rs : List Record) (p : Nat) : Decidable (Held rs p) :=
  inferInstanceAs (Decidable (∃ e ∈ rs, e.holds p))

@[simp] theorem Record.holds_spawned (e : Record) (p q : Nat) (h : e.handle = some (.spawned q)) :
    e.holds p ↔ q = p := by
  simp [Record.holds, h, Handle.pid]

theorem Record.not_holds_of_none {e : Record} (h : e.handle = none) (p : Nat) : ¬ e.holds p := by
  simp [Record.holds, h]

theorem Process.afterSignal_running {q : Process} {s : Signal}
    (h : q.afterSignal s = .running) :
    q.life = .running ∧ s = .terminate ∧ q.ignoresTerm = true := by
  unfold Process.afterSignal at h
  split at h
  · next hl => split at h <;> simp_all
  · cases h
  · next hl => exact absurd hl (by simp_all)

namespace Host

/-- Whether a process exists and has not ended. -/
def alive (h : Host) (p : Nat) : Prop := ∃ q ∈ h.processes, q.pid = p ∧ q.life = .running

instance (h : Host) (p : Nat) : Decidable (h.alive p) :=
  inferInstanceAs (Decidable (∃ q ∈ h.processes, q.pid = p ∧ q.life = .running))

variable {h : Host} {p : Nat}

theorem alive_spawn (b : Bool) : (h.spawn b).2.alive p ↔ h.alive p ∨ p = h.nextPid := by
  simp only [alive, spawn, List.mem_append, List.mem_singleton]
  constructor
  · rintro ⟨q, hq | rfl, hp, hl⟩
    · exact .inl ⟨q, hq, hp, hl⟩
    · exact .inr hp.symm
  · rintro (⟨q, hq, hp, hl⟩ | rfl)
    · exact ⟨q, .inl hq, hp, hl⟩
    · exact ⟨_, .inr rfl, rfl, rfl⟩

theorem alive_of_alive_signal (pid : Nat) (s : Signal) (hp : (h.signal pid s).2.alive p) :
    h.alive p := by
  unfold signal at hp
  split at hp
  · exact hp
  · obtain ⟨q', hq', hqp, hl⟩ := hp
    obtain ⟨q, hq, rfl⟩ := List.mem_map.1 hq'
    by_cases hqq : q.pid = pid
    · simp only [hqq, beq_self_eq_true, if_true] at hqp hl
      exact ⟨q, hq, hqq.trans hqp, (Process.afterSignal_running hl).1⟩
    · have hne : (q.pid == pid) = false := by simpa using hqq
      simp only [hne, Bool.false_eq_true, if_false] at hqp hl
      exact ⟨q, hq, hqp, hl⟩

theorem not_alive_signal_kill (pid : Nat) : ¬ (h.signal pid .kill).2.alive pid := by
  unfold signal
  split
  · next hf =>
    rintro ⟨q, hq, hqp, -⟩
    exact absurd (List.find?_eq_none.1 hf q hq) (by simp [hqp])
  · rintro ⟨q', hq', hqp, hl⟩
    obtain ⟨q, hq, rfl⟩ := List.mem_map.1 hq'
    by_cases hqq : q.pid = pid
    · simp only [hqq, beq_self_eq_true, if_true] at hl
      exact absurd (Process.afterSignal_running hl).2.1 (by decide)
    · have hne : (q.pid == pid) = false := by simpa using hqq
      simp only [hne, Bool.false_eq_true, if_false] at hqp
      exact hqq hqp

theorem nextPid_signal (pid : Nat) (s : Signal) : (h.signal pid s).2.nextPid = h.nextPid := by
  unfold signal; split <;> rfl

theorem pid_mem_signal (pid : Nat) (s : Signal) {q : Process} (hq : q ∈ (h.signal pid s).2.processes) :
    ∃ q' ∈ h.processes, q'.pid = q.pid := by
  unfold signal at hq
  split at hq
  · exact ⟨q, hq, rfl⟩
  · simp only [List.mem_map] at hq
    obtain ⟨q', hq', rfl⟩ := hq
    refine ⟨q', hq', ?_⟩
    split <;> rfl

theorem alive_of_alive_collect (pid : Nat) (hp : (h.collect pid).2.alive p) : h.alive p := by
  unfold collect at hp
  split at hp
  · obtain ⟨q, hq, hqp, hl⟩ := hp
    exact ⟨q, (List.mem_filter.1 hq).1, hqp, hl⟩
  · exact hp

theorem alive_collect_of_ne (pid : Nat) (hne : p ≠ pid) : (h.collect pid).2.alive p ↔ h.alive p := by
  refine ⟨alive_of_alive_collect pid, fun ⟨q, hq, hqp, hl⟩ => ?_⟩
  unfold collect
  split
  · refine ⟨q, List.mem_filter.2 ⟨hq, ?_⟩, hqp, hl⟩
    simp [hqp, hne]
  · exact ⟨q, hq, hqp, hl⟩

theorem not_alive_collect_of_some (pid : Nat) {x : Exit} (hx : (h.collect pid).1 = some x) :
    ¬ (h.collect pid).2.alive pid := by
  unfold collect at hx ⊢
  split
  · rintro ⟨q, hq, hqp, -⟩
    simp [hqp] at hq
  · rename_i hn
    split at hx
    · exact (hn _ _ _ ‹_›).elim
    · cases hx

theorem collect_of_none (pid : Nat) (hx : (h.collect pid).1 = none) : (h.collect pid).2 = h := by
  unfold collect at hx ⊢
  split at hx
  · cases hx
  · rfl

theorem nextPid_collect (pid : Nat) : (h.collect pid).2.nextPid = h.nextPid := by
  unfold collect; split <;> rfl

theorem mem_collect (pid : Nat) {q : Process} (hq : q ∈ (h.collect pid).2.processes) :
    q ∈ h.processes := by
  unfold collect at hq
  split at hq
  · exact (List.mem_filter.1 hq).1
  · exact hq

end Host

/-! ## What records hold -/

namespace Record

theorem holds_iff {e : Record} {p : Nat} : e.holds p ↔ ∃ hd, e.handle = some hd ∧ hd.pid = p := by
  simp [holds]

theorem holds_unique {e : Record} {p q : Nat} (hp : e.holds p) (hq : e.holds q) : p = q := by
  unfold holds at hp hq
  rw [hp] at hq
  exact Option.some.inj hq

@[simp] theorem not_holds_crash (e : Record) (why : String) (p : Nat) : ¬ (e.crash why).holds p :=
  not_holds_of_none rfl p

@[simp] theorem holds_ofPidRecord (pr : PidRecord) (p : Nat) :
    (ofPidRecord pr).holds p ↔ pr.pid = p := by
  simp [holds, ofPidRecord, Handle.pid]

theorem not_holds_of_idle {e : Record} (hl : e.handle.isSome = e.state.isRunning)
    (hs : e.state.isRunning = false) (p : Nat) : ¬ e.holds p := by
  have hnone : e.handle = none := by
    simpa using hl.trans hs
  exact not_holds_of_none hnone p

end Record

namespace Host

theorem isRunning_of_alive {h : Host} {p : Nat} (hp : h.alive p) (h0 : 0 < p) (hmax : p ≤ maxPid) :
    h.isRunning p = true := by
  obtain ⟨q, hq, hqp, -⟩ := hp
  have : (h.find? p).isSome := by
    cases hf : h.find? p with
    | none =>
      have := List.find?_eq_none.1 hf q hq
      simp [hqp] at this
    | some _ => rfl
  simp [isRunning, h0, hmax, this]

theorem isRunning_spec {h : Host} {p : Nat} (hr : h.isRunning p = true) :
    0 < p ∧ p ≤ maxPid ∧ (p = 1 ∨ ∃ q ∈ h.processes, q.pid = p) := by
  simp only [isRunning, Bool.and_eq_true, decide_eq_true_eq, Bool.or_eq_true, beq_iff_eq,
    Option.isSome_iff_exists] at hr
  obtain ⟨⟨h0, hmax⟩, h1 | ⟨q, hq⟩⟩ := hr
  · exact ⟨h0, hmax, .inl h1⟩
  · refine ⟨h0, hmax, .inr ⟨q, List.mem_of_find?_eq_some hq, ?_⟩⟩
    simpa using List.find?_some hq

end Host

theorem Sorted.nodup_keys {rs : List Record} (hs : Sorted rs) : (rs.map Record.key).Nodup := by
  refine List.pairwise_map.2 (hs.imp fun {a b} hab he => ?_)
  rw [he, ProfileKey.lt_irrefl] at hab
  exact absurd hab (by decide)

end LabFleet.Supervisor

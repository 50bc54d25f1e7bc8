import LabFleet.Proofs.Supervisor.Effects

/-!
The order of the supervisor's acts on its subprocesses.

The machine keeps a journal of what the supervisor does to processes: each spawn and each start
of ending a process, in order (`Host.actions`). A transition may end processes and spawn new
ones; it respects the dependencies between profiles when, in the segment of the journal it
adds, no daemon's process is ended after a nameserver's and no nameserver is spawned after a
daemon (`Action.MayPrecede`).

A program's effect on the journal is stated as what it adds from any state (`Journals`), with
rules that follow the shape of a `do` block, as `Triple` does for the state; most steps add
nothing (`Quiet`). The segments that transitions add are acts on profiles taken in the order of
a list (`Notes`): a termination notes at most its record's process, a start at most its own
profile's spawn.

Stopping everything ends the processes of the records, daemons first (`stopAll_journal`); a
reload ends processes of profiles listed daemons first and then spawns profiles listed
nameservers first (`reload_journals`); autolaunch is a pass of starts over its nameservers and
then its daemons, each as listed (`autolaunch_run`).

Main statement: `transitions_follow_dependency_order`.
-/

namespace LabFleet.Supervisor

open Config

open scoped List

set_option autoImplicit false

/-! ## Acts and their order -/

namespace Action

/-- The profile an act is about. -/
def key : Action → ProfileKey
  | .spawned kind name _ => ⟨kind, name⟩
  | .terminated kind name _ => ⟨kind, name⟩

/-- Whether an act is a spawn rather than the end of a process. -/
def isSpawn : Action → Bool
  | .spawned .. => true
  | .terminated .. => false

/-- Whether `a` may come before `b` in the journal of one transition: once a nameserver's process
has been ended only nameservers' are, and once a daemon has been spawned only daemons are. -/
def MayPrecede (a b : Action) : Prop :=
  (a.isSpawn = false → b.isSpawn = false → a.key.kind = .nameserver → b.key.kind = .nameserver) ∧
    (a.isSpawn = true → b.isSpawn = true → a.key.kind = .daemon → b.key.kind = .daemon)

instance (a b : Action) : Decidable (MayPrecede a b) := inferInstanceAs (Decidable (_ ∧ _))

example : ¬ MayPrecede (.terminated .nameserver "names" 4000) (.terminated .daemon "store" 4001) := by
  decide

end Action

/-- The journal entry of ending a record's process, if it holds one. -/
def Record.endNote (e : Record) : Option Action :=
  e.handle.map fun h => .terminated e.key.kind e.key.name h.pid

/-- The acts `J` are all spawns (all ends of processes when `spawn` is false), of profiles in
the order of `keys`. -/
def Notes (spawn : Bool) (keys : List ProfileKey) (J : List Action) : Prop :=
  (∀ a ∈ J, a.isSpawn = spawn) ∧ J.map Action.key <+ keys

namespace Notes

variable {spawn : Bool} {keys keys' : List ProfileKey} {J J' : List Action}

theorem nil (spawn : Bool) (keys : List ProfileKey) : Notes spawn keys [] :=
  ⟨fun _ h => (nomatch h), List.nil_sublist _⟩

theorem append (h : Notes spawn keys J) (h' : Notes spawn keys' J') :
    Notes spawn (keys ++ keys') (J ++ J') := by
  refine ⟨fun a ha => ?_, ?_⟩
  · rcases List.mem_append.1 ha with ha | ha
    · exact h.1 a ha
    · exact h'.1 a ha
  · rw [List.map_append]
    exact h.2.append h'.2

theorem endNote (e : Record) : Notes false [e.key] e.endNote.toList := by
  unfold Record.endNote
  cases e.handle with
  | none => exact nil false _
  | some h => exact ⟨fun a ha => by simp at ha; subst ha; rfl, by simp [Action.key]⟩

theorem spawned (kind : ProfileKind) (name : String) (pid : Nat) :
    Notes true [⟨kind, name⟩] [.spawned kind name pid] :=
  ⟨fun a ha => by simp at ha; subst ha; rfl, by simp [Action.key]⟩

theorem filterMap_endNote (es : List Record) :
    Notes false (es.map Record.key) (es.filterMap Record.endNote) := by
  induction es with
  | nil => exact nil false _
  | cons e es ih =>
    have h := (endNote e).append ih
    cases he : e.endNote <;> simpa [List.filterMap_cons, he] using h

theorem kinds_after (k k' : ProfileKind) {xs ys : List ProfileKey} (hk : k ≠ k')
    (hxs : ∀ x ∈ xs, x.kind = k) (hys : ∀ y ∈ ys, y.kind = k') (h : Notes spawn (xs ++ ys) J) :
    J.Pairwise fun a b => a.key.kind = k' → b.key.kind = k' := by
  -- the keys split into a part of kind `k` and a part of kind `k'`
  obtain ⟨l₁, l₂, hl, h₁, h₂⟩ := List.sublist_append_iff.1 h.2
  have hl₁ : ∀ x ∈ l₁, x.kind ≠ k' := fun x hx hx' => hk ((hxs x (h₁.subset hx)).symm.trans hx')
  refine (List.pairwise_map (R := fun x y : ProfileKey => x.kind = k' → y.kind = k')).1 ?_
  rw [hl, List.pairwise_append]
  refine ⟨List.pairwise_iff_forall_sublist.2 fun hab ha => absurd ha (hl₁ _ (hab.subset (by simp))),
    List.pairwise_iff_forall_sublist.2 fun hab _ => hys _ (h₂.subset (hab.subset (by simp))),
    fun a ha _ _ hka => absurd hka (hl₁ a ha)⟩

end Notes

theorem kind_of_mem_filter {ks : List ProfileKey} {k : ProfileKind} {x : ProfileKey}
    (hx : x ∈ ks.filter (·.kind == k)) : x.kind = k := by
  simpa using (List.mem_filter.1 hx).2

/-- Ends of processes of profiles listed daemons first. -/
def EndsDaemonsFirst (T : List Action) : Prop :=
  ∃ ks : List ProfileKey,
    Notes false (ks.filter (·.kind == .daemon) ++ ks.filter (·.kind == .nameserver)) T

/-- Spawns of profiles listed nameservers first. -/
def SpawnsNameserversFirst (S : List Action) : Prop :=
  ∃ ks : List ProfileKey,
    Notes true (ks.filter (·.kind == .nameserver) ++ ks.filter (·.kind == .daemon)) S

theorem EndsDaemonsFirst.pairwise {T : List Action} (h : EndsDaemonsFirst T) :
    T.Pairwise Action.MayPrecede := by
  obtain ⟨ks, hks⟩ := h
  refine (Notes.kinds_after .daemon .nameserver (by decide)
    (fun _ => kind_of_mem_filter) (fun _ => kind_of_mem_filter) hks).imp_of_mem fun ha hb hab => ?_
  exact ⟨fun _ _ => hab, fun hsa => absurd hsa (by rw [hks.1 _ ha]; decide)⟩

theorem SpawnsNameserversFirst.pairwise {S : List Action} (h : SpawnsNameserversFirst S) :
    S.Pairwise Action.MayPrecede := by
  obtain ⟨ks, hks⟩ := h
  refine (Notes.kinds_after .nameserver .daemon (by decide)
    (fun _ => kind_of_mem_filter) (fun _ => kind_of_mem_filter) hks).imp_of_mem fun ha hb hab => ?_
  exact ⟨fun hsa => absurd hsa (by rw [hks.1 _ ha]; decide), fun _ _ => hab⟩

theorem pairwise_ends_append_spawns {T S : List Action} (hT : EndsDaemonsFirst T)
    (hS : SpawnsNameserversFirst S) : (T ++ S).Pairwise Action.MayPrecede := by
  obtain ⟨_, hTs⟩ := id hT
  obtain ⟨_, hSs⟩ := id hS
  refine List.pairwise_append.2 ⟨hT.pairwise, hS.pairwise, fun a ha b hb => ⟨?_, ?_⟩⟩
  · intro _ hb'
    exact absurd (hSs.1 b hb) (by rw [hb']; decide)
  · intro ha'
    exact absurd (hTs.1 a ha) (by rw [ha']; decide)

/-! ## The journal of a program -/

namespace Host

variable (h : Host)

@[simp] theorem actions_tick : h.tick.2.actions = h.actions := rfl

@[simp] theorem actions_sleep (nanos : Nat) : (h.sleep nanos).actions = h.actions := by
  unfold sleep; split <;> rfl

@[simp] theorem actions_signal (pid : Nat) (s : Signal) : (h.signal pid s).2.actions = h.actions := by
  unfold signal; split <;> rfl

@[simp] theorem actions_collect (pid : Nat) : (h.collect pid).2.actions = h.actions := by
  unfold collect; split <;> rfl

@[simp] theorem actions_pass (nanos : Nat) : (h.pass nanos).actions = h.actions := rfl

@[simp] theorem actions_stopChild (pid grace : Nat) : (h.stopChild pid grace).actions = h.actions := by
  unfold stopChild
  split
  · next h' heq =>
    have := congrArg (fun x => x.2.actions) heq
    simp only [actions_collect, actions_signal] at this
    exact this.symm
  · next h' heq =>
    have := congrArg (fun x => x.2.actions) heq
    simp only [actions_collect, actions_signal] at this
    simp [← this]

@[simp] theorem actions_stopSurvivor (pid grace : Nat) :
    (h.stopSurvivor pid grace).actions = h.actions := by
  unfold stopSurvivor
  dsimp only
  split <;> simp

end Host

variable {α β γ : Type}

/-- `m` leaves the machine's journal as it is, from whatever state it runs. -/
def Quiet (m : RegistryM α) : Prop := ∀ s, (m.run s).2.host.actions = s.host.actions

/-- From whatever state it runs, `m` adds to the machine's journal a segment `J` such that
`N a J`, where `a` is what it returns. -/
def Journals (m : RegistryM α) (N : α → List Action → Prop) : Prop :=
  ∀ s, ∃ J, (m.run s).2.host.actions = s.host.actions ++ J ∧ N (m.run s).1 J

namespace Quiet

theorem pure' (a : α) : Quiet (pure a : RegistryM α) := fun _ => rfl

theorem get : Quiet (MonadState.get : RegistryM Registry) := fun _ => rfl

theorem bind {m : RegistryM α} {f : α → RegistryM β} (hm : Quiet m) (hf : ∀ a, Quiet (f a)) :
    Quiet (m >>= f) :=
  fun s => (hf _ _).trans (hm s)

theorem modify {f : Registry → Registry} (hf : ∀ r, (f r).host.actions = r.host.actions) :
    Quiet (modify f : RegistryM Unit) :=
  fun s => hf s

theorem onHost {g : Host → α × Host} (hg : ∀ h, (g h).2.actions = h.actions) :
    Quiet (Registry.onHost g) :=
  fun s => hg s.host

theorem forIn {xs : List γ} {init : β} {f : γ → β → RegistryM (ForInStep β)}
    (hf : ∀ x b, Quiet (f x b)) : Quiet (forIn xs init f) := by
  induction xs generalizing init with
  | nil => exact fun _ => rfl
  | cons x rest ih =>
    intro s
    rw [List.forIn_cons, StateT.run_bind]
    have hx := hf x init s
    -- the first step either stops the loop or hands its value to the loop over the rest
    rcases h : (f x init).run s with ⟨_ | b, s'⟩
    · rw [h] at hx
      exact hx
    · rw [h] at hx
      exact (ih s').trans hx

end Quiet

namespace Journals

variable {m : RegistryM α} {f : α → RegistryM β} {N : β → List Action → Prop}

theorem pure' {a : β} (h : N a []) : Journals (pure a) N :=
  fun _ => ⟨[], (List.append_nil _).symm, h⟩

theorem bind {N₁ : α → List Action → Prop} (hm : Journals m N₁)
    (hf : ∀ a J, N₁ a J → Journals (f a) fun b J' => N b (J ++ J')) : Journals (m >>= f) N := by
  intro s
  obtain ⟨J, hJ, hN⟩ := hm s
  obtain ⟨J', hJ', hN'⟩ := hf _ _ hN (m.run s).2
  exact ⟨J ++ J', by rw [← List.append_assoc, ← hJ]; exact hJ', hN'⟩

theorem of_quiet {m : RegistryM α} {N : α → List Action → Prop} (hm : Quiet m) (h : ∀ a, N a []) :
    Journals m N :=
  fun s => ⟨[], by rw [hm s, List.append_nil], h _⟩

theorem quiet_bind {R : α → Prop} (hm : Quiet m) (hR : ∀ s, R (m.run s).1)
    (hf : ∀ a, R a → Journals (f a) N) : Journals (m >>= f) N := by
  intro s
  obtain ⟨J, hJ, hN⟩ := hf _ (hR s) (m.run s).2
  exact ⟨J, hJ.trans (by rw [hm s]), hN⟩

theorem quiet_then (hm : Quiet m) (hf : ∀ a, Journals (f a) N) : Journals (m >>= f) N :=
  quiet_bind (R := fun _ => True) hm (fun _ => trivial) fun a _ => hf a

theorem get_bind {f : Registry → RegistryM β} (hf : ∀ s₀, Journals (f s₀) N) :
    Journals (MonadState.get >>= f) N :=
  fun s => hf s s

theorem mono {N N' : α → List Action → Prop} (h : Journals m N) (hN : ∀ a J, N a J → N' a J) :
    Journals m N' :=
  fun s => (h s).imp fun _ hJ => ⟨hJ.1, hN _ _ hJ.2⟩

/-- **A loop's journal.** If each step of the body, after a segment `J` that satisfies the
invariant of the items still to visit, adds one that extends it to the invariant of the items
after it, then the loop adds a segment satisfying the invariant of nothing left. -/
theorem forIn {xs : List γ} {init : β} {f : γ → β → RegistryM (ForInStep β)}
    (I : List γ → β → List Action → Prop)
    (step : ∀ x rest b J, I (x :: rest) b J →
      Journals (f x b) fun c J' => Triple.Next I rest c (J ++ J'))
    (h0 : I xs init []) : Journals (forIn xs init f) fun b J => I [] b J := by
  -- the induction carries the segment the earlier steps have added
  suffices h : ∀ J₀, I xs init J₀ → ∀ s, ∃ J, ((ForIn.forIn xs init f).run s).2.host.actions =
      s.host.actions ++ J ∧ I [] ((ForIn.forIn xs init f).run s).1 (J₀ ++ J) from
    fun s => h [] h0 s
  clear h0
  induction xs generalizing init with
  | nil => exact fun J₀ hI s => ⟨[], (List.append_nil _).symm, by rwa [List.append_nil]⟩
  | cons x rest ih =>
    intro J₀ hI s
    obtain ⟨J₁, hJ₁, hN⟩ := step x rest init J₀ hI s
    rw [List.forIn_cons, StateT.run_bind]
    rcases h : (f x init).run s with ⟨_ | b, s'⟩
    · rw [h] at hJ₁ hN
      exact ⟨J₁, hJ₁, hN⟩
    · rw [h] at hJ₁ hN
      obtain ⟨J₂, hJ₂, hI'⟩ := ih (J₀ ++ J₁) hN s'
      refine ⟨J₁ ++ J₂, hJ₂.trans ?_, by rwa [← List.append_assoc]⟩
      rw [← List.append_assoc]
      exact congrArg (· ++ J₂) hJ₁

theorem forIn_notes {xs : List γ} {init : β} {f : γ → β → RegistryM (ForInStep β)}
    (spawn : Bool) (key : γ → ProfileKey)
    (step : ∀ x b, Journals (f x b) fun c J => (∃ b', c = .yield b') ∧ Notes spawn [key x] J) :
    Journals (ForIn.forIn xs init f) fun _ J => Notes spawn (xs.map key) J := by
  refine mono (forIn (fun rest _ J => ∃ pre, pre ++ rest = xs ∧ Notes spawn (pre.map key) J)
    (fun x rest b J ⟨pre, hpre, hJ⟩ => mono (step x b) fun c J' ⟨⟨b', hc⟩, hJ'⟩ => ?_)
    ⟨[], rfl, Notes.nil spawn _⟩) fun _ J ⟨pre, hpre, hJ⟩ => ?_
  · subst hc
    refine ⟨pre ++ [x], by rw [List.append_assoc]; exact hpre, ?_⟩
    rw [List.map_append]
    exact hJ.append hJ'
  · rw [List.append_nil] at hpre
    rwa [hpre] at hJ

end Journals

/-! ## What each step writes -/

namespace Registry

theorem put_quiet (e : Record) : Quiet (put e) := Quiet.modify fun _ => rfl

theorem removePidFile_quiet (key : ProfileKey) : Quiet (removePidFile key) :=
  Quiet.modify fun _ => rfl

theorem take_quiet (key : ProfileKey) : Quiet (take key) := fun _ => rfl

theorem take_key (key : ProfileKey) (s : Registry) :
    ∀ e, ((take key).run s).1 = some e → e.key = key := fun e h => by
  simpa using List.find?_some h

theorem commit_quiet (c : LabConfig) : Quiet (commit c) := by
  intro s
  unfold commit
  show (if s.host.writable = true then _ else _ : RegistryM _).run s |>.2.host.actions = _
  split <;> rfl

theorem pollExit_quiet (e : Record) : Quiet (pollExit e) := by
  unfold pollExit
  split
  · exact Quiet.pure' _
  · exact Quiet.bind (Quiet.onHost fun h => h.actions_collect _) fun _ => Quiet.pure' _
  · exact Quiet.bind Quiet.get fun _ => Quiet.pure' _

theorem checked_quiet (e : Record) : Quiet (checked e) :=
  Quiet.bind (pollExit_quiet e) fun _ => by split <;> exact Quiet.pure' _

theorem reap_quiet : Quiet reap := by
  unfold reap
  refine Quiet.bind Quiet.get fun _ => Quiet.bind (Quiet.forIn fun _ _ => ?_) fun _ =>
    Quiet.modify fun _ => rfl
  refine Quiet.bind (pollExit_quiet _) fun _ => ?_
  split
  · exact Quiet.pure' _
  · split
    · split
      · exact Quiet.bind (Quiet.onHost fun h => h.actions_tick) fun _ => Quiet.pure' _
      · exact Quiet.pure' _
    · exact Quiet.pure' _

theorem nextIncarnation_quiet (key : ProfileKey) : Quiet (nextIncarnation key) := fun _ => rfl

theorem noteTermination_journals (e : Record) (pid : Nat) :
    Journals (noteTermination e pid) fun _ J => J = [.terminated e.key.kind e.key.name pid] :=
  fun _ => ⟨_, rfl, rfl⟩

theorem terminate_journals (e : Record) :
    Journals (terminate e) fun _ J => J = e.endNote.toList := by
  unfold terminate
  split
  · next h => exact Journals.pure' (by simp [Record.endNote, h])
  · next pid h =>
    refine Journals.bind (noteTermination_journals e pid) fun _ J hJ => Journals.of_quiet
      (Quiet.modify fun r => r.host.actions_stopChild _ _) fun _ => ?_
    simp [hJ, Record.endNote, h, Handle.pid]
  · next pid h =>
    refine Journals.bind (noteTermination_journals e pid) fun _ J hJ => Journals.of_quiet
      (Quiet.modify fun r => r.host.actions_stopSurvivor _ _) fun _ => ?_
    simp [hJ, Record.endNote, h, Handle.pid]

theorem spawn_journals (e : Record) : Journals (spawn e) fun _ J => Notes true [e.key] J := by
  intro s
  unfold spawn
  rw [StateT.run_bind]
  rcases h : (nextIncarnation e.key).run s with ⟨n, s₁⟩
  have hs₁ : s₁.host.actions = s.host.actions := by
    rw [← nextIncarnation_quiet e.key s, h]
  change ∃ J, (StateT.run (get >>= _ : RegistryM (Record × Option Error)) s₁).2.host.actions =
    s.host.actions ++ J ∧ Notes true [e.key] J
  rw [Triple.run_get_bind]
  split
  · exact ⟨[], hs₁.trans (List.append_nil _).symm, Notes.nil true _⟩
  · exact ⟨_, by rw [← hs₁]; rfl, Notes.spawned _ _ _⟩

theorem start_journals (key : ProfileKey) : Journals (start key) fun _ J => Notes true [key] J := by
  unfold start
  refine Journals.get_bind fun r => ?_
  split
  · exact Journals.pure' (Notes.nil true _)
  -- the record looked at is the profile's own
  refine Journals.quiet_bind (R := fun e => e.key = key) (checked_quiet _)
    (fun s => (checked_effect _ s s rfl).2.key.trans (key_getD_fresh r key)) fun entry hkey => ?_
  split
  · exact Journals.of_quiet (Quiet.bind (put_quiet _) fun _ => Quiet.pure' _) fun _ => Notes.nil true _
  refine Journals.bind (spawn_journals _) fun res J hJ => Journals.of_quiet ?_ fun _ => by
    rw [List.append_nil, ← hkey]
    exact hJ
  obtain ⟨entry', failure⟩ := res
  refine Quiet.bind (put_quiet _) fun _ => ?_
  split
  · exact Quiet.pure' _
  · refine Quiet.bind (Quiet.modify fun r => r.host.actions_sleep _) fun _ =>
      Quiet.bind (pollExit_quiet _) fun _ => ?_
    split <;> exact Quiet.bind (put_quiet _) fun _ => Quiet.pure' _

end Registry

/-! ## The orders of the transitions -/

/-- The records in the order everything is stopped: daemons first. -/
def stopAllOrder (rs : List Record) : List Record :=
  rs.filter (·.key.kind == .daemon) ++ rs.filter (·.key.kind == .nameserver)

theorem stopAll_journal (r : Registry) :
    ∃ J, (Registry.stopAll.run r).2.host.actions = r.host.actions ++ J ∧
      J = (stopAllOrder r.records).filterMap Record.endNote := by
  unfold Registry.stopAll
  rw [Triple.run_get_bind]
  refine (?_ : Journals _ fun _ J => J = (stopAllOrder r.records).filterMap Record.endNote) r
  refine Journals.quiet_then (Quiet.modify fun _ => rfl) fun _ => ?_
  refine Journals.bind (Journals.mono (Journals.forIn
    (fun rest _ J => ∃ pre, pre ++ rest = stopAllOrder r.records ∧ J = pre.filterMap Record.endNote)
    (fun e rest _ J ⟨pre, hpre, hJ⟩ => ?_) ⟨[], rfl, rfl⟩) fun _ J ⟨pre, hpre, hJ⟩ => ?_)
    fun _ J hJ => Journals.pure' (by rw [List.append_nil]; exact hJ)
  · refine Journals.bind (Registry.terminate_journals e) fun _ J' hJ' =>
      Journals.quiet_then (Registry.removePidFile_quiet _) fun _ => Journals.pure' ?_
    refine ⟨pre ++ [e], by rw [List.append_assoc]; exact hpre, ?_⟩
    rw [hJ, hJ', List.filterMap_append]
    cases h : e.endNote <;> simp [h]
  · rw [List.append_nil] at hpre
    rw [hJ, hpre]

theorem reload_journals (next : LabConfig) :
    Journals (Registry.reload next) fun _ J =>
      ∃ T S, J = T ++ S ∧ EndsDaemonsFirst T ∧ SpawnsNameserversFirst S := by
  unfold Registry.reload
  refine Journals.get_bind fun _ => Journals.get_bind fun r₁ => ?_
  refine Journals.quiet_then (Quiet.modify fun _ => rfl) fun _ =>
    Journals.quiet_then (Registry.commit_quiet next) fun res => ?_
  split
  · exact Journals.pure' ⟨[], [], rfl, ⟨[], Notes.nil false _⟩, ⟨[], Notes.nil true _⟩⟩
  refine Journals.quiet_then Registry.reap_quiet fun _ => Journals.get_bind fun r₂ => ?_
  -- the plan is made without a step on the machine
  refine Journals.quiet_then (Quiet.forIn fun entry acc => ?_) fun acc => ?_
  · dsimp only
    split
    · split <;> exact Quiet.pure' _
    · split
      · split <;> exact Quiet.pure' _
      · split
        · split <;> exact Quiet.pure' _
        · split <;> exact Quiet.pure' _
  dsimp only
  -- the stop loop: one end at most per profile of the stop order, in that order
  refine Journals.bind (Journals.mono (Journals.forIn_notes false (fun k => k) fun key _ => ?_)
      fun _ T hT => (⟨acc.2.1, by rwa [List.map_id'] at hT⟩ : EndsDaemonsFirst T)) fun _ T hT => ?_
  · refine Journals.quiet_bind (R := fun x => ∀ e, x = some e → e.key = key)
      (Registry.take_quiet key) (Registry.take_key key) fun x hx => ?_
    split
    · next entry =>
      refine Journals.bind (Registry.terminate_journals entry) fun _ J hJ =>
        Journals.quiet_then (Registry.removePidFile_quiet key) fun _ => Journals.pure' ⟨⟨_, rfl⟩, ?_⟩
      rw [List.append_nil, hJ, ← hx entry rfl]
      exact Notes.endNote entry
    · exact Journals.pure' ⟨⟨_, rfl⟩, Notes.nil false _⟩
  -- the spawn loop: one spawn at most per profile of the spawn order, in that order
  refine Journals.bind (Journals.forIn_notes true Prod.snd fun p _ => ?_) fun _ S hS => ?_
  · obtain ⟨old, new⟩ := p
    dsimp only
    split
    on_goal 1 => refine Journals.quiet_then (Quiet.modify fun _ => rfl) fun _ => ?_
    all_goals
      refine Journals.get_bind fun s₀ => Journals.bind (Registry.spawn_journals _) fun res J hJ => ?_
      rw [Registry.key_getD_fresh] at hJ
      obtain ⟨entry, failure⟩ := res
      refine Journals.quiet_then (Registry.put_quiet _) fun _ => ?_
      split <;> exact Journals.pure' ⟨⟨_, rfl⟩, by rwa [List.append_nil]⟩
  -- a pause, a last look and the warnings: nothing more is written
  refine Journals.of_quiet ?_ fun _ => ⟨T, S ++ [], by rw [List.append_nil], hT,
    acc.2.2.map Prod.snd, ?_⟩
  · split
    · refine Quiet.bind (Quiet.modify fun r => r.host.actions_sleep _) fun _ =>
        Quiet.bind Registry.reap_quiet fun _ => Quiet.bind (Quiet.forIn fun p _ => ?_) fun _ =>
          Quiet.pure' _
      obtain ⟨_, new⟩ := p
      exact Quiet.bind Quiet.get fun _ => by split <;> exact Quiet.pure' _
    · exact Quiet.pure' _
  · rw [List.append_nil]
    simpa [List.filter_map, Function.comp_def] using hS

theorem endsDaemonsFirst_stopAllOrder (rs : List Record) :
    EndsDaemonsFirst ((stopAllOrder rs).filterMap Record.endNote) := by
  refine ⟨rs.map Record.key, ?_⟩
  simpa [stopAllOrder, List.filter_map, Function.comp_def] using
    Notes.filterMap_endNote (stopAllOrder rs)

/-- The autolaunch profiles in the order they are started: the nameservers as listed, then the
daemons as listed. -/
def launchOrder (c : LabConfig) : List ProfileKey :=
  c.autolaunch.nameservers.map (⟨.nameserver, ·⟩) ++ c.autolaunch.daemons.map (⟨.daemon, ·⟩)

/-- Starts the profiles `keys` one after another, adding to `failures` a message for each one
that fails to start. -/
def startEach : List ProfileKey → List String → RegistryM (List String)
  | [], failures => pure failures
  | key :: keys, failures => do
    match ← Registry.start key with
    | .error e => startEach keys (failures ++ [key.kind.name ++ " '" ++ key.name ++ "': " ++ e.message])
    | .ok _ => startEach keys failures

theorem startEach_append (keys keys' : List ProfileKey) (failures : List String) :
    startEach (keys ++ keys') failures = startEach keys failures >>= startEach keys' := by
  induction keys generalizing failures with
  | nil => exact (pure_bind _ _).symm
  | cons key keys ih =>
    simp only [List.cons_append, startEach, bind_assoc]
    congr 1
    funext res
    split <;> exact ih _

theorem startEach_journals (keys : List ProfileKey) (failures : List String) :
    Journals (startEach keys failures) fun _ J => Notes true keys J := by
  induction keys generalizing failures with
  | nil => exact Journals.pure' (Notes.nil true _)
  | cons key keys ih =>
    refine Journals.bind (Registry.start_journals key) fun res J hJ => ?_
    split <;> exact Journals.mono (ih _) fun _ J' hJ' => hJ.append hJ'

theorem forIn_starts (kind : ProfileKind) (body : String → List String → RegistryM (ForInStep (List String)))
    (hbody : ∀ name failures, body name failures = Registry.start ⟨kind, name⟩ >>= fun res =>
      pure (.yield (match res with
        | .error e => failures ++ [kind.name ++ " '" ++ name ++ "': " ++ e.message]
        | .ok _ => failures)))
    (names failures : List String) :
    forIn names failures body = startEach (names.map (⟨kind, ·⟩)) failures := by
  induction names generalizing failures with
  | nil => rfl
  | cons name names ih =>
    rw [List.forIn_cons, hbody, List.map_cons, startEach, bind_assoc]
    congr 1
    funext res
    cases res <;> simp only [pure_bind, ih]

theorem autolaunch_run (r : Registry) :
    Registry.autolaunch.run r = (startEach (launchOrder r.config) []).run r := by
  unfold Registry.autolaunch
  rw [Triple.run_get_bind]
  simp only [List.forIn_cons, List.forIn_nil, launchOrder, startEach_append]
  rw [forIn_starts .nameserver _ ?_]
  on_goal 1 =>
    -- the daemons' loop runs on what the nameservers' pass returns
    simp only [bind_assoc, pure_bind]
    congr 2
    funext failures
    rw [forIn_starts .daemon _ ?_]
    simp only [bind_pure]
  -- each loop's body is a start whose failure adds a message
  all_goals
    intro name failures
    congr 1
    funext res
    cases res <;> rfl

theorem launchOrder_by_kind (c : LabConfig) :
    (launchOrder c).filter (·.kind == .nameserver) ++ (launchOrder c).filter (·.kind == .daemon) =
      launchOrder c := by
  have hd : (ProfileKind.daemon == .nameserver) = false := rfl
  have hn : (ProfileKind.nameserver == .daemon) = false := rfl
  simp [launchOrder, List.filter_map, Function.comp_def, hd, hn]

/-- **Transitions go in dependency order.** Stopping everything ends every record's process,
daemons' before nameservers'; a reload ends daemons' processes before nameservers' and spawns
nameservers before daemons; and autolaunch is one pass of starts over the autolaunch
nameservers, as listed, and then the daemons, as listed, so that it spawns in that order. -/
theorem transitions_follow_dependency_order (r : Registry) (next : LabConfig) :
    (∃ J, (Registry.stopAll.run r).2.host.actions = r.host.actions ++ J ∧
      J = (stopAllOrder r.records).filterMap Record.endNote ∧ J.Pairwise Action.MayPrecede) ∧
    (∃ J, ((Registry.reload next).run r).2.host.actions = r.host.actions ++ J ∧
      J.Pairwise Action.MayPrecede) ∧
    Registry.autolaunch.run r = (startEach (launchOrder r.config) []).run r ∧
    ∃ J, (Registry.autolaunch.run r).2.host.actions = r.host.actions ++ J ∧
      Notes true (launchOrder r.config) J ∧ J.Pairwise Action.MayPrecede := by
  refine ⟨?_, ?_, autolaunch_run r, ?_⟩
  · obtain ⟨J, hJ, rfl⟩ := stopAll_journal r
    exact ⟨_, hJ, rfl, (endsDaemonsFirst_stopAllOrder r.records).pairwise⟩
  · obtain ⟨J, hJ, T, S, rfl, hT, hS⟩ := reload_journals next r
    exact ⟨_, hJ, pairwise_ends_append_spawns hT hS⟩
  · obtain ⟨J, hJ, hN⟩ := startEach_journals (launchOrder r.config) [] r
    have hS : SpawnsNameserversFirst J := ⟨launchOrder r.config, by rwa [launchOrder_by_kind]⟩
    rw [autolaunch_run]
    exact ⟨J, hJ, hN, hS.pairwise⟩

end LabFleet.Supervisor

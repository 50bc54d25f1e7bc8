import LabFleet.Wire.Server

/-!
The connections of an object server, as its dispatcher hears them.

A server announces each connection it serves to its dispatcher, passes on the connection's
calls and tells the dispatcher when the connection closes. This module follows a server
through any run of connections opened, calls arriving through any proxy and connections
closed, with a dispatcher that writes down what it hears (`Dispatcher.recording`). What is
proved:

  1. `sound_run` — along every run that does not stop the dispatch thread, connection numbers
     are handed out once, and what the dispatcher hears of each connection is its announcement,
     then its calls, then, once it has closed, its closing and nothing after (`Server.Sound`).
  2. `call_served` — a call over a served connection of a running server is heard once, and
     answered with the reply to what the dispatcher gave; a pooled worker answers a panic with
     an internal failure that names the call's task.
  3. `run_alike` — pooled and serial workers serve a run alike, answers and events, when no
     call panics and no connection finds the pool full; a worker freed by a closing serves a
     later connection. The two servers then differ only in their workers and in the numbers of
     the tasks they started (`Server.Alike`).
  4. `call_panic_halts` and `halted_run` — under serial workers a call that panics stops the
     dispatch thread: it gets no answer, and from then on the dispatcher hears nothing, neither
     the closing of any connection nor the opening or the calls of any later one.

`connections_served_alike` puts 1 to 3 together for a server that has accepted nothing, and
`serial_panic_strands_connections` runs one panicking call under both kinds of workers.
-/

namespace LabFleet.Wire

set_option autoImplicit false

/-- What a dispatcher hears: a connection announced, a call with the result the dispatcher gave
it, a connection closed. -/
inductive Heard where
  | connected (conn : Nat)
  | called (conn : Nat) (call : Call) (result : Result Json)
  | disconnected (conn : Nat)

/-- The connection an event is about. -/
def Heard.conn : Heard → Nat
  | .connected n | .called n _ _ | .disconnected n => n

/-- What was heard of one connection, in order. -/
def heardOf (log : List Heard) (n : Nat) : List Heard := log.filter (·.conn == n)

theorem heardOf_append (log : List Heard) (e : Heard) (n : Nat) :
    heardOf (log ++ [e]) n = if e.conn = n then heardOf log n ++ [e] else heardOf log n := by
  unfold heardOf
  rw [List.filter_append]
  by_cases h : e.conn = n <;> simp [h]

theorem heardOf_append_of_ne (log : List Heard) (e : Heard) {n : Nat} (h : e.conn ≠ n) :
    heardOf (log ++ [e]) n = heardOf log n := by
  rw [heardOf_append, if_neg h]

namespace Dispatcher

variable {σ : Type}

/-- The dispatcher `d`, writing down everything it hears, in order. -/
def recording (d : Dispatcher σ) : Dispatcher (σ × List Heard) where
  dispatch conn c st :=
    ((d.dispatch conn c st.1).1,
      ((d.dispatch conn c st.1).2, st.2 ++ [.called conn c (d.dispatch conn c st.1).1]))
  connected conn st := (d.connected conn st.1, st.2 ++ [.connected conn])
  disconnected conn st := (d.disconnected conn st.1, st.2 ++ [.disconnected conn])

/-- A dispatcher none of whose calls panics. -/
def Calm (d : Dispatcher σ) : Prop :=
  ∀ conn c t, Server.panicOf? (d.dispatch conn c t).1 = none

theorem Calm.recording {d : Dispatcher σ} (h : d.Calm) : d.recording.Calm :=
  fun conn c t => h conn c t.1

end Dispatcher

/-- What a server sees of its clients: a connection opened, a call arriving through a proxy,
a connection closed by its client. -/
inductive Op where
  | accept
  | call (p : Proxy) (method : String) (args : Json)
  | hangUp (conn : Nat)

/-- Whether an operation opens a connection. -/
def Op.isAccept : Op → Bool
  | .accept => true
  | _ => false

namespace Server

variable {σ : Type}

/-- One operation: the answer a call gets, and the server afterwards. -/
def step (d : Dispatcher σ) (s : Server σ) : Op → Option (Result Json) × Server σ
  | .accept => (none, (s.accept d).2)
  | .call p method args => (some (s.call d p method args).1, (s.call d p method args).2.2)
  | .hangUp conn => (none, s.hangUp d conn)

/-- A run: the answers its calls get, in order, and the server afterwards. -/
def run (d : Dispatcher σ) : Server σ → List Op → List (Result Json) × Server σ
  | s, [] => ([], s)
  | s, op :: ops =>
    ((s.step d op).1.toList ++ (run d (s.step d op).2 ops).1, (run d (s.step d op).2 ops).2)

/-- A server that has accepted nothing yet, serving `t` under `workers`, with a dispatcher that
writes down what it hears. -/
def started (t : σ) (workers : Workers) : Server (σ × List Heard) :=
  { target := (t, []), workers }

/-! ## Links -/

theorem mem_of_link? {s : Server σ} {n : Nat} {l : Link} (h : s.link? n = some l) :
    (n, l) ∈ s.links := by
  unfold link? at h
  obtain ⟨e, he, rfl⟩ := Option.map_eq_some_iff.1 h
  have hkey : e.1 = n := by simpa using List.find?_some he
  rw [← hkey]
  exact List.mem_of_find?_eq_some he

theorem find?_append_fresh (links : List (Nat × Link)) {conn : Nat}
    (hfresh : ∀ e ∈ links, e.1 ≠ conn) (l : Link) (n : Nat) :
    ((links ++ [(conn, l)]).find? (·.1 == n)).map (·.2) =
      if n = conn then some l else (links.find? (·.1 == n)).map (·.2) := by
  rw [List.find?_append]
  by_cases hn : n = conn
  · subst hn
    have hnone : links.find? (·.1 == n) = none :=
      List.find?_eq_none.2 fun e he h => hfresh e he (by simpa using h)
    simp [hnone]
  · cases hf : links.find? (·.1 == n) with
    | some e => simp [hn]
    | none =>
      have hne : (conn == n) = false := by simpa using Ne.symm hn
      simp [hn, hne]

theorem link?_setLink (s : Server σ) (conn : Nat) (l : Link) (n : Nat) :
    (s.setLink conn l).link? n = if n = conn then (s.link? n).map fun _ => l else s.link? n := by
  unfold setLink link?
  dsimp only
  induction s.links with
  | nil => simp
  | cons e rest ih =>
    obtain ⟨c, old⟩ := e
    by_cases hc : c = conn
    · subst hc
      by_cases hn : n = c
      · subst hn
        simp
      · simp only [List.map_cons, beq_self_eq_true, if_true, List.find?_cons] at ih ⊢
        have hne : (c == n) = false := by simpa using Ne.symm hn
        simp only [hne, hn, if_false] at ih ⊢
        exact ih
    · have hcc : (c == conn) = false := by simpa using hc
      simp only [List.map_cons, hcc, Bool.false_eq_true, if_false, List.find?_cons] at ih ⊢
      by_cases hn : c = n
      · subst hn
        simp [hc]
      · have hne : (c == n) = false := by simpa using hn
        simp only [hne] at ih ⊢
        exact ih

theorem link?_filter (links : List (Nat × Link)) (conn n : Nat) :
    ((links.filter (·.1 != conn)).find? (·.1 == n)).map (·.2) =
      if n = conn then none else (links.find? (·.1 == n)).map (·.2) := by
  induction links with
  | nil => simp
  | cons e rest ih =>
    obtain ⟨c, l⟩ := e
    by_cases hc : c = conn
    · subst hc
      by_cases hn : n = c
      · subst hn
        simp only [List.filter_cons, bne_self_eq_false, Bool.false_eq_true, if_false] at ih ⊢
        simp
      · have hne : (c == n) = false := by simpa using Ne.symm hn
        simp only [List.filter_cons, bne_self_eq_false, Bool.false_eq_true, if_false,
          List.find?_cons, hne] at ih ⊢
        exact ih
    · have hcc : (c != conn) = true := by simpa using hc
      simp only [List.filter_cons, hcc, if_true, List.find?_cons] at ih ⊢
      by_cases hn : c = n
      · subst hn
        simp [hc]
      · have hne : (c == n) = false := by simpa using hn
        simp only [hne] at ih ⊢
        exact ih

/-! ## Sound servers -/

/-- How connection `n` stands, from its link and what was heard of it: a served connection was
announced and then called; a refused one, or one dropped after its refusal, was never heard of;
one without a link was never heard of or was heard from its announcement to its closing. -/
def Stands (n : Nat) : Option Link → List Heard → Prop
  | some .served, evs => Opened n evs
  | some _, evs => evs = []
  | none, evs => evs = [] ∨ ∃ opened, Opened n opened ∧ evs = opened ++ [.disconnected n]
where
  /-- Announced, then called. -/
  Opened (n : Nat) (evs : List Heard) : Prop :=
    ∃ calls : List (Call × Result Json),
      evs = .connected n :: calls.map fun c => .called n c.1 c.2

/-- A server whose dispatch thread runs, whose connections have distinct numbers below the next
one, where nothing was heard of a connection not yet accepted and every connection stands as
its link says. -/
structure Sound (s : Server (σ × List Heard)) : Prop where
  running : s.halted = false
  distinct : (s.links.map (·.1)).Nodup
  issued : ∀ e ∈ s.links, e.1 < s.nextConnection
  unheard : ∀ n, s.nextConnection ≤ n → heardOf s.target.2 n = []
  stands : ∀ n, Stands n (s.link? n) (heardOf s.target.2 n)

theorem sound_started (t : σ) (workers : Workers) : (started t workers).Sound where
  running := rfl
  distinct := List.nodup_nil
  issued := fun _ h => nomatch h
  unheard := fun _ _ => rfl
  stands := fun _ => .inl rfl

/-! ## One operation -/

/-- The link a server gives the next connection it accepts. -/
def nextLink (s : Server σ) : Link :=
  match s.workers with
  | .pool limit => if s.busyWorkers < max limit 1 then .served else .refused
  | .serial => if s.halted then .dropped else .served

theorem accept_eq (d : Dispatcher σ) (s : Server σ) :
    s.accept d = (s.nextConnection, { s with
      nextConnection := s.nextConnection + 1
      links := s.links ++ [(s.nextConnection, s.nextLink)]
      nextTask := s.nextTask + s.acceptTasks s.nextLink
      target := if s.nextLink = .served then d.connected s.nextConnection s.target
        else s.target }) := by
  unfold accept nextLink
  dsimp only
  cases hw : s.workers with
  | pool limit => by_cases h : s.busyWorkers < max limit 1 <;> simp [h]
  | serial => by_cases h : s.halted = true <;> simp [h]

theorem setLink_keys (s : Server σ) (conn : Nat) (l : Link) :
    (s.setLink conn l).links.map (·.1) = s.links.map (·.1) := by
  unfold setLink
  rw [List.map_map]
  apply List.map_congr_left
  intro e _
  obtain ⟨c, old⟩ := e
  dsimp only [Function.comp]
  split <;> rfl

namespace Sound

variable {s : Server (σ × List Heard)}

theorem fresh (hs : s.Sound) : ∀ e ∈ s.links, e.1 ≠ s.nextConnection :=
  fun e he => Nat.ne_of_lt (hs.issued e he)

theorem withTask (hs : s.Sound) (n : Nat) : ({ s with nextTask := n } : Server _).Sound :=
  ⟨hs.running, hs.distinct, hs.issued, hs.unheard, hs.stands⟩

/-- **Accepting keeps a server sound**: the new number is fresh, and a connection served is
announced before anything else is heard of it. -/
theorem accept (hs : s.Sound) (d : Dispatcher σ) : (s.accept d.recording).2.Sound := by
  rw [accept_eq]
  have hnew : heardOf s.target.2 s.nextConnection = [] := hs.unheard _ (Nat.le_refl _)
  -- what is heard: the announcement of the new connection, when it is served
  have hheard : ∀ n, heardOf (if s.nextLink = .served then d.recording.connected
      s.nextConnection s.target else s.target).2 n =
      if n = s.nextConnection ∧ s.nextLink = .served then [.connected n]
      else heardOf s.target.2 n := by
    intro n
    by_cases hl : s.nextLink = .served
    · simp only [hl, if_true, Dispatcher.recording, heardOf_append, Heard.conn, and_true]
      by_cases hn : n = s.nextConnection
      · subst hn
        simp [hnew]
      · simp [hn, Ne.symm hn]
    · simp [hl]
  have hlink := find?_append_fresh s.links hs.fresh s.nextLink
  constructor
  · exact hs.running
  · rw [List.map_append]
    refine List.nodup_append.2 ⟨hs.distinct, by simp, ?_⟩
    intro a ha b hb
    rw [List.mem_singleton.1 hb]
    obtain ⟨e, he, rfl⟩ := List.mem_map.1 ha
    exact hs.fresh e he
  · intro e he
    rcases List.mem_append.1 he with he | he
    · exact Nat.lt_succ_of_lt (hs.issued e he)
    · rw [List.mem_singleton.1 he]
      exact Nat.lt_succ_self _
  · intro n hn
    dsimp only at hn ⊢
    rw [hheard, if_neg fun h => by omega]
    exact hs.unheard n (by omega)
  · intro n
    show Stands n (((s.links ++ [(s.nextConnection, s.nextLink)]).find? (·.1 == n)).map (·.2)) _
    rw [hlink, hheard]
    by_cases hn : n = s.nextConnection
    · -- the new connection: announced when served, unheard of otherwise
      subst hn
      rw [if_pos rfl]
      cases hl : s.nextLink with
      | served => exact ⟨[], by simp⟩
      | refused => simpa [Stands, hl] using hnew
      | dropped => simpa [Stands, hl] using hnew
    · rw [if_neg hn, if_neg fun h => hn h.1]
      exact hs.stands n

theorem called (hs : s.Sound) {n : Nat} (hn : s.link? n = some .served) (c : Call)
    (r : Result Json) (t : σ) :
    ({ s with target := (t, s.target.2 ++ [.called n c r]) } :
      Server (σ × List Heard)).Sound := by
  have hlt : n < s.nextConnection := hs.issued _ (mem_of_link? hn)
  refine ⟨hs.running, hs.distinct, hs.issued, fun m hm => ?_, fun m => ?_⟩
  · have hne : n ≠ m := by
      dsimp only at hm
      omega
    rw [heardOf_append_of_ne _ (.called n c r) hne]
    exact hs.unheard m hm
  · show Stands m (s.link? m) (heardOf (s.target.2 ++ [.called n c r]) m)
    rw [heardOf_append]
    by_cases hm : n = m
    · -- the caller's connection: one more call after the ones heard
      subst hm
      have hst := hs.stands n
      rw [hn] at hst ⊢
      obtain ⟨calls, hcalls⟩ := hst
      have hc : (Heard.called n c r).conn = n := rfl
      rw [if_pos hc, hcalls]
      exact ⟨calls ++ [(c, r)], by simp⟩
    · rw [if_neg (show (Heard.called n c r).conn ≠ m from hm)]
      exact hs.stands m

theorem dropped (hs : s.Sound) {n : Nat} (hn : s.link? n = some .refused) :
    (s.setLink n .dropped).Sound := by
  refine ⟨hs.running, ?_, fun e he => ?_, hs.unheard, fun m => ?_⟩
  · rw [setLink_keys]
    exact hs.distinct
  · have hkey : e.1 ∈ (s.setLink n .dropped).links.map (·.1) := List.mem_map_of_mem he
    rw [setLink_keys] at hkey
    obtain ⟨e', he', hkey⟩ := List.mem_map.1 hkey
    rw [← hkey]
    exact hs.issued e' he'
  · show Stands m ((s.setLink n .dropped).link? m) (heardOf s.target.2 m)
    rw [link?_setLink]
    by_cases hm : m = n
    · subst hm
      have hst := hs.stands m
      rw [hn] at hst
      rw [if_pos rfl, hn]
      exact hst
    · rw [if_neg hm]
      exact hs.stands m

/-- **A call keeps a server sound**, unless it stops the dispatch thread: a call heard over a
served connection is one more call after its announcement, and a refused connection answered
busy is dropped. -/
theorem call (hs : s.Sound) {d : Dispatcher σ} (hcalm : s.workers = .serial → d.Calm)
    (p : Proxy) (method : String) (args : Json) :
    (s.call d.recording p method args).2.2.Sound := by
  unfold Server.call
  split
  · exact hs
  split
  · next hl =>
    rw [if_neg (by simp [hs.running])]
    dsimp only [Dispatcher.recording]
    split
    · exact (hs.called hl _ _ _).withTask _
    · exact hs.called hl _ _ _
    · exact (hs.called hl _ _ _).withTask _
    · next hp hw =>
      -- a panic would stop the thread of serial workers, whose dispatcher does not panic
      have hnone := hcalm hw p.connection { object := p.address.object, method, args } s.target.1
      rw [hp] at hnone
      cases hnone
  · next hl => exact hs.dropped hl
  · exact hs

/-- **Closing keeps a server sound**: a served connection's closing is heard after everything
else heard of it, and nothing more is heard of it afterwards. -/
theorem hangUp (hs : s.Sound) (d : Dispatcher σ) (conn : Nat) :
    (s.hangUp d.recording conn).Sound := by
  unfold Server.hangUp
  dsimp only
  have hlink := link?_filter s.links conn
  have hdistinct : ((s.links.filter (·.1 != conn)).map (·.1)).Nodup :=
    hs.distinct.sublist (List.Sublist.map _ List.filter_sublist)
  have hissued : ∀ e ∈ s.links.filter (·.1 != conn), e.1 < s.nextConnection :=
    fun e he => hs.issued e (List.mem_filter.1 he).1
  split
  · next hl =>
    rw [if_neg (by simp [hs.running])]
    have hlt : conn < s.nextConnection := hs.issued _ (mem_of_link? hl)
    -- pooled workers report the closing from a task of its own, which soundness does not see
    have hs' : Sound ({ s with
        links := s.links.filter (·.1 != conn)
        target := d.recording.disconnected conn s.target } : Server (σ × List Heard)) := by
      refine ⟨hs.running, hdistinct, hissued, fun n hn => ?_, fun n => ?_⟩
      · have hne : conn ≠ n := by
          dsimp only at hn
          omega
        rw [Dispatcher.recording, heardOf_append_of_ne _ (.disconnected conn) hne]
        exact hs.unheard n hn
      · show Stands n (((s.links.filter (·.1 != conn)).find? (·.1 == n)).map (·.2))
          (heardOf (s.target.2 ++ [.disconnected conn]) n)
        rw [hlink, heardOf_append]
        by_cases hn : n = conn
        · -- the closed connection: its closing follows its announcement and calls
          subst hn
          have hst := hs.stands n
          rw [hl] at hst
          have hc : (Heard.disconnected n).conn = n := rfl
          rw [if_pos rfl, if_pos hc]
          exact .inr ⟨_, hst, rfl⟩
        · rw [if_neg hn, if_neg (show (Heard.disconnected conn).conn ≠ n from Ne.symm hn)]
          exact hs.stands n
    split
    · exact hs'.withTask _
    · exact hs'

  · next hl =>
    refine ⟨hs.running, hdistinct, hissued, hs.unheard, fun n => ?_⟩
    show Stands n (((s.links.filter (·.1 != conn)).find? (·.1 == n)).map (·.2))
      (heardOf s.target.2 n)
    rw [hlink]
    by_cases hn : n = conn
    · -- a connection never served was never heard of
      subst hn
      rw [if_pos rfl]
      have hst := hs.stands n
      cases hln : s.link? n with
      | none =>
        rw [hln] at hst
        exact hst
      | some l =>
        rw [hln] at hst
        cases l with
        | served => exact absurd hln hl
        | refused => exact .inl hst
        | dropped => exact .inl hst
    · rw [if_neg hn]
      exact hs.stands n

theorem step (hs : s.Sound) {d : Dispatcher σ} (hcalm : s.workers = .serial → d.Calm)
    (op : Op) : (s.step d.recording op).2.Sound := by
  cases op with
  | accept => exact hs.accept d
  | call p method args => exact hs.call hcalm p method args
  | hangUp conn => exact hs.hangUp d conn

end Sound

theorem call_workers (d : Dispatcher σ) (s : Server σ) (p : Proxy) (method : String)
    (args : Json) : (s.call d p method args).2.2.workers = s.workers := by
  unfold call
  split
  · rfl
  split
  · split
    · rfl
    rcases d.dispatch p.connection { object := p.address.object, method, args } s.target with
      ⟨r, target⟩
    dsimp only
    split <;> rfl
  · rfl
  · rfl

theorem hangUp_workers (d : Dispatcher σ) (s : Server σ) (conn : Nat) :
    (s.hangUp d conn).workers = s.workers := by
  unfold hangUp
  split
  · split
    · rfl
    · cases s.workers <;> rfl
  · rfl

theorem step_workers (d : Dispatcher σ) (s : Server σ) (op : Op) :
    (s.step d op).2.workers = s.workers := by
  cases op with
  | accept => rw [step, accept_eq]
  | call p method args => exact call_workers d s p method args
  | hangUp conn => exact hangUp_workers d s conn

theorem run_workers (d : Dispatcher σ) :
    ∀ (ops : List Op) (s : Server σ), (s.run d ops).2.workers = s.workers
  | [], _ => rfl
  | op :: ops, s => by
    rw [run, run_workers d ops, step_workers]

/-- **Every run that keeps the dispatch thread keeps a server sound**: under pooled workers any
run, under serial workers a run whose dispatcher does not panic. -/
theorem sound_run {d : Dispatcher σ} :
    ∀ (ops : List Op) {s : Server (σ × List Heard)}, s.Sound →
      (s.workers = .serial → d.Calm) →
      (s.run d.recording ops).2.Sound
  | [], _, hs, _ => hs
  | op :: ops, s, hs, hcalm => by
    -- each step keeps the workers, and with them the dispatcher's freedom to panic
    have hw := step_workers d.recording s op
    exact sound_run ops (hs.step hcalm op) (hw ▸ hcalm)

/-- **A call over a served connection of a running server** is heard once, after everything
heard before it, and is answered with the reply to what the dispatcher gave; a pooled worker
answers a panic with an internal failure naming the call's task. -/
theorem call_served {d : Dispatcher σ} {s : Server (σ × List Heard)} (hrun : s.halted = false)
    {p : Proxy} (hp : p.broken = false) (hl : s.link? p.connection = some .served)
    (hcalm : s.workers = .serial → d.Calm) (method : String) (args : Json) :
    let c : Call := { object := p.address.object, method, args }
    let r := (d.dispatch p.connection c s.target.1).1
    (s.call d.recording p method args).2.2.target.2 = s.target.2 ++ [.called p.connection c r] ∧
      (s.call d.recording p method args).1 =
        (Reply.ofResult ((panicOf? r).elim r fun m => .error (panicFailure s.nextTask m))).toResult := by
  intro c r
  unfold Server.call
  rw [if_neg (by simp [hp]), hl]
  dsimp only
  rw [if_neg (by simp [hrun])]
  dsimp only [Dispatcher.recording]
  cases hpr : panicOf? r with
  | none => cases s.workers <;> exact ⟨rfl, rfl⟩
  | some m =>
    cases hw : s.workers with
    | pool limit => exact ⟨rfl, rfl⟩
    | serial =>
      -- serial workers serve a dispatcher that does not panic
      have hnone := hcalm hw p.connection c s.target.1
      rw [hpr] at hnone
      cases hnone

/-! ## A panic under serial workers -/

/-- **A panic stops the thread of serial workers**: the call gets no answer, its connection is
closed and its proxy broken, and the server halts with what the dispatcher had done. -/
theorem call_panic_halts {d : Dispatcher σ} {s : Server σ} (hw : s.workers = .serial)
    (hrun : s.halted = false) {p : Proxy} (hp : p.broken = false)
    (hl : s.link? p.connection = some .served) {method : String} {args : Json} {m : String}
    (hpanic : panicOf?
      (d.dispatch p.connection { object := p.address.object, method, args } s.target).1 = some m) :
    s.call d p method args = (.error closedBeforeReply, { p with broken := true },
      { s.setLink p.connection .dropped with
        target := (d.dispatch p.connection { object := p.address.object, method, args } s.target).2
        halted := true }) := by
  unfold call
  rw [if_neg (by simp [hp]), hl]
  dsimp only
  rw [if_neg (by simp [hrun]), hpanic, hw]

theorem halted_step (d : Dispatcher σ) {s : Server σ} (hw : s.workers = .serial)
    (hh : s.halted = true) (op : Op) :
    (s.step d op).2.target = s.target ∧ (s.step d op).2.halted = true ∧
      ∀ a, (s.step d op).1 = some a → ∃ e, a = .error e := by
  cases op with
  | accept =>
    -- the connection is closed at once, and never announced
    have hl : s.nextLink = .dropped := by simp [nextLink, hw, hh]
    simp only [step, accept_eq, hl]
    exact ⟨rfl, hh, fun _ h => nomatch h⟩
  | call p method args =>
    -- every branch left answers with a failure of its own and leaves the target alone
    have hfail : ∀ (e : Error) (a : Result Json), some (.error e) = some a →
        ∃ e, a = .error e :=
      fun _ _ h => ⟨_, (Option.some.inj h).symm⟩
    simp only [step]
    unfold call
    split
    · exact ⟨rfl, hh, hfail _⟩
    split
    · exact ⟨rfl, hh, hfail _⟩
    · exact ⟨rfl, hh, hfail _⟩
    · exact ⟨rfl, hh, hfail _⟩
  | hangUp conn =>
    simp only [step]
    unfold hangUp
    split
    · rw [if_pos hh]
      exact ⟨rfl, hh, fun _ h => nomatch h⟩
    · exact ⟨rfl, hh, fun _ h => nomatch h⟩

/-- **After a panic under serial workers the dispatcher hears nothing more**: whatever the
clients do, the server keeps its target, and every call fails. -/
theorem halted_run (d : Dispatcher σ) :
    ∀ (ops : List Op) {s : Server σ}, s.workers = .serial → s.halted = true →
      (s.run d ops).2.target = s.target ∧ ∀ a ∈ (s.run d ops).1, ∃ e, a = .error e
  | [], _, _, _ => ⟨rfl, fun _ h => nomatch h⟩
  | op :: ops, s, hw, hh => by
    obtain ⟨ht, hh', hans⟩ := halted_step d hw hh op
    have hw' : (s.step d op).2.workers = .serial := (step_workers d s op).trans hw
    obtain ⟨ht', hans'⟩ := halted_run d ops hw' hh'
    refine ⟨ht'.trans ht, fun a ha => ?_⟩
    rw [run, List.mem_append] at ha
    rcases ha with ha | ha
    · exact hans a (Option.mem_toList.1 ha)
    · exact hans' a ha

/-! ## Pooled and serial workers -/

theorem serial_step {d : Dispatcher σ} (hcalm : d.Calm) {s : Server σ}
    (hw : s.workers = .serial) (hrun : s.halted = false) (hnr : ∀ e ∈ s.links, e.2 ≠ .refused)
    (op : Op) :
    (s.step d op).2.halted = false ∧ ∀ e ∈ (s.step d op).2.links, e.2 ≠ .refused := by
  cases op with
  | accept =>
    have hl : s.nextLink = .served := by simp [nextLink, hw, hrun]
    simp only [step, accept_eq, hl]
    refine ⟨hrun, fun e he => ?_⟩
    rcases List.mem_append.1 he with he | he
    · exact hnr e he
    · rw [List.mem_singleton.1 he]
      simp
  | call p method args =>
    simp only [step]
    unfold call
    split
    · exact ⟨hrun, hnr⟩
    split
    · next hl =>
      rw [if_neg (by simp [hrun])]
      dsimp only
      rw [hcalm p.connection _ s.target, hw]
      exact ⟨hrun, hnr⟩
    · next hl => exact absurd rfl (hnr _ (mem_of_link? hl))
    · exact ⟨hrun, hnr⟩
  | hangUp conn =>
    simp only [step]
    have hfilter : ∀ e ∈ s.links.filter (·.1 != conn), e.2 ≠ .refused :=
      fun e he => hnr e (List.mem_filter.1 he).1
    unfold hangUp
    split
    · rw [if_neg (by simp [hrun]), hw]
      exact ⟨hrun, hfilter⟩
    · exact ⟨hrun, hfilter⟩

/-- Two servers alike but for their workers and the numbers of their tasks: the same
dispatcher state, connections and links, and both running or both halted. -/
structure Alike (q s : Server σ) : Prop where
  target : q.target = s.target
  nextConnection : q.nextConnection = s.nextConnection
  links : q.links = s.links
  halted : q.halted = s.halted

theorem Alike.link? {q s : Server σ} (h : Alike q s) (n : Nat) : q.link? n = s.link? n := by
  unfold Server.link?
  rw [h.links]

/-- Along the run of `ops` from `s`, every connection opened finds a worker: none is refused
for want of one. -/
def NeverFull (d : Dispatcher σ) : Server σ → List Op → Prop
  | _, [] => True
  | s, op :: ops => (op.isAccept = true → s.nextLink = .served) ∧ NeverFull d (s.step d op).2 ops

theorem call_alike {d : Dispatcher σ} (hcalm : d.Calm) {q s : Server σ} (h : Alike q s)
    {limit : Nat} (hq : q.workers = .pool limit) (hw : s.workers = .serial)
    (hrun : s.halted = false) (hnr : ∀ e ∈ s.links, e.2 ≠ .refused) (p : Proxy)
    (method : String) (args : Json) :
    (q.call d p method args).1 = (s.call d p method args).1 ∧
      Alike (q.call d p method args).2.2 (s.call d p method args).2.2 := by
  unfold call
  by_cases hb : p.broken = true
  · rw [if_pos hb, if_pos hb]
    exact ⟨rfl, h⟩
  rw [if_neg hb, if_neg hb, h.link?]
  cases hl : s.link? p.connection with
  | none => exact ⟨rfl, h⟩
  | some l =>
    cases l with
    | served =>
      -- both reach the dispatcher with one state, and it answers without a panic
      simp only [h.halted, hrun, Bool.false_eq_true, if_false, h.target,
        hcalm p.connection _ s.target, hq, hw, true_and]
      exact ⟨rfl, h.nextConnection, h.links, rfl⟩
    | refused => exact absurd rfl (hnr _ (mem_of_link? hl))
    | dropped => exact ⟨rfl, h⟩

theorem hangUp_alike (d : Dispatcher σ) {q s : Server σ} (h : Alike q s) (conn : Nat) :
    Alike (q.hangUp d conn) (s.hangUp d conn) := by
  have hdrop : Alike { q with links := q.links.filter (·.1 != conn) }
      { s with links := s.links.filter (·.1 != conn) } :=
    ⟨h.target, h.nextConnection, by rw [h.links], h.halted⟩
  have hnews : Alike
      { q with links := q.links.filter (·.1 != conn), target := d.disconnected conn q.target }
      { s with links := s.links.filter (·.1 != conn), target := d.disconnected conn s.target } :=
    ⟨by rw [h.target], h.nextConnection, by rw [h.links], h.halted⟩
  unfold hangUp
  dsimp only
  rw [h.link?]
  cases s.link? conn with
  | none => exact hdrop
  | some l =>
    cases l with
    | served =>
      by_cases hsh : s.halted = true
      · rw [if_pos hsh, if_pos (h.halted.trans hsh)]
        exact hdrop
      · rw [if_neg hsh, if_neg (by rw [h.halted]; exact hsh)]
        cases q.workers <;> cases s.workers <;>
          exact ⟨hnews.target, hnews.nextConnection, hnews.links, hnews.halted⟩
    | refused => exact hdrop
    | dropped => exact hdrop

/-- **Pooled workers with a worker free and the serial thread serve a step alike** when the
dispatcher does not panic: the same answer, and servers still alike. -/
theorem step_alike {d : Dispatcher σ} (hcalm : d.Calm) {q s : Server σ} (h : Alike q s)
    {limit : Nat} (hq : q.workers = .pool limit) (hw : s.workers = .serial)
    (hrun : s.halted = false) (hnr : ∀ e ∈ s.links, e.2 ≠ .refused) (op : Op)
    (hroom : op.isAccept = true → q.nextLink = .served) :
    (q.step d op).1 = (s.step d op).1 ∧ Alike (q.step d op).2 (s.step d op).2 := by
  cases op with
  | accept =>
    -- both serve the connection: the pool has a worker free, the thread is running
    have hserial : s.nextLink = .served := by simp [nextLink, hw, hrun]
    refine ⟨rfl, ?_⟩
    simp only [step, accept_eq, hroom rfl, hserial, if_true]
    exact ⟨by rw [h.target, h.nextConnection], by rw [h.nextConnection],
      by rw [h.links, h.nextConnection], h.halted⟩
  | call p method args =>
    obtain ⟨hans, halike⟩ := call_alike hcalm h hq hw hrun hnr p method args
    exact ⟨congrArg some hans, halike⟩
  | hangUp conn => exact ⟨rfl, hangUp_alike d h conn⟩

/-- **Pooled workers that never run out and the serial thread serve a run alike** when the
dispatcher does not panic: the same answers, and servers alike at the end. The induction runs
the two servers side by side, one step at a time. -/
theorem run_alike {d : Dispatcher σ} (hcalm : d.Calm) {limit : Nat} :
    ∀ (ops : List Op) {q s : Server σ}, Alike q s → q.workers = .pool limit →
      s.workers = .serial → s.halted = false → (∀ e ∈ s.links, e.2 ≠ .refused) →
      NeverFull d q ops →
      (q.run d ops).1 = (s.run d ops).1 ∧ Alike (q.run d ops).2 (s.run d ops).2
  | [], _, _, h, _, _, _, _, _ => ⟨rfl, h⟩
  | op :: ops, q, s, h, hq, hw, hrun, hnr, hfull => by
    obtain ⟨hroom, hfull'⟩ := hfull
    obtain ⟨hans, h'⟩ := step_alike hcalm h hq hw hrun hnr op hroom
    obtain ⟨hrun', hnr'⟩ := serial_step hcalm hw hrun hnr op
    obtain ⟨hans', h''⟩ := run_alike hcalm ops h' ((step_workers d q op).trans hq)
      ((step_workers d s op).trans hw) hrun' hnr' hfull'
    refine ⟨?_, h''⟩
    simp only [run]
    rw [hans, hans']

end Server

/-! ## Serving connections -/

open Server

/-- **Both kinds of workers serve every connection as the dispatcher contract says.** From a
server that has accepted nothing, along any run of connections opened, calls made and
connections closed, pooled workers keep the server sound (`Sound`: connection numbers handed
out once, each connection heard from its announcement through its calls to its closing, and
nothing after) and answer a call over a served connection with the reply to the dispatcher's
result, a panic with an internal failure that names the call's task. When no call panics and
no connection finds the pool full, the serial thread gives the same answers, leaves the server
alike, and keeps it sound as well. -/
theorem connections_served_alike {σ : Type} (d : Dispatcher σ) (t : σ) (limit : Nat)
    (ops : List Op) :
    let serial := (started t .serial).run d.recording ops
    let pooled := (started t (.pool limit)).run d.recording ops
    pooled.2.Sound ∧
      (∀ (p : Proxy) (method : String) (args : Json), p.broken = false →
        pooled.2.link? p.connection = some .served →
        let c : Call := { object := p.address.object, method, args }
        let r := (d.dispatch p.connection c pooled.2.target.1).1
        (pooled.2.call d.recording p method args).1 =
            (Reply.ofResult ((panicOf? r).elim r fun m =>
              .error (panicFailure pooled.2.nextTask m))).toResult ∧
          (pooled.2.call d.recording p method args).2.2.target.2 =
            pooled.2.target.2 ++ [.called p.connection c r]) ∧
      (d.Calm → NeverFull d.recording (started t (.pool limit)) ops →
        pooled.1 = serial.1 ∧ Alike pooled.2 serial.2 ∧ serial.2.Sound) := by
  intro serial pooled
  have hw : pooled.2.workers = .pool limit := run_workers d.recording ops (started t (.pool limit))
  have hs : pooled.2.Sound := sound_run ops (sound_started t (.pool limit)) fun h => by cases h
  refine ⟨hs, fun p method args hp hl => ?_, fun hcalm hfull => ?_⟩
  · obtain ⟨hlog, hanswer⟩ :=
      call_served hs.running hp hl (fun h => by rw [hw] at h; cases h) method args
    exact ⟨hanswer, hlog⟩
  · -- the fresh servers are alike, and neither has refused a connection
    obtain ⟨hans, halike⟩ := run_alike (q := started t (.pool limit)) (s := started t .serial)
      hcalm.recording ops ⟨rfl, rfl, rfl, rfl⟩ rfl rfl rfl (fun _ h => nomatch h) hfull
    exact ⟨hans, halike, sound_run ops (sound_started t .serial) fun _ => hcalm⟩

/-- A dispatcher that answers every call with its method. -/
def echoDispatcher : Dispatcher Unit where
  dispatch _ c u := (.ok (.string c.method), u)
  disconnected _ u := u

/-- A pool of one worker serves a connection, takes the worker back when it closes and serves
the next connection with it, as the serial thread serves both. -/
theorem freed_worker_serves_next :
    let ops := [Op.accept, .hangUp 1, .accept]
    let serial := (started () .serial).run echoDispatcher.recording ops
    let pooled := (started () (.pool 1)).run echoDispatcher.recording ops
    let proxy : Proxy := { address := ⟨"svc", .unix "lab.sock"⟩, connection := 2 }
    (pooled.2.call echoDispatcher.recording proxy "echo" .null).1 = .ok (.string "echo") ∧
      pooled.1 = serial.1 ∧ Alike pooled.2 serial.2 ∧ serial.2.Sound :=
  have hcalm : echoDispatcher.Calm := fun _ _ _ => rfl
  have hfull : NeverFull echoDispatcher.recording (started () (.pool 1))
      [Op.accept, .hangUp 1, .accept] :=
    ⟨fun _ => by decide, fun h => absurd h (by decide), fun _ => by decide, trivial⟩
  have h := connections_served_alike echoDispatcher () 1 [Op.accept, .hangUp 1, .accept]
  ⟨(h.2.1 _ "echo" .null rfl (by decide)).1, h.2.2 hcalm hfull⟩

/-- A dispatcher whose calls of `boom` panic and whose other calls answer their method. -/
def boomDispatcher : Dispatcher Unit where
  dispatch _ c u :=
    (if c.method = "boom" then .error (.panicked "boom") else .ok (.string c.method), u)
  disconnected _ u := u

/-- **A panic under serial workers strands the connections.** A first connection calls `boom`,
which panics, and closes; a second connection opens and calls `echo`. Serial workers give the
panicking call no answer and the later call only a broken pipe, and their dispatcher never hears
the first connection close nor the second one open; pooled workers answer the panic with an
internal failure naming the call's task, the third, and serve the second connection in full. -/
theorem serial_panic_strands_connections :
    let proxy (n : Nat) : Proxy := { address := ⟨"svc", .unix "lab.sock"⟩, connection := n }
    let ops := [Op.accept, .call (proxy 1) "boom" .null, .hangUp 1, .accept,
      .call (proxy 2) "echo" .null]
    let serial := (started () .serial).run boomDispatcher.recording ops
    let pooled := (started () (.pool 2)).run boomDispatcher.recording ops
    serial.1 = [.error closedBeforeReply, .error (.io "Broken pipe (os error 32)")] ∧
      serial.2.target.2 =
        [.connected 1, .called 1 ⟨"svc", "boom", .null⟩ (.error (.panicked "boom"))] ∧
      pooled.1 =
        [(Reply.ofResult (.error (panicFailure 3 "boom"))).toResult, .ok (.string "echo")] ∧
      pooled.2.target.2 =
        [.connected 1, .called 1 ⟨"svc", "boom", .null⟩ (.error (.panicked "boom")),
          .disconnected 1, .connected 2,
          .called 2 ⟨"svc", "echo", .null⟩ (.ok (.string "echo"))] :=
  ⟨rfl, rfl, rfl, rfl⟩

end LabFleet.Wire

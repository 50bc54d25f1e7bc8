import LabFleet.Proofs.Checks
import LabFleet.Proofs.Daemon.Exclusion

/-!
Which instance answers a call.

A daemon host numbers every arithmetic instance it makes from one counter, and `whoami` answers
with the number of the instance that ran the call. A hosted service lives as one shared
instance, as one instance per connection (made on the connection's first call, dropped when the
connection goes away or the host closes), or as a fresh instance per call. This module follows
a host through any run of calls, disconnections and closes.

* `StepIds`: what one step does to the numbered instances. It keeps every one at its slot
  unless it drops the slot; a slot it fills anew gets the counter's value, and the counter
  grows past it. `apply_stepIds` proves this of every step.
* `Numbered`: the numbered instances carry distinct numbers below the counter, and every
  service lives as its binding says. The host as built is numbered (`numbered_build`), and so
  is every host a run reaches (`numbered_applyAll`).
* `idAt_applyAll_of_lt` and `idAt_applyAll_of_keeps`: over a stretch of a run, an instance
  numbered below the counter at its start was kept at its slot all along, and a slot no step
  drops keeps its instance.
* `whoami_answered`: a successful `whoami` reply carries the number of the instance at the slot
  the service's mode names, or, for a per-call service, the counter's value.
  `same_number_same_slot`: two replies with one number came from one slot, kept in between.
* `whoami_identity`: of two successful `whoami` replies, those of a singleton service are
  equal; those of a per-session service are equal exactly when one connection made both calls
  and neither it went away nor the host closed in between; those of a per-call service differ;
  and those of two services differ.
-/

namespace LabFleet.Daemon

open Service Config

set_option autoImplicit false

/-- The number of an arithmetic instance; the item-list service has none. -/
def numberOf : Instance → Option Nat
  | .sample id => some id
  | .selective _ => none

theorem lt_numberAfter {inst : Instance} {x : Nat} (hx : numberOf inst = some x) (next : Nat) :
    next < inst.numberAfter next := by
  cases inst with
  | sample id => exact Nat.lt_succ_self next
  | selective items => cases hx

@[simp] theorem numberOf_call (inst : Instance) (m : String) (args : Args) :
    numberOf (inst.call m args).2 = numberOf inst := by
  cases inst <;> rfl

/-- Where a host keeps a live instance: as a service's shared instance, or as a connection's
session instance of a service. -/
inductive Slot where
  | shared (service : String)
  | session (conn : ConnectionId) (service : String)
  deriving DecidableEq

/-- The service whose instance a slot holds. -/
def Slot.service : Slot → String
  | .shared s => s
  | .session _ s => s

/-- The form a hosted service's instances take, as the instance mode it serves. -/
def Instances.mode : Instances → InstanceMode
  | .shared _ => .singleton
  | .perSession => .perSession
  | .perCall => .perCall

/-- The instance a hosted service shares among all its callers, if it has one. -/
def Hosted.sharedInst (hosted : Hosted) : Option Instance :=
  match hosted.instances with
  | .shared inst => some inst
  | _ => none

/-- The shared instance a map of hosted services keeps for a service. -/
def sharedInstance (services : NameMap Hosted) (s : String) : Option Instance :=
  (services.find? s).bind Hosted.sharedInst

theorem sharedInstance_insert (services : NameMap Hosted) (k s : String) (hosted : Hosted) :
    sharedInstance (services.insert k hosted) s =
      if k = s then hosted.sharedInst else sharedInstance services s := by
  simp only [sharedInstance, NameMap.find?_insert]
  split <;> rfl

namespace Host

/-- The instance a host keeps at a slot. -/
def instanceAt (h : Host) : Slot → Option Instance
  | .shared s => sharedInstance h.services s
  | .session c s => (h.sessionOf c).find? s

/-- The number of the instance a host keeps at a slot. -/
def idAt (h : Host) (σ : Slot) : Option Nat := (h.instanceAt σ).bind numberOf

variable {h : Host} {c : ConnectionId}

theorem find?_filter_conn {α : Type} (l : List (ConnectionId × α)) (c c' : ConnectionId) :
    (l.filter (·.1 != c)).find? (·.1 == c') = if c = c' then none else l.find? (·.1 == c') := by
  induction l with
  | nil => simp
  | cons e l ih =>
    by_cases h1 : e.1 = c
    · -- the dropped connection's entry goes
      have hf : (e :: l).filter (·.1 != c) = l.filter (·.1 != c) := by simp [h1]
      rw [hf, ih]
      by_cases hc : c = c'
      · simp [hc]
      · simp [hc, h1]
    · have hf : (e :: l).filter (·.1 != c) = e :: l.filter (·.1 != c) := by simp [h1]
      rw [hf, List.find?_cons, List.find?_cons, ih]
      by_cases h2 : e.1 = c'
      · have hc : c ≠ c' := fun hc => h1 (h2.trans hc.symm)
        simp [h2, hc]
      · have hb : (e.1 == c') = false := by simpa using h2
        rw [hb]

theorem sessionOf_setSession (m : NameMap Instance) (c' : ConnectionId) :
    (h.setSession c m).sessionOf c' = if c = c' then m else h.sessionOf c' := by
  unfold sessionOf setSession
  by_cases hc : c = c'
  · simp [hc]
  · rw [List.find?_cons_of_neg (by simpa using hc), find?_filter_conn, if_neg hc, if_neg hc]

theorem sessionOf_disconnected (c' : ConnectionId) :
    (h.disconnected c).sessionOf c' = if c = c' then [] else h.sessionOf c' := by
  unfold sessionOf disconnected
  rw [find?_filter_conn]
  by_cases hc : c = c' <;> simp [hc]

@[simp] theorem instanceAt_counter (n : Nat) (σ : Slot) :
    ({ h with nextInstance := n } : Host).instanceAt σ = h.instanceAt σ := by
  cases σ <;> rfl

@[simp] theorem instanceAt_locks (t : Option LockTable) (σ : Slot) :
    ({ h with locks := t } : Host).instanceAt σ = h.instanceAt σ := by
  cases σ <;> rfl

theorem instanceAt_storeShared {s : String} {hosted : Hosted} (inst : Instance) (σ : Slot) :
    ({ h with services := h.services.insert s { hosted with instances := .shared inst } } :
      Host).instanceAt σ = if σ = .shared s then some inst else h.instanceAt σ := by
  cases σ with
  | shared s' =>
    simp only [instanceAt, sharedInstance_insert, Slot.shared.injEq]
    by_cases hs : s = s'
    · simp [hs, Hosted.sharedInst]
    · simp [hs, Ne.symm hs]
  | session c' s' => rfl

theorem instanceAt_setSession (m : NameMap Instance) (σ : Slot) :
    (h.setSession c m).instanceAt σ = match σ with
      | .shared s => h.instanceAt (.shared s)
      | .session c' s => if c = c' then m.find? s else h.instanceAt (.session c' s) := by
  cases σ with
  | shared s => rfl
  | session c' s =>
    simp only [instanceAt, sessionOf_setSession]
    split <;> rfl

theorem instanceAt_disconnected (σ : Slot) :
    (h.disconnected c).instanceAt σ = match σ with
      | .shared s => h.instanceAt (.shared s)
      | .session c' s => if c = c' then none else h.instanceAt (.session c' s) := by
  cases σ with
  | shared s => rfl
  | session c' s =>
    simp only [instanceAt, sessionOf_disconnected]
    split <;> rfl

theorem instanceAt_close (σ : Slot) :
    h.close.instanceAt σ = match σ with
      | .shared s => h.instanceAt (.shared s)
      | .session _ _ => none := by
  cases σ <;> rfl

theorem idAt_setSession (m : NameMap Instance) (σ : Slot) :
    (h.setSession c m).idAt σ = match σ with
      | .shared s => h.idAt (.shared s)
      | .session c' s => if c = c' then (m.find? s).bind numberOf else h.idAt (.session c' s) := by
  cases σ with
  | shared s => rfl
  | session c' s =>
    simp only [idAt, instanceAt_setSession]
    split <;> rfl

/-! ## What a step does to the numbered instances -/

end Host

/-- A step of a host's run: a call from a connection, a connection going away, or the host
closing its instances. -/
inductive HostStep where
  | call (conn : ConnectionId) (now : Timestamp) (call : Wire.Call)
  | disconnect (conn : ConnectionId)
  | close

/-- The host after a step. -/
def Host.apply (h : Host) : HostStep → Host
  | .call conn now call => (h.dispatch conn now call).2
  | .disconnect conn => h.disconnected conn
  | .close => h.close

/-- Whether a step drops the instance at a slot: a connection going away drops its session
instances, and closing drops all session instances. -/
def HostStep.Drops : HostStep → Slot → Prop
  | .disconnect c, .session c' _ => c = c'
  | .close, .session _ _ => True
  | _, _ => False

theorem HostStep.not_drops_shared (e : HostStep) (s : String) : ¬ e.Drops (.shared s) := by
  cases e <;> simp [Drops]

theorem HostStep.not_drops_session (e : HostStep) (c : ConnectionId) (s : String) :
    ¬ e.Drops (.session c s) ↔ e ≠ .disconnect c ∧ e ≠ .close := by
  cases e <;> simp [Drops]

/-- The slot a step may fill with a new numbered instance: the caller's session slot of a
per-session service. -/
def Host.freshSlot (h : Host) : HostStep → Option Slot
  | .call c _ w =>
    match h.services.find? w.object with
    | some ⟨_, _, .perSession⟩ => some (.session c w.object)
    | _ => none
  | _ => none

/-- How a host keeps a service: the mode its binding asks for and the form its instances take. -/
def Host.lifeOf (h : Host) (s : String) : Option (InstanceMode × InstanceMode) :=
  (h.services.find? s).map fun hosted => (hosted.binding.instanceMode, hosted.instances.mode)

namespace Host

variable {h : Host} {c : ConnectionId}

/-- What a step from `h` to `h'` does to the numbered instances: the counter does not go back;
an instance at a slot the step does not drop stays there; a dropped slot is empty; and a slot
holding a numbered instance afterwards held it before, or else is the step's `fresh` slot, was
empty, and got the counter's value, which the counter then passed. -/
structure StepIds (h h' : Host) (drops : Slot → Prop) (fresh : Option Slot) : Prop where
  counter : h.nextInstance ≤ h'.nextInstance
  kept : ∀ σ (x : Nat), ¬ drops σ → h.idAt σ = some x → h'.idAt σ = some x
  dropped : ∀ σ, drops σ → h'.idAt σ = none
  source : ∀ σ (x : Nat), h'.idAt σ = some x → h.idAt σ = some x ∨
    (fresh = some σ ∧ h.idAt σ = none ∧ x = h.nextInstance ∧ h.nextInstance < h'.nextInstance)

namespace StepIds

variable {fresh : Option Slot}

theorem of_drops {h' : Host} {drops : Slot → Prop}
    (hkeep : ∀ σ, ¬ drops σ → h'.idAt σ = h.idAt σ) (hdrop : ∀ σ, drops σ → h'.idAt σ = none)
    (hcount : h.nextInstance ≤ h'.nextInstance) : StepIds h h' drops fresh where
  counter := hcount
  kept σ _ hσ hx := (hkeep σ hσ).trans hx
  dropped := hdrop
  source σ _ hx := by
    by_cases hσ : drops σ
    · rw [hdrop σ hσ] at hx
      cases hx
    · exact .inl ((hkeep σ hσ).symm.trans hx)

theorem of_same {h' : Host} (hids : ∀ σ, h'.idAt σ = h.idAt σ)
    (hcount : h.nextInstance ≤ h'.nextInstance) : StepIds h h' (fun _ => False) fresh :=
  of_drops (fun σ _ => hids σ) (fun _ hd => hd.elim) hcount

theorem storeSession {h'' : Host} {s : String} {inst : Instance}
    (hids : ∀ σ, h''.idAt σ = h.idAt σ) (hcount : h.nextInstance ≤ h''.nextInstance)
    (hnum : numberOf inst = h.idAt (.session c s) ∨ (h.idAt (.session c s) = none ∧
      ∀ x, numberOf inst = some x → x = h.nextInstance ∧ h.nextInstance < h''.nextInstance)) :
    StepIds h (h''.setSession c ((h.sessionOf c).insert s inst)) (fun _ => False)
      (some (.session c s)) := by
  -- the number the new host shows at each slot
  have hat : ∀ σ, (h''.setSession c ((h.sessionOf c).insert s inst)).idAt σ =
      if σ = .session c s then numberOf inst else h.idAt σ := by
    intro σ
    rw [idAt_setSession]
    cases σ with
    | shared s' => simp [hids]
    | session c' s' =>
      by_cases hc : c = c'
      · subst hc
        by_cases hs : s = s'
        · subst hs
          simp
        · simp only [NameMap.find?_insert, if_neg hs, Slot.session.injEq, true_and,
            Ne.symm hs, if_false]
          rfl
      · simp [hc, hids, Ne.symm hc]
  refine ⟨hcount, fun σ _ _ hx => ?_, fun _ hd => hd.elim, fun σ x hx => ?_⟩
  · rw [hat]
    split
    · next hσ =>
      subst hσ
      rcases hnum with hn | ⟨hnone, -⟩
      · exact hn.trans hx
      · rw [hnone] at hx
        cases hx
    · exact hx
  · rw [hat] at hx
    split at hx
    · next hσ =>
      subst hσ
      rcases hnum with hn | ⟨hnone, hfresh⟩
      · exact .inl (hn.symm.trans hx)
      · obtain ⟨rfl, hlt⟩ := hfresh x hx
        exact .inr ⟨rfl, hnone, rfl, hlt⟩
    · exact .inl hx

end StepIds

theorem numberOf_construct {r : String} {p : Parameters} {id x : Nat} {inst : Instance}
    (hc : construct r p id = .ok inst) (hx : numberOf inst = some x) : x = id := by
  unfold construct at hc
  split at hc
  · cases hc
    cases hx
    rfl
  · split at hc
    · simp only [bind, Except.bind] at hc
      split at hc
      · cases hc
      · cases hc
        cases hx
    · cases hc

theorem numberOf_fresh {hosted : Hosted} {inst : Instance} {h' : Host}
    (hf : h.fresh hosted = .ok (inst, h')) {x : Nat} (hx : numberOf inst = some x) :
    x = h.nextInstance := by
  simp only [fresh] at hf
  cases hc : construct hosted.binding.implementation hosted.binding.parameters h.nextInstance with
  | error e => simp [hc, bind, Except.bind] at hf
  | ok i =>
    simp only [hc, bind, Except.bind, pure, Except.pure, Except.ok.injEq, Prod.mk.injEq] at hf
    obtain ⟨rfl, -⟩ := hf
    exact numberOf_construct hc hx

theorem runOperation_stepIds {s m : String} {hosted : Hosted} {args : Args} {fresh : Option Slot}
    (hs : h.services.find? s = some hosted)
    (hfresh : hosted.instances = .perSession → fresh = some (.session c s)) :
    StepIds h (h.runOperation c s hosted m args).2 (fun _ => False) fresh := by
  unfold runOperation
  split
  · -- a shared instance goes back with its number
    rename_i inst hinst
    refine StepIds.of_same (fun σ => ?_) (Nat.le_refl _)
    rw [idAt, instanceAt_storeShared]
    split
    · next hσ =>
      subst hσ
      simp [idAt, instanceAt, sharedInstance, hs, Hosted.sharedInst, hinst]
    · rfl
  · split
    · exact StepIds.of_same (fun _ => rfl) (Nat.le_refl _)
    · rename_i inst h' hf
      rw [fresh_state hf]
      exact StepIds.of_same (fun σ => by simp [idAt]) (inst.le_numberAfter _)
  · rename_i hi
    rw [hfresh hi]
    dsimp only
    split
    · exact StepIds.of_same (fun _ => rfl) (Nat.le_refl _)
    · rename_i inst h' hgot
      split at hgot
      · -- the caller's instance was there
        next found hfound =>
        cases hgot
        refine StepIds.storeSession (fun _ => rfl) (Nat.le_refl _) (.inl ?_)
        simp [idAt, instanceAt, hfound]
      · -- an instance is made for the caller, numbered by the counter
        next hnone =>
        obtain rfl := fresh_state hgot
        refine StepIds.storeSession (fun σ => by simp [idAt]) (inst.le_numberAfter _)
          (.inr ⟨by simp [idAt, instanceAt, hnone], fun x hx => ?_⟩)
        rw [numberOf_call] at hx
        exact ⟨numberOf_fresh hgot hx, lt_numberAfter hx _⟩

theorem runOperation_lifeOf {s m : String} {hosted : Hosted} {args : Args}
    (hs : h.services.find? s = some hosted) :
    (h.runOperation c s hosted m args).2.lifeOf = h.lifeOf := by
  funext s'
  unfold runOperation
  split
  · -- the shared instance stored back keeps its form
    rename_i inst hinst
    simp only [lifeOf, NameMap.find?_insert]
    split
    · next he =>
      subst he
      simp [hs, hinst, Instances.mode]
    · rfl
  · split
    · rfl
    · rename_i inst h' hf
      rw [fresh_state hf]
      rfl
  · dsimp only
    split
    · rfl
    · rename_i inst h' hgot
      split at hgot
      · cases hgot
        rfl
      · rw [fresh_state hgot]
        rfl

/-- **What a call does to the host.** Nothing; or it changes only the lock table; or it runs
an operation of the called service. -/
theorem dispatch_cases (now : Timestamp) (call : Wire.Call) :
    (h.dispatch c now call).2 = h ∨ (∃ t, (h.dispatch c now call).2 = { h with locks := t }) ∨
    ∃ hosted, h.services.find? call.object = some hosted ∧
      (h.dispatch c now call).2 = (h.runOperation c call.object hosted call.method ⟨call.args⟩).2 := by
  by_cases hd : call.object = daemonObject
  · obtain ⟨locks, he⟩ := callDaemon_frame h now call
    rw [dispatch_daemon hd, he]
    exact .inr (.inl ⟨locks, rfl⟩)
  · rw [dispatch_service hd]
    unfold callService
    dsimp only
    split
    · exact .inl rfl
    · rename_i hosted hs
      split
      · exact .inl rfl
      · split
        · exact .inr (.inl ⟨_, rfl⟩)
        · exact .inl rfl
      · split
        · exact .inr (.inl ⟨_, rfl⟩)
        · exact .inl rfl
      · exact .inl rfl
      · split
        · exact .inl rfl
        · split
          · exact .inl rfl
          · exact .inr (.inr ⟨hosted, hs, rfl⟩)

theorem dispatch_stepIds (now : Timestamp) (call : Wire.Call) :
    StepIds h (h.dispatch c now call).2 (fun _ => False) (h.freshSlot (.call c now call)) := by
  rcases dispatch_cases (h := h) (c := c) now call with he | ⟨t, he⟩ | ⟨hosted, hs, he⟩ <;> rw [he]
  · exact StepIds.of_same (fun _ => rfl) (Nat.le_refl _)
  · exact StepIds.of_same (fun σ => by simp [idAt]) (Nat.le_refl _)
  · refine runOperation_stepIds hs fun hi => ?_
    obtain ⟨b, ops, insts⟩ := hosted
    simp only at hi
    subst hi
    simp [freshSlot, hs]

theorem dispatch_lifeOf (now : Timestamp) (call : Wire.Call) :
    (h.dispatch c now call).2.lifeOf = h.lifeOf := by
  rcases dispatch_cases (h := h) (c := c) now call with he | ⟨t, he⟩ | ⟨hosted, hs, he⟩ <;> rw [he]
  · rfl
  · exact runOperation_lifeOf hs

theorem disconnected_stepIds :
    StepIds h (h.disconnected c) (HostStep.Drops (.disconnect c)) none := by
  refine StepIds.of_drops (fun σ hσ => ?_) (fun σ hσ => ?_) (Nat.le_refl _)
  · cases σ with
    | shared s => rfl
    | session c' s =>
      have hc : c ≠ c' := hσ
      simp only [idAt, instanceAt_disconnected, if_neg hc]
  · cases σ with
    | shared s => exact hσ.elim
    | session c' s =>
      have hc : c = c' := hσ
      simp [idAt, instanceAt_disconnected, hc]

theorem close_stepIds : StepIds h h.close (HostStep.Drops .close) none := by
  refine StepIds.of_drops (fun σ hσ => ?_) (fun σ hσ => ?_) (Nat.le_refl _)
  · cases σ with
    | shared s => rfl
    | session c' s => exact (hσ trivial).elim
  · cases σ with
    | shared s => exact hσ.elim
    | session c' s => rfl

/-- **What a step does to the numbered instances.** -/
theorem apply_stepIds : ∀ e : HostStep, StepIds h (h.apply e) e.Drops (h.freshSlot e)
  | .call _ now call => dispatch_stepIds now call
  | .disconnect _ => disconnected_stepIds
  | .close => close_stepIds

theorem apply_lifeOf : ∀ e : HostStep, (h.apply e).lifeOf = h.lifeOf
  | .call _ now call => dispatch_lifeOf now call
  | .disconnect _ => rfl
  | .close => rfl

/-! ## Runs -/

/-- The bookkeeping every host of a run keeps: the numbered instances carry distinct numbers
below the counter, and every service's instances live as its binding says. -/
structure Numbered (h : Host) : Prop where
  below : ∀ σ (x : Nat), h.idAt σ = some x → x < h.nextInstance
  distinct : ∀ σ σ' (x : Nat), h.idAt σ = some x → h.idAt σ' = some x → σ = σ'
  lives : ∀ s hosted, h.services.find? s = some hosted →
    hosted.instances.mode = hosted.binding.instanceMode

theorem Numbered.step {h' : Host} {drops : Slot → Prop} {fresh : Option Slot} (hN : Numbered h)
    (hs : StepIds h h' drops fresh) (hl : h'.lifeOf = h.lifeOf) : Numbered h' where
  below σ x hx := by
    rcases hs.source σ x hx with hold | ⟨-, -, hnext, hlt⟩
    · exact Nat.lt_of_lt_of_le (hN.below σ x hold) hs.counter
    · omega
  distinct σ σ' x hx hx' := by
    rcases hs.source σ x hx with hold | ⟨hf, -, hnext, -⟩ <;>
      rcases hs.source σ' x hx' with hold' | ⟨hf', -, hnext', -⟩
    · exact hN.distinct σ σ' x hold hold'
    · exact absurd hnext' (Nat.ne_of_lt (hN.below σ x hold))
    · exact absurd hnext (Nat.ne_of_lt (hN.below σ' x hold'))
    · exact Option.some.inj (hf.symm.trans hf')
  lives s hosted' hf := by
    -- the step keeps the pair of modes, and the old pair agreed
    have hpair := congrFun hl s
    simp only [lifeOf, hf, Option.map_some] at hpair
    obtain ⟨hosted, hf0, he⟩ := Option.map_eq_some_iff.1 hpair.symm
    simp only [Prod.mk.injEq] at he
    rw [← he.1, ← he.2]
    exact hN.lives s hosted hf0

/-- The host after a run of steps. -/
def applyAll (h : Host) (steps : List HostStep) : Host := steps.foldl Host.apply h

@[simp] theorem applyAll_nil : h.applyAll [] = h := rfl

@[simp] theorem applyAll_cons (e : HostStep) (steps : List HostStep) :
    h.applyAll (e :: steps) = (h.apply e).applyAll steps := rfl

theorem applyAll_append (l₁ l₂ : List HostStep) :
    h.applyAll (l₁ ++ l₂) = (h.applyAll l₁).applyAll l₂ :=
  List.foldl_append

theorem applyAll_concat (steps : List HostStep) (e : HostStep) :
    h.applyAll (steps ++ [e]) = (h.applyAll steps).apply e := by
  rw [applyAll_append]
  rfl

theorem numbered_applyAll (hN : Numbered h) (steps : List HostStep) :
    Numbered (h.applyAll steps) := by
  induction steps generalizing h with
  | nil => exact hN
  | cons e steps ih => exact ih (hN.step (apply_stepIds e) (apply_lifeOf e))

theorem lifeOf_applyAll (steps : List HostStep) : (h.applyAll steps).lifeOf = h.lifeOf := by
  induction steps generalizing h with
  | nil => rfl
  | cons e steps ih => rw [applyAll_cons, ih, apply_lifeOf]

theorem counter_le_applyAll (steps : List HostStep) :
    h.nextInstance ≤ (h.applyAll steps).nextInstance := by
  induction steps generalizing h with
  | nil => exact Nat.le_refl _
  | cons e steps ih => exact Nat.le_trans (apply_stepIds e).counter ih

theorem idAt_applyAll_of_keeps {σ : Slot} {x : Nat} (steps : List HostStep)
    (hk : ∀ e ∈ steps, ¬ e.Drops σ) (hx : h.idAt σ = some x) :
    (h.applyAll steps).idAt σ = some x := by
  induction steps generalizing h with
  | nil => exact hx
  | cons e steps ih =>
    exact ih (fun e' he' => hk e' (List.mem_cons_of_mem _ he'))
      ((apply_stepIds e).kept σ x (hk e List.mem_cons_self) hx)

theorem idAt_applyAll_of_lt {σ : Slot} {x : Nat} (steps : List HostStep)
    (hx : (h.applyAll steps).idAt σ = some x) (hlt : x < h.nextInstance) :
    h.idAt σ = some x ∧ ∀ e ∈ steps, ¬ e.Drops σ := by
  induction steps generalizing h with
  | nil => exact ⟨hx, fun _ he => nomatch he⟩
  | cons e steps ih =>
    have hs := apply_stepIds (h := h) e
    obtain ⟨hmid, hk⟩ := ih hx (Nat.lt_of_lt_of_le hlt hs.counter)
    refine ⟨?_, ?_⟩
    · rcases hs.source σ x hmid with hold | ⟨-, -, hnext, -⟩
      · exact hold
      · omega
    · intro e' he'
      rcases List.mem_cons.1 he' with rfl | hrest
      · intro hd
        rw [hs.dropped σ hd] at hmid
        cases hmid
      · exact hk e' hrest

/-! ## The host as built -/

/-- What building keeps of the services made so far and the number the next one gets: shared
instances numbered distinctly below it, and every service living as its binding says. -/
structure ServicesNumbered (services : NameMap Hosted) (next : Nat) : Prop where
  below : ∀ s (x : Nat), (sharedInstance services s).bind numberOf = some x → x < next
  distinct : ∀ s s' (x : Nat), (sharedInstance services s).bind numberOf = some x →
    (sharedInstance services s').bind numberOf = some x → s = s'
  lives : ∀ s hosted, services.find? s = some hosted →
    hosted.instances.mode = hosted.binding.instanceMode

theorem ServicesNumbered.nil (next : Nat) : ServicesNumbered [] next where
  below _ _ hx := by simp [sharedInstance] at hx
  distinct _ _ _ hx := by simp [sharedInstance] at hx
  lives _ _ hf := by simp at hf

theorem ServicesNumbered.insert {services : NameMap Hosted} {next : Nat}
    {next' : Nat} (hN : ServicesNumbered services next) (k : String) (hosted : Hosted)
    (hnum : ∀ x, hosted.sharedInst.bind numberOf = some x → x = next ∧ next < next')
    (hle : next ≤ next') (hlive : hosted.instances.mode = hosted.binding.instanceMode) :
    ServicesNumbered (services.insert k hosted) next' where
  below s x hx := by
    rw [sharedInstance_insert] at hx
    split at hx
    · obtain ⟨rfl, hlt⟩ := hnum x hx
      exact hlt
    · exact Nat.lt_of_lt_of_le (hN.below s x hx) hle
  distinct s s' x hx hx' := by
    rw [sharedInstance_insert] at hx hx'
    split at hx <;> split at hx'
    · next hs hs' => exact hs.symm.trans hs'
    · exact absurd (hnum x hx).1 (Nat.ne_of_lt (hN.below s' x hx'))
    · exact absurd (hnum x hx').1 (Nat.ne_of_lt (hN.below s x hx))
    · exact hN.distinct s s' x hx hx'
  lives s hosted' hf := by
    rw [NameMap.find?_insert] at hf
    split at hf
    · cases hf
      exact hlive
    · exact hN.lives s hosted' hf

theorem Numbered.of_services (hsess : h.sessions = [])
    (hN : ServicesNumbered h.services h.nextInstance) : Numbered h where
  below σ x hx := by
    cases σ with
    | shared s => exact hN.below s x hx
    | session c s => simp [idAt, instanceAt, sessionOf, hsess] at hx
  distinct σ σ' x hx hx' := by
    cases σ with
    | session c s => simp [idAt, instanceAt, sessionOf, hsess] at hx
    | shared s =>
      cases σ' with
      | session c' s' => simp [idAt, instanceAt, sessionOf, hsess] at hx'
      | shared s' => rw [hN.distinct s s' x hx hx']
  lives := hN.lives

/-- **The host as built is numbered.** Building numbers the services from 1 in order, each
with the counter's value, and starts the counter past them. -/
theorem numbered_build {name : String} {config : LabConfig} {now : Timestamp}
    (hb : build name config now = .ok h) : Numbered h := by
  simp only [build, bind, Except.bind] at hb
  split at hb
  · cases hb
  · split at hb
    · cases hb
    · next st hloop =>
      cases hb
      refine Numbered.of_services rfl ?_
      -- the loop invariant: the services made so far are numbered below the counter
      refine Checks.forIn_inv (fun st => ServicesNumbered st.1 st.2) (ServicesNumbered.nil 1)
        (fun x _ b st' hb hf => ?_) hloop
      split at hf
      · cases hf
      · next inst hc =>
        cases hf
        refine hb.insert x.1 _ (fun y hy => ?_) (inst.le_numberAfter _) ?_
        · cases hm : x.2.instanceMode <;>
            simp only [Hosted.sharedInst, hm, Option.bind_some, Option.bind_none] at hy
          · exact ⟨numberOf_construct hc hy, lt_numberAfter hy _⟩
          all_goals cases hy
        · cases x.2.instanceMode <;> simp [Instances.mode]

/-! ## Which instance answers `whoami` -/

/-- The slot of the instance that answers a call of service `s` from connection `c`, by the
mode the service lives in: its shared slot, the caller's session slot, or none for an
instance made for the call alone. -/
def answerSlot (c : ConnectionId) (s : String) : InstanceMode → Option Slot
  | .singleton => some (.shared s)
  | .perSession => some (.session c s)
  | .perCall => none

theorem answerSlot_eq_none {c : ConnectionId} {s : String} {m : InstanceMode} :
    answerSlot c s m = none ↔ m = .perCall := by
  cases m <;> simp [answerSlot]

/-- Where the number `x` of a reply given by the step from `h` to `h'` lives: at the answering
slot after the step, or, with no slot, it is the counter's value, which the step passed. -/
def Answered (h h' : Host) (x : Nat) : Option Slot → Prop
  | some σ => h'.idAt σ = some x
  | none => x = h.nextInstance ∧ h.nextInstance < h'.nextInstance

theorem whoami_call {inst : Instance} {args : Args} {v : Json}
    (hr : (inst.call "whoami" args).1 = .ok v) :
    ∃ x, numberOf inst = some x ∧ v = .string s!"OBJECT ID: {x}" := by
  cases inst with
  | sample id =>
    simp only [Instance.call, sampleCall, Except.ok.injEq] at hr
    exact ⟨id, rfl, hr.symm⟩
  | selective items => simp [Instance.call, selectiveCall] at hr

theorem runOperation_whoami {s : String} {hosted : Hosted} {args : Args} {v : Json}
    (hr : (h.runOperation c s hosted "whoami" args).1 = .ok v) :
    ∃ x, v = .string s!"OBJECT ID: {x}" ∧
      Answered h (h.runOperation c s hosted "whoami" args).2 x
        (answerSlot c s hosted.instances.mode) := by
  unfold runOperation at hr ⊢
  split at hr
  · next inst hinst =>
    obtain ⟨x, hx, rfl⟩ := whoami_call hr
    refine ⟨x, rfl, ?_⟩
    simp only [hinst, Instances.mode, answerSlot, Answered]
    rw [idAt, instanceAt_storeShared, if_pos rfl]
    simp [hx]
  · -- a fresh instance, made for this call alone
    next hi =>
    simp only [hi, Instances.mode, answerSlot, Answered]
    cases hf : h.fresh hosted with
    | error e => simp [hf] at hr
    | ok p =>
      obtain ⟨inst, h'⟩ := p
      simp only [hf] at hr ⊢
      obtain ⟨x, hx, rfl⟩ := whoami_call hr
      rw [fresh_state hf]
      exact ⟨x, rfl, numberOf_fresh hf hx, lt_numberAfter hx _⟩
  · -- the caller's session instance, found or made
    next hi =>
    simp only [hi, Instances.mode, answerSlot, Answered]
    cases hfound : (h.sessionOf c).find? s with
    | some inst =>
      simp only [hfound] at hr ⊢
      obtain ⟨x, hx, rfl⟩ := whoami_call hr
      refine ⟨x, rfl, ?_⟩
      simp [idAt_setSession, hx]
    | none =>
      cases hf : h.fresh hosted with
      | error e => simp [hfound, hf] at hr
      | ok p =>
        obtain ⟨inst, h'⟩ := p
        simp only [hfound, hf] at hr ⊢
        obtain ⟨x, hx, rfl⟩ := whoami_call hr
        refine ⟨x, rfl, ?_⟩
        simp [idAt_setSession, hx]

theorem callService_operation {s : String} {hosted : Hosted} {now : Timestamp} {call : Wire.Call}
    (hs : h.services.find? s = some hosted) (hm : call.method ∉ "describe" :: lockOperations) :
    h.callService c now s call =
      if !hosted.operations.any (·.name == call.method) then
        (.error (.unknownObject s!"{s}.{call.method}"), h)
      else
        match (match h.locks with
          | some t => t.enter s c
          | none => .ok ()) with
        | .error e => (.error e, h)
        | .ok () => h.runOperation c s hosted call.method ⟨call.args⟩ := by
  obtain ⟨o, m, a⟩ := call
  simp only [lockOperations, List.mem_cons, List.not_mem_nil, or_false, not_or] at hm
  unfold callService
  rw [hs]
  dsimp only
  split
  · exact absurd rfl hm.1
  · exact absurd rfl hm.2.1
  · exact absurd rfl hm.2.2.1
  · exact absurd rfl hm.2.2.2
  · rfl

theorem dispatch_whoami {now : Timestamp} {call : Wire.Call} {v : Json}
    (hw : call.method = "whoami") (hr : (h.dispatch c now call).1 = .ok v) :
    ∃ hosted, h.services.find? call.object = some hosted ∧
      h.dispatch c now call = h.runOperation c call.object hosted "whoami" ⟨call.args⟩ := by
  by_cases hd : call.object = daemonObject
  · rw [dispatch_daemon hd] at hr
    simp [callDaemon, hw] at hr
  · rw [dispatch_service hd] at hr ⊢
    cases hf : h.services.find? call.object with
    | none => simp [callService, hf] at hr
    | some hosted =>
      have hm : call.method ∉ "describe" :: lockOperations := by simp [hw, lockOperations]
      refine ⟨hosted, rfl, ?_⟩
      rw [callService_operation hf hm] at hr ⊢
      rw [← hw]
      split at hr
      · simp at hr
      · rename_i hop
        rw [if_neg hop]
        split at hr
        · simp at hr
        · rfl

/-- **What a `whoami` reply carries.** On a numbered host, a successful `whoami` call answers
with the number of the instance that ran it, found where the called service's mode says; a
call with no answering slot fills no slot either. -/
theorem whoami_answered (hN : Numbered h) {now : Timestamp} {call : Wire.Call} {v : Json}
    (hw : call.method = "whoami") (hr : (h.dispatch c now call).1 = .ok v) :
    ∃ hosted x, h.services.find? call.object = some hosted ∧ v = .string s!"OBJECT ID: {x}" ∧
      Answered h (h.apply (.call c now call)) x
        (answerSlot c call.object hosted.binding.instanceMode) ∧
      (answerSlot c call.object hosted.binding.instanceMode = none →
        h.freshSlot (.call c now call) = none) := by
  obtain ⟨hosted, hs, he⟩ := dispatch_whoami hw hr
  rw [he] at hr
  obtain ⟨x, hv, hA⟩ := runOperation_whoami hr
  have hlive := hN.lives _ _ hs
  refine ⟨hosted, x, hs, hv, ?_, fun hnone => ?_⟩
  · rw [← hlive]
    show Answered h (h.dispatch c now call).2 x _
    rw [he]
    exact hA
  · -- no answering slot: the service lives per call, so no session slot is filled
    have hmode : hosted.instances.mode = .perCall := hlive.trans (answerSlot_eq_none.1 hnone)
    obtain ⟨b, ops, insts⟩ := hosted
    cases insts <;> simp only [Instances.mode, reduceCtorEq] at hmode
    simp [freshSlot, hs]

/-- **Equal numbers, one slot.** Two replies with one number, the first given by step `e` from
a numbered host and the second by step `e'` after the steps `rest`, were answered from one
slot, which no step from the first reply to the second dropped. So a reply from an instance
made for its call alone shares its number with no later reply. -/
theorem same_number_same_slot (hN : Numbered h) {e e' : HostStep} {rest : List HostStep}
    {o o' : Option Slot} {x : Nat} (hf : o = none → h.freshSlot e = none)
    (hA : Answered h (h.apply e) x o)
    (hA' : Answered ((h.apply e).applyAll rest) ((h.apply e).applyAll (rest ++ [e'])) x o') :
    ∃ σ, o = some σ ∧ o' = some σ ∧ ∀ e'' ∈ rest ++ [e'], ¬ e''.Drops σ := by
  have hs := apply_stepIds (h := h) e
  have hN₁ := hN.step hs (apply_lifeOf e)
  -- the first number is below the counter once its step is done
  have hlt : x < (h.apply e).nextInstance := by
    cases o with
    | some σ => exact hN₁.below σ x hA
    | none => exact hA.1 ▸ hA.2
  cases o' with
  | none =>
    -- a number made later is at least that counter
    have hle := counter_le_applyAll (h := h.apply e) rest
    have hx : x = ((h.apply e).applyAll rest).nextInstance := hA'.1
    omega
  | some σ' =>
    -- so the second slot held the number, undropped, since the first step
    obtain ⟨hat, hkeep⟩ := idAt_applyAll_of_lt (rest ++ [e']) hA' hlt
    cases o with
    | some σ => exact ⟨σ', congrArg some (hN₁.distinct σ σ' x hA hat), rfl, hkeep⟩
    | none =>
      -- the counter's number, in a slot right after a step that filled none
      rcases hs.source σ' x hat with hold | ⟨hfr, -⟩
      · exact absurd hA.1 (Nat.ne_of_lt (hN.below σ' x hold))
      · rw [hf rfl] at hfr
        cases hfr

theorem same_slot_same_number {e e' : HostStep} {rest : List HostStep} {σ : Slot} {x y : Nat}
    (hA : Answered h (h.apply e) x (some σ))
    (hA' : Answered ((h.apply e).applyAll rest) ((h.apply e).applyAll (rest ++ [e'])) y (some σ))
    (hk : ∀ e'' ∈ rest ++ [e'], ¬ e''.Drops σ) : x = y :=
  Option.some.inj ((idAt_applyAll_of_keeps _ hk hA).symm.trans hA')

theorem service_of_answerSlot {s : String} {m : InstanceMode} {σ : Slot}
    (ho : answerSlot c s m = some σ) : σ.service = s := by
  cases m <;> simp only [answerSlot] at ho <;> cases ho <;> rfl

theorem whoami_text_inj {x y : Nat} :
    Json.string s!"OBJECT ID: {x}" = .string s!"OBJECT ID: {y}" ↔ x = y := by
  -- a number's decimal digits read back to it
  have digits : ∀ n : Nat, Nat.ofDigitChars 10 (toString n).toList 0 = n := fun n => by
    rw [Nat.toString_eq_repr, Nat.toList_repr, Nat.ofDigitChars_ten_toDigits]
  constructor
  · intro he
    simp only [Json.string.injEq] at he
    rw [← digits x, ← digits y, (String.append_right_inj _).1 he]
  · rintro rfl
    rfl

theorem instanceMode_of_lifeOf {h' : Host} {s : String} {a b : Hosted}
    (hl : h'.lifeOf = h.lifeOf) (ha : h.services.find? s = some a)
    (hb : h'.services.find? s = some b) : b.binding.instanceMode = a.binding.instanceMode := by
  have hs := congrFun hl s
  simp only [lifeOf, ha, hb, Option.map_some, Option.some.injEq, Prod.mk.injEq] at hs
  exact hs.1

/-- **Instance modes decide identity.** Take the host built for a daemon, run any steps, then a
successful `whoami` call from connection `c₁`, then any steps `mid`, then a successful `whoami`
call from `c₂`. If both called one service, the replies of a singleton service are equal, those
of a per-session service are equal exactly when one connection made both calls and it neither
went away nor did the host close in between, and those of a per-call service differ. Replies
of two different services differ. -/
theorem whoami_identity {name : String} {config : LabConfig} {now : Timestamp} {h₀ : Host}
    (hb : build name config now = .ok h₀) (pre mid : List HostStep)
    {c₁ c₂ : ConnectionId} {t₁ t₂ : Timestamp} {w₁ w₂ : Wire.Call} {v₁ v₂ : Json}
    (hw₁ : w₁.method = "whoami") (hw₂ : w₂.method = "whoami")
    (hr₁ : ((h₀.applyAll pre).dispatch c₁ t₁ w₁).1 = .ok v₁)
    (hr₂ : ((h₀.applyAll (pre ++ .call c₁ t₁ w₁ :: mid)).dispatch c₂ t₂ w₂).1 = .ok v₂) :
    (w₁.object = w₂.object → ∀ hosted, h₀.services.find? w₁.object = some hosted →
      (hosted.binding.instanceMode = .singleton → v₁ = v₂) ∧
      (hosted.binding.instanceMode = .perSession →
        (v₁ = v₂ ↔ c₁ = c₂ ∧ ∀ e ∈ mid, e ≠ .disconnect c₁ ∧ e ≠ .close)) ∧
      (hosted.binding.instanceMode = .perCall → v₁ ≠ v₂)) ∧
    (w₁.object ≠ w₂.object → v₁ ≠ v₂) := by
  have hN := numbered_applyAll (numbered_build hb) pre
  obtain ⟨a₁, x₁, hs₁, rfl, hA₁, hf₁⟩ := whoami_answered hN hw₁ hr₁
  rw [applyAll_append, applyAll_cons] at hr₂
  obtain ⟨a₂, x₂, hs₂, rfl, hA₂, -⟩ := whoami_answered
    (numbered_applyAll (hN.step (apply_stepIds _) (apply_lifeOf _)) mid) hw₂ hr₂
  rw [← applyAll_concat (h := (h₀.applyAll pre).apply _)] at hA₂
  -- the services live in the run as they were built
  have hl₁ : (h₀.applyAll pre).lifeOf = h₀.lifeOf := lifeOf_applyAll pre
  have hl₂ : (((h₀.applyAll pre).apply (.call c₁ t₁ w₁)).applyAll mid).lifeOf = h₀.lifeOf := by
    rw [lifeOf_applyAll, apply_lifeOf, lifeOf_applyAll]
  simp only [ne_eq, whoami_text_inj]
  refine ⟨fun ho a ha => ?_, fun ho hx => ?_⟩
  · rw [← ho] at hs₂ hA₂
    rw [instanceMode_of_lifeOf hl₁ ha hs₁] at hA₁ hf₁
    rw [instanceMode_of_lifeOf hl₂ ha hs₂] at hA₂
    refine ⟨fun hm => ?_, fun hm => ⟨fun hx => ?_, fun ⟨hc, hmid⟩ => ?_⟩, fun hm hx => ?_⟩
    · -- the shared slot is never dropped
      rw [hm] at hA₁ hA₂
      exact same_slot_same_number hA₁ hA₂ fun e _ => e.not_drops_shared _
    · -- one number: one session slot, kept from the first call to the second
      rw [hm] at hA₁ hA₂ hf₁
      subst hx
      obtain ⟨σ, h₁, h₂, hk⟩ := same_number_same_slot hN hf₁ hA₁ hA₂
      cases h₁
      simp only [answerSlot, Option.some.injEq, Slot.session.injEq, and_true] at h₂
      refine ⟨h₂.symm, fun e he => ?_⟩
      exact (e.not_drops_session c₁ w₁.object).1 (hk e (List.mem_append_left _ he))
    · -- the session slot of the first call is kept to the second
      rw [hm] at hA₁ hA₂
      subst hc
      refine same_slot_same_number hA₁ hA₂ fun e he => ?_
      rcases List.mem_append.1 he with he | he
      · exact (e.not_drops_session c₁ w₁.object).2 (hmid e he)
      · rw [List.mem_singleton.1 he]
        simp [HostStep.Drops]
    · -- an instance made for one call answers no other
      rw [hm] at hA₁ hA₂ hf₁
      subst hx
      obtain ⟨σ, h₁, -, -⟩ := same_number_same_slot hN hf₁ hA₁ hA₂
      cases h₁
  · subst hx
    obtain ⟨σ, h₁, h₂, -⟩ := same_number_same_slot hN hf₁ hA₁ hA₂
    exact ho ((service_of_answerSlot h₁).symm.trans (service_of_answerSlot h₂))

/-- A plain daemon `rig` hosting the arithmetic service per session as `mine`. -/
def rigConfig : LabConfig :=
  { daemons := [("rig", {})],
    services := [
      ("mine", { implementation := sampleReference, daemon := "rig", instanceMode := .perSession })] }

/-- Connection 1 asks the per-session `mine` for its number, goes away, and asks again under
the same number: the two replies differ, as the second comes from a new instance. -/
theorem rig_session_renewed_after_disconnect :
    ∃ h₀ v₁ v₂, build "rig" rigConfig ⟨0, 0⟩ = .ok h₀ ∧
      ((h₀.applyAll []).dispatch 1 ⟨0, 0⟩ ⟨"mine", "whoami", .null⟩).1 = .ok v₁ ∧
      ((h₀.applyAll ([] ++ .call 1 ⟨0, 0⟩ ⟨"mine", "whoami", .null⟩ :: [.disconnect 1])).dispatch
        1 ⟨0, 0⟩ ⟨"mine", "whoami", .null⟩).1 = .ok v₂ ∧
      v₁ ≠ v₂ := by
  have hb : build "rig" rigConfig ⟨0, 0⟩ = .ok _ := rfl
  refine ⟨_, _, _, hb, rfl, rfl, fun he => ?_⟩
  -- the same connection, but it went away in between
  have hsame := ((@whoami_identity _ _ _ _ hb [] [.disconnect 1] 1 1 ⟨0, 0⟩ ⟨0, 0⟩
    ⟨"mine", "whoami", .null⟩ ⟨"mine", "whoami", .null⟩ _ _ rfl rfl rfl rfl).1 rfl _ rfl).2.1 rfl
  exact ((hsame.1 he).2 _ List.mem_cons_self).1 rfl

end Host

end LabFleet.Daemon

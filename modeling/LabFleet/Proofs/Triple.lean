/-!
Specifications of programs in a state monad, in the Hoare style. `Triple P m Q` says that `m`,
run from any state where `P` holds, returns a value and ends in a state that together satisfy
`Q`. The rules follow the shape of a `do` block (a return, a bind, a read of the state, a map,
a `for` loop over a list), so that a proof about a program walks it statement by statement;
a loop needs an invariant, stated of the items it has still to visit.
-/

namespace LabFleet

variable {σ α β : Type}

/-- Run from a state where `P` holds, `m` returns a value and ends in a state satisfying `Q`. -/
def Triple (P : σ → Prop) (m : StateM σ α) (Q : α → σ → Prop) : Prop :=
  ∀ s, P s → Q (m.run s).1 (m.run s).2

namespace Triple

variable {P P' : σ → Prop}

theorem pure' {a : α} {Q : α → σ → Prop} (h : ∀ s, P s → Q a s) : Triple P (pure a) Q := h

theorem bind {m : StateM σ α} {f : α → StateM σ β} {R : α → σ → Prop} {Q : β → σ → Prop}
    (hm : Triple P m R) (hf : ∀ a, Triple (R a) (f a) Q) : Triple P (m >>= f) Q :=
  fun s hs => hf _ _ (hm s hs)

theorem map {m : StateM σ α} {g : α → β} {Q : β → σ → Prop}
    (hm : Triple P m fun a => Q (g a)) : Triple P (g <$> m) Q :=
  fun s hs => hm s hs

theorem get_bind {f : σ → StateM σ β} {Q : β → σ → Prop}
    (hf : ∀ s₀, Triple (fun s => P s ∧ s = s₀) (f s₀) Q) : Triple P (get >>= f) Q :=
  fun s hs => hf s s ⟨hs, rfl⟩

theorem get_bind_of_eq {s₀ : σ} {f : σ → StateM σ β} {Q : β → σ → Prop}
    (hf : Triple (· = s₀) (f s₀) Q) : Triple (· = s₀) (get >>= f) Q :=
  fun s hs => by
    subst hs
    exact hf s rfl

theorem of_forall {m : StateM σ α} {Q : α → σ → Prop} (h : ∀ s₀, P s₀ → Triple (· = s₀) m Q) :
    Triple P m Q :=
  fun s hs => h s hs s rfl

theorem mono {m : StateM σ α} {Q Q' : α → σ → Prop} (h : Triple P m Q)
    (hp : ∀ s, P' s → P s) (hq : ∀ a s, Q a s → Q' a s) : Triple P' m Q' :=
  fun s hs => hq _ _ (h s (hp s hs))

/-- What one step of a loop body leads to: the invariant of the items after it, or of none
left when the step stops the loop. -/
def Next (I : List α → β → σ → Prop) (rest : List α) : ForInStep β → σ → Prop
  | .yield b, s => I rest b s
  | .done b, s => I [] b s

/-- **A loop keeps its invariant.** If each step of the body, from a state where the invariant
holds of the items still to visit, leads to one where it holds of the rest, then the loop ends
where it holds of nothing left. -/
theorem forIn {xs : List α} {init : β} {f : α → β → StateM σ (ForInStep β)}
    (I : List α → β → σ → Prop) (step : ∀ a rest b, Triple (I (a :: rest) b) (f a b) (Next I rest)) :
    Triple (I xs init) (forIn xs init f) (I []) := by
  induction xs generalizing init with
  | nil => exact fun s hs => hs
  | cons a rest ih =>
    intro s hs
    have hstep := step a rest init s hs
    rw [List.forIn_cons, StateT.run_bind]
    -- the first step either stops the loop or hands its value to the loop over the rest
    rcases hf : (f a init).run s with ⟨_ | b, s'⟩
    · rw [hf] at hstep
      exact hstep
    · rw [hf] at hstep
      exact ih s' hstep

/-- **A loop builds its invariant item by item.** If each step of the body, from a state where
the invariant holds of the items visited so far, goes on to one where it holds of these and the
item it visited, then the loop ends where it holds of the whole list. -/
theorem forIn_prefix {xs : List α} {init : β} {f : α → β → StateM σ (ForInStep β)}
    (I : List α → β → σ → Prop)
    (step : ∀ pre a rest b, pre ++ a :: rest = xs →
      Triple (I pre b) (f a b) fun res s => ∃ b', res = .yield b' ∧ I (pre ++ [a]) b' s) :
    Triple (I [] init) (ForIn.forIn xs init f) (I xs) := by
  -- the invariant of the items still to visit: it holds of those already visited
  refine mono (forIn (fun rest b s => ∃ pre, pre ++ rest = xs ∧ I pre b s) fun a rest b => ?_)
    (fun s hs => ⟨[], rfl, hs⟩) fun b s h => ?_
  · refine of_forall fun s h => ?_
    obtain ⟨pre, hpre, hs⟩ := h
    refine mono (step pre a rest b hpre) (fun s' hs' => hs' ▸ hs) fun res s' h' => ?_
    obtain ⟨b', rfl, hb'⟩ := h'
    exact ⟨pre ++ [a], by rw [List.append_assoc]; exact hpre, hb'⟩
  · obtain ⟨pre, hpre, hs⟩ := h
    rw [List.append_nil] at hpre
    exact hpre ▸ hs

theorem run_bind_congr {m : StateM σ α} {f g : α → StateM σ β} {R : α → σ → Prop}
    (hm : Triple P m R) (h : ∀ a s, R a s → (f a).run s = (g a).run s) (s : σ) (hs : P s) :
    (m >>= f).run s = (m >>= g).run s :=
  h _ _ (hm s hs)

theorem bind_congr {m : StateM σ α} {f g : α → StateM σ β} {Q : α → Prop}
    (hm : Triple (fun _ => True) m fun a _ => Q a) (h : ∀ a, Q a → f a = g a) :
    m >>= f = m >>= g := by
  funext s
  exact run_bind_congr (R := fun a _ => Q a) hm (fun a _ ha => by rw [h a ha]) s trivial

theorem run_get_bind {f : σ → StateM σ β} (s : σ) : (get >>= f).run s = (f s).run s := rfl

theorem modify_id_bind {f : Unit → StateM σ β} : (modify id >>= f) = f () := rfl

end Triple

end LabFleet

/-!
Loops in the error monad. A loop of checks succeeds exactly when each of its checks does; a
loop whose every step succeeds ends with its value folded along the list; and a property that
the start has and every successful step keeps holds of what a successful loop ends with. These
are the shapes of loop that reading and validating a configuration run.
-/

namespace LabFleet.Checks

variable {ε α β : Type}

@[simp] theorem ok_bind (a : α) (f : α → Except ε β) : (Except.ok a >>= f) = f a := rfl

theorem bind_eq_ok {x : Except ε α} {f : α → Except ε β} {b : β} :
    x >>= f = .ok b ↔ ∃ a, x = .ok a ∧ f a = .ok b := by
  cases x <;> simp [bind, Except.bind]

theorem forIn_unit_eq_ok {xs : List α} {f : α → Unit → Except ε (ForInStep Unit)}
    (hf : ∀ x s, f x () = .ok s → s = .yield ()) :
    forIn xs () f = .ok () ↔ ∀ x ∈ xs, f x () = .ok (.yield ()) := by
  induction xs with
  | nil => simp [pure, Except.pure]
  | cons x rest ih =>
    rw [List.forIn_cons]
    cases h : f x () with
    | error e => simp [h, bind, Except.bind]
    | ok s =>
      obtain rfl := hf x s h
      simp only [bind, Except.bind, List.forall_mem_cons, h, true_and]
      exact ih

theorem ite_throw_eq_ok {b : Bool} {e : ε} {k : α → Except ε β} {x : Except ε β} {r : β} :
    (if b = true then throw e >>= k else x) = .ok r ↔ b = false ∧ x = .ok r := by
  cases b <;> simp [throw, throwThe, MonadExceptOf.throw, bind, Except.bind]

theorem forIn_refuse_eq_ok {xs : List α} {p : α → Bool} {e : α → ε} :
    forIn xs () (fun x (_ : Unit) =>
      (if (!p x) = true then throw (e x) >>= fun (_ : Unit) => pure (ForInStep.yield ())
        else pure (ForInStep.yield ()) : Except ε (ForInStep Unit))) = .ok () ↔
      ∀ x ∈ xs, p x = true := by
  have hstep : ∀ x s, (if (!p x) = true then throw (e x) >>= fun (_ : Unit) =>
      pure (ForInStep.yield ()) else pure (ForInStep.yield ()) : Except ε (ForInStep Unit)) =
      .ok s ↔ p x = true ∧ s = .yield () := by
    intro x s
    rw [ite_throw_eq_ok, Bool.not_eq_false']
    exact and_congr_right fun _ => ⟨fun h => (Except.ok.inj h).symm, fun h => h ▸ rfl⟩
  refine (forIn_unit_eq_ok ?_).trans ?_
  · exact fun x s h => ((hstep x s).1 h).2
  · exact forall₂_congr fun x _ => ⟨fun h => ((hstep x _).1 h).1, fun h => (hstep x _).2 ⟨h, rfl⟩⟩

theorem forIn_unit_ok {xs : List α} {f : α → Unit → Except ε (ForInStep Unit)}
    (h : ∀ x ∈ xs, f x () = .ok (.yield ())) : forIn xs () f = .ok () := by
  induction xs with
  | nil => rfl
  | cons x rest ih =>
    rw [List.forIn_cons, h x List.mem_cons_self]
    exact ih fun y hy => h y (List.mem_cons_of_mem _ hy)

theorem forIn_eq_ok_foldl {xs : List α} {init : β} {f : α → β → Except ε (ForInStep β)}
    (g : β → α → β) (hf : ∀ x ∈ xs, ∀ b, f x b = .ok (.yield (g b x))) :
    forIn xs init f = .ok (xs.foldl g init) := by
  induction xs generalizing init with
  | nil => rfl
  | cons x rest ih =>
    rw [List.forIn_cons, hf x List.mem_cons_self init]
    exact ih fun y hy b => hf y (List.mem_cons_of_mem _ hy) b

theorem forIn_inv {xs : List α} {init : β} {f : α → β → Except ε (ForInStep β)} {r : β}
    (P : β → Prop) (h0 : P init) (hstep : ∀ x ∈ xs, ∀ b s, P b → f x b = .ok s → P s.value)
    (hr : forIn xs init f = .ok r) : P r := by
  induction xs generalizing init with
  | nil =>
    cases hr
    exact h0
  | cons x rest ih =>
    rw [List.forIn_cons] at hr
    cases h : f x init with
    | error e => simp [h, bind, Except.bind] at hr
    | ok s =>
      have hs := hstep x List.mem_cons_self init s h0 h
      rw [h] at hr
      cases s with
      | done b =>
        cases hr
        exact hs
      | yield b => exact ih hs (fun y hy => hstep y (List.mem_cons_of_mem _ hy)) hr

theorem foldlM_eq_ok_foldl {xs : List α} {init : β} {f : β → α → Except ε β} (g : β → α → β)
    (hf : ∀ x ∈ xs, ∀ b, f b x = .ok (g b x)) : xs.foldlM f init = .ok (xs.foldl g init) := by
  induction xs generalizing init with
  | nil => rfl
  | cons x rest ih =>
    rw [List.foldlM_cons, hf x List.mem_cons_self init, ok_bind]
    exact ih fun y hy b => hf y (List.mem_cons_of_mem _ hy) b

theorem mapM_eq_ok_map {xs : List α} {f : α → Except ε β} {g : α → β}
    (hf : ∀ x ∈ xs, f x = .ok (g x)) : xs.mapM f = .ok (xs.map g) := by
  induction xs with
  | nil => rfl
  | cons x rest ih =>
    rw [List.mapM_cons, hf x List.mem_cons_self, ok_bind,
      ih fun y hy => hf y (List.mem_cons_of_mem _ hy)]
    rfl

theorem mem_of_mapM_eq_ok {xs : List α} {f : α → Except ε β} {ys : List β}
    (h : xs.mapM f = .ok ys) : ∀ y ∈ ys, ∃ x ∈ xs, f x = .ok y := by
  induction xs generalizing ys with
  | nil =>
    cases h
    exact fun _ h => nomatch h
  | cons x rest ih =>
    rw [List.mapM_cons] at h
    obtain ⟨y, hy, h⟩ := bind_eq_ok.1 h
    obtain ⟨ys', hys', h⟩ := bind_eq_ok.1 h
    cases h
    intro z hz
    rcases List.mem_cons.1 hz with rfl | hz
    · exact ⟨x, List.mem_cons_self, hy⟩
    · obtain ⟨x', hx', hfx⟩ := ih hys' z hz
      exact ⟨x', List.mem_cons_of_mem _ hx', hfx⟩

theorem foldlM_inv {xs : List α} {init : β} {f : β → α → Except ε β} {r : β} (P : β → Prop)
    (h0 : P init) (hstep : ∀ x ∈ xs, ∀ b b', P b → f b x = .ok b' → P b')
    (hr : xs.foldlM f init = .ok r) : P r := by
  induction xs generalizing init with
  | nil =>
    cases hr
    exact h0
  | cons x rest ih =>
    rw [List.foldlM_cons] at hr
    obtain ⟨b, hb, hr⟩ := bind_eq_ok.1 hr
    exact ih (hstep x List.mem_cons_self init b h0 hb)
      (fun y hy => hstep y (List.mem_cons_of_mem _ hy)) hr

/-! ## Loops compared -/

theorem forIn_congr_mem {xs : List α} {init : β} {f g : α → β → Except ε (ForInStep β)}
    (h : ∀ x ∈ xs, ∀ b, f x b = g x b) : forIn xs init f = forIn xs init g := by
  induction xs generalizing init with
  | nil => rfl
  | cons x rest ih =>
    rw [List.forIn_cons, List.forIn_cons, h x List.mem_cons_self init]
    congr 1
    funext s
    cases s with
    | done b => rfl
    | yield b => exact ih (fun y hy => h y (List.mem_cons_of_mem _ hy))

theorem forIn_filter_of_skip {xs : List α} {init : β} {f : α → β → Except ε (ForInStep β)}
    {q : α → Bool} (hskip : ∀ x ∈ xs, q x = false → ∀ b, f x b = .ok (.yield b)) :
    forIn (xs.filter q) init f = forIn xs init f := by
  induction xs generalizing init with
  | nil => rfl
  | cons x rest ih =>
    have hrest : ∀ b, forIn (rest.filter q) b f = forIn rest b f :=
      fun b => ih fun y hy => hskip y (List.mem_cons_of_mem _ hy)
    cases hq : q x with
    | true =>
      rw [List.filter_cons_of_pos hq, List.forIn_cons, List.forIn_cons]
      congr 1
      funext s
      cases s with
      | done b => rfl
      | yield b => exact hrest b
    | false =>
      rw [List.filter_cons_of_neg (by simp [hq]), List.forIn_cons,
        hskip x List.mem_cons_self hq init]
      exact hrest init

theorem forIn_map_state {γ : Type} {xs : List α} {init : β} {f : α → β → Except ε (ForInStep β)}
    {g : α → γ → Except ε (ForInStep γ)} (σ : β → γ)
    (h : ∀ x ∈ xs, ∀ b, g x (σ b) = (f x b).map fun s => match s with
      | .done c => .done (σ c)
      | .yield c => .yield (σ c)) :
    forIn xs (σ init) g = (forIn xs init f).map σ := by
  induction xs generalizing init with
  | nil => rfl
  | cons x rest ih =>
    rw [List.forIn_cons, List.forIn_cons, h x List.mem_cons_self init]
    cases f x init with
    | error e => rfl
    | ok s =>
      cases s with
      | done c => rfl
      | yield c => exact ih (fun y hy => h y (List.mem_cons_of_mem _ hy))

theorem forIn_prefix_inv {xs : List α} {init r : β} {f : α → β → Except ε (ForInStep β)}
    (R : List α → β → Prop) (h0 : R [] init)
    (hstep : ∀ pre x b s, R pre b → f x b = .ok s → ∃ b', s = .yield b' ∧ R (pre ++ [x]) b')
    (hr : forIn xs init f = .ok r) : R xs r := by
  -- the walk so far is a parameter, so that the induction can start from any point of it
  suffices hgen : ∀ (pre : List α) (b : β), R pre b → forIn xs b f = .ok r → R (pre ++ xs) r by
    simpa using hgen [] init h0 hr
  clear hr
  induction xs with
  | nil =>
    intro pre b hb hr
    cases hr
    simpa using hb
  | cons x rest ih =>
    intro pre b hb hr
    rw [List.forIn_cons] at hr
    obtain ⟨s, hs, hr⟩ := bind_eq_ok.1 hr
    obtain ⟨b', rfl, hb'⟩ := hstep pre x b s hb hs
    simpa using ih (pre ++ [x]) b' hb' hr

theorem mapM_map_result {xs : List α} {f g : α → Except ε β} (h : β → β)
    (hfg : ∀ x ∈ xs, g x = (f x).map h) : xs.mapM g = (xs.mapM f).map (List.map h) := by
  induction xs with
  | nil => rfl
  | cons x rest ih =>
    rw [List.mapM_cons, List.mapM_cons, hfg x List.mem_cons_self,
      ih fun y hy => hfg y (List.mem_cons_of_mem _ hy)]
    cases f x with
    | error e => rfl
    | ok b =>
      cases rest.mapM f with
      | error e => rfl
      | ok bs => rfl

end LabFleet.Checks

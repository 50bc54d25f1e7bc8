import Mathlib.Data.String.Basic
import LabFleet.NameMap

/-!
Lookups in name maps. A lookup finds the first entry with the key, so the first laws here hold
of any association list, sorted or not: setting a key makes a lookup of it give the new value
and leaves every other key's value alone, and erasing a key hides it and nothing else. Building
a map from names all bound to one value gives that value at exactly those names.

The maps the program builds are sorted: their keys increase strictly (`Sorted`), which setting
and erasing keep. A sorted map is determined by its lookups (`Sorted.ext_find?`), so two ways of
building one map are shown equal by comparing what they hold.
-/

namespace LabFleet.NameMap

variable {α : Type}

@[simp] theorem find?_nil (k : String) : find? ([] : NameMap α) k = none := rfl

theorem find?_cons (k k' : String) (v : α) (m : NameMap α) :
    find? ((k', v) :: m) k = if k' = k then some v else find? m k := by
  by_cases h : k' = k <;> simp [find?, h]

/-- **Setting a key.** A lookup of the key gives the new value, any other lookup is unchanged. -/
theorem find?_insert (k k' : String) (v : α) (m : NameMap α) :
    find? (insert k v m) k' = if k = k' then some v else find? m k' := by
  induction m with
  | nil => simp [insert, find?_cons]
  | cons e rest ih =>
    obtain ⟨k'', v''⟩ := e
    simp only [insert]
    split
    · simp only [find?_cons]
    · split
      · -- the key is already there: its entry is overwritten in place
        rename_i h
        have h : k = k'' := by simpa using h
        subst h
        simp only [find?_cons]
        split <;> rfl
      · simp only [find?_cons, ih]
        grind

@[simp] theorem find?_insert_self (k : String) (v : α) (m : NameMap α) :
    find? (insert k v m) k = some v := by
  simp [find?_insert]

theorem find?_insert_of_ne {k k' : String} (v : α) (m : NameMap α) (h : k ≠ k') :
    find? (insert k v m) k' = find? m k' := by
  simp [find?_insert, h]

theorem find?_erase (k k' : String) (m : NameMap α) :
    find? (erase k m) k' = if k = k' then none else find? m k' := by
  induction m with
  | nil => simp [erase]
  | cons e rest ih =>
    obtain ⟨k'', v''⟩ := e
    by_cases hk : k'' = k
    · subst hk
      have : erase k'' ((k'', v'') :: rest) = erase k'' rest := by simp [erase]
      rw [this, ih]
      by_cases h : k'' = k' <;> simp [find?_cons, h]
    · have : erase k ((k'', v'') :: rest) = (k'', v'') :: erase k rest := by
        simp [erase, hk]
      rw [this, find?_cons, find?_cons, ih]
      grind

theorem isSome_find?_iff (k : String) (m : NameMap α) :
    (find? m k).isSome ↔ k ∈ keys m := by
  induction m with
  | nil => simp [keys]
  | cons e rest ih =>
    obtain ⟨k', v⟩ := e
    by_cases h : k' = k
    · subst h; simp [find?_cons, keys]
    · simp only [find?_cons, h, if_false, ih]
      simp [keys, Ne.symm h]

theorem find?_foldl_insert (v : α) (ks : List String) (m : NameMap α) (k : String) :
    find? (ks.foldl (fun acc n => insert n v acc) m) k =
      if k ∈ ks then some v else find? m k := by
  induction ks generalizing m with
  | nil => simp
  | cons n rest ih =>
    simp only [List.foldl_cons, ih, find?_insert, List.mem_cons]
    by_cases hk : k ∈ rest
    · simp [hk]
    · by_cases hn : n = k
      · subst hn; simp
      · simp [hk, hn, Ne.symm hn]

theorem find?_ofList_const (v : α) (ks : List String) (k : String) :
    find? (ofList (ks.map (·, v))) k = if k ∈ ks then some v else none := by
  have h := find?_foldl_insert v ks [] k
  simp only [find?_nil] at h
  rw [← h, ofList, List.foldl_map]

theorem find?_foldl_insert_of_nodup (l : List (String × α)) (hl : (l.map (·.1)).Nodup)
    (m : NameMap α) (k : String) :
    find? (l.foldl (fun acc e => insert e.1 e.2 acc) m) k = (find? l k).or (find? m k) := by
  induction l generalizing m with
  | nil => simp
  | cons e rest ih =>
    obtain ⟨k', v'⟩ := e
    obtain ⟨hfresh, hrest⟩ := List.nodup_cons.1 hl
    rw [List.foldl_cons, ih hrest, find?_insert, find?_cons]
    by_cases hk : k' = k
    · -- the key is not set again later, so its value is this entry's
      subst hk
      have hnone : find? rest k' = none := by
        cases h : find? rest k' with
        | none => rfl
        | some _ =>
          have := (isSome_find?_iff k' rest).1 (by simp [h])
          exact absurd this (by simpa [keys] using hfresh)
      simp [hnone]
    · simp [hk]

theorem find?_mem {m : NameMap α} {k : String} {v : α} (h : find? m k = some v) : (k, v) ∈ m := by
  induction m with
  | nil => simp at h
  | cons e rest ih =>
    obtain ⟨k', v'⟩ := e
    rw [find?_cons] at h
    split at h
    · next hk =>
      cases h
      subst hk
      exact List.mem_cons_self
    · exact List.mem_cons_of_mem _ (ih h)

theorem contains_iff_mem_keys {m : NameMap α} {k : String} : contains m k = true ↔ k ∈ keys m := by
  simp [contains, keys]

theorem contains_eq_isSome (m : NameMap α) (k : String) : m.contains k = (m.find? k).isSome :=
  Bool.eq_iff_iff.2 (contains_iff_mem_keys.trans (isSome_find?_iff k m).symm)

theorem mem_keys_of_mem {m : NameMap α} {e : String × α} (h : e ∈ m) : e.1 ∈ keys m :=
  List.mem_map_of_mem h

theorem mem_keys_insert {m : NameMap α} {k k' : String} {v : α} :
    k' ∈ keys (insert k v m) ↔ k' = k ∨ k' ∈ keys m := by
  rw [← isSome_find?_iff, ← isSome_find?_iff, find?_insert]
  by_cases h : k = k'
  · simp [h]
  · simp [h, Ne.symm h]

theorem mem_erase {m : NameMap α} {k : String} {e : String × α} :
    e ∈ erase k m ↔ e ∈ m ∧ e.1 ≠ k := by
  simp [erase]

theorem mem_keys_erase {m : NameMap α} {k k' : String} :
    k' ∈ keys (erase k m) ↔ k' ∈ keys m ∧ k' ≠ k := by
  rw [← isSome_find?_iff, ← isSome_find?_iff, find?_erase]
  by_cases h : k = k'
  · simp [h]
  · simp [h, Ne.symm h]

theorem keys_map {β : Type} (m : NameMap α) {f : String × α → String × β}
    (hf : ∀ e, (f e).1 = e.1) : keys (m.map f) = keys m := by
  simp [keys, hf]

/-! ## Sorted maps -/

/-- The keys increase strictly along the list, so each key is there once. -/
def Sorted (m : NameMap α) : Prop := m.Pairwise fun a b => a.1 < b.1

theorem mem_insert {k : String} {v : α} {e : String × α} :
    ∀ {m : NameMap α}, e ∈ insert k v m → e = (k, v) ∨ e ∈ m
  | [], h => by simpa [insert] using h
  | (k', v') :: rest, h => by
    simp only [insert] at h
    split at h
    · simpa using h
    · split at h
      · rcases List.mem_cons.1 h with h | h
        · exact .inl h
        · exact .inr (List.mem_cons_of_mem _ h)
      · rcases List.mem_cons.1 h with h | h
        · exact .inr (h ▸ List.mem_cons_self)
        · rcases mem_insert h with h | h
          · exact .inl h
          · exact .inr (List.mem_cons_of_mem _ h)

theorem Sorted.insert {m : NameMap α} (hm : Sorted m) (k : String) (v : α) :
    Sorted (insert k v m) := by
  induction m with
  | nil => exact List.pairwise_singleton _ _
  | cons e rest ih =>
    obtain ⟨k', v'⟩ := e
    rw [Sorted, List.pairwise_cons] at hm
    obtain ⟨hlt, hrest⟩ := hm
    simp only [NameMap.insert]
    split
    · next hk =>
      refine List.pairwise_cons.2 ⟨fun b hb => ?_, List.pairwise_cons.2 ⟨hlt, hrest⟩⟩
      rcases List.mem_cons.1 hb with rfl | hb
      · exact hk
      · exact lt_trans hk (hlt b hb)
    · split
      · next hk =>
        have hk : k = k' := by simpa using hk
        subst hk
        exact List.pairwise_cons.2 ⟨hlt, hrest⟩
      · next hlt' hne =>
        -- the key goes further on, after the head's
        have hk : k' < k := lt_of_le_of_ne (not_lt.1 hlt') (fun h => hne (by simp [h]))
        refine List.pairwise_cons.2 ⟨fun b hb => ?_, ih hrest⟩
        rcases mem_insert hb with rfl | hb
        · exact hk
        · exact hlt b hb

theorem Sorted.erase {m : NameMap α} (hm : Sorted m) (k : String) : Sorted (erase k m) :=
  List.Pairwise.filter _ hm

theorem Sorted.map {β : Type} {m : NameMap α} (hm : Sorted m) {f : String × α → String × β}
    (hf : ∀ e, (f e).1 = e.1) : Sorted (m.map f) :=
  List.pairwise_map.2 (hm.imp fun {a b} h => by rwa [hf a, hf b])

theorem Sorted.keys_nodup {m : NameMap α} (hm : Sorted m) : (m.map (·.1)).Nodup :=
  List.nodup_iff_pairwise_ne.2 (List.pairwise_map.2 (hm.imp fun h => ne_of_lt h))

theorem Sorted.keys_pairwise {m : NameMap α} (hm : Sorted m) : (keys m).Pairwise (· < ·) :=
  List.pairwise_map.2 hm

theorem Sorted.find?_eq_some_iff {m : NameMap α} (hm : Sorted m) {k : String} {v : α} :
    find? m k = some v ↔ (k, v) ∈ m := by
  induction m with
  | nil => simp
  | cons e rest ih =>
    obtain ⟨k', v'⟩ := e
    rw [Sorted, List.pairwise_cons] at hm
    rw [find?_cons, List.mem_cons]
    by_cases hk : k' = k
    · subst hk
      -- a later entry with the same key would break the order
      have hnot : (k', v) ∉ rest := fun h => lt_irrefl k' (hm.1 (k', v) h)
      simp [hnot, eq_comm]
    · simp [hk, Ne.symm hk, ih hm.2]

/-- **Extensionality.** Two sorted maps holding the same entries are the same list. -/
theorem Sorted.ext : ∀ {m₁ m₂ : NameMap α}, Sorted m₁ → Sorted m₂ →
    (∀ e, e ∈ m₁ ↔ e ∈ m₂) → m₁ = m₂
  | [], [], _, _, _ => rfl
  | [], e :: _, _, _, h => absurd ((h e).2 List.mem_cons_self) List.not_mem_nil
  | e :: _, [], _, _, h => absurd ((h e).1 List.mem_cons_self) List.not_mem_nil
  | e₁ :: r₁, e₂ :: r₂, h₁, h₂, h => by
    rw [Sorted, List.pairwise_cons] at h₁ h₂
    -- each head has the least key of its list, so the heads agree
    have he : e₁ = e₂ := by
      rcases List.mem_cons.1 ((h e₁).1 List.mem_cons_self) with he | hmem
      · exact he
      · rcases List.mem_cons.1 ((h e₂).2 List.mem_cons_self) with he' | hmem'
        · exact he'.symm
        · exact absurd (lt_trans (h₂.1 e₁ hmem) (h₁.1 e₂ hmem')) (lt_irrefl _)
    subst he
    congr 1
    refine Sorted.ext h₁.2 h₂.2 fun e => ⟨fun he => ?_, fun he => ?_⟩
    · rcases List.mem_cons.1 ((h e).1 (List.mem_cons_of_mem _ he)) with rfl | h'
      · exact absurd (h₁.1 e he) (lt_irrefl _)
      · exact h'
    · rcases List.mem_cons.1 ((h e).2 (List.mem_cons_of_mem _ he)) with rfl | h'
      · exact absurd (h₂.1 e he) (lt_irrefl _)
      · exact h'

theorem Sorted.ext_find? {m₁ m₂ : NameMap α} (h₁ : Sorted m₁) (h₂ : Sorted m₂)
    (h : ∀ k, find? m₁ k = find? m₂ k) : m₁ = m₂ :=
  h₁.ext h₂ fun ⟨k, v⟩ => by rw [← h₁.find?_eq_some_iff, ← h₂.find?_eq_some_iff, h]

theorem Sorted.foldl_insert {m : NameMap α} (hm : Sorted m) (l : List (String × α)) :
    Sorted (l.foldl (fun acc e => NameMap.insert e.1 e.2 acc) m) := by
  induction l generalizing m with
  | nil => exact hm
  | cons e rest ih => exact ih (hm.insert e.1 e.2)

theorem Sorted.foldl_insert_nil {l : NameMap α} (hl : Sorted l) :
    l.foldl (fun acc e => NameMap.insert e.1 e.2 acc) [] = l := by
  refine Sorted.ext_find? ((show Sorted ([] : NameMap α) from List.Pairwise.nil).foldl_insert l)
    hl fun k => ?_
  rw [find?_foldl_insert_of_nodup l hl.keys_nodup, find?_nil, Option.or_none]

end LabFleet.NameMap

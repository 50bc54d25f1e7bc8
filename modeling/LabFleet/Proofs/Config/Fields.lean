import LabFleet.Proofs.Config.Params

/-!
Records written as mappings and read back field by field.

A record is written as a mapping with one entry per field, in the order of its field list, and
read by folding the entries of a mapping into a record, starting from the defaults. When no
field is given twice, reading is that fold (`readFields_eq_foldlM`). The fold is followed
through the written values: after the first `j` entries the record's written values are the
first `j` of the record read and the rest of the defaults (`foldlM_written`). So reading the
written entries gives the record back, and so does reading only the entries that differ from
the defaults, since an entry left out holds the default (`readFields_written`).

Each record then needs three facts of its own, gathered in `RecordForm`: each field's reader
takes back its written value, a record is determined by its written values, and the default
values are atoms, values that are equal only to themselves.
-/

namespace LabFleet.Config

open Yaml NameMap Checks

set_option autoImplicit false

section Reading

variable {α : Type}

/-- Reading one entry of a record: the field it names is set from its value; an entry that
names no field is passed over. -/
def fieldStep (reader : FieldReader α) (r : α) : Node × Node → Read.Reading α
  | (k, v) => match fieldName k with
    | none => pure r
    | some name => match reader name with
      | none => pure r
      | some set => set r v

/-- The fields that entries set, in order. -/
def knownFields (reader : FieldReader α) (entries : List (Node × Node)) : List String :=
  entries.filterMap fun e => (fieldName e.1).filter fun name => (reader name).isSome

/-- **Reading fields named once.** When no field is given twice, reading a record folds the
entries into it one by one. -/
theorem readFields_eq_foldlM (reader : FieldReader α) (init : α) (entries : List (Node × Node))
    (hd : (knownFields reader entries).Nodup) :
    readFields reader init entries = entries.foldlM (fieldStep reader) init := by
  unfold readFields
  dsimp only
  generalize hs : ([] : List String) = seen
  have hdis : ∀ n ∈ knownFields reader entries, n ∉ seen := by
    subst hs
    exact fun _ _ h => nomatch h
  clear hs
  induction entries generalizing init seen with
  | nil => rfl
  | cons e rest ih =>
    obtain ⟨k, v⟩ := e
    rw [List.forIn_cons, List.foldlM_cons]
    cases hk : fieldName k with
    | none =>
      -- an entry that names no field leaves the record and the fields seen alone
      have hrest : knownFields reader ((k, v) :: rest) = knownFields reader rest := by
        simp [knownFields, hk]
      rw [hrest] at hd hdis
      simp only [fieldStep, hk, pure_bind]
      exact ih init hd seen hdis
    | some name =>
      cases hr : reader name with
      | none =>
        have hrest : knownFields reader ((k, v) :: rest) = knownFields reader rest := by
          simp [knownFields, hk, hr]
        rw [hrest] at hd hdis
        simp only [fieldStep, hk, hr, pure_bind]
        exact ih init hd seen hdis
      | some set =>
        -- a field not seen before is set, and joins the fields seen
        have hrest : knownFields reader ((k, v) :: rest) = name :: knownFields reader rest := by
          rw [knownFields, List.filterMap_cons]
          simp [hk, hr, Option.filter, knownFields]
        rw [hrest] at hd hdis
        obtain ⟨hfresh, hd⟩ := List.nodup_cons.1 hd
        have hnew : seen.contains name = false := by
          simpa using hdis name List.mem_cons_self
        simp only [fieldStep, hk, hr, hnew, Bool.false_eq_true, if_false, bind_assoc, pure_bind]
        cases hset : set init v with
        | error e => rfl
        | ok r =>
          refine ih r hd (name :: seen) fun n hn hmem => ?_
          rcases List.mem_cons.1 hmem with rfl | hmem
          · exact hfresh hn
          · exact hdis n (List.mem_cons_of_mem _ hn) hmem

/-- **What reading fields keeps.** A property of the starting record that setting any field
keeps holds of the record read. -/
theorem readFields_inv (P : α → Prop) {reader : FieldReader α} {init r : α}
    {entries : List (Node × Node)} (hinit : P init)
    (hset : ∀ name set, reader name = some set → ∀ e ∈ entries, ∀ r r', P r →
      set r e.2 = .ok r' → P r')
    (h : readFields reader init entries = .ok r) : P r := by
  unfold readFields at h
  dsimp only at h
  obtain ⟨s, hs, h⟩ := bind_eq_ok.1 h
  cases h
  refine forIn_inv (fun s => P s.1) hinit (fun e he s step hP hstep => ?_) hs
  obtain ⟨k, v⟩ := e
  -- an entry either names no field, or sets one that was not seen
  cases hk : fieldName k with
  | none =>
    simp only [hk] at hstep
    cases hstep
    exact hP
  | some name =>
    cases hr : reader name with
    | none =>
      simp only [hk, hr] at hstep
      cases hstep
      exact hP
    | some set =>
      simp only [hk, hr] at hstep
      split at hstep
      · simp [throw, throwThe, MonadExceptOf.throw, bind, Except.bind] at hstep
      obtain ⟨r', hr', hstep⟩ := bind_eq_ok.1 hstep
      cases hstep
      exact hset name set hr (k, v) he s.1 r' hP hr'

/-- The values of a mapping, in order. -/
def mappingValues : Node → List Node
  | .mapping entries => entries.map (·.2)
  | _ => []

/-- How a record is written and read back: its mapping has one entry per field, in the order of
`fields`, holding the record's written values; for a record that fits, each field's reader sets
the field from its written value on any record; and a record that fits is determined by its
written values. -/
structure RecordForm (fields : List String) (toNode : α → Node) (reader : FieldReader α)
    (Fits : α → Prop) : Prop where
  nodup : fields.Nodup
  written : ∀ p, toNode p = .mapping ((fields.map Node.string).zip (mappingValues (toNode p)))
  length : ∀ p, (mappingValues (toNode p)).length = fields.length
  reads : ∀ p, Fits p → ∀ i k x, fields[i]? = some k → (mappingValues (toNode p))[i]? = some x →
    ∃ set, reader k = some set ∧ ∀ r, ∃ r', set r x = .ok r' ∧
      mappingValues (toNode r') = (mappingValues (toNode r)).set i x
  injective : ∀ p, Fits p → ∀ r, mappingValues (toNode r) = mappingValues (toNode p) → r = p

theorem knownFields_zip_sublist (reader : FieldReader α) (fields : List String)
    (values : List Node) :
    List.Sublist (knownFields reader ((fields.map Node.string).zip values)) fields := by
  induction fields generalizing values with
  | nil => simp [knownFields]
  | cons f rest ih =>
    cases values with
    | nil => simp [knownFields]
    | cons v vs =>
      have ih := ih vs
      have hf : fieldName (Node.string f) = some f := rfl
      rw [List.map_cons, List.zip_cons_cons, knownFields, List.filterMap_cons, hf,
        Option.filter_some]
      -- the entry of `f` is kept exactly when the reader knows `f`
      by_cases hr : (reader f).isSome = true
      · rw [if_pos hr]
        exact ih.cons_cons f
      · rw [if_neg hr]
        exact ih.cons f

theorem set_take_append_drop {P D : List Node} {j : Nat} {x : Node} (hP : P[j]? = some x)
    (hD : j < D.length) : (P.take j ++ D.drop j).set j x = P.take (j + 1) ++ D.drop (j + 1) := by
  have hj : j < P.length := (List.getElem?_eq_some_iff.1 hP).1
  have hlen : (P.take j).length = j := by
    rw [List.length_take]
    omega
  rw [List.drop_eq_getElem_cons hD, List.set_append_right _ _ (by omega), hlen, Nat.sub_self,
    List.set_cons_zero, List.take_add_one, hP, Option.toList_some, List.append_assoc,
    List.singleton_append]

theorem take_append_drop_of_eq {P D : List Node} {j : Nat} {x : Node} (hP : P[j]? = some x)
    (hD : D[j]? = some x) : P.take j ++ D.drop j = P.take (j + 1) ++ D.drop (j + 1) := by
  obtain ⟨hj, hDj⟩ := List.getElem?_eq_some_iff.1 hD
  rw [List.take_add_one, hP, List.drop_eq_getElem_cons hj, hDj, Option.toList_some,
    List.append_assoc, List.singleton_append]

namespace RecordForm

variable {fields : List String} {toNode : α → Node} {reader : FieldReader α} {Fits : α → Prop}

theorem fieldStep_written {set : α → Node → Read.Reading α} {k : String} (hset : reader k = some set)
    (r : α) (x : Node) : fieldStep reader r (.string k, x) = set r x := by
  simp only [fieldStep, fieldName, Read.untag, hset]

/-- **Following the fold through the written values.** While reading the entries of a fitting
record that a test keeps, after the first `j` entries the record read so far has the values of
the record written at the first `j` fields and the defaults' values at the others, provided that
the test drops only entries holding the default. So at the end it is the record written. -/
theorem foldlM_written (form : RecordForm fields toNode reader Fits) {p d : α} (hp : Fits p)
    (keep : Node × Node → Bool)
    (hkeep : ∀ (i : Nat) (k : String) (x : Node), fields[i]? = some k → (mappingValues (toNode p))[i]? = some x →
      keep (.string k, x) = false → (mappingValues (toNode d))[i]? = some x) :
    ∀ n j r, j + n = fields.length →
      mappingValues (toNode r) =
        (mappingValues (toNode p)).take j ++ (mappingValues (toNode d)).drop j →
      (((fields.map Node.string).zip (mappingValues (toNode p))).drop j).foldlM
        (fun r e => if keep e = true then fieldStep reader r e else pure r) r = .ok p
  | 0, j, r, hj, hr => by
    have hlen := form.length p
    have hnil : ((fields.map Node.string).zip (mappingValues (toNode p))).drop j = [] := by
      rw [List.drop_eq_nil_iff, List.length_zip, List.length_map, hlen]
      omega
    rw [hnil, List.foldlM_nil]
    -- every field has been read: the record read has the written values
    have hvalues : mappingValues (toNode r) = mappingValues (toNode p) := by
      rw [hr, List.take_of_length_le (by omega),
        List.drop_of_length_le (by rw [form.length d]; omega), List.append_nil]
    rw [form.injective p hp r hvalues]
    rfl
  | n + 1, j, r, hj, hr => by
    have hlen := form.length p
    have hjl : j < fields.length := by omega
    have hk : fields[j]? = some fields[j] := List.getElem?_eq_getElem hjl
    have hx : (mappingValues (toNode p))[j]? = some (mappingValues (toNode p))[j] :=
      List.getElem?_eq_getElem (by omega)
    have hdrop : ((fields.map Node.string).zip (mappingValues (toNode p))).drop j =
        (.string fields[j], (mappingValues (toNode p))[j]) ::
          ((fields.map Node.string).zip (mappingValues (toNode p))).drop (j + 1) := by
      rw [List.drop_eq_getElem_cons (by rw [List.length_zip, List.length_map, hlen]; omega),
        List.getElem_zip, List.getElem_map]
    rw [hdrop, List.foldlM_cons]
    by_cases hkp : keep (.string fields[j], (mappingValues (toNode p))[j]) = true
    · -- a kept entry sets its field to the written value
      obtain ⟨set, hset, hread⟩ := form.reads p hp j _ _ hk hx
      obtain ⟨r', hr', hv⟩ := hread r
      rw [if_pos hkp, fieldStep_written hset, hr', ok_bind]
      refine foldlM_written form hp keep hkeep n (j + 1) r' (by omega) ?_
      rw [hv, hr, set_take_append_drop hx (by rw [form.length d]; omega)]
    · -- a dropped entry holds the default, which the record read already has
      have hd := hkeep j _ _ hk hx (by simpa using hkp)
      rw [if_neg hkp]
      refine foldlM_written form hp keep hkeep n (j + 1) r (by omega) ?_
      rw [hr, take_append_drop_of_eq hx hd]

/-- **Reading a written record back.** Reading from the defaults the entries of a fitting record
that a test keeps gives the record, when the test drops only entries holding the default. -/
theorem readFields_written (form : RecordForm fields toNode reader Fits) {p d : α} (hp : Fits p)
    (keep : Node × Node → Bool)
    (hkeep : ∀ (i : Nat) (k : String) (x : Node), fields[i]? = some k → (mappingValues (toNode p))[i]? = some x →
      keep (.string k, x) = false → (mappingValues (toNode d))[i]? = some x) :
    readFields reader d (((fields.map Node.string).zip (mappingValues (toNode p))).filter keep) =
      .ok p := by
  have hnodup : (knownFields reader (((fields.map Node.string).zip
      (mappingValues (toNode p))).filter keep)).Nodup :=
    ((((List.filter_sublist).filterMap _).trans
      (knownFields_zip_sublist reader fields _)).nodup form.nodup)
  rw [readFields_eq_foldlM _ _ _ hnodup, List.foldlM_filter]
  exact form.foldlM_written hp keep hkeep fields.length 0 d (Nat.zero_add _) (by simp)

end RecordForm

end Reading

/-! ## The diff view -/

/-- A value equal only to itself: null, a boolean, an unsigned integer, a string, or an empty
collection. The defaults of every record are written as such values. -/
inductive Atom : Node → Prop
  | null : Atom .null
  | bool (b : Bool) : Atom (.bool b)
  | nat (k : Nat) : Atom (.number (.nat k))
  | string (s : String) : Atom (.string s)
  | emptySequence : Atom (.sequence [])
  | emptyMapping : Atom (.mapping [])

theorem Atom.eq_of_equal {a n : Node} (ha : Atom a) (h : Node.equal a n = true) : n = a := by
  cases ha with
  | null => cases n <;> simp_all [Node.equal]
  | bool b => cases n <;> simp_all [Node.equal]
  | nat k =>
    cases n with
    | number m =>
      cases m <;> simp_all [Node.equal, Number.sameAs, BEq.beq, Number.beq]
    | _ => simp [Node.equal] at h
  | string s => cases n <;> simp_all [Node.equal]
  | emptySequence =>
    cases n with
    | sequence ys =>
      cases ys with
      | nil => rfl
      | cons y ys => simp [Node.equal, Node.equalItems] at h
    | _ => simp [Node.equal] at h
  | emptyMapping =>
    cases n with
    | mapping ys =>
      cases ys with
      | nil => rfl
      | cons y ys => simp [Node.equal] at h
    | _ => simp [Node.equal] at h

/-- Whether the diff view writes an entry: it differs from the default's entry of its key. -/
def differs (base : List (Node × Node)) (e : Node × Node) : Bool :=
  match base.find? (fun b => Node.equal b.1 e.1) with
  | some (_, bv) => !Node.equal bv e.2
  | none => true

theorem diffEntries_mapping (entries base : List (Node × Node)) :
    diffEntries (.mapping entries) (.mapping base) = .mapping (entries.filter (differs base)) :=
  rfl

theorem find?_zip_string {fields : List String} (hnodup : fields.Nodup) {values : List Node}
    {i : Nat} {k : String} {y : Node} (hk : fields[i]? = some k) (hy : values[i]? = some y) :
    ((fields.map Node.string).zip values).find? (fun b => Node.equal b.1 (.string k)) =
      some (.string k, y) := by
  induction fields generalizing values i with
  | nil => cases hk
  | cons f rest ih =>
    obtain ⟨hf, hrest⟩ := List.nodup_cons.1 hnodup
    cases values with
    | nil => cases hy
    | cons v vs =>
      rw [List.map_cons, List.zip_cons_cons, List.find?_cons]
      cases i with
      | zero =>
        cases hk
        cases hy
        simp [Node.equal]
      | succ i =>
        -- a later field: the head's name is another one
        have hki : k ∈ rest := List.mem_of_getElem? hk
        have hne : (f == k) = false := beq_false_of_ne fun h => hf (h ▸ hki)
        simp only [Node.equal, hne]
        exact ih hrest hk hy

theorem differs_eq_false {fields : List String} (hnodup : fields.Nodup) {base : List Node}
    (hatoms : ∀ y ∈ base, Atom y) {i : Nat} {k : String} {x y : Node}
    (hk : fields[i]? = some k) (hy : base[i]? = some y)
    (h : differs ((fields.map Node.string).zip base) (.string k, x) = false) : x = y := by
  rw [differs, find?_zip_string hnodup hk hy] at h
  exact (hatoms y (List.mem_of_getElem? hy)).eq_of_equal (by simpa using h)

namespace RecordForm

variable {α : Type} {fields : List String} {toNode : α → Node} {reader : FieldReader α}
  {Fits : α → Prop}

/-- **The diff view drops only defaults**, when the defaults are written as atoms. -/
theorem differs_keeps (form : RecordForm fields toNode reader Fits) {p d : α}
    (hatoms : ∀ y ∈ mappingValues (toNode d), Atom y) :
    ∀ (i : Nat) (k : String) (x : Node), fields[i]? = some k →
      (mappingValues (toNode p))[i]? = some x →
      differs ((fields.map Node.string).zip (mappingValues (toNode d))) (.string k, x) = false →
      (mappingValues (toNode d))[i]? = some x := by
  intro i k x hk hx h
  have hlen : i < (mappingValues (toNode d)).length := by
    rw [form.length d]
    exact (List.getElem?_eq_some_iff.1 hk).1
  have hy := List.getElem?_eq_getElem hlen
  rw [hy, differs_eq_false form.nodup hatoms hk hy h]

end RecordForm

/-! ## Reading written field values -/

theorem unsigned_written {bits : Nat} {label : String} {k : Nat} (h : k < 2 ^ bits) :
    Read.unsigned bits label (.number (.nat k)) = .ok k := by
  have h : k < Nat.pow 2 bits := h
  simp only [Read.unsigned, Read.untag, h, if_true]

theorem unsigned_lt {bits : Nat} {label : String} {n : Node} {k : Nat}
    (h : Read.unsigned bits label n = .ok k) : k < 2 ^ bits := by
  unfold Read.unsigned at h
  split at h
  · split at h
    · next hk =>
      cases h
      exact hk
    · cases h
  · cases h
  · cases h

theorem optional_string_written (o : Option String) :
    Read.optional Read.string (optionalNode o) = .ok o := by
  cases o <;> rfl

theorem optional_path_written (o : Option String) :
    Read.optional Read.path (optionalNode o) = .ok o := by
  cases o <;> rfl

theorem optionalNode_inj {a b : Option String} (h : optionalNode a = optionalNode b) : a = b := by
  cases a <;> cases b <;> simp_all [optionalNode]

theorem names_written (names : List String) : Read.names (namesNode names) = .ok names := by
  simp only [Read.names, Read.sequence, namesNode, Read.untag]
  induction names with
  | nil => rfl
  | cons n rest ih =>
    rw [List.map_cons, List.mapM_cons, ih]
    rfl

theorem namesNode_inj {a b : List String} (h : namesNode a = namesNode b) : a = b := by
  simp only [namesNode, Node.sequence.injEq] at h
  exact (List.map_injective_iff.2 fun _ _ h => Node.string.inj h) h

/-- Every value of an enumeration is read back from its name. -/
def Spelled.Lawful (β : Type) [Spelled β] : Prop :=
  ∀ v : β, Spelled.parse? (Spelled.name v) = some v

theorem choice_written {β : Type} [Spelled β] (hl : Spelled.Lawful β) (v : β) :
    Read.choice (.string (Spelled.name v)) = .ok v := by
  simp only [Read.choice, hl v]

theorem Spelled.Lawful.name_inj {β : Type} [Spelled β] (hl : Spelled.Lawful β) {a b : β}
    (h : Spelled.name a = Spelled.name b) : a = b := by
  have h := congrArg (fun s => (Spelled.parse? s : Option β)) h
  rw [hl a, hl b] at h
  exact Option.some.inj h

theorem Storage.lawful : Spelled.Lawful Storage := by
  intro v
  cases v <;> rfl

theorem DaemonVariant.lawful : Spelled.Lawful DaemonVariant := by
  intro v
  cases v <;> rfl

theorem Concurrency.lawful : Spelled.Lawful Concurrency := by
  intro v
  cases v <;> rfl

theorem InstanceMode.lawful : Spelled.Lawful InstanceMode := by
  intro v
  cases v <;> rfl

/-! ## The records -/

/-- A nameserver profile as loading makes one: its ports fit in 16 bits and its sweep period
in 64. -/
def NameserverProfile.Fits (p : NameserverProfile) : Prop :=
  p.port < 2 ^ 16 ∧ p.broadcastPort < 2 ^ 16 ∧ p.autocleanSecs < 2 ^ 64

theorem NameserverProfile.default_fits : ({} : NameserverProfile).Fits :=
  ⟨by decide, by decide, by decide⟩

theorem NameserverProfile.form :
    RecordForm NameserverProfile.fields NameserverProfile.toNode NameserverProfile.reader
      NameserverProfile.Fits where
  nodup := by decide
  written _ := rfl
  length _ := rfl
  reads p hp i k x hk hx := by
    obtain ⟨hport, hbport, hauto⟩ := hp
    -- one case per field, in the order they are written
    rcases i with _ | _ | _ | _ | _ | _ | _ | i
    · cases hk
      cases hx
      exact ⟨_, rfl, fun r => ⟨{ r with host := p.host }, rfl, rfl⟩⟩
    · cases hk
      cases hx
      exact ⟨_, rfl, fun r => ⟨{ r with port := p.port }, by
        simp only [unsigned_written hport]; rfl, rfl⟩⟩
    · cases hk
      cases hx
      exact ⟨_, rfl, fun r => ⟨{ r with broadcastHost := p.broadcastHost }, by
        simp only [optional_string_written]; rfl, rfl⟩⟩
    · cases hk
      cases hx
      exact ⟨_, rfl, fun r => ⟨{ r with broadcastPort := p.broadcastPort }, by
        simp only [unsigned_written hbport]; rfl, rfl⟩⟩
    · cases hk
      cases hx
      exact ⟨_, rfl, fun r => ⟨{ r with autocleanSecs := p.autocleanSecs }, by
        simp only [unsigned_written hauto]; rfl, rfl⟩⟩
    · cases hk
      cases hx
      exact ⟨_, rfl, fun r => ⟨{ r with storage := p.storage }, by
        simp only [choice_written Storage.lawful]; rfl, rfl⟩⟩
    · cases hk
      cases hx
      exact ⟨_, rfl, fun r => ⟨{ r with storagePath := p.storagePath }, by
        simp only [optional_path_written]; rfl, rfl⟩⟩
    · cases hk
  injective p _ r h := by
    obtain ⟨host, port, bh, bp, ac, st, sp⟩ := r
    simp only [mappingValues, NameserverProfile.toNode, List.map_cons, List.map_nil,
      List.cons.injEq, Node.string.injEq, Node.number.injEq, Number.nat.injEq] at h
    obtain ⟨rfl, rfl, hbh, rfl, rfl, hst, hsp, -⟩ := h
    rw [optionalNode_inj hbh, Storage.lawful.name_inj hst, optionalNode_inj hsp]

/-- A daemon profile as loading makes one: its ports fit in 16 bits, its worker ceiling and its
timeout in 64. -/
def DaemonProfile.Fits (p : DaemonProfile) : Prop :=
  p.port < 2 ^ 16 ∧ p.maxWorkers < 2 ^ 64 ∧ (∀ n, p.natPort = some n → n < 2 ^ 16) ∧
    p.commTimeoutSecs < 2 ^ 64

theorem DaemonProfile.default_fits : ({} : DaemonProfile).Fits := by
  refine ⟨by decide, by decide, fun n h => ?_, by decide⟩
  cases h

theorem DaemonProfile.form :
    RecordForm DaemonProfile.fields DaemonProfile.toNode DaemonProfile.reader
      DaemonProfile.Fits where
  nodup := by decide
  written _ := rfl
  length _ := rfl
  reads p hp i k x hk hx := by
    obtain ⟨hport, hworkers, hnat, htimeout⟩ := hp
    rcases i with _ | _ | _ | _ | _ | _ | _ | _ | _ | _ | i
    · cases hk
      cases hx
      exact ⟨_, rfl, fun r => ⟨{ r with variant := p.variant }, by
        simp only [choice_written DaemonVariant.lawful]; rfl, rfl⟩⟩
    · cases hk
      cases hx
      exact ⟨_, rfl, fun r => ⟨{ r with host := p.host }, rfl, rfl⟩⟩
    · cases hk
      cases hx
      exact ⟨_, rfl, fun r => ⟨{ r with port := p.port }, by
        simp only [unsigned_written hport]; rfl, rfl⟩⟩
    · cases hk
      cases hx
      exact ⟨_, rfl, fun r => ⟨{ r with concurrency := p.concurrency }, by
        simp only [choice_written Concurrency.lawful]; rfl, rfl⟩⟩
    · cases hk
      cases hx
      exact ⟨_, rfl, fun r => ⟨{ r with maxWorkers := p.maxWorkers }, by
        simp only [unsigned_written hworkers]; rfl, rfl⟩⟩
    · cases hk
      cases hx
      exact ⟨_, rfl, fun r => ⟨{ r with unixSocket := p.unixSocket }, by
        simp only [optional_path_written]; rfl, rfl⟩⟩
    · cases hk
      cases hx
      exact ⟨_, rfl, fun r => ⟨{ r with natHost := p.natHost }, by
        simp only [optional_string_written]; rfl, rfl⟩⟩
    · cases hk
      cases hx
      refine ⟨_, rfl, fun r => ⟨{ r with natPort := p.natPort }, ?_, rfl⟩⟩
      -- a NAT port is written as a number when set, as null otherwise
      cases hnp : p.natPort with
      | none => rfl
      | some n =>
        simp only [Read.optional, unsigned_written (hnat n hnp)]
        rfl
    · cases hk
      cases hx
      exact ⟨_, rfl, fun r => ⟨{ r with nameservers := p.nameservers }, by
        simp only [names_written]; rfl, rfl⟩⟩
    · cases hk
      cases hx
      exact ⟨_, rfl, fun r => ⟨{ r with commTimeoutSecs := p.commTimeoutSecs }, by
        simp only [unsigned_written htimeout]; rfl, rfl⟩⟩
    · cases hk
  injective p _ r h := by
    obtain ⟨variant, host, port, concurrency, workers, socket, natHost, natPort, ns, timeout⟩ := r
    simp only [mappingValues, DaemonProfile.toNode, List.map_cons, List.map_nil,
      List.cons.injEq, Node.string.injEq, Node.number.injEq, Number.nat.injEq] at h
    obtain ⟨hv, rfl, rfl, hc, rfl, hs, hnh, hnp, hns, rfl, -⟩ := h
    have hnp : natPort = p.natPort := by
      cases natPort <;> cases hp' : p.natPort <;> simp_all
    rw [DaemonVariant.lawful.name_inj hv, Concurrency.lawful.name_inj hc, optionalNode_inj hs,
      optionalNode_inj hnh, hnp, namesNode_inj hns]

/-- A service binding as loading makes one: its parameters fit. -/
def ServiceBinding.Fits (b : ServiceBinding) : Prop := ParamsFit b.parameters

theorem ServiceBinding.default_fits : ({} : ServiceBinding).Fits := ParamsFit.nil

theorem ServiceBinding.form :
    RecordForm ServiceBinding.fields ServiceBinding.toNode ServiceBinding.reader
      ServiceBinding.Fits where
  nodup := by decide
  written _ := rfl
  length _ := rfl
  reads p hp i k x hk hx := by
    rcases i with _ | _ | _ | _ | _ | _ | i
    · cases hk
      cases hx
      exact ⟨_, rfl, fun r => ⟨{ r with implementation := p.implementation }, rfl, rfl⟩⟩
    · cases hk
      cases hx
      exact ⟨_, rfl, fun r => ⟨{ r with parameters := p.parameters }, by
        simp only [parameters_written hp]; rfl, rfl⟩⟩
    · cases hk
      cases hx
      exact ⟨_, rfl, fun r => ⟨{ r with description := p.description }, rfl, rfl⟩⟩
    · cases hk
      cases hx
      exact ⟨_, rfl, fun r => ⟨{ r with instanceMode := p.instanceMode }, by
        simp only [choice_written InstanceMode.lawful]; rfl, rfl⟩⟩
    · cases hk
      cases hx
      exact ⟨_, rfl, fun r => ⟨{ r with daemon := p.daemon }, rfl, rfl⟩⟩
    · cases hk
      cases hx
      exact ⟨_, rfl, fun r => ⟨{ r with nameservers := p.nameservers }, by
        simp only [names_written]; rfl, rfl⟩⟩
    · cases hk
  injective p hp r h := by
    obtain ⟨impl, params, desc, mode, daemon, ns⟩ := r
    simp only [mappingValues, ServiceBinding.toNode, List.map_cons, List.map_nil,
      List.cons.injEq, Node.string.injEq, Node.mapping.injEq] at h
    obtain ⟨rfl, hparams, rfl, hm, rfl, hns, -⟩ := h
    -- parameters are written without loss
    have hparams := entriesToNode_injective (fun e he _ hw => toNode_injective (hp.2 e he) hw)
      hparams
    rw [hparams, InstanceMode.lawful.name_inj hm, namesNode_inj hns]

theorem Autolaunch.form :
    RecordForm Autolaunch.fields Autolaunch.toNode Autolaunch.reader fun _ => True where
  nodup := by decide
  written _ := rfl
  length _ := rfl
  reads p _ i k x hk hx := by
    rcases i with _ | _ | i
    · cases hk
      cases hx
      exact ⟨_, rfl, fun r => ⟨{ r with nameservers := p.nameservers }, by
        simp only [names_written]; rfl, rfl⟩⟩
    · cases hk
      cases hx
      exact ⟨_, rfl, fun r => ⟨{ r with daemons := p.daemons }, by
        simp only [names_written]; rfl, rfl⟩⟩
    · cases hk
  injective p _ r h := by
    obtain ⟨ns, ds⟩ := r
    simp only [mappingValues, Autolaunch.toNode, List.map_cons, List.map_nil,
      List.cons.injEq] at h
    rw [namesNode_inj h.1, namesNode_inj h.2.1]

/-! ## Reading any value keeps a record fitting -/

theorem optional_unsigned_lt {bits : Nat} {label : String} {n : Node} {o : Option Nat}
    (h : Read.optional (Read.unsigned bits label) n = .ok o) : ∀ k, o = some k → k < 2 ^ bits := by
  intro k hk
  unfold Read.optional at h
  split at h
  · cases h
    cases hk
  · obtain ⟨k', hk', h⟩ := bind_eq_ok.1 h
    cases h
    cases hk
    exact unsigned_lt hk'

theorem NameserverProfile.set_fits {name : String} {set : NameserverProfile → Node →
    Read.Reading NameserverProfile} (hr : NameserverProfile.reader name = some set)
    {r r' : NameserverProfile} {x : Node} (hf : r.Fits) (h : set r x = .ok r') : r'.Fits := by
  unfold NameserverProfile.reader at hr
  split at hr <;> (try cases hr) <;> obtain ⟨y, hy, h⟩ := bind_eq_ok.1 h <;> cases h
  -- the fields with a bound are read within it; the others leave the bounds alone
  · exact hf
  · exact ⟨unsigned_lt hy, hf.2⟩
  · exact hf
  · exact ⟨hf.1, unsigned_lt hy, hf.2.2⟩
  · exact ⟨hf.1, hf.2.1, unsigned_lt hy⟩
  · exact hf
  · exact hf

theorem DaemonProfile.set_fits {name : String} {set : DaemonProfile → Node →
    Read.Reading DaemonProfile} (hr : DaemonProfile.reader name = some set)
    {r r' : DaemonProfile} {x : Node} (hf : r.Fits) (h : set r x = .ok r') : r'.Fits := by
  unfold DaemonProfile.reader at hr
  split at hr <;> (try cases hr) <;> obtain ⟨y, hy, h⟩ := bind_eq_ok.1 h <;> cases h
  · exact hf
  · exact hf
  · exact ⟨unsigned_lt hy, hf.2⟩
  · exact hf
  · exact ⟨hf.1, unsigned_lt hy, hf.2.2⟩
  · exact hf
  · exact hf
  · exact ⟨hf.1, hf.2.1, optional_unsigned_lt hy, hf.2.2.2⟩
  · exact hf
  · exact ⟨hf.1, hf.2.1, hf.2.2.1, unsigned_lt hy⟩

theorem ServiceBinding.set_fits {name : String} {set : ServiceBinding → Node →
    Read.Reading ServiceBinding} (hr : ServiceBinding.reader name = some set)
    {r r' : ServiceBinding} {x : Node} (hx : x.Canonical) (hf : r.Fits) (h : set r x = .ok r') :
    r'.Fits := by
  unfold ServiceBinding.reader at hr
  split at hr <;> (try cases hr) <;> obtain ⟨y, hy, h⟩ := bind_eq_ok.1 h <;> cases h
  · exact hf
  · exact parameters_fit hx hy
  · exact hf
  · exact hf
  · exact hf
  · exact hf

/-! ## The defaults are written as atoms -/

theorem NameserverProfile.default_atoms :
    ∀ y ∈ mappingValues (NameserverProfile.toNode {}), Atom y := by
  intro y hy
  simp only [mappingValues, NameserverProfile.toNode, optionalNode, List.map_cons, List.map_nil,
    List.mem_cons, List.not_mem_nil, or_false] at hy
  rcases hy with rfl | rfl | rfl | rfl | rfl | rfl | rfl <;> constructor

theorem DaemonProfile.default_atoms :
    ∀ y ∈ mappingValues (DaemonProfile.toNode {}), Atom y := by
  intro y hy
  simp only [mappingValues, DaemonProfile.toNode, optionalNode, namesNode, List.map_cons,
    List.map_nil, List.mem_cons, List.not_mem_nil, or_false] at hy
  rcases hy with rfl | rfl | rfl | rfl | rfl | rfl | rfl | rfl | rfl | rfl <;> constructor

theorem ServiceBinding.default_atoms :
    ∀ y ∈ mappingValues (ServiceBinding.toNode {}), Atom y := by
  intro y hy
  simp only [mappingValues, ServiceBinding.toNode, namesNode, List.map_cons, List.map_nil,
    List.mem_cons, List.not_mem_nil, or_false] at hy
  rcases hy with rfl | rfl | rfl | rfl | rfl | rfl <;> constructor

theorem Autolaunch.default_atoms : ∀ y ∈ mappingValues (Autolaunch.toNode {}), Atom y := by
  intro y hy
  simp only [mappingValues, Autolaunch.toNode, namesNode, List.map_cons, List.map_nil,
    List.mem_cons, List.not_mem_nil, or_false] at hy
  rcases hy with rfl | rfl <;> constructor

end LabFleet.Config

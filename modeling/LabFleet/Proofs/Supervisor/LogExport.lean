import LabFleet.Supervisor.LogFiles
import LabFleet.Proofs.NameMap
import LabFleet.Proofs.Checks
import Mathlib.Data.List.Chain
import Mathlib.Data.List.TakeWhile
import Mathlib.Data.List.Basic

/-!
Exporting the log files as one. The lines the export is to write are given declaratively
(`logLines`): every non-blank line of every file, where it stands (file name, line number) and
the time it sorts by, the leading timestamp of the last line up to it that has one
(`timeAfter`). The export's fold over a file carries exactly that time along
(`fileLines_eq`), so what it writes is those lines, sorted by `LogFiles.merge` in time order.

The sort is stable and the lines start out by file name and line, so the export's order is
time, then file name, then line (`merge_earlier`). A line with no timestamp of its own has the
time of the line before it in its file; nothing else can sort between the two, since whatever
has that time and sorts between them in place stands between them in the file, and there is
nothing there (`merge_keeps_continuations`).
-/

set_option autoImplicit false

namespace LabFleet.Timestamp

theorem before_irrefl (a : Timestamp) : a.before a = false := by
  simp [before]

theorem before_asymm {a b : Timestamp} (hab : a.before b) : b.before a = false := by
  simp only [before, Bool.or_eq_true, decide_eq_true_eq, Bool.and_eq_true, beq_iff_eq] at hab
  simp only [before, Bool.or_eq_false_iff, decide_eq_false_iff_not, Bool.and_eq_false_iff,
    beq_eq_false_iff_ne]
  omega

theorem not_before_trans {a b c : Timestamp} (hab : b.before a = false) (hbc : c.before b = false) :
    c.before a = false := by
  simp only [before, Bool.or_eq_false_iff, decide_eq_false_iff_not, Bool.and_eq_false_iff,
    beq_eq_false_iff_ne] at *
  omega

theorem before_of_not_before_of_ne {a b : Timestamp} (hba : b.before a = false) (hne : a ≠ b) :
    a.before b := by
  obtain ⟨s, n⟩ := a
  obtain ⟨s', n'⟩ := b
  simp only [before, Bool.or_eq_false_iff, decide_eq_false_iff_not, Bool.and_eq_false_iff,
    beq_eq_false_iff_ne, ne_eq, Timestamp.mk.injEq, not_and, Bool.or_eq_true, decide_eq_true_eq,
    Bool.and_eq_true, beq_iff_eq] at *
  omega

end LabFleet.Timestamp

namespace LabFleet.Supervisor.LogFiles

open scoped List

section Order

variable {α : Type}

theorem pair_sublist_or_swap {a b : α} :
    ∀ {l : List α}, a ∈ l → b ∈ l → a ≠ b → [a, b] <+ l ∨ [b, a] <+ l
  | [], ha, _, _ => absurd ha List.not_mem_nil
  | x :: t, ha, hb, hne => by
    rcases List.mem_cons.1 ha with rfl | hat <;> rcases List.mem_cons.1 hb with rfl | hbt
    · exact absurd rfl hne
    · exact .inl ((List.singleton_sublist.2 hbt).cons_cons _)
    · exact .inr ((List.singleton_sublist.2 hat).cons_cons _)
    · exact (pair_sublist_or_swap hat hbt hne).imp (·.cons _) (·.cons _)

theorem not_pair_sublist_swap {a b : α} :
    ∀ {l : List α}, l.Nodup → [a, b] <+ l → [b, a] <+ l → False
  | [], _, hab, _ => by simp at hab
  | x :: t, hn, hab, hba => by
    rw [List.nodup_cons] at hn
    rcases List.sublist_cons_iff.1 hab with habt | ⟨r, hr, hrt⟩
    · rcases List.sublist_cons_iff.1 hba with hbat | ⟨r', hr', -⟩
      · exact not_pair_sublist_swap hn.2 habt hbat
      · -- `b` is the head, yet it stands after `a` in the tail
        obtain ⟨rfl, -⟩ := List.cons.inj hr'
        exact hn.1 (habt.subset (by simp : b ∈ [a, b]))
    · obtain ⟨rfl, rfl⟩ := List.cons.inj hr
      rcases List.sublist_cons_iff.1 hba with hbat | ⟨r', hr', hrt'⟩
      · exact hn.1 (hbat.subset (by simp : a ∈ [b, a]))
      · obtain ⟨-, rfl⟩ := List.cons.inj hr'
        exact hn.1 (hrt'.subset (by simp : a ∈ [a]))

variable {R : α → α → Prop}

theorem pair_infix_of_pairwise (hirr : ∀ x, ¬ R x x) (hasymm : ∀ x y, R x y → ¬ R y x)
    {a b : α} : ∀ {l : List α}, l.Pairwise R → a ∈ l → b ∈ l → R a b →
      (∀ c ∈ l, R a c → ¬ R c b) → [a, b] <:+: l
  | [], _, ha, _, _, _ => absurd ha List.not_mem_nil
  | x :: t, hl, ha, hb, hab, hnone => by
    rw [List.pairwise_cons] at hl
    rcases List.mem_cons.1 ha with rfl | hat
    · -- `a` is the head: `b` comes right after it, or what does stands between them
      have hbt : b ∈ t := (List.mem_cons.1 hb).resolve_left fun h => hirr _ (h ▸ hab)
      match t, hbt, hl with
      | y :: t', hbt, hl =>
        rcases List.mem_cons.1 hbt with rfl | hbt'
        · exact ⟨[], t', rfl⟩
        · exact absurd ((List.pairwise_cons.1 hl.2).1 b hbt')
            (hnone y (by simp) (hl.1 y (by simp)))
    · rcases List.mem_cons.1 hb with rfl | hbt
      · exact absurd (hl.1 a hat) (hasymm _ _ hab)
      · exact List.infix_cons (pair_infix_of_pairwise hirr hasymm hl.2 hat hbt hab
          fun c hc => hnone c (List.mem_cons_of_mem _ hc))

theorem not_between_of_pair_infix (hirr : ∀ x, ¬ R x x) (hasymm : ∀ x y, R x y → ¬ R y x)
    {a b c : α} {l : List α} (hl : l.Pairwise R) (hinf : [a, b] <:+: l) (hc : c ∈ l)
    (hac : R a c) (hcb : R c b) : False := by
  obtain ⟨s, t, rfl⟩ := hinf
  have hsplit := List.pairwise_append.1 hl
  rcases List.mem_append.1 hc with hc | hc
  · rcases List.mem_append.1 hc with hc | hc
    · exact hasymm _ _ hac ((List.pairwise_append.1 hsplit.1).2.2 c hc a (by simp))
    · rcases List.mem_pair.1 hc with rfl | rfl
      · exact hirr _ hac
      · exact hirr _ hcb
  · exact hasymm _ _ hcb (hsplit.2.2 b (by simp) c hc)

end Order

/-- The time a line sorts by, given the lines of its file up to it and itself: the leading
timestamp of the last of them that has one, or the earliest instant. -/
def timeAfter (lines : List (List Char)) : Timestamp :=
  (lines.reverse.findSome? leadingTimestamp).getD Timestamp.earliest

/-- A non-blank line of a log file: the file's name, the line's number in it, its text and
the time it sorts by. -/
structure LogLine where
  name : String
  index : Nat
  text : List Char
  time : Timestamp
  deriving DecidableEq, Repr

/-- A line as the export writes it, behind the stem of its file. -/
def LogLine.render (x : LogLine) : String := (splitName x.name).1 ++ " | " ++ String.ofList x.text

/-- The non-blank lines of one file, in order. -/
def fileLogLines (name : String) (lines : List (List Char)) : List LogLine :=
  lines.zipIdx.filterMap fun (line, i) =>
    if line.all isUnicodeSpace then none
    else some ⟨name, i, line, timeAfter (lines.take (i + 1))⟩

/-- The non-blank lines of the files, file by file. -/
def logLines (files : List (String × List UInt8)) : List LogLine :=
  files.flatMap fun f => fileLogLines f.1 (linesFrom [] (Utf8.decodeLossy f.2))

theorem leadingTimestamp_of_blank {line : List Char} (h : line.all isUnicodeSpace) :
    leadingTimestamp line = none := by
  have hdrop : line.dropWhile isUnicodeSpace = [] :=
    List.dropWhile_eq_nil_iff.2 (List.all_eq_true.1 h)
  rw [leadingTimestamp, hdrop]
  rfl

@[simp] theorem timeAfter_nil : timeAfter [] = Timestamp.earliest := rfl

theorem timeAfter_concat (lines : List (List Char)) (line : List Char) :
    timeAfter (lines ++ [line]) = (leadingTimestamp line).getD (timeAfter lines) := by
  rw [timeAfter, List.reverse_append, List.reverse_singleton, List.singleton_append,
    List.findSome?_cons]
  cases leadingTimestamp line <;> rfl

theorem fileLogLines_concat (name : String) (lines : List (List Char)) (line : List Char) :
    fileLogLines name (lines ++ [line]) = fileLogLines name lines ++
      if line.all isUnicodeSpace then [] else [⟨name, lines.length, line, timeAfter (lines ++ [line])⟩] := by
  rw [fileLogLines, List.zipIdx_append, List.filterMap_append, fileLogLines]
  congr 1
  · apply List.filterMap_congr
    rintro ⟨l, i⟩ hi
    have hlt : i + 1 ≤ lines.length := (List.mem_zipIdx' hi).1
    simp only [List.take_append_of_le_length hlt]
  · simp only [List.zipIdx_singleton, Nat.zero_add, List.filterMap_cons, List.filterMap_nil,
      List.take_of_length_le (by simp : (lines ++ [line]).length ≤ lines.length + 1)]
    by_cases h : line.all isUnicodeSpace <;> simp [h]

theorem fileLines_fold (name : String) (F : Timestamp × List (Timestamp × String) → List Char →
      Timestamp × List (Timestamp × String))
    (hF : ∀ acc line, F acc line = if line.all isUnicodeSpace then acc else
      ((leadingTimestamp line).getD acc.1,
        ((leadingTimestamp line).getD acc.1, (splitName name).1 ++ " | " ++ String.ofList line) :: acc.2))
    (lines : List (List Char)) :
    lines.foldl F (Timestamp.earliest, []) =
      (timeAfter lines, ((fileLogLines name lines).map fun x => (x.time, x.render)).reverse) := by
  induction lines using List.reverseRecOn with
  | nil => rfl
  | append_singleton lines line ih =>
    rw [List.foldl_append, ih, List.foldl_cons, List.foldl_nil, hF, fileLogLines_concat,
      timeAfter_concat]
    by_cases hblank : line.all isUnicodeSpace
    · simp [hblank, leadingTimestamp_of_blank hblank]
    · simp [hblank, LogLine.render]

theorem fileLines_eq (name : String) (text : List Char) :
    fileLines (splitName name).1 text =
      (fileLogLines name (linesFrom [] text)).map fun x => (x.time, x.render) := by
  obtain ⟨F, hF, hlines⟩ : ∃ F, (∀ acc line, F acc line = if line.all isUnicodeSpace then acc else
      ((leadingTimestamp line).getD acc.1,
        ((leadingTimestamp line).getD acc.1, (splitName name).1 ++ " | " ++ String.ofList line) :: acc.2)) ∧
      fileLines (splitName name).1 text = ((linesFrom [] text).foldl F (Timestamp.earliest, [])).2.reverse :=
    ⟨_, fun _ _ => rfl, rfl⟩
  rw [hlines, fileLines_fold name F hF, List.reverse_reverse]

/-- Lines in time order, ties left as they stand. -/
def LogLine.notLater (a b : LogLine) : Bool := !b.time.before a.time

theorem LogLine.notLater_trans (a b c : LogLine) (hab : a.notLater b) (hbc : b.notLater c) :
    a.notLater c := by
  simp only [LogLine.notLater, Bool.not_eq_true'] at *
  exact Timestamp.not_before_trans hab hbc

theorem LogLine.notLater_total (a b : LogLine) : (a.notLater b || b.notLater a) = true := by
  cases h : b.time.before a.time
  · simp [LogLine.notLater, h]
  · simp [LogLine.notLater, Timestamp.before_asymm h]

theorem merge_eq (files : List (String × List UInt8)) :
    merge files = ((logLines files).mergeSort LogLine.notLater).map LogLine.render := by
  -- the lines `merge` reads from a file, whatever its function reading them is called
  have hlines : ∀ g : String × List UInt8 → List (Timestamp × String),
      (∀ f, g f = fileLines (splitName f.1).1 (Utf8.decodeLossy f.2)) →
      files.flatMap g = (logLines files).map fun x => (x.time, x.render) := by
    intro g hg
    rw [logLines, List.map_flatMap]
    congr 1
    funext f
    rw [hg]
    exact fileLines_eq f.1 _
  have hsort : ((logLines files).mergeSort LogLine.notLater).map (fun x => (x.time, x.render)) =
      ((logLines files).map fun x => (x.time, x.render)).mergeSort fun a b => !b.1.before a.1 :=
    List.map_mergeSort fun _ _ _ _ => rfl
  rw [merge]
  simp only
  rw [hlines _ fun _ => rfl, ← hsort, List.map_map]
  rfl

/-- Where a line stands among all the lines: by file name, then by line. -/
def LogLine.Precedes (a b : LogLine) : Prop :=
  a.name < b.name ∨ a.name = b.name ∧ a.index < b.index

theorem LogLine.Precedes.irrefl (a : LogLine) : ¬ a.Precedes a := by
  rintro (h | ⟨-, h⟩)
  · exact lt_irrefl _ h
  · exact Nat.lt_irrefl _ h

theorem LogLine.Precedes.asymm {a b : LogLine} (hab : a.Precedes b) : ¬ b.Precedes a := by
  rcases hab with hab | ⟨hn, hi⟩ <;> rintro (hba | ⟨hn', hi'⟩)
  · exact lt_asymm hab hba
  · exact lt_irrefl _ (hn' ▸ hab)
  · exact lt_irrefl _ (hn ▸ hba)
  · omega

/-- The order of the export: by time, and lines of one time by where they stand. -/
def LogLine.Earlier (a b : LogLine) : Prop :=
  a.time.before b.time ∨ a.time = b.time ∧ a.Precedes b

theorem LogLine.Earlier.irrefl (a : LogLine) : ¬ a.Earlier a := by
  rintro (h | ⟨-, h⟩)
  · simp [Timestamp.before_irrefl] at h
  · exact LogLine.Precedes.irrefl a h

theorem LogLine.Earlier.asymm {a b : LogLine} (hab : a.Earlier b) : ¬ b.Earlier a := by
  rcases hab with hab | ⟨ht, hp⟩ <;> rintro (hba | ⟨ht', hp'⟩)
  · simp [Timestamp.before_asymm hab] at hba
  · simp [ht', Timestamp.before_irrefl] at hab
  · simp [ht, Timestamp.before_irrefl] at hba
  · exact hp.asymm hp'

theorem fileLogLines_bounds (name : String) (lines : List (List Char)) :
    ∀ x ∈ fileLogLines name lines, x.name = name ∧ x.index < lines.length := by
  induction lines using List.reverseRecOn with
  | nil => simp [fileLogLines]
  | append_singleton lines line ih =>
    intro x hx
    rw [fileLogLines_concat, List.mem_append] at hx
    rcases hx with hx | hx
    · obtain ⟨hn, hi⟩ := ih x hx
      exact ⟨hn, by simp; omega⟩
    · split at hx
      · simp at hx
      · simp only [List.mem_singleton] at hx
        subst hx
        simp

theorem fileLogLines_pairwise (name : String) (lines : List (List Char)) :
    (fileLogLines name lines).Pairwise fun a b => a.index < b.index := by
  induction lines using List.reverseRecOn with
  | nil => simp [fileLogLines]
  | append_singleton lines line ih =>
    rw [fileLogLines_concat, List.pairwise_append]
    refine ⟨ih, ?_, ?_⟩
    · split <;> simp
    · intro a ha b hb
      split at hb
      · simp at hb
      · simp only [List.mem_singleton] at hb
        subst hb
        exact (fileLogLines_bounds name lines a ha).2

/-- A line takes its own timestamp, or the time of the line before it when it has none. -/
def LogLine.CarriesTo (a b : LogLine) : Prop := b.time = (leadingTimestamp b.text).getD a.time

theorem fileLogLines_chain (name : String) (lines : List (List Char)) :
    (fileLogLines name lines).IsChain LogLine.CarriesTo ∧
      ∀ x ∈ (fileLogLines name lines).getLast?, x.time = timeAfter lines := by
  induction lines using List.reverseRecOn with
  | nil => simp [fileLogLines]
  | append_singleton lines line ih =>
    obtain ⟨hchain, hlast⟩ := ih
    rw [fileLogLines_concat, timeAfter_concat]
    by_cases hblank : line.all isUnicodeSpace
    · simp only [hblank, if_true, List.append_nil, leadingTimestamp_of_blank hblank, Option.getD_none]
      exact ⟨hchain, hlast⟩
    · simp only [hblank, Bool.false_eq_true, if_false]
      refine ⟨hchain.append (List.IsChain.singleton _) ?_, by simp⟩
      intro x hx y hy
      simp only [List.head?_cons, Option.mem_def, Option.some.injEq] at hy
      subst hy
      simp [LogLine.CarriesTo, hlast x hx]

theorem mem_logLines {files : List (String × List UInt8)} {x : LogLine} (hx : x ∈ logLines files) :
    ∃ f ∈ files, x.name = f.1 := by
  obtain ⟨f, hf, hxf⟩ := List.mem_flatMap.1 hx
  exact ⟨f, hf, (fileLogLines_bounds _ _ x hxf).1⟩

theorem logLines_cons (f : String × List UInt8) (files : List (String × List UInt8)) :
    logLines (f :: files) = fileLogLines f.1 (linesFrom [] (Utf8.decodeLossy f.2)) ++ logLines files :=
  List.flatMap_cons

theorem logLines_pairwise {files : List (String × List UInt8)}
    (hfiles : files.Pairwise fun f g => f.1 < g.1) : (logLines files).Pairwise LogLine.Precedes := by
  induction files with
  | nil => exact List.Pairwise.nil
  | cons f files ih =>
    rw [List.pairwise_cons] at hfiles
    rw [logLines_cons, List.pairwise_append]
    refine ⟨(fileLogLines_pairwise _ _).imp_of_mem ?_, ih hfiles.2, ?_⟩
    · intro a b ha hb hab
      exact .inr ⟨by rw [(fileLogLines_bounds _ _ a ha).1, (fileLogLines_bounds _ _ b hb).1], hab⟩
    · intro a ha b hb
      obtain ⟨g, hg, hbg⟩ := mem_logLines hb
      left
      rw [(fileLogLines_bounds _ _ a ha).1, hbg]
      exact hfiles.1 g hg

theorem logLines_chain {files : List (String × List UInt8)}
    (hfiles : files.Pairwise fun f g => f.1 < g.1) :
    (logLines files).IsChain fun a b => a.name = b.name → a.CarriesTo b := by
  induction files with
  | nil => exact List.IsChain.nil
  | cons f files ih =>
    rw [List.pairwise_cons] at hfiles
    rw [logLines_cons]
    have hblock : (fileLogLines f.1 (linesFrom [] (Utf8.decodeLossy f.2))).IsChain
        fun a b => a.name = b.name → a.CarriesTo b :=
      (fileLogLines_chain _ _).1.imp fun _ _ h _ => h
    refine hblock.append (ih hfiles.2) ?_
    intro a ha b hb hname
    obtain ⟨g, hg, hbg⟩ := mem_logLines (List.mem_of_mem_head? hb)
    have hlt := hfiles.1 g hg
    rw [← (fileLogLines_bounds _ _ a (List.mem_of_mem_getLast? ha)).1, hname, hbg] at hlt
    exact absurd hlt (lt_irrefl _)

section Sorted

variable {files : List (String × List UInt8)} (hfiles : files.Pairwise fun f g => f.1 < g.1)
include hfiles

theorem logLines_nodup : (logLines files).Nodup :=
  (logLines_pairwise hfiles).imp fun h heq => by subst heq; exact LogLine.Precedes.irrefl _ h

theorem merge_keeps_ties {a b : LogLine} (ha : a ∈ logLines files) (hb : b ∈ logLines files)
    (htime : a.time = b.time) (hab : a.Precedes b) :
    [a, b] <+ (logLines files).mergeSort LogLine.notLater := by
  have hne : a ≠ b := fun h => LogLine.Precedes.irrefl a (h ▸ hab)
  have hsub : [a, b] <+ logLines files := by
    rcases pair_sublist_or_swap ha hb hne with h | h
    · exact h
    · exact absurd (List.pairwise_iff_forall_sublist.1 (logLines_pairwise hfiles) h) hab.asymm
  exact List.pair_sublist_mergeSort LogLine.notLater_trans LogLine.notLater_total
    (by simp [LogLine.notLater, htime, Timestamp.before_irrefl]) hsub

theorem merge_earlier : ((logLines files).mergeSort LogLine.notLater).Pairwise LogLine.Earlier := by
  have hperm := List.mergeSort_perm (logLines files) LogLine.notLater
  have hnodup := hperm.nodup_iff.2 (logLines_nodup hfiles)
  refine List.pairwise_iff_forall_sublist.2 fun {a b} hab => ?_
  have hlater : b.time.before a.time = false := by
    simpa [LogLine.notLater] using List.pairwise_iff_forall_sublist.1
      (List.pairwise_mergeSort LogLine.notLater_trans LogLine.notLater_total _) hab
  by_cases htime : a.time = b.time
  · -- of one time: the lines are distinct, and the sort kept them in place
    have hne : a ≠ b := by simpa using hnodup.sublist hab
    have ha := hperm.subset (hab.subset (by simp : a ∈ [a, b]))
    have hb := hperm.subset (hab.subset (by simp : b ∈ [a, b]))
    rcases pair_sublist_or_swap ha hb hne with h | h
    · exact .inr ⟨htime, List.pairwise_iff_forall_sublist.1 (logLines_pairwise hfiles) h⟩
    · have hba := List.pairwise_iff_forall_sublist.1 (logLines_pairwise hfiles) h
      exact absurd (merge_keeps_ties hfiles hb ha htime.symm hba) (not_pair_sublist_swap hnodup hab ·)
  · exact .inl (Timestamp.before_of_not_before_of_ne hlater htime)

theorem merge_keeps_continuations {a b : LogLine} (hinf : [a, b] <:+: logLines files)
    (hname : a.name = b.name) (hnone : leadingTimestamp b.text = none) :
    [a, b] <:+: (logLines files).mergeSort LogLine.notLater := by
  have hperm := List.mergeSort_perm (logLines files) LogLine.notLater
  have hpre := logLines_pairwise hfiles
  have htime : b.time = a.time := by
    have hpair := List.IsChain.infix (logLines_chain hfiles) hinf
    have hcarry := List.isChain_pair.1 hpair hname
    simpa [LogLine.CarriesTo, hnone] using hcarry
  have hsub : [a, b] <+ logLines files := hinf.sublist
  have hab : a.Precedes b := List.pairwise_iff_forall_sublist.1 hpre hsub
  have ha := hperm.symm.subset (hsub.subset (by simp : a ∈ [a, b]))
  have hb := hperm.symm.subset (hsub.subset (by simp : b ∈ [a, b]))
  refine pair_infix_of_pairwise LogLine.Earlier.irrefl (fun _ _ h => h.asymm) (merge_earlier hfiles)
    ha hb (.inr ⟨htime.symm, hab⟩) ?_
  -- a line sorting between the two has their time, so it stands between them in the files
  intro c hc hac hcb
  have hplace : a.Precedes c ∧ c.Precedes b := by
    rcases hac with hac | ⟨hac, pac⟩ <;> rcases hcb with hcb | ⟨hcb, pcb⟩
    · rw [htime] at hcb
      simp [Timestamp.before_asymm hac] at hcb
    · rw [hcb, htime] at hac
      simp [Timestamp.before_irrefl] at hac
    · rw [htime, ← hac] at hcb
      simp [Timestamp.before_irrefl] at hcb
    · exact ⟨pac, pcb⟩
  exact not_between_of_pair_infix LogLine.Precedes.irrefl (fun _ _ h => h.asymm) hpre hinf
    (hperm.subset hc) hplace.1 hplace.2

end Sorted

end LabFleet.Supervisor.LogFiles

namespace LabFleet.Supervisor.LogDir

open LogFiles

theorem logFiles_sorted {entries : NameMap LogNode} (hs : entries.Sorted)
    {files : List (String × List UInt8)} (hf : (LogDir.present entries).logFiles = .ok files) :
    files.Pairwise fun f g => f.1 < g.1 := by
  simp only [logFiles, Except.ok.injEq] at hf
  subst hf
  refine List.Pairwise.filterMap _ ?_ hs
  rintro ⟨n, node⟩ ⟨n', node'⟩ hlt b hb b' hb'
  cases node <;> cases node' <;> simp only [Option.ite_none_right_eq_some, Option.some.injEq,
    reduceCtorEq] at hb hb'
  obtain ⟨-, rfl⟩ := hb
  obtain ⟨-, rfl⟩ := hb'
  exact hlt

/-- Whether an export can be written at `dest` beside the entries of the logs directory: not
over the directory itself, nor over a directory in it. -/
def Writable (entries : NameMap LogNode) : Destination → Prop
  | .inside name => entries.find? name ≠ some .directory
  | .itself => False
  | .elsewhere => True

theorem merged_present {entries : NameMap LogNode} {files : List (String × List UInt8)}
    (hf : (LogDir.present entries).logFiles = .ok files) {dest : Destination}
    (hdest : ∀ f ∈ files, dest ≠ .inside f.1) (hw : Writable entries dest) :
    ∃ d', (LogDir.present entries).merged dest =
      .ok ((merge files).length, String.join ((merge files).map (· ++ "\n")), d') := by
  have hsources : (files.filter fun f => dest != .inside f.1) = files :=
    List.filter_eq_self.2 fun f hf => by simpa using hdest f hf
  cases dest with
  | inside name =>
    refine ⟨.present (entries.insert name (.file (String.join ((merge files).map (· ++ "\n"))).toUTF8.toList)), ?_⟩
    simp only [merged, hf, Checks.ok_bind, hsources, write, entriesToFill]
    split
    · exact absurd ‹_› hw
    · rfl
  | itself => exact absurd hw id
  | elsewhere => exact ⟨.present entries, by simp only [merged, hf, Checks.ok_bind, hsources]; rfl⟩

/-- Exporting a directory of log files is a stable merge by time. The lines written are the
non-blank lines of the files, each once, behind the stem of their file, and their number is
returned. They come in order of time, and lines of one time in order of file name, then of
line; so a line with no timestamp of its own comes right after the line before it in its
file. -/
theorem export_is_stable_time_merge {entries : NameMap LogNode} (hs : entries.Sorted)
    {files : List (String × List UInt8)} (hf : (LogDir.present entries).logFiles = .ok files)
    {dest : Destination} (hdest : ∀ f ∈ files, dest ≠ .inside f.1) (hw : Writable entries dest) :
    ∃ σ : List LogLine, σ.Perm (logLines files) ∧
      (∃ d', (LogDir.present entries).merged dest =
        .ok (σ.length, String.join (σ.map fun x => x.render ++ "\n"), d')) ∧
      σ.Pairwise LogLine.Earlier ∧
      ∀ a b, [a, b] <:+: logLines files → a.name = b.name → leadingTimestamp b.text = none →
        [a, b] <:+: σ := by
  have hfiles := logFiles_sorted hs hf
  refine ⟨(logLines files).mergeSort LogLine.notLater, List.mergeSort_perm _ _, ?_,
    merge_earlier hfiles, fun a b hinf hname hnone => merge_keeps_continuations hfiles hinf hname hnone⟩
  obtain ⟨d', hd'⟩ := merged_present hf hdest hw
  refine ⟨d', ?_⟩
  rw [hd', merge_eq, List.length_map, List.map_map]
  rfl

/-- Two files whose times interleave, one holding a line with no timestamp of its own. -/
theorem interleaved_logs_export_merged :
    NameMap.Sorted [("a.log", LogNode.file "2024-05-01T12:00:00Z up\n  detail\n".toUTF8.toList),
      ("b.log", LogNode.file "2024-05-01T11:00:00Z ready\n\n".toUTF8.toList)] ∧
    (LogDir.present [("a.log", LogNode.file "2024-05-01T12:00:00Z up\n  detail\n".toUTF8.toList),
      ("b.log", LogNode.file "2024-05-01T11:00:00Z ready\n\n".toUTF8.toList)]).logFiles =
      .ok [("a.log", "2024-05-01T12:00:00Z up\n  detail\n".toUTF8.toList),
        ("b.log", "2024-05-01T11:00:00Z ready\n\n".toUTF8.toList)] ∧
    (∀ f ∈ [("a.log", "2024-05-01T12:00:00Z up\n  detail\n".toUTF8.toList),
        ("b.log", "2024-05-01T11:00:00Z ready\n\n".toUTF8.toList)],
      Destination.elsewhere ≠ .inside f.1) ∧
    Writable [("a.log", LogNode.file "2024-05-01T12:00:00Z up\n  detail\n".toUTF8.toList),
      ("b.log", LogNode.file "2024-05-01T11:00:00Z ready\n\n".toUTF8.toList)] .elsewhere ∧
    ∃ σ : List LogLine, σ.Perm (logLines [("a.log", "2024-05-01T12:00:00Z up\n  detail\n".toUTF8.toList),
        ("b.log", "2024-05-01T11:00:00Z ready\n\n".toUTF8.toList)]) ∧
      (∃ d', (LogDir.present [("a.log", LogNode.file "2024-05-01T12:00:00Z up\n  detail\n".toUTF8.toList),
          ("b.log", LogNode.file "2024-05-01T11:00:00Z ready\n\n".toUTF8.toList)]).merged
          .elsewhere = .ok (σ.length, String.join (σ.map fun x => x.render ++ "\n"), d')) ∧
      σ.Pairwise LogLine.Earlier ∧
      ∀ a b, [a, b] <:+: logLines [("a.log", "2024-05-01T12:00:00Z up\n  detail\n".toUTF8.toList),
          ("b.log", "2024-05-01T11:00:00Z ready\n\n".toUTF8.toList)] →
        a.name = b.name → leadingTimestamp b.text = none → [a, b] <:+: σ := by
  have hs : NameMap.Sorted [("a.log", LogNode.file "2024-05-01T12:00:00Z up\n  detail\n".toUTF8.toList),
      ("b.log", LogNode.file "2024-05-01T11:00:00Z ready\n\n".toUTF8.toList)] := by
    unfold NameMap.Sorted
    decide
  have hf : (LogDir.present [("a.log", LogNode.file "2024-05-01T12:00:00Z up\n  detail\n".toUTF8.toList),
      ("b.log", LogNode.file "2024-05-01T11:00:00Z ready\n\n".toUTF8.toList)]).logFiles =
      .ok [("a.log", "2024-05-01T12:00:00Z up\n  detail\n".toUTF8.toList),
        ("b.log", "2024-05-01T11:00:00Z ready\n\n".toUTF8.toList)] := by
    decide +kernel
  have hdest : ∀ f ∈ [("a.log", "2024-05-01T12:00:00Z up\n  detail\n".toUTF8.toList),
      ("b.log", "2024-05-01T11:00:00Z ready\n\n".toUTF8.toList)],
      Destination.elsewhere ≠ .inside f.1 := fun _ _ h => nomatch h
  exact ⟨hs, hf, hdest, trivial, export_is_stable_time_merge hs hf hdest trivial⟩

end LabFleet.Supervisor.LogDir


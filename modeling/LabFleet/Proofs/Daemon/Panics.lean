import LabFleet.Proofs.Daemon.Exclusion
import LabFleet.Proofs.Checks
import LabFleet.Nameserver.Directory

/-!
Where a remote call can panic.

Every operation a daemon host or a directory serves turns untrusted JSON into typed values
and then indexes, sleeps or computes with them. A panic is a failure the code does not return:
it unwinds out of the dispatch, and on a daemon whose connections share one thread it ends
every connection (`LabFleet.Wire.serial_panic_strands_connections`). This module finds every
place a dispatch can panic:

  1. `sampleCall_panics_iff` — the arithmetic and echo service panics exactly on a
     `delayed_echo` whose seconds read as a finite, nonnegative double of 2^64 or more: the
     guard refuses negative and non-finite seconds, but a duration holds fewer than 2^64.
  2. `selectiveCall_never_panics` — the item-list service never panics: `resolveIndex` only
     gives positions inside the list, so reading or replacing an item never runs past its end.
  3. `remote_calls_panic_only_on_long_sleeps` — whatever its state, a host panics only on
     such a call, whatever the connection, object, method and arguments; a directory never
     panics.
  4. `long_sleep_panics_dispatch` — such a call does panic, on a host built from a valid
     configuration.
-/

namespace LabFleet

/-- Whether a failure is a panic unwinding out of the code that ran. -/
def Error.isPanic : Error → Bool
  | .panicked _ => true
  | _ => false

/-- Whether a computation ended in a panic. -/
def panics {α : Type} : Result α → Bool
  | .ok _ => false
  | .error e => e.isPanic

section Panics

variable {α β : Type}

@[simp] theorem panics_ok (a : α) : panics (.ok a : Result α) = false := rfl

@[simp] theorem panics_error (e : Error) : panics (.error e : Result α) = e.isPanic := rfl

@[simp] theorem panics_pure (a : α) : panics (pure a : Result α) = false := rfl

@[simp] theorem throw_eq_error (e : Error) : (throw e : Result α) = .error e := rfl

theorem panics_bind_eq_false {x : Result α} {f : α → Result β} (hx : panics x = false)
    (hf : ∀ a, x = .ok a → panics (f a) = false) : panics (x >>= f) = false := by
  cases x with
  | error e => exact hx
  | ok a => exact hf a rfl

theorem isPanic_of_eq_error {x : Result α} {e : Error} (hx : panics x = false)
    (h : x = .error e) : e.isPanic = false := by
  rw [h] at hx
  exact hx

theorem panics_map_eq_false {x : Result α} (f : α → β) (hx : panics x = false) :
    panics (f <$> x) = false := by
  cases x with
  | error e => exact hx
  | ok a => rfl

theorem panics_mapM_eq_false {xs : List α} {f : α → Result β}
    (hf : ∀ x ∈ xs, panics (f x) = false) : panics (xs.mapM f) = false := by
  induction xs with
  | nil => rfl
  | cons x rest ih =>
    rw [List.mapM_cons]
    refine panics_bind_eq_false (hf x List.mem_cons_self) fun b _ => ?_
    refine panics_bind_eq_false (ih fun y hy => hf y (List.mem_cons_of_mem x hy)) fun _ _ => ?_
    rfl

end Panics

namespace Service

namespace Args

variable {α : Type} (a : Args) (i : Nat) (name : String) (read : Json.Decoder α)

@[simp] theorem panics_optional : panics (a.optional i name read) = false := by
  unfold optional
  split
  · rfl
  · rfl
  · split <;> rfl

@[simp] theorem panics_required : panics (a.required i name read) = false := by
  unfold required
  exact panics_bind_eq_false (panics_optional ..) fun o _ => by cases o <;> rfl

end Args

/-! ## The sample services -/

/-- The seconds of a `delayed_echo` call do not fit a duration: the message reads as a text,
and the seconds as a finite, nonnegative double of 2^64 or more. -/
def SleepTooLong (args : Args) : Prop :=
  (∃ m, args.required 0 "message" Json.Decoder.string = .ok m) ∧
    ∃ s : Float, args.required 1 "seconds" double = .ok s ∧ s.isFinite = true ∧ ¬ s < 0 ∧
      s ≥ 18446744073709551616.0

@[simp] theorem panics_foldNumbers (values : List Json) (init : Int)
    (intOp : Int → Int → Option Int) (floatOp : Float → Float → Float) :
    panics (foldNumbers values init intOp floatOp) = false := by
  unfold foldNumbers
  refine panics_bind_eq_false (panics_mapM_eq_false fun v _ => ?_) fun numbers _ => ?_
  · cases v <;> rfl
  · cases numbers.foldlM (fun acc n => n.asInt64 >>= intOp acc) init <;> rfl

@[simp] theorem panics_doubleResult (f : Float) : panics (doubleResult f) = false := by
  unfold doubleResult
  split <;> rfl

@[simp] theorem panics_asDouble (v : Json) (name : String) : panics (asDouble v name) = false := by
  unfold asDouble
  split <;> rfl

theorem delayedEcho_panics_iff (id : Nat) (args : Args) :
    panics (sampleCall id "delayed_echo" args) = true ↔ SleepTooLong args := by
  simp only [sampleCall]
  rcases hm : args.required 0 "message" Json.Decoder.string with e | m
  · -- an unreadable message is refused before the seconds are looked at
    have hnp := Args.panics_required args 0 "message" Json.Decoder.string
    rw [hm] at hnp
    simpa [SleepTooLong, hm, bind, Except.bind] using hnp
  rcases hs : args.required 1 "seconds" double with e | s
  · have hnp := Args.panics_required args 1 "seconds" double
    rw [hs] at hnp
    simpa [SleepTooLong, hm, hs, bind, Except.bind] using hnp
  have hsleep : SleepTooLong args ↔
      s.isFinite = true ∧ ¬ s < 0 ∧ s ≥ 18446744073709551616.0 := by
    simp [SleepTooLong, hm, hs]
  rw [hsleep]
  -- both arguments read: the guard refuses, or the conversion to a duration panics or not
  by_cases hguard : s.isFinite = true ∧ ¬ s < 0
  · obtain ⟨hfin, hneg⟩ := hguard
    by_cases hbig : s ≥ 18446744073709551616.0
    · simp [hbig, hfin, hneg, bind, Except.bind, Error.isPanic]
    · simp [hbig, hfin, hneg, bind, Except.bind]
  · have hg : (!s.isFinite || decide (s < 0)) = true := by
      cases hf : s.isFinite <;> simp_all
    simp only [hg, bind, Except.bind, if_true, throw_eq_error, panics_error, Error.isPanic,
      Bool.false_eq_true, false_iff, not_and]
    exact fun hfin hneg _ => hguard ⟨hfin, hneg⟩

/-- **The arithmetic and echo service panics exactly on a sleep too long for a duration.**
Echo, arithmetic and the instance name refuse what they cannot read as invalid, and divide
and subtract refuse a result that is not finite. -/
theorem sampleCall_panics_iff (id : Nat) (op : String) (args : Args) :
    panics (sampleCall id op args) = true ↔ op = "delayed_echo" ∧ SleepTooLong args := by
  by_cases hde : op = "delayed_echo"
  · subst hde
    exact (delayedEcho_panics_iff id args).trans (by simp)
  simp only [hde, false_and, iff_false, Bool.not_eq_true]
  unfold sampleCall
  split
  · -- echo
    exact panics_bind_eq_false (by simp) fun _ _ => rfl
  · exact absurd rfl hde
  · simp
  · simp
  · -- subtract: integers while they fit, doubles otherwise
    refine panics_bind_eq_false (by simp) fun a _ => ?_
    refine panics_bind_eq_false (by simp) fun b _ => ?_
    split
    · split
      · rfl
      · exact panics_bind_eq_false (by simp) fun _ _ => panics_bind_eq_false (by simp)
          fun _ _ => by simp
    · exact panics_bind_eq_false (by simp) fun _ _ => panics_bind_eq_false (by simp)
        fun _ _ => by simp
  · -- divide: a zero denominator is refused
    refine panics_bind_eq_false (by simp) fun _ _ => ?_
    refine panics_bind_eq_false (by simp) fun _ _ => ?_
    refine panics_bind_eq_false (by simp) fun _ _ => ?_
    refine panics_bind_eq_false (by simp) fun d _ => ?_
    split
    · exact panics_bind_eq_false rfl fun _ _ => by simp
    · simp
  · rfl
  · rfl

theorem resolveIndex_lt {len : Nat} {index : Int} {i : Nat} (h : resolveIndex len index = .ok i) :
    i < len := by
  simp only [resolveIndex] at h
  split_ifs at h with hneg hin hin
  · cases h
    omega
  · cases h
    omega

@[simp] theorem panics_resolveIndex (len : Nat) (index : Int) :
    panics (resolveIndex len index) = false := by
  simp only [resolveIndex]
  split_ifs <;> rfl

theorem itemAt_of_lt {items : List Json} {i : Nat} (h : i < items.length) :
    itemAt items i = .ok (items.get ⟨i, h⟩) := by
  simp [itemAt, h]

/-- **The item-list service never panics.** An index is resolved against the list before it
is used, so an item is read or replaced only at a position the list has. -/
theorem selectiveCall_never_panics (items : List Json) (op : String) (args : Args) :
    panics (selectiveCall items op args).1 = false := by
  unfold selectiveCall
  dsimp only
  split
  · rfl
  · split
    · rfl
    · exact isPanic_of_eq_error (Args.panics_required ..) ‹_›
  · split
    · exact isPanic_of_eq_error (Args.panics_optional ..) ‹_›
    · split <;> rfl
  · -- an item is read only at a position `resolveIndex` gave
    refine panics_bind_eq_false (by simp) fun index _ => ?_
    refine panics_bind_eq_false (by simp) fun i hi => ?_
    rw [itemAt_of_lt (resolveIndex_lt hi)]
    rfl
  · -- an item is replaced only at a position `resolveIndex` gave
    split
    · next i value hstep =>
      obtain ⟨_, -, h₁⟩ := Checks.bind_eq_ok.1 hstep
      obtain ⟨_, -, h₂⟩ := Checks.bind_eq_ok.1 h₁
      obtain ⟨j, hj, h₃⟩ := Checks.bind_eq_ok.1 h₂
      obtain ⟨rfl, -⟩ := Prod.mk.inj (Except.ok.inj h₃)
      rw [if_pos (resolveIndex_lt hj)]
      rfl
    · next e hstep =>
      have hnp : panics (do
          let index ← args.required 0 "index" int64
          let value ← args.required 1 "value" anyValue
          let i ← resolveIndex items.length index
          pure (i, value) : Result (Nat × Json)) = false :=
        panics_bind_eq_false (by simp) fun _ _ => panics_bind_eq_false (by simp) fun _ _ =>
          panics_bind_eq_false (by simp) fun _ _ => rfl
      exact isPanic_of_eq_error hnp hstep
  · rfl

theorem Instance.call_panics {inst : Instance} {op : String} {args : Args}
    (h : panics (inst.call op args).1 = true) : op = "delayed_echo" ∧ SleepTooLong args := by
  cases inst with
  | sample id => exact (sampleCall_panics_iff id op args).1 h
  | selective items =>
    rw [Instance.call, selectiveCall_never_panics] at h
    cases h

@[simp] theorem panics_parameter {α : Type} (params : Config.Parameters) (name : String)
    (read : Json.Decoder α) : panics (parameter params name read) = false := by
  unfold parameter
  split
  · rfl
  · split <;> rfl

@[simp] theorem panics_construct (reference : String) (params : Config.Parameters) (id : Nat) :
    panics (construct reference params id) = false := by
  unfold construct
  split
  · rfl
  · split
    · exact panics_bind_eq_false (by simp) fun _ _ => rfl
    · rfl

end Service

/-! ## A daemon host -/

namespace Daemon

open Service

namespace LockTable

variable (t : LockTable) (s : String) (c : ConnectionId)

@[simp] theorem panics_acquire (u : Option String) (now : Timestamp) :
    panics (t.acquire s c u now) = false := by
  rw [acquire_eq]
  split <;> rfl

@[simp] theorem panics_release : panics (t.release s c) = false := by
  rw [release_eq]
  split
  · split <;> rfl
  · rfl
  · rfl

@[simp] theorem panics_enter : panics (t.enter s c) = false := by
  rw [enter_eq]
  split
  · split <;> rfl
  · rfl
  · rfl

@[simp] theorem panics_holder : panics (t.holder s) = false := by
  unfold holder
  rw [slot_eq]
  split <;> rfl

@[simp] theorem panics_forceRelease : panics (t.forceRelease s) = false := by
  rw [forceRelease_eq]
  split <;> rfl

end LockTable

namespace Host

variable (h : Host) (conn : ConnectionId) (now : Timestamp)

@[simp] theorem panics_fresh (hosted : Hosted) : panics (h.fresh hosted) = false := by
  unfold fresh
  exact panics_bind_eq_false (panics_construct ..) fun _ _ => rfl

theorem runOperation_panics {service : String} {hosted : Hosted} {method : String} {args : Args}
    (hp : panics (h.runOperation conn service hosted method args).1 = true) :
    method = "delayed_echo" ∧ SleepTooLong args := by
  unfold runOperation at hp
  dsimp only at hp
  split at hp
  · exact Instance.call_panics hp
  · -- a fresh instance per call: building it never panics
    split at hp
    · next e he =>
      simp [isPanic_of_eq_error (panics_fresh h hosted) he] at hp
    · exact Instance.call_panics hp
  · -- the connection's own instance, built on its first call
    split at hp
    · next e he =>
      -- finding the connection's instance never panics, and building one does not either
      have hnp := isPanic_of_eq_error (by
        split
        · rfl
        · exact panics_fresh h hosted) he
      simp [hnp] at hp
    · exact Instance.call_panics hp

theorem callDaemon_never_panics (call : Wire.Call) : panics (h.callDaemon now call).1 = false := by
  unfold callDaemon
  dsimp only
  split
  · rfl
  · rfl
  · rfl
  · next t _ =>
    split
    · rfl
    · next e he =>
      exact isPanic_of_eq_error (panics_bind_eq_false (by simp) fun _ _ => by simp) he
  · rfl

theorem callService_panics {service : String} {call : Wire.Call}
    (hp : panics (h.callService conn now service call).1 = true) :
    call.method = "delayed_echo" ∧ SleepTooLong ⟨call.args⟩ := by
  unfold callService at hp
  dsimp only at hp
  split at hp
  · cases hp
  · split at hp
    · cases hp
    · -- lock: reading the user and taking the slot never panic
      split at hp
      · cases hp
      · next e he =>
        simp [isPanic_of_eq_error (panics_bind_eq_false (by simp) fun _ _ => by simp) he] at hp
    · split at hp
      · cases hp
      · next e he =>
        simp [isPanic_of_eq_error (LockTable.panics_release ..) he] at hp
    · rw [panics_map_eq_false _ (LockTable.panics_holder ..)] at hp
      cases hp
    · -- an operation of the service, admitted by the lock table if there is one
      split at hp
      · cases hp
      · split at hp
        · next e he =>
          -- entering the lock table never panics
          have hnp := isPanic_of_eq_error (by
            split
            · simp
            · rfl) he
          simp [hnp] at hp
        · exact runOperation_panics h conn hp

theorem dispatch_panics {call : Wire.Call} (hp : panics (h.dispatch conn now call).1 = true) :
    call.object ≠ daemonObject ∧ call.method = "delayed_echo" ∧ SleepTooLong ⟨call.args⟩ := by
  unfold dispatch at hp
  split at hp
  · rw [callDaemon_never_panics] at hp
    cases hp
  · next hobj => exact ⟨hobj, callService_panics h conn now hp⟩

end Host

end Daemon

/-! ## A directory -/

namespace Nameserver.Directory

open Service

variable (d : Directory) (now : Timestamp)

@[simp] theorem panics_persist (next : NameMap Entry) : panics (d.persist next) = false := by
  unfold persist
  split
  · rfl
  · split <;> rfl

@[simp] theorem panics_remove (name : String) : panics (d.remove name) = false := by
  unfold remove
  split
  · exact panics_map_eq_false _ (panics_persist ..)
  · rfl

/-- **A directory never panics**: every call is answered with its result or a failure. -/
theorem dispatch_never_panics (call : Wire.Call) : panics (d.dispatch now call).1 = false := by
  unfold dispatch
  dsimp only
  split
  · rfl
  · split
    · rfl
    · split
      · rfl
      · next e he =>
        have : panics (do
            let name ← Args.required ⟨call.args⟩ 0 "name" Json.Decoder.string
            let address ← Args.required ⟨call.args⟩ 1 "address" addressValue
            let metadata ← Args.optional ⟨call.args⟩ 2 "metadata" strings
            d.register name address (metadata.getD []) now : Result Directory) = false :=
          panics_bind_eq_false (by simp) fun _ _ => panics_bind_eq_false (by simp) fun _ _ =>
            panics_bind_eq_false (by simp) fun _ _ => panics_persist ..
        rwa [he] at this
    · exact panics_bind_eq_false (by simp) fun name _ =>
        panics_bind_eq_false (by unfold lookup; split <;> rfl) fun _ _ => rfl
    · split
      · rfl
      · next e he =>
        have : panics (do
            let name ← Args.required ⟨call.args⟩ 0 "name" Json.Decoder.string
            d.remove name : Result (Bool × Directory)) = false :=
          panics_bind_eq_false (by simp) fun _ _ => panics_remove ..
        rwa [he] at this
    · exact panics_bind_eq_false (by simp) fun _ _ => rfl
    · rfl

end Nameserver.Directory

open Daemon Service

/-- **No remote call panics but a sleep too long for a duration.** A daemon host, in any
state, panics only on a call of `delayed_echo` on a hosted service whose message reads as a
text and whose seconds read as a finite, nonnegative double of 2^64 or more; a directory never
panics. -/
theorem remote_calls_panic_only_on_long_sleeps (h : Host) (d : Nameserver.Directory)
    (conn : ConnectionId) (now : Timestamp) (call : Wire.Call) :
    (panics (h.dispatch conn now call).1 = true →
        call.object ≠ daemonObject ∧ call.method = "delayed_echo" ∧ SleepTooLong ⟨call.args⟩) ∧
      panics (d.dispatch now call).1 = false :=
  ⟨fun hp => Host.dispatch_panics h conn now hp,
    Nameserver.Directory.dispatch_never_panics d now call⟩

/-- A host whose one service is a shared arithmetic and echo instance panics on a sleep of
10^20 seconds, and that call is a sleep too long for a duration. -/
theorem shared_sample_panics_on_long_sleep :
    let h : Host :=
      { name := "d", profile := {}, locks := none, nextInstance := 2, startedAt := ⟨0, 0⟩,
        services := [("svc", ⟨{ implementation := sampleReference, daemon := "d" },
          sampleOperations, .shared (.sample 1)⟩)] }
    let call : Wire.Call := ⟨"svc", "delayed_echo", .array [.string "hi", Json.float 1e20]⟩
    panics (h.dispatch 1 ⟨0, 0⟩ call).1 = true ∧
      call.object ≠ daemonObject ∧ call.method = "delayed_echo" ∧ SleepTooLong ⟨call.args⟩ :=
  by
  intro h call
  have hpanic : panics (h.dispatch 1 ⟨0, 0⟩ call).1 = true := rfl
  exact ⟨hpanic,
    (remote_calls_panic_only_on_long_sleeps h ⟨[], .memory, {}⟩ 1 ⟨0, 0⟩ call).1 hpanic⟩

/-- A daemon hosting the arithmetic and echo service, asked to sleep 10^20 seconds, panics:
the configuration is valid and the host builds, but the seconds pass the guard and overflow
the duration. -/
theorem long_sleep_panics_dispatch :
    let config : Config.LabConfig :=
      { daemons := [("d", {})],
        services := [("svc", { implementation := sampleReference, daemon := "d" })] }
    config.validate (some Catalog.builtin) = .ok () ∧
      ((Host.build "d" config ⟨0, 0⟩).map fun h =>
        (h.dispatch 1 ⟨0, 0⟩ ⟨"svc", "delayed_echo", .array [.string "hi", Json.float 1e20]⟩).1) =
        .ok (.error (.panicked
          "cannot convert float seconds to Duration: value is either too big or NaN")) :=
  ⟨rfl, rfl⟩

end LabFleet

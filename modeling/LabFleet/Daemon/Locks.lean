import LabFleet.Error
import LabFleet.NameMap
import LabFleet.Timestamp

/-!
Locks of a lockable daemon. Every hosted service has a slot that is free or held by one
connection; a connection takes a free slot, and only its holder gives it back. While a slot
is held, calls from other connections into the service are refused as busy. When a
connection goes away every slot it holds is freed, and an operator may free any slot.
-/

namespace LabFleet.Daemon

/-- The number a transport gives one client connection. -/
abbrev ConnectionId := Nat

/-- An exclusive claim on one service. -/
structure Lock where
  holder : ConnectionId
  /-- A free-form label supplied by the client, such as a user name. -/
  user : Option String := none
  acquiredAt : Timestamp
  deriving DecidableEq, Repr

/-- Who holds a lock, as messages name the holder. -/
def Lock.describe (l : Lock) : String :=
  match l.user with
  | some u => s!"{u} (connection {l.holder})"
  | none => s!"connection {l.holder}"

/-- The slots of every hosted service, by name. -/
structure LockTable where
  slots : NameMap (Option Lock)
  deriving DecidableEq, Repr

namespace LockTable

/-- A table with a free slot for each service. -/
def new (services : List String) : LockTable := ⟨NameMap.ofList (services.map (·, none))⟩

/-- The slot of a service; an unknown service is refused. -/
def slot (t : LockTable) (service : String) : Result (Option Lock) :=
  match t.slots.find? service with
  | some s => .ok s
  | none => .error (.unknownObject service)

/-- The table with a service's slot set. -/
def setSlot (t : LockTable) (service : String) (s : Option Lock) : LockTable :=
  ⟨t.slots.insert service s⟩

/-- Takes a free slot for `holder`; a held slot is refused, whoever holds it. -/
def acquire (t : LockTable) (service : String) (holder : ConnectionId) (user : Option String)
    (now : Timestamp) : Result LockTable := do
  match ← t.slot service with
  | some current => throw (.alreadyLocked service current.describe)
  | none => return t.setSlot service (some { holder, user, acquiredAt := now })

/-- Gives a slot back: `true` if `holder` held it, `false` if it was free; a slot held by
another connection is refused as busy. -/
def release (t : LockTable) (service : String) (holder : ConnectionId) :
    Result (Bool × LockTable) := do
  match ← t.slot service with
  | none => return (false, t)
  | some current =>
    if current.holder = holder then return (true, t.setSlot service none)
    else throw (.resourceBusy service current.describe)

/-- Admits a call from `caller`: refused as busy if another connection holds the slot. -/
def enter (t : LockTable) (service : String) (caller : ConnectionId) : Result Unit := do
  match ← t.slot service with
  | some current =>
    if current.holder ≠ caller then throw (.resourceBusy service current.describe)
  | none => pure ()

/-- The lock on a service, if any. -/
def holder (t : LockTable) (service : String) : Result (Option Lock) := t.slot service

/-- Frees every slot `holder` holds, when its connection goes away; gives the services freed,
in name order. -/
def releaseAll (t : LockTable) (holder : ConnectionId) : List String × LockTable :=
  let held (s : Option Lock) : Bool := match s with
    | some l => l.holder == holder
    | none => false
  let freed := (t.slots.filter (held ·.2)).map (·.1)
  (freed, ⟨t.slots.map fun (n, s) => (n, if held s then none else s)⟩)

/-- Frees a slot whoever holds it; gives the lock it had. -/
def forceRelease (t : LockTable) (service : String) : Result (Option Lock × LockTable) := do
  let previous ← t.slot service
  return (previous, t.setSlot service none)

end LockTable

end LabFleet.Daemon

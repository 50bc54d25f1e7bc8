import LabFleet.Wire.Reply
import LabFleet.Wire.Call
import LabFleet.Wire.Address

/-!
An object server and the proxies that reach it, as far as their exchange decides what each
call returns. Connections are numbered from 1 in the order the server accepts them; every
accepted connection takes a number, also one that is refused or closed at once.

Under threaded concurrency every connection needs a worker of a bounded pool for as long as
it stays open. A connection that finds the pool full is never served: its first call is
answered that the daemon is busy with all its workers, and then the server closes it. Under
multiplexed concurrency one thread serves every connection in turn, and none is refused.

A served connection is announced to the dispatcher, its calls go to the dispatcher, and when
it closes the dispatcher hears of it, so state scoped to the connection ends with it. A proxy
whose exchange fails is broken: every later call on it fails without reaching the server. A
failure the server reports is not an exchange failure and leaves the proxy usable.

The runtime numbers the tasks it starts from 1, whoever starts them. The server starts one task
for each connection it accepts; pooled workers also run the announcement, each call and the
closing of a served connection as tasks of their own.

A call whose dispatch panics ends differently under the two kinds of workers. A pooled worker
runs each call as a task of its own, so the panic ends the task and the connection is answered
with an internal failure that names the task. The one thread of serial workers has nothing around it: the panic
ends the thread, the connection is closed without an answer, and from then on no connection
reaches the dispatcher, nor does any closing.
-/

namespace LabFleet.Wire

/-- What a server serves: it answers calls of a connection and hears when one closes. -/
structure Dispatcher (σ : Type) where
  dispatch : Nat → Call → σ → Result Json × σ
  connected : Nat → σ → σ := fun _ s => s
  disconnected : Nat → σ → σ

/-- How a server runs calls. -/
inductive Workers where
  /-- One worker per open connection, at most `limit` of them. -/
  | pool (limit : Nat)
  /-- One thread for every connection. -/
  | serial
  deriving DecidableEq, Repr

/-- The server's side of one connection. -/
inductive Link where
  /-- Served by a worker. -/
  | served
  /-- Refused for want of a worker; its first call is answered busy. -/
  | refused
  /-- Closed by the server: after its refusal was sent, or for want of a dispatch thread. -/
  | dropped
  deriving DecidableEq, Repr

/-- A server over a dispatcher's state. -/
structure Server (σ : Type) where
  target : σ
  workers : Workers
  nextConnection : Nat := 1
  links : List (Nat × Link) := []
  /-- The thread of serial workers has stopped, ended by a panic. -/
  halted : Bool := false
  /-- The number the runtime gives the next task it starts. -/
  nextTask : Nat := 1

/-- A client's handle on one remote object over one connection. -/
structure Proxy where
  address : Address
  connection : Nat
  broken : Bool := false
  deriving DecidableEq, Repr

namespace Server

/-- The link of a connection. -/
def link? (s : Server σ) (conn : Nat) : Option Link := (s.links.find? (·.1 == conn)).map (·.2)

/-- Sets the link of a connection. -/
def setLink (s : Server σ) (conn : Nat) (l : Link) : Server σ :=
  { s with links := s.links.map fun (c, old) => if c == conn then (c, l) else (c, old) }

/-- The number of connections holding a worker. -/
def busyWorkers (s : Server σ) : Nat := (s.links.filter (·.2 == .served)).length

/-- The tasks the server starts for a connection it accepts with link `l`: the connection's own,
and under pooled workers one that announces a served connection. -/
def acceptTasks (s : Server σ) (l : Link) : Nat :=
  match s.workers, l with
  | .pool _, .served => 2
  | _, _ => 1

/-- Accepts a connection: its number, and whether it is served or refused. A served one is
announced to the dispatcher; serial workers whose thread has stopped close it at once. -/
def accept (d : Dispatcher σ) (s : Server σ) : Nat × Server σ :=
  let conn := s.nextConnection
  let l : Link := match s.workers with
    | .pool limit => if s.busyWorkers < max limit 1 then .served else .refused
    | .serial => if s.halted then .dropped else .served
  let s' := { s with
    nextConnection := conn + 1
    links := s.links ++ [(conn, l)]
    nextTask := s.nextTask + s.acceptTasks l }
  (conn, if l = .served then { s' with target := d.connected conn s.target } else s')

/-- The client end of a connection closes: a served one is reported to the dispatcher, unless
its thread has stopped, and frees its worker; pooled workers report it from a task of its own. -/
def hangUp (d : Dispatcher σ) (s : Server σ) (conn : Nat) : Server σ :=
  let s' := { s with links := s.links.filter (·.1 != conn) }
  match s.link? conn with
  | some .served =>
    if s.halted then s'
    else
      let s' := { s' with target := d.disconnected conn s.target }
      match s.workers with
      | .pool _ => { s' with nextTask := s.nextTask + 1 }
      | .serial => s'
  | _ => s'

/-- The failure a server sends a connection it has no worker for. -/
def busy (s : Server σ) : Error :=
  let limit := match s.workers with
    | .pool limit => max limit 1
    | .serial => 1
  .resourceBusy "daemon" s!"all {limit} workers"

/-- The failure a pooled worker answers with when its call, run as task `task`, panicked. -/
def panicFailure (task : Nat) (message : String) : Error :=
  .internal s!"call panicked: task {task} panicked with message {message.quote}"

/-- What a caller sees when the server closes its connection instead of answering. -/
def closedBeforeReply : Error := .io "connection closed before reply"

/-- The message of a dispatch that panicked. -/
def panicOf? : Result Json → Option String
  | .error (.panicked m) => some m
  | _ => none

/-- A call from a proxy: the result it gets, the proxy afterwards, and the server. -/
def call (d : Dispatcher σ) (s : Server σ) (p : Proxy) (method : String) (args : Json) :
    Result Json × Proxy × Server σ :=
  if p.broken then
    (.error (.io s!"connection to {p.address.text} was abandoned by an earlier call"), p, s)
  else
    let c : Call := { object := p.address.object, method, args }
    match s.link? p.connection with
    | some .served =>
      if s.halted then
        (.error closedBeforeReply, { p with broken := true }, s.setLink p.connection .dropped)
      else
        let (r, target) := d.dispatch p.connection c s.target
        match panicOf? r, s.workers with
        | none, .pool _ => ((Reply.ofResult r).toResult, p, { s with target, nextTask := s.nextTask + 1 })
        | none, .serial => ((Reply.ofResult r).toResult, p, { s with target })
        | some m, .pool _ =>
          ((Reply.ofResult (.error (panicFailure s.nextTask m))).toResult, p,
            { s with target, nextTask := s.nextTask + 1 })
        | some _, .serial =>
          (.error closedBeforeReply, { p with broken := true },
            { s.setLink p.connection .dropped with target, halted := true })
    | some .refused =>
      ((Reply.ofResult (.error s.busy)).toResult, p, s.setLink p.connection .dropped)
    | _ => (.error (.io "Broken pipe (os error 32)"), { p with broken := true }, s)

/-- A probe: a connection opened and closed at once. -/
def probe (d : Dispatcher σ) (s : Server σ) : Server σ :=
  let (conn, s) := s.accept d
  s.hangUp d conn

end Server

end LabFleet.Wire

import LabFleet.Wire.Server
import LabFleet.Wire.Frame

/-!
A proxy's calls as exchanges on its stream. A call writes the frame of the call, then reads one
frame back and takes the reply in it, all within the proxy's timeout. An exchange that the
deadline or a failing stream cuts short, a call too long to frame, and a reply frame that cannot
be read all leave the stream out of step with the server: the proxy is marked broken, and every
later call on it fails at once, writing nothing. A failure the server sends back is a reply
like any other and leaves the proxy as it was.

The server's side is left open. The bytes it sends, in the order it sends them, are the
channel's `incoming` bytes; where, if anywhere, the stream cuts an exchange short is the
`Turn` of that call.
-/

namespace LabFleet.Wire

/-- What ends an exchange before its reply is read. -/
inductive Cut where
  /-- The call's timeout passes. -/
  | deadline
  /-- The stream fails with an I/O error. -/
  | failure (message : String)
  deriving DecidableEq, Repr

/-- How the stream treats one exchange. -/
inductive Turn where
  /-- The call's frame is written, and the stream is read up to a frame, its end or a frame
  that cannot be read, all before the deadline. -/
  | prompt
  /-- The exchange is cut after `sent` bytes of the call's frame are written. -/
  | cutWriting (sent : Nat) (cut : Cut)
  /-- The exchange is cut after the call's frame is written, while its reply is awaited. -/
  | cutReading (cut : Cut)
  deriving DecidableEq, Repr

/-- One call made through a proxy, and how the stream treats it. -/
structure Exchange where
  method : String
  args : Json := .null
  turn : Turn := .prompt

/-- The failure of an exchange cut short. -/
def Cut.error (c : Call) (timeout : Nat) : Cut → Error
  | .deadline => .timedOut s!"{c.object}.{c.method}" timeout
  | .failure message => .io message

/-- The failure of every call on a proxy whose stream is out of step. -/
def abandoned (a : Address) : Error :=
  .io s!"connection to {a.text} was abandoned by an earlier call"

/-- A proxy's end of its stream. -/
structure Channel where
  address : Address
  /-- The call timeout, in whole seconds. -/
  timeout : Nat := 30
  /-- An earlier exchange failed, so the stream is out of step with the server. -/
  broken : Bool := false
  /-- Every byte written to the stream, in order. -/
  written : List UInt8 := []
  /-- The bytes the server has sent that no finished exchange has read. -/
  incoming : List UInt8

namespace Channel

/-- The call an exchange makes on the proxy's object. -/
def request (ch : Channel) (x : Exchange) : Call :=
  { object := ch.address.object, method := x.method, args := x.args }

/-- One call: its result, and the channel afterwards. -/
def call (ch : Channel) (x : Exchange) : Result Json × Channel :=
  if ch.broken then (.error (abandoned ch.address), ch)
  else
    let c := ch.request x
    match frame c.body with
    | .error e => (.error e, { ch with broken := true })
    | .ok bytes =>
      match x.turn with
      | .cutWriting sent cut =>
        (.error (cut.error c ch.timeout),
          { ch with broken := true, written := ch.written ++ bytes.take sent })
      | .cutReading cut =>
        (.error (cut.error c ch.timeout), { ch with broken := true, written := ch.written ++ bytes })
      | .prompt =>
        match readFrame Reply.ofText ch.incoming with
        | .ok (some (reply, rest)) =>
          (reply.toResult, { ch with written := ch.written ++ bytes, incoming := rest })
        | .ok none =>
          (.error Server.closedBeforeReply, { ch with broken := true, written := ch.written ++ bytes })
        | .error e => (.error e, { ch with broken := true, written := ch.written ++ bytes })

/-- Calls made one after another on one proxy: their results, and the channel afterwards. -/
def run (ch : Channel) : List Exchange → List (Result Json) × Channel
  | [] => ([], ch)
  | x :: xs =>
    let (r, ch) := ch.call x
    let (rs, ch) := ch.run xs
    (r :: rs, ch)

end Channel

end LabFleet.Wire

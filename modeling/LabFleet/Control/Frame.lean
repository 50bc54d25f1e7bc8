import LabFleet.Control.Message
import LabFleet.Archive.Write
import LabFleet.Archive.Read

/-!
Control messages on the wire. A message is archived by the shape of its type and sent as a
frame: its length as four little-endian bytes, then the archive. A receiver refuses a frame
longer than `maxMessage` before reading its body, and refuses a body whose archive does not
check.

Kinds, states, categories and verdicts are unions whose variants carry nothing, archived as a
tag byte in declaration order.
-/

namespace LabFleet.Control

open Archive

/-- The longest frame body a receiver accepts: 8 MiB. -/
def maxMessage : Nat := 8 * 1024 * 1024

/-- A union of `n` variants that carry nothing. -/
def tagShape (n : Nat) : Shape := .choice (List.replicate n [])

/-- Reads the tag of a union whose variants carry nothing. -/
def tagOf? : Datum → Option Nat
  | .variant tag [] => some tag
  | _ => none

/-! ### Shapes -/

/-- A profile kind: nameserver, daemon. -/
def kindShape : Shape := tagShape 2

/-- A profile reference: kind, name. -/
def refShape : Shape := .record [kindShape, .string]

/-- A status target: all, or one profile. -/
def targetShape : Shape := .choice [[], [kindShape, .string]]

/-- A request, variants in declaration order. -/
def requestShape : Shape :=
  .choice [[], [], [kindShape, .string], [kindShape, .string], [targetShape], [],
    [kindShape, .string, .string], [.string, .string], [kindShape, .string, .u32]]

/-- A process state: starting, running, crashed, stopped. -/
def stateShape : Shape := tagShape 4

/-- A process snapshot, fields in declaration order. -/
def snapshotShape : Shape :=
  .record [kindShape, .string, stateShape, .option .u32, .option .i64, .option .u64, .u32, .u32,
    .option .string, .bool, .bool]

/-- A reload report: stopped, restarted, unchanged. -/
def reportShape : Shape := .record [.vec refShape, .vec refShape, .vec refShape]

/-- A payload, variants in declaration order. -/
def payloadShape : Shape :=
  .choice [[], [.u64, .string, .u32], [.vec snapshotShape], [.vec .string], [reportShape]]

/-- A verdict: success, or failure with a category of eleven. -/
def verdictShape : Shape := .choice [[], [tagShape 11]]

/-- A response: verdict, message, warnings, payload. -/
def responseShape : Shape := .record [verdictShape, .string, .vec .string, payloadShape]

/-! ### Kinds, states and categories as tags -/

/-- The kind of a tag. -/
def kindOf? : Nat → Option ProfileKind
  | 0 => some .nameserver
  | 1 => some .daemon
  | _ => none

/-- The tag of a state. -/
def ProcessState.tag : ProcessState → Nat
  | .starting => 0
  | .running => 1
  | .crashed => 2
  | .stopped => 3

/-- The state of a tag. -/
def stateOf? : Nat → Option ProcessState
  | 0 => some .starting
  | 1 => some .running
  | 2 => some .crashed
  | 3 => some .stopped
  | _ => none

/-- The tag of a category: its place in `ErrorKind.all`. -/
def categoryTag (k : ErrorKind) : Nat := (ErrorKind.all.findIdx? (· == k)).getD 0

/-- The category of a tag. -/
def categoryOf? (tag : Nat) : Option ErrorKind := ErrorKind.all[tag]?

/-- A kind as a datum. -/
def kindDatum (k : ProfileKind) : Datum := .variant k.rank []

/-- A kind from a datum. -/
def kindOfDatum? (d : Datum) : Option ProfileKind := tagOf? d >>= kindOf?

/-- A string from a datum. -/
def strOf? : Datum → Option String
  | .str s => some s
  | _ => none

/-- A number from a datum. -/
def natOf? : Datum → Option Nat
  | .nat n => some n
  | _ => none

/-- An integer from a datum. -/
def intOf? : Datum → Option Int
  | .int i => some i
  | _ => none

/-- A list of strings from a datum. -/
def stringsOf? : Datum → Option (List String)
  | .list ds => ds.mapM strOf?
  | _ => none

/-! ### Requests -/

/-- A request as a datum. -/
def Request.toDatum : Request → Datum
  | .ping => .variant 0 []
  | .shutdown => .variant 1 []
  | .start k n => .variant 2 [kindDatum k, .str n]
  | .stop k n => .variant 3 [kindDatum k, .str n]
  | .status .all => .variant 4 [.variant 0 []]
  | .status (.one k n) => .variant 4 [.variant 1 [kindDatum k, .str n]]
  | .reload => .variant 5 []
  | .rename k o n => .variant 6 [kindDatum k, .str o, .str n]
  | .renameService o n => .variant 7 [.str o, .str n]
  | .logs k n lines => .variant 8 [kindDatum k, .str n, .nat lines]

/-- A request from a datum of the request shape. -/
def Request.ofDatum? : Datum → Option Request
  | .variant 0 [] => some .ping
  | .variant 1 [] => some .shutdown
  | .variant 2 [k, .str n] => do return .start (← kindOfDatum? k) n
  | .variant 3 [k, .str n] => do return .stop (← kindOfDatum? k) n
  | .variant 4 [.variant 0 []] => some (.status .all)
  | .variant 4 [.variant 1 [k, .str n]] => do return .status (.one (← kindOfDatum? k) n)
  | .variant 5 [] => some .reload
  | .variant 6 [k, .str o, .str n] => do return .rename (← kindOfDatum? k) o n
  | .variant 7 [.str o, .str n] => some (.renameService o n)
  | .variant 8 [k, .str n, .nat lines] => do return .logs (← kindOfDatum? k) n lines
  | _ => none

/-- The archive of a request. -/
def Request.archive (r : Request) : List UInt8 := write requestShape r.toDatum

/-- The request an archive holds, if it checks. -/
def Request.ofArchive? (bytes : Array UInt8) : Option Request :=
  readArchive requestShape bytes >>= Request.ofDatum?

/-! ### Responses -/

/-- An optional value as a datum. -/
def optionDatum {α : Type} (f : α → Datum) : Option α → Datum
  | some a => .some (f a)
  | none => .none

/-- An optional value from a datum. -/
def optionOf? {α : Type} (f : Datum → Option α) : Datum → Option (Option α)
  | .none => some none
  | .some d => (f d).map some
  | _ => none

/-- A snapshot as a datum. -/
def ProcessSnapshot.toDatum (s : ProcessSnapshot) : Datum :=
  .record [kindDatum s.kind, .str s.name, .variant s.state.tag [], optionDatum .nat s.pid,
    optionDatum .int s.startedAtMs, optionDatum .nat s.uptimeSecs, .nat s.restarts,
    .nat s.incarnation, optionDatum .str s.lastError, .bool s.crashLooped, .bool s.adopted]

/-- A snapshot from a datum of the snapshot shape. -/
def ProcessSnapshot.ofDatum? : Datum → Option ProcessSnapshot
  | .record [k, .str name, st, pid, started, uptime, .nat restarts, .nat incarnation, err,
      .bool crashLooped, .bool adopted] => do
    return { kind := ← kindOfDatum? k, name, state := ← tagOf? st >>= stateOf?,
             pid := ← optionOf? natOf? pid, startedAtMs := ← optionOf? intOf? started,
             uptimeSecs := ← optionOf? natOf? uptime, restarts, incarnation,
             lastError := ← optionOf? strOf? err, crashLooped, adopted }
  | _ => none

/-- A profile reference as a datum. -/
def ProfileRef.toDatum (r : ProfileRef) : Datum := .record [kindDatum r.kind, .str r.name]

/-- A profile reference from a datum. -/
def ProfileRef.ofDatum? : Datum → Option ProfileRef
  | .record [k, .str name] => do return { kind := ← kindOfDatum? k, name }
  | _ => none

/-- References from a datum. -/
def refsOf? : Datum → Option (List ProfileRef)
  | .list ds => ds.mapM ProfileRef.ofDatum?
  | _ => none

/-- A payload as a datum. -/
def Payload.toDatum : Payload → Datum
  | .none => .variant 0 []
  | .pong uptime version pid => .variant 1 [.nat uptime, .str version, .nat pid]
  | .records rs => .variant 2 [.list (rs.map ProcessSnapshot.toDatum)]
  | .logs lines => .variant 3 [.list (lines.map .str)]
  | .reload r =>
    .variant 4 [.record [.list (r.stopped.map ProfileRef.toDatum),
      .list (r.restarted.map ProfileRef.toDatum), .list (r.unchanged.map ProfileRef.toDatum)]]

/-- A payload from a datum of the payload shape. -/
def Payload.ofDatum? : Datum → Option Payload
  | .variant 0 [] => some .none
  | .variant 1 [.nat uptime, .str version, .nat pid] => some (.pong uptime version pid)
  | .variant 2 [.list ds] => .records <$> ds.mapM ProcessSnapshot.ofDatum?
  | .variant 3 [d] => .logs <$> stringsOf? d
  | .variant 4 [.record [s, r, u]] => do
    return .reload { stopped := ← refsOf? s, restarted := ← refsOf? r, unchanged := ← refsOf? u }
  | _ => none

/-- A verdict as a datum. -/
def Verdict.toDatum : Verdict → Datum
  | .success => .variant 0 []
  | .failure k => .variant 1 [.variant (categoryTag k) []]

/-- A verdict from a datum. -/
def Verdict.ofDatum? : Datum → Option Verdict
  | .variant 0 [] => some .success
  | .variant 1 [d] => .failure <$> (tagOf? d >>= categoryOf?)
  | _ => none

/-- A response as a datum. -/
def Response.toDatum (r : Response) : Datum :=
  .record [r.verdict.toDatum, .str r.message, .list (r.warnings.map .str), r.payload.toDatum]

/-- A response from a datum of the response shape. -/
def Response.ofDatum? : Datum → Option Response
  | .record [v, .str message, w, p] => do
    return { verdict := ← Verdict.ofDatum? v, message, warnings := ← stringsOf? w,
             payload := ← Payload.ofDatum? p }
  | _ => none

/-- The archive of a response. -/
def Response.archive (r : Response) : List UInt8 := write responseShape r.toDatum

/-- The response an archive holds, if it checks. -/
def Response.ofArchive? (bytes : Array UInt8) : Option Response :=
  readArchive responseShape bytes >>= Response.ofDatum?

/-! ### Frames -/

/-- A frame: the body's length in four little-endian bytes, then the body. -/
def frame (body : List UInt8) : List UInt8 := littleEndian 4 body.length ++ body

/-- Why a frame could not be read. -/
inductive FrameError where
  /-- The input ended before the length or the body. -/
  | early
  /-- The length is over `maxMessage`. -/
  | tooLong (length : Nat)
  deriving DecidableEq, Repr

/-- Reads one frame from the front of the input: its body, or why not. -/
def readFrame (input : List UInt8) : Except FrameError (List UInt8) :=
  if input.length < 4 then .error .early
  else
    let len := ofLittleEndian (input.take 4)
    if len > maxMessage then .error (.tooLong len)
    else if input.length < 4 + len then .error .early
    else .ok ((input.drop 4).take len)

end LabFleet.Control

import LabFleet.Bytes
import LabFleet.Wire.Text

/-!
Frames of the object transport. Each call or reply travels as one frame: the length of its
JSON text as four little-endian bytes, then the text. A frame longer than `maxFrame` is
refused on both sides; a reader that finds fewer than four bytes where a frame would start
takes the stream as closed between frames, and one that finds a body cut short reports an
early end.
-/

namespace LabFleet.Wire

/-- The longest frame body: 16 MiB. -/
def maxFrame : Nat := 16 * 1024 * 1024

/-- The frame of a body, or a refusal when it is too long. -/
def frame (body : List UInt8) : Result (List UInt8) :=
  if body.length > maxFrame then .error (.internal s!"frame of {body.length} bytes too large")
  else .ok (littleEndian 4 body.length ++ body)

/-- The JSON text of a call. -/
def Call.body (c : Call) : List UInt8 := c.toJson.write.toUTF8.toList

/-- The JSON text of a reply. -/
def Reply.body (r : Reply) : List UInt8 := r.toJson.write.toUTF8.toList

/-- The refusal of an incoming frame whose declared length is over `maxFrame`. -/
def frameTooLong (len : Nat) : Error := .internal s!"incoming frame of {len} bytes exceeds limit"

/-- Reads one frame from the front of the input with `decode`: the message and the input
after it, `none` when the input closes between frames, or the failure. -/
def readFrame {α : Type} (decode : List UInt8 → Except Json.ReadError α) (input : List UInt8) :
    Result (Option (α × List UInt8)) :=
  if input.length < 4 then .ok none
  else
    let len := ofLittleEndian (input.take 4)
    let rest := input.drop 4
    if len > maxFrame then .error (frameTooLong len)
    else if rest.length < len then .error (.io "early eof")
    else
      match decode (rest.take len) with
      | .ok a => .ok (some (a, rest.drop len))
      | .error e => .error (.internal s!"failed to decode frame: {e.render}")

/-- Reads at most `limit` frames one after another, stopping after the close or the first
failure, which is the last item. -/
def readFrames {α : Type} (decode : List UInt8 → Except Json.ReadError α) :
    Nat → List UInt8 → List (Result (Option α))
  | 0, _ => []
  | limit + 1, input =>
    match readFrame decode input with
    | .ok (some (a, rest)) => .ok (some a) :: readFrames decode limit rest
    | .ok none => [.ok none]
    | .error e => [.error e]

end LabFleet.Wire

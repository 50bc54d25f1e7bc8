import LabFleet.Wire.Frame

/-!
Frames of the object transport read back.

A frame is the four little-endian bytes of its body's length, then the body. A write refuses a
body longer than `maxFrame` and then puts nothing on the stream (`frame_refused_iff`). A reader
takes one frame off the front of the stream and leaves what follows it alone
(`readFrame_framed`), so the frames of any run of writes read back one message each, in order,
and then as a close (`readFrames_written`). A reader refuses a frame as too long exactly when
the length it declares is over `maxFrame` (`readFrame_tooLong_iff`).

Where the stream stops inside a frame decides what the reader makes of it. Inside the body it
is an early end (`readFrames_cut`). Inside the four length bytes it is not told apart from a
close between frames: the length is read whole or not at all, and a short read is taken as the
peer having closed (`header_cut_reads_as_close`).

* `frames_read_back`: all of it, for any codec under which each message decodes from its
  encoding.
-/

namespace LabFleet.Wire

set_option autoImplicit false

section Reading

variable {α : Type} (decode : List UInt8 → Except Json.ReadError α)

/-! ## Writing -/

/-- The bytes a write puts on the stream: the whole frame, or nothing when it is refused. -/
def written : Result (List UInt8) → List UInt8
  | .ok bytes => bytes
  | .error _ => []

theorem frame_of_le {body : List UInt8} (h : body.length ≤ maxFrame) :
    frame body = .ok (littleEndian 4 body.length ++ body) := by
  simp [frame, Nat.not_lt.mpr h]

theorem frame_refused_iff (body : List UInt8) :
    (∃ e, frame body = .error e) ↔ maxFrame < body.length := by
  unfold frame
  split <;> simp_all

theorem written_frame (body : List UInt8) :
    written (frame body) = if body.length ≤ maxFrame then littleEndian 4 body.length ++ body
      else [] := by
  unfold frame
  split <;> simp_all [written, Nat.not_le.mpr]

/-! ## Reading one frame -/

theorem ofLittleEndian_length {body : List UInt8} (h : body.length ≤ maxFrame) :
    ofLittleEndian (littleEndian 4 body.length) = body.length := by
  rw [ofLittleEndian_littleEndian]
  exact Nat.mod_eq_of_lt (Nat.lt_of_le_of_lt h (by decide))

theorem readFrame_short {input : List UInt8} (h : input.length < 4) :
    readFrame decode input = .ok none := by
  simp [readFrame, h]

theorem readFrame_framed {body : List UInt8} (h : body.length ≤ maxFrame) {a : α}
    (hd : decode body = .ok a) (rest : List UInt8) :
    readFrame decode (littleEndian 4 body.length ++ body ++ rest) = .ok (some (a, rest)) := by
  have hlen := ofLittleEndian_length h
  have hlong : ¬ 4 + (body.length + rest.length) < 4 := by omega
  have hfull : ¬ body.length + rest.length < body.length := by omega
  simp [readFrame, hlen, Nat.not_lt.mpr h, hd, hlong, hfull]

theorem readFrame_cut_body {body : List UInt8} (h : body.length ≤ maxFrame) {j : Nat}
    (hj : j < body.length) :
    readFrame decode (littleEndian 4 body.length ++ body.take j) = .error (.io "early eof") := by
  have hlen := ofLittleEndian_length h
  have hmin : min j body.length = j := by omega
  have hlong : ¬ 4 + j < 4 := by omega
  simp [readFrame, hlen, Nat.not_lt.mpr h, hmin, hlong, hj]

theorem frameTooLong_ne_decodeFailure (n : Nat) (text : String) :
    frameTooLong n ≠ .internal s!"failed to decode frame: {text}" := by
  intro h
  have hhead := congrArg (fun e => match e with
    | Error.internal m => m.toList.head?
    | _ => none) h
  simp [frameTooLong, ToString.toString] at hhead

theorem readFrame_tooLong_iff (input : List UInt8) :
    (∃ n, readFrame decode input = .error (frameTooLong n)) ↔
      4 ≤ input.length ∧ maxFrame < ofLittleEndian (input.take 4) := by
  unfold readFrame
  by_cases hs : input.length < 4
  · simp only [hs, if_true]
    constructor
    · rintro ⟨n, he⟩
      cases he
    · rintro ⟨h4, -⟩
      omega
  · simp only [hs, if_false]
    by_cases hl : ofLittleEndian (input.take 4) > maxFrame
    · rw [if_pos hl]
      exact ⟨fun _ => ⟨by omega, hl⟩, fun _ => ⟨_, rfl⟩⟩
    · rw [if_neg hl]
      have hright : ¬ (4 ≤ input.length ∧ maxFrame < ofLittleEndian (input.take 4)) :=
        fun h => hl h.2
      simp only [hright, iff_false, not_exists]
      intro n
      split
      · simp [frameTooLong]
      · split
        · simp
        · intro he
          exact frameTooLong_ne_decodeFailure n _ (Except.error.inj he).symm

/-! ## Reading a stream -/

@[simp] theorem readFrames_zero (input : List UInt8) : readFrames decode 0 input = [] := rfl

theorem readFrames_framed {body : List UInt8} (h : body.length ≤ maxFrame) {a : α}
    (hd : decode body = .ok a) (limit : Nat) (rest : List UInt8) :
    readFrames decode (limit + 1) (littleEndian 4 body.length ++ body ++ rest) =
      .ok (some a) :: readFrames decode limit rest := by
  simp only [readFrames, readFrame_framed decode h hd]

@[simp] theorem readFrames_nil (limit : Nat) : readFrames decode (limit + 1) [] = [.ok none] := by
  simp [readFrames, readFrame_short decode (show ([] : List UInt8).length < 4 by decide)]

/-- The frames a run of writes puts on a stream. -/
def stream {β : Type} (encode : β → List UInt8) (messages : List β) : List UInt8 :=
  (messages.map fun m => written (frame (encode m))).flatten

/-- The messages a run of writes gets through: those whose encoding fits a frame. -/
def fitting {β : Type} (encode : β → List UInt8) (messages : List β) : List β :=
  messages.filter fun m => (encode m).length ≤ maxFrame

theorem readFrames_written (encode : α → List UInt8) (messages : List α)
    (hd : ∀ m ∈ messages, decode (encode m) = .ok m) (limit : Nat) (rest : List UInt8) :
    readFrames decode ((fitting encode messages).length + limit) (stream encode messages ++ rest) =
      (fitting encode messages).map (fun m => .ok (some m)) ++ readFrames decode limit rest := by
  induction messages with
  | nil => simp [stream, fitting]
  | cons m ms ih =>
    have hms : ∀ x ∈ ms, decode (encode x) = .ok x := fun x hx => hd x (List.mem_cons_of_mem m hx)
    by_cases hfit : (encode m).length ≤ maxFrame
    · -- the frame of `m` is on the stream and reads back as `m`
      have hs : stream encode (m :: ms) ++ rest =
          littleEndian 4 (encode m).length ++ encode m ++ (stream encode ms ++ rest) := by
        simp [stream, written_frame, hfit]
      have hf : fitting encode (m :: ms) = m :: fitting encode ms := by simp [fitting, hfit]
      rw [hs, hf, List.length_cons, Nat.add_right_comm,
        readFrames_framed decode hfit (hd m List.mem_cons_self), ih hms]
      rfl
    · -- the write of `m` was refused and left nothing
      have hs : stream encode (m :: ms) = stream encode ms := by
        simp [stream, written_frame, hfit]
      have hf : fitting encode (m :: ms) = fitting encode ms := by simp [fitting, hfit]
      rw [hs, hf]
      exact ih hms

theorem readFrames_cut {body : List UInt8} (h : body.length ≤ maxFrame) {j : Nat}
    (hj : j < body.length + 4) (limit : Nat) :
    readFrames decode (limit + 1) ((littleEndian 4 body.length ++ body).take j) =
      [if j < 4 then .ok none else .error (.io "early eof")] := by
  by_cases hj4 : j < 4
  · have hshort : ((littleEndian 4 body.length ++ body).take j).length < 4 := by simp; omega
    simp [readFrames, readFrame_short decode hshort, hj4]
  · have hcut : (littleEndian 4 body.length ++ body).take j =
        littleEndian 4 body.length ++ body.take (j - 4) := by
      rw [List.take_append, length_littleEndian, List.take_of_length_le (by simp; omega)]
    rw [hcut]
    simp [readFrames, readFrame_cut_body decode h (j := j - 4) (by omega), hj4]

/-! ## The codec -/

/-- The frame codec of the object transport. A write is refused, and leaves nothing on the
stream, exactly when its body is over `maxFrame`. The frames of a run of writes read back as its
messages in order and then as a close. A stream that stops `j` bytes into one more frame reads
back the same messages and then a close when `j` is under four, an early end when the stop
falls inside the body. A frame is refused as too long exactly when the length it declares is
over `maxFrame`. -/
theorem frames_read_back (encode : α → List UInt8) (messages : List α)
    (hd : ∀ m ∈ messages, decode (encode m) = .ok m) (limit : Nat)
    (hlimit : messages.length < limit) (body : List UInt8) (hbody : body.length ≤ maxFrame)
    (j : Nat) (hj : j < body.length + 4) :
    (∀ b : List UInt8, (∃ e, frame b = .error e) ↔ maxFrame < b.length) ∧
    readFrames decode limit (stream encode messages) =
      (fitting encode messages).map (fun m => .ok (some m)) ++ [.ok none] ∧
    readFrames decode limit (stream encode messages ++ (littleEndian 4 body.length ++ body).take j) =
      (fitting encode messages).map (fun m => .ok (some m)) ++
        [if j < 4 then .ok none else .error (.io "early eof")] ∧
    (∀ input : List UInt8, (∃ n, readFrame decode input = .error (frameTooLong n)) ↔
      4 ≤ input.length ∧ maxFrame < ofLittleEndian (input.take 4)) := by
  -- the reader has room for every message that got through and one read after them
  have hfit : (fitting encode messages).length < limit :=
    Nat.lt_of_le_of_lt (List.length_filter_le _ _) hlimit
  obtain ⟨r, hr⟩ : ∃ r, limit = (fitting encode messages).length + (r + 1) :=
    ⟨limit - (fitting encode messages).length - 1, by omega⟩
  refine ⟨frame_refused_iff, ?_, ?_, readFrame_tooLong_iff decode⟩
  · have hall := readFrames_written decode encode messages hd (r + 1) []
    rw [List.append_nil] at hall
    rw [hr, hall, readFrames_nil]
  · rw [hr, readFrames_written decode encode messages hd (r + 1), readFrames_cut decode hbody hj r]

end Reading

/-- A call to look a name up at the name server. -/
def lookupCall : Call := { object := "nameserver", method := "lookup" }

theorem lookupCall_body_fields : (match Call.ofText lookupCall.body with
      | .ok d => decide (d.object = "nameserver") && decide (d.method = "lookup") &&
          (match d.args with
            | .null => true
            | _ => false)
      | .error _ => false) = true := by
  decide +kernel

theorem lookupCall_decodes : Call.ofText lookupCall.body = .ok lookupCall := by
  have hcheck := lookupCall_body_fields
  split at hcheck
  · next d hd =>
    obtain ⟨object, method, args⟩ := d
    cases args <;> simp_all [lookupCall]
  · cases hcheck

/-- A lookup, and then three of the four length bytes of a second one, read back as the lookup
and a close between frames, not as a frame cut short. -/
theorem header_cut_reads_as_close :
    readFrames Call.ofText 65
        (stream Call.body [lookupCall] ++ (written (frame lookupCall.body)).take 3) =
      [.ok (some lookupCall), .ok none] := by
  have hfit : lookupCall.body.length ≤ maxFrame := by decide +kernel
  have hd : ∀ m ∈ [lookupCall], Call.ofText m.body = .ok m := by
    intro m hm
    rw [List.mem_singleton.mp hm]
    exact lookupCall_decodes
  have hone : fitting Call.body [lookupCall] = [lookupCall] := by simp [fitting, hfit]
  have hread := readFrames_written Call.ofText Call.body [lookupCall] hd 64
    ((littleEndian 4 lookupCall.body.length ++ lookupCall.body).take 3)
  rw [hone] at hread
  rw [written_frame, if_pos hfit]
  rw [show (65 : Nat) = [lookupCall].length + 64 from rfl, hread,
    readFrames_cut Call.ofText hfit (by omega) 63]
  rfl

/-- Two lookups written one after the other, and a third cut after three bytes, read back as
the two lookups and a close. -/
theorem lookups_read_back :
    (∀ m ∈ [lookupCall, lookupCall], Call.ofText m.body = .ok m) ∧ [lookupCall, lookupCall].length < 65 ∧
      lookupCall.body.length ≤ maxFrame ∧ 3 < lookupCall.body.length + 4 ∧
    readFrames Call.ofText 65 (stream Call.body [lookupCall, lookupCall] ++
        (littleEndian 4 lookupCall.body.length ++ lookupCall.body).take 3) =
      (fitting Call.body [lookupCall, lookupCall]).map (fun m => .ok (some m)) ++
        [if 3 < 4 then .ok none else .error (.io "early eof")] := by
  have hd : ∀ m ∈ [lookupCall, lookupCall], Call.ofText m.body = .ok m := by
    intro m hm
    simp only [List.mem_cons, List.not_mem_nil, or_false, or_self] at hm
    exact hm ▸ lookupCall_decodes
  have hfit : lookupCall.body.length ≤ maxFrame := by decide +kernel
  exact ⟨hd, by decide, hfit, by omega,
    (frames_read_back Call.ofText Call.body _ hd 65 (by decide) _ hfit 3 (by omega)).2.2.1⟩

end LabFleet.Wire

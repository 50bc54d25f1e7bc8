import LabFleet.Wire.Proxy
import LabFleet.Proofs.Wire.Frames

/-!
Calls through one proxy stay paired with the server's replies.

Whatever the server sends and wherever the stream cuts an exchange short, the calls made one
after another on a proxy go in two stretches. Up to the first exchange that fails, each call
writes its frame and takes the reply in the next frame of the server's bytes, in order; a value
and a failure the server reports alike keep the proxy usable. The exchange that fails ends in a
failure of its own, never one the server sent, writes at most its call's frame, and breaks the
proxy; every later call fails as abandoned and writes nothing, so a reply that comes late is
never taken for a later call's.

* `call_cases`: the two things one call on a usable proxy can do; `call_takes_reply`: which of
  them a prompt exchange with its reply at hand does.
* `run_broken`: a broken proxy writes nothing more and fails every call.
* `run_cases`: the two stretches of any run, by induction over the calls.
* `proxy_calls_pair_with_replies`: the same for the calls on a newly opened proxy.
-/

namespace LabFleet.Wire

set_option autoImplicit false

/-- Whether a call's result is the server's answer: a value, or a failure the server sent. -/
def answered : Result Json → Bool
  | .ok _ => true
  | .error (.remote _ _) => true
  | .error _ => false

@[simp] theorem answered_toResult (reply : Reply) : answered reply.toResult = true := by
  cases reply <;> rfl

theorem answered_frame_error {body : List UInt8} {e : Error} (h : frame body = .error e) :
    answered (.error e) = false := by
  unfold frame at h
  split at h
  · cases h
    rfl
  · cases h

theorem answered_readFrame_error {α : Type} {decode : List UInt8 → Except Json.ReadError α}
    {input : List UInt8} {e : Error} (h : readFrame decode input = .error e) :
    answered (.error e) = false := by
  unfold readFrame at h
  by_cases hs : input.length < 4
  · simp [hs] at h
  -- the three refusals: a length over the limit, a body cut short, a body that does not decode
  simp only [hs, if_false] at h
  by_cases hl : ofLittleEndian (input.take 4) > maxFrame
  · rw [if_pos hl] at h
    cases h
    rfl
  rw [if_neg hl] at h
  split at h
  · cases h
    rfl
  split at h
  · cases h
  · cases h
    rfl

@[simp] theorem answered_cut (c : Call) (timeout : Nat) (cut : Cut) :
    answered (.error (cut.error c timeout)) = false := by
  cases cut <;> rfl

namespace Channel

variable {ch : Channel}

@[simp] theorem request_address (ch' : Channel) (h : ch'.address = ch.address) :
    ch'.request = ch.request := by
  funext x
  simp [request, h]

@[simp] theorem call_broken (h : ch.broken = true) (x : Exchange) :
    ch.call x = (.error (abandoned ch.address), ch) := by
  simp [call, h]

@[simp] theorem run_nil : ch.run [] = ([], ch) := rfl

@[simp] theorem run_cons (x : Exchange) (xs : List Exchange) :
    ch.run (x :: xs) = ((ch.call x).1 :: ((ch.call x).2.run xs).1, ((ch.call x).2.run xs).2) :=
  rfl

theorem call_prompt (hb : ch.broken = false) {x : Exchange} (ht : x.turn = .prompt)
    {bytes : List UInt8} (hf : frame (ch.request x).body = .ok bytes) {reply : Reply}
    {rest : List UInt8} (hr : readFrame Reply.ofText ch.incoming = .ok (some (reply, rest))) :
    ch.call x = (reply.toResult, { ch with written := ch.written ++ bytes, incoming := rest }) := by
  simp [call, hb, hf, ht, hr]

theorem call_cases (hb : ch.broken = false) (x : Exchange) :
    (∃ reply rest, readFrame Reply.ofText ch.incoming = .ok (some (reply, rest)) ∧
      ch.call x = (reply.toResult,
        { ch with written := ch.written ++ Wire.written (frame (ch.request x).body), incoming := rest })) ∨
    (∃ e part, answered (.error e) = false ∧ part <+: Wire.written (frame (ch.request x).body) ∧
      ch.call x = (.error e, { ch with broken := true, written := ch.written ++ part })) := by
  cases hf : frame (ch.request x).body with
  | error e =>
    -- a call too long to frame writes nothing
    refine .inr ⟨e, [], answered_frame_error hf, List.nil_prefix, ?_⟩
    simp [call, hb, hf]
  | ok bytes =>
    cases ht : x.turn with
    | cutWriting sent cut =>
      refine .inr ⟨_, bytes.take sent, answered_cut (ch.request x) ch.timeout cut, List.take_prefix _ _, ?_⟩
      simp [call, hb, hf, ht]
    | cutReading cut =>
      refine .inr ⟨_, bytes, answered_cut (ch.request x) ch.timeout cut, List.prefix_refl _, ?_⟩
      simp [call, hb, hf, ht]
    | prompt =>
      cases hr : readFrame Reply.ofText ch.incoming with
      | ok read =>
        cases read with
        | some got =>
          obtain ⟨reply, rest⟩ := got
          exact .inl ⟨reply, rest, rfl, by simpa [Wire.written] using call_prompt hb ht hf hr⟩
        | none =>
          -- the server closed the stream before the reply's frame began
          refine .inr ⟨Server.closedBeforeReply, bytes, rfl, List.prefix_refl _, ?_⟩
          simp [call, hb, hf, ht, hr]
      | error e =>
        refine .inr ⟨e, bytes, answered_readFrame_error hr, List.prefix_refl _, ?_⟩
        simp [call, hb, hf, ht, hr]

@[simp] theorem call_address (x : Exchange) : (ch.call x).2.address = ch.address := by
  cases hb : ch.broken
  · rcases call_cases hb x with ⟨_, _, _, hcall⟩ | ⟨_, _, _, _, hcall⟩ <;> simp [hcall]
  · simp [call_broken hb]

theorem call_answered_usable (x : Exchange) (h : answered (ch.call x).1 = true) :
    (ch.call x).2.broken = false := by
  cases hb : ch.broken
  · rcases call_cases hb x with ⟨reply, rest, -, hcall⟩ | ⟨e, part, hlocal, -, hcall⟩
    · simp [hcall, hb]
    · rw [hcall] at h
      simp [hlocal] at h
  · simp [call_broken hb, answered, abandoned] at h

theorem call_takes_reply (hb : ch.broken = false) {x : Exchange} (ht : x.turn = .prompt)
    (hfit : (ch.request x).body.length ≤ maxFrame) {reply : Reply} {rest : List UInt8}
    (hr : readFrame Reply.ofText ch.incoming = .ok (some (reply, rest))) :
    (ch.call x).1 = reply.toResult ∧ (ch.call x).2.broken = false := by
  rw [call_prompt hb ht (frame_of_le hfit) hr]
  exact ⟨rfl, hb⟩

theorem run_broken (hb : ch.broken = true) (xs : List Exchange) :
    ch.run xs = (xs.map fun _ => .error (abandoned ch.address), ch) := by
  induction xs with
  | nil => rfl
  | cons x xs ih => simp [call_broken hb, ih]

end Channel

theorem readFrames_succ_of_readFrame {α : Type} {decode : List UInt8 → Except Json.ReadError α}
    {input rest : List UInt8} {a : α} (h : readFrame decode input = .ok (some (a, rest)))
    (limit : Nat) :
    readFrames decode (limit + 1) input = .ok (some a) :: readFrames decode limit rest := by
  simp [readFrames, h]

@[simp] theorem stream_nil {β : Type} (encode : β → List UInt8) : stream encode [] = [] := rfl

@[simp] theorem stream_cons {β : Type} (encode : β → List UInt8) (m : β) (ms : List β) :
    stream encode (m :: ms) = Wire.written (frame (encode m)) ++ stream encode ms := rfl

namespace Channel

variable {ch : Channel}

theorem run_cases (hb : ch.broken = false) (xs : List Exchange) :
    (∃ replies : List Reply,
      readFrames Reply.ofText xs.length ch.incoming = replies.map (fun r => .ok (some r)) ∧
      (ch.run xs).1 = replies.map Reply.toResult ∧
      (ch.run xs).2.written = ch.written ++ stream (fun x => (ch.request x).body) xs ∧
      (ch.run xs).2.broken = false) ∨
    (∃ pre x post, xs = pre ++ x :: post ∧ ∃ (replies : List Reply) (e : Error) (part : List UInt8),
      readFrames Reply.ofText pre.length ch.incoming = replies.map (fun r => .ok (some r)) ∧
      answered (.error e) = false ∧
      (ch.run xs).1 =
        replies.map Reply.toResult ++ .error e :: post.map (fun _ => .error (abandoned ch.address)) ∧
      part <+: Wire.written (frame (ch.request x).body) ∧
      (ch.run xs).2.written = ch.written ++ stream (fun x => (ch.request x).body) pre ++ part ∧
      (ch.run xs).2.broken = true) := by
  -- induction over the calls, for every usable channel: the first call either takes a reply and
  -- leaves a usable channel for the rest, or breaks the channel for good
  induction xs generalizing ch with
  | nil => exact .inl ⟨[], rfl, rfl, by simp, hb⟩
  | cons x xs ih =>
    rcases call_cases hb x with ⟨reply, rest, hread, hcall⟩ | ⟨e, part, hlocal, hpart, hcall⟩
    · -- the call is answered; the rest of the run starts from the channel after it
      have hb' : (ch.call x).2.broken = false := by simp [hcall, hb]
      have hreq : (ch.call x).2.request = ch.request := request_address _ (call_address x)
      have hin : (ch.call x).2.incoming = rest := by simp [hcall]
      have hwr : (ch.call x).2.written = ch.written ++ Wire.written (frame (ch.request x).body) := by
        simp [hcall]
      have hres : (ch.call x).1 = reply.toResult := by simp [hcall]
      rcases ih hb' with ⟨replies, hframes, hrun, hwritten, hbroken⟩ |
          ⟨pre, y, post, rfl, replies, e, part, hframes, hlocal, hrun, hpart, hwritten, hbroken⟩
      · refine .inl ⟨reply :: replies, ?_, ?_, ?_, hbroken⟩
        · rw [List.length_cons, readFrames_succ_of_readFrame hread, ← hin, hframes]
          rfl
        · simp [hres, hrun]
        · simp [hwritten, hwr, hreq]
      · refine .inr ⟨x :: pre, y, post, rfl, reply :: replies, e, part, ?_, hlocal, ?_, ?_, ?_,
          hbroken⟩
        · rw [List.length_cons, readFrames_succ_of_readFrame hread, ← hin, hframes]
          rfl
        · simp [hres, hrun, call_address]
        · simpa [hreq] using hpart
        · simp [hwritten, hwr, hreq]
    · -- the call fails: it is the `x` of the split, and every later call is abandoned
      have hb' : (ch.call x).2.broken = true := by simp [hcall]
      have hrest := run_broken hb' xs
      refine .inr ⟨[], x, xs, rfl, [], e, part, rfl, hlocal, ?_, hpart, ?_, ?_⟩
      · rw [run_cons, hrest, call_address, hcall]
        rfl
      · rw [run_cons, hrest, hcall]
        simp
      · rw [run_cons, hrest]
        exact hb'

end Channel

/-! ## The exchange-level call

`Server.call` runs a call straight against the server's dispatcher. It is the prompt exchange of
the stream-level proxy whose stream holds the frame of the server's reply, wherever that frame
reads back as the reply. -/

theorem Server.call_broken {σ : Type} {d : Dispatcher σ} {s : Server σ} {p : Proxy}
    (hb : p.broken = true) (method : String) (args : Json) :
    s.call d p method args = (.error (abandoned p.address), p, s) := by
  simp [Server.call, hb, abandoned]

/-- Over a served connection of a running server, a call on a usable proxy, with no panic in its
dispatch, gets what the prompt exchange reads from a stream holding the frame of the server's
reply, and the stream-level proxy stays usable. -/
theorem Server.call_eq_prompt_exchange {σ : Type} {d : Dispatcher σ} {s : Server σ} {p : Proxy}
    {method : String} {args : Json} {r : Result Json} {target : σ} (hb : p.broken = false)
    (hl : s.link? p.connection = some .served) (hh : s.halted = false)
    (hd : d.dispatch p.connection { object := p.address.object, method, args } s.target =
      (r, target))
    (hp : Server.panicOf? r = none)
    (hfit : ({ object := p.address.object, method, args } : Call).body.length ≤ maxFrame)
    (hreply : (Reply.ofResult r).body.length ≤ maxFrame)
    (hdec : Reply.ofText (Reply.ofResult r).body = .ok (Reply.ofResult r))
    (timeout : Nat) (rest : List UInt8) :
    let ch : Channel :=
      { address := p.address, timeout, incoming := written (frame (Reply.ofResult r).body) ++ rest }
    (s.call d p method args).1 = (ch.call { method, args }).1 ∧
      (ch.call { method, args }).2.broken = false := by
  intro ch
  have hread : readFrame Reply.ofText ch.incoming = .ok (some (Reply.ofResult r, rest)) := by
    simp only [ch, written_frame, if_pos hreply]
    exact readFrame_framed Reply.ofText hreply hdec rest
  have hreq : ch.request { method, args } = { object := p.address.object, method, args } := rfl
  have hfit' : (ch.request { method, args }).body.length ≤ maxFrame := by rw [hreq]; exact hfit
  obtain ⟨hres, hbroken⟩ := Channel.call_takes_reply (x := { method, args }) rfl rfl hfit' hread
  refine ⟨?_, hbroken⟩
  rw [hres]
  simp only [Server.call, hb, hl, hh, hd, hp, Bool.false_eq_true, if_false]
  -- either kind of worker answers a call that did not panic with its reply
  cases s.workers <;> rfl

/-- Calls on one proxy never take a reply meant for another call. On a newly opened proxy, over
any bytes the server sends and any cuts of the stream: either every call takes the reply in the
next frame of the server's bytes, writing its call's frame; or the calls split as
`pre ++ x :: post`, where each call of `pre` does so, `x` fails with a failure that is not the
server's and writes at most its call's frame, and every call of `post` fails as abandoned and
writes nothing. And on any proxy, a call the server answered, with a value or a failure, leaves
the proxy usable, and a call on a usable proxy whose exchange is prompt, whose frame fits and
whose reply frame is at the front of the stream takes that reply. -/
theorem proxy_calls_pair_with_replies (address : Address) (timeout : Nat)
    (incoming : List UInt8) (xs : List Exchange) :
    let ch : Channel := { address, timeout, incoming }
    ((∃ replies : List Reply,
      readFrames Reply.ofText xs.length incoming = replies.map (fun r => .ok (some r)) ∧
      (ch.run xs).1 = replies.map Reply.toResult ∧
      (ch.run xs).2.written = stream (fun x => (ch.request x).body) xs) ∨
    (∃ pre x post, xs = pre ++ x :: post ∧ ∃ (replies : List Reply) (e : Error) (part : List UInt8),
      readFrames Reply.ofText pre.length incoming = replies.map (fun r => .ok (some r)) ∧
      answered (.error e) = false ∧
      (ch.run xs).1 =
        replies.map Reply.toResult ++ .error e :: post.map (fun _ => .error (abandoned address)) ∧
      part <+: written (frame (ch.request x).body) ∧
      (ch.run xs).2.written = stream (fun x => (ch.request x).body) pre ++ part)) ∧
    (∀ (c : Channel) (x : Exchange), answered (c.call x).1 = true → (c.call x).2.broken = false) ∧
    ∀ (c : Channel) (x : Exchange) (reply : Reply) (rest : List UInt8), c.broken = false →
      x.turn = .prompt → (c.request x).body.length ≤ maxFrame →
      readFrame Reply.ofText c.incoming = .ok (some (reply, rest)) →
      (c.call x).1 = reply.toResult ∧ (c.call x).2.broken = false := by
  intro ch
  refine ⟨?_, fun c x h => Channel.call_answered_usable x h,
    fun c x reply rest hb ht hfit hr => Channel.call_takes_reply hb ht hfit hr⟩
  rcases Channel.run_cases (show ch.broken = false from rfl) xs with ⟨replies, hframes, hrun, hwritten, -⟩ |
      ⟨pre, x, post, hsplit, replies, e, part, hframes, hlocal, hrun, hpart, hwritten, -⟩
  · exact .inl ⟨replies, hframes, hrun, by simpa [ch] using hwritten⟩
  · exact .inr ⟨pre, x, post, hsplit, replies, e, part, hframes, hlocal, hrun, hpart,
      by simpa [ch] using hwritten⟩

end LabFleet.Wire

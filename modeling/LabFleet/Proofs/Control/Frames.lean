import Mathlib
import LabFleet.Control.Frame
import LabFleet.Supervisor.Server

/-!
Control messages framed and read back.

A control frame is the four little-endian bytes of its body's length, then the body: the body
of a request or of a response is its archive. The length bytes hold the length modulo `2 ^ 32`
(`declared_length`), and a receiver takes the body back whole exactly when it is at most
`maxMessage` (`readFrame_frame_eq_ok_iff`). Every request and every response is determined by
its archived data (`Request.ofDatum?_toDatum`, `Response.ofDatum?_toDatum`), so wherever an
archive reads back as the data it was written from, the message it holds is the one sent.

No writer bounds a frame: an archive holds every string longer than eight bytes in full
(`place_string_adds`, `write_length_ge`), and a captured log line may be as long as its program
writes it. So a supervisor asked for a profile's log, where a line of more than 8 MiB was
captured, writes a response whose frame no client reads (`long_log_line_exceeds_frame_limit`).

* `control_frames_read_back`: requests and responses of at most `maxMessage` bytes of archive
  read back as themselves, and only those.
-/

namespace LabFleet.Control

open Archive

set_option autoImplicit false

/-! ## Frames -/

theorem take_frame (body : List UInt8) : (frame body).take 4 = littleEndian 4 body.length := by
  simp [frame, List.take_left']

theorem drop_frame (body : List UInt8) : (frame body).drop 4 = body := by
  simp [frame, List.drop_left']

@[simp] theorem length_frame (body : List UInt8) : (frame body).length = 4 + body.length := by
  simp [frame]

theorem declared_length (body : List UInt8) :
    ofLittleEndian ((frame body).take 4) = body.length % 2 ^ 32 := by
  rw [take_frame, ofLittleEndian_littleEndian, show Nat.pow 256 4 = 2 ^ 32 by decide]

theorem readFrame_frame_of_le {body : List UInt8} (h : body.length ≤ maxMessage) :
    readFrame (frame body) = .ok body := by
  have hlen : body.length % 2 ^ 32 = body.length :=
    Nat.mod_eq_of_lt (Nat.lt_of_le_of_lt h (by decide))
  have hshort : ¬ 4 + body.length < 4 := by omega
  have hfull : ¬ 4 + body.length < 4 + body.length := Nat.lt_irrefl _
  simp only [readFrame, length_frame, hshort, if_false, declared_length, hlen,
    Nat.not_lt.mpr h, hfull, drop_frame, List.take_length]

theorem readFrame_frame_eq_ok_iff (body : List UInt8) :
    readFrame (frame body) = .ok body ↔ body.length ≤ maxMessage := by
  refine ⟨fun hok => Classical.byContradiction fun hlong => ?_, readFrame_frame_of_le⟩
  have hshort : ¬ (frame body).length < 4 := by simp
  unfold readFrame at hok
  rw [if_neg hshort, declared_length] at hok
  by_cases hwrap : body.length % 2 ^ 32 > maxMessage
  · rw [if_pos hwrap] at hok
    cases hok
  · -- the declared length is below the body's, so the body read is a strict prefix of it
    rw [if_neg hwrap, if_neg (by simp; omega), drop_frame] at hok
    have hcut := congrArg List.length (Except.ok.inj hok)
    simp only [List.length_take] at hcut
    omega

/-! ## Messages from their data -/

theorem kindOfDatum?_kindDatum (k : ProfileKind) : kindOfDatum? (kindDatum k) = some k := by
  cases k <;> rfl

theorem stateOf?_tag (s : ProcessState) : stateOf? s.tag = some s := by
  cases s <;> rfl

theorem categoryOf?_categoryTag (k : ErrorKind) : categoryOf? (categoryTag k) = some k := by
  cases k <;> rfl

theorem mapM_map_of_inverse {α β : Type} {f : α → β} {g : β → Option α} (h : ∀ a, g (f a) = some a)
    (as : List α) : (as.map f).mapM g = some as := by
  induction as with
  | nil => rfl
  | cons a rest ih => simp [List.mapM_cons, h, ih]

theorem Request.ofDatum?_toDatum (q : Request) : Request.ofDatum? q.toDatum = some q := by
  cases q with
  | status target => cases target <;> simp [Request.toDatum, Request.ofDatum?, kindOfDatum?_kindDatum]
  | _ => simp [Request.toDatum, Request.ofDatum?, kindOfDatum?_kindDatum]

theorem optionOf?_optionDatum {α : Type} {f : α → Datum} {g : Datum → Option α}
    (h : ∀ a, g (f a) = some a) (o : Option α) : optionOf? g (optionDatum f o) = some o := by
  cases o <;> simp [optionDatum, optionOf?, h]

theorem ProcessSnapshot.ofDatum?_toDatum (s : ProcessSnapshot) :
    ProcessSnapshot.ofDatum? s.toDatum = some s := by
  simp [ProcessSnapshot.toDatum, ProcessSnapshot.ofDatum?, kindOfDatum?_kindDatum, tagOf?,
    stateOf?_tag, optionOf?_optionDatum (g := natOf?) (f := Datum.nat) (fun _ => rfl),
    optionOf?_optionDatum (g := intOf?) (f := Datum.int) (fun _ => rfl),
    optionOf?_optionDatum (g := strOf?) (f := Datum.str) (fun _ => rfl)]

theorem ProfileRef.ofDatum?_toDatum (r : ProfileRef) : ProfileRef.ofDatum? r.toDatum = some r := by
  simp [ProfileRef.toDatum, ProfileRef.ofDatum?, kindOfDatum?_kindDatum]

theorem refsOf?_map (rs : List ProfileRef) : refsOf? (.list (rs.map ProfileRef.toDatum)) = some rs :=
  mapM_map_of_inverse ProfileRef.ofDatum?_toDatum rs

theorem stringsOf?_map (ss : List String) : stringsOf? (.list (ss.map .str)) = some ss :=
  mapM_map_of_inverse (g := strOf?) (fun _ => rfl) ss

theorem Payload.ofDatum?_toDatum (p : Payload) : Payload.ofDatum? p.toDatum = some p := by
  cases p with
  | none => rfl
  | pong uptime version pid => rfl
  | records rs =>
    simp [Payload.toDatum, Payload.ofDatum?,
      mapM_map_of_inverse ProcessSnapshot.ofDatum?_toDatum rs]
  | logs lines => simp [Payload.toDatum, Payload.ofDatum?, stringsOf?_map]
  | reload report => simp [Payload.toDatum, Payload.ofDatum?, refsOf?_map]

theorem Verdict.ofDatum?_toDatum (v : Verdict) : Verdict.ofDatum? v.toDatum = some v := by
  cases v with
  | success => rfl
  | failure k => simp [Verdict.toDatum, Verdict.ofDatum?, tagOf?, categoryOf?_categoryTag]

theorem Response.ofDatum?_toDatum (r : Response) : Response.ofDatum? r.toDatum = some r := by
  simp [Response.toDatum, Response.ofDatum?, Verdict.ofDatum?_toDatum, stringsOf?_map,
    Payload.ofDatum?_toDatum]

theorem Request.ofArchive?_archive {q : Request}
    (h : readArchive requestShape q.archive.toArray = some q.toDatum) :
    Request.ofArchive? q.archive.toArray = some q := by
  simp [Request.ofArchive?, h, Request.ofDatum?_toDatum]

theorem Response.ofArchive?_archive {r : Response}
    (h : readArchive responseShape r.archive.toArray = some r.toDatum) :
    Response.ofArchive? r.archive.toArray = some r := by
  simp [Response.ofArchive?, h, Response.ofDatum?_toDatum]

end LabFleet.Control

namespace LabFleet.Archive

/-! ## What an archive holds -/

section Writing

variable {α β : Type} {n k : Nat}

theorem toList_loop_length (bs : ByteArray) (i : Nat) (r : List UInt8) :
    (ByteArray.toList.loop bs i r).length = r.length + (bs.size - i) := by
  fun_induction ByteArray.toList.loop bs i r with
  | case1 i r h ih => simp only [ih, List.length_cons]; omega
  | case2 i r h => simp; omega

theorem toUTF8_toList_length (t : String) : t.toUTF8.toList.length = t.utf8ByteSize := by
  simp [ByteArray.toList, toList_loop_length]

/-- A writing step that adds at least `n` bytes to whatever the buffer holds. -/
def Adds (n : Nat) (m : WriteM α) : Prop := ∀ b, b.size + n ≤ (m.run b).2.size

theorem Adds.bind {m : WriteM α} {f : α → WriteM β} (hm : Adds n m) (hf : ∀ a, Adds k (f a)) :
    Adds (n + k) (m >>= f) := by
  intro b
  have hfirst := hm b
  have hrest := hf (m.run b).1 (m.run b).2
  show b.size + (n + k) ≤ ((f (m.run b).1).run (m.run b).2).2.size
  omega

theorem Adds.pure (a : α) : Adds 0 (Pure.pure a : WriteM α) := fun _ => Nat.le_refl _

theorem Adds.map {m : WriteM α} (f : α → β) (hm : Adds n m) : Adds n (f <$> m) := hm

theorem Adds.mono {m : WriteM α} (hm : Adds n m) (hk : k ≤ n) : Adds k m :=
  fun b => Nat.le_trans (Nat.add_le_add_left hk _) (hm b)

theorem get_adds : Adds 0 (get : WriteM (Array UInt8)) := fun _ => Nat.le_refl _

theorem emit_adds (bytes : List UInt8) : Adds bytes.length (emit bytes) := by
  intro b
  show b.size + bytes.length ≤ (b ++ bytes.toArray).size
  simp

theorem alignTo_adds (a : Nat) : Adds 0 (alignTo a) := by
  intro b
  have := emit_adds (List.replicate (roundUp b.size a - b.size) 0) b
  simp only [alignTo]
  show b.size + 0 ≤ (((emit _).run b).2).size
  omega

theorem writeItems_adds (item : Shape) (ds : List Datum) (ps : List Placed) (here : Nat) :
    Adds 0 (writeItems item ds ps here) := by
  induction ds generalizing ps here with
  | nil => simp only [writeItems]; exact Adds.pure _
  | cons d ds ih =>
    cases ps with
    | nil => simp only [writeItems]; exact Adds.pure _
    | cons p ps =>
      simp only [writeItems]
      exact ((emit_adds _).bind fun _ => ih ps _).mono (Nat.zero_le _)

theorem place_string_adds {t : String} (h : 8 < t.utf8ByteSize) :
    Adds t.utf8ByteSize (place .string (.str t)) := by
  simp only [place, Nat.not_le.mpr h, if_false]
  have hemit := emit_adds t.toUTF8.toList
  rw [toUTF8_toList_length] at hemit
  exact ((get_adds.bind fun _ => hemit.bind fun _ => Adds.pure _)).mono (by omega)

theorem placeItems_cons_adds {item : Shape} {d : Datum} {rest : List Datum}
    (hd : Adds n (place item d)) (hrest : Adds k (placeItems item rest)) :
    Adds (n + k) (placeItems item (d :: rest)) := by
  simp only [placeItems]
  exact (hd.bind fun _ => hrest.bind fun _ => Adds.pure _).mono (by omega)

theorem place_vec_adds {item : Shape} {ds : List Datum} (h : Adds n (placeItems item ds)) :
    Adds n (place (.vec item) (.list ds)) := by
  simp only [place]
  exact (h.bind fun _ => (alignTo_adds _).bind fun _ =>
    (writeItems_adds _ _ _ _).bind fun _ => Adds.pure _).mono (by omega)

theorem placeItems_nil_adds (item : Shape) : Adds 0 (placeItems item []) := by
  simp only [placeItems]
  exact Adds.pure _

theorem placeFields_nil_adds (fs : List Shape) : Adds 0 (placeFields fs []) := by
  cases fs <;> simp only [placeFields] <;> exact Adds.pure _

theorem placeFields_cons_adds {s : Shape} {fs : List Shape} {d : Datum} {ds : List Datum}
    (hd : Adds n (place s d)) (hrest : Adds k (placeFields fs ds)) :
    Adds (n + k) (placeFields (s :: fs) (d :: ds)) := by
  simp only [placeFields]
  exact (hd.bind fun _ => hrest.bind fun _ => Adds.pure _).mono (by omega)

theorem place_record_adds {fs : List Shape} {ds : List Datum} (h : Adds n (placeFields fs ds)) :
    Adds n (place (.record fs) (.record ds)) := by
  simp only [place]
  exact Adds.map _ h

theorem place_variant_adds {vs : List (List Shape)} {tag : Nat} {ds : List Datum}
    (h : Adds n (placeFields (vs.getD tag []) ds)) :
    Adds n (place (.choice vs) (.variant tag ds)) := by
  simp only [place]
  exact Adds.map _ h

theorem place_grows (s : Shape) (d : Datum) : Adds 0 (place s d) := by
  apply place.induct (fun s d => Adds 0 (place s d)) (fun fs ds => Adds 0 (placeFields fs ds))
    (fun item ds => Adds 0 (placeItems item ds))
  case case1 => intro t h; simp only [place, h, if_true]; exact Adds.pure _
  case case2 => intro t h; exact (place_string_adds (by omega)).mono (Nat.zero_le _)
  case case4 => intro ds item ih; exact place_vec_adds ih
  case case6 =>
    intro d item ih
    simp only [place]
    exact ih.bind fun _ => Adds.pure _
  case case8 => intro ds fs ih; exact place_record_adds ih
  case case10 => intro tag ds vs ih; exact place_variant_adds ih
  case case13 => intro s fs d ds ih ihs; exact placeFields_cons_adds ih ihs
  case case16 => intro item d rest ih ihs; exact placeItems_cons_adds ih ihs
  -- the remaining cases write nothing: a datum that does not fit its shape lies inline
  all_goals
    intros
    simp only [place, placeFields, placeItems]
    exact Adds.pure _

theorem write_length_ge {s : Shape} {d : Datum} (h : Adds n (place s d)) :
    n ≤ (write s d).length := by
  have hrun : Adds n (do
      let p ← place s d
      let here ← alignTo s.align
      emit (bytesOf s d p here)) :=
    (h.bind fun p => (alignTo_adds s.align).bind fun here =>
      (emit_adds (bytesOf s d p here)).mono (Nat.zero_le _)).mono (by omega)
  have hall := hrun #[]
  simp only [Array.size_empty, Nat.zero_add] at hall
  simp only [write, Array.length_toList]
  exact hall

end Writing

end LabFleet.Archive

namespace LabFleet.Control

open Archive

/-! ## Frames of responses -/

theorem Response.archive_length_ge_line {r : Response} {line : String}
    (hp : r.payload = .logs [line]) (hl : 8 < line.utf8ByteSize) :
    line.utf8ByteSize ≤ r.archive.length := by
  -- the payload is the last field of the response; the fields before it only add bytes
  have hpayload : Adds line.utf8ByteSize (place payloadShape r.payload.toDatum) := by
    rw [hp]
    exact place_variant_adds ((placeFields_cons_adds (place_vec_adds
      (placeItems_cons_adds (place_string_adds hl) (placeItems_nil_adds _)))
      (placeFields_nil_adds _)).mono (by omega))
  have hfields := place_record_adds (placeFields_cons_adds (place_grows verdictShape r.verdict.toDatum)
    (placeFields_cons_adds (place_grows .string (.str r.message))
      (placeFields_cons_adds (place_grows (.vec .string) (.list (r.warnings.map .str)))
        (placeFields_cons_adds hpayload (placeFields_nil_adds [])))))
  exact write_length_ge (s := responseShape) (d := r.toDatum) (hfields.mono (by omega))

theorem utf8ByteSize_pushn (s : String) (c : Char) (n : Nat) :
    (s.pushn c n).utf8ByteSize = s.utf8ByteSize + n * c.utf8Size := by
  induction n with
  | zero => simp [String.pushn_eq_repeat_push, Nat.repeat]
  | succ n ih =>
    rw [String.pushn_eq_repeat_push, Nat.repeat, ← String.pushn_eq_repeat_push,
      String.utf8ByteSize_push, ih, Nat.succ_mul, Nat.add_assoc]

/-- The supervisor's answer to a status request where one name server is configured and
stopped. -/
def statusResponse : Response :=
  { Response.success "1 profile(s)" with payload := .records [ProcessSnapshot.idle .nameserver "default"] }

/-- Control frames read back. A request's or a response's frame gives the receiver its archive
back exactly when the archive is at most `maxMessage` bytes, and the four length bytes hold the
body's length modulo `2 ^ 32`. Where the archive reads back as the data it was written from, as
the archive format promises, the receiver finds the request or the response that was sent. -/
theorem control_frames_read_back (q : Request)
    (hq : readArchive requestShape q.archive.toArray = some q.toDatum) (r : Response)
    (hr : readArchive responseShape r.archive.toArray = some r.toDatum) :
    (readFrame (frame q.archive) = .ok q.archive ↔ q.archive.length ≤ maxMessage) ∧
    Request.ofArchive? q.archive.toArray = some q ∧
    (readFrame (frame r.archive) = .ok r.archive ↔ r.archive.length ≤ maxMessage) ∧
    Response.ofArchive? r.archive.toArray = some r ∧
    ∀ body : List UInt8, ofLittleEndian ((frame body).take 4) = body.length % 2 ^ 32 :=
  ⟨readFrame_frame_eq_ok_iff _, Request.ofArchive?_archive hq, readFrame_frame_eq_ok_iff _,
    Response.ofArchive?_archive hr, declared_length⟩

/-- A request to start a daemon and the response listing one stopped name server, as the
supervisor writes it, read back through their frames. -/
theorem start_and_status_read_back :
    readArchive requestShape (Request.start .daemon "lockable").archive.toArray =
        some (Request.start .daemon "lockable").toDatum ∧
      readArchive responseShape statusResponse.archive.toArray = some statusResponse.toDatum ∧
      readFrame (frame statusResponse.archive) = .ok statusResponse.archive ∧
      Response.ofArchive? statusResponse.archive.toArray = some statusResponse := by
  have hq : readArchive requestShape (Request.start .daemon "lockable").archive.toArray =
      some (Request.start .daemon "lockable").toDatum := by decide +kernel
  have hr : readArchive responseShape statusResponse.archive.toArray =
      some statusResponse.toDatum := by decide +kernel
  have hlen : statusResponse.archive.length ≤ maxMessage := by decide +kernel
  have h := control_frames_read_back _ hq _ hr
  exact ⟨hq, hr, h.2.2.1.2 hlen, h.2.2.2.1⟩

/-- A captured line of a little over 8 MiB: the prefix of the first incarnation of the process
with PID 4000, then what the process wrote. -/
def longLine : String := "[1:4000] ".pushn 'x' maxMessage

/-- A supervisor whose daemon `default` has captured `longLine`, as one whose program wrote a
line that long would have. -/
def longLogServer : Supervisor.Server where
  options := { socket := "lab.sock", pid := 1 }
  loader := {}
  registry :=
    { config := {}, settings := {}, launcher := default, host := {},
      logs := { capacity := 1000, tails := [(⟨.daemon, "default"⟩, [longLine])] } }
  userConfig := none
  lockDir := []
  serving := true
  startedAt := 0

/-- The response carrying `longLine`. -/
def longLogResponse : Response := { Response.success "1 line(s)" with payload := .logs [longLine] }

theorem longLogServer_logs :
    (longLogServer.handle (.logs .daemon "default" 10)).1 = longLogResponse := rfl

/-- The supervisor writes the log of its daemon `default` in a response whose archive is over
`maxMessage`, and a client reading its frame does not get the archive back. -/
theorem long_log_line_exceeds_frame_limit :
    maxMessage < (longLogServer.handle (.logs .daemon "default" 10)).1.archive.length ∧
      readFrame (frame (longLogServer.handle (.logs .daemon "default" 10)).1.archive) ≠
        .ok (longLogServer.handle (.logs .daemon "default" 10)).1.archive := by
  have hsize : longLine.utf8ByteSize = 9 + maxMessage := by
    simp [longLine, utf8ByteSize_pushn]
    decide
  have hge : longLine.utf8ByteSize ≤ longLogResponse.archive.length :=
    Response.archive_length_ge_line rfl (by rw [hsize]; decide)
  rw [longLogServer_logs]
  refine ⟨by omega, fun hok => ?_⟩
  have hle := (readFrame_frame_eq_ok_iff _).1 hok
  omega

end LabFleet.Control

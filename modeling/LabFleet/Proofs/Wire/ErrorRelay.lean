import LabFleet.Proofs.Json.ReadBack
import LabFleet.Wire.Frame
import LabFleet.Proofs.Control.Frames

/-!
Failures across the two wires. A remote call's reply carries a failure as its category, its
message and a detail: a lock conflict's service and holder, an unknown object's name, and
nothing for any other cause (`detail_on_wire`). Its compact JSON text, read back by the typed
reply reader, is the reply sent, detail included (`error_reply_reads_back`), and a receiver
rebuilds from it a `remote` failure with the same category and message. A control response
carries a failure's category in its verdict and its message beside it, and rebuilds the same
failure, also from its archived data. A rebuilt failure, relayed again, is rebuilt as itself.

* `failures_cross_both_wires`: all of this, for every failure.
-/

namespace LabFleet.Wire

open Json Checks

/-! ## Reading a reply's text -/

theorem replyFields_rest {d : Nat} (fs : List (String × Json)) (hk : ∀ f ∈ fs, f.1 ≠ "status")
    (hv : ∀ f ∈ fs, Reads (value d) (write f.2).toUTF8.toList f.2) (tag : Option ReplyTag)
    (acc : List (String × Json)) {c : Cursor} {rest : List UInt8}
    (hc : c.rest = fs.flatMap (44 :: memberBytes ·) ++ 125 :: rest)
    (fuel : Nat) (hfuel : fs.length < fuel) :
    ∃ c' : Cursor, replyFields d fuel false tag acc c = .ok ((tag, acc.reverse ++ fs), c') ∧
      c'.rest = 125 :: rest := by
  obtain ⟨f, rfl⟩ : ∃ f, fuel = f + 1 := ⟨fuel - 1, by omega⟩
  induction fs generalizing acc c f with
  | nil =>
    obtain ⟨c₁, h₁, hc₁⟩ := nextKey_close false hc
    refine ⟨c₁, ?_, hc₁⟩
    rw [replyFields, bind_apply, h₁, ok_bind, List.append_nil]
    rfl
  | cons kv fs ih =>
    obtain ⟨k, v⟩ := kv
    have hc' : c.rest = (44 :: (quote k).toUTF8.toList) ++
        (58 :: (write v).toUTF8.toList ++ (fs.flatMap (44 :: memberBytes ·) ++ 125 :: rest)) := by
      rw [hc]; simp [memberBytes]
    obtain ⟨c₁, h₁, hc₁⟩ := nextKey_more k c _ hc'
    obtain ⟨c₂, h₂, hc₂⟩ := colon_reads c₁ _ hc₁
    obtain ⟨c₃, h₃, hc₃⟩ := hv (k, v) List.mem_cons_self c₂ _ hc₂
    rw [List.length_cons] at hfuel
    obtain ⟨g, rfl⟩ : ∃ g, f = g + 1 := ⟨f - 1, by omega⟩
    obtain ⟨c', h', hc'⟩ := ih (fun g hg => hk g (List.mem_cons_of_mem _ hg))
      (fun g hg => hv g (List.mem_cons_of_mem _ hg)) ((k, v) :: acc) hc₃ g (by omega)
    refine ⟨c', ?_, hc'⟩
    -- the key is not the tag's, which `simp` needs to take the branch of any other field
    have hks : k ≠ "status" := hk (k, v) List.mem_cons_self
    rw [replyFields, bind_apply, h₁, ok_bind]
    simp only [bind_apply, h₂, ok_bind, h₃, h', List.reverse_cons, List.append_assoc,
      List.singleton_append]

theorem textTag_reads {s : String} {t : ReplyTag} (hs : ReplyTag.ofString s = .ok t) :
    Reads textTag (quote s).toUTF8.toList t := by
  rw [toUTF8_quote]
  unfold textTag
  refine Reads.blank_bind (by decide) ?_
  refine Reads.bind_eq (eat_reads 34) ?_ rfl
  refine Reads.bind_eq (stringBody_reads s) ?_ (List.append_nil _)
  simp only [hs]
  exact Reads.pure t

theorem replyFields_status {d : Nat} {s : String} {t : ReplyTag} (hs : ReplyTag.ofString s = .ok t)
    (fs : List (String × Json)) (hk : ∀ f ∈ fs, f.1 ≠ "status")
    (hv : ∀ f ∈ fs, Reads (value d) (write f.2).toUTF8.toList f.2) {c : Cursor} {rest : List UInt8}
    (hc : c.rest = (writeFields (("status", .string s) :: fs)).toUTF8.toList ++ 125 :: rest)
    (fuel : Nat) (hfuel : fs.length + 1 < fuel) :
    ∃ c' : Cursor, replyFields d fuel true none [] c = .ok ((some t, fs), c') ∧
      c'.rest = 125 :: rest := by
  have hc' : c.rest = (quote "status").toUTF8.toList ++ (58 :: (quote s).toUTF8.toList ++
      (fs.flatMap (44 :: memberBytes ·) ++ 125 :: rest)) := by
    rw [hc, toUTF8_writeFields]; simp [memberBytes, write]
  obtain ⟨c₁, h₁, hc₁⟩ := nextKey_first "status" c _ hc'
  obtain ⟨c₂, h₂, hc₂⟩ := colon_reads c₁ _ hc₁
  obtain ⟨c₃, h₃, hc₃⟩ := textTag_reads hs c₂ _ hc₂
  obtain ⟨f, rfl⟩ : ∃ f, fuel = f + 1 := ⟨fuel - 1, by omega⟩
  obtain ⟨c', h', hc''⟩ := replyFields_rest fs hk hv (some t) [] hc₃ f (by omega)
  refine ⟨c', ?_, hc''⟩
  rw [replyFields, bind_apply, h₁, ok_bind]
  simp only [Option.isSome_none, Bool.false_eq_true, ↓reduceIte, bind_apply, h₂, ok_bind, h₃, h']
  rfl

theorem textReplyParts_reads {s : String} {t : ReplyTag} (hs : ReplyTag.ofString s = .ok t)
    (fs : List (String × Json)) (hk : ∀ f ∈ fs, f.1 ≠ "status")
    (hv : ∀ f ∈ fs, NumberFree (maxDepth - 1) f.2) :
    Reads textReplyParts (write (.object (("status", .string s) :: fs))).toUTF8.toList
      (t, .object fs) := by
  intro c rest hc
  have hc' : c.rest = 123 :: ((writeFields (("status", .string s) :: fs)).toUTF8.toList ++
      125 :: rest) := by
    rw [hc, toUTF8_write_object]; simp
  have hsb := skipBlanks_solid (by decide) hc'
  obtain ⟨c₁, h₁, hc₁⟩ := replyFields_status hs fs hk (fun f hf => value_reads (hv f hf))
    (Cursor.advance_rest hsb) (c.skipBlanks.advance.rest.length + 1)
    (by rw [Cursor.advance_rest hsb, List.length_append, List.length_cons]
        have := length_le_writeFields (("status", .string s) :: fs)
        simp only [List.length_cons] at this; omega)
  obtain ⟨c₂, h₂, hc₂⟩ := endObject_reads c₁ rest (by rw [hc₁]; rfl)
  refine ⟨c₂, ?_, hc₂⟩
  rw [textReplyParts, bind_apply, blank_solid (by decide) hc', ok_bind]
  simp +decide only [bind_apply, eat_apply, get_apply, ok_bind, h₁, h₂]
  rfl

/-! ## A failure's reply -/

theorem detail_ofError_cases (e : Error) :
    (RemoteError.ofError e).detail = .null ∨
      (∃ service holder, (RemoteError.ofError e).detail =
        .object [("holder", .string holder), ("service", .string service)]) ∨
      (∃ name, (RemoteError.ofError e).detail = .object [("name", .string name)]) := by
  cases e with
  | alreadyLocked service holder => exact .inr (.inl ⟨service, holder, rfl⟩)
  | resourceBusy service holder => exact .inr (.inl ⟨service, holder, rfl⟩)
  | unknownObject name => exact .inr (.inr ⟨name, rfl⟩)
  | _ => exact .inl rfl

theorem normalize_detail_ofError (e : Error) :
    Json.normalize (RemoteError.ofError e).detail = (RemoteError.ofError e).detail := by
  rcases detail_ofError_cases e with hd | ⟨service, holder, hd⟩ | ⟨name, hd⟩ <;> rw [hd]
  · rfl
  · have hlt : ¬ ("service" < "holder") := by decide
    simp [Json.normalize, normalizeFields, sortedObject, insertField, hlt]
  · simp [Json.normalize, normalizeFields, sortedObject, insertField]

theorem numberFree_strings {d : Nat} (fs : List (String × String)) :
    ∀ f ∈ fs.map (fun f => (f.1, Json.string f.2)), NumberFree (d + 1) f.2 := by
  intro f hf
  obtain ⟨g, -, rfl⟩ := List.mem_map.1 hf
  exact NumberFree.string d g.2

theorem numberFree_ofError (e : Error) :
    NumberFree (maxDepth - 1) (RemoteError.ofError e).toJson := by
  have hbase := numberFree_strings (d := 125)
    [("kind", (RemoteError.ofError e).kind.wireName), ("message", (RemoteError.ofError e).message)]
  unfold RemoteError.toJson
  rcases detail_ofError_cases e with hd | ⟨service, holder, hd⟩ | ⟨name, hd⟩ <;> rw [hd]
  · exact NumberFree.object 125 _ hbase
  · refine NumberFree.object 125 _ (List.forall_mem_append.2 ⟨hbase, ?_⟩)
    rw [List.forall_mem_singleton]
    exact NumberFree.object 124 _ (numberFree_strings [("holder", holder), ("service", service)])
  · refine NumberFree.object 125 _ (List.forall_mem_append.2 ⟨hbase, ?_⟩)
    rw [List.forall_mem_singleton]
    exact NumberFree.object 124 _ (numberFree_strings [("name", name)])

theorem categoryOfContent_wireName (k : ErrorKind) :
    categoryOfContent (.string k.wireName) = .ok k := by
  cases k <;> rfl

theorem remoteOfContent_toJson (re : RemoteError) (hd : Json.normalize re.detail = re.detail) :
    remoteOfContent re.toJson = .ok re := by
  obtain ⟨k, m, d⟩ := re
  unfold RemoteError.toJson
  split
  · next hnull =>
    simp only at hnull
    subst hnull
    simp [remoteOfContent, readFields, remoteSteps, categoryOfContent_wireName, Decoder.string]
    rfl
  · simp only at hd
    simp [remoteOfContent, readFields, remoteSteps, categoryOfContent_wireName, Decoder.string, hd]
    rfl

theorem ofContent_error (re : RemoteError) (hd : Json.normalize re.detail = re.detail) :
    Reply.ofContent .error (.object [("error", re.toJson)]) = .ok (.error re) := by
  simp [Reply.ofContent, readFields, errorSteps, remoteOfContent_toJson re hd]
  rfl

theorem textReply_error (e : Error) :
    Reads textReply (Reply.ofResult (.error e)).body (Reply.ofResult (.error e)) := by
  refine Reads.bind_eq (textReplyParts_reads (s := "error") rfl
    [("error", (RemoteError.ofError e).toJson)] (by simp) (by simp [numberFree_ofError])) ?_
    (List.append_nil _)
  simp only [ofContent_error _ (normalize_detail_ofError e)]
  exact Reads.pure _

theorem error_reply_reads_back (e : Error) :
    Reply.ofText (Reply.ofResult (.error e)).body = .ok (Reply.ofResult (.error e)) :=
  runReader_reads (textReply_error e)

theorem detail_on_wire (e : Error) :
    ((Reply.ofResult (.error e)).toJson.field? "error").bind (·.field? "detail") =
      match e with
      | .alreadyLocked service holder | .resourceBusy service holder =>
        some (.object [("holder", .string holder), ("service", .string service)])
      | .unknownObject name => some (.object [("name", .string name)])
      | _ => none := by
  cases e <;> rfl

/-- Every failure crosses the JSON wire and the control wire with its category and message:
the reply's text reads back as the reply, which a receiver turns into the `remote` failure of
that category and message; a control response, directly or from its archived data, gives the
same failure; the reply's detail is the one its cause carries; and the rebuilt failure, relayed
again, comes back as itself. -/
theorem failures_cross_both_wires (e : Error) :
    Reply.ofText (Reply.ofResult (.error e)).body = .ok (Reply.ofResult (.error e)) ∧
      (Reply.ofText (Reply.ofResult (.error e)).body).map Reply.toResult =
        .ok (.error (.remote e.kind e.message)) ∧
      (Control.Response.failure e).toResult = .error (.remote e.kind e.message) ∧
      (Control.Response.ofDatum? (Control.Response.failure e).toDatum).map
          Control.Response.toResult = some (.error (.remote e.kind e.message)) ∧
      ((Reply.ofResult (.error e)).toJson.field? "error").bind (·.field? "detail") =
        (match e with
        | .alreadyLocked service holder | .resourceBusy service holder =>
          some (.object [("holder", .string holder), ("service", .string service)])
        | .unknownObject name => some (.object [("name", .string name)])
        | _ => none) ∧
      (Reply.ofText (Reply.ofResult (.error e.relay)).body).map Reply.toResult =
        .ok (.error e.relay) ∧
      (Control.Response.failure e.relay).toResult = .error e.relay := by
  refine ⟨error_reply_reads_back e, ?_, rfl, ?_, detail_on_wire e, ?_, rfl⟩
  · rw [error_reply_reads_back]; rfl
  · rw [Control.Response.ofDatum?_toDatum]; rfl
  · rw [error_reply_reads_back]; rfl

end LabFleet.Wire

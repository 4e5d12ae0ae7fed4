import CloudDirector.Proofs.Base64
import CloudDirector.Proofs.Client.Requests

/-!
# Replies that are never lost

A reply that has arrived makes an envelope whatever its headers and its body are, if nothing is to
be decoded: that is, if it tells that the request did not succeed, or if nothing was expected in the
first dialect.  Its body is kept as nothing, as JSON or as a text.  The one text that could be both
nothing and JSON is a blank one, and no blank text spells JSON.
-/

namespace CloudDirector

/-! ## Blank texts -/

namespace Text

/-- Bytes below 128 are the text of the characters with these numbers. -/
lemma ofBytes?_map_toUInt8 {cs : List Char} (h : ∀ c ∈ cs, c.toNat < 128) :
    ofBytes? (cs.map Char.toUInt8) = some (String.ofList cs) := by
  have hbytes : (⟨(cs.map Char.toUInt8).toArray⟩ : ByteArray) = cs.utf8Encode := by
    rw [← toList_utf8Encode h]
  have hvalid : (⟨(cs.map Char.toUInt8).toArray⟩ : ByteArray).IsValidUTF8 := ⟨cs, hbytes⟩
  rw [ofBytes?, String.fromUTF8?, dif_pos hvalid, Option.some.injEq, ← String.toByteArray_inj,
    String.toByteArray_ofList]
  exact hbytes

end Text

namespace Json

/-- A text of blanks has no tokens, or none at all if one of them is no blank of JSON. -/
lemma tokens?_blank {cs : List Char}
    (h : ∀ c ∈ cs, c ∈ [' ', '\n', '\t', '\r', '\x0c']) :
    tokens? cs = some [] ∨ tokens? cs = none := by
  induction cs with
  | nil => exact Or.inl (by rw [tokens?])
  | cons c rest ih =>
    rw [tokens?]
    split
    · exact ih fun d hd => h d (List.mem_cons_of_mem _ hd)
    · next hgap =>
      have hfeed : c = '\x0c' := by
        have hc := h c List.mem_cons_self
        simp only [List.mem_cons, List.not_mem_nil, or_false] at hc
        tauto
      subst hfeed
      have hnone : token? '\x0c' rest = none := by
        simp [token?, isNumeralChar]
      right
      split
      · next heq =>
        rw [hnone] at heq
        cases heq
      · rfl

/-- A text of blanks spells no JSON. -/
lemma ofString?_blank {cs : List Char}
    (h : ∀ c ∈ cs, c ∈ [' ', '\n', '\t', '\r', '\x0c']) : ofString? (String.ofList cs) = none := by
  rw [ofString?, String.toList_ofList]
  rcases tokens?_blank h with hnil | hnone
  · rw [hnil]
    rfl
  · rw [hnone]
    rfl

end Json

namespace Reply

variable {reply : Reply}

/-- The bytes of ASCII that count as blanks of a body. -/
def blanks : List UInt8 := [9, 10, 12, 13, 32]

lemma isBodyEmpty_iff : reply.isBodyEmpty = true ↔ ∀ b ∈ reply.body, b ∈ blanks := by
  rw [isBodyEmpty, List.all_eq_true]
  refine forall₂_congr fun b _ => ?_
  simp only [blanks, Bool.or_eq_true, beq_iff_eq, List.mem_cons, List.not_mem_nil, or_false]
  tauto

/-- A blank body spells no JSON. -/
lemma json?_of_isBodyEmpty (h : reply.isBodyEmpty = true) : reply.json? = none := by
  have hblank := isBodyEmpty_iff.1 h
  have hchar : ∀ b ∈ blanks, (Char.ofNat b.toNat).toNat < 128 ∧ (Char.ofNat b.toNat).toUInt8 = b ∧
      Char.ofNat b.toNat ∈ [' ', '\n', '\t', '\r', '\x0c'] := by
    decide +kernel
  let cs := reply.body.map fun b => Char.ofNat b.toNat
  have hbody : reply.body = cs.map Char.toUInt8 := by
    have hid : reply.body.map (Char.toUInt8 ∘ fun b => Char.ofNat b.toNat) = reply.body.map id :=
      List.map_congr_left fun b hb => (hchar b (hblank b hb)).2.1
    rw [List.map_map, hid, List.map_id]
  have hascii : ∀ c ∈ cs, c.toNat < 128 := by
    intro c hc
    obtain ⟨b, hb, rfl⟩ := List.mem_map.1 hc
    exact (hchar b (hblank b hb)).1
  have hgaps : ∀ c ∈ cs, c ∈ [' ', '\n', '\t', '\r', '\x0c'] := by
    intro c hc
    obtain ⟨b, hb, rfl⟩ := List.mem_map.1 hc
    exact (hchar b (hblank b hb)).2.2
  rw [json?, hbody, Text.ofBytes?_map_toUInt8 hascii, Option.bind_some, Json.ofString?_blank hgaps]

lemma isBodyEmpty_of_json? {j : Json} (h : reply.json? = some j) : reply.isBodyEmpty = false := by
  rw [← Bool.not_eq_true]
  intro hempty
  rw [json?_of_isBodyEmpty hempty] at h
  cases h

/-- What becomes of a body that nothing is declared for. -/
structure BecomesRaw (reply : Reply) (o : Output) : Prop where
  /-- A body of blanks only is nothing. -/
  blank : (∀ b ∈ reply.body, b ∈ blanks) → o = .nothing
  /-- Null is nothing. -/
  null : reply.json? = some .null → o = .nothing
  /-- Other JSON is kept as it is. -/
  json : ∀ j, reply.json? = some j → j.isNull = false → o = .raw j
  /-- Anything else is kept as a text. -/
  text : (∃ b ∈ reply.body, b ∉ blanks) → reply.json? = none →
    o = .raw (.string (Text.ofBytesLossy reply.body))

lemma becomesRaw_rawOutput (reply : Reply) : reply.BecomesRaw (Client.rawOutput reply) where
  blank h := by
    rw [Client.rawOutput, if_pos (isBodyEmpty_iff.2 h)]
  null h := by
    rw [Client.rawOutput, h]
    split <;> rfl
  json j h hnull := by
    rw [Client.rawOutput, isBodyEmpty_of_json? h, h]
    cases j with
    | null => cases hnull
    | _ => rfl
  text h hnone := by
    have hbody : ¬ reply.isBodyEmpty = true := by
      rw [isBodyEmpty_iff]
      push Not
      exact h
    rw [Client.rawOutput, if_neg hbody, hnone]

end Reply

/-! ## Envelopes of calls without success -/

namespace Envelope

lemma failure_passingCode {α : Type} {r : Report} (place : String → Place) (text : Option String) :
    ∃ r' : Report, passingCode (.error r : Result α) place text = .error r' ∧
      r'.failure = r.failure := by
  cases text with
  | none => exact ⟨r, rfl, rfl⟩
  | some text => exact ⟨_, rfl, rfl⟩

/-- The envelope of a call without success is told as a failure with its status. -/
lemma checked_eq_error {e : Envelope} (h : e.isSuccess = false) :
    ∃ r, e.checked = .error r ∧ r.failure = .status e.status e.statusMessage := by
  obtain ⟨r, hr, hfailure⟩ := failure_passingCode (α := Envelope)
    (r := ⟨.status e.status e.statusMessage, []⟩) .majorCode (e.bodyText? "majorErrorCode")
  obtain ⟨r', hr', hfailure'⟩ := failure_passingCode (α := Envelope) (r := r) .minorCode
    (e.bodyText? "minorErrorCode")
  refine ⟨r', ?_, hfailure'.trans hfailure⟩
  rw [checked, h, ← hr', ← hr]
  rfl

end Envelope

namespace Client

variable {c : Client} {request : CallRequest} {p : Prepared}

/-- Where nothing is to be decoded, a body is read without failure. -/
lemma output_eq_rawOutput {reply : Reply} {target : Option Target}
    (h : reply.isSuccess = false ∨ target = none) :
    (c.output reply target).1 = .ok (rawOutput reply) := by
  unfold output
  rcases h with hfailed | rfl
  · rw [hfailed]
  · cases reply.isSuccess <;> rfl

lemma target_eq_none (h : c.prepare request = .ok p) (hexpects : request.expects = none) :
    p.target = none := by
  obtain ⟨_, _, _, -, -, htarget, -⟩ := prepare_eq_ok_iff.1 h
  rw [hexpects] at htarget
  exact (Except.ok.inj htarget).symm

/-- A reply from which nothing is decoded, and which does not lead on, makes an envelope after the
one request of the call. -/
lemma exists_envelope {reply : Reply} (left : List Arrival) (h : c.prepare request = .ok p)
    (hout : reply.isSuccess = false ∨ p.target = none)
    (hnone : taskAddress? p.dialect reply = none) :
    ∃ envelope, (c.call (.reply reply :: left) request).result = .ok envelope ∧
      (c.call (.reply reply :: left) request).sent = [p.request] ∧
      (c.call (.reply reply :: left) request).left = left ∧
      envelope.status = reply.status ∧ envelope.headers = reply.headers ∧
      reply.BecomesRaw envelope.output := by
  obtain ⟨hresult, hsent, hleft⟩ := call_of_read left h (output_eq_rawOutput hout) hnone
  exact ⟨_, hresult, hsent, hleft, rfl, rfl, Reply.becomesRaw_rawOutput reply⟩

/-- A reply that tells of no success always makes an envelope, after one request and whatever is
expected, and the envelope is told as a failure with the status of the reply.  So does every reply
where nothing is expected in the first dialect. -/
theorem call_reply (h : c.prepare request = .ok p) (reply : Reply) (left : List Arrival) :
    ((reply.status < 200 ∨ 299 < reply.status) →
      ∃ envelope, (c.call (.reply reply :: left) request).result = .ok envelope ∧
        (c.call (.reply reply :: left) request).sent = [p.request] ∧
        (c.call (.reply reply :: left) request).left = left ∧
        envelope.status = reply.status ∧ envelope.headers = reply.headers ∧
        reply.BecomesRaw envelope.output ∧
        ∃ r message, envelope.checked = .error r ∧ r.failure = .status reply.status message) ∧
    (p.dialect = .api → request.expects = none →
      ∃ envelope, (c.call (.reply reply :: left) request).result = .ok envelope ∧
        (c.call (.reply reply :: left) request).sent = [p.request] ∧
        (c.call (.reply reply :: left) request).left = left ∧
        envelope.status = reply.status ∧ envelope.headers = reply.headers ∧
        reply.BecomesRaw envelope.output) := by
  constructor
  · intro hstatus
    have hfailed : reply.isSuccess = false := by
      rw [Reply.isSuccess, Web.isSuccess, Bool.and_eq_false_iff, decide_eq_false_iff_not,
        decide_eq_false_iff_not]
      omega
    have hnone : taskAddress? p.dialect reply = none := by
      rw [Option.eq_none_iff_forall_not_mem]
      intro href hhref
      obtain ⟨-, hsuccess, -⟩ := taskAddress?_eq_some_iff.1 hhref
      rw [hfailed] at hsuccess
      cases hsuccess
    obtain ⟨envelope, hresult, hsent, hleft, hsame, hheaders, hraw⟩ :=
      exists_envelope left h (Or.inl hfailed) hnone
    have hunsuccessful : envelope.isSuccess = false := by
      rw [Envelope.isSuccess, hsame]
      exact hfailed
    obtain ⟨r, hr, hfailure⟩ := Envelope.checked_eq_error hunsuccessful
    rw [hsame] at hfailure
    exact ⟨envelope, hresult, hsent, hleft, hsame, hheaders, hraw, r, _, hr, hfailure⟩
  · intro hdialect hexpects
    have hnone : taskAddress? p.dialect reply = none := by
      rw [hdialect]
      rfl
    exact exists_envelope left h (Or.inr (target_eq_none h hexpects)) hnone

/-! ### A reply that is no text -/

namespace Garbled

/-- A reply of no success whose body is no text, with headers that would lead on and that are no
links. -/
def reply : Reply where
  status := 500
  headers := [("location", "https://h/cloudapi/task/1"), ("link", "no link")]
  body := [0xFF, 0x6F]

/-- A request of the second dialect that expects a list. -/
def listing : CallRequest := .get "https://h/cloudapi/orgs" "list[Task]"

theorem call_garbled :
    ∃ p, builtin.prepare listing = .ok p ∧
      (builtin.call [.reply reply] listing).sent = [p.request] ∧
      ∃ envelope, (builtin.call [.reply reply] listing).result = .ok envelope ∧
        envelope.status = 500 ∧ envelope.output = .raw (.string "\uFFFDo") := by
  have hsome : (builtin.prepare listing).toOption.isSome = true := by decide +kernel
  cases h : builtin.prepare listing with
  | error r =>
    rw [h] at hsome
    cases hsome
  | ok p =>
    obtain ⟨envelope, hresult, hsent, -, hstatus, -, hraw, -⟩ :=
      (call_reply h reply []).1 (Or.inr (by decide))
    have htext : Text.ofBytesLossy reply.body = "\uFFFDo" := by decide
    have hjson : reply.json? = none := by decide +kernel
    have houtput := hraw.text ⟨0xFF, by decide, by decide⟩ hjson
    rw [htext] at houtput
    exact ⟨p, rfl, hsent, envelope, hresult, hstatus, houtput⟩

end Garbled

end Client

end CloudDirector

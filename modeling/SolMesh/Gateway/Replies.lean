import SolMesh.Protocol.RoundTrip
import SolMesh.Gateway.Node

set_option relaxedAutoImplicit false
set_option autoImplicit false

/-!
# Replies of the gateway

Every exit of a request handler sends one reply, a `NACK` or a `TX_RESULT`, whose text may come
from an exception of a library. A reply goes out exactly if its text can be encoded and fits the
frame; otherwise sending it raises.

## Main definitions

* `SolMesh.TextFits` — a text fits the frame of a reply.
* `SolMesh.Reply` — a reply; `SolMesh.Reply.Fits` — its text fits.
* `SolMesh.sendReply` — the two ways to send a reply, as one.
* `SolMesh.replyTo` — what a frame on the mesh replies to, and to whom.

## Main results

* `SolMesh.sendReply_of_fits`, `SolMesh.sendReply_of_not_fits` — what sending a reply does.
* `SolMesh.repliedMsgId_frame` — a sent reply names the message it replies to.
-/

namespace SolMesh

open Py Text

/-! ## Replies and their frames -/

/-- A text can be encoded, and fits a frame together with the three bytes in front of it. -/
def TextFits (text : Text) : Prop :=
  IsEncodable text ∧ (utf8 text).length + 3 ≤ maxChunkData

instance (text : Text) : Decidable (TextFits text) :=
  inferInstanceAs (Decidable (IsEncodable text ∧ (utf8 text).length + 3 ≤ maxChunkData))

/-- A short ASCII text fits. -/
lemma textFits_of_ascii {text : Text} (h : Ascii text) (hlen : text.length ≤ 207) :
    TextFits text :=
  ⟨h.encodable, by rw [h.length_utf8, maxChunkData_eq]; omega⟩

/-- A text of few characters fits. -/
lemma textFits_of_length {text : Text} (h : IsEncodable text) (hlen : text.length ≤ 51) :
    TextFits text := by
  have hu := length_utf8_le text
  exact ⟨h, by rw [maxChunkData_eq]; omega⟩

/-- A reply to the requesting node. -/
inductive Reply
  | nack (errorCode : UInt8) (errorMsg : Text)
  | txResult (success : Bool) (sigOrError : Text)
  deriving DecidableEq

namespace Reply

/-- The text of a reply. -/
def text : Reply → Text
  | nack _ errorMsg => errorMsg
  | txResult _ sigOrError => sigOrError

/-- The message type of a reply. -/
def msgType : Reply → UInt8
  | nack _ _ => MsgType.nack
  | txResult _ _ => MsgType.txResult

/-- The text of the reply fits. -/
def Fits (r : Reply) : Prop := TextFits r.text

instance (r : Reply) : Decidable r.Fits := inferInstanceAs (Decidable (TextFits r.text))

/-- The bytes in front of the text. -/
def prefixBytes (originalMsgId : UInt16) : Reply → Bytes
  | nack errorCode _ => Bytes.toBE 2 originalMsgId.toNat ++ [errorCode]
  | txResult success _ => Bytes.toBE 2 originalMsgId.toNat ++ [if success then 1 else 0]

/-- The frame of a reply. -/
def frame (replyId originalMsgId : UInt16) (r : Reply) : Bytes :=
  frameBytes r.msgType replyId 0 1 (r.prefixBytes originalMsgId ++ utf8 r.text)

end Reply

/-! ## Sending a reply -/

section Send

variable {F : Type} {S : Solders}

/-- Send a reply. -/
def sendReply (env : Moment S) (originalMsgId : UInt16) (r : Reply) (destinationId : String) :
    Method (GatewayNode F S) Unit :=
  match r with
  | .nack errorCode errorMsg => sendNack env originalMsgId errorCode errorMsg destinationId
  | .txResult success sigOrError => sendTxResult env originalMsgId success sigOrError destinationId

@[simp] lemma sendReply_nack (env : Moment S) (originalMsgId : UInt16) (errorCode : UInt8)
    (errorMsg : Text) (destinationId : String) :
    (sendReply env originalMsgId (.nack errorCode errorMsg) destinationId :
      Method (GatewayNode F S) Unit) =
        sendNack env originalMsgId errorCode errorMsg destinationId := rfl

@[simp] lemma sendReply_txResult (env : Moment S) (originalMsgId : UInt16) (success : Bool)
    (sigOrError : Text) (destinationId : String) :
    (sendReply env originalMsgId (.txResult success sigOrError) destinationId :
      Method (GatewayNode F S) Unit) =
        sendTxResult env originalMsgId success sigOrError destinationId := rfl

/-- Append to the record of effects. -/
def GatewayNode.record (g : GatewayNode F S) (events : List GatewayEvent) : GatewayNode F S :=
  { g with events := g.events ++ events }

@[simp] lemma GatewayNode.record_events (g : GatewayNode F S) (events : List GatewayEvent) :
    (g.record events).events = g.events ++ events := rfl

@[simp] lemma GatewayNode.record_config (g : GatewayNode F S) (events : List GatewayEvent) :
    (g.record events).config = g.config := rfl

@[simp] lemma GatewayNode.record_hotKeypair (g : GatewayNode F S) (events : List GatewayEvent) :
    (g.record events).hotKeypair = g.hotKeypair := rfl

@[simp] lemma GatewayNode.record_rateLimiter (g : GatewayNode F S) (events : List GatewayEvent) :
    (g.record events).rateLimiter = g.rateLimiter := rfl

@[simp] lemma GatewayNode.record_reassembler (g : GatewayNode F S) (events : List GatewayEvent) :
    (g.record events).reassembler = g.reassembler := rfl

@[simp] lemma GatewayNode.record_nil (g : GatewayNode F S) : g.record [] = g := by
  simp [GatewayNode.record]

@[simp] lemma GatewayNode.record_record (g : GatewayNode F S) (xs ys : List GatewayEvent) :
    (g.record xs).record ys = g.record (xs ++ ys) := by
  simp [GatewayNode.record]

@[simp] lemma run_emit (event : GatewayEvent) (g : GatewayNode F S) :
    (emit event).run g = .ok () (g.record [event]) := rfl

/-- The effects of a method on the world. -/
def effects (m : Method (GatewayNode F S) Unit) (g : GatewayNode F S) : List GatewayEvent :=
  (stateAfter m g).events.drop g.events.length

/-- A message that fits a frame is sent. -/
lemma sendMessage_of_le {payload : Bytes} (h : payload.length ≤ maxChunkData) (msgType : UInt8)
    (msgId : UInt16) (destinationId : String) (wantAck : Bool) (g : GatewayNode F S) :
    (sendMessage msgType msgId payload destinationId wantAck).run g =
      .ok () (g.record
        [.meshSend (frameBytes msgType msgId 0 1 payload) destinationId wantAck]) := by
  have hpack := packMessage_eq msgType msgId 0 1 h
  rw [show ((0 : UInt8).toNat : ℤ) = 0 from rfl, show ((1 : UInt8).toNat : ℤ) = 1 from rfl] at hpack
  rw [sendMessage, hpack]
  rfl

/-- A message that does not fit makes the sender raise. -/
lemma sendMessage_of_lt {payload : Bytes} (h : maxChunkData < payload.length) (msgType : UInt8)
    (msgId : UInt16) (destinationId : String) (wantAck : Bool) (g : GatewayNode F S) :
    ∃ e, (sendMessage msgType msgId payload destinationId wantAck).run g = .error e g := by
  obtain ⟨e, he⟩ := packMessage_of_too_long msgType.toNat msgId.toNat 0 1 h
  refine ⟨e, ?_⟩
  rw [sendMessage, he]
  rfl

/-- Sending a reply is encoding it and sending the payload.

**Proof sketch.** Every reply has fields that fit their bytes, so only its text can be refused. If
the text can be written in UTF-8, the encoder gives the prefix and the text, for both kinds of
replies; if not, the encoder raises before anything is sent. -/
lemma sendReply_eq (env : Moment S) (originalMsgId : UInt16) (r : Reply) (destinationId : String)
    (g : GatewayNode F S) :
    (¬ IsEncodable r.text ∧
      ∃ e, (sendReply env originalMsgId r destinationId).run g = .error e g) ∨
    (IsEncodable r.text ∧ (sendReply env originalMsgId r destinationId).run g =
      (sendMessage r.msgType env.replyId (r.prefixBytes originalMsgId ++ utf8 r.text)
        destinationId true).run g) := by
  by_cases h : IsEncodable r.text
  · refine Or.inr ⟨h, ?_⟩
    cases r with
    | nack errorCode errorMsg =>
      have htail : encodeTail errorMsg = .ok (utf8 errorMsg) := encodeTail_eq_ok_iff.mpr ⟨h, rfl⟩
      have henc : encodeNack originalMsgId.toNat errorCode.toNat errorMsg =
          .ok (Bytes.toBE 2 originalMsgId.toNat ++ [errorCode] ++ utf8 errorMsg) := by
        rw [encodeNack, packH_uint16, packB_uint8, ok_bind, ok_bind, htail]
        rfl
      change (sendNack env originalMsgId errorCode errorMsg destinationId).run g = _
      rw [sendNack, henc]
      rfl
    | txResult success sigOrError =>
      have hbyte : packB (if success then 1 else 0) = .ok [if success then 1 else 0] := by
        cases success <;> rfl
      have henc : encodeTxResult originalMsgId.toNat success (utf8 sigOrError) =
          .ok (Bytes.toBE 2 originalMsgId.toNat ++ [if success then 1 else 0] ++
            utf8 sigOrError) := by
        rw [encodeTxResult, packH_uint16, hbyte]
        rfl
      change (sendTxResult env originalMsgId success sigOrError destinationId).run g = _
      have hdata : encodeUtf8 sigOrError = .ok (utf8 sigOrError) := encodeUtf8_of_encodable h
      rw [sendTxResult, hdata, run_bind_ok (run_ofExcept_ok _ g), henc]
      rfl
  · refine Or.inl ⟨h, ?_⟩
    cases r with
    | nack errorCode errorMsg =>
      have hne : errorMsg ≠ [] := by
        rintro rfl
        exact h (by simp [Text.IsEncodable, Reply.text])
      obtain ⟨e, he⟩ := encodeUtf8_of_not_encodable h
      change encodeUtf8 errorMsg = .error e at he
      have henc : encodeNack originalMsgId.toNat errorCode.toNat errorMsg = .error e := by
        rw [encodeNack, packH_uint16, packB_uint8, ok_bind, ok_bind, encodeTail, if_pos hne, he]
        rfl
      refine ⟨e, ?_⟩
      change (sendNack env originalMsgId errorCode errorMsg destinationId).run g = _
      rw [sendNack, henc]
      rfl
    | txResult success sigOrError =>
      obtain ⟨e, he⟩ := encodeUtf8_of_not_encodable h
      refine ⟨e, ?_⟩
      change (sendTxResult env originalMsgId success sigOrError destinationId).run g = _
      rw [sendTxResult, show encodeUtf8 sigOrError = .error e from he]
      rfl

/-- The payload of a reply is three bytes longer than its text. -/
lemma length_reply_payload (originalMsgId : UInt16) (r : Reply) :
    (r.prefixBytes originalMsgId ++ utf8 r.text).length = (utf8 r.text).length + 3 := by
  cases r <;> simp [Reply.prefixBytes] <;> omega

/-- **A reply that fits is sent.** -/
lemma sendReply_of_fits (env : Moment S) (originalMsgId : UInt16) {r : Reply} (h : r.Fits)
    (destinationId : String) (g : GatewayNode F S) :
    (sendReply env originalMsgId r destinationId).run g =
      .ok () (g.record [.meshSend (r.frame env.replyId originalMsgId) destinationId true]) := by
  rcases sendReply_eq env originalMsgId r destinationId g with ⟨hn, _⟩ | ⟨_, heq⟩
  · exact absurd h.1 hn
  · rw [heq, sendMessage_of_le (by rw [length_reply_payload]; exact h.2)]
    rfl

/-- **A reply that does not fit makes the sender raise**, with nothing sent. -/
lemma sendReply_of_not_fits (env : Moment S) (originalMsgId : UInt16) {r : Reply} (h : ¬ r.Fits)
    (destinationId : String) (g : GatewayNode F S) :
    ∃ e, (sendReply env originalMsgId r destinationId).run g = .error e g := by
  rcases sendReply_eq env originalMsgId r destinationId g with ⟨_, he⟩ | ⟨henc, heq⟩
  · exact he
  · rw [heq]
    refine sendMessage_of_lt ?_ _ _ _ _ _
    rw [length_reply_payload]
    by_contra hle
    exact h ⟨henc, not_lt.mp hle⟩

/-- The frame that is handed to the mesh, if the reply fits. -/
def Reply.sent (r : Reply) (env : Moment S) (originalMsgId : UInt16) (destinationId : String) :
    List GatewayEvent :=
  if r.Fits then [.meshSend (r.frame env.replyId originalMsgId) destinationId true] else []

/-- What sending a reply leaves behind, whether it returned or raised. -/
lemma stateAfter_sendReply (env : Moment S) (originalMsgId : UInt16) (r : Reply)
    (destinationId : String) (g : GatewayNode F S) :
    stateAfter (sendReply env originalMsgId r destinationId) g =
      g.record (r.sent env originalMsgId destinationId) := by
  unfold Reply.sent
  split_ifs with hfits
  · exact stateAfter_of_ok (sendReply_of_fits env originalMsgId hfits destinationId g)
  · obtain ⟨e, he⟩ := sendReply_of_not_fits env originalMsgId hfits destinationId g
    exact (stateAfter_of_error he).trans (GatewayNode.record_nil g).symm

end Send

/-! ## Replies on the mesh -/

/-- The message a frame replies to, if it is a `NACK` or a `TX_RESULT`. -/
def repliedMsgId (frame : Bytes) : Option ℕ :=
  match unpackMessage frame with
  | .error _ => none
  | .ok (header, payload) =>
    if header.msgType = MsgType.nack then (decodeNack payload).toOption.map Nack.nackedMsgId
    else if header.msgType = MsgType.txResult then
      (decodeTxResult payload).toOption.map TxResult.origMsgId
    else none

/-- The message an effect replies to, and the node it replies to. -/
def replyTo : GatewayEvent → Option (ℕ × String)
  | .meshSend frame destinationId _ => (repliedMsgId frame).map fun id => (id, destinationId)
  | _ => none

/-- The payload of a `NACK` is read back. -/
lemma decodeNack_reply {text : Text} (h : IsEncodable text) (originalMsgId : UInt16)
    (errorCode : UInt8) :
    decodeNack (Bytes.toBE 2 originalMsgId.toNat ++ [errorCode] ++ utf8 text) =
      .ok ⟨originalMsgId.toNat, errorCode.toNat, text⟩ := by
  have htail : encodeTail text = .ok (utf8 text) := encodeTail_eq_ok_iff.mpr ⟨h, rfl⟩
  have henc : encodeNack originalMsgId.toNat errorCode.toNat text =
      .ok (Bytes.toBE 2 originalMsgId.toNat ++ [errorCode] ++ utf8 text) := by
    rw [encodeNack, packH_uint16, packB_uint8, ok_bind, ok_bind, htail]
    rfl
  obtain ⟨i, c, hi, hc, hdec⟩ := decodeNack_encodeNack henc
  rw [hdec]
  have hi' : originalMsgId.toNat = i := by exact_mod_cast hi
  have hc' : errorCode.toNat = c := by exact_mod_cast hc
  rw [hi', hc']

/-- The payload of a `TX_RESULT` is read back. -/
lemma decodeTxResult_reply (originalMsgId : UInt16) (success : Bool) (data : Bytes) :
    decodeTxResult (Bytes.toBE 2 originalMsgId.toNat ++ [if success then 1 else 0] ++ data) =
      .ok ⟨originalMsgId.toNat, success, data⟩ := by
  have hbyte : packB (if success then 1 else 0) = .ok [if success then 1 else 0] := by
    cases success <;> rfl
  have henc : encodeTxResult originalMsgId.toNat success data =
      .ok (Bytes.toBE 2 originalMsgId.toNat ++ [if success then 1 else 0] ++ data) := by
    rw [encodeTxResult, packH_uint16, hbyte]
    rfl
  obtain ⟨i, hi, hdec⟩ := decodeTxResult_encodeTxResult henc
  have hi' : originalMsgId.toNat = i := by exact_mod_cast hi
  rw [hdec, hi']

/-- **A reply names the message it replies to.**

**Proof sketch.** The payload of a reply that fits is read back from its frame
(`unpackMessage_frameBytes_append`). Which decoder reads it depends on the kind of the reply, and
both give the id back (`decodeNack_reply`, `decodeTxResult_reply`). -/
lemma repliedMsgId_frame {r : Reply} (h : r.Fits) (replyId originalMsgId : UInt16) :
    repliedMsgId (r.frame replyId originalMsgId) = some originalMsgId.toNat := by
  have hlen : (r.prefixBytes originalMsgId ++ utf8 r.text).length ≤ maxChunkData := by
    rw [length_reply_payload]
    exact h.2
  obtain ⟨checksum, hu⟩ := unpackMessage_frameBytes_append r.msgType replyId 0 1 [] hlen
  rw [List.append_nil] at hu
  rw [repliedMsgId, Reply.frame, hu]
  cases r with
  | nack errorCode errorMsg =>
    dsimp only [Reply.msgType]
    rw [if_pos rfl]
    change (decodeNack (Bytes.toBE 2 originalMsgId.toNat ++ [errorCode] ++
      utf8 errorMsg)).toOption.map Nack.nackedMsgId = _
    have htext : IsEncodable errorMsg := h.1
    rw [decodeNack_reply htext]
    rfl
  | txResult success sigOrError =>
    dsimp only [Reply.msgType]
    rw [if_neg (by decide), if_pos rfl]
    change (decodeTxResult (Bytes.toBE 2 originalMsgId.toNat ++ [if success then 1 else 0] ++
      utf8 sigOrError)).toOption.map TxResult.origMsgId = _
    rw [decodeTxResult_reply]
    rfl

/-- A frame of another type is no reply. -/
lemma repliedMsgId_of_ne {payload : Bytes} (hlen : payload.length ≤ maxChunkData)
    {msgType : UInt8} (hn : msgType ≠ MsgType.nack) (hr : msgType ≠ MsgType.txResult)
    (msgId : UInt16) (c n : UInt8) :
    repliedMsgId (frameBytes msgType msgId c n payload) = none := by
  obtain ⟨checksum, hu⟩ := unpackMessage_frameBytes_append msgType msgId c n [] hlen
  rw [List.append_nil] at hu
  rw [repliedMsgId, hu]
  dsimp only
  rw [if_neg hn, if_neg hr]

end SolMesh

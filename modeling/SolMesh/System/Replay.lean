import Mathlib.Data.List.Perm.Subperm
import Mathlib.Logic.Relation
import SolMesh.Client.Request
import SolMesh.Gateway.Broadcasts

set_option relaxedAutoImplicit false
set_option autoImplicit false

/-!
# Replayed transfer requests

Frames on a mesh can be heard by anyone and sent again. The signature of a transfer request
protects what the request asks for, but nothing in it is used only once, and the gateway keeps no
memory of the requests it served: a replayed request is paid again. What holds is that every
payment in the name of a key is due to a delivery of a request of its holder.

## Main definitions

* `SolMesh.requestOf` — the transfer request in a frame.
* `SolMesh.IsReplay` — the same frame, up to the message id in the header.
* `SolMesh.ReplayState`, `SolMesh.ReplayStep` — runs of a gateway on a mesh that replays frames.

## Main results

* `SolMesh.transfers_le_deliveries` — the bound on the payments in the name of a key.
* `SolMesh.not_transfers_le_calls` — a request that is paid twice.
-/

namespace SolMesh

open Py Text Relation

variable {F : Type} [Number F] {S : Solders}

/-! ## Requests in frames -/

/-- The transfer request in a frame. -/
def requestOf (frame : Bytes) : Option TxRequest :=
  match unpackMessage frame with
  | .error _ => none
  | .ok (header, payload) =>
    if header.msgType = MsgType.txRequest then (decodeTxRequest payload).toOption else none

/-- A frame with a transfer request that is signed by the key it names. -/
def IsSignedRequest (S : Solders) (frame : Bytes) : Prop :=
  ∃ req senderPubkey, requestOf frame = some req ∧ senderPubkey.val = req.senderPubkey ∧
    verifyPayload S senderPubkey (signedBytes req) req.signature = true

/-- The same frame, up to the message id in the header, which is not signed, and the checksum,
which covers the message id. -/
def IsReplay (frame frame' : Bytes) : Prop :=
  ∃ header payload msgId checksum, unpackMessage frame = .ok (header, payload) ∧
    unpackMessage frame' = .ok ({ header with msgId := msgId, checksum := checksum }, payload)

/-- A replayed frame carries the same request. -/
lemma IsReplay.requestOf_eq {frame frame' : Bytes} (h : IsReplay frame frame') :
    requestOf frame' = requestOf frame := by
  obtain ⟨header, payload, msgId, checksum, hframe, hframe'⟩ := h
  unfold requestOf
  rw [hframe, hframe']

/-- The frame of a request carries the key of the sender. -/
lemma requestOf_requestFrame {sender dest signature mint : Bytes} {amount : ℕ}
    (hs : signature.length = 64) (hf : sender.length = 32) (hd : dest.length = 32)
    (hm : mint = [] ∨ mint.length = 32) (ha : amount < 256 ^ 8) (msgId : UInt16) :
    (requestOf (requestFrame sender dest amount signature mint msgId)).map
      TxRequest.senderPubkey = some sender := by
  obtain ⟨_, header, payload, hunpack, htype, _, hdecode⟩ :=
    unpackMessage_requestFrame hs hf hd hm ha msgId
  unfold requestOf
  rw [hunpack]
  dsimp only
  rw [if_pos htype, hdecode]
  rfl

omit [Number F] in
/-- A broadcast has a transaction that was handed to the RPC node. -/
lemma exists_sendRawTransaction {events : List GatewayEvent} (h : broadcasts events ≠ 0) :
    ∃ txBytes, GatewayEvent.sendRawTransaction txBytes ∈ events := by
  by_contra hnone
  push Not at hnone
  exact h (broadcasts_eq_zero fun event hmem txBytes heq => hnone txBytes (heq ▸ hmem))

/-- **Unsigned requests are not paid**, whoever sends them.

**Proof sketch.** If the gateway broadcasts on a request, it admitted it
(`admitted_of_sendRawTransaction`), so the sender of the request is a key and its signature was
verified. -/
lemma GatewayNode.broadcasts_effectsOf_unsigned {frame : Bytes} {req : TxRequest}
    (hreq : requestOf frame = some req) (hsigned : ¬ IsSignedRequest S frame) (env : Moment S)
    (senderId : String) (g : GatewayNode F S) :
    broadcasts (g.effectsOf env frame senderId) = 0 := by
  by_contra hne
  obtain ⟨txBytes, hmem⟩ := exists_sendRawTransaction hne
  have hreq' := hreq
  unfold requestOf at hreq'
  unfold GatewayNode.effectsOf GatewayNode.receive at hmem
  split at hreq'
  · cases hreq'
  · next header payload hunpack =>
    rw [hunpack] at hmem
    dsimp only at hmem
    split_ifs at hreq' with htype
    have hchunk : header.msgType ≠ MsgType.txChunk := by
      rw [htype]
      decide
    rw [if_neg hchunk, if_pos htype] at hmem
    obtain ⟨_, keypair, req', recentBlockhash, hadm, _⟩ := admitted_of_sendRawTransaction hmem
    obtain ⟨senderPubkey, hauth⟩ := hadm.authorised
    rw [hadm.decoded] at hreq'
    obtain rfl : req' = req := Option.some.inj hreq'
    exact hsigned ⟨req', senderPubkey, hreq, hauth.pubkey, hauth.signed⟩

/-! ## Runs -/

/-- A call of `requestTransfer` or `requestTokenTransfer`: the key of the caller, and the request
it sent. -/
structure Call where
  key : Pubkey
  request : SentRequest

/-- A gateway, the calls made so far, the deliveries of their frames (each with the position of
its call), and the keys in whose name transactions were broadcast. -/
structure ReplayState (F : Type) (S : Solders) where
  gateway : GatewayNode F S
  calls : List Call
  deliveries : List ℕ
  paidFor : List Bytes

namespace ReplayState

/-- Before any call. -/
def new (gateway : GatewayNode F S) : ReplayState F S := ⟨gateway, [], [], []⟩

/-- A call sends a request. -/
def send (s : ReplayState F S) (key : Pubkey) (request : SentRequest) : ReplayState F S :=
  { s with calls := s.calls ++ [⟨key, request⟩] }

/-- A frame is delivered to the gateway. A broadcast for a transfer request counts for the key
that the request names. -/
def deliver (s : ReplayState F S) (env : Moment S) (frame : Bytes) (senderId : String) :
    ReplayState F S :=
  { s with
    gateway := s.gateway.receive env frame senderId
    paidFor := s.paidFor ++ ((requestOf frame).map fun req =>
      List.replicate (broadcasts (s.gateway.effectsOf env frame senderId))
        req.senderPubkey).getD [] }

/-- The frame of a call is delivered to the gateway, possibly with another message id. -/
def replay (s : ReplayState F S) (i : ℕ) (env : Moment S) (frame : Bytes) (senderId : String) :
    ReplayState F S :=
  { s.deliver env frame senderId with deliveries := s.deliveries ++ [i] }

/-- The calls made by the holder of a key. -/
def callsOf (s : ReplayState F S) (key : Pubkey) : ℕ :=
  s.calls.countP fun call => decide (call.key = key)

/-- The deliveries of frames of the calls of a key. -/
def deliveriesOf (s : ReplayState F S) (key : Pubkey) : ℕ :=
  s.deliveries.countP fun i => s.calls[i]?.any fun call => decide (call.key = key)

end ReplayState

/-- What can happen: someone calls `requestTransfer` or `requestTokenTransfer`, the frame of a
call is delivered, for the first time or again, from any sender id and with any message id, or the
gateway is sent any frame that is no signed transfer request. -/
inductive ReplayStep : ReplayState F S → ReplayState F S → Prop
  | requestTransfer {s : ReplayState F S} {wallets : WalletManager S} {gatewayId : Option String}
      {walletName destination : String} {amountSol : F} {passphrase : Text} {msgId : UInt16}
      {kp : S.Keypair} {request : SentRequest}
      (hkp : wallets.loadKeypair walletName passphrase = .ok kp)
      (h : SolMesh.requestTransfer wallets gatewayId walletName destination amountSol passphrase
        msgId = .ok request) :
      ReplayStep s (s.send (S.pubkey kp) request)
  | requestTokenTransfer {s : ReplayState F S} {wallets : WalletManager S}
      {gatewayId : Option String} {walletName destination mintAddress : String} {amount : F}
      {decimals : ℕ} {passphrase : Text} {msgId : UInt16} {kp : S.Keypair} {request : SentRequest}
      (hkp : wallets.loadKeypair walletName passphrase = .ok kp)
      (h : SolMesh.requestTokenTransfer wallets gatewayId walletName destination mintAddress amount
        decimals passphrase msgId = .ok request) :
      ReplayStep s (s.send (S.pubkey kp) request)
  | replay {s : ReplayState F S} {i : ℕ} {call : Call} {frame : Bytes}
      (hi : s.calls[i]? = some call) (h : IsReplay call.request.frame frame) (env : Moment S)
      (senderId : String) : ReplayStep s (s.replay i env frame senderId)
  | foreign {s : ReplayState F S} {frame : Bytes} (h : ¬ IsSignedRequest S frame) (env : Moment S)
      (senderId : String) : ReplayStep s (s.deliver env frame senderId)

/-! ## Payments and deliveries -/

/-- What holds in every run: the frames of the calls name their callers, deliveries are of frames
of calls, and payments are covered by deliveries. -/
structure ReplayState.Covered (s : ReplayState F S) : Prop where
  calls : ∀ call ∈ s.calls,
    (requestOf call.request.frame).map TxRequest.senderPubkey = some call.key.val
  deliveries : ∀ i ∈ s.deliveries, i < s.calls.length
  paidFor : ∀ key : Pubkey, s.paidFor.count key.val ≤ s.deliveriesOf key

/-- A delivery of a frame of a call counts as one for its key. -/
lemma ReplayState.deliveriesOf_replay {s : ReplayState F S} {i : ℕ} {call : Call}
    (hi : s.calls[i]? = some call) (env : Moment S) (frame : Bytes) (senderId : String)
    (key : Pubkey) : (s.replay i env frame senderId).deliveriesOf key =
      s.deliveriesOf key + if call.key = key then 1 else 0 := by
  unfold ReplayState.deliveriesOf ReplayState.replay ReplayState.deliver
  dsimp only
  rw [List.countP_append, List.countP_singleton, hi]
  simp

omit [Number F] in
/-- A call leaves the deliveries as they are.

**Proof sketch.** The new request is one of the wallet that the call paid with. The deliveries refer
to requests by their places, and appending one more keeps those. -/
lemma ReplayState.Covered.send {s : ReplayState F S} (h : s.Covered) {key : Pubkey}
    {request : SentRequest}
    (hkey : (requestOf request.frame).map TxRequest.senderPubkey = some key.val) :
    (s.send key request).Covered := by
  refine ⟨?_, ?_, ?_⟩
  · intro call hcall
    rcases List.mem_append.mp hcall with hold | hnew
    · exact h.calls call hold
    · obtain rfl := List.mem_singleton.mp hnew
      exact hkey
  · intro i hi
    have hlt := h.deliveries i hi
    simp only [ReplayState.send, List.length_append]
    omega
  · intro key'
    apply (h.paidFor key').trans
    apply le_of_eq
    apply List.countP_congr
    intro i hi
    rw [ReplayState.send, List.getElem?_append_left (h.deliveries i hi)]

/-- **One step** keeps payments covered by deliveries.

**Proof sketch.** A call adds a request with the key of the caller, which is paid later if at all
(`Covered.send`). A delivery of it is counted, and the gateway broadcasts at most once for it
(`broadcasts_effectsOf_le`). A foreign frame is either no request or is not signed, and then nothing
is paid. -/
lemma ReplayState.Covered.step {s s' : ReplayState F S} (h : s.Covered) (hstep : ReplayStep s s') :
    s'.Covered := by
  cases hstep with
  | requestTransfer hkp hrequest =>
    obtain ⟨dest, n, hn, _, _, _, hframe⟩ := exists_of_requestTransfer hkp hrequest
    apply h.send
    rw [hframe]
    exact requestOf_requestFrame (length_signPayload _ _) (S.pubkey _).property dest.property
      (Or.inl rfl) hn _
  | requestTokenTransfer hkp hrequest =>
    obtain ⟨dest, mint, n, hn, _, _, _, _, hframe⟩ :=
      exists_of_requestTokenTransfer hkp hrequest
    apply h.send
    rw [hframe]
    exact requestOf_requestFrame (length_signPayload _ _) (S.pubkey _).property dest.property
      (Or.inr mint.property) hn _
  | @replay i call frame hi hreplay env senderId =>
    refine ⟨h.calls, ?_, ?_⟩
    · intro j hj
      rcases List.mem_append.mp hj with hold | hnew
      · exact h.deliveries j hold
      · obtain rfl := List.mem_singleton.mp hnew
        exact (List.getElem?_eq_some_iff.mp hi).1
    · intro key
      have hle := h.paidFor key
      have hone := s.gateway.broadcasts_effectsOf_le env frame senderId
      have hkey := h.calls call (List.mem_of_getElem? hi)
      obtain ⟨req, hreq, hsender⟩ := Option.map_eq_some_iff.mp hkey
      rw [ReplayState.deliveriesOf_replay hi]
      change (s.paidFor ++ _).count key.val ≤ _
      rw [hreplay.requestOf_eq, hreq, Option.map_some, Option.getD_some, List.count_append,
        List.count_replicate, hsender]
      by_cases hcaller : call.key = key
      · rw [hcaller, if_pos rfl, if_pos (beq_self_eq_true _)]
        omega
      · rw [if_neg hcaller, if_neg fun heq => hcaller (Subtype.ext (eq_of_beq heq))]
        exact hle
  | @foreign frame hunsigned env senderId =>
    refine ⟨h.calls, h.deliveries, ?_⟩
    intro key
    apply le_trans _ (h.paidFor key)
    unfold ReplayState.deliver
    cases hreq : requestOf frame with
    | none => simp
    | some req =>
      have hzero := s.gateway.broadcasts_effectsOf_unsigned hreq hunsigned env senderId
      simp [hzero]

/-- **In every state of a run, payments are covered by deliveries.** -/
lemma ReplayState.Covered.run {gateway : GatewayNode F S} {s : ReplayState F S}
    (h : ReflTransGen ReplayStep (ReplayState.new gateway) s) : s.Covered := by
  induction h with
  | refl => exact ⟨by simp [ReplayState.new], by simp [ReplayState.new], by simp [ReplayState.new]⟩
  | tail _ hstep ih => exact ih.step hstep

/-- How many elements of a list have a property, counted at their positions. -/
lemma countP_range_length {α : Type} (p : α → Bool) (l : List α) :
    (List.range l.length).countP (fun i => l[i]?.any p) = l.countP p := by
  induction l with
  | nil => rfl
  | cons a l ih =>
    rw [List.length_cons, List.range_succ_eq_map, List.countP_cons, List.countP_map,
      List.countP_cons, ← ih]
    rfl

omit [Number F] in
/-- If every frame is delivered at most once, there are at most as many deliveries as calls. -/
lemma ReplayState.deliveriesOf_le_callsOf {s : ReplayState F S} (hnodup : s.deliveries.Nodup)
    (hlt : ∀ i ∈ s.deliveries, i < s.calls.length) (key : Pubkey) :
    s.deliveriesOf key ≤ s.callsOf key := by
  have hsub : s.deliveries.Subperm (List.range s.calls.length) :=
    hnodup.subperm fun i hi => List.mem_range.mpr (hlt i hi)
  unfold ReplayState.deliveriesOf ReplayState.callsOf
  rw [← countP_range_length _ s.calls]
  exact hsub.countP_le _

/-- **Payments in the name of a key are due to deliveries of requests of its holder**: in every
run there are at most as many of them as deliveries of frames of the holder's calls, hence at most
as many as calls if no frame is delivered twice.

**Proof sketch.** What is paid for a key is covered by deliveries of its calls in every state of a
run (`ReplayState.Covered.run`); and if no delivery is repeated, these are no more than the calls.
-/
theorem transfers_le_deliveries {gateway : GatewayNode F S} {s : ReplayState F S}
    (h : ReflTransGen ReplayStep (ReplayState.new gateway) s) (key : Pubkey) :
    s.paidFor.count key.val ≤ s.deliveriesOf key ∧
      (s.deliveries.Nodup → s.paidFor.count key.val ≤ s.callsOf key) := by
  have hcovered := ReplayState.Covered.run h
  have hpaid := hcovered.paidFor key
  exact ⟨hpaid, fun hnodup => hpaid.trans
    (ReplayState.deliveriesOf_le_callsOf hnodup hcovered.deliveries key)⟩

/-! ## A sample run -/

/-- The request for five SOL from the sample wallets. -/
def sampleRequest (msgId : UInt16) : SentRequest :=
  ⟨msgId, requestFrame sampleKey.val sampleKey.val 5000000000
    (transferSignature (S := sampleSolders) sampleKey sampleKey 5000000000) [] msgId, "!gw"⟩

/-- The request is sent with message id 7. -/
def sampleSent : ReplayState ℤ sampleSolders :=
  (ReplayState.new sampleGateway).send sampleKey (sampleRequest 7)

/-- Its frame is delivered. -/
def sampleDelivered : ReplayState ℤ sampleSolders :=
  sampleSent.replay 0 sampleMoment (sampleRequest 7).frame "!client"

/-- Its frame is delivered again, from another sender and with message id 8. -/
def sampleReplayed : ReplayState ℤ sampleSolders :=
  sampleDelivered.replay 0 sampleMoment (sampleRequest 8).frame "!other"

/-- Requests with other message ids are replays. -/
lemma isReplay_sampleRequest (msgId msgId' : UInt16) :
    IsReplay (sampleRequest msgId).frame (sampleRequest msgId').frame := by
  have hlen : (txRequestBytes sampleKey.val sampleKey.val 5000000000
      (transferSignature (S := sampleSolders) sampleKey sampleKey 5000000000) [] []).length ≤
      maxChunkData := (unpackMessage_requestFrame (length_signPayload _ _) sampleKey.property
        sampleKey.property (Or.inl rfl) (by norm_num) msgId).1
  obtain ⟨_, h⟩ := unpackMessage_frameBytes_append MsgType.txRequest msgId 0 1 [] hlen
  obtain ⟨_, h'⟩ := unpackMessage_frameBytes_append MsgType.txRequest msgId' 0 1 [] hlen
  rw [List.append_nil] at h h'
  exact ⟨_, _, msgId', _, h, h'⟩

/-- The run up to the first delivery. -/
lemma run_sampleDelivered :
    ReflTransGen ReplayStep (ReplayState.new sampleGateway) sampleDelivered := by
  have hrequest : requestTransfer sampleWallets (some "!gw") "alice" sampleAddress (5 : ℤ) [] 7 =
      .ok (sampleRequest 7) :=
    requestTransfer_eq (by decide) rfl pubkeyFromString_sampleAddress rfl (by norm_num) 7
  have hkp : sampleWallets.loadKeypair "alice" [] = .ok sampleKey := rfl
  have hsend : ReplayStep (ReplayState.new sampleGateway) sampleSent :=
    .requestTransfer hkp hrequest
  have hcall : sampleSent.calls[0]? = some ⟨sampleKey, sampleRequest 7⟩ := rfl
  exact (ReflTransGen.single hsend).tail
    (.replay hcall (isReplay_sampleRequest 7 7) sampleMoment "!client")

/-- **A request can be paid twice**: its holder called `requestTransfer` once, and its frame is
delivered again, from another sender and with another message id. -/
theorem not_transfers_le_calls :
    ∃ s, ReflTransGen ReplayStep (ReplayState.new sampleGateway) s ∧ s.callsOf sampleKey = 1 ∧
      s.paidFor.count sampleKey.val = 2 := by
  refine ⟨sampleReplayed, run_sampleDelivered.tail ?_, by decide +kernel, by decide +kernel⟩
  have hcall : sampleDelivered.calls[0]? = some ⟨sampleKey, sampleRequest 7⟩ := rfl
  exact .replay hcall (isReplay_sampleRequest 7 8) sampleMoment "!other"

/-- The bound at the first delivery: one payment, of one call. -/
theorem transfers_le_deliveries_once :
    ReflTransGen ReplayStep (ReplayState.new sampleGateway) sampleDelivered ∧
      sampleDelivered.paidFor.count sampleKey.val = 1 ∧
      sampleDelivered.paidFor.count sampleKey.val ≤ sampleDelivered.callsOf sampleKey :=
  ⟨run_sampleDelivered, by decide +kernel,
    (transfers_le_deliveries run_sampleDelivered sampleKey).2 (by decide +kernel)⟩

end SolMesh

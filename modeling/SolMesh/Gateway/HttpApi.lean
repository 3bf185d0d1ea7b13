import SolMesh.Foundations.Rational
import SolMesh.Gateway.TxRequest

set_option relaxedAutoImplicit false
set_option autoImplicit false

/-!
# Transfers over HTTP

Besides the mesh, a gateway takes transfer requests over HTTP, from callers that know its key. The
amount of such a request is in units of the asset, and a token is named by its mint or its symbol.

## Main definitions

* `SolMesh.TransferRequest`, `SolMesh.TransferResponse`, `SolMesh.HttpException` — a request and its
  answers.
* `SolMesh.resolveTokenMint` — the mint that a token name stands for.
* `SolMesh.enforceLimits` — the check of the asset and the amount.
* `SolMesh.submitTransfer` — the endpoint.
* `SolMesh.TransferExit` — the exits of the endpoint.

## Main results

* `SolMesh.stateAfter_submitTransfer` — every run takes one of the exits.
* `SolMesh.limits_of_sendRawTransaction` — what is handed to the RPC node passed the check.
-/

namespace SolMesh

open Py Text

/-! ## Requests and answers -/

/-- A request for a transfer; without a token, or with an empty one, it is a transfer of SOL. -/
structure TransferRequest (F : Type) where
  destination : String
  amount : F
  token : Option String

structure TransferResponse where
  success : Bool
  signature : Option Text
  error : Option Text

/-- An `HTTPException`: the status code of the answer and its detail. -/
structure HttpException where
  statusCode : ℕ
  detail : Text

/-- The upper case of a character, as far as it can occur in the names of tokens: beyond ASCII only
the long s has one that does. -/
def upperChar (c : Char) : Char := if c.val = 0x17F then 'S' else c.toUpper

/-- `token_input.upper()`, to be compared with the names of tokens. -/
def upper (tokenInput : String) : String := String.ofList (tokenInput.toList.map upperChar)

/-- Resolve the names `USDC` and `FXN`; anything else is taken for the address of a mint. -/
def resolveTokenMint (tokenInput : String) : String :=
  if upper tokenInput = "USDC" then usdcMintDevnet
  else if upper tokenInput = "FXN" then fxnMintMainnet
  else tokenInput

/-- What is transferred: SOL, or a token of the registry with its decimals. -/
inductive Asset
  | sol
  | token (mintStr : String) (decimals : ℕ)
  deriving DecidableEq

/-! ## The endpoint -/

section Endpoint

variable {F : Type} [Number F] {S : Solders}

/-- The block that checks the asset and the amount: what is transferred, and how many base units
of it. -/
def enforceLimits [LT F] [DecidableLT F] (config : GatewayConfig F) (req : TransferRequest F) :
    Except Exn (Except HttpException (Asset × ℤ)) :=
  match req.token.filter fun token => decide (token ≠ "") with
  | some token =>
    let mintStr := resolveTokenMint token
    match knownTokens.get? mintStr with
    | none => return .error ⟨400, ofString "Unsupported token: " ++ ofString mintStr⟩
    | some (symbol, decimals) =>
      match (config.getMaxTransferToken mintStr).filter fun maxAmount =>
          decide (req.amount > maxAmount) with
      | some maxAmount => return .error ⟨400, ofString "Amount " ++ Number.str req.amount ++
          ofString " exceeds max " ++ Number.str maxAmount ++ ofString " " ++ ofString symbol⟩
      | none => do
        let baseUnits ← Number.toInt (Number.mulInt req.amount (10 ^ decimals))
        return .ok (.token mintStr decimals, baseUnits)
  | none =>
    if req.amount > config.maxTransferSol then
      return .error ⟨400, ofString "Amount " ++ Number.str req.amount ++
        ofString " SOL exceeds max " ++ Number.str config.maxTransferSol ++ ofString " SOL"⟩
    else do
      let lamports ← Number.toInt (Number.mulInt req.amount lamportsPerSol)
      return .ok (.sol, lamports)

/-- The block that builds and signs the transaction. -/
def buildTransfer (env : Moment S) (hotKeypair : S.Keypair) (asset : Asset) (baseUnits : ℤ)
    (destPubkey : Pubkey) (recentBlockhash : S.Blockhash) : Method (GatewayNode F S) Bytes := do
  match asset with
  | .token mintStr decimals =>
    let mintPubkey ← ofExcept (S.pubkeyFromString mintStr)
    let recipientAta ← ofExcept (findAssociatedTokenAddress S destPubkey mintPubkey)
    emit (.getAccountInfo recipientAta)
    ofExcept (createSplTransfer S hotKeypair destPubkey mintPubkey baseUnits decimals
      recentBlockhash (env.rpc.createAta recipientAta))
  | .sol => ofExcept (createSolTransfer S hotKeypair destPubkey baseUnits recentBlockhash)

/-- `POST /v1/transfer`: verify hot wallet, destination and limits, then create, sign and broadcast
the transfer from the hot wallet. -/
def submitTransfer [LT F] [DecidableLT F] (env : Moment S) (req : TransferRequest F) :
    Method (GatewayNode F S) (Except HttpException TransferResponse) := do
  let g ← get
  let some hotKeypair := g.hotKeypair
    | return .error ⟨503, ofString "No hot wallet configured on this gateway"⟩
  match S.pubkeyFromString req.destination with
  | .error _ =>
    return .error ⟨400, ofString "Invalid destination address: " ++ ofString req.destination⟩
  | .ok destPubkey =>
  match ← ofExcept (enforceLimits g.config req) with
  | .error refusal => return .error refusal
  | .ok (asset, baseUnits) =>
  emit .getLatestBlockhash
  match env.rpc.getLatestBlockhash with
  | .error e => return .error ⟨502, ofString "RPC error fetching blockhash: " ++ e.text⟩
  | .ok recentBlockhash =>
  match ← attempt (buildTransfer env hotKeypair asset baseUnits destPubkey recentBlockhash) with
  | .error e => return .ok ⟨false, none, some (ofString "TX creation failed: " ++ e.text)⟩
  | .ok txBytes =>
  let (success, result) ← broadcastToSolana env txBytes
  if success then return .ok ⟨true, some result, none⟩
  else return .ok ⟨false, none, some result⟩

/-! ## What is signed -/

/-- The transaction is the signed transfer of so many base units of the asset. -/
def IsAssetTransfer (S : Solders) (keypair : S.Keypair) (asset : Asset) (baseUnits : ℤ)
    (dest : Pubkey) (recentBlockhash : S.Blockhash) (txBytes : Bytes) : Prop :=
  match asset with
  | .sol => createSolTransfer S keypair dest baseUnits recentBlockhash = .ok txBytes
  | .token mintStr decimals => ∃ (mint : Pubkey) (createAta : Bool),
      S.pubkeyFromString mintStr = .ok mint ∧
        createSplTransfer S keypair dest mint baseUnits decimals recentBlockhash createAta =
          .ok txBytes

omit [Number F] in
/-- Building the transaction asks for accounts only, and gives the transfer of these units.

**Proof sketch.** A transfer of SOL asks for nothing. A transfer of a token raises if its mint or
the account cannot be used, and otherwise asks for the account once. -/
lemma run_buildTransfer (env : Moment S) (keypair : S.Keypair) (asset : Asset) (baseUnits : ℤ)
    (dest : Pubkey) (recentBlockhash : S.Blockhash) (g : GatewayNode F S) :
    ∃ answer calls,
      (attempt (buildTransfer env keypair asset baseUnits dest recentBlockhash)).run g =
        .ok answer (g.record calls) ∧
      (∀ event ∈ calls, ∃ address, event = .getAccountInfo address) ∧
      ∀ txBytes, answer = .ok txBytes →
        IsAssetTransfer S keypair asset baseUnits dest recentBlockhash txBytes := by
  cases asset with
  | sol =>
    refine ⟨_, [], ?_, by simp, fun txBytes h => h⟩
    rw [GatewayNode.record_nil]
    exact run_attempt_ofExcept _ g
  | token mintStr decimals =>
    unfold buildTransfer
    dsimp only
    rw [run_attempt]
    cases hmint : S.pubkeyFromString mintStr with
    | error e => exact ⟨_, [], by rw [GatewayNode.record_nil]; rfl, by simp, fun _ h => by cases h⟩
    | ok mint =>
      rw [run_bind_ok (run_ofExcept_ok mint g)]
      cases findAssociatedTokenAddress S dest mint with
      | error e =>
        exact ⟨_, [], by rw [GatewayNode.record_nil]; rfl, by simp, fun _ h => by cases h⟩
      | ok ata =>
        refine ⟨_, [.getAccountInfo ata], run_attempt_ofExcept _ (g.record [.getAccountInfo ata]),
          ?_, fun txBytes h => ⟨mint, _, hmint, h⟩⟩
        intro event hevent
        exact ⟨ata, List.mem_singleton.mp hevent⟩

variable [LT F] [DecidableLT F]

/-- The transaction is the transfer, to the destination of the request, of the base units that the
check of the limits admitted. -/
def IsAdmittedTransfer (env : Moment S) (g : GatewayNode F S) (req : TransferRequest F)
    (txBytes : Bytes) : Prop :=
  ∃ keypair dest asset baseUnits recentBlockhash, g.hotKeypair = some keypair ∧
    S.pubkeyFromString req.destination = .ok dest ∧
    enforceLimits g.config req = .ok (.ok (asset, baseUnits)) ∧
    env.rpc.getLatestBlockhash = .ok recentBlockhash ∧
    IsAssetTransfer S keypair asset baseUnits dest recentBlockhash txBytes

/-- **The exits of the endpoint**: the calls made to the RPC node. -/
inductive TransferExit (env : Moment S) (g : GatewayNode F S) (req : TransferRequest F) :
    List GatewayEvent → Prop
  | refused : TransferExit env g req []
  | noBlockhash : TransferExit env g req [.getLatestBlockhash]
  | notCreated {calls : List GatewayEvent}
      (hcalls : ∀ event ∈ calls, ∃ address, event = .getAccountInfo address) :
      TransferExit env g req (.getLatestBlockhash :: calls)
  | broadcast {calls : List GatewayEvent} {txBytes : Bytes}
      (hcalls : ∀ event ∈ calls, ∃ address, event = .getAccountInfo address)
      (htransfer : IsAdmittedTransfer env g req txBytes) :
      TransferExit env g req (.getLatestBlockhash :: calls ++ (env.rpc.broadcast txBytes).1)

/-- **Every run of the endpoint takes one of the exits.**

**Proof sketch.** The checks of the endpoint are gone through in their order: up to the limits each
refusal does nothing. Then it asks for a blockhash, builds the transaction (`run_buildTransfer`) and
broadcasts it (`run_broadcastToSolana`). -/
lemma stateAfter_submitTransfer (env : Moment S) (req : TransferRequest F)
    (g : GatewayNode F S) :
    ∃ calls, TransferExit env g req calls ∧
      stateAfter (submitTransfer env req) g = g.record calls := by
  unfold submitTransfer
  rw [stateAfter, EStateM.run_bind, EStateM.run_get]
  dsimp only
  cases hkey : g.hotKeypair with
  | none => exact ⟨[], .refused, (GatewayNode.record_nil g).symm⟩
  | some keypair =>
  dsimp only
  cases hdest : S.pubkeyFromString req.destination with
  | error e => exact ⟨[], .refused, (GatewayNode.record_nil g).symm⟩
  | ok dest =>
  dsimp only
  cases hlimits : enforceLimits g.config req with
  | error e => exact ⟨[], .refused, (GatewayNode.record_nil g).symm⟩
  | ok admission =>
  rw [run_bind_ok (run_ofExcept_ok _ _)]
  cases admission with
  | error refusal => exact ⟨[], .refused, (GatewayNode.record_nil g).symm⟩
  | ok admitted =>
  obtain ⟨asset, baseUnits⟩ := admitted
  dsimp only
  rw [run_bind_ok (run_emit _ _)]
  cases hrpc : env.rpc.getLatestBlockhash with
  | error e => exact ⟨[.getLatestBlockhash], .noBlockhash, rfl⟩
  | ok recentBlockhash =>
  dsimp only
  obtain ⟨answer, calls, hbuild, hcalls, htransfer⟩ := run_buildTransfer env keypair asset baseUnits
    dest recentBlockhash (g.record [.getLatestBlockhash])
  rw [run_bind_ok hbuild, GatewayNode.record_record]
  cases answer with
  | error e => exact ⟨_, .notCreated hcalls, rfl⟩
  | ok txBytes =>
    refine ⟨_, .broadcast hcalls ⟨keypair, dest, asset, baseUnits, recentBlockhash, hkey, hdest,
      hlimits, hrpc, htransfer _ rfl⟩, ?_⟩
    dsimp only
    rw [run_bind_ok (run_broadcastToSolana env txBytes _), GatewayNode.record_record]
    cases (env.rpc.broadcast txBytes).2.1 <;> rfl

/-- Only one exit broadcasts: the one behind all checks.

**Proof sketch.** One case for each exit. The calls before the broadcast only ask for the blockhash
and for accounts. -/
lemma TransferExit.of_sendRawTransaction {env : Moment S} {g : GatewayNode F S}
    {req : TransferRequest F} {calls : List GatewayEvent} (h : TransferExit env g req calls)
    {txBytes : Bytes} (hsend : .sendRawTransaction txBytes ∈ calls) :
    IsAdmittedTransfer env g req txBytes := by
  have hnot : ∀ {calls : List GatewayEvent},
      (∀ event ∈ calls, ∃ address, event = .getAccountInfo address) →
        GatewayEvent.sendRawTransaction txBytes ∉ GatewayEvent.getLatestBlockhash :: calls := by
    intro calls hcalls hmem
    rcases List.mem_cons.mp hmem with heq | hmem
    · cases heq
    · obtain ⟨address, heq⟩ := hcalls _ hmem
      cases heq
  cases h with
  | refused => cases hsend
  | noBlockhash => exact absurd hsend (hnot (by simp))
  | notCreated hcalls => exact absurd hsend (hnot hcalls)
  | broadcast hcalls htransfer =>
    have hbroadcast := (List.mem_append.mp hsend).resolve_left (hnot hcalls)
    cases mem_broadcast_calls hbroadcast
    exact htransfer

/-- **What is handed to the RPC node passed the check**: it is the transfer, to the destination of
the request, of the base units that the check of the limits admitted. -/
theorem limits_of_sendRawTransaction (env : Moment S) (req : TransferRequest F)
    (g : GatewayNode F S) :
    ∃ calls, stateAfter (submitTransfer env req) g = g.record calls ∧
      ∀ txBytes, .sendRawTransaction txBytes ∈ calls →
        ∃ keypair dest asset baseUnits recentBlockhash, g.hotKeypair = some keypair ∧
          S.pubkeyFromString req.destination = .ok dest ∧
          enforceLimits g.config req = .ok (.ok (asset, baseUnits)) ∧
          env.rpc.getLatestBlockhash = .ok recentBlockhash ∧
          IsAssetTransfer S keypair asset baseUnits dest recentBlockhash txBytes := by
  obtain ⟨calls, hexit, hafter⟩ := stateAfter_submitTransfer env req g
  exact ⟨calls, hafter, fun txBytes hsend => hexit.of_sendRawTransaction hsend⟩

end Endpoint

end SolMesh

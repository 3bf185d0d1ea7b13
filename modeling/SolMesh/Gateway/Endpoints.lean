import SolMesh.Gateway.HttpApi
import SolMesh.Gateway.Queries

set_option relaxedAutoImplicit false
set_option autoImplicit false

/-!
# The HTTP endpoints

A gateway serves a few of its operations over HTTP. Every endpoint stands behind the same two
checks: of the caller's key, and of a rate limit that is kept in the rate limiter of the gateway,
in a bucket named after the first characters of the key. What an endpoint raises beyond an
`HTTPException` becomes an internal server error.

## Main definitions

* `SolMesh.verifyApiKey`, `SolMesh.checkHttpRateLimit` — the checks.
* `SolMesh.httpStatus`, `SolMesh.httpBalance`, `SolMesh.httpBlockhash`, `SolMesh.httpSlot` — the
  endpoints that only read.
* `SolMesh.ApiRequest`, `SolMesh.serve` — a request to any endpoint, behind the checks.

## Main results

* `SolMesh.stateAfter_serve_of_accepts`, `SolMesh.stateAfter_serve_of_not_accepts` — a request
  with the key asks the rate limiter, and one without it changes nothing.
* `SolMesh.stateAfter_endpoint` — the calls that an endpoint makes.
-/

namespace SolMesh

open Py Text

variable {F : Type} {S : Solders}

/-! ## The checks in front of every endpoint -/

/-- `secrets.compare_digest` of two strings, which takes ASCII only. -/
def compareDigest (a b : String) : Except Exn Bool :=
  if a.toList.all (fun c => decide (c.val < 0x80)) ∧ b.toList.all (fun c => decide (c.val < 0x80))
  then .ok (a = b)
  else .error ⟨"TypeError",
    ofString "comparing strings with non-ASCII characters is not supported"⟩

/-- Validate the key of a caller. -/
def verifyApiKey (xApiKey : String) : Method (Gateway F S) (Except HttpException String) := do
  let gw ← get
  match gw.config.key with
  | none => return .error ⟨401, ofString "Invalid API key"⟩
  | some expected =>
    if ← ofExcept (compareDigest xApiKey expected) then return .ok xApiKey
    else return .error ⟨401, ofString "Invalid API key"⟩

/-- The bucket of a caller: it is named after the first eight characters of the key. -/
def httpBucket (xApiKey : String) : String := "http:" ++ String.ofList (xApiKey.toList.take 8)

/-- Check the rate limit of a caller, behind the check of the key. -/
def checkHttpRateLimit (env : Surroundings S) (xApiKey : String) :
    Method (Gateway F S) (Except HttpException String) := do
  match ← verifyApiKey xApiKey with
  | .error refusal => return .error refusal
  | .ok key =>
    let gw ← get
    let (allowed, rateLimiter) :=
      gw.node.rateLimiter.isAllowed (httpBucket key) env.bucketCreation env.now
    set { gw with node := { gw.node with rateLimiter := rateLimiter } }
    if allowed then return .ok key
    else return .error ⟨429, ofString "Rate limit exceeded"⟩

/-! ## Endpoints that only read -/

structure BalanceResponse where
  address : String
  token : Option String
  balanceRaw : ℤ
  balanceHuman : ℚ
  decimals : ℕ
  symbol : String
  deriving DecidableEq

structure BlockhashResponse (S : Solders) where
  blockhash : S.Blockhash
  lastValidBlockHeight : ℤ

/-- `GET /v1/status`: it reads an attribute that the interface to the mesh does not have. -/
def httpStatus {α : Type} : Method (Gateway F S) α :=
  throw ⟨"AttributeError", ofString "'MeshInterface' object has no attribute 'connected'"⟩

/-- `GET /v1/balance/{address}`. -/
def httpBalance (env : Surroundings S) (address : String) (token : Option String) :
    Method (Gateway F S) (Except HttpException BalanceResponse) := do
  match S.pubkeyFromString address with
  | .error _ => return .error ⟨400, ofString "Invalid Solana address: " ++ ofString address⟩
  | .ok pubkey =>
  match token.filter fun token => decide (token ≠ "") with
  | some token =>
    let mintStr := resolveTokenMint token
    match knownTokens.get? mintStr with
    | none => return .error ⟨400, ofString "Unknown token: " ++ ofString mintStr⟩
    | some (symbol, decimals) =>
      let mintPubkey ← ofExcept (S.pubkeyFromString mintStr)
      let ata ← ofExcept (findAssociatedTokenAddress S pubkey mintPubkey)
      match ← attempt (ask env (.getTokenAccountBalance ata)) with
      | .error e => return .error ⟨502, ofString "RPC error: " ++ e.text⟩
      | .ok rawAmount =>
        return .ok ⟨address, some mintStr, rawAmount, rawAmount / 10 ^ decimals, decimals, symbol⟩
  | none =>
    match ← attempt (ask env (.getBalance pubkey)) with
    | .error e => return .error ⟨502, ofString "RPC error: " ++ e.text⟩
    | .ok lamports => return .ok ⟨address, none, lamports, lamports / lamportsPerSol, 9, "SOL"⟩

/-- `GET /v1/blockhash`. -/
def httpBlockhash (env : Surroundings S) :
    Method (Gateway F S) (Except HttpException (BlockhashResponse S)) := do
  onNode (emit .getLatestBlockhash)
  match env.rpc.getLatestBlockhash with
  | .error e => return .error ⟨502, ofString "RPC error: " ++ e.text⟩
  | .ok blockhash => return .ok ⟨blockhash, env.lastValidBlockHeight⟩

/-- `GET /v1/slot`. -/
def httpSlot (env : Surroundings S) : Method (Gateway F S) (Except HttpException ℤ) := do
  match ← attempt (ask env .getSlot) with
  | .error e => return .error ⟨502, ofString "RPC error: " ++ e.text⟩
  | .ok slot => return .ok slot

/-! ## Requests -/

/-- A request to one of the endpoints. -/
inductive ApiRequest (F : Type)
  | status
  | balance (address : String) (token : Option String)
  | blockhash
  | slot
  | transfer (req : TransferRequest F)

/-- The answer of an endpoint. -/
inductive ApiAnswer (S : Solders)
  | balance (response : BalanceResponse)
  | blockhash (response : BlockhashResponse S)
  | slot (slot : ℤ)
  | transfer (response : TransferResponse)

variable [Number F] [LT F] [DecidableLT F]

/-- The endpoint of a request. -/
def endpoint (env : Surroundings S) :
    ApiRequest F → Method (Gateway F S) (Except HttpException (ApiAnswer S))
  | .status => httpStatus
  | .balance address token => do return (← httpBalance env address token).map .balance
  | .blockhash => do return (← httpBlockhash env).map .blockhash
  | .slot => do return (← httpSlot env).map .slot
  | .transfer req => do return (← onNode (submitTransfer env.toMoment req)).map .transfer

/-- Serve a request: check key and rate limit, then run the endpoint. -/
def serve (env : Surroundings S) (xApiKey : String) (request : ApiRequest F) :
    Method (Gateway F S) (Except HttpException (ApiAnswer S)) := do
  match ← checkHttpRateLimit env xApiKey with
  | .error refusal => return .error refusal
  | .ok _ => endpoint env request

/-! ## What a request leaves behind -/

/-- Does the gateway accept the key of a caller? -/
def ServiceConfig.accepts (config : ServiceConfig F) (xApiKey : String) : Bool :=
  match config.key with
  | none => false
  | some expected =>
    match compareDigest xApiKey expected with
    | .ok equal => equal
    | .error _ => false

omit [Number F] [LT F] [DecidableLT F] in
/-- An accepted key is the configured one. -/
lemma ServiceConfig.key_of_accepts {config : ServiceConfig F} {xApiKey : String}
    (h : config.accepts xApiKey = true) : config.key = some xApiKey := by
  unfold ServiceConfig.accepts compareDigest at h
  cases hkey : config.key with
  | none => rw [hkey] at h; cases h
  | some expected =>
    rw [hkey] at h
    dsimp only at h
    split_ifs at h
    rw [of_decide_eq_true h]

variable {gw : Gateway F S} {env : Surroundings S} {xApiKey : String}

/-- A caller without the key changes nothing.

**Proof sketch.** Cases on the key that is configured. Without one, and with one that the caller's
key cannot be compared with or is not equal to, the dependency ends before the limiter is asked. -/
lemma stateAfter_serve_of_not_accepts (h : gw.config.accepts xApiKey = false)
    (request : ApiRequest F) : stateAfter (serve env xApiKey request) gw = gw := by
  unfold ServiceConfig.accepts at h
  unfold serve checkHttpRateLimit verifyApiKey
  cases hkey : gw.config.key with
  | none =>
    rw [stateAfter, EStateM.run_bind, EStateM.run_bind, EStateM.run_bind, EStateM.run_get]
    dsimp only
    rw [hkey]
    rfl
  | some expected =>
    rw [hkey] at h
    dsimp only at h
    rw [stateAfter, EStateM.run_bind, EStateM.run_bind, EStateM.run_bind, EStateM.run_get]
    dsimp only
    rw [hkey]
    dsimp only
    cases hequal : compareDigest xApiKey expected with
    | error e => rfl
    | ok equal =>
      rw [hequal] at h
      dsimp only at h
      rw [h, run_bind_ok (run_ofExcept_ok _ _), if_neg Bool.false_ne_true]
      rfl

/-- A caller with the key beyond the rate limit is refused.

**Proof sketch.** The key that is accepted is equal to itself, so it is verified (`hverify`). Then
the limiter is asked about its bucket (`hlimit`), and the endpoint runs exactly if it admits the
caller. -/
lemma stateAfter_serve_of_accepts (h : gw.config.accepts xApiKey = true)
    (request : ApiRequest F) :
    stateAfter (serve env xApiKey request) gw =
      if gw.admits env (httpBucket xApiKey) then
        stateAfter (endpoint env request) (gw.limited env (httpBucket xApiKey))
      else gw.limited env (httpBucket xApiKey) := by
  have hkey := ServiceConfig.key_of_accepts h
  unfold ServiceConfig.accepts at h
  rw [hkey] at h
  dsimp only at h
  have hequal : compareDigest xApiKey xApiKey = .ok true := by
    cases hequal : compareDigest xApiKey xApiKey with
    | error e => rw [hequal] at h; cases h
    | ok equal =>
      rw [hequal] at h
      exact congrArg Except.ok h
  have hverify : (verifyApiKey xApiKey).run gw = .ok (.ok xApiKey) gw := by
    unfold verifyApiKey
    rw [EStateM.run_bind, EStateM.run_get]
    dsimp only
    rw [hkey]
    dsimp only
    rw [hequal, run_bind_ok (run_ofExcept_ok _ _), if_pos rfl]
    rfl
  have hlimit : (checkHttpRateLimit env xApiKey).run gw =
      .ok (if gw.admits env (httpBucket xApiKey) then .ok xApiKey
        else .error ⟨429, ofString "Rate limit exceeded"⟩)
        (gw.limited env (httpBucket xApiKey)) := by
    unfold checkHttpRateLimit
    rw [run_bind_ok hverify]
    dsimp only
    rw [EStateM.run_bind, EStateM.run_get]
    dsimp only
    rw [EStateM.run_bind, EStateM.run_set]
    dsimp only
    change EStateM.run (if gw.admits env (httpBucket xApiKey) = true then _ else _)
      (gw.limited env (httpBucket xApiKey)) = _
    cases gw.admits env (httpBucket xApiKey) <;> rfl
  unfold serve
  rw [stateAfter_bind_ok hlimit]
  cases gw.admits env (httpBucket xApiKey) <;> rfl

omit [Number F] [LT F] [DecidableLT F] in
/-- Asking for the balance of an account leaves behind at most one query.

**Proof sketch.** Along the branches of the endpoint: every exit before the query leaves the gateway
as it is, and the query of an account or of the token account that belongs to it is one call. -/
lemma exists_queries_httpBalance (env : Surroundings S) (address : String)
    (token : Option String) (gw : Gateway F S) :
    ∃ queries, stateAfter (httpBalance env address token) gw = gw.asked queries := by
  have hask : ∀ call : QueryCall, (attempt (ask env call)).run gw =
      .ok (env.answer call) (gw.asked [call]) :=
    fun call => run_attempt_ofExcept (env.answer call) (gw.asked [call])
  unfold httpBalance
  cases S.pubkeyFromString address with
  | error e => exact ⟨[], (Gateway.asked_nil gw).symm⟩
  | ok pubkey =>
  dsimp only
  cases token.filter fun token => decide (token ≠ "") with
  | none =>
    dsimp only
    refine ⟨[.getBalance pubkey], ?_⟩
    rw [stateAfter_bind_ok (hask _)]
    cases env.answer (.getBalance pubkey) <;> rfl
  | some token =>
  dsimp only
  cases knownTokens.get? (resolveTokenMint token) with
  | none => exact ⟨[], (Gateway.asked_nil gw).symm⟩
  | some known =>
  dsimp only
  cases S.pubkeyFromString (resolveTokenMint token) with
  | error e => exact ⟨[], (Gateway.asked_nil gw).symm⟩
  | ok mint =>
  rw [stateAfter_bind_ok (run_ofExcept_ok _ _)]
  cases findAssociatedTokenAddress S pubkey mint with
  | error e => exact ⟨[], (Gateway.asked_nil gw).symm⟩
  | ok ata =>
    refine ⟨[.getTokenAccountBalance ata], ?_⟩
    rw [stateAfter_bind_ok (run_ofExcept_ok _ _), stateAfter_bind_ok (hask _)]
    cases env.answer (.getTokenAccountBalance ata) <;> rfl

/-- **What an endpoint leaves behind**: only transfers make other calls than queries.

**Proof sketch.** One case for each request. A balance leaves queries
(`exists_queries_httpBalance`), a blockhash and a slot one call each, and a transfer the calls of
one of the exits of `submit_transfer` (`stateAfter_submitTransfer`). -/
lemma stateAfter_endpoint (env : Surroundings S) (request : ApiRequest F) (gw : Gateway F S) :
    ∃ calls queries, stateAfter (endpoint env request) gw = (gw.record calls).asked queries ∧
      ((∃ req, request = .transfer req ∧ TransferExit env.toMoment gw.node req calls) ∨
        calls = [] ∨ calls = [.getLatestBlockhash]) := by
  cases request with
  | status => exact ⟨[], [], by rw [Gateway.record_nil, Gateway.asked_nil]; rfl, by simp⟩
  | balance address token =>
    obtain ⟨queries, hafter⟩ := exists_queries_httpBalance env address token gw
    refine ⟨[], queries, ?_, by simp⟩
    rw [endpoint, stateAfter_map, hafter, Gateway.record_nil]
  | blockhash =>
    refine ⟨[.getLatestBlockhash], [], ?_, by simp⟩
    rw [endpoint, stateAfter_map, httpBlockhash, Gateway.asked_nil, onNode,
      stateAfter_focus_bind (run_emit _ _)]
    cases env.rpc.getLatestBlockhash <;> rfl
  | slot =>
    refine ⟨[], [.getSlot], ?_, by simp⟩
    have hask : (attempt (ask env .getSlot)).run gw =
        .ok (env.answer .getSlot) (gw.asked [.getSlot]) :=
      run_attempt_ofExcept (env.answer .getSlot) (gw.asked [.getSlot])
    rw [endpoint, stateAfter_map, httpSlot, Gateway.record_nil, stateAfter_bind_ok hask]
    cases env.answer .getSlot <;> rfl
  | transfer req =>
    obtain ⟨calls, hexit, hafter⟩ := stateAfter_submitTransfer env.toMoment req gw.node
    refine ⟨calls, [], ?_, Or.inl ⟨req, rfl, hexit⟩⟩
    rw [endpoint, stateAfter_map, Gateway.asked_nil, onNode, stateAfter_focus, Gateway.nodePart,
      hafter, Gateway.record]

end SolMesh

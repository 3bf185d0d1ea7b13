import SolMesh.Gateway.HttpApi

set_option relaxedAutoImplicit false
set_option autoImplicit false

/-!
# Two resolvers of token names

The command line and the HTTP API of a gateway take the same names for tokens: `USDC` and `FXN` in
any case, or the address of a mint. The command line knows the network it works for, and with it
the mints there are. The HTTP API does not ask for the network: it takes `USDC` for the mint of
devnet and `FXN` for the mint of mainnet.

## Main definitions

* `SolMesh.resolveToken` — the resolver of the command line.
* `SolMesh.HttpTransfers` — a name for which the HTTP API sends transfers.
* `SolMesh.ResolversAgree` — what both make of a name on a network.

## Main results

* `SolMesh.httpTransfers_fxn` — the HTTP API transfers `FXN` whatever the network.
* `SolMesh.resolversAgree_iff` — on which networks and names the resolvers agree.
-/

namespace SolMesh

open Py Text

/-! ## The command line -/

/-- A `click.UsageError`. -/
structure UsageError where
  message : String
  deriving DecidableEq

/-- `_resolve_token`: the mint address, `none` for SOL, the decimals and the symbol behind the flags
`--usdc` and `--fxn` or the option `--token`. An empty token is as good as none. -/
def resolveToken (token : Option String) (usdc fxn : Bool) (network : String) :
    Except UsageError (Option String × ℕ × String) :=
  let token := token.filter fun token => decide (token ≠ "")
  let flagsSet := usdc.toNat + fxn.toNat + token.isSome.toNat
  if flagsSet > 1 then .error ⟨"Cannot use --usdc, --fxn, and --token together."⟩
  else if usdc then
    if network = "mainnet-beta" then .ok (some usdcMintMainnet, usdcDecimals, "USDC")
    else if network = "devnet" ∨ network = "testnet" then
      .ok (some usdcMintDevnet, usdcDecimals, "USDC")
    else .error ⟨"No USDC mint configured for network '" ++ network ++
      "'. Use --token with the mint address instead."⟩
  else if fxn then
    if network ≠ "mainnet-beta" then
      .error ⟨"FXN is only available on mainnet-beta. Use --token with the mint address instead."⟩
    else .ok (some fxnMintMainnet, fxnDecimals, "FXN")
  else match token with
  | some token =>
    if upper token = "USDC" then
      if network = "mainnet-beta" then .ok (some usdcMintMainnet, usdcDecimals, "USDC")
      else .ok (some usdcMintDevnet, usdcDecimals, "USDC")
    else if upper token = "FXN" then
      if network ≠ "mainnet-beta" then .error ⟨"FXN is only available on mainnet-beta"⟩
      else .ok (some fxnMintMainnet, fxnDecimals, "FXN")
    else match knownTokens.get? token with
    | some (symbol, decimals) => .ok (some token, decimals, symbol)
    | none => .ok (some token, 6, "TOKEN(" ++ String.ofList (token.toList.take 8) ++ "...)")
  | none => .ok (none, 9, "SOL")

section Token

variable {token : String} (network : String)

/-- The option `--token` without a flag. -/
lemma resolveToken_of_token (h : token ≠ "") :
    resolveToken (some token) false false network =
      if upper token = "USDC" then
        if network = "mainnet-beta" then .ok (some usdcMintMainnet, usdcDecimals, "USDC")
        else .ok (some usdcMintDevnet, usdcDecimals, "USDC")
      else if upper token = "FXN" then
        if network ≠ "mainnet-beta" then .error ⟨"FXN is only available on mainnet-beta"⟩
        else .ok (some fxnMintMainnet, fxnDecimals, "FXN")
      else match knownTokens.get? token with
      | some (symbol, decimals) => .ok (some token, decimals, symbol)
      | none => .ok (some token, 6, "TOKEN(" ++ String.ofList (token.toList.take 8) ++ "...)") := by
  have hfilter : (some token).filter (fun token => decide (token ≠ "")) = some token := by
    rw [Option.filter_some, if_pos (decide_eq_true h)]
  unfold resolveToken
  rw [hfilter]
  rfl

/-- A name is not empty. -/
lemma ne_empty_of_upper {name : String} (h : upper token = name) (hname : name ≠ "") :
    token ≠ "" := by
  rintro rfl
  exact hname h.symm

/-- `USDC` is a token of the network. -/
lemma resolveToken_usdc (h : upper token = "USDC") :
    resolveToken (some token) false false network =
      .ok (some (if network = "mainnet-beta" then usdcMintMainnet else usdcMintDevnet),
        usdcDecimals, "USDC") := by
  rw [resolveToken_of_token network (ne_empty_of_upper h (by decide)), if_pos h]
  split_ifs <;> rfl

/-- `FXN` is a token of mainnet. -/
lemma resolveToken_fxn (h : upper token = "FXN") :
    resolveToken (some token) false false network =
      if network = "mainnet-beta" then .ok (some fxnMintMainnet, fxnDecimals, "FXN")
      else .error ⟨"FXN is only available on mainnet-beta"⟩ := by
  have husdc : upper token ≠ "USDC" := by
    rw [h]
    decide
  rw [resolveToken_of_token network (ne_empty_of_upper h (by decide)), if_neg husdc, if_pos h]
  by_cases hnetwork : network = "mainnet-beta"
  · rw [if_neg (not_not_intro hnetwork), if_pos hnetwork]
  · rw [if_pos hnetwork, if_neg hnetwork]

/-- Anything else is the address of a mint. -/
lemma resolveToken_address (hempty : token ≠ "") (husdc : upper token ≠ "USDC")
    (hfxn : upper token ≠ "FXN") :
    ∃ decimals symbol,
      resolveToken (some token) false false network = .ok (some token, decimals, symbol) := by
  rw [resolveToken_of_token network hempty, if_neg husdc, if_neg hfxn]
  cases knownTokens.get? token with
  | none => exact ⟨_, _, rfl⟩
  | some info => exact ⟨_, _, rfl⟩

end Token

/-! ## The HTTP API -/

/-- The HTTP API takes `USDC` for the token of devnet. -/
lemma resolveTokenMint_usdc {token : String} (h : upper token = "USDC") :
    resolveTokenMint token = usdcMintDevnet := by
  rw [resolveTokenMint, if_pos h]

/-- The HTTP API takes `FXN` for the token of mainnet. -/
lemma resolveTokenMint_fxn {token : String} (h : upper token = "FXN") :
    resolveTokenMint token = fxnMintMainnet := by
  rw [resolveTokenMint, if_neg (by rw [h]; decide), if_pos h]

/-- The HTTP API takes anything else for the address of a mint. -/
lemma resolveTokenMint_address {token : String} (husdc : upper token ≠ "USDC")
    (hfxn : upper token ≠ "FXN") : resolveTokenMint token = token := by
  rw [resolveTokenMint, if_neg husdc, if_neg hfxn]

/-- Some gateway, at some moment and for some request that names the token so, hands a transfer to
its RPC node. -/
def HttpTransfers (token : String) : Prop :=
  ∃ (F : Type) (_ : Number F) (_ : LT F) (_ : DecidableLT F) (S : Solders) (env : Moment S)
    (req : TransferRequest F) (g : GatewayNode F S) (calls : List GatewayEvent) (txBytes : Bytes),
    req.token = some token ∧ stateAfter (submitTransfer env req) g = g.record calls ∧
      .sendRawTransaction txBytes ∈ calls

/-- The endpoint sees no more of the name of a token than the mint it stands for. -/
lemma enforceLimits_congr {F : Type} [Number F] [LT F] [DecidableLT F] (config : GatewayConfig F)
    (destination : String) (amount : F) {token token' : String} (h : token ≠ "") (h' : token' ≠ "")
    (hmint : resolveTokenMint token = resolveTokenMint token') :
    enforceLimits config ⟨destination, amount, some token⟩ =
      enforceLimits config ⟨destination, amount, some token'⟩ := by
  have hfilter : ∀ name : String, name ≠ "" →
      (some name).filter (fun token => decide (token ≠ "")) = some name := by
    intro name hname
    rw [Option.filter_some, if_pos (decide_eq_true hname)]
  unfold enforceLimits
  dsimp only
  rw [hfilter token h, hfilter token' h']
  dsimp only
  rw [hmint]

/-- **The HTTP API transfers `FXN` whatever the network.**

**Proof sketch.** Every spelling of the token resolves to the same mint, so the endpoint does for it
what it does for `FXN`. For that one the sample gateway signs and sends a transfer of the token of
mainnet, by evaluation. -/
lemma httpTransfers_fxn {token : String} (h : upper token = "FXN") : HttpTransfers token := by
  have hne : token ≠ "" := by
    rintro rfl
    exact absurd h (by decide)
  have hmint : resolveTokenMint token = resolveTokenMint "FXN" := by
    rw [resolveTokenMint_fxn h, resolveTokenMint_fxn (by decide)]
  let request : String → TransferRequest ℤ := fun name => ⟨sampleAddress, 1, some name⟩
  have hsame : submitTransfer sampleMoment (request token) =
      submitTransfer sampleMoment (request "FXN") := by
    unfold submitTransfer
    simp only [request, enforceLimits_congr _ sampleAddress (1 : ℤ) hne (by decide) hmint]
  obtain ⟨calls, hcalls, -⟩ := limits_of_sendRawTransaction sampleMoment (request "FXN")
    sampleGateway
  have hsend : .sendRawTransaction (signedTokenTransfer hotKey sampleKey fxnKey 1000000) ∈
      (stateAfter (submitTransfer sampleMoment (request "FXN")) sampleGateway).events := by
    decide +kernel
  rw [hcalls] at hsend
  exact ⟨ℤ, inferInstance, inferInstance, inferInstance, sampleSolders, sampleMoment,
    request token, sampleGateway, calls, _, rfl, by rw [hsame, hcalls], hsend⟩

/-! ## Agreement -/

/-- The resolvers agree on a name: a mint of the command line is the mint of the HTTP API, and what
the command line rejects, the HTTP API does not transfer. -/
structure ResolversAgree (network token : String) : Prop where
  resolved : ∀ mint decimals symbol,
    resolveToken (some token) false false network = .ok (some mint, decimals, symbol) →
      resolveTokenMint token = mint
  rejected : ∀ e, resolveToken (some token) false false network = .error e → ¬ HttpTransfers token

section Agreement

variable {network token : String}

/-- The resolvers agree on a name that the command line resolves to the mint of the HTTP API. -/
lemma resolversAgree_of_ok {decimals : ℕ} {symbol : String}
    (hcli : resolveToken (some token) false false network =
      .ok (some (resolveTokenMint token), decimals, symbol)) : ResolversAgree network token := by
  constructor
  · intro mint decimals' symbol' hresolved
    rw [hcli] at hresolved
    cases hresolved
    rfl
  · intro e hrejected
    rw [hcli] at hrejected
    cases hrejected

/-- On `USDC` the resolvers agree everywhere but on mainnet. -/
lemma resolversAgree_usdc_iff (h : upper token = "USDC") :
    ResolversAgree network token ↔ network ≠ "mainnet-beta" := by
  have hcli := resolveToken_usdc network h
  have hhttp := resolveTokenMint_usdc h
  constructor
  · rintro hagree rfl
    rw [if_pos rfl] at hcli
    have hmint := hagree.resolved _ _ _ hcli
    rw [hhttp] at hmint
    exact absurd hmint (by decide)
  · intro hnetwork
    rw [if_neg hnetwork, ← hhttp] at hcli
    exact resolversAgree_of_ok hcli

/-- On `FXN` the resolvers agree on mainnet only. -/
lemma resolversAgree_fxn_iff (h : upper token = "FXN") :
    ResolversAgree network token ↔ network = "mainnet-beta" := by
  have hcli := resolveToken_fxn network h
  constructor
  · intro hagree
    by_contra hnetwork
    rw [if_neg hnetwork] at hcli
    exact hagree.rejected _ hcli (httpTransfers_fxn h)
  · rintro rfl
    rw [if_pos rfl, ← resolveTokenMint_fxn h] at hcli
    exact resolversAgree_of_ok hcli

/-- On addresses of mints the resolvers agree. -/
lemma resolversAgree_address (hempty : token ≠ "") (husdc : upper token ≠ "USDC")
    (hfxn : upper token ≠ "FXN") : ResolversAgree network token := by
  obtain ⟨decimals, symbol, hcli⟩ := resolveToken_address network hempty husdc hfxn
  have hmint : resolveToken (some token) false false network =
      .ok (some (resolveTokenMint token), decimals, symbol) := by
    rw [resolveTokenMint_address husdc hfxn, hcli]
  exact resolversAgree_of_ok hmint

/-- An empty name stands for SOL on either side. -/
lemma resolversAgree_empty : ResolversAgree network "" := by
  constructor
  · intro mint decimals symbol hresolved
    cases hresolved
  · intro e hrejected
    cases hrejected

end Agreement

/-- **The resolvers agree except on `USDC` on mainnet and on `FXN` elsewhere.** On mainnet the HTTP
API takes `USDC` for the token of devnet. On any other network it takes `FXN` for the token of
mainnet, which the command line rejects, and transfers it.

**Proof sketch.** Cases on the token: `USDC`, `FXN`, no token, and anything else, which both
resolvers take for an address. -/
theorem resolversAgree_iff (network token : String) :
    ResolversAgree network token ↔ ¬ (network = "mainnet-beta" ∧ upper token = "USDC") ∧
      ¬ (network ≠ "mainnet-beta" ∧ upper token = "FXN") := by
  by_cases husdc : upper token = "USDC"
  · rw [resolversAgree_usdc_iff husdc, husdc]
    simp
  by_cases hfxn : upper token = "FXN"
  · rw [resolversAgree_fxn_iff hfxn, hfxn]
    simp
  · refine iff_of_true ?_ ⟨fun h => husdc h.2, fun h => hfxn h.2⟩
    by_cases hempty : token = ""
    · rw [hempty]
      exact resolversAgree_empty
    · exact resolversAgree_address hempty husdc hfxn

/-- On mainnet the command line resolves `USDC` to the token of mainnet and the HTTP API to the one
of devnet. On devnet the command line rejects `FXN`, and the HTTP API transfers it. -/
theorem not_resolversAgree :
    resolveToken (some "USDC") false false "mainnet-beta" =
        .ok (some usdcMintMainnet, usdcDecimals, "USDC") ∧
      resolveTokenMint "USDC" = usdcMintDevnet ∧ ¬ ResolversAgree "mainnet-beta" "USDC" ∧
      resolveToken (some "FXN") false false "devnet" =
        .error ⟨"FXN is only available on mainnet-beta"⟩ ∧
      HttpTransfers "FXN" ∧ ¬ ResolversAgree "devnet" "FXN" := by
  have husdc : upper "USDC" = "USDC" := by decide
  have hfxn : upper "FXN" = "FXN" := by decide
  refine ⟨resolveToken_usdc _ husdc, resolveTokenMint_usdc husdc, ?_, resolveToken_fxn _ hfxn,
    httpTransfers_fxn hfxn, ?_⟩
  · rw [resolversAgree_usdc_iff husdc]
    decide
  · rw [resolversAgree_fxn_iff hfxn]
    decide

end SolMesh

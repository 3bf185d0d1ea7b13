import Mathlib.Tactic.FieldSimp
import Mathlib.Tactic.Positivity
import SolMesh.Gateway.HttpApi

set_option relaxedAutoImplicit false
set_option autoImplicit false

/-!
# The transfer cap, over HTTP and over the mesh

The HTTP endpoint compares the amount of a transfer with the limit, in units of the asset, and
truncates the amount to base units afterwards. The mesh handler truncates the limit to base units
and compares these. In exact arithmetic both enforce the same cap.

## Main definitions

* `SolMesh.httpMint`, `SolMesh.meshMint` — the mint that a request of either kind names.
* `SolMesh.knownAsset` — the asset behind a mint, if the gateway transfers it.
* `SolMesh.Asset.maxTransfer` — the limit that applies to an asset.

## Main results

* `SolMesh.checkAmount_eq_none_iff`, `SolMesh.enforceLimits_eq_ok_iff` — what either check admits.
* `SolMesh.transferCaps_agree` — the checks admit the same transfers.
-/

namespace SolMesh

open Py Text

/-! ## Assets -/

/-- The mint that an HTTP request names, `none` for a transfer of SOL. -/
def httpMint (token : Option String) : Option String :=
  (token.filter fun token => decide (token ≠ "")).map resolveTokenMint

/-- The mint that a mesh request names, `none` for a transfer of SOL. -/
def meshMint (S : Solders) (req : TxRequest) : Option String :=
  if h : req.mint.length = 32 then some (S.pubkeyStr ⟨req.mint, h⟩) else none

/-- The amount of a mesh request that is checked: the amount of a token, or lamports. -/
def TxRequest.checkedAmount (req : TxRequest) : ℕ :=
  if req.mint.length = 32 then req.amount else req.lamports

/-- The asset behind a mint, if the gateway transfers it. -/
def knownAsset : Option String → Option Asset
  | none => some .sol
  | some mintStr => (knownTokens.get? mintStr).map fun token => .token mintStr token.2

/-- A mint of the registry is not the mint of an unknown asset. -/
lemma not_unknown {mintStr mintStr' : String} {token : String × ℕ}
    (h : knownTokens.get? mintStr' = some token) :
    ¬ (some mintStr' = some mintStr ∧ knownAsset (some mintStr) = none) := by
  rintro ⟨heq, hnone⟩
  rw [← Option.some.inj heq, knownAsset, h] at hnone
  cases hnone

namespace Asset

/-- The base units of one unit. -/
def baseUnits : Asset → ℤ
  | sol => lamportsPerSol
  | token _ decimals => 10 ^ decimals

lemma baseUnits_pos (asset : Asset) : 0 < asset.baseUnits := by
  cases asset with
  | sol => decide
  | token mintStr decimals => exact pow_pos (by decide) decimals

/-- The limit of an asset, `none` if it has no limit. -/
def maxTransfer {F : Type} (config : GatewayConfig F) : Asset → Option F
  | sol => some config.maxTransferSol
  | token mintStr _ => config.getMaxTransferToken mintStr

end Asset

/-- Every mint can be named over HTTP, by its address: addresses are too long to be one of the
names. -/
lemma httpMint_address {mintStr : String} (h : 32 ≤ mintStr.length) :
    httpMint (some mintStr) = some mintStr := by
  have hupper : (upper mintStr).length = mintStr.length := by
    simp [upper, String.length_ofList, String.length_toList]
  have hne : ∀ name : String, name.length < 32 → upper mintStr ≠ name := by
    intro name hname heq
    rw [heq] at hupper
    omega
  have hempty : mintStr ≠ "" := by
    rintro rfl
    cases h
  have hresolve : resolveTokenMint mintStr = mintStr := by
    rw [resolveTokenMint, if_neg (hne _ (by decide)), if_neg (hne _ (by decide))]
  rw [httpMint, Option.filter_some, if_pos (decide_eq_true hempty), Option.map_some, hresolve]

/-! ## What the checks admit -/

section Checks

variable {F : Type} [Number F] {S : Solders}

/-- **What the mesh handler admits**: known assets, up to their truncated limits.

**Proof sketch.** With and without a mint: what the check asks for is that the asset is known, and
the amount within its limit if it has one. -/
lemma checkAmount_eq_none_iff {config : GatewayConfig F} {req : TxRequest} :
    checkAmount S config req = .ok none ↔ ∃ asset, knownAsset (meshMint S req) = some asset ∧
      ∀ limit, asset.maxTransfer config = some limit →
        ∃ m, maxBaseUnits limit asset.baseUnits = .ok m ∧ (req.checkedAmount : ℤ) ≤ m := by
  unfold meshMint TxRequest.checkedAmount
  by_cases hlen : req.mint.length = 32
  · let mint : Pubkey := ⟨req.mint, hlen⟩
    have hmint : req.mint = mint.val := rfl
    rw [dif_pos hlen, if_pos hlen, checkAmount_eq_none_iff_of_mint hmint]
    constructor
    · rintro ⟨symbol, decimals, htoken, hmax⟩
      refine ⟨.token (S.pubkeyStr mint) decimals, ?_, hmax⟩
      rw [knownAsset, htoken]
      rfl
    · rintro ⟨asset, hasset, hmax⟩
      obtain ⟨⟨symbol, decimals⟩, htoken, rfl⟩ := Option.map_eq_some_iff.mp hasset
      exact ⟨symbol, decimals, htoken, hmax⟩
  · rw [dif_neg hlen, if_neg hlen, checkAmount_eq_none_iff_of_noMint hlen]
    simp only [knownAsset, Option.some.injEq, exists_eq_left', Asset.maxTransfer, Asset.baseUnits,
      forall_eq']

/-- The mesh handler refuses a mint as unsupported exactly if it does not know it.

**Proof sketch.** A mint that is not known is refused as such. Comparing an amount with a limit has
other refusals only (`hnot`), for known tokens as for SOL. -/
lemma checkAmount_eq_unsupportedToken_iff {config : GatewayConfig F} {req : TxRequest}
    {mintStr : String} :
    checkAmount S config req = .ok (some (.unsupportedToken mintStr)) ↔
      meshMint S req = some mintStr ∧ knownAsset (some mintStr) = none := by
  have hnot : ∀ (limit : F) (factor : ℤ) (n : ℕ) (text : Text),
      (do if (n : ℤ) > (← maxBaseUnits limit factor) then
            return some (Refusal.amountExceeded text)
          else return none : Except Exn (Option Refusal)) ≠
        .ok (some (.unsupportedToken mintStr)) := by
    intro limit factor n text h
    obtain ⟨m, -, h⟩ := bind_eq_ok.mp h
    split_ifs at h <;> cases h
  unfold checkAmount meshMint
  by_cases hlen : req.mint.length = 32
  · rw [if_pos hlen, dif_pos hlen, Pubkey.fromBytes_of_length hlen, ok_bind]
    dsimp only [knownAsset]
    cases htoken : knownTokens.get? (S.pubkeyStr ⟨req.mint, hlen⟩) with
    | none =>
      simp only [pure, Except.pure, Except.ok.injEq, Option.some.injEq,
        Refusal.unsupportedToken.injEq]
      refine ⟨?_, fun h => h.1⟩
      rintro rfl
      exact ⟨rfl, by rw [htoken]; rfl⟩
    | some token =>
      obtain ⟨symbol, decimals⟩ := token
      refine iff_of_false ?_ (not_unknown htoken)
      dsimp only
      cases config.getMaxTransferToken (S.pubkeyStr ⟨req.mint, hlen⟩) with
      | none => exact fun h => by cases h
      | some maxAmount => exact hnot _ _ _ _
  · rw [if_neg hlen, dif_neg hlen]
    exact iff_of_false (hnot _ _ _ _) (by simp)

variable [LT F] [DecidableLT F]

/-- **What the HTTP endpoint admits**: known assets, up to their limits; what it goes on with is
the truncated number of base units.

**Proof sketch.** Without a token the limit is that of SOL. With one, it must be known, and the
endpoint keeps its limit only where the amount exceeds it; so there is none left exactly if the
amount is within all limits. In both cases the base units are computed last. -/
lemma enforceLimits_eq_ok_iff {config : GatewayConfig F} {req : TransferRequest F} {asset : Asset}
    {baseUnits : ℤ} :
    enforceLimits config req = .ok (.ok (asset, baseUnits)) ↔
      knownAsset (httpMint req.token) = some asset ∧
        (∀ limit, asset.maxTransfer config = some limit → ¬ req.amount > limit) ∧
        Number.toInt (Number.mulInt req.amount asset.baseUnits) = .ok baseUnits := by
  unfold enforceLimits httpMint
  cases req.token.filter fun token => decide (token ≠ "") with
  | none =>
    dsimp only [Option.map_none, knownAsset]
    rw [Option.some.injEq]
    split_ifs with hgt
    · refine iff_of_false (fun h => by cases h) ?_
      rintro ⟨rfl, hlimit, -⟩
      exact hlimit _ rfl hgt
    · rw [bind_eq_ok]
      constructor
      · rintro ⟨lamports, hlamports, h⟩
        cases h
        exact ⟨rfl, fun limit hlimit => by rwa [← Option.some.inj hlimit], hlamports⟩
      · rintro ⟨rfl, -, h⟩
        exact ⟨baseUnits, h, rfl⟩
  | some token =>
    dsimp only [Option.map_some, knownAsset]
    cases knownTokens.get? (resolveTokenMint token) with
    | none => exact iff_of_false (fun h => by cases h) (by simp)
    | some info =>
      obtain ⟨symbol, decimals⟩ := info
      dsimp only [Option.map_some]
      rw [Option.some.injEq]
      -- a limit counts only where the amount exceeds it
      cases hlimit : (config.getMaxTransferToken (resolveTokenMint token)).filter fun maxAmount =>
          decide (req.amount > maxAmount) with
      | some maxAmount =>
        obtain ⟨hmax, hgt⟩ := Option.filter_eq_some_iff.mp hlimit
        refine iff_of_false (fun h => by cases h) ?_
        rintro ⟨rfl, hle, -⟩
        exact hle maxAmount hmax (of_decide_eq_true hgt)
      | none =>
        have hle := Option.filter_eq_none_iff.mp hlimit
        dsimp only
        rw [bind_eq_ok]
        constructor
        · rintro ⟨units, hunits, h⟩
          cases h
          exact ⟨rfl, fun limit hsome hgt => hle limit hsome (decide_eq_true hgt), hunits⟩
        · rintro ⟨rfl, -, h⟩
          exact ⟨baseUnits, h, rfl⟩

/-- The HTTP endpoint refuses a mint as unsupported exactly if it does not know it.

**Proof sketch.** A mint that is not known is refused with this detail, in which its address is
written out (`ofString_injective`). The other refusals begin with another letter (`hdetail`). -/
lemma enforceLimits_eq_unsupportedToken_iff {config : GatewayConfig F} {req : TransferRequest F}
    {mintStr : String} :
    enforceLimits config req =
        .ok (.error ⟨400, ofString "Unsupported token: " ++ ofString mintStr⟩) ↔
      httpMint req.token = some mintStr ∧ knownAsset (some mintStr) = none := by
  unfold enforceLimits httpMint
  -- the details of the two refusals differ in their first letter
  have hdetail : ∀ rest : Text, ofString "Amount " ++ rest ≠
      ofString "Unsupported token: " ++ ofString mintStr := by
    intro rest heq
    cases congrArg List.head? heq
  cases req.token.filter fun token => decide (token ≠ "") with
  | none =>
    refine iff_of_false ?_ (by simp)
    dsimp only
    split_ifs
    · intro h
      simp only [pure, Except.pure, Except.ok.injEq, Except.error.injEq, HttpException.mk.injEq,
        List.append_assoc] at h
      exact hdetail _ h.2
    · intro h
      obtain ⟨lamports, -, h⟩ := bind_eq_ok.mp h
      cases h
  | some token =>
    dsimp only [Option.map_some, knownAsset]
    cases hknown : knownTokens.get? (resolveTokenMint token) with
    | none =>
      simp only [pure, Except.pure, Except.ok.injEq, Except.error.injEq, HttpException.mk.injEq,
        true_and, List.append_cancel_left_eq, ofString_injective.eq_iff, Option.some.injEq]
      refine ⟨?_, fun h => h.1⟩
      rintro rfl
      exact ⟨rfl, by rw [hknown]; rfl⟩
    | some info =>
      obtain ⟨symbol, decimals⟩ := info
      refine iff_of_false ?_ (not_unknown hknown)
      dsimp only
      cases (config.getMaxTransferToken (resolveTokenMint token)).filter fun maxAmount =>
          decide (req.amount > maxAmount) with
      | some maxAmount =>
        intro h
        simp only [pure, Except.pure, Except.ok.injEq, Except.error.injEq, HttpException.mk.injEq,
          List.append_assoc] at h
        exact hdetail _ h.2
      | none =>
        intro h
        obtain ⟨units, -, h⟩ := bind_eq_ok.mp h
        cases h

end Checks

/-! ## The same cap -/

/-- No limit of the configuration is negative. -/
structure GatewayConfig.NonNegative (config : GatewayConfig ℚ) : Prop where
  sol : 0 ≤ config.maxTransferSol
  usdc : 0 ≤ config.maxTransferUsdc
  token : ∀ mintStr limit, config.tokenLimits.get? mintStr = some limit → 0 ≤ limit

/-- The limit that applies to an asset is not negative. -/
lemma GatewayConfig.NonNegative.maxTransfer {config : GatewayConfig ℚ} (h : config.NonNegative)
    {asset : Asset} {limit : ℚ} (hlimit : asset.maxTransfer config = some limit) : 0 ≤ limit := by
  cases asset with
  | sol =>
    cases hlimit
    exact h.sol
  | token mintStr decimals =>
    change config.getMaxTransferToken mintStr = some limit at hlimit
    unfold getMaxTransferToken at hlimit
    split_ifs at hlimit
    · exact h.token mintStr limit hlimit
    · cases hlimit
      exact h.usdc

/-- In exact arithmetic, a limit in base units is the truncated product. -/
lemma maxBaseUnits_rat (limit : ℚ) (factor : ℤ) :
    maxBaseUnits limit factor = .ok (truncate (limit * factor)) := rfl

/-- **HTTP and the mesh enforce the same transfer cap**, in exact arithmetic. What the HTTP
endpoint admits passes the check of the mesh handler, in the base units it is truncated to; the
mesh handler admits a number of base units exactly if the endpoint admits that amount; and both
refuse the same mints as unsupported. Every mint can be named over HTTP.

**Proof sketch.** What either check admits is known. Truncation is monotone, which settles the
first part, and between a limit that is not negative and its truncation there is no integer, which
settles the second. -/
theorem transferCaps_agree {S : Solders}
    (haddress : ∀ key : Pubkey, 32 ≤ (S.pubkeyStr key).length) {config : GatewayConfig ℚ}
    (hconfig : config.NonNegative) :
    (∀ (http : TransferRequest ℚ) (req : TxRequest), httpMint http.token = meshMint S req →
      (∀ asset baseUnits, enforceLimits config http = .ok (.ok (asset, baseUnits)) →
        (∀ limit, asset.maxTransfer config = some limit →
          ∃ m, maxBaseUnits limit asset.baseUnits = .ok m ∧ baseUnits ≤ m) ∧
        ((req.checkedAmount : ℤ) = baseUnits → checkAmount S config req = .ok none)) ∧
      (∀ asset, knownAsset (meshMint S req) = some asset →
        http.amount = req.checkedAmount / asset.baseUnits →
          (checkAmount S config req = .ok none ↔
            ∃ admitted, enforceLimits config http = .ok (.ok admitted))) ∧
      ∀ mintStr, checkAmount S config req = .ok (some (.unsupportedToken mintStr)) ↔
        enforceLimits config http =
          .ok (.error ⟨400, ofString "Unsupported token: " ++ ofString mintStr⟩)) ∧
    ∀ key : Pubkey, httpMint (some (S.pubkeyStr key)) = some (S.pubkeyStr key) := by
  refine ⟨fun http req hmint => ⟨?_, ?_, ?_⟩, fun key => httpMint_address (haddress key)⟩
  · intro asset baseUnits hadmit
    obtain ⟨hasset, hle, hunits⟩ := enforceLimits_eq_ok_iff.mp hadmit
    have hwithin : ∀ limit, asset.maxTransfer config = some limit →
        ∃ m, maxBaseUnits limit asset.baseUnits = .ok m ∧ baseUnits ≤ m := by
      intro limit hlimit
      refine ⟨_, maxBaseUnits_rat limit asset.baseUnits, ?_⟩
      rw [← Except.ok.inj hunits]
      have hpos : (0 : ℚ) ≤ asset.baseUnits := by exact_mod_cast asset.baseUnits_pos.le
      exact truncate_mono (mul_le_mul_of_nonneg_right (not_lt.mp (hle limit hlimit)) hpos)
    refine ⟨hwithin, fun heq => checkAmount_eq_none_iff.mpr ⟨asset, by rwa [← hmint], ?_⟩⟩
    rwa [heq]
  · intro asset hasset hamount
    have hpos : (0 : ℚ) < asset.baseUnits := by exact_mod_cast asset.baseUnits_pos
    -- the two comparisons of one limit agree
    have hiff : ∀ limit, asset.maxTransfer config = some limit →
        ((req.checkedAmount : ℤ) ≤ truncate (limit * asset.baseUnits) ↔
          http.amount ≤ limit) := by
      intro limit hlimit
      rw [le_truncate_iff (mul_nonneg (hconfig.maxTransfer hlimit) hpos.le), hamount,
        div_le_iff₀ hpos]
      norm_cast
    constructor
    · intro hcheck
      obtain ⟨asset', hasset', hle⟩ := checkAmount_eq_none_iff.mp hcheck
      obtain rfl := Option.some.inj (hasset.symm.trans hasset')
      refine ⟨(asset, _), enforceLimits_eq_ok_iff.mpr ⟨by rwa [hmint], ?_, rfl⟩⟩
      intro limit hlimit
      obtain ⟨m, hm, hnm⟩ := hle limit hlimit
      obtain rfl := Except.ok.inj hm
      exact not_lt.mpr ((hiff limit hlimit).mp hnm)
    · rintro ⟨⟨asset', baseUnits⟩, hadmit⟩
      obtain ⟨hasset', hle, -⟩ := enforceLimits_eq_ok_iff.mp hadmit
      rw [hmint] at hasset'
      obtain rfl := Option.some.inj (hasset.symm.trans hasset')
      refine checkAmount_eq_none_iff.mpr ⟨asset, hasset, fun limit hlimit => ?_⟩
      exact ⟨_, maxBaseUnits_rat _ _, (hiff limit hlimit).mpr (not_lt.mp (hle limit hlimit))⟩
  · intro mintStr
    rw [checkAmount_eq_unsupportedToken_iff, enforceLimits_eq_unsupportedToken_iff, hmint]

/-- A configuration that limits transfers to 0.1 SOL and 10 USDC. -/
def cappedConfig : GatewayConfig ℚ := ⟨[], 1 / 10, 10, ∅⟩

/-- A mesh request for 10 USDC. -/
def tenUsdc : TxRequest :=
  ⟨[], sampleKey.val, sampleKey.val, 10000000, 10000000, 1, usdcKey.val, []⟩

/-- At the cap, both paths admit the transfer. -/
theorem transferCaps_agree_ten_usdc :
    checkAmount sampleSolders cappedConfig tenUsdc = .ok none ∧
      ∃ admitted, enforceLimits cappedConfig ⟨"", 10, some usdcMintMainnet⟩ =
        .ok (.ok admitted) := by
  have hnonneg : cappedConfig.NonNegative :=
    ⟨by norm_num [cappedConfig], by norm_num [cappedConfig], fun _ _ h => by cases h⟩
  have haddress : ∀ key : Pubkey, 32 ≤ (sampleSolders.pubkeyStr key).length := le_length_base58
  have hagree := (transferCaps_agree haddress hnonneg).1
    ⟨"", 10, some usdcMintMainnet⟩ tenUsdc (by decide +kernel)
  have hiff := hagree.2.1 (.token usdcMintMainnet 6) (by decide +kernel)
    (by norm_num [Asset.baseUnits, TxRequest.checkedAmount, tenUsdc, usdcKey])
  have hcheck : checkAmount sampleSolders cappedConfig tenUsdc = .ok none := by
    refine checkAmount_eq_none_iff.mpr ⟨.token usdcMintMainnet 6, by decide +kernel, ?_⟩
    intro limit hlimit
    obtain rfl : 10 = limit := Option.some.inj hlimit
    refine ⟨_, maxBaseUnits_rat 10 _, ?_⟩
    have hle : (tenUsdc.checkedAmount : ℚ) ≤ 10 * (Asset.token usdcMintMainnet 6).baseUnits := by
      norm_num [Asset.baseUnits, TxRequest.checkedAmount, tenUsdc, usdcKey]
    exact (le_truncate_iff (by norm_num [Asset.baseUnits])).mpr (by exact_mod_cast hle)
  exact ⟨hcheck, hiff.mp hcheck⟩

end SolMesh

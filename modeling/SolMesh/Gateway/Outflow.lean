import Mathlib.Algebra.BigOperators.Ring.Finset
import SolMesh.Gateway.Attribution
import SolMesh.Gateway.TokenBucket
import SolMesh.Gateway.TransferCaps

set_option relaxedAutoImplicit false
set_option autoImplicit false

/-!
# How much a gateway spends

Everything that a gateway broadcasts costs the one that caused it a token of its bucket. As tokens
come at a certain rate, and a transfer of an asset is limited, this bounds what leaves the hot
wallet in a window of time, whatever is sent to the gateway by the mesh and over HTTP. All callers
over HTTP know the same key, so they share one bucket.

## Main definitions

* `SolMesh.GatewayInput.within` — an input that draws on some of the buckets within a window.
* `SolMesh.GatewayInput.spends` — the amount of an asset that an input asks for.
* `SolMesh.Gateway.outflow` — the amount of an asset that a run spends.

## Main results

* `SolMesh.count_charged_le`, `SolMesh.sum_within_le` — what costs a token is bounded by the tokens.
* `SolMesh.broadcasts_within_le` — the broadcasts of a run within a window.
* `SolMesh.outflow_le` — the amount that a run spends within a window.
-/

namespace SolMesh

open Py Text

/-! ## Buckets and windows -/

/-- The call draws on one of the buckets, within the window of time. -/
def AllowCall.within (names : List String) (s t : ℚ) (c : AllowCall) : Bool :=
  decide (c.senderId ∈ names) && decide (s ≤ c.now) && decide (c.now ≤ t)

namespace RateLimiter

variable {burst : ℤ} {maxPerMinute : ℚ}

/-- **A bucket and a window**: a new limiter lets no more calls through than the bucket holds and
time adds. -/
lemma granted_le (hburst : 0 ≤ burst) (hrate : 0 ≤ maxPerMinute) {calls : List LimiterCall}
    (hord : InOrder calls) (hcleanup : ∀ maxAge now, .cleanupStale maxAge now ∉ calls)
    {s t : ℚ} (hst : s ≤ t) (senderId : String) :
    (((new maxPerMinute burst).decisions calls).countP (fun d =>
      d.2 && decide (d.1.senderId = senderId) && decide (s ≤ d.1.now) && decide (d.1.now ≤ t)) : ℚ)
        ≤ burst + maxPerMinute / 60 * (t - s) := by
  have hrate' : 0 ≤ maxPerMinute / 60 := div_nonneg hrate (by norm_num)
  obtain ⟨now, hfrom⟩ := hord.exists_le_begins
  rw [← grantedWithin_answersFor, mul_comm, answersFor_eq hburst hrate'
    (fun maxAge now hmem => absurd hmem (hcleanup maxAge now)) hord hfrom (sound_new _ _ _) rfl]
  exact grantedWithin_soleBucket_le hburst hrate' hst hord senderId

/-- **Some buckets and a window**: each of them lets no more calls through.

**Proof sketch.** Induction on the buckets: a call that draws on one of them draws on the first one,
for which the bound is that of a bucket (`granted_le`), or on one of the others. -/
lemma granted_within_le (hburst : 0 ≤ burst) (hrate : 0 ≤ maxPerMinute)
    {calls : List LimiterCall} (hord : InOrder calls)
    (hcleanup : ∀ maxAge now, .cleanupStale maxAge now ∉ calls) {s t : ℚ} (hst : s ≤ t)
    (names : List String) :
    (((new maxPerMinute burst).decisions calls).countP (fun d => d.2 && d.1.within names s t) : ℚ)
      ≤ names.length * (burst + maxPerMinute / 60 * (t - s)) := by
  induction names with
  | nil => simp [AllowCall.within]
  | cons name names ih =>
    have hone := granted_le hburst hrate hord hcleanup hst name
    have hsplit : ∀ d : AllowCall × Bool, (d.2 && d.1.within (name :: names) s t) = true →
        (d.2 && decide (d.1.senderId = name) && decide (s ≤ d.1.now) && decide (d.1.now ≤ t)) =
          true ∨ (d.2 && d.1.within names s t) = true := by
      intro d hd
      simp only [AllowCall.within, List.mem_cons, Bool.and_eq_true, decide_eq_true_eq] at hd ⊢
      obtain ⟨hgranted, ⟨hname | hname, hfrom⟩, hto⟩ := hd
      · exact Or.inl ⟨⟨⟨hgranted, hname⟩, hfrom⟩, hto⟩
      · exact Or.inr ⟨hgranted, ⟨hname, hfrom⟩, hto⟩
    have hboth := Conc.countP_le_add hsplit ((new maxPerMinute burst).decisions calls)
    have hcast : (((new maxPerMinute burst).decisions calls).countP (fun d =>
        d.2 && d.1.within (name :: names) s t) : ℚ) ≤ _ := Nat.cast_le.mpr hboth
    rw [Nat.cast_add] at hcast
    rw [List.length_cons, Nat.cast_add, Nat.cast_one, add_mul, one_mul]
    linarith

end RateLimiter

/-! ## What inputs are charged for -/

variable {S : Solders}

namespace GatewayInput

variable {F : Type}

/-- The input draws on one of the buckets, within the window of time. -/
def within (config : ServiceConfig F) (names : List String) (s t : ℚ) (input : GatewayInput F S) :
    Bool := (input.limiterCall config).any (AllowCall.within names s t)

/-- The amount of an asset that an input asks the hot wallet for, in base units. -/
def spends (config : ServiceConfig ℚ) (asset : Asset) (input : GatewayInput ℚ S) : ℕ :=
  match input with
  | .packet _ p =>
    match p.message with
    | none => 0
    | some (header, payload) =>
      if header.msgType = MsgType.txRequest then
        match decodeTxRequest payload with
        | .error _ => 0
        | .ok req => if knownAsset (meshMint S req) = some asset then req.checkedAmount else 0
      else 0
  | .http _ _ (.transfer req) =>
    match enforceLimits config.limits req with
    | .ok (.ok (asset', baseUnits)) => if asset' = asset then baseUnits.toNat else 0
    | _ => 0
  | _ => 0

end GatewayInput

namespace Gateway

section Charged

variable {F : Type} [Number F] [LT F] [DecidableLT F] {H : Hashes S} {gw : Gateway F S}
  {input : GatewayInput F S}

/-- The input is charged to one of the buckets, within the window of time. -/
def charged (names : List String) (s t : ℚ) (gw : Gateway F S) (input : GatewayInput F S) : Bool :=
  gw.grants input && input.within gw.config names s t

/-- **The inputs that are charged** are the decisions of the rate limiter to let a call through. -/
lemma count_charged (names : List String) (s t : ℚ) (gw : Gateway F S)
    (inputs : List (GatewayInput F S)) :
    (Conc.along (next H) (charged names s t) gw inputs).count true =
      (gw.node.rateLimiter.decisions (limiterCalls gw.config inputs)).countP
        fun d => d.2 && d.1.within names s t := by
  induction inputs generalizing gw with
  | nil => rfl
  | cons input inputs ih =>
    have hrest := ih (gw.next H input)
    have hlimiter := (step_next H gw input).rateLimiter
    rw [(step_next H gw input).sameSetup.config, hlimiter] at hrest
    rw [Conc.along, List.count_cons, hrest, limiterCalls, limiterCalls, List.filterMap_cons]
    unfold charged grants GatewayInput.within
    cases input.limiterCall gw.config with
    | none => rfl
    | some c =>
      dsimp only
      rw [List.map_cons, RateLimiter.decisions, List.countP_cons]
      simp only [Option.any_some, beq_iff_eq]

/-- A broadcast that is observed is one of the effects. -/
lemma exists_of_broadcasts_pos {events : List GatewayEvent} (h : 0 < SolMesh.broadcasts events) :
    ∃ txBytes, .sendRawTransaction txBytes ∈ events := by
  obtain ⟨event, hmem, hbroadcast⟩ := List.countP_pos_iff.mp h
  cases event with
  | sendRawTransaction txBytes => exact ⟨txBytes, hmem⟩
  | meshSend | getLatestBlockhash | getAccountInfo => cases hbroadcast

/-- **Only inputs that are charged broadcast**, and they do it once. -/
lemma broadcasts_reaction_le (H : Hashes S) (gw : Gateway F S) (input : GatewayInput F S) :
    SolMesh.broadcasts (gw.reaction H input) ≤ if gw.grants input then 1 else 0 := by
  have hjustified := justified_reaction H gw input
  split_ifs with hgrants
  · exact hjustified.broadcasts
  · by_contra hpos
    obtain ⟨txBytes, hmem⟩ := exists_of_broadcasts_pos (Nat.lt_of_not_le hpos)
    exact hgrants (hjustified.caused _ hmem).1

/-- The broadcasts that a run owes to some of the buckets, within a window of time. -/
def broadcastsWithin (H : Hashes S) (names : List String) (s t : ℚ) (gw : Gateway F S)
    (inputs : List (GatewayInput F S)) : ℕ :=
  (Conc.along (next H) (fun gw input => if input.within gw.config names s t then
    SolMesh.broadcasts (gw.reaction H input) else 0) gw inputs).sum

end Charged

/-- The amount of an asset that a run spends on account of some of the buckets, within a window of
time: what the inputs ask for at which something is broadcast. -/
def outflow (H : Hashes S) (asset : Asset) (names : List String) (s t : ℚ) (gw : Gateway ℚ S)
    (inputs : List (GatewayInput ℚ S)) : ℕ :=
  (Conc.along (next H) (fun gw input => if input.within gw.config names s t ∧
    0 < SolMesh.broadcasts (gw.reaction H input) then input.spends gw.config asset else 0)
      gw inputs).sum

end Gateway

/-! ## The bounds -/

section Bounds

open Gateway

variable {H : Hashes S} {wallets : WalletManager S} {passphrase : Text} {now : ℚ}

/-- **The inputs that are charged** to some of the buckets within a window of time, in a run of a
gateway from its start. -/
lemma count_charged_le {F : Type} [Number F] [LT F] [DecidableLT F] {config : ServiceConfig F}
    {gw : Gateway F S} (hstart : Gateway.start wallets config passphrase now = .ok gw)
    (hburst : 0 ≤ config.rateLimitBurst) (hrate : 0 ≤ config.maxRequestsPerMinute)
    {inputs : List (GatewayInput F S)} (hord : InOrder (limiterCalls config inputs)) {s t : ℚ}
    (hst : s ≤ t) (names : List String) :
    ((Conc.along (next H) (charged names s t) gw inputs).count true : ℚ) ≤ names.length *
      (config.rateLimitBurst + config.maxRequestsPerMinute / 60 * (t - s)) := by
  obtain ⟨hotKeypair, rfl, _⟩ := exists_of_start hstart
  rw [count_charged]
  refine RateLimiter.granted_within_le hburst hrate hord (fun maxAge now hmem => ?_) hst names
  obtain ⟨c, _, heq⟩ := List.mem_map.mp hmem
  cases heq

/-- **What costs a token is bounded by the tokens**: a run of a gateway from its start, and a cost
that only arises where something is broadcast, and is then no more than a price. -/
lemma sum_within_le {F : Type} [Number F] [LT F] [DecidableLT F] {config : ServiceConfig F}
    {gw : Gateway F S} (hstart : Gateway.start wallets config passphrase now = .ok gw)
    (hburst : 0 ≤ config.rateLimitBurst) (hrate : 0 ≤ config.maxRequestsPerMinute)
    {inputs : List (GatewayInput F S)} (hord : InOrder (limiterCalls config inputs)) {s t : ℚ}
    (hst : s ≤ t) (names : List String) {cost : Gateway F S → GatewayInput F S → ℚ} {price : ℚ}
    (hprice : 0 ≤ price) (hcost : ∀ gw' input, SameSetup gw gw' →
      cost gw' input ≤ if charged names s t gw' input then price else 0) :
    (Conc.along (next H) cost gw inputs).sum ≤ price * (names.length *
      (config.rateLimitBurst + config.maxRequestsPerMinute / 60 * (t - s))) := by
  have hsum : (Conc.along (next H) cost gw inputs).sum ≤
      price * ((Conc.along (next H) (charged names s t) gw inputs).count true : ℕ) :=
    Conc.sum_along_le (fun gw' input (h : SameSetup gw gw') => h.next H input) hcost (.refl gw)
  exact hsum.trans (mul_le_mul_of_nonneg_left
    (count_charged_le hstart hburst hrate hord hst names) hprice)

/-- **The broadcasts of a run are bounded.** In every run of a gateway from its start on, with
inputs of any kind, any senders, any contents and clock readings that do not decrease: the
transactions broadcast in a window of time at inputs that draw on some of the buckets (one for each
mesh node, and one for all callers over HTTP) are no more, for each bucket, than the burst and what
the time of the window adds.

**Proof sketch.** An input broadcasts at most once, and only if it is granted a token
(`broadcasts_reaction_le`). The tokens granted in the window are bounded for each bucket, and
`sum_within_le` adds them up. -/
theorem broadcasts_within_le {F : Type} [Number F] [LT F] [DecidableLT F]
    {config : ServiceConfig F} {gw : Gateway F S}
    (hstart : Gateway.start wallets config passphrase now = .ok gw)
    (hburst : 0 ≤ config.rateLimitBurst) (hrate : 0 ≤ config.maxRequestsPerMinute)
    {inputs : List (GatewayInput F S)} (hord : InOrder (limiterCalls config inputs)) {s t : ℚ}
    (hst : s ≤ t) (names : List String) :
    (gw.broadcastsWithin H names s t inputs : ℚ) ≤ names.length *
      (config.rateLimitBurst + config.maxRequestsPerMinute / 60 * (t - s)) := by
  unfold broadcastsWithin
  rw [Nat.cast_list_sum, Conc.map_along]
  refine (sum_within_le hstart hburst hrate hord hst names zero_le_one ?_).trans_eq (one_mul _)
  intro gw' input _
  have hle := broadcasts_reaction_le H gw' input
  unfold charged
  cases hwithin : input.within gw'.config names s t with
  | false => simp
  | true =>
    rw [if_pos rfl, Bool.and_true]
    split_ifs at hle ⊢
    · exact_mod_cast hle
    · exact_mod_cast hle

/-- A gateway that limits transfers to 0.1 SOL and 10 USDC, and serves HTTP. -/
def cappedServiceConfig : ServiceConfig ℚ :=
  ⟨some "hot", cappedConfig, 10, 3, 60, some 8080, some "secret"⟩

/-- This gateway when it was just started. -/
def cappedService : Gateway ℚ sampleSolders :=
  ⟨cappedServiceConfig, ⟨cappedConfig, some hotKey, RateLimiter.new 10 3, ∅, []⟩, ∅, 0, []⟩

/-- It can be started. -/
lemma start_cappedService :
    Gateway.start sampleWallets cappedServiceConfig [] 0 = .ok cappedService := rfl

/-- Two transfers over HTTP of 0.1 SOL each. -/
def twoTransfers : List (GatewayInput ℚ sampleSolders) :=
  List.replicate 2 (.http sampleSurroundings "secret" (.transfer ⟨sampleAddress, 1 / 10, none⟩))

/-- They come one after the other. -/
lemma inOrder_twoTransfers : InOrder (limiterCalls cappedServiceConfig twoTransfers) := by
  have hcalls : twoTransfers.filterMap (GatewayInput.limiterCall cappedServiceConfig) =
      [⟨"http:secret", 0, 0⟩, ⟨"http:secret", 0, 0⟩] := by decide +kernel
  rw [limiterCalls, hcalls]
  constructor <;> simp [LimiterCall.begins, LimiterCall.ends]

/-- Both are broadcast; at most four would be, in these six seconds. -/
theorem broadcasts_within_le_two_transfers :
    (cappedService.broadcastsWithin sampleHashes ["http:secret"] 0 6 twoTransfers : ℚ) ≤
      (1 : ℕ) * ((3 : ℤ) + 10 / 60 * (6 - 0)) :=
  broadcasts_within_le (H := sampleHashes) start_cappedService (by decide) (by decide)
    inOrder_twoTransfers (by norm_num) ["http:secret"]

/-- What passes the check of the limits does not exceed the limit. -/
lemma le_of_truncate_le {limit : ℚ} (hlimit : 0 ≤ limit) {asset : Asset} {n : ℤ}
    (h : n ≤ truncate (limit * asset.baseUnits)) : (n : ℚ) ≤ limit * asset.baseUnits := by
  have hpos : (0 : ℚ) ≤ asset.baseUnits := by exact_mod_cast asset.baseUnits_pos.le
  exact (le_truncate_iff (mul_nonneg hlimit hpos)).mp h

/-- **An input that makes the gateway broadcast spends no more than the limit.**

**Proof sketch.** Cases on why the gateway broadcasts. A completed transaction is not one that the
gateway pays. An authorised request passed `check_amount`, and a transfer passed `enforce_limits`;
both compare what is spent with the limit of the asset, the first one after truncation
(`le_of_truncate_le`). -/
lemma spends_le {gw : Gateway ℚ S} {input : GatewayInput ℚ S} {txBytes : Bytes}
    (h : gw.Causes input txBytes) (hsetup : gw.node.config = gw.config.limits) {asset : Asset}
    {limit : ℚ} (hlimit : asset.maxTransfer gw.config.limits = some limit) (hnonneg : 0 ≤ limit) :
    (input.spends gw.config asset : ℚ) ≤ limit * asset.baseUnits := by
  have hpos : (0 : ℚ) ≤ asset.baseUnits := by exact_mod_cast asset.baseUnits_pos.le
  have hcap := mul_nonneg hnonneg hpos
  have hzero : ((0 : ℕ) : ℚ) ≤ limit * asset.baseUnits := by exact_mod_cast hcap
  cases h with
  | @completes env packet header payload txBytes hmessage htype =>
    unfold GatewayInput.spends
    dsimp only
    rw [hmessage]
    dsimp only
    rw [if_neg (by rw [htype]; decide)]
    exact hzero
  | @requests env packet header payload txBytes keypair req recentBlockhash hmessage htype hadm =>
    unfold GatewayInput.spends
    dsimp only
    rw [hmessage]
    dsimp only
    rw [if_pos htype, hadm.decoded]
    dsimp only
    split_ifs with hasset
    · obtain ⟨asset', hasset', hle⟩ := checkAmount_eq_none_iff.mp hadm.amount
      obtain rfl := Option.some.inj (hasset.symm.trans hasset')
      rw [hsetup] at hle
      obtain ⟨m, hm, hle⟩ := hle limit hlimit
      obtain rfl := Except.ok.inj hm
      exact_mod_cast le_of_truncate_le hnonneg hle
    · exact hzero
  | @submits env xApiKey req txBytes haccepts htransfer =>
    obtain ⟨keypair, dest, asset', baseUnits, recentBlockhash, _, _, hgrant, _⟩ := htransfer
    rw [hsetup] at hgrant
    unfold GatewayInput.spends
    dsimp only
    rw [hgrant]
    dsimp only
    split_ifs with hasset
    · subst hasset
      obtain ⟨_, hle, hunits⟩ := enforceLimits_eq_ok_iff.mp hgrant
      have hamount := mul_le_mul_of_nonneg_right (not_lt.mp (hle limit hlimit)) hpos
      have hbase : (baseUnits : ℚ) ≤ limit * asset'.baseUnits := by
        apply le_of_truncate_le hnonneg
        rw [← Except.ok.inj hunits]
        exact truncate_mono hamount
      rw [← Int.cast_natCast, Int.toNat_eq_max, Int.cast_max]
      exact max_le hbase (by exact_mod_cast hcap)
    · exact hzero

/-- **What leaves the hot wallet is bounded.** In every run of a gateway from its start on, with
inputs of any kind, any senders, any contents and clock readings that do not decrease: the amount
of an asset with a limit that is spent in a window of time at inputs that draw on some of the
buckets is, for each bucket, no more than the limit times the burst and what the time of the window
adds.

**Proof sketch.** An input that counts for the amount made the gateway broadcast, so it was granted
a token of one of the buckets (`justified_reaction`), and spends no more than the limit
(`spends_le`). The number of tokens granted in the window is bounded for each bucket, and
`sum_within_le` adds them up. -/
theorem outflow_le {config : ServiceConfig ℚ} {gw : Gateway ℚ S}
    (hstart : Gateway.start wallets config passphrase now = .ok gw)
    (hburst : 0 ≤ config.rateLimitBurst) (hrate : 0 ≤ config.maxRequestsPerMinute)
    {asset : Asset} {limit : ℚ} (hlimit : asset.maxTransfer config.limits = some limit)
    (hnonneg : 0 ≤ limit) {inputs : List (GatewayInput ℚ S)}
    (hord : InOrder (limiterCalls config inputs)) {s t : ℚ} (hst : s ≤ t) (names : List String) :
    (gw.outflow H asset names s t inputs : ℚ) ≤ limit * asset.baseUnits * (names.length *
      (config.rateLimitBurst + config.maxRequestsPerMinute / 60 * (t - s))) := by
  have hpos : (0 : ℚ) ≤ asset.baseUnits := by exact_mod_cast asset.baseUnits_pos.le
  have hcap := mul_nonneg hnonneg hpos
  unfold outflow
  rw [Nat.cast_list_sum, Conc.map_along]
  refine sum_within_le hstart hburst hrate hord hst names hcap ?_
  intro gw' input hsetup
  obtain ⟨hotKeypair, rfl, _⟩ := exists_of_start hstart
  unfold charged
  split_ifs with hspent hcharged hcharged
  · obtain ⟨txBytes, hmem⟩ := exists_of_broadcasts_pos hspent.2
    have hcauses := ((justified_reaction H gw' input).caused _ hmem).2
    refine spends_le hcauses ?_ ?_ hnonneg
    · rw [hsetup.limits, hsetup.config]
    · rw [hsetup.config]
      exact hlimit
  · obtain ⟨txBytes, hmem⟩ := exists_of_broadcasts_pos hspent.2
    have hgrants := ((justified_reaction H gw' input).caused _ hmem).1
    rw [hgrants, hspent.1] at hcharged
    exact absurd rfl hcharged
  · exact_mod_cast hcap
  · exact le_of_eq Nat.cast_zero

/-- Both transfers together spend 0.2 SOL. -/
example : cappedService.outflow sampleHashes .sol ["http:secret"] 0 6 twoTransfers = 200000000 := by
  decide +kernel

/-- At most 0.4 SOL are spent in these six seconds. -/
theorem outflow_le_two_transfers :
    (cappedService.outflow sampleHashes .sol ["http:secret"] 0 6 twoTransfers : ℚ) ≤
      1 / 10 * (Asset.sol.baseUnits : ℤ) * ((1 : ℕ) * ((3 : ℤ) + 10 / 60 * (6 - 0))) :=
  outflow_le (H := sampleHashes) start_cappedService (by decide) (by decide) rfl (by norm_num)
    inOrder_twoTransfers (by norm_num) ["http:secret"]

end Bounds

end SolMesh

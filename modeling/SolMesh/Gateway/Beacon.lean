import SolMesh.Foundations.Rational
import SolMesh.Protocol.RoundTrip
import SolMesh.Client.Request
import SolMesh.Gateway.Queries

set_option relaxedAutoImplicit false
set_option autoImplicit false

/-!
# Start and beacons

A gateway that is started loads its hot wallet and begins with empty books. From then on a thread
broadcasts beacons, which say what the gateway can do and how long it has been up.

## Main definitions

* `SolMesh.Gateway.start` — the gateway that `start` leaves behind.
* `SolMesh.sendBeacon` — broadcast a beacon.
* `SolMesh.Gateway.beacon` — the fields of the beacon that is sent at a time.

## Main results

* `SolMesh.run_sendBeacon_of_fits`, `SolMesh.run_sendBeacon_of_not_fits` — a beacon is broadcast
  while the uptime fits its field.
* `SolMesh.unpackMessage_beaconFrame` — what is read from it.
-/

namespace SolMesh

open Py Text

variable {F : Type} {S : Solders}

/-! ## Start -/

/-- Start a gateway at time `now`: load the hot wallet if one is configured, and require a key if
HTTP is to be served. -/
def Gateway.start (wallets : WalletManager S) (config : ServiceConfig F)
    (hotWalletPassphrase : Text) (now : ℚ) : Except Exn (Gateway F S) := do
  let hotKeypair ← match config.hotWallet.filter fun name => decide (name ≠ "") with
    | some name => do pure (some (← wallets.loadKeypair name hotWalletPassphrase))
    | none => pure none
  if config.servesHttp ∧ config.key = none then
    .error (valueError (ofString "api_key is required when http_port is set"))
  else
    return { config := config
             node := { config := config.limits
                       hotKeypair := hotKeypair
                       rateLimiter :=
                         RateLimiter.new config.maxRequestsPerMinute config.rateLimitBurst
                       reassembler := ∅
                       events := [] }
             knownAddresses := ∅
             startTime := now
             queries := [] }

/-- **A gateway that was started** has empty books, and the hot wallet that is configured.

**Proof sketch.** A gateway without a hot wallet starts without a keypair. With one, it starts if
the wallet can be loaded, with the keypair that was loaded. In both cases the server needs a key to
be started. -/
lemma exists_of_start {wallets : WalletManager S} {config : ServiceConfig F} {passphrase : Text}
    {now : ℚ} {gw : Gateway F S} (h : Gateway.start wallets config passphrase now = .ok gw) :
    ∃ hotKeypair, gw = ⟨config, ⟨config.limits, hotKeypair,
        RateLimiter.new config.maxRequestsPerMinute config.rateLimitBurst, ∅, []⟩, ∅, now, []⟩ ∧
      (∀ keypair, hotKeypair = some keypair → ∃ name, config.hotWallet = some name ∧
        wallets.loadKeypair name passphrase = .ok keypair) ∧
      (config.servesHttp = true → config.key ≠ none) := by
  unfold Gateway.start at h
  dsimp only at h
  cases hname : config.hotWallet.filter fun name => decide (name ≠ "") with
  | none =>
    rw [hname] at h
    dsimp only at h
    rw [pure_bind] at h
    split_ifs at h with hserves
    cases h
    exact ⟨none, rfl, fun _ h => (by cases h), fun hhttp hkey => hserves ⟨hhttp, hkey⟩⟩
  | some name =>
    rw [hname] at h
    dsimp only at h
    obtain ⟨keypair, hload, h⟩ := bind_eq_ok.mp h
    rw [pure_bind] at h
    split_ifs at h with hserves
    cases h
    refine ⟨some keypair, rfl, fun keypair' heq => ⟨name, ?_, ?_⟩, fun hhttp hkey =>
      hserves ⟨hhttp, hkey⟩⟩
    · exact (Option.filter_eq_some_iff.mp hname).1
    · rw [← Option.some.inj heq]
      exact hload

/-! ## Beacons -/

/-- Can relay signed transactions (Mode 1). -/
def beaconCapRelay : ℕ := 0x01

/-- Has a hot wallet for transfers (Mode 3). -/
def beaconCapHotWallet : ℕ := 0x02

/-- Can query balances. -/
def beaconCapBalance : ℕ := 0x04

/-- Can provide a recent blockhash. -/
def beaconCapBlockhash : ℕ := 0x08

/-- Can handle token transfers. -/
def beaconCapSplToken : ℕ := 0x10

/-- Broadcast a beacon at time `now`: an empty destination stands for everybody. -/
def sendBeacon (env : Surroundings S) (now : ℚ) : Method (Gateway F S) Unit := do
  let gw ← get
  let caps := beaconCapRelay ||| beaconCapBalance ||| beaconCapBlockhash ||| beaconCapSplToken
  let (caps, hotWalletPubkey) := match gw.node.hotKeypair with
    | some keypair => (caps ||| beaconCapHotWallet, (S.pubkey keypair).val)
    | none => (caps, [])
  let uptime := truncate (now - gw.startTime)
  let payload ← ofExcept (encodeGatewayBeacon protocolVersion caps hotWalletPubkey uptime)
  onNode (sendMessage MsgType.gatewayBeacon env.replyId payload "" false)

/-- What the gateway can do. -/
def Gateway.capabilities (gw : Gateway F S) : ℕ :=
  match gw.node.hotKeypair with
  | some _ => 0x1f
  | none => 0x1d

/-- The bytes of the hot wallet's public key, none if there is no hot wallet. -/
def Gateway.hotWalletPubkey (gw : Gateway F S) : Bytes :=
  match gw.node.hotKeypair with
  | some keypair => (S.pubkey keypair).val
  | none => []

/-- The fields of the beacon that is sent at time `now`. -/
def Gateway.beacon (gw : Gateway F S) (now : ℚ) : GatewayBeacon :=
  ⟨protocolVersion, gw.capabilities, (truncate (now - gw.startTime)).toNat, gw.hotWalletPubkey⟩

/-- The payload of a beacon. -/
def GatewayBeacon.payload (beacon : GatewayBeacon) : Bytes :=
  Bytes.toBE 1 beacon.version ++ Bytes.toBE 1 beacon.capabilities ++
    Bytes.toBE 4 beacon.uptimeSeconds ++ beacon.hotWalletPubkey

/-- The frame of a beacon. -/
def GatewayBeacon.frame (beacon : GatewayBeacon) (msgId : UInt16) : Bytes :=
  frameBytes MsgType.gatewayBeacon msgId 0 1 beacon.payload

/-- The uptime at a time fits its field. -/
def Gateway.UptimeFits (gw : Gateway F S) (now : ℚ) : Prop :=
  0 ≤ truncate (now - gw.startTime) ∧ truncate (now - gw.startTime) < 256 ^ 4

instance (gw : Gateway F S) (now : ℚ) : Decidable (gw.UptimeFits now) :=
  inferInstanceAs (Decidable (_ ∧ _))

/-- The capabilities fit their field. -/
lemma Gateway.capabilities_lt (gw : Gateway F S) : gw.capabilities < 256 := by
  unfold Gateway.capabilities
  cases gw.node.hotKeypair <;> simp

/-- The key is missing or complete. -/
lemma Gateway.length_hotWalletPubkey (gw : Gateway F S) :
    gw.hotWalletPubkey = [] ∨ gw.hotWalletPubkey.length = 32 := by
  unfold Gateway.hotWalletPubkey
  cases gw.node.hotKeypair with
  | none => exact Or.inl rfl
  | some keypair => exact Or.inr (S.pubkey keypair).property

/-- The beacon loop encodes the fields of the beacon, with the uptime as it is. -/
lemma run_sendBeacon_eq (env : Surroundings S) (now : ℚ) (gw : Gateway F S) :
    (sendBeacon env now).run gw = ((do
      let payload ← ofExcept (encodeGatewayBeacon protocolVersion gw.capabilities
        gw.hotWalletPubkey (truncate (now - gw.startTime)))
      onNode (sendMessage MsgType.gatewayBeacon env.replyId payload "" false) :
        Method (Gateway F S) Unit)).run gw := by
  unfold sendBeacon Gateway.capabilities Gateway.hotWalletPubkey
  rw [EStateM.run_bind, EStateM.run_get]
  dsimp only
  cases gw.node.hotKeypair <;> rfl

/-- The encoder takes the fields of a beacon exactly if the uptime fits. -/
lemma encode_beacon_eq_ok_iff {gw : Gateway F S} {now : ℚ} {payload : Bytes} :
    encodeGatewayBeacon protocolVersion gw.capabilities gw.hotWalletPubkey
      (truncate (now - gw.startTime)) = .ok payload ↔
        gw.UptimeFits now ∧ payload = (gw.beacon now).payload := by
  have hversion : (0 : ℤ) ≤ (protocolVersion : ℕ) ∧ ((protocolVersion : ℕ) : ℤ) < 256 ^ 1 := by
    decide
  have hcaps := gw.capabilities_lt
  rw [encodeGatewayBeacon_eq_ok_iff]
  constructor
  · rintro ⟨_, _, hfits, _, rfl⟩
    exact ⟨hfits, rfl⟩
  · rintro ⟨hfits, rfl⟩
    exact ⟨hversion, ⟨by omega, by omega⟩, hfits, gw.length_hotWalletPubkey, rfl⟩

/-- A beacon fits a frame. -/
lemma length_beacon_payload (gw : Gateway F S) (now : ℚ) :
    (gw.beacon now).payload.length ≤ maxChunkData := by
  have hkey : gw.hotWalletPubkey.length ≤ 32 := by
    rcases gw.length_hotWalletPubkey with hnil | hlen
    · rw [hnil]
      exact Nat.zero_le _
    · exact hlen.le
  simp only [GatewayBeacon.payload, Gateway.beacon, List.length_append, Bytes.length_toBE,
    maxChunkData_eq]
  omega

/-- **A beacon is broadcast while the uptime fits its field.** -/
lemma run_sendBeacon_of_fits {gw : Gateway F S} {now : ℚ} (h : gw.UptimeFits now)
    (env : Surroundings S) :
    (sendBeacon env now).run gw =
      .ok () (gw.record [.meshSend ((gw.beacon now).frame env.replyId) "" false]) := by
  rw [run_sendBeacon_eq, encode_beacon_eq_ok_iff.mpr ⟨h, rfl⟩, run_bind_ok (run_ofExcept_ok _ _)]
  have hsend := sendMessage_of_le (length_beacon_payload gw now) MsgType.gatewayBeacon env.replyId
    "" false gw.node
  exact run_focus_ok (p := Gateway.nodePart) hsend

/-- Otherwise the thread raises, with nothing sent. -/
lemma run_sendBeacon_of_not_fits {gw : Gateway F S} {now : ℚ} (h : ¬ gw.UptimeFits now)
    (env : Surroundings S) : ∃ e, (sendBeacon env now).run gw = .error e gw := by
  rw [run_sendBeacon_eq]
  cases henc : encodeGatewayBeacon protocolVersion gw.capabilities gw.hotWalletPubkey
      (truncate (now - gw.startTime)) with
  | ok payload => exact absurd (encode_beacon_eq_ok_iff.mp henc).1 h
  | error e => exact ⟨e, run_bind_error (run_ofExcept_error _ _) _⟩

/-- **What is read from a beacon** are its fields. -/
lemma unpackMessage_beaconFrame {gw : Gateway F S} {now : ℚ} (h : gw.UptimeFits now)
    (msgId : UInt16) :
    ∃ header, unpackMessage ((gw.beacon now).frame msgId) =
        .ok (header, (gw.beacon now).payload) ∧ header.msgType = MsgType.gatewayBeacon ∧
      decodeGatewayBeacon (gw.beacon now).payload = .ok (gw.beacon now) := by
  obtain ⟨checksum, hunpack⟩ := unpackMessage_frameBytes_append MsgType.gatewayBeacon msgId 0 1 []
    (length_beacon_payload gw now)
  rw [List.append_nil] at hunpack
  obtain ⟨v, c, u, hv, hc, hu, hdec⟩ := decodeGatewayBeacon_encodeGatewayBeacon
    (encode_beacon_eq_ok_iff.mpr ⟨h, rfl⟩)
  refine ⟨_, hunpack, rfl, ?_⟩
  rw [hdec, Gateway.beacon, hu, Int.toNat_natCast, Nat.cast_inj.mp hv, Nat.cast_inj.mp hc]

end SolMesh

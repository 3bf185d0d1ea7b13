import SolMesh.Gateway.TxChunk

set_option relaxedAutoImplicit false
set_option autoImplicit false

/-!
# When a request gets its reply

Every exit of the handlers sends one reply, but the text of the reply may come from outside the
program: from the exception of an RPC call, from the signature the RPC node returned or from the
limit in the configuration file. The reply is lost, and the handler raises, if such a text does
not fit a frame or cannot be encoded, or if the limit is not a finite number.

## Main definitions

* `SolMesh.RepliesOnce` — the handler returns and sends exactly one reply.
* `SolMesh.applicableLimit` — the limit that applies to a request.
* `SolMesh.TxRequestTextsFit` — the condition on the texts from outside.

## Main results

* `SolMesh.repliesOnce_iff` — a request gets exactly one reply if and only if the texts fit.
-/

namespace SolMesh

open Py Text

variable {F : Type} {S : Solders}

/-! ## Exactly one reply -/

/-- The method returns, and exactly one of the frames it hands to the mesh is a reply: to the
message `msgId`, addressed to `senderId`. -/
def RepliesOnce (m : Method (GatewayNode F S) Unit) (g : GatewayNode F S) (msgId : UInt16)
    (senderId : String) : Prop :=
  (∃ g', m.run g = .ok () g') ∧ (effects m g).filterMap replyTo = [(msgId.toNat, senderId)]

/-- A method that sends a reply after other effects replies once if and only if the reply fits. -/
lemma repliesOnce_sendReply_iff {m : Method (GatewayNode F S) Unit} {g g₁ : GatewayNode F S}
    {env : Moment S} {msgId : UInt16} {senderId : String} {r : Reply}
    (hrun : m.run g = (sendReply env msgId r senderId).run g₁) {before : List GatewayEvent}
    (hevents : g₁.events = g.events ++ before) (hbefore : before.filterMap replyTo = []) :
    RepliesOnce m g msgId senderId ↔ r.Fits := by
  constructor
  · rintro ⟨⟨g', hg'⟩, _⟩
    by_contra hfits
    obtain ⟨e, he⟩ := sendReply_of_not_fits env msgId hfits senderId g₁
    rw [hrun, he] at hg'
    cases hg'
  · intro hfits
    have hsend := sendReply_of_fits env msgId hfits senderId g₁
    rw [← hrun] at hsend
    refine ⟨⟨_, hsend⟩, ?_⟩
    rw [effects, stateAfter_of_ok hsend, GatewayNode.record_events, hevents, List.append_assoc,
      List.drop_left, List.filterMap_append, hbefore]
    simp [replyTo, repliedMsgId_frame hfits]

/-- Calls of the RPC node are no replies. -/
lemma filterMap_replyTo_eq_nil {calls : List GatewayEvent}
    (h : ∀ event ∈ calls, replyTo event = none) : calls.filterMap replyTo = [] := by
  rw [List.filterMap_eq_nil_iff]
  exact h

/-- A broadcast sends no reply. -/
lemma replyTo_broadcast (rpc : Rpc S) (txBytes : Bytes) :
    ∀ event ∈ (rpc.broadcast txBytes).1, replyTo event = none := by
  intro event hevent
  rw [mem_broadcast_calls hevent]
  rfl

/-- The calls of every exit are no replies. -/
lemma TxRequestExit.replyTo_calls [Number F] {env : Moment S} {g : GatewayNode F S}
    {payload : Bytes} {calls : List GatewayEvent} {reply : Except Exn Reply}
    (h : TxRequestExit env g payload calls reply) : calls.filterMap replyTo = [] := by
  have htransfer : ∀ (keypair : S.Keypair) (req : TxRequest) (hash : S.Blockhash) (dest : Pubkey),
      ∀ event ∈ (env.rpc.transfer keypair req hash dest).1, replyTo event = none := by
    intro keypair req hash dest event hevent
    obtain ⟨address, rfl⟩ := mem_transfer_calls hevent
    rfl
  cases h with
  | noHotWallet | malformed | badSignature | notAllowed | unsupportedToken | amountExceeded
  | limitUndefined => rfl
  | noBlockhash => rfl
  | notCreated => exact filterMap_replyTo_eq_nil (List.forall_mem_cons.mpr ⟨rfl, htransfer _ _ _ _⟩)
  | broadcast =>
    refine filterMap_replyTo_eq_nil (List.forall_mem_cons.mpr ⟨rfl, ?_⟩)
    exact List.forall_mem_append.mpr ⟨htransfer _ _ _ _, replyTo_broadcast _ _⟩

/-! ## The texts from outside -/

/-- The text of the outcome of a broadcast fits: of the exception that parsing or sending raised,
or of the signature. -/
def BroadcastTextFits (rpc : Rpc S) (txBytes : Bytes) : Prop :=
  match deserializeTransaction S txBytes with
  | .error e => TextFits e.text
  | .ok _ =>
    match rpc.sendRawTransaction txBytes with
    | .error e => TextFits e.text
    | .ok sig => TextFits sig

/-- The result of a broadcast fits if and only if its text does. -/
lemma result_fits_iff (rpc : Rpc S) (txBytes : Bytes) :
    (rpc.result txBytes).Fits ↔ BroadcastTextFits rpc txBytes := by
  unfold Rpc.result Rpc.broadcast BroadcastTextFits Reply.Fits
  cases deserializeTransaction S txBytes with
  | error e => rfl
  | ok tx => cases rpc.sendRawTransaction txBytes <;> rfl

/-- The limit that applies to a request, the base units of its unit, and the name of the unit:
`none` for a token without limit and for an unknown token. -/
def applicableLimit (S : Solders) (config : GatewayConfig F) (req : TxRequest) :
    Option (F × ℤ × String) :=
  if h : req.mint.length = 32 then
    (knownTokens.get? (S.pubkeyStr ⟨req.mint, h⟩)).bind fun token =>
      (config.getMaxTransferToken (S.pubkeyStr ⟨req.mint, h⟩)).map fun limit =>
        (limit, 10 ^ token.2, token.1)
  else some (config.maxTransferSol, lamportsPerSol, "SOL")

variable [Number F]

/-- The text of a reply that names a limit. -/
def limitText (limit : F) (unit : String) : Text :=
  ofString "Max " ++ Number.str limit ++ ofString " " ++ ofString unit

/-- The check of the amount where a limit applies.

**Proof sketch.** With a mint the token is known and has a limit; without one the limit is that for
SOL. The text of the refusal names the limit in both cases. -/
lemma checkAmount_of_limit {config : GatewayConfig F} {req : TxRequest} (hreq : req.WellFormed)
    {limit : F} {factor : ℤ} {unit : String}
    (h : applicableLimit S config req = some (limit, factor, unit)) :
    checkAmount S config req = do
      if (req.amount : ℤ) > (← maxBaseUnits limit factor) then
        return some (.amountExceeded (limitText limit unit))
      else return none := by
  unfold applicableLimit at h
  unfold checkAmount
  split_ifs at h ⊢ with hlen
  · rw [Pubkey.fromBytes_of_length hlen, ok_bind]
    dsimp only
    obtain ⟨⟨symbol, decimals⟩, htoken, h⟩ := Option.bind_eq_some_iff.mp h
    obtain ⟨limit', hlimit, h⟩ := Option.map_eq_some_iff.mp h
    cases h
    rw [htoken]
    dsimp only
    rw [hlimit]
    rfl
  · cases h
    rw [hreq.lamports]
    have htext : limitText config.maxTransferSol "SOL" =
        ofString "Max " ++ Number.str config.maxTransferSol ++ ofString " SOL" := by
      have hsol : ofString " SOL" = ofString " " ++ ofString "SOL" := by decide
      simp only [limitText, hsol, List.append_assoc]
    rw [htext]

/-- The check of the amount where no limit applies: the token is unknown, or has no limit. -/
lemma checkAmount_of_no_limit {config : GatewayConfig F} {req : TxRequest}
    (h : applicableLimit S config req = none) :
    checkAmount S config req = .ok none ∨
      ∃ mintStr, checkAmount S config req = .ok (some (.unsupportedToken mintStr)) := by
  unfold applicableLimit at h
  unfold checkAmount
  split_ifs at h ⊢ with hlen
  rw [Pubkey.fromBytes_of_length hlen, ok_bind]
  dsimp only
  cases htoken : knownTokens.get? (S.pubkeyStr ⟨req.mint, hlen⟩) with
  | none => exact Or.inr ⟨_, rfl⟩
  | some token =>
    obtain ⟨symbol, decimals⟩ := token
    rw [htoken, Option.bind_some, Option.map_eq_none_iff] at h
    dsimp only
    rw [h]
    exact Or.inl rfl

/-! ## The condition -/

/-- The texts that may end up in the reply to an authorised request fit, and the limit that
applies to it is a finite number. -/
structure AuthorisedTextsFit (env : Moment S) (config : GatewayConfig F) (keypair : S.Keypair)
    (req : TxRequest) : Prop where
  limit : ∀ limit factor unit, applicableLimit S config req = some (limit, factor, unit) →
    ∃ m, maxBaseUnits limit factor = .ok m ∧
      (m < req.amount → TextFits (limitText limit unit))
  blockhash : checkAmount S config req = .ok none →
    ∀ e, env.rpc.getLatestBlockhash = .error e →
      TextFits (ofString "Blockhash fetch failed: " ++ e.text)
  creation : checkAmount S config req = .ok none →
    ∀ hash dest e, env.rpc.getLatestBlockhash = .ok hash → dest.val = req.destPubkey →
      (env.rpc.transfer keypair req hash dest).2 = .error e →
      TextFits (ofString "TX creation failed: " ++ e.text)
  broadcast : checkAmount S config req = .ok none →
    ∀ hash dest txBytes, env.rpc.getLatestBlockhash = .ok hash → dest.val = req.destPubkey →
      (env.rpc.transfer keypair req hash dest).2 = .ok txBytes → BroadcastTextFits env.rpc txBytes

/-- **The condition for a reply**: if the rate limiter admits the request, a hot wallet is loaded
and the request is well-formed and authorised, then the texts from outside fit. -/
def TxRequestTextsFit (env : Moment S) (g : GatewayNode F S) (payload : Bytes)
    (senderId : String) : Prop :=
  g.admits env senderId = true → ∀ keypair req senderPubkey, g.hotKeypair = some keypair →
    decodeTxRequest payload = .ok req → Authorised S g.config req senderPubkey →
    AuthorisedTextsFit env g.config keypair req

section Exits

variable {env : Moment S} {g : GatewayNode F S} {payload : Bytes} {senderId : String}
  {keypair : S.Keypair} {req : TxRequest}

/-- Nothing is asked of a request that is refused before its amount is checked. -/
lemma textsFit_of_refused (h : ∀ keypair req senderPubkey, g.hotKeypair = some keypair →
    decodeTxRequest payload = .ok req → ¬ Authorised S g.config req senderPubkey) :
    TxRequestTextsFit env g payload senderId :=
  fun _ keypair req senderPubkey hkey hreq hauth =>
    absurd hauth (h keypair req senderPubkey hkey hreq)

/-- The condition on an authorised request. -/
lemma textsFit_iff_of_authorised (hadmits : g.admits env senderId = true)
    (hkey : g.hotKeypair = some keypair) (hreq : decodeTxRequest payload = .ok req)
    {senderPubkey : Pubkey} (hauth : Authorised S g.config req senderPubkey) :
    TxRequestTextsFit env g payload senderId ↔ AuthorisedTextsFit env g.config keypair req := by
  constructor
  · exact fun h => h hadmits keypair req senderPubkey hkey hreq hauth
  · intro h _ keypair' req' _ hkey' hreq' _
    obtain rfl := Option.some.inj (hkey.symm.trans hkey')
    obtain rfl := Except.ok.inj (hreq.symm.trans hreq')
    exact h

/-- An admitted request is within its limit. -/
lemma limit_of_checkAmount {config : GatewayConfig F} (hreq : req.WellFormed)
    (hamount : checkAmount S config req = .ok none) {limit : F} {factor : ℤ} {unit : String}
    (hlimit : applicableLimit S config req = some (limit, factor, unit)) :
    ∃ m, maxBaseUnits limit factor = .ok m ∧
      (m < req.amount → TextFits (limitText limit unit)) := by
  rw [checkAmount_of_limit hreq hlimit] at hamount
  obtain ⟨m, hm, hle⟩ := bind_eq_ok.mp hamount
  refine ⟨m, hm, fun hlt => ?_⟩
  rw [if_pos hlt] at hle
  cases hle

/-- A token that is refused has no limit. -/
lemma applicableLimit_of_unsupported {config : GatewayConfig F} (hreq : req.WellFormed)
    {mintStr : String} (h : checkAmount S config req = .ok (some (.unsupportedToken mintStr))) :
    applicableLimit S config req = none := by
  cases hlimit : applicableLimit S config req with
  | none => rfl
  | some triple =>
    obtain ⟨limit, factor, unit⟩ := triple
    rw [checkAmount_of_limit hreq hlimit] at h
    obtain ⟨m, _, hcmp⟩ := bind_eq_ok.mp h
    split_ifs at hcmp
    · cases hcmp
    · cases hcmp

/-- A limit applies if the check of the amount does anything else than where none does. -/
lemma exists_limit {config : GatewayConfig F} (hnone : checkAmount S config req ≠ .ok none)
    (hunsupported : ∀ mintStr,
      checkAmount S config req ≠ .ok (some (.unsupportedToken mintStr))) :
    ∃ limit factor unit, applicableLimit S config req = some (limit, factor, unit) := by
  cases hlimit : applicableLimit S config req with
  | none =>
    rcases checkAmount_of_no_limit hlimit with h | ⟨mintStr, h⟩
    · exact absurd h hnone
    · exact absurd h (hunsupported mintStr)
  | some triple =>
    obtain ⟨limit, factor, unit⟩ := triple
    exact ⟨limit, factor, unit, rfl⟩

/-- An amount that is refused exceeds the limit that applies, and the text names this limit. -/
lemma exists_limit_of_exceeded {config : GatewayConfig F} (hreq : req.WellFormed) {text : Text}
    (h : checkAmount S config req = .ok (some (.amountExceeded text))) :
    ∃ limit factor unit m, applicableLimit S config req = some (limit, factor, unit) ∧
      maxBaseUnits limit factor = .ok m ∧ m < req.amount ∧ text = limitText limit unit := by
  obtain ⟨limit, factor, unit, hlimit⟩ := exists_limit (by rw [h]; simp) (by rw [h]; simp)
  rw [checkAmount_of_limit hreq hlimit] at h
  obtain ⟨m, hm, hcmp⟩ := bind_eq_ok.mp h
  split_ifs at hcmp with hlt
  · cases hcmp
    exact ⟨limit, factor, unit, m, hlimit, hm, hlt, rfl⟩
  · cases hcmp

/-- A check that raises could not convert the limit that applies. -/
lemma exists_limit_of_error {config : GatewayConfig F} (hreq : req.WellFormed) {e : Exn}
    (h : checkAmount S config req = .error e) :
    ∃ limit factor unit, applicableLimit S config req = some (limit, factor, unit) ∧
      maxBaseUnits limit factor = .error e := by
  obtain ⟨limit, factor, unit, hlimit⟩ := exists_limit (by rw [h]; simp) (by rw [h]; simp)
  rw [checkAmount_of_limit hreq hlimit] at h
  cases hm : maxBaseUnits limit factor with
  | error e' =>
    rw [hm] at h
    cases h
    exact ⟨limit, factor, unit, hlimit, hm⟩
  | ok m =>
    rw [hm, ok_bind] at h
    split_ifs at h
    · cases h
    · cases h

/-- For a request whose amount is not admitted, only the limit matters. -/
lemma authorisedTextsFit_iff_limit {config : GatewayConfig F}
    (hamount : checkAmount S config req ≠ .ok none) :
    AuthorisedTextsFit env config keypair req ↔
      ∀ limit factor unit, applicableLimit S config req = some (limit, factor, unit) →
        ∃ m, maxBaseUnits limit factor = .ok m ∧
          (m < req.amount → TextFits (limitText limit unit)) :=
  ⟨fun h => h.limit, fun h => ⟨h, fun heq => absurd heq hamount, fun heq => absurd heq hamount,
    fun heq => absurd heq hamount⟩⟩

/-- For an admitted request without a blockhash, only its exception matters. -/
lemma authorisedTextsFit_iff_of_no_blockhash {config : GatewayConfig F} (hreq : req.WellFormed)
    (hamount : checkAmount S config req = .ok none) {e : Exn}
    (hrpc : env.rpc.getLatestBlockhash = .error e) :
    AuthorisedTextsFit env config keypair req ↔
      TextFits (ofString "Blockhash fetch failed: " ++ e.text) := by
  constructor
  · exact fun h => h.blockhash hamount e hrpc
  · intro hfits
    refine ⟨fun _ _ _ hlimit => limit_of_checkAmount hreq hamount hlimit, ?_, ?_, ?_⟩
    · intro _ e' hrpc'
      cases hrpc.symm.trans hrpc'
      exact hfits
    · intro _ hash _ _ hrpc'
      cases hrpc.symm.trans hrpc'
    · intro _ hash _ _ hrpc'
      cases hrpc.symm.trans hrpc'

/-- For an admitted request with a blockhash, the outcome of the transfer matters.

**Proof sketch.** The checks have passed and the blockhash is known, so the conditions on the other
exits are empty, and those on the last two are the ones on the right, for the one destination that
the request names. -/
lemma authorisedTextsFit_iff_of_blockhash {config : GatewayConfig F} (hreq : req.WellFormed)
    (hamount : checkAmount S config req = .ok none) {hash : S.Blockhash} {dest : Pubkey}
    (hrpc : env.rpc.getLatestBlockhash = .ok hash) (hdest : dest.val = req.destPubkey) :
    AuthorisedTextsFit env config keypair req ↔
      (∀ e, (env.rpc.transfer keypair req hash dest).2 = .error e →
        TextFits (ofString "TX creation failed: " ++ e.text)) ∧
      ∀ txBytes, (env.rpc.transfer keypair req hash dest).2 = .ok txBytes →
        BroadcastTextFits env.rpc txBytes := by
  constructor
  · exact fun h => ⟨fun e => h.creation hamount hash dest e hrpc hdest,
      fun txBytes => h.broadcast hamount hash dest txBytes hrpc hdest⟩
  · rintro ⟨hcreation, hbroadcast⟩
    refine ⟨fun _ _ _ hlimit => limit_of_checkAmount hreq hamount hlimit, ?_, ?_, ?_⟩
    · intro _ e hrpc'
      cases hrpc.symm.trans hrpc'
    · intro _ hash' dest' e hrpc' hdest'
      cases hrpc.symm.trans hrpc'
      obtain rfl : dest' = dest := Subtype.ext (hdest'.trans hdest.symm)
      exact hcreation e
    · intro _ hash' dest' txBytes hrpc' hdest'
      cases hrpc.symm.trans hrpc'
      obtain rfl : dest' = dest := Subtype.ext (hdest'.trans hdest.symm)
      exact hbroadcast txBytes

/-- An encodable text stays encodable when it is cut off. -/
lemma isEncodable_take {text : Text} (h : IsEncodable text) (n : ℕ) :
    IsEncodable (text.take n) :=
  fun c hc => h c (List.mem_of_mem_take hc)

/-- The reply to a request for an unknown token fits, since it cuts the mint address off. -/
lemma textFits_unsupported (mintStr : String) :
    TextFits (ofString "Unsupported token: " ++ (ofString mintStr).take 16 ++ ofString "...") := by
  have hpre : (ofString "Unsupported token: ").length = 19 := by decide
  have hsuf : (ofString "...").length = 3 := by decide
  refine textFits_of_length ?_ ?_
  · rw [encodable_append, encodable_append]
    exact ⟨⟨encodable_ofString _, isEncodable_take (encodable_ofString _) 16⟩,
      encodable_ofString _⟩
  · have htake := List.length_take_le 16 (ofString mintStr)
    simp only [List.length_append]
    omega

/-- **The reply of an exit fits if and only if the condition holds**, exit by exit.

**Proof sketch.** One case for each exit. In front of the check of the amount, the condition says
nothing (`textsFit_of_refused`), and the text of the refusal is short and ASCII. Behind it, the
condition is that on the printed limit (`authorisedTextsFit_iff_limit`), on the error of the RPC
node (`authorisedTextsFit_iff_of_no_blockhash`), or on what comes of the transfer
(`authorisedTextsFit_iff_of_blockhash`), which is the text in the reply of the exit. -/
lemma TxRequestExit.fits_iff {calls : List GatewayEvent} {reply : Except Exn Reply}
    (h : TxRequestExit env g payload calls reply) (hadmits : g.admits env senderId = true)
    (hlen : payload.length ≤ 255) :
    (∃ r, reply = .ok r ∧ r.Fits) ↔ TxRequestTextsFit env g payload senderId := by
  have hok : ∀ r : Reply, (∃ r', Except.ok r = (Except.ok r' : Except Exn Reply) ∧ r'.Fits) ↔
      r.Fits := by
    intro r
    constructor
    · rintro ⟨r', hr', hfits⟩
      rwa [Except.ok.inj hr']
    · exact fun hfits => ⟨r, rfl, hfits⟩
  cases h with
  | noHotWallet hkey =>
    rw [hok]
    refine iff_of_true (textFits_of_ascii (by decide) (by decide)) (textsFit_of_refused ?_)
    intro _ _ _ hkey'
    rw [hkey] at hkey'
    cases hkey'
  | malformed hkey hreq =>
    rw [hok]
    obtain ⟨hascii, hshort⟩ := decodeTxRequest_eq_error hreq hlen
    refine iff_of_true (textFits_of_ascii hascii (hshort.trans (by omega))) (textsFit_of_refused ?_)
    intro _ _ _ _ hreq'
    rw [hreq] at hreq'
    cases hreq'
  | badSignature hkey hreq hsender hsig =>
    rw [hok]
    refine iff_of_true (textFits_of_ascii (by decide) (by decide)) (textsFit_of_refused ?_)
    intro _ _ _ _ hreq' hauth
    obtain rfl := Except.ok.inj (hreq.symm.trans hreq')
    rw [Subtype.ext (hsender.trans hauth.pubkey.symm), hauth.signed] at hsig
    cases hsig
  | notAllowed hkey hreq hsender hnot =>
    rw [hok]
    refine iff_of_true (textFits_of_ascii (by decide) (by decide)) (textsFit_of_refused ?_)
    intro _ _ _ _ hreq' hauth
    obtain rfl := Except.ok.inj (hreq.symm.trans hreq')
    rw [Subtype.ext (hsender.trans hauth.pubkey.symm)] at hnot
    exact absurd (hauth.allowed.resolve_left hnot.1) hnot.2
  | unsupportedToken hkey hreq hauth hamount =>
    rw [hok, textsFit_iff_of_authorised hadmits hkey hreq hauth,
      authorisedTextsFit_iff_limit (by rw [hamount]; simp),
      applicableLimit_of_unsupported (wellFormed_of_decodeTxRequest hreq) hamount]
    exact iff_of_true (textFits_unsupported _) fun _ _ _ => nofun
  | amountExceeded hkey hreq hauth hamount =>
    obtain ⟨limit, factor, unit, m, hlimit, hm, hlt, rfl⟩ :=
      exists_limit_of_exceeded (wellFormed_of_decodeTxRequest hreq) hamount
    rw [hok, textsFit_iff_of_authorised hadmits hkey hreq hauth,
      authorisedTextsFit_iff_limit (by rw [hamount]; simp), hlimit]
    constructor
    · rintro hfits limit' factor' unit' ⟨⟩
      exact ⟨m, hm, fun _ => hfits⟩
    · intro hall
      obtain ⟨m', hm', hfits⟩ := hall limit factor unit rfl
      cases hm.symm.trans hm'
      exact hfits hlt
  | limitUndefined hkey hreq hauth hamount =>
    obtain ⟨limit, factor, unit, hlimit, he⟩ :=
      exists_limit_of_error (wellFormed_of_decodeTxRequest hreq) hamount
    rw [textsFit_iff_of_authorised hadmits hkey hreq hauth]
    refine iff_of_false (by simp) fun hall => ?_
    obtain ⟨m, hm, _⟩ := hall.limit limit factor unit hlimit
    cases he.symm.trans hm
  | noBlockhash hadm hrpc =>
    obtain ⟨hkey, hreq, ⟨_, hauth⟩, hamount⟩ := hadm
    rw [hok, textsFit_iff_of_authorised hadmits hkey hreq hauth,
      authorisedTextsFit_iff_of_no_blockhash (wellFormed_of_decodeTxRequest hreq) hamount hrpc]
    rfl
  | notCreated hadm hrpc hdest hcreate =>
    obtain ⟨hkey, hreq, ⟨_, hauth⟩, hamount⟩ := hadm
    rw [hok, textsFit_iff_of_authorised hadmits hkey hreq hauth,
      authorisedTextsFit_iff_of_blockhash (wellFormed_of_decodeTxRequest hreq) hamount hrpc hdest,
      hcreate]
    constructor
    · intro hfits
      refine ⟨?_, fun _ => nofun⟩
      rintro e ⟨⟩
      exact hfits
    · exact fun hall => hall.1 _ rfl
  | @broadcast _ _ _ _ txBytes hadm hrpc hdest hcreate =>
    obtain ⟨hkey, hreq, ⟨_, hauth⟩, hamount⟩ := hadm
    have hresult := result_fits_iff env.rpc txBytes
    rw [Rpc.result] at hresult
    rw [hok, hresult, textsFit_iff_of_authorised hadmits hkey hreq hauth,
      authorisedTextsFit_iff_of_blockhash (wellFormed_of_decodeTxRequest hreq) hamount hrpc hdest,
      hcreate]
    constructor
    · intro hfits
      refine ⟨fun _ => nofun, ?_⟩
      rintro txBytes ⟨⟩
      exact hfits
    · exact fun hall => hall.2 _ rfl

end Exits

/-! ## The theorem -/

/-- The payload of a frame has at most 255 bytes. -/
lemma length_payload_le {raw payload : Bytes} {header : SolMeshHeader}
    (h : unpackMessage raw = .ok (header, payload)) : payload.length ≤ 255 := by
  have hlt := header.payloadLen.toNat_lt
  rw [(take_eq_frameBytes h).1]
  omega

/-- **A request gets exactly one reply if and only if the texts from outside fit**: for every
frame with a transfer request, and for every chunk that completes a transaction.

**Proof sketch.** A refusal by the rate limiter has a text that fits (`rateLimitedReply_fits`). Each
run of the handler for requests ends with the reply of its exit (`handleTxRequest_cases`), which
fits exactly under the condition (`TxRequestExit.fits_iff`); a reply that does not fit is not sent,
and the run raises (`repliesOnce_sendReply_iff`). A chunk that completes a transaction is
acknowledged, which is no reply, and its reply is the result of the broadcast (`result_fits_iff`).
-/
theorem repliesOnce_iff :
    (∀ (env : Moment S) (g : GatewayNode F S) (raw : Bytes) (header : SolMeshHeader)
      (payload : Bytes) (senderId : String),
      unpackMessage raw = .ok (header, payload) → header.msgType = MsgType.txRequest →
      (RepliesOnce (handleTxRequest env header payload senderId) g header.msgId senderId ↔
        TxRequestTextsFit env g payload senderId)) ∧
    ∀ (env : Moment S) (g : GatewayNode F S) (raw : Bytes) (header : SolMeshHeader)
      (payload : Bytes) (senderId : String) (data : Bytes),
      unpackMessage raw = .ok (header, payload) → header.msgType = MsgType.txChunk →
      g.admits env senderId = true →
      (g.reassemble env header payload senderId).1 = .ok (some data) →
      (RepliesOnce (handleTxChunk env header payload senderId) g header.msgId senderId ↔
        BroadcastTextFits env.rpc data) := by
  constructor
  · intro env g raw header payload senderId hraw _
    have hcases := handleTxRequest_cases env header payload senderId g
    cases hadmits : g.admits env senderId with
    | false =>
      rw [if_neg (by rw [hadmits]; exact Bool.false_ne_true)] at hcases
      have hsend := sendReply_of_fits env header.msgId rateLimitedReply_fits senderId
        (g.limited env senderId)
      rw [← hsend] at hcases
      rw [repliesOnce_sendReply_iff hcases (List.append_nil _).symm rfl]
      exact iff_of_true rateLimitedReply_fits fun h => absurd (hadmits.symm.trans h)
        Bool.false_ne_true
    | true =>
      rw [if_pos hadmits] at hcases
      obtain ⟨calls, reply, hexit, hrun⟩ := hcases
      rw [← hexit.fits_iff hadmits (length_payload_le hraw)]
      cases reply with
      | error e =>
        refine iff_of_false ?_ (by simp)
        rintro ⟨⟨g', hg'⟩, _⟩
        rw [hrun] at hg'
        cases hg'
      | ok r =>
        rw [repliesOnce_sendReply_iff hrun rfl hexit.replyTo_calls]
        constructor
        · exact fun hfits => ⟨r, rfl, hfits⟩
        · rintro ⟨r', hr', hfits⟩
          rwa [Except.ok.inj hr']
  · intro env g raw header payload senderId data _ _ hadmits hdata
    have hrun := handleTxChunk_cases env header payload senderId g
    rw [if_pos hadmits, hdata] at hrun
    rw [← result_fits_iff]
    have hack : replyTo (.meshSend (ackFrame env.ackId header) senderId false) = none := by
      have hlen : (Bytes.toBE 2 header.msgId.toNat ++ [header.chunkNum, 0]).length ≤ maxChunkData :=
        by simp
      have hnack : MsgType.ack ≠ MsgType.nack := by decide
      have hresult : MsgType.ack ≠ MsgType.txResult := by decide
      rw [replyTo, ackFrame, repliedMsgId_of_ne hlen hnack hresult]
      rfl
    have hevents : ((g.received env header payload senderId).record
        (env.rpc.broadcast data).1).events = g.events ++
          .meshSend (ackFrame env.ackId header) senderId false :: (env.rpc.broadcast data).1 := by
      simp
    exact repliesOnce_sendReply_iff hrun hevents
      (filterMap_replyTo_eq_nil (List.forall_mem_cons.mpr ⟨hack, replyTo_broadcast _ _⟩))

/-- The frame of the sample request. -/
def sampleFrame : Bytes := frameBytes MsgType.txRequest 7 0 1 samplePayload

/-- The header of the sample request. -/
def sampleHeader : SolMeshHeader := ⟨MsgType.txRequest, 7, 0, 1, 137, 236⟩

/-- The sample request. -/
def sampleTxRequest : TxRequest :=
  ⟨(sampleSignature sampleKey (sampleKey.val ++ sampleKey.val ++ Bytes.toBE 8 5000000000)).val,
    sampleKey.val, sampleKey.val, 5000000000, 5000000000, 0, [], []⟩

/-- The sample gateway checks and executes the sample request, and replies to it once. -/
theorem repliesOnce_iff_five_sol :
    .sendRawTransaction (signedTransfer hotKey sampleKey 5000000000) ∈
        effects (handleTxRequest sampleMoment sampleHeader samplePayload "!a") sampleGateway ∧
      RepliesOnce (handleTxRequest sampleMoment sampleHeader samplePayload "!a") sampleGateway 7
        "!a" := by
  have hraw : unpackMessage sampleFrame = .ok (sampleHeader, samplePayload) := by decide +kernel
  refine ⟨by decide +kernel, (repliesOnce_iff.1 sampleMoment sampleGateway sampleFrame sampleHeader
    samplePayload "!a" hraw rfl).mpr ?_⟩
  intro hadmits keypair req senderPubkey hkey hreq hauth
  have hdecoded : decodeTxRequest samplePayload = .ok sampleTxRequest := by decide +kernel
  obtain rfl := Except.ok.inj (hdecoded.symm.trans hreq)
  have hamount : checkAmount sampleSolders sampleGateway.config sampleTxRequest = .ok none := rfl
  have hhash : sampleMoment.rpc.getLatestBlockhash = .ok sampleBlockhash := rfl
  obtain rfl : hotKey = keypair := Option.some.inj hkey
  have hdest : sampleKey.val = sampleTxRequest.destPubkey := rfl
  refine (authorisedTextsFit_iff_of_blockhash (wellFormed_of_decodeTxRequest hreq) hamount hhash
    hdest).mpr ?_
  have htransfer : (sampleMoment.rpc.transfer hotKey sampleTxRequest sampleBlockhash sampleKey).2 =
      .ok (signedTransfer hotKey sampleKey 5000000000) := by decide +kernel
  have hfits : (sampleMoment.rpc.result (signedTransfer hotKey sampleKey 5000000000)).Fits := by
    decide +kernel
  rw [htransfer]
  rw [result_fits_iff] at hfits
  generalize signedTransfer hotKey sampleKey 5000000000 = tx at hfits
  refine ⟨nofun, ?_⟩
  rintro _ ⟨⟩
  exact hfits

/-- An RPC node whose `get_latest_blockhash` raises an exception with a text of 200 characters
makes the handler raise, and the sample request gets no reply. -/
theorem not_repliesOnce_longException :
    ∃ (env : Moment sampleSolders) (raw : Bytes) (header : SolMeshHeader) (payload : Bytes),
      unpackMessage raw = .ok (header, payload) ∧ header.msgType = MsgType.txRequest ∧
      env.rpc.getLatestBlockhash = .error ⟨"Exception", List.replicate 200 (ofChar 'x')⟩ ∧
      (effects (handleTxRequest env header payload "!a") sampleGateway).filterMap replyTo = [] ∧
      ¬ RepliesOnce (handleTxRequest env header payload "!a") sampleGateway header.msgId "!a" := by
  have hnone : (effects (handleTxRequest { sampleMoment with
      rpc := { sampleMoment.rpc with
        getLatestBlockhash := .error ⟨"Exception", List.replicate 200 (ofChar 'x')⟩ } }
      sampleHeader samplePayload "!a") sampleGateway).filterMap replyTo = [] := by decide +kernel
  have hraw : unpackMessage sampleFrame = .ok (sampleHeader, samplePayload) := by decide +kernel
  refine ⟨_, sampleFrame, sampleHeader, samplePayload, hraw, rfl, rfl, hnone, ?_⟩
  rintro ⟨_, hone⟩
  rw [hnone] at hone
  cases hone

end SolMesh

import Mathlib.Data.List.Perm.Basic
import SolMesh.Client.LifeCycle
import SolMesh.Client.Results
import SolMesh.Gateway.Broadcasts

set_option relaxedAutoImplicit false
set_option autoImplicit false

/-!
# Payments for queued intents

The composed system: the queue with its flush cycles, the client that sends transfer requests, and
a gateway that executes them. Requests and replies can be delayed and lost. An intent whose
result does not arrive in time is sent again, although the gateway may have executed it: the
number of payments is bounded by the number of dispatches, not by one.

## Main definitions

* `SolMesh.Mode3Net` — the client's results, the frames on their way, and the gateway.
* `SolMesh.Mode3Action` — what can happen on the mesh at any time.
* `SolMesh.mode3Medium` — dispatches and waits of a flush cycle on this mesh.

## Main results

* `SolMesh.payments_le` — how often an intent can be paid.
* `SolMesh.not_payments_le_one` — an intent that is paid twice.
-/

namespace SolMesh

open Py Text Conc

variable {F : Type} [Number F] {S : Solders}

/-! ## The mesh -/

/-- The client, the requests and the replies on their way, and the gateway. Each request is kept
with the intent it was sent for, and `paid` records the intents of the requests on which the
gateway handed a transaction to the RPC node. -/
structure Mode3Net (F : Type) (S : Solders) where
  client : ClientNode
  uplink : List (String × SentRequest)
  downlink : List Bytes
  gateway : GatewayNode F S
  paid : List String

/-- What can happen on the mesh: a request or a reply is lost or arrives, and the gateway is sent
other frames by other nodes. -/
inductive Mode3Action (S : Solders)
  | loseRequest (i : ℕ)
  | handleRequest (i : ℕ) (env : Moment S) (senderId : String)
  | foreign (env : Moment S) (frame : Bytes) (senderId : String)
  | loseReply (i : ℕ)
  | receiveReply (i : ℕ)

namespace Mode3Net

/-- The mesh after an action. -/
def act (n : Mode3Net F S) : Mode3Action S → Mode3Net F S
  | .loseRequest i => { n with uplink := n.uplink.eraseIdx i }
  | .handleRequest i env senderId =>
    match n.uplink[i]? with
    | none => n
    | some (intentId, request) =>
      let effects := n.gateway.effectsOf env request.frame senderId
      { n with
        uplink := n.uplink.eraseIdx i
        downlink := n.downlink ++ sentFrames effects
        gateway := n.gateway.receive env request.frame senderId
        paid := n.paid ++ List.replicate (broadcasts effects) intentId }
  | .foreign env frame senderId => { n with gateway := n.gateway.receive env frame senderId }
  | .loseReply i => { n with downlink := n.downlink.eraseIdx i }
  | .receiveReply i =>
    match n.downlink[i]? with
    | none => n
    | some frame => { n with
        downlink := n.downlink.eraseIdx i
        client := n.client.receive frame }

/-- A mesh on which nothing was sent yet. -/
def new (gateway : GatewayNode F S) : Mode3Net F S := ⟨ClientNode.new, [], [], gateway, []⟩

end Mode3Net

/-- The request a dispatch sends in Mode 3, with the message id drawn for it. -/
def Dispatch.request (wallets : WalletManager S) (gatewayId : Option String) (msgId : UInt16) :
    Dispatch F → Option (Except Exn SentRequest)
  | .requestTransfer walletName destination amountSol passphrase =>
    some (SolMesh.requestTransfer wallets gatewayId walletName destination amountSol passphrase
      msgId)
  | .requestTokenTransfer walletName destination mintAddress amount decimals passphrase =>
    some (SolMesh.requestTokenTransfer wallets gatewayId walletName destination mintAddress amount
      decimals passphrase msgId)
  | .relaySignedTx _ _ _ _ => none
  | .relaySignedTokenTx _ _ _ _ _ _ => none

/-- Dispatches and waits on this mesh. A dispatch in Mode 3 puts its request on the way; what a
dispatch in Mode 1 does is left open, but it sends no request. A crash of the client loses its
results, and nothing else. -/
def mode3Medium (wallets : WalletManager S) (gatewayId : Option String) :
    Medium F (Mode3Net F S) where
  dispatch intentId request n r n' := ∃ msgId,
    match request.request wallets gatewayId msgId with
    | none => n' = n
    | some (.error e) => r = .error e ∧ n' = n
    | some (.ok sent) =>
      r = .ok sent.msgId ∧ n' = { n with uplink := n.uplink ++ [(intentId, sent)] }
  wait msgId n r n' := ∃ client, n.client.Waits msgId r client ∧ n' = { n with client := client }
  background n n' := ∃ action, n' = n.act action
  crash n n' := n' = { n with client := ClientNode.new }

/-! ## Payments and dispatches -/

/-- How many requests for an intent are on their way. -/
def Mode3Net.inFlight (n : Mode3Net F S) (intentId : String) : ℕ :=
  n.uplink.countP fun e => decide (e.1 = intentId)

/-- How many dispatches of an intent sent a message. -/
def World.sent {N : Type} (w : World F N) (intentId : String) : ℕ :=
  w.dispatched.countP fun d => decide (d.1 = intentId) && d.2.isOk

omit [Number F] in
/-- A dispatch that sent a message was not refused. -/
lemma World.sent_le_dispatches {N : Type} (w : World F N) (intentId : String) :
    w.sent intentId ≤ w.dispatches intentId := by
  apply List.countP_mono_left
  rintro ⟨id, answer⟩ _ h
  cases answer with
  | ok msgId => simpa [refused, Except.isOk, Except.toBool] using h
  | error e => simp [Except.isOk, Except.toBool] at h

/-- **What happens on the mesh** turns at most one request on its way into one payment.

**Proof sketch.** One case for each action. A request that is handled is taken from its way, and the
gateway broadcasts at most once for it (`broadcasts_effectsOf_le`); losing a request only takes it
away; the other actions touch neither. -/
lemma Mode3Net.act_le (n : Mode3Net F S) (action : Mode3Action S) (intentId : String) :
    (n.act action).paid.count intentId + (n.act action).inFlight intentId ≤
      n.paid.count intentId + n.inFlight intentId := by
  cases action with
  | loseRequest i =>
    have hsub := (List.eraseIdx_sublist n.uplink i).countP_le
      (p := fun e => decide (e.1 = intentId))
    exact Nat.add_le_add_left hsub _
  | handleRequest i env senderId =>
    unfold Mode3Net.act
    dsimp only
    split
    · exact le_rfl
    · next intentId' request hget =>
      obtain ⟨hi, hget⟩ := List.getElem?_eq_some_iff.mp hget
      have hperm := (List.getElem_cons_eraseIdx_perm hi).countP_eq
        fun e => decide (e.1 = intentId)
      rw [hget, List.countP_cons] at hperm
      have hle := n.gateway.broadcasts_effectsOf_le env request.frame senderId
      unfold Mode3Net.inFlight
      dsimp only
      rw [List.count_append, List.count_replicate, ← hperm]
      by_cases hid : intentId' = intentId
      · simp only [hid, beq_self_eq_true, if_true, decide_true]
        omega
      · simp [hid]
  | foreign | loseReply => exact le_rfl
  | receiveReply i =>
    unfold Mode3Net.act
    dsimp only
    split <;> exact le_rfl

/-- Every payment and every request on its way belongs to a dispatch. -/
def PaymentsCovered (w : World F (Mode3Net F S)) : Prop :=
  ∀ intentId, w.net.paid.count intentId + w.net.inFlight intentId ≤ w.sent intentId

section Run

variable [BEq F] {wallets : WalletManager S} {gatewayId : Option String}
  {gateway : GatewayNode F S} {run : FlushStates F (Mode3Net F S)} {label : FlushLabels F}

omit [BEq F] in
/-- An operation of a flush cycle keeps payments covered by dispatches.

**Proof sketch.** One case for each operation. Only a dispatch puts a request on its way, and then
it is counted as sent; all other operations leave the payments, what is on its way, and what was
sent. -/
lemma PaymentsCovered.of_exec {w w' : World F (Mode3Net F S)} (h : PaymentsCovered w)
    {op : FlushOp F} {r : op.Ans} (hr : flushExec (mode3Medium wallets gatewayId) op w r w') :
    PaymentsCovered w' := by
  cases op with
  | pendingIntents | get =>
    obtain ⟨_, rfl⟩ := hr
    exact h
  | cachedPassphrase | isGatewayOnline | enter | leave =>
    obtain rfl := hr
    exact h
  | updateStatus | incrementAttempts =>
    obtain ⟨_, _, rfl⟩ := hr
    exact h
  | waitForResult =>
    obtain ⟨_, ⟨client, _, rfl⟩, rfl⟩ := hr
    exact h
  | dispatch dispatchedId request =>
    obtain ⟨answer, net, _, ⟨msgId, hmatch⟩, rfl⟩ := hr
    intro intentId
    have hle := h intentId
    have hsent : ({ w with
        net := net
        dispatched := w.dispatched ++ [(dispatchedId, answer)]
        call := w.call.map fun c => { c with answer := some answer } } :
          World F (Mode3Net F S)).sent intentId =
        w.sent intentId + if dispatchedId = intentId ∧ answer.isOk then 1 else 0 := by
      unfold World.sent
      rw [List.countP_append, List.countP_singleton]
      simp
    rw [hsent]
    split at hmatch
    · subst hmatch
      change w.net.paid.count intentId + w.net.inFlight intentId ≤ _
      omega
    · obtain ⟨_, rfl⟩ := hmatch
      change w.net.paid.count intentId + w.net.inFlight intentId ≤ _
      omega
    · next sent _ =>
      obtain ⟨rfl, rfl⟩ := hmatch
      have hflight : ({ w.net with uplink := w.net.uplink ++ [(dispatchedId, sent)] } :
          Mode3Net F S).inFlight intentId =
          w.net.inFlight intentId + if dispatchedId = intentId then 1 else 0 := by
        unfold Mode3Net.inFlight
        rw [List.countP_append, List.countP_singleton]
        simp
      change w.net.paid.count intentId + Mode3Net.inFlight _ intentId ≤ _
      rw [hflight]
      simp only [Except.isOk, Except.toBool, and_true]
      omega

/-- **In every state of a run, payments are covered by dispatches.**

**Proof sketch.** Induction on the run. A step of a flush keeps it (`of_exec`); what other programs
do to the queue pays nothing, and what else the network does pays no intent (`act_le`). -/
lemma run_paymentsCovered
    (hrun : (flushHost (mode3Medium wallets gatewayId)).IsRun IsFlush
      (World.empty (Mode3Net.new gateway)) run label) (k : ℕ) :
    PaymentsCovered (run k).state := by
  apply hrun.induction (J := fun p => PaymentsCovered p.state) (Nat.zero_le k)
  · rw [hrun.init]
    exact fun _ => le_rfl
  · intro n c₀ l c₁ _ _ _ _ hstep ih
    cases hstep with
    | start | finish => exact ih
    | own hr => exact ih.of_exec hr
    | others hs =>
      cases hs with
      | add | remove | clear | init => exact ih
      | background h =>
        obtain ⟨action, rfl⟩ := h
        intro intentId
        exact (Mode3Net.act_le _ action intentId).trans (ih intentId)
    | crash hs =>
      obtain ⟨rfl⟩ := hs
      exact ih

/-- **How often an intent is paid.** In every run, the gateway hands a transaction for an intent to
the RPC node at most as often as the intent was dispatched, which is at most the limit of its
attempts plus the number of crashes of the client.

**Proof sketch.** What is paid, and what is on its way to be paid, was sent (`run_paymentsCovered`),
and what was sent was dispatched, at most as often as there are attempts and crashes
(`dispatches_le`). -/
theorem payments_le
    (hrun : (flushHost (mode3Medium wallets gatewayId)).IsRun IsFlush
      (World.empty (Mode3Net.new gateway)) run label) (k : ℕ) {intentId : String} {c : Intent F}
    (hc : (run k).state.created intentId = some c) :
    (run k).state.net.paid.count intentId ≤ (run k).state.sent intentId ∧
      (run k).state.sent intentId ≤ c.maxAttempts + (run k).state.crashes := by
  have hcovered := run_paymentsCovered hrun k intentId
  have hsent := (run k).state.sent_le_dispatches intentId
  have hle := dispatches_le hrun k hc
  exact ⟨by omega, by omega⟩

end Run

/-! ## A sample run -/

/-- A dispatch from these wallets, with a message id that was not used before. -/
def sampleDispatch (intentId : String) (request : Dispatch ℤ)
    (n : Mode3Net ℤ sampleSolders) : Except Exn UInt16 × Mode3Net ℤ sampleSolders :=
  match request.request sampleWallets (some "!gw") (UInt16.ofNat (7 + n.paid.length)) with
  | none => (.ok 0, n)
  | some (.error e) => (.error e, n)
  | some (.ok sent) => (.ok sent.msgId, { n with uplink := n.uplink ++ [(intentId, sent)] })

/-- The world after a flush cycle in which the result does not arrive in time. -/
def sampleFlush (w : World ℤ (Mode3Net ℤ sampleSolders)) :
    World ℤ (Mode3Net ℤ sampleSolders) :=
  afterFlush sampleDispatch (fun _ n => (none, n)) w

/-- The world after the gateway received the request, with its reply still on its way. -/
def sampleArrival (w : World ℤ (Mode3Net ℤ sampleSolders)) :
    World ℤ (Mode3Net ℤ sampleSolders) :=
  { w with net := w.net.act (.handleRequest 0 sampleMoment "!client") }

/-- The medium of the sample run. -/
abbrev sampleMedium : Medium ℤ (Mode3Net ℤ sampleSolders) :=
  mode3Medium sampleWallets (some "!gw")

/-- The medium allows these dispatches. -/
lemma dispatch_sampleDispatch (intentId : String) (request : Dispatch ℤ)
    (n : Mode3Net ℤ sampleSolders) :
    sampleMedium.dispatch intentId request n (sampleDispatch intentId request n).1
      (sampleDispatch intentId request n).2 := by
  refine ⟨UInt16.ofNat (7 + n.paid.length), ?_⟩
  unfold sampleDispatch
  split
  · rfl
  · exact ⟨rfl, rfl⟩
  · exact ⟨rfl, rfl⟩

/-- Any number of times: the intent is sent, no result arrives in time, and the gateway executes
the request. -/
lemma steps_sampleFlush (n : ℕ) :
    ∃ ls, Host.Label.crash ∉ ls ∧ (flushHost sampleMedium).Steps IsFlush
      ⟨none, World.empty (Mode3Net.new sampleGateway)⟩ ls
      ⟨none, (sampleArrival ∘ sampleFlush)^[n] (sampleWorld (Mode3Net.new sampleGateway))⟩ := by
  induction n with
  | zero => exact ⟨[.others], by simp, steps_sampleWorld _ _⟩
  | succ n ih =>
    obtain ⟨ls, hls, hsteps⟩ := ih
    obtain ⟨ls', hls', hsteps'⟩ := steps_afterFlush (M := sampleMedium) sampleDispatch
      (fun _ n => (none, n)) dispatch_sampleDispatch (fun _ n => ⟨n.client, Or.inl ⟨rfl, rfl⟩, rfl⟩)
      ((sampleArrival ∘ sampleFlush)^[n] (sampleWorld (Mode3Net.new sampleGateway)))
    refine ⟨ls ++ ls' ++ [.others], by simp [hls, hls'], ?_⟩
    rw [Function.iterate_succ_apply']
    exact (hsteps.append hsteps').append (.cons (.others (.background ⟨_, rfl⟩)) (.nil _))

/-- **An intent can be paid twice**: the result of the first request arrives too late, the intent
is pending again, and the next flush cycle sends another request. -/
theorem not_payments_le_one :
    ∃ run label, (flushHost sampleMedium).IsRun IsFlush
        (World.empty (Mode3Net.new sampleGateway)) run label ∧ (∀ k, label k ≠ some .crash) ∧
      ∃ k, (run k).state.created "a" ≠ none ∧ 1 < (run k).state.net.paid.count "a" := by
  obtain ⟨ls, hls, hsteps⟩ := steps_sampleFlush 2
  obtain ⟨run, label, hrun, hend, hlabel⟩ := Host.exists_run hsteps
  refine ⟨run, label, hrun, fun k hk => ?_, ls.length, ?_, ?_⟩
  · rw [hlabel] at hk
    exact hls (List.mem_of_getElem? hk)
  · rw [hend]
    have hsome : (((sampleArrival ∘ sampleFlush)^[2]
        (sampleWorld (Mode3Net.new sampleGateway))).created "a").isSome = true := by
      decide +kernel
    exact Option.isSome_iff_ne_none.mp hsome
  · rw [hend]
    decide +kernel

/-- The bound at the sample run: two payments, of at most three. -/
theorem payments_le_twice :
    ∃ run label, (flushHost sampleMedium).IsRun IsFlush
        (World.empty (Mode3Net.new sampleGateway)) run label ∧
      ∃ k, (run k).state.net.paid.count "a" = 2 ∧
      (run k).state.net.paid.count "a" ≤ (run k).state.sent "a" ∧ (run k).state.sent "a" ≤ 3 := by
  obtain ⟨ls, _, hsteps⟩ := steps_sampleFlush 2
  obtain ⟨run, label, hrun, hend, _⟩ := Host.exists_run hsteps
  have hcreated : ((run ls.length).state.created "a").map Intent.maxAttempts = some 3 := by
    rw [hend]
    decide +kernel
  have hcrashes : (run ls.length).state.crashes = 0 := by
    rw [hend]
    decide +kernel
  obtain ⟨c, hc, hmax⟩ := Option.map_eq_some_iff.mp hcreated
  obtain ⟨hpaid, hsent⟩ := payments_le hrun ls.length hc
  refine ⟨run, label, hrun, ls.length, ?_, hpaid, by omega⟩
  rw [hend]
  decide +kernel

end SolMesh

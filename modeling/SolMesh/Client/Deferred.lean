import SolMesh.Foundations.Rational
import SolMesh.Store.Terms
import SolMesh.Client.Payments
import SolMesh.Client.Stranding

set_option relaxedAutoImplicit false
set_option autoImplicit false

/-!
# Deferred payments

A transfer can be sent at once, by one of four calls, or queued and flushed later. The calls and
`queue_intent` each have a default for the decimals of a token, and these differ.

## Main definitions

* `SolMesh.directCall` — the call that sends a transfer at once.
* `SolMesh.queueDeferred` — queueing it instead.
* `SolMesh.dispatchedIn` — the calls that a run of `flush_intent` makes.

## Main results

* `SolMesh.dispatchedIn_flushIntent` — a flush makes the one call for its intent.
* `SolMesh.deferred_payment_iff` — when the deferred payment is the direct one.
-/

namespace SolMesh

open Py Text Conc

variable {F : Type}

/-! ## Both ways -/

/-- The decimals of a token are left to their default by `none`: 6 in the calls that send a
transfer, 0 in `queue_intent`. -/
def callDecimals (tokenDecimals : Option ℕ) : ℕ := tokenDecimals.getD 6

def queueDecimals (tokenDecimals : Option ℕ) : ℕ := tokenDecimals.getD 0

/-- **The call that sends a transfer at once**, in Mode 3 or else in Mode 1. -/
def directCall (mode : ℕ) (walletName recipient : String) (amount : F)
    (tokenMint : Option String) (tokenDecimals : Option ℕ) (passphrase : Text) : Dispatch F :=
  match tokenMint with
  | some mintAddress =>
    if mode = 3 then .requestTokenTransfer walletName recipient mintAddress amount
      (callDecimals tokenDecimals) passphrase
    else .relaySignedTokenTx walletName recipient mintAddress amount (callDecimals tokenDecimals)
      passphrase
  | none =>
    if mode = 3 then .requestTransfer walletName recipient amount passphrase
    else .relaySignedTx walletName recipient amount passphrase

/-- Queue a transfer with the same arguments. -/
def queueDeferred {S : Solders} (getPubkey : String → Except Exn Pubkey) (wallets : WalletManager S)
    (id : String) (createdAt updatedAt : ℚ) (mode : ℕ) (walletName recipient : String) (amount : F)
    (tokenMint : Option String) (tokenDecimals : Option ℕ) (passphrase : Option Text) :
    Except Exn (Intent F) :=
  queueIntent getPubkey wallets id createdAt updatedAt mode walletName recipient amount tokenMint
    (queueDecimals tokenDecimals) passphrase

/-! ## What a flush dispatches -/

/-- The call that an operation makes, if it makes one. -/
def dispatchIn (e : (op : FlushOp F) × op.Ans) : Option (Dispatch F) :=
  match e.1 with
  | .dispatch _ request => some request
  | _ => none

/-- The calls made in a run. -/
def dispatchedIn (t : List ((op : FlushOp F) × op.Ans)) : List (Dispatch F) :=
  t.filterMap dispatchIn

section Run

variable {σ : Type} {exec : (op : FlushOp F) → σ → op.Ans → σ → Prop} {s s' : σ}
  {t : List ((op : FlushOp F) × op.Ans)}

/-- An operation that is no dispatch. -/
def FlushOp.Quiet (op : FlushOp F) : Prop := ∀ intentId request, op ≠ .dispatch intentId request

/-- A program that does not dispatch makes no call. -/
lemma dispatchedIn_of_quiet {α : Type} {p : Flush F α} {a : α} (h : p.Runs exec s t a s')
    (hp : p.Performs FlushOp.Quiet) : dispatchedIn t = [] := by
  refine List.filterMap_eq_nil_iff.mpr fun e he => ?_
  have hquiet := h.performs hp e he
  unfold dispatchIn
  split
  · next intentId request heq => exact absurd heq (hquiet intentId request)
  · rfl

/-- The operations after the dispatch are quiet. -/
lemma FlushOp.Settles.quiet {op : FlushOp F} {intentId : String} (h : op.Settles intentId) :
    op.Quiet := by
  rintro _ _ rfl
  exact h

/-- **A flush makes the one call for its intent**, whatever it is answered. -/
lemma dispatchedIn_flushIntent {intent : Intent F} {passphrase : Text} {call : Dispatch F}
    (hcall : dispatchOf intent passphrase = .ok call) {r : Except Exn TxOutcome}
    (h : (flushIntent intent passphrase).Runs exec s t r s') : dispatchedIn t = [call] := by
  unfold flushIntent at h
  obtain ⟨_, u, t₁, rfl, _, h⟩ := Prog.runs_perform_bind_iff.mp h
  obtain ⟨t₂, answer, v, t₃, rfl, hsend, hrest⟩ := Prog.runs_bind_iff.mp h
  unfold sendIntent at hsend
  rw [hcall] at hsend
  obtain ⟨rfl, _⟩ := Prog.runs_perform_iff.mp hsend
  have hafter : dispatchedIn t₃ = [] := by
    cases answer with
    | error e =>
      exact dispatchedIn_of_quiet hrest ((settles_sendFailed _ e).mono fun _ h => h.quiet)
    | ok msgId =>
      exact dispatchedIn_of_quiet hrest ((settles_awaitResult _ msgId).mono fun _ h => h.quiet)
  change call :: dispatchedIn t₃ = [call]
  rw [hafter]

end Run

/-! ## The call for a queued transfer -/

/-- The call for an intent depends on its terms only. -/
lemma dispatchOf_eq_of_terms {i j : Intent F} (h : i.terms = j.terms) (passphrase : Text) :
    dispatchOf i passphrase = dispatchOf j passphrase := by
  have hmode : i.mode = j.mode := congrArg Terms.mode h
  have hwallet : i.walletName = j.walletName := congrArg Terms.walletName h
  have hrecipient : i.recipient = j.recipient := congrArg Terms.recipient h
  have hamount : i.amount = j.amount := congrArg Terms.amount h
  have hmint : i.tokenMint = j.tokenMint := congrArg Terms.tokenMint h
  have hdecimals : i.tokenDecimals = j.tokenDecimals := congrArg Terms.tokenDecimals h
  unfold dispatchOf
  rw [hmode, hwallet, hrecipient, hamount, hmint, hdecimals]

section Queued

variable {S : Solders} {getPubkey : String → Except Exn Pubkey} {wallets : WalletManager S}
  {id : String} {createdAt updatedAt : ℚ} {mode : ℕ} {walletName recipient : String} {amount : F}
  {tokenMint : Option String} {tokenDecimals : Option ℕ} {queuePassphrase : Option Text}
  {intent : Intent F}

/-- **The call for a queued transfer**: the direct one with the default of the queue, but a mint
that is empty counts as none.

**Proof sketch.** The fields of the queued intent are the arguments of the call, so both choose by
the same mode and the same mint. -/
lemma dispatchOf_queueDeferred
    (h : queueDeferred getPubkey wallets id createdAt updatedAt mode walletName recipient amount
      tokenMint tokenDecimals queuePassphrase = .ok intent) (passphrase : Text) :
    dispatchOf intent passphrase = .ok (directCall mode walletName recipient amount
      (tokenMint.filter fun m => decide (m ≠ "")) (some (queueDecimals tokenDecimals))
      passphrase) := by
  unfold queueDeferred queueIntent at h
  split_ifs at h with hmode
  · cases h
  · obtain ⟨_, _, h⟩ := bind_eq_ok.mp h
    obtain ⟨_, _, h⟩ := bind_eq_ok.mp h
    cases h
    unfold dispatchOf directCall callDecimals
    dsimp only
    rw [Option.getD_some]
    by_cases hthree : mode = 3
    · rw [if_pos hthree]
      cases tokenMint.filter fun m => decide (m ≠ "") <;> simp only [if_pos hthree]
    · have hone : mode = 1 := by tauto
      rw [if_neg hthree, if_pos hone]
      cases tokenMint.filter fun m => decide (m ≠ "") <;> simp only [if_neg hthree]

end Queued

/-! ## The same payment -/

/-- The way a transfer is sent in a mode. -/
def operationOf (mode : ℕ) : Operation := if mode = 3 then .request else .relay

/-- The factor from the amount to base units. -/
def unitsOf (tokenMint : Option String) (decimals : ℕ) : ℤ :=
  match tokenMint with
  | some _ => 10 ^ decimals
  | none => lamportsPerSol

/-- The payment of a direct call, in exact arithmetic. -/
lemma payment_directCall (mode : ℕ) (walletName recipient : String) (amount : ℚ)
    (tokenMint : Option String) (tokenDecimals : Option ℕ) (passphrase : Text) :
    (directCall mode walletName recipient amount tokenMint tokenDecimals passphrase).payment =
      .ok ⟨operationOf mode, walletName, recipient, tokenMint,
        truncate (amount * unitsOf tokenMint (callDecimals tokenDecimals))⟩ := by
  unfold directCall operationOf
  cases tokenMint <;> dsimp only <;> split_ifs <;> rfl

section Payment

variable {S : Solders} {getPubkey : String → Except Exn Pubkey} {wallets : WalletManager S}
  {id : String} {createdAt updatedAt : ℚ} {mode : ℕ} {walletName recipient : String} {amount : ℚ}
  {tokenMint : Option String} {tokenDecimals : Option ℕ} {queuePassphrase : Option Text}
  {intent : Intent ℚ}

/-- The mint of a queued transfer is its own, unless it is empty. -/
lemma filter_mint_eq_iff :
    tokenMint.filter (fun m => decide (m ≠ "")) = tokenMint ↔ tokenMint ≠ some "" := by
  cases tokenMint with
  | none => simp
  | some m => by_cases h : m = "" <;> simp [h]

/-- **The two defaults for the decimals** give the same base units exactly for the amounts that are
truncated to zero. -/
lemma truncate_decimals_eq_iff :
    truncate (amount * ((10 ^ queueDecimals tokenDecimals : ℤ) : ℚ)) =
        truncate (amount * ((10 ^ callDecimals tokenDecimals : ℤ) : ℚ)) ↔
      tokenDecimals ≠ none ∨ |amount| < 1 / 10 ^ 6 := by
  cases tokenDecimals with
  | some decimals => exact iff_of_true rfl (Or.inl (Option.some_ne_none decimals))
  | none =>
    have hscale := truncate_mul_eq_iff (x := amount) (n := 10 ^ 6) (by norm_num)
    have habs : |amount * ((10 ^ 6 : ℕ) : ℚ)| < 1 ↔ |amount| < 1 / 10 ^ 6 := by
      rw [abs_mul, lt_div_iff₀ (by norm_num)]
      norm_num
    have hqueue : amount * ((10 ^ queueDecimals none : ℤ) : ℚ) = amount := by
      norm_num [queueDecimals]
    have hdirect : amount * ((10 ^ callDecimals none : ℤ) : ℚ) = amount * ((10 ^ 6 : ℕ) : ℚ) := by
      norm_num [callDecimals]
    rw [hqueue, hdirect, eq_comm, hscale, habs]
    simp

/-- **The one call of a deferred transfer**, some time after it was queued. -/
lemma dispatchedIn_deferred
    (hqueue : queueDeferred getPubkey wallets id createdAt updatedAt mode walletName recipient
      amount tokenMint tokenDecimals queuePassphrase = .ok intent)
    {queue : List (Intent ℚ)} (hsince : StoredSince intent queue) {j : Intent ℚ} (hj : j ∈ queue)
    (hid : j.id = intent.id) {σ : Type} {exec : (op : FlushOp ℚ) → σ → op.Ans → σ → Prop}
    {s s' : σ} {passphrase : Text} {t : List ((op : FlushOp ℚ) × op.Ans)}
    {r : Except Exn TxOutcome} (hrun : (flushIntent j passphrase).Runs exec s t r s') :
    dispatchedIn t = [directCall mode walletName recipient amount
      (tokenMint.filter fun m => decide (m ≠ "")) (some (queueDecimals tokenDecimals))
      passphrase] := by
  refine dispatchedIn_flushIntent ?_ hrun
  rw [dispatchOf_eq_of_terms (hsince.terms hj hid), dispatchOf_queueDeferred hqueue]

/-- **When deferred sending equals immediate sending.** A transfer is queued, and some time later a
flush finds it in the queue. Whatever the flush is answered, it makes one call; this call pays what
the direct call with the same arguments pays if and only if the mint is missing, or is not empty
and the decimals were given or the amount is below one millionth.

**Proof sketch.** The intent that is stored keeps its terms, so the one call that the flush makes
is that of these terms (`dispatchedIn_deferred`). Its payment differs from that of the direct call
in an empty mint, which is dropped, and in missing decimals, which the queue takes for zero and the
direct call for six. The two amounts differ then, unless both are truncated to zero
(`truncate_decimals_eq_iff`). -/
theorem deferred_payment_iff
    (hqueue : queueDeferred getPubkey wallets id createdAt updatedAt mode walletName recipient
      amount tokenMint tokenDecimals queuePassphrase = .ok intent)
    {queue : List (Intent ℚ)} (hsince : StoredSince intent queue) {j : Intent ℚ} (hj : j ∈ queue)
    (hid : j.id = intent.id) {σ : Type} {exec : (op : FlushOp ℚ) → σ → op.Ans → σ → Prop}
    {s s' : σ} {passphrase : Text} {t : List ((op : FlushOp ℚ) × op.Ans)}
    {r : Except Exn TxOutcome} (hrun : (flushIntent j passphrase).Runs exec s t r s') :
    (∃ call, dispatchedIn t = [call] ∧ call.payment =
      (directCall mode walletName recipient amount tokenMint tokenDecimals passphrase).payment) ↔
    tokenMint = none ∨
      (tokenMint ≠ some "" ∧ (tokenDecimals ≠ none ∨ |amount| < 1 / 10 ^ 6)) := by
  have hone : (∃ call, dispatchedIn t = [call] ∧ call.payment =
      (directCall mode walletName recipient amount tokenMint tokenDecimals passphrase).payment) ↔
        (directCall mode walletName recipient amount (tokenMint.filter fun m => decide (m ≠ ""))
          (some (queueDecimals tokenDecimals)) passphrase).payment =
        (directCall mode walletName recipient amount tokenMint tokenDecimals
          passphrase).payment := by
    rw [dispatchedIn_deferred hqueue hsince hj hid hrun]
    simp
  rw [hone, payment_directCall, payment_directCall, Except.ok.injEq, Payment.mk.injEq]
  simp only [true_and]
  rw [filter_mint_eq_iff]
  cases tokenMint with
  | none => simp [unitsOf]
  | some mintAddress =>
    rw [or_iff_right (Option.some_ne_none mintAddress)]
    refine and_congr_right fun hne => ?_
    -- the mint is not empty, so that both calls are for the token
    rw [filter_mint_eq_iff.mpr hne]
    exact truncate_decimals_eq_iff

end Payment

/-! ## Five USDC -/

/-- Five USDC for Bob, queued with these decimals. -/
def fiveUsdc (tokenDecimals : ℕ) : Intent ℚ where
  id := "a"
  mode := 3
  status := .pending
  createdAt := 0
  updatedAt := 0
  walletName := "alice"
  recipient := "bob"
  amount := 5
  tokenMint := some usdcMintDevnet
  tokenDecimals := tokenDecimals
  attempts := 0
  maxAttempts := 3
  lastError := none
  resultTxHash := none

/-- This is what `queue_intent` makes of it. -/
lemma queueDeferred_fiveUsdc (tokenDecimals : Option ℕ) :
    queueDeferred (fun _ => .ok sampleKey) sampleWallets "a" 0 0 3 "alice" "bob" 5
      (some usdcMintDevnet) tokenDecimals none = .ok (fiveUsdc (queueDecimals tokenDecimals)) := rfl

/-- A world in which this intent was just added to the queue. -/
def queuedWorld (intent : Intent ℚ) : World ℚ Unit :=
  { World.empty () with queue := (IntentStore.add intent).after [] }

/-- With the decimals given, both ways pay the same. -/
theorem deferred_payment_iff_five_usdc :
    ∃ t r w', (flushIntent (fiveUsdc 6) []).Runs (flushExec (told (.ok 7) none))
        (queuedWorld (fiveUsdc 6)) t r w' ∧
      ∃ call, dispatchedIn t = [call] ∧ call.payment =
        (directCall 3 "alice" "bob" (5 : ℚ) (some usdcMintDevnet) (some 6) []).payment := by
  obtain ⟨t, r, w', hrun⟩ := Prog.exists_runs (exists_flushExec (.ok 7) none)
    (flushIntent (fiveUsdc 6) []) (queuedWorld (fiveUsdc 6))
  have hsince : StoredSince (fiveUsdc 6) ((IntentStore.add (fiveUsdc 6)).after []) := .add rfl
  refine ⟨t, r, w', hrun, (deferred_payment_iff (queueDeferred_fiveUsdc (some 6)) hsince
    (j := fiveUsdc 6) (List.mem_singleton.mpr rfl) rfl hrun).mpr ?_⟩
  exact Or.inr ⟨by decide, Or.inl (by decide)⟩

/-- **With the decimals left to their defaults, five USDC become five base units**: the call that is
made for the queued transfer is not the direct one. -/
theorem not_deferred_payment : ¬ ∀ (mode : ℕ) (walletName recipient : String) (amount : ℚ)
    (tokenMint : Option String) (tokenDecimals : Option ℕ) (intent : Intent ℚ)
    (passphrase : Text) (t : List ((op : FlushOp ℚ) × op.Ans)) (r : Except Exn TxOutcome)
    (w' : World ℚ Unit),
    queueDeferred (fun _ => .ok sampleKey) sampleWallets "a" 0 0 mode walletName recipient amount
      tokenMint tokenDecimals none = .ok intent →
    (flushIntent intent passphrase).Runs (flushExec (told (.ok 7) none)) (queuedWorld intent) t r
      w' →
    ∃ call, dispatchedIn t = [call] ∧ call.payment =
      (directCall mode walletName recipient amount tokenMint tokenDecimals passphrase).payment := by
  intro hall
  obtain ⟨t, r, w', hrun⟩ := Prog.exists_runs (exists_flushExec (.ok 7) none)
    (flushIntent (fiveUsdc 0) []) (queuedWorld (fiveUsdc 0))
  obtain ⟨call, hcall, hpayment⟩ := hall 3 "alice" "bob" 5 (some usdcMintDevnet) none (fiveUsdc 0)
    [] t r w' (queueDeferred_fiveUsdc none) hrun
  have hsince : StoredSince (fiveUsdc 0) ((IntentStore.add (fiveUsdc 0)).after []) := .add rfl
  rw [dispatchedIn_deferred (queueDeferred_fiveUsdc none) hsince (List.mem_singleton.mpr rfl) rfl
    hrun] at hcall
  obtain rfl := List.singleton_inj.mp hcall
  rw [filter_mint_eq_iff.mpr (by decide), payment_directCall, payment_directCall] at hpayment
  -- 5 base units are not 5000000
  have hunits := congrArg Payment.baseUnits (Except.ok.inj hpayment)
  norm_num [unitsOf, callDecimals, queueDecimals, truncate] at hunits

end SolMesh

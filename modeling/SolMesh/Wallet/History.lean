import SolMesh.Foundations.Runs
import SolMesh.Wallet.Manager

set_option relaxedAutoImplicit false
set_option autoImplicit false

/-!
# The history of a wallet directory

A call to the wallet manager raises and leaves the directory as it is, or makes a wallet that was
not there, or deletes one that was. So a wallet that exists has lain untouched since the call that
made it, and it still opens with the passphrase of that call, to the keypair of that call, and with
nothing else.

## Main definitions

* `SolMesh.WalletCall` — the calls that change the directory.
* `SolMesh.WalletCall.creation` — the keypair and the passphrase of a call that makes a wallet.
* `SolMesh.dirAfter` — the directory after a sequence of calls.

## Main results

* `SolMesh.WalletCall.method_cases` — all that a call can do.
* `SolMesh.exists_creation` — the call that made a wallet.
* `SolMesh.wallet_directory` — failed calls, names, no overwriting, and what a wallet opens to.
-/

namespace SolMesh

open Py Text

/-! ## Calls -/

/-- The calls that change the directory, with what is drawn at random in them. -/
inductive WalletCall (S : Solders)
  | createWallet (name : WalletName) (passphrase : Text) (kp : S.Keypair) (draws : Draws)
  | createWalletWithMnemonic (name : WalletName) (passphrase mnemonicPhrase : Text) (draws : Draws)
  | recoverWallet (name : WalletName) (mnemonicPhrase passphrase : Text) (draws : Draws)
  | importWallet (name : WalletName) (secretKey : Bytes) (passphrase : Text) (draws : Draws)
  | deleteWallet (name : WalletName)

variable {S : Solders} (C : Cryptography S)

namespace WalletCall

/-- The wallet the call is about. -/
def name : WalletCall S → WalletName
  | createWallet name _ _ _ => name
  | createWalletWithMnemonic name _ _ _ => name
  | recoverWallet name _ _ _ => name
  | importWallet name _ _ _ => name
  | deleteWallet name => name

/-- The method that is called. -/
def method : WalletCall S → Method WalletDir Unit
  | createWallet name passphrase kp draws => do
    let _ ← SolMesh.createWallet C name passphrase kp draws
  | createWalletWithMnemonic name passphrase mnemonicPhrase draws => do
    let _ ← SolMesh.createWalletWithMnemonic C name passphrase mnemonicPhrase draws
  | recoverWallet name mnemonicPhrase passphrase draws => do
    let _ ← SolMesh.recoverWallet C name mnemonicPhrase passphrase draws
  | importWallet name secretKey passphrase draws => do
    let _ ← SolMesh.importWallet C name secretKey passphrase draws
  | deleteWallet name => SolMesh.deleteWallet name

/-- Where the keypair of a new wallet comes from, and its passphrase. -/
def creation : WalletCall S → Option (Except Exn S.Keypair × Text)
  | createWallet _ passphrase kp _ => some (.ok kp, passphrase)
  | createWalletWithMnemonic _ passphrase mnemonicPhrase _ =>
    some (deriveSolanaKeypairFromMnemonic C mnemonicPhrase [], passphrase)
  | recoverWallet _ mnemonicPhrase passphrase _ =>
    some (deriveSolanaKeypairFromMnemonic C mnemonicPhrase [], passphrase)
  | importWallet _ secretKey passphrase _ => some (C.keypairFromBytes secretKey, passphrase)
  | deleteWallet _ => none

/-- **All that a call can do**: raise and change nothing, write a wallet that was not there, or
remove one that was.

**Proof sketch.** A call that makes a wallet raises or writes a new file (`makesWallet_addWallet`),
and what the four methods do with the result changes nothing (`MakesWallet.bind_pure`). A deletion
raises or removes the file (`deleteWallet_cases`). -/
lemma method_cases (call : WalletCall S) (d : WalletDir) :
    (∃ e, (call.method C).run d = .error e d) ∨
      (∃ kp passphrase draws, call.creation C = some (.ok kp, passphrase) ∧
        IsEncodable passphrase ∧ d.get? (walletPath call.name) = none ∧
        (call.method C).run d =
          .ok () (d.set (walletPath call.name) (walletFile C kp passphrase draws))) ∨
      call = .deleteWallet call.name ∧
        (∃ content, d.get? (walletPath call.name) = some content) ∧
        (call.method C).run d = .ok () (d.erase (walletPath call.name)) := by
  have hmakes : ∀ {keypair : Except Exn S.Keypair} {passphrase : Text} {draws : Draws},
      call.creation C = some (keypair, passphrase) →
      MakesWallet C call.name keypair passphrase draws (call.method C) d →
      (∃ e, (call.method C).run d = .error e d) ∨
        ∃ kp passphrase draws, call.creation C = some (.ok kp, passphrase) ∧
          IsEncodable passphrase ∧ d.get? (walletPath call.name) = none ∧
          (call.method C).run d =
            .ok () (d.set (walletPath call.name) (walletFile C kp passphrase draws)) := by
    intro keypair passphrase draws hcreation hmethod
    rcases hmethod with hraises | ⟨kp, a, rfl, -, henc, hnew, hrun⟩
    · exact Or.inl hraises
    · exact Or.inr ⟨kp, passphrase, draws, hcreation, henc, hnew, hrun⟩
  cases call with
  | deleteWallet name =>
    rcases deleteWallet_cases name d with hraises | ⟨hold, hrun⟩
    · exact Or.inl hraises
    · exact Or.inr (Or.inr ⟨rfl, hold, hrun⟩)
  | createWallet name passphrase kp draws =>
    have hadd := (makesWallet_addWallet (C := C) name (.ok kp) passphrase draws d).bind_pure
      S.pubkey
    exact (hmakes rfl (hadd.bind_pure fun _ => ())).imp_right Or.inl
  | createWalletWithMnemonic name passphrase mnemonicPhrase draws =>
    have hadd := (makesWallet_addWallet (C := C) name
      (deriveSolanaKeypairFromMnemonic C mnemonicPhrase []) passphrase draws d).bind_pure
        fun kp => (S.pubkey kp, mnemonicPhrase)
    exact (hmakes rfl (hadd.bind_pure fun _ => ())).imp_right Or.inl
  | recoverWallet name mnemonicPhrase passphrase draws =>
    have hadd := (makesWallet_addWallet (C := C) name
      (deriveSolanaKeypairFromMnemonic C mnemonicPhrase []) passphrase draws d).bind_pure S.pubkey
    exact (hmakes rfl (hadd.bind_pure fun _ => ())).imp_right Or.inl
  | importWallet name secretKey passphrase draws =>
    have hadd := (makesWallet_addWallet (C := C) name (C.keypairFromBytes secretKey) passphrase
      draws d).bind_pure S.pubkey
    exact (hmakes rfl (hadd.bind_pure fun _ => ())).imp_right Or.inl

/-- A call that raises leaves the directory as it is. -/
lemma eq_of_error {call : WalletCall S} {d d' : WalletDir} {e : Exn}
    (h : (call.method C).run d = .error e d') : d' = d := by
  rcases call.method_cases C d with ⟨e', hrun⟩ | ⟨_, _, _, _, _, _, hrun⟩ | ⟨_, _, hrun⟩
  · rw [hrun] at h
    cases h
    rfl
  · rw [hrun] at h
    cases h
  · rw [hrun] at h
    cases h

end WalletCall

/-! ## Runs -/

/-- The directory after a sequence of calls. -/
def dirAfter (calls : List (WalletCall S)) : WalletDir :=
  calls.foldl (fun d call => stateAfter (call.method C) d) ∅

variable {C}

/-- The directory after one more call. -/
lemma dirAfter_append_singleton (calls : List (WalletCall S)) (call : WalletCall S) :
    dirAfter C (calls ++ [call]) = stateAfter (call.method C) (dirAfter C calls) := by
  rw [dirAfter, List.foldl_append]
  rfl

/-- A call changes the file of its own wallet only. -/
lemma get?_stateAfter_of_ne (call : WalletCall S) (d : WalletDir) {path : Text}
    (h : path ≠ walletPath call.name) :
    (stateAfter (call.method C) d).get? path = d.get? path := by
  rcases call.method_cases C d with ⟨e, hrun⟩ | ⟨_, _, _, _, _, _, hrun⟩ | ⟨_, _, hrun⟩
  · rw [stateAfter_of_error hrun]
  · rw [stateAfter_of_ok hrun, Dict.get?_set_of_ne _ h]
  · rw [stateAfter_of_ok hrun, Dict.get?_erase_of_ne _ h]

/-- **The call that puts a file there** makes a wallet. -/
lemma creation_of_get?_stateAfter {call : WalletCall S} {d : WalletDir} {path : Text}
    {content : Json} (hbefore : d.get? path ≠ some content)
    (hafter : (stateAfter (call.method C) d).get? path = some content) :
    path = walletPath call.name ∧ (call.method C).run d = .ok () (stateAfter (call.method C) d) ∧
      ∃ kp passphrase draws, call.creation C = some (.ok kp, passphrase) ∧
        IsEncodable passphrase ∧ content = walletFile C kp passphrase draws := by
  have hpath : path = walletPath call.name := by
    by_contra hne
    rw [get?_stateAfter_of_ne call d hne] at hafter
    exact hbefore hafter
  subst hpath
  rcases call.method_cases C d with ⟨e, hrun⟩ | ⟨kp, passphrase, draws, hcreation, henc, _, hrun⟩ |
    ⟨_, _, hrun⟩
  · rw [stateAfter_of_error hrun] at hafter
    exact absurd hafter hbefore
  · rw [stateAfter_of_ok hrun] at hafter ⊢
    rw [Dict.get?_set_self] at hafter
    exact ⟨rfl, hrun, kp, passphrase, draws, hcreation, henc, (Option.some.inj hafter).symm⟩
  · rw [stateAfter_of_ok hrun, Dict.get?_erase_self] at hafter
    cases hafter

/-- **A call that leaves the file of its own wallet there** has raised. -/
lemma error_of_get?_stateAfter {call : WalletCall S} {d : WalletDir} {content content' : Json}
    (hbefore : d.get? (walletPath call.name) = some content)
    (hafter : (stateAfter (call.method C) d).get? (walletPath call.name) = some content') :
    ∃ e, (call.method C).run d = .error e d := by
  rcases call.method_cases C d with hraises | ⟨_, _, _, _, _, hnew, _⟩ | ⟨_, _, hrun⟩
  · exact hraises
  · rw [hnew] at hbefore
    cases hbefore
  · rw [stateAfter_of_ok hrun, Dict.get?_erase_self] at hafter
    cases hafter

/-- **A file that is there** stays as it is, or it is deleted. -/
lemma stays_or_deleted (call : WalletCall S) {d : WalletDir} {name : WalletName} {content : Json}
    (h : d.get? (walletPath name) = some content) :
    (stateAfter (call.method C) d).get? (walletPath name) = some content ∨
      call = .deleteWallet name ∧
        (stateAfter (call.method C) d).get? (walletPath name) = none := by
  by_cases hname : name = call.name
  · subst hname
    rcases call.method_cases C d with ⟨e, hrun⟩ | ⟨_, _, _, _, _, hnew, _⟩ | ⟨hdelete, _, hrun⟩
    · left
      rw [stateAfter_of_error hrun]
      exact h
    · rw [hnew] at h
      cases h
    · right
      rw [stateAfter_of_ok hrun]
      exact ⟨hdelete, Dict.get?_erase_self _ _⟩
  · left
    rw [get?_stateAfter_of_ne call d (walletPath_injective.ne hname)]
    exact h

/-- The wallet was made by this call, between these, and every later call about it raised. -/
structure MadeBy (C : Cryptography S) (calls : List (WalletCall S)) (name : WalletName)
    (pre : List (WalletCall S)) (call : WalletCall S) (post : List (WalletCall S)) : Prop where
  split : calls = pre ++ call :: post
  name_eq : call.name = name
  returned : (call.method C).run (dirAfter C pre) = .ok () (dirAfter C (pre ++ [call]))
  later : ∀ mid c, mid ++ [c] <+: post → c.name = name →
    ∃ e, (c.method C).run (dirAfter C (pre ++ call :: mid)) =
      .error e (dirAfter C (pre ++ call :: mid))

/-- **A wallet that exists was made by a call**, which determines what its file holds.

**Proof sketch.** The file holds what it holds since some call. This call made the wallet, and no
later one about it can have returned: it would have needed a wallet that is not there, or taken it
away. -/
lemma exists_creation {calls : List (WalletCall S)} {name : WalletName} {content : Json}
    (h : (dirAfter C calls).get? (walletPath name) = some content) :
    ∃ pre call post kp passphrase draws, MadeBy C calls name pre call post ∧
      call.creation C = some (.ok kp, passphrase) ∧ IsEncodable passphrase ∧
      content = walletFile C kp passphrase draws := by
  obtain ⟨pre, call, post, hsplit, hpre, hpost⟩ := Conc.exists_since
    (P := fun d : WalletDir => d.get? (walletPath name) = some content) (by simp) h
  have hstep := hpost [] List.nil_prefix
  rw [List.foldl_append] at hstep
  obtain ⟨hpath, hreturned, kp, passphrase, draws, hcreation, henc, hcontent⟩ :=
    creation_of_get?_stateAfter hpre hstep
  have hname : name = call.name := walletPath_injective hpath
  subst hname
  refine ⟨pre, call, post, kp, passphrase, draws, ⟨hsplit, rfl, ?_, ?_⟩, hcreation, henc, hcontent⟩
  · rw [dirAfter_append_singleton]
    exact hreturned
  · intro mid c hmid hc
    have hbefore := hpost mid ((List.prefix_append mid [c]).trans hmid)
    have hafter := hpost (mid ++ [c]) hmid
    rw [← List.cons_append, ← List.append_assoc, List.foldl_append] at hafter
    rw [← hc] at hbefore hafter
    exact error_of_get?_stateAfter hbefore hafter

/-- **What holds of the wallet directory**, after every sequence of calls. A call that raises leaves
the directory as it is. A call changes no file but that of its wallet. A file that exists is not
overwritten: it stays, or it is deleted. And a wallet that exists opens with the passphrase of the
call that made it, to the keypair of that call, with no other passphrase, and shows the public key
of this keypair.

**Proof sketch.** The first three parts hold of each call. For the last one, a file that exists was
written by a call that created it and was not deleted since (`exists_creation`); it opens with the
passphrase of this call, and with no other, because decryption undoes encryption and fails with
another key. -/
theorem wallet_directory (hlaw : C.Lawful) (calls : List (WalletCall S)) :
    (∀ call : WalletCall S, ∀ e d, (call.method C).run (dirAfter C calls) = .error e d →
      d = dirAfter C calls) ∧
    (∀ call : WalletCall S, ∀ path, path ≠ walletPath call.name →
      (dirAfter C (calls ++ [call])).get? path = (dirAfter C calls).get? path) ∧
    (∀ call : WalletCall S, ∀ name content,
      (dirAfter C calls).get? (walletPath name) = some content →
        (dirAfter C (calls ++ [call])).get? (walletPath name) = some content ∨
          call = .deleteWallet name ∧
            (dirAfter C (calls ++ [call])).get? (walletPath name) = none) ∧
    ∀ name, (dirAfter C calls).contains (walletPath name) = true →
      ∃ pre call post kp passphrase, MadeBy C calls name pre call post ∧
        call.creation C = some (.ok kp, passphrase) ∧
        loadKeypair C (dirAfter C calls) name passphrase = .ok kp ∧
        (∀ other, other ≠ passphrase →
          ∃ e, loadKeypair C (dirAfter C calls) name other = .error e) ∧
        getPubkey S (dirAfter C calls) name = .ok (S.pubkey kp) := by
  refine ⟨fun call e d hraises => ?_, fun call path hpath => ?_, fun call name content hold => ?_,
    fun name hexists => ?_⟩
  · exact WalletCall.eq_of_error C hraises
  · rw [dirAfter_append_singleton]
    exact get?_stateAfter_of_ne call _ hpath
  · rw [dirAfter_append_singleton]
    exact stays_or_deleted call hold
  · obtain ⟨content, hfile⟩ := Option.isSome_iff_exists.mp hexists
    obtain ⟨pre, call, post, kp, passphrase, draws, hmade, hcreation, henc, rfl⟩ :=
      exists_creation hfile
    exact ⟨pre, call, post, kp, passphrase, hmade, hcreation,
      loadKeypair_walletFile hlaw henc hfile,
      fun other hne => loadKeypair_walletFile_of_ne hlaw henc hfile hne,
      getPubkey_walletFile hlaw hfile⟩

/-- A wallet that is created and then imported once more, which raises: the wallet is the one that
was created. -/
theorem wallet_directory_import_refused :
    let name : WalletName := ⟨ofString "a", by decide⟩
    let draws : Draws := ⟨List.replicate 16 0, List.replicate 12 0, rfl, rfl⟩
    let calls : List (WalletCall hexSolders) :=
      [.createWallet name (ofString "first") sampleKey draws,
        .importWallet name (List.replicate 64 1) (ofString "second") draws]
    ∃ pre call post kp passphrase, MadeBy sampleCryptography calls name pre call post ∧
      call.creation sampleCryptography = some (.ok kp, passphrase) ∧
      loadKeypair sampleCryptography (dirAfter sampleCryptography calls) name passphrase =
        .ok kp := by
  intro name draws calls
  have hexists : (dirAfter sampleCryptography calls).contains (walletPath name) = true := by
    decide +kernel
  obtain ⟨pre, call, post, kp, passphrase, hmade, hcreation, hload, -⟩ :=
    (wallet_directory sampleCryptography_lawful calls).2.2.2 name hexists
  exact ⟨pre, call, post, kp, passphrase, hmade, hcreation, hload⟩

end SolMesh

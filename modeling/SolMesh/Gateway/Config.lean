import Mathlib.Data.Rat.Defs
import SolMesh.Constants
import SolMesh.Foundations.Python

set_option relaxedAutoImplicit false
set_option autoImplicit false

/-!
# The configuration of a gateway

The part of the configuration the request handlers read, and the whole of it. Limits are numbers
of an arbitrary numeric type, as people write them in the configuration file.

## Main definitions

* `SolMesh.GatewayConfig` — allowed requesters and transfer limits.
* `SolMesh.ServiceConfig` — everything that is configured about a gateway.
* `SolMesh.GatewayConfig.getMaxTransferToken` — the limit that applies to a token.
-/

namespace SolMesh

/-- Who may request transfers, and how much; `F` is the type of the numbers in the file. -/
structure GatewayConfig (F : Type) where
  allowedRequesters : List String
  maxTransferSol : F
  maxTransferUsdc : F
  tokenLimits : Dict String F

namespace GatewayConfig

variable {F : Type}

/-- The maximal amount of a token, `none` if the token has no limit. -/
def getMaxTransferToken (config : GatewayConfig F) (mintAddress : String) : Option F :=
  if config.tokenLimits.contains mintAddress then config.tokenLimits.get? mintAddress
  else if mintAddress = usdcMintMainnet ∨ mintAddress = usdcMintDevnet then
    some config.maxTransferUsdc
  else none

end GatewayConfig

/-- The whole configuration of a gateway; an empty name or key counts as none, and so does port
zero. -/
structure ServiceConfig (F : Type) where
  hotWallet : Option String
  limits : GatewayConfig F
  maxRequestsPerMinute : ℚ
  rateLimitBurst : ℤ
  beaconInterval : ℤ
  httpPort : Option ℤ
  apiKey : Option String

namespace ServiceConfig

variable {F : Type}

/-- The key of the HTTP callers, if there is one. -/
def key (config : ServiceConfig F) : Option String :=
  config.apiKey.filter fun key => decide (key ≠ "")

/-- Is HTTP served? -/
def servesHttp (config : ServiceConfig F) : Bool :=
  (config.httpPort.filter fun port => decide (port ≠ 0)).isSome

end ServiceConfig

end SolMesh

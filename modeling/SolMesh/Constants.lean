import Mathlib.Data.Rat.Defs
import SolMesh.Foundations.Dict
import SolMesh.Foundations.Bytes

set_option relaxedAutoImplicit false
set_option autoImplicit false

/-!
# Shared constants of the protocol

The constants of `constants.py` that the modelled functions read. Message types and error codes
are bytes, times are in seconds.
-/

namespace SolMesh

/-! ## Protocol -/

/-- `"SM"`. -/
def magic : Bytes := [0x53, 0x4d]

def protocolVersion : ℕ := 1

/-- magic(2) version(1) type(1) id(2) chunk(1) total(1) len(1) crc(1). -/
def headerSize : ℕ := 10

/-! ## LoRa payload limits -/

/-- The conservative limit on a frame. -/
def safeLoraPayload : ℕ := 220

/-- The bytes of data in one chunk. -/
def maxChunkData : ℕ := safeLoraPayload - headerSize

/-- A chunk holds 210 bytes. -/
@[simp] lemma maxChunkData_eq : maxChunkData = 210 := rfl

/-! ## Timeouts and retries -/

def chunkReassemblyTimeout : ℕ := 120

def ackTimeout : ℚ := 30

def maxRetries : ℕ := 3

def retryDelay : ℚ := 10

/-- The time between two chunks of a message. -/
def interChunkDelay : ℚ := 2

/-- The end-to-end send attempts of a queued intent. -/
def maxFlushAttempts : ℕ := 3

/-! ## Solana -/

def lamportsPerSol : ℤ := 1000000000

def usdcMintMainnet : String := "EPjFWdd5AufqSSqeM2qN1xzybapC8G4wEGGkZwyTDt1v"

def usdcMintDevnet : String := "4zMMC9srt5Ri5X14GAgXhaHii3GnPAEERYPJgZJDncDU"

def usdcDecimals : ℕ := 6

def fxnMintMainnet : String := "92cRC6kV5D7TiHX1j56AbkPbffo9jwcXxSDQZ8Mopump"

def fxnDecimals : ℕ := 6

/-- The token registry: mint address to symbol and decimals. -/
def knownTokens : Dict String (String × ℕ) :=
  Dict.ofList [(usdcMintMainnet, ("USDC", 6)), (usdcMintDevnet, ("USDC", 6)),
    (fxnMintMainnet, ("FXN", 6))]

/-! ## Message types -/

namespace MsgType

/-- A chunk of a serialized signed transaction. -/
def txChunk : UInt8 := 0x01

/-- A request to create and send a transfer. -/
def txRequest : UInt8 := 0x02

/-- A shared Solana address. -/
def addrShare : UInt8 := 0x03

def ack : UInt8 := 0x10

def nack : UInt8 := 0x11

def balanceReq : UInt8 := 0x20

def balanceResp : UInt8 := 0x21

def blockhashReq : UInt8 := 0x22

def blockhashResp : UInt8 := 0x23

/-- A transaction result: signature or error. -/
def txResult : UInt8 := 0x30

def gatewayBeacon : UInt8 := 0x40

end MsgType

/-! ## Error codes of NACK messages -/

namespace ErrorCode

def invalidTx : UInt8 := 0x03

def rpcError : UInt8 := 0x04

def unauthorized : UInt8 := 0x05

def amountExceeded : UInt8 := 0x06

def rateLimited : UInt8 := 0x08

def unsupportedToken : UInt8 := 0x09

end ErrorCode

end SolMesh

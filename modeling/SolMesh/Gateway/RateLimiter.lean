import Mathlib.Data.Rat.Defs
import Mathlib.Algebra.Order.Ring.Rat
import SolMesh.Foundations.Dict

set_option relaxedAutoImplicit false
set_option autoImplicit false

/-!
# Token buckets

The gateway admits requests of a mesh node as long as the node's bucket holds a token. Buckets
are refilled with time, up to their size. Tokens and clock readings are rational numbers.

## Main definitions

* `SolMesh.TokenBucket.consume` — refill, then take a token if there is one.
* `SolMesh.RateLimiter.isAllowed` — the same for the bucket of a sender, created when missing.
* `SolMesh.RateLimiter.cleanupStale` — buckets that were not used for long are removed.
* `SolMesh.RateLimiter.decisions` — the decisions in a run of calls.
-/

namespace SolMesh

/-- The bucket of one sender. -/
structure TokenBucket where
  maxTokens : ℤ
  refillRate : ℚ
  tokens : ℚ
  lastRefill : ℚ

namespace TokenBucket

/-- A new bucket is full. -/
def new (maxTokens : ℤ) (refillRate now : ℚ) : TokenBucket :=
  ⟨maxTokens, refillRate, maxTokens, now⟩

/-- Try to consume one token at time `now`. -/
def consume (b : TokenBucket) (now : ℚ) : Bool × TokenBucket :=
  let elapsed := now - b.lastRefill
  let tokens := min (b.maxTokens : ℚ) (b.tokens + elapsed * b.refillRate)
  if tokens ≥ 1 then (true, { b with tokens := tokens - 1, lastRefill := now })
  else (false, { b with tokens := tokens, lastRefill := now })

end TokenBucket

/-- One bucket for each sender seen so far. -/
structure RateLimiter where
  burst : ℤ
  refillRate : ℚ
  buckets : Dict String TokenBucket

namespace RateLimiter

/-- The limiter of a gateway that has seen nobody. -/
def new (maxPerMinute : ℚ) (burst : ℤ) : RateLimiter := ⟨burst, maxPerMinute / 60, ∅⟩

/-- Is a request of the sender allowed? The clock is read once when a bucket has to be created
and once when the token is taken. -/
def isAllowed (l : RateLimiter) (senderId : String) (creation now : ℚ) : Bool × RateLimiter :=
  let bucket := (l.buckets.get? senderId).getD (TokenBucket.new l.burst l.refillRate creation)
  let (allowed, bucket) := bucket.consume now
  (allowed, { l with buckets := l.buckets.set senderId bucket })

/-- Remove the buckets not used for `maxAge` seconds. How many? -/
def cleanupStale (l : RateLimiter) (maxAge now : ℚ) : ℕ × RateLimiter :=
  let stale := (l.buckets.filter fun _ bucket => decide (now - bucket.lastRefill > maxAge)).keys
  (stale.length, { l with buckets := stale.foldl Dict.erase l.buckets })

/-- The decision about one sender leaves the buckets of the others alone. -/
lemma get?_isAllowed_of_ne (l : RateLimiter) {senderId other : String} (creation now : ℚ)
    (h : other ≠ senderId) :
    (l.isAllowed senderId creation now).2.buckets.get? other = l.buckets.get? other :=
  Dict.get?_set_of_ne _ h _

/-- A decision about a sender is made by its bucket, which is new if there was none. -/
lemma isAllowed_eq (l : RateLimiter) (senderId : String) (creation now : ℚ) :
    let bucket := (l.buckets.get? senderId).getD (TokenBucket.new l.burst l.refillRate creation)
    (l.isAllowed senderId creation now).1 = (bucket.consume now).1 ∧
      (l.isAllowed senderId creation now).2.buckets.get? senderId = some (bucket.consume now).2 :=
  ⟨rfl, Dict.get?_set_self _ _ _⟩

/-- A cleanup keeps exactly the buckets that are not stale. -/
lemma get?_cleanupStale (l : RateLimiter) (maxAge now : ℚ) (senderId : String) :
    (l.cleanupStale maxAge now).2.buckets.get? senderId =
      (l.buckets.get? senderId).filter fun b => !decide (now - b.lastRefill > maxAge) :=
  Dict.get?_foldl_erase_filter _ _ _

end RateLimiter

/-! ## Runs of calls -/

/-- A call of `is_allowed` with its clock readings. -/
structure AllowCall where
  senderId : String
  creation : ℚ
  now : ℚ
  deriving DecidableEq

/-- A call to the limiter. -/
inductive LimiterCall
  | isAllowed (call : AllowCall)
  | cleanupStale (maxAge now : ℚ)

namespace LimiterCall

/-- The first clock reading of the call. -/
def begins : LimiterCall → ℚ
  | isAllowed call => call.creation
  | cleanupStale _ now => now

/-- The last clock reading of the call. -/
def ends : LimiterCall → ℚ
  | isAllowed call => call.now
  | cleanupStale _ now => now

end LimiterCall

/-- The clock readings of the calls are non-decreasing. -/
structure InOrder (calls : List LimiterCall) : Prop where
  within : ∀ c ∈ calls, c.begins ≤ c.ends
  between : calls.Pairwise fun c d => c.ends ≤ d.begins

namespace RateLimiter

/-- The limiter after a call. -/
def call (l : RateLimiter) : LimiterCall → RateLimiter
  | .isAllowed c => (l.isAllowed c.senderId c.creation c.now).2
  | .cleanupStale maxAge now => (l.cleanupStale maxAge now).2

/-- The limiter after a run of calls. -/
def after (l : RateLimiter) (calls : List LimiterCall) : RateLimiter := calls.foldl call l

/-- The decisions in a run of calls. -/
def decisions (l : RateLimiter) : List LimiterCall → List (AllowCall × Bool)
  | [] => []
  | .isAllowed c :: calls => (c, (l.isAllowed c.senderId c.creation c.now).1) ::
      (l.call (.isAllowed c)).decisions calls
  | .cleanupStale maxAge now :: calls => (l.call (.cleanupStale maxAge now)).decisions calls

end RateLimiter

end SolMesh

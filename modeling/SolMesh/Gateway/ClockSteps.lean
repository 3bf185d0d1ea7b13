import SolMesh.Foundations.Runs
import SolMesh.Gateway.TokenBucket

set_option relaxedAutoImplicit false
set_option autoImplicit false

/-!
# The rate limiter when the clock is set back

A refill adds what the time since the last call earns, cut off at the size of the bucket. The time
is a difference of two readings of the wall clock, and when the clock was set back in between it
is negative: the refill then takes tokens away, and nothing cuts it off below. A bucket stays
within its bounds as long as no call finds the clock set back by more time than its tokens are
worth.

## Main definitions

* `SolMesh.TokenBucket.Bounded` — the tokens are within bounds, and a sender that waits is served.
* `SolMesh.TokenBucket.Affords` — the tokens are worth the time by which the clock was set back.

## Main results

* `SolMesh.TokenBucket.bounded_consume_iff` — what one call does to the bounds.
* `SolMesh.RateLimiter.bounded_call_iff` — the same for all buckets of a limiter.
* `SolMesh.bounded_iff_affords` — the bounds hold in exactly the runs whose calls are afforded.
-/

namespace SolMesh

/-! ## One bucket -/

namespace TokenBucket

/-- The bucket holds no less than nothing and no more than it has room for, and from the time that
earns a token on a call is allowed. -/
structure Bounded (burst : ℤ) (rate : ℚ) (b : TokenBucket) : Prop where
  nonneg : 0 ≤ b.tokens
  le : b.tokens ≤ burst
  allowed : 1 ≤ burst → 0 < rate → ∀ now, 1 / rate ≤ now - b.lastRefill →
    (b.consume now).1 = true

/-- The bucket holds the tokens that are earned in the time by which the clock was set back. -/
def Affords (b : TokenBucket) (now : ℚ) : Prop := (b.lastRefill - now) * b.refillRate ≤ b.tokens

/-- The bucket after calls at these clock readings. -/
def after (b : TokenBucket) (readings : List ℚ) : TokenBucket :=
  readings.foldl (fun b now => (b.consume now).2) b

/-- The bucket has this size and rate. -/
def Sized (burst : ℤ) (rate : ℚ) (b : TokenBucket) : Prop :=
  b.maxTokens = burst ∧ b.refillRate = rate

variable {burst : ℤ} {rate now : ℚ} {b : TokenBucket}

/-- A call changes neither the size nor the rate. -/
lemma Sized.consume (h : b.Sized burst rate) (now : ℚ) : (b.consume now).2.Sized burst rate := by
  rw [consume_eq]
  exact h

/-- A bucket within its bounds is as a run with a clock that never goes back leaves it. -/
lemma bounded_iff_sound (h : b.Sized burst rate) :
    b.Bounded burst rate ↔ b.Sound burst rate b.lastRefill := by
  constructor
  · intro hb
    exact ⟨h.1, h.2, hb.nonneg, hb.le, le_refl _⟩
  · intro hb
    exact ⟨hb.nonneg, hb.le, fun hburst hrate _ hwait => hb.allowed_of_le hburst hrate hwait⟩

/-- A new bucket has the size and rate it is created with. -/
lemma sized_new (burst : ℤ) (rate creation : ℚ) : (new burst rate creation).Sized burst rate :=
  ⟨rfl, rfl⟩

/-- A new bucket is within its bounds. -/
lemma bounded_new (hburst : 0 ≤ burst) (rate creation : ℚ) :
    (new burst rate creation).Bounded burst rate :=
  (bounded_iff_sound (sized_new burst rate creation)).mpr (sound_new hburst rate creation)

/-- **A call keeps the bounds exactly if the bucket affords it.** What it finds in the bucket may
be less than was left there, and it takes nothing unless a whole token is there.

**Proof sketch.** The call finds the tokens that were left and what the time adds, or takes away if
the clock was set back, and takes one if there is one. What it leaves is not negative exactly if the
time takes no more than what was left, which is what the bucket affords. -/
lemma bounded_consume_iff (hburst : 0 ≤ burst) (hsized : b.Sized burst rate)
    (hb : b.Bounded burst rate) (now : ℚ) :
    (b.consume now).2.Bounded burst rate ↔ b.Affords now := by
  have hsound := (bounded_iff_sound hsized).mp hb
  have hadd := hsound.refilled_le_add now
  have hcost := cost_nonneg (decide (1 ≤ b.refilled now))
  unfold Affords
  rw [bounded_iff_sound (hsized.consume now), hsized.2]
  constructor
  · intro hnext
    have hnonneg := hnext.nonneg
    rw [consume_eq] at hnonneg
    dsimp only at hnonneg
    linarith
  · intro hafford
    have hfound : 0 ≤ b.refilled now :=
      hsound.le_refilled (Int.cast_nonneg hburst) (by linarith)
    have hpaid := cost_le hfound
    have hle := hsound.refilled_le now
    rw [consume_eq]
    refine ⟨hsized.1, hsized.2, ?_, ?_, le_refl _⟩ <;> dsimp only <;> linarith

end TokenBucket

/-! ## The limiter -/

namespace RateLimiter

open TokenBucket

/-- The bucket that decides about a call. -/
def bucketFor (l : RateLimiter) (senderId : String) (creation : ℚ) : TokenBucket :=
  (l.buckets.get? senderId).getD (TokenBucket.new l.burst l.refillRate creation)

/-- The bucket that decides about the call affords it. -/
def Affords (l : RateLimiter) : LimiterCall → Prop
  | .isAllowed c => (l.bucketFor c.senderId c.creation).Affords c.now
  | .cleanupStale _ _ => True

/-- The limiter and its buckets have this size and rate. -/
structure Sized (burst : ℤ) (rate : ℚ) (l : RateLimiter) : Prop where
  size : l.burst = burst
  speed : l.refillRate = rate
  buckets : ∀ senderId b, l.buckets.get? senderId = some b → b.Sized burst rate

/-- All buckets of the limiter are within their bounds. -/
def Bounded (burst : ℤ) (rate : ℚ) (l : RateLimiter) : Prop :=
  ∀ senderId b, l.buckets.get? senderId = some b → b.Bounded burst rate

variable {burst : ℤ} {rate : ℚ} {l : RateLimiter}

/-- A new limiter. -/
lemma sized_new (maxPerMinute : ℚ) (burst : ℤ) :
    (new maxPerMinute burst).Sized burst (maxPerMinute / 60) :=
  ⟨rfl, rfl, fun _ _ h => by cases h⟩

/-- A new limiter has no buckets that could be out of bounds. -/
lemma bounded_new (maxPerMinute : ℚ) (burst : ℤ) :
    (new maxPerMinute burst).Bounded burst (maxPerMinute / 60) :=
  fun _ _ h => by cases h

/-- The bucket that decides about a call has the size and rate of the others. -/
lemma Sized.bucketFor (h : l.Sized burst rate) (senderId : String) (creation : ℚ) :
    (l.bucketFor senderId creation).Sized burst rate := by
  unfold RateLimiter.bucketFor
  cases hget : l.buckets.get? senderId with
  | none => exact ⟨h.size, h.speed⟩
  | some b => exact h.buckets senderId b hget

/-- The bucket that decides about a call is within its bounds if the others are. -/
lemma Bounded.bucketFor (h : l.Bounded burst rate) (hburst : 0 ≤ burst)
    (hsized : l.Sized burst rate) (senderId : String) (creation : ℚ) :
    (l.bucketFor senderId creation).Bounded burst rate := by
  unfold RateLimiter.bucketFor
  cases hget : l.buckets.get? senderId with
  | none =>
    rw [hsized.size, hsized.speed]
    exact TokenBucket.bounded_new hburst rate creation
  | some b => exact h senderId b hget

/-- The buckets after a decision: the sender's was used, and the others are as before. -/
lemma get?_call_isAllowed {c : AllowCall} {senderId : String} {b : TokenBucket}
    (h : (l.call (.isAllowed c)).buckets.get? senderId = some b) :
    (senderId = c.senderId ∧ b = ((l.bucketFor c.senderId c.creation).consume c.now).2) ∨
      l.buckets.get? senderId = some b := by
  by_cases hsender : senderId = c.senderId
  · subst hsender
    have hget := (isAllowed_eq l c.senderId c.creation c.now).2
    exact Or.inl ⟨rfl, Option.some.inj (h.symm.trans hget)⟩
  · exact Or.inr ((get?_isAllowed_of_ne l c.creation c.now hsender).symm.trans h)

/-- The buckets after a cleanup were there before. -/
lemma get?_call_cleanupStale {maxAge now : ℚ} {senderId : String} {b : TokenBucket}
    (h : (l.call (.cleanupStale maxAge now)).buckets.get? senderId = some b) :
    l.buckets.get? senderId = some b := by
  have hget := get?_cleanupStale l maxAge now senderId
  exact (Option.filter_eq_some_iff.mp (hget.symm.trans h)).1

/-- A call changes no size and no rate. -/
lemma Sized.call (h : l.Sized burst rate) (c : LimiterCall) : (l.call c).Sized burst rate := by
  cases c with
  | isAllowed c =>
    refine ⟨h.size, h.speed, fun senderId b hb => ?_⟩
    rcases get?_call_isAllowed hb with ⟨_, rfl⟩ | hb
    · exact (h.bucketFor c.senderId c.creation).consume c.now
    · exact h.buckets senderId b hb
  | cleanupStale maxAge now =>
    exact ⟨h.size, h.speed, fun senderId b hb => h.buckets senderId b (get?_call_cleanupStale hb)⟩

/-- **A call keeps all buckets within their bounds exactly if the bucket it is about affords
it.**

**Proof sketch.** A call about a sender changes the bucket of this sender as `bounded_consume_iff`
says, and no other one. A cleanup only drops buckets. -/
lemma bounded_call_iff (hburst : 0 ≤ burst) (hsized : l.Sized burst rate)
    (hl : l.Bounded burst rate) (c : LimiterCall) :
    (l.call c).Bounded burst rate ↔ l.Affords c := by
  cases c with
  | isAllowed c =>
    have hone := bounded_consume_iff hburst (hsized.bucketFor c.senderId c.creation)
      (hl.bucketFor hburst hsized c.senderId c.creation) c.now
    constructor
    · intro hnext
      exact hone.mp (hnext c.senderId _ (isAllowed_eq l c.senderId c.creation c.now).2)
    · intro hafford senderId b hb
      rcases get?_call_isAllowed hb with ⟨_, rfl⟩ | hb
      · exact hone.mpr hafford
      · exact hl senderId b hb
  | cleanupStale maxAge now =>
    constructor
    · exact fun _ => trivial
    · exact fun _ senderId b hb => hl senderId b (get?_call_cleanupStale hb)

end RateLimiter

/-! ## Runs with any clock readings -/

/-- **The bounds hold in exactly the runs whose calls are afforded.** For every size and rate, and
whatever the clock reads: the tokens of a bucket are between none and its size after every call,
and a sender that lets the time for one token pass is allowed again, if and only if no call finds
the clock set back by more time than the tokens are worth. The same holds of all buckets of a
limiter, whose cleanups harm nothing.

**Proof sketch.** For the bucket and for the limiter alike: bounds hold at the start, and a call
keeps them exactly if it is afforded (`bounded_consume_iff`, `bounded_call_iff`); so they hold after
all prefixes of a run exactly if all its calls are (`Conc.forall_prefix_iff`). -/
theorem bounded_iff_affords {burst : ℤ} (hburst : 0 ≤ burst) :
    (∀ rate creation readings,
      (∀ pre, pre <+: readings →
        ((TokenBucket.new burst rate creation).after pre).Bounded burst rate) ↔
      ∀ pre now, pre ++ [now] <+: readings →
        ((TokenBucket.new burst rate creation).after pre).Affords now) ∧
    ∀ maxPerMinute calls,
      (∀ pre, pre <+: calls →
        ((RateLimiter.new maxPerMinute burst).after pre).Bounded burst (maxPerMinute / 60)) ↔
      ∀ pre c, pre ++ [c] <+: calls →
        ((RateLimiter.new maxPerMinute burst).after pre).Affords c := by
  constructor
  · intro rate creation readings
    have hkeeps : ∀ (b : TokenBucket) (now : ℚ), b.Sized burst rate →
        (b.consume now).2.Sized burst rate := fun b now hb => hb.consume now
    exact Conc.forall_prefix_iff hkeeps
      (fun b now hsized hb => TokenBucket.bounded_consume_iff hburst hsized hb now)
      (TokenBucket.sized_new burst rate creation) (TokenBucket.bounded_new hburst rate creation)
      readings
  · intro maxPerMinute calls
    have hkeeps : ∀ (l : RateLimiter) (c : LimiterCall), l.Sized burst (maxPerMinute / 60) →
        (l.call c).Sized burst (maxPerMinute / 60) := fun l c hl => hl.call c
    exact Conc.forall_prefix_iff hkeeps
      (fun l c hsized hl => RateLimiter.bounded_call_iff hburst hsized hl c)
      (RateLimiter.sized_new maxPerMinute burst) (RateLimiter.bounded_new maxPerMinute burst) calls

/-- A bucket of three tokens at ten calls a minute, called one minute after its creation and then
with the clock set back by twelve seconds: the first call leaves two tokens, which is what twelve
seconds are worth. -/
theorem bounded_iff_affords_small_step :
    ((TokenBucket.new 3 (10 / 60) 0).after [60, 48]).Bounded 3 (10 / 60) := by
  have hsize : (0 : ℤ) ≤ 3 := by decide
  have hruns := (bounded_iff_affords hsize).1 (10 / 60) 0 [60, 48]
  refine hruns.mpr ?_ [60, 48] (List.prefix_refl _)
  intro pre now hpre
  rcases pre with _ | ⟨first, _ | ⟨second, pre⟩⟩
  · obtain rfl : now = 60 := by simpa using hpre
    norm_num [TokenBucket.Affords, TokenBucket.after, TokenBucket.new]
  · obtain ⟨rfl, rfl⟩ : first = 60 ∧ now = 48 := by simpa using hpre
    norm_num [TokenBucket.Affords, TokenBucket.after, TokenBucket.new, TokenBucket.consume]
  · simp at hpre

/-- The default bucket, called with the clock set back by a minute: it is in debt, and refuses a
call that comes long after a token is earned. -/
theorem clock_set_back_drains :
    let b := (TokenBucket.new 3 (10 / 60) 60).after [0]
    b.tokens = -7 ∧ (b.consume 45).1 = false ∧ 1 / (10 / 60) ≤ 45 - b.lastRefill ∧
      ¬ b.Bounded 3 (10 / 60) := by
  intro b
  have htokens : b.tokens = -7 := by
    norm_num [b, TokenBucket.after, TokenBucket.new, TokenBucket.consume]
  refine ⟨htokens, ?_, ?_, fun h => ?_⟩
  · norm_num [b, TokenBucket.after, TokenBucket.new, TokenBucket.consume]
  · norm_num [b, TokenBucket.after, TokenBucket.new, TokenBucket.consume]
  · linarith [h.nonneg]

end SolMesh

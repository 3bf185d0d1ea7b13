import Mathlib.Algebra.Order.Field.Rat
import Mathlib.Tactic.Linarith
import Mathlib.Tactic.Positivity
import SolMesh.Gateway.RateLimiter

set_option relaxedAutoImplicit false
set_option autoImplicit false

/-!
# What the rate limiter guarantees

The bucket of a sender is a potential: a call cannot take more from it than it holds, and it gains
what the elapsed time adds, up to its size. This bounds the calls admitted in every window of
time. A bucket that was not used for so long that it must be full again can be dropped: the next
call of the sender creates it anew, full.

## Main definitions

* `SolMesh.TokenBucket.refilled` — the tokens in a bucket when a call looks at it.
* `SolMesh.TokenBucket.answers` — the decisions of a single bucket.
* `SolMesh.RateLimiter.Sound` — what holds of a limiter in every run.
* `SolMesh.RateLimiter.StandsFor` — the limiter treats a sender as a given bucket would.

## Main results

* `SolMesh.RateLimiter.sound_after` — the invariant holds after every run.
* `SolMesh.RateLimiter.answersFor_eq` — the decisions about a sender are those of one bucket.
* `SolMesh.token_bucket_bound` — tokens, windows and waiting times.
* `SolMesh.stale_buckets_invisible` — dropping stale buckets changes no decision.
-/

namespace SolMesh

/-! ## One bucket -/

namespace TokenBucket

/-- The tokens in the bucket when a call at time `now` looks at it. -/
def refilled (b : TokenBucket) (now : ℚ) : ℚ :=
  min (b.maxTokens : ℚ) (b.tokens + (now - b.lastRefill) * b.refillRate)

/-- What a call costs. -/
def cost (allowed : Bool) : ℚ := if allowed then 1 else 0

lemma cost_nonneg (allowed : Bool) : 0 ≤ cost allowed := by
  cases allowed <;> simp [cost]

/-- A call that is only allowed if there is a token costs no more than there is. -/
lemma cost_le {tokens : ℚ} (h : 0 ≤ tokens) : cost (decide (1 ≤ tokens)) ≤ tokens := by
  by_cases htoken : 1 ≤ tokens
  · simp [cost, htoken]
  · simp [cost, htoken, h]

/-- A call is allowed if there is a token, and takes it. -/
lemma consume_eq (b : TokenBucket) (now : ℚ) :
    b.consume now = (decide (1 ≤ b.refilled now),
      { b with
        tokens := b.refilled now - cost (decide (1 ≤ b.refilled now))
        lastRefill := now }) := by
  unfold consume
  dsimp only
  change (if 1 ≤ b.refilled now then _ else _) = _
  split_ifs with h
  · rw [decide_eq_true h]
    rfl
  · rw [decide_eq_false h, cost, if_neg Bool.false_ne_true, sub_zero]
    rfl

/-- The bucket has this size and rate, holds at most as many tokens as fit, and was last used no
later than at time `now`. -/
structure Sound (burst : ℤ) (rate now : ℚ) (b : TokenBucket) : Prop where
  maxTokens : b.maxTokens = burst
  refillRate : b.refillRate = rate
  nonneg : 0 ≤ b.tokens
  le : b.tokens ≤ burst
  past : b.lastRefill ≤ now

variable {burst : ℤ} {rate now now' : ℚ} {b : TokenBucket}

/-- Only the last use of the bucket depends on the time. -/
lemma Sound.at_time (h : b.Sound burst rate now) (hpast : b.lastRefill ≤ now') :
    b.Sound burst rate now' :=
  { h with past := hpast }

/-- A new bucket. -/
lemma sound_new (hburst : 0 ≤ burst) (rate now : ℚ) : (new burst rate now).Sound burst rate now :=
  ⟨rfl, rfl, Int.cast_nonneg hburst, le_refl _, le_refl _⟩

/-- A call finds no more tokens than fit. -/
lemma Sound.refilled_le (h : b.Sound burst rate now) (now' : ℚ) : b.refilled now' ≤ burst := by
  unfold refilled
  rw [h.maxTokens]
  exact min_le_left _ _

/-- A call finds no more tokens than there were and were added since. -/
lemma Sound.refilled_le_add (h : b.Sound burst rate now) (now' : ℚ) :
    b.refilled now' ≤ b.tokens + (now' - b.lastRefill) * rate := by
  unfold refilled
  rw [h.refillRate]
  exact min_le_right _ _

/-- A call finds a certain number of tokens if they fit and as many were there or added since. -/
lemma Sound.le_refilled (h : b.Sound burst rate now) {tokens : ℚ} (hfit : tokens ≤ burst)
    (hadd : tokens ≤ b.tokens + (now' - b.lastRefill) * rate) : tokens ≤ b.refilled now' := by
  unfold refilled
  rw [h.maxTokens, h.refillRate]
  exact le_min hfit hadd

/-- A call finds at least no tokens. -/
lemma Sound.refilled_nonneg (h : b.Sound burst rate now) (hburst : 0 ≤ burst) (hrate : 0 ≤ rate)
    (hnow : b.lastRefill ≤ now') : 0 ≤ b.refilled now' := by
  have hgain : 0 ≤ (now' - b.lastRefill) * rate := mul_nonneg (sub_nonneg.mpr hnow) hrate
  exact h.le_refilled (Int.cast_nonneg hburst) (add_nonneg h.nonneg hgain)

/-- A call keeps the bucket sound. -/
lemma Sound.consume (h : b.Sound burst rate now) (hburst : 0 ≤ burst) (hrate : 0 ≤ rate) :
    (b.consume now).2.Sound burst rate now := by
  have hle := h.refilled_le now
  have hnonneg := h.refilled_nonneg hburst hrate h.past
  have hcost := cost_le hnonneg
  have hcost' := cost_nonneg (decide (1 ≤ b.refilled now))
  rw [consume_eq]
  refine ⟨h.maxTokens, h.refillRate, ?_, ?_, le_refl _⟩ <;> dsimp only <;> linarith

/-- **A call that comes late enough is allowed**: when the time since the last call has added a
token. -/
lemma Sound.allowed_of_le (h : b.Sound burst rate now) (hburst : 1 ≤ burst) (hrate : 0 < rate)
    (hwait : 1 / rate ≤ now' - b.lastRefill) : (b.consume now').1 = true := by
  have hgain : 1 ≤ (now' - b.lastRefill) * rate := (div_le_iff₀ hrate).mp hwait
  have htoken : 1 ≤ b.refilled now' := by
    apply h.le_refilled
    · exact_mod_cast hburst
    · linarith [h.nonneg]
  rw [consume_eq]
  exact decide_eq_true htoken

/-- The decisions of a bucket about calls at these times. -/
def answers (b : TokenBucket) : List ℚ → List (ℚ × Bool)
  | [] => []
  | now :: times => (now, (b.consume now).1) :: (b.consume now).2.answers times

/-- The calls allowed from time `s` up to time `t`. -/
def grantedWithin (s t : ℚ) (answers : List (ℚ × Bool)) : ℕ :=
  answers.countP fun a => a.2 && decide (s ≤ a.1) && decide (a.1 ≤ t)

/-- A call counts what it costs, if it lies in the window. -/
lemma grantedWithin_cons (s t now : ℚ) (allowed : Bool) (answers : List (ℚ × Bool)) :
    (grantedWithin s t ((now, allowed) :: answers) : ℚ) =
      grantedWithin s t answers + if s ≤ now ∧ now ≤ t then cost allowed else 0 := by
  unfold grantedWithin
  rw [List.countP_cons]
  by_cases hs : s ≤ now <;> by_cases ht : now ≤ t <;> cases allowed <;> simp [hs, ht, cost]

/-- Nothing is allowed after all calls. -/
lemma grantedWithin_eq_zero {s t : ℚ} {times : List ℚ} (h : ∀ u ∈ times, t < u)
    (b : TokenBucket) : grantedWithin s t (b.answers times) = 0 := by
  induction times generalizing b with
  | nil => rfl
  | cons u times ih =>
    have hu : ¬ u ≤ t := not_le.mpr (h u List.mem_cons_self)
    have hrest := ih (fun v hv => h v (List.mem_cons_of_mem _ hv)) (b.consume u).2
    have hcons := grantedWithin_cons s t u (b.consume u).1 ((b.consume u).2.answers times)
    rw [if_neg fun hin => hu hin.2, hrest] at hcons
    rw [answers]
    exact_mod_cast hcons

/-- **The potential**: the calls allowed up to time `t` take no more tokens than the bucket holds
and time adds.

**Proof sketch.** Induction on the calls. A call that comes in time takes its cost out of what the
bucket holds, and the rest of the calls is bounded by what is left and by what the remaining time
adds. After `t` nothing counts. -/
lemma Sound.grantedWithin_le (h : b.Sound burst rate now) (hburst : 0 ≤ burst) (hrate : 0 ≤ rate)
    (s : ℚ) {t : ℚ} {times : List ℚ} (hsorted : (b.lastRefill :: times).Pairwise (· ≤ ·))
    (ht : b.lastRefill ≤ t) :
    (grantedWithin s t (b.answers times) : ℚ) ≤ b.tokens + (t - b.lastRefill) * rate := by
  induction times generalizing b now with
  | nil =>
    have hgain : 0 ≤ (t - b.lastRefill) * rate := mul_nonneg (sub_nonneg.mpr ht) hrate
    have hzero : (grantedWithin s t (b.answers []) : ℚ) = 0 := by simp [grantedWithin, answers]
    linarith [h.nonneg]
  | cons u times ih =>
    obtain ⟨hfrom, hrest⟩ := List.pairwise_cons.mp hsorted
    have hu := hfrom u List.mem_cons_self
    have hnext := (h.at_time hu).consume hburst hrate
    rw [answers, grantedWithin_cons]
    by_cases hut : u ≤ t
    · have hbound := ih hnext (by rw [consume_eq]; exact hrest)
        (by rw [consume_eq]; exact hut)
      have hadd := h.refilled_le_add u
      have hcost : (if s ≤ u ∧ u ≤ t then cost (b.consume u).1 else 0) ≤ cost (b.consume u).1 := by
        split_ifs
        · exact le_refl _
        · exact cost_nonneg _
      simp only [consume_eq] at hbound hcost ⊢
      linarith
    · have hlate : ∀ v ∈ times, t < v := fun v hv =>
        (not_le.mp hut).trans_le ((List.pairwise_cons.mp hrest).1 v hv)
      have hgain : 0 ≤ (t - b.lastRefill) * rate := mul_nonneg (sub_nonneg.mpr ht) hrate
      rw [grantedWithin_eq_zero hlate, if_neg fun hin => hut hin.2]
      simp only [Nat.cast_zero, add_zero]
      linarith [h.nonneg]

/-- **The window bound**: from time `s` up to time `t` the bucket allows no more calls than its
size and what this time adds.

**Proof sketch.** Induction on the calls. Those before the window do not count. The first one in it
finds at most a full bucket, and from there on the tokens bound what is allowed
(`Sound.grantedWithin_le`). -/
lemma Sound.grantedWithin_le_burst (h : b.Sound burst rate now) (hburst : 0 ≤ burst)
    (hrate : 0 ≤ rate) {s t : ℚ} (hst : s ≤ t) {times : List ℚ}
    (hsorted : (b.lastRefill :: times).Pairwise (· ≤ ·)) :
    (grantedWithin s t (b.answers times) : ℚ) ≤ burst + (t - s) * rate := by
  induction times generalizing b now with
  | nil =>
    have hgain : 0 ≤ (t - s) * rate := mul_nonneg (sub_nonneg.mpr hst) hrate
    have hzero : (grantedWithin s t (b.answers []) : ℚ) = 0 := by simp [grantedWithin, answers]
    have hsize : (0 : ℚ) ≤ burst := Int.cast_nonneg hburst
    linarith
  | cons u times ih =>
    obtain ⟨hfrom, hrest⟩ := List.pairwise_cons.mp hsorted
    have hu := hfrom u List.mem_cons_self
    have hnext := (h.at_time hu).consume hburst hrate
    have hsorted' : ((b.consume u).2.lastRefill :: times).Pairwise (· ≤ ·) := by
      rw [consume_eq]
      exact hrest
    rw [answers, grantedWithin_cons]
    split_ifs with hin
    · -- the first call in the window finds at most a full bucket
      have hlast : (b.consume u).2.lastRefill ≤ t := by
        rw [consume_eq]
        exact hin.2
      have hbound := hnext.grantedWithin_le hburst hrate s hsorted' hlast
      have hsize := h.refilled_le u
      have hskip : 0 ≤ (u - s) * rate := mul_nonneg (sub_nonneg.mpr hin.1) hrate
      simp only [consume_eq] at hbound ⊢
      linarith
    · rw [add_zero]
      exact ih hnext hsorted'

/-- Buckets of one size and rate that a call finds equally full answer alike from then on. -/
lemma consume_congr {b' : TokenBucket} (hmax : b'.maxTokens = b.maxTokens)
    (hrate : b'.refillRate = b.refillRate) (h : b'.refilled now = b.refilled now) :
    b'.consume now = b.consume now := by
  rw [consume_eq, consume_eq, h, hmax, hrate]

/-- A new bucket is found full. -/
lemma refilled_new (hrate : 0 ≤ rate) {creation : ℚ} (h : creation ≤ now) :
    (new burst rate creation).refilled now = burst := by
  have hgain : 0 ≤ (now - creation) * rate := mul_nonneg (sub_nonneg.mpr h) hrate
  apply min_eq_left
  exact le_add_of_nonneg_right hgain

/-- A bucket that was not used for long enough is found full. -/
lemma Sound.refilled_of_stale (h : b.Sound burst rate now) (hrate : 0 ≤ rate) {maxAge : ℚ}
    (hage : burst ≤ rate * maxAge) (hstale : maxAge < now' - b.lastRefill) :
    b.refilled now' = b.maxTokens := by
  have hgain : maxAge * rate ≤ (now' - b.lastRefill) * rate :=
    mul_le_mul_of_nonneg_right hstale.le hrate
  apply le_antisymm (h.maxTokens ▸ h.refilled_le now')
  rw [h.maxTokens]
  apply h.le_refilled (le_refl _)
  linarith [h.nonneg]

/-- A bucket without room for a token allows nothing.

**Proof sketch.** Induction on the calls: refilling goes no further than the size, which is less
than one token. -/
lemma answers_of_empty (hempty : b.maxTokens ≤ 0) (times : List ℚ) :
    b.answers times = times.map fun now => (now, false) := by
  induction times generalizing b with
  | nil => rfl
  | cons u times ih =>
    have hno : ¬ 1 ≤ b.refilled u := by
      have hle : b.refilled u ≤ b.maxTokens := min_le_left _ _
      have hzero : (b.maxTokens : ℚ) ≤ 0 := by exact_mod_cast hempty
      intro htoken
      linarith
    have hnext : (b.consume u).2.maxTokens ≤ 0 := by
      rw [consume_eq]
      exact hempty
    have hanswer : (b.consume u).1 = false := by
      rw [consume_eq]
      exact decide_eq_false hno
    rw [answers, ih hnext, hanswer, List.map_cons]

end TokenBucket

/-! ## The limiter -/

/-- A run goes on in order after its first call. -/
lemma InOrder.cons {c : LimiterCall} {calls : List LimiterCall} (h : InOrder (c :: calls)) :
    c.begins ≤ c.ends ∧ (∀ d ∈ calls, c.ends ≤ d.begins) ∧ InOrder calls := by
  obtain ⟨hfrom, hrest⟩ := List.pairwise_cons.mp h.between
  exact ⟨h.within c List.mem_cons_self, hfrom,
    fun d hd => h.within d (List.mem_cons_of_mem _ hd), hrest⟩

/-- Something comes before all calls. -/
lemma InOrder.exists_le_begins {calls : List LimiterCall} (h : InOrder calls) :
    ∃ now, ∀ c ∈ calls, now ≤ c.begins := by
  cases calls with
  | nil => exact ⟨0, by simp⟩
  | cons c calls =>
    obtain ⟨hc, hafter, _⟩ := h.cons
    refine ⟨c.begins, fun d hd => ?_⟩
    rcases List.mem_cons.mp hd with rfl | hd
    · exact le_refl _
    · exact hc.trans (hafter d hd)

/-- The first part of a run. -/
lemma InOrder.left {calls calls' : List LimiterCall} (h : InOrder (calls ++ calls')) :
    InOrder calls :=
  ⟨fun c hc => h.within c (List.mem_append_left _ hc), (List.pairwise_append.mp h.between).1⟩

namespace RateLimiter

open TokenBucket

/-- The limiter makes buckets of this size and rate, and all it has are sound. -/
structure Sound (burst : ℤ) (rate now : ℚ) (l : RateLimiter) : Prop where
  size : l.burst = burst
  speed : l.refillRate = rate
  buckets : ∀ senderId b, l.buckets.get? senderId = some b → b.Sound burst rate now

variable {burst : ℤ} {rate now : ℚ} {l : RateLimiter} {senderId : String}

/-- A new limiter has no buckets. -/
lemma sound_new (maxPerMinute : ℚ) (burst : ℤ) (now : ℚ) :
    (new maxPerMinute burst).Sound burst (maxPerMinute / 60) now :=
  ⟨rfl, rfl, fun _ _ h => by cases h⟩

/-- The bucket that decides about a call is sound. -/
lemma Sound.bucketFor (h : l.Sound burst rate now) (hburst : 0 ≤ burst) {creation now' : ℚ}
    (hcreation : now ≤ creation) (hnow : creation ≤ now') :
    ((l.buckets.get? senderId).getD (TokenBucket.new l.burst l.refillRate creation)).Sound burst
      rate now' := by
  rw [h.size, h.speed]
  cases hget : l.buckets.get? senderId with
  | none => exact (TokenBucket.sound_new hburst rate creation).at_time hnow
  | some b =>
    have hb := h.buckets _ _ hget
    exact hb.at_time (hb.past.trans (hcreation.trans hnow))

/-- **A call keeps the limiter sound.**

**Proof sketch.** The bucket of the sender is sound before the call, also if it is new, and
consuming keeps it so; the other buckets wait. A cleanup keeps some of the buckets. -/
lemma Sound.call (h : l.Sound burst rate now) (hburst : 0 ≤ burst) (hrate : 0 ≤ rate)
    {c : LimiterCall} (hfrom : now ≤ c.begins) (hc : c.begins ≤ c.ends) :
    (l.call c).Sound burst rate c.ends := by
  have hpast := hfrom.trans hc
  cases c with
  | isAllowed c =>
    refine ⟨h.size, h.speed, fun other b hb => ?_⟩
    by_cases hother : other = c.senderId
    · subst hother
      obtain ⟨_, hget⟩ := isAllowed_eq l c.senderId c.creation c.now
      obtain rfl := Option.some.inj (hget.symm.trans hb)
      exact (h.bucketFor hburst hfrom hc).consume hburst hrate
    · have hb' := h.buckets other b ((get?_isAllowed_of_ne l _ _ hother).symm.trans hb)
      exact hb'.at_time (hb'.past.trans hpast)
  | cleanupStale maxAge now' =>
    refine ⟨h.size, h.speed, fun other b hb => ?_⟩
    have hget := get?_cleanupStale l maxAge now' other
    have hb' := h.buckets other b (Option.filter_eq_some_iff.mp (hget.symm.trans hb)).1
    exact hb'.at_time (hb'.past.trans hpast)

/-- **A run keeps the limiter sound.** -/
lemma Sound.after (h : l.Sound burst rate now) (hburst : 0 ≤ burst) (hrate : 0 ≤ rate)
    {calls : List LimiterCall} (hord : InOrder calls) (hfrom : ∀ c ∈ calls, now ≤ c.begins) :
    ∃ now', (l.after calls).Sound burst rate now' := by
  induction calls generalizing l now with
  | nil => exact ⟨now, h⟩
  | cons c calls ih =>
    obtain ⟨hc, hafter, hrest⟩ := hord.cons
    exact ih (h.call hburst hrate (hfrom c List.mem_cons_self) hc) hrest hafter

/-- **In every run** from a new limiter it is sound in the end. -/
lemma sound_after (hburst : 0 ≤ burst) {maxPerMinute : ℚ} (hrate : 0 ≤ maxPerMinute / 60)
    {calls : List LimiterCall} (hord : InOrder calls) :
    ∃ now, ((new maxPerMinute burst).after calls).Sound burst (maxPerMinute / 60) now := by
  obtain ⟨now, hfrom⟩ := hord.exists_le_begins
  exact (sound_new maxPerMinute burst now).after hburst hrate hord hfrom

/-- Calls about others leave the bucket of the sender alone. -/
lemma get?_after_of_ne {calls : List AllowCall} (h : ∀ c ∈ calls, c.senderId ≠ senderId) :
    (l.after (calls.map .isAllowed)).buckets.get? senderId = l.buckets.get? senderId := by
  induction calls generalizing l with
  | nil => rfl
  | cons c calls ih =>
    have hc := h c List.mem_cons_self
    have hrest := ih (l := l.call (.isAllowed c)) fun d hd => h d (List.mem_cons_of_mem _ hd)
    exact hrest.trans (get?_isAllowed_of_ne l _ _ hc.symm)

/-- After a call about a sender, and calls about others, the sender's bucket was last used by the
call. -/
lemma exists_bucket_after (l : RateLimiter) (pre : List AllowCall) (c : AllowCall)
    {mid : List AllowCall} (hmid : ∀ d ∈ mid, d.senderId ≠ c.senderId) :
    ∃ b, (l.after ((pre ++ c :: mid).map .isAllowed)).buckets.get? c.senderId = some b ∧
      b.lastRefill = c.now := by
  have hsplit : l.after ((pre ++ c :: mid).map .isAllowed) =
      ((l.after (pre.map .isAllowed)).call (.isAllowed c)).after (mid.map .isAllowed) := by
    simp [RateLimiter.after]
  obtain ⟨_, hget⟩ := isAllowed_eq (l.after (pre.map .isAllowed)) c.senderId c.creation c.now
  rw [hsplit]
  exact ⟨_, (get?_after_of_ne hmid).trans hget, by rw [consume_eq]⟩

/-! ### One bucket for each sender -/

/-- The calls about a sender. -/
def callsOf (senderId : String) (calls : List LimiterCall) : List AllowCall :=
  calls.filterMap fun c => match c with
    | .isAllowed c => if c.senderId = senderId then some c else none
    | .cleanupStale _ _ => none

/-- The decisions about a sender, with their times. -/
def answersFor (senderId : String) (l : RateLimiter) (calls : List LimiterCall) :
    List (ℚ × Bool) :=
  ((l.decisions calls).filter fun d => decide (d.1.senderId = senderId)).map fun d =>
    (d.1.now, d.2)

/-- The decisions of a single bucket that is created at the first call and kept. -/
def soleBucket (burst : ℤ) (rate : ℚ) : List AllowCall → List (ℚ × Bool)
  | [] => []
  | c :: calls =>
    (TokenBucket.new burst rate c.creation).answers ((c :: calls).map AllowCall.now)

/-- The limiter treats the sender as the bucket would: it has this bucket, or none, and from time
`since` on the bucket is found full. -/
def StandsFor (senderId : String) (since : ℚ) (b : TokenBucket) (l : RateLimiter) : Prop :=
  l.buckets.get? senderId = some b ∨
    l.buckets.get? senderId = none ∧ ∀ now, since ≤ now → b.refilled now = b.maxTokens

variable {b : TokenBucket} {since : ℚ} {calls : List LimiterCall}

/-- **A call about the sender** is decided as the bucket decides it, and leaves the bucket in the
limiter. -/
lemma StandsFor.isAllowed (hs : l.StandsFor senderId since b) (hb : b.Sound burst rate now)
    (hl : l.Sound burst rate now) (hrate : 0 ≤ rate) {creation now' : ℚ}
    (hsince : since ≤ now') (hcreation : creation ≤ now') :
    (l.isAllowed senderId creation now').1 = (b.consume now').1 ∧
      (l.isAllowed senderId creation now').2.buckets.get? senderId =
        some (b.consume now').2 := by
  obtain ⟨hanswer, hget⟩ := isAllowed_eq l senderId creation now'
  have hsame : ((l.buckets.get? senderId).getD
      (TokenBucket.new l.burst l.refillRate creation)).consume now' = b.consume now' := by
    rw [hl.size, hl.speed]
    rcases hs with hsome | ⟨hnone, hfull⟩
    · rw [hsome]
      rfl
    · rw [hnone]
      apply consume_congr hb.maxTokens.symm hb.refillRate.symm
      rw [hfull now' hsince, hb.maxTokens]
      exact refilled_new hrate hcreation
  rw [hanswer, hget, hsame]
  exact ⟨rfl, rfl⟩

/-- **Calls about others, and cleanups**, leave the limiter treating the sender as the bucket
would.

**Proof sketch.** A call about another sender leaves the bucket where it is. A cleanup may drop it,
but only after so long a time that it would be full again (`refilled_of_stale`), which is what a new
bucket is. -/
lemma StandsFor.other (hs : l.StandsFor senderId since b) (hb : b.Sound burst rate now)
    (hrate : 0 ≤ rate) {c : LimiterCall} (hsince : since ≤ c.ends)
    (hother : ∀ c', c = .isAllowed c' → c'.senderId ≠ senderId)
    (hage : ∀ maxAge now', c = .cleanupStale maxAge now' → burst ≤ rate * maxAge) :
    (l.call c).StandsFor senderId c.ends b := by
  have hlater : ∀ {l' : RateLimiter}, l'.buckets.get? senderId = l.buckets.get? senderId →
      l'.StandsFor senderId c.ends b := by
    intro l' hget
    unfold StandsFor
    rw [hget]
    exact hs.imp_right fun ⟨hnone, hfull⟩ =>
      ⟨hnone, fun now' hnow' => hfull now' (hsince.trans hnow')⟩
  cases c with
  | isAllowed c =>
    exact hlater (get?_isAllowed_of_ne l _ _ (hother c rfl).symm)
  | cleanupStale maxAge now' =>
    have hget := get?_cleanupStale l maxAge now' senderId
    rcases hs with hsome | ⟨hnone, hfull⟩
    · rw [hsome] at hget
      by_cases hstale : now' - b.lastRefill > maxAge
      · right
        constructor
        · exact hget.trans (by simp [Option.filter, hstale])
        · intro now'' hnow''
          apply hb.refilled_of_stale hrate (hage _ _ rfl)
          have hle : now' ≤ now'' := hnow''
          linarith
      · left
        exact hget.trans (by simp [Option.filter, hstale])
    · right
      constructor
      · rw [hnone] at hget
        exact hget
      · exact fun now'' hnow'' => hfull now'' (hsince.trans hnow'')

/-- The calls about a sender, one call at a time. -/
lemma callsOf_isAllowed (senderId : String) (c : AllowCall) (calls : List LimiterCall) :
    callsOf senderId (.isAllowed c :: calls) =
      if c.senderId = senderId then c :: callsOf senderId calls else callsOf senderId calls := by
  unfold callsOf
  by_cases h : c.senderId = senderId <;> simp [h]

/-- The decisions about a sender, one call at a time. -/
lemma answersFor_isAllowed (senderId : String) (l : RateLimiter) (c : AllowCall)
    (calls : List LimiterCall) :
    answersFor senderId l (.isAllowed c :: calls) =
      if c.senderId = senderId then
        (c.now, (l.isAllowed c.senderId c.creation c.now).1) ::
          answersFor senderId (l.call (.isAllowed c)) calls
      else answersFor senderId (l.call (.isAllowed c)) calls := by
  unfold answersFor
  rw [decisions, List.filter_cons]
  by_cases h : c.senderId = senderId <;> simp [h]

/-- **The decisions about a sender are those of its bucket**, whatever other calls are made.

**Proof sketch.** Induction on the calls. A call about the sender is answered by the bucket, which
stands in the limiter afterwards (`StandsFor.isAllowed`); all other calls leave the limiter standing
for it (`StandsFor.other`). -/
lemma answersFor_eq_answers (hburst : 0 ≤ burst) (hrate : 0 ≤ rate)
    (hage : ∀ maxAge now', .cleanupStale maxAge now' ∈ calls → burst ≤ rate * maxAge)
    (hord : InOrder calls) (hfrom : ∀ c ∈ calls, now ≤ c.begins) (hl : l.Sound burst rate now)
    (hb : b.Sound burst rate now) (hs : l.StandsFor senderId now b) :
    answersFor senderId l calls = b.answers ((callsOf senderId calls).map AllowCall.now) := by
  induction calls generalizing l b now with
  | nil => rfl
  | cons c calls ih =>
    obtain ⟨hc, hafter, hrest⟩ := hord.cons
    have hnow := hfrom c List.mem_cons_self
    have hl' := hl.call hburst hrate hnow hc
    have hage' : ∀ maxAge now', .cleanupStale maxAge now' ∈ calls → burst ≤ rate * maxAge :=
      fun maxAge now' hmem => hage maxAge now' (List.mem_cons_of_mem _ hmem)
    have hpast := hb.past.trans (hnow.trans hc)
    cases c with
    | isAllowed c =>
      have hclock : c.creation ≤ c.now := hc
      rw [answersFor_isAllowed, callsOf_isAllowed]
      by_cases hsender : c.senderId = senderId
      · subst hsender
        obtain ⟨hanswer, hget⟩ := hs.isAllowed hb hl hrate (hnow.trans hclock) hclock
        have hnext := (hb.at_time hpast).consume hburst hrate
        rw [if_pos rfl, if_pos rfl, hanswer, ih hage' hrest hafter hl' hnext (Or.inl hget)]
        rfl
      · have hstands := hs.other hb hrate (c := .isAllowed c) (hnow.trans hc)
          (fun c' heq => by cases heq; exact hsender) (fun _ _ heq => by cases heq)
        rw [if_neg hsender, if_neg hsender]
        exact ih hage' hrest hafter hl' (hb.at_time hpast) hstands
    | cleanupStale maxAge now' =>
      have hstands := hs.other hb hrate (c := .cleanupStale maxAge now') (hnow.trans hc)
        (fun c' heq => by cases heq) (fun age _ heq => by
          cases heq
          exact hage maxAge now' List.mem_cons_self)
      exact ih hage' hrest hafter hl' (hb.at_time hpast) hstands

/-- **The decisions about a sender are those of one bucket**, created at its first call.

**Proof sketch.** Induction on the calls, up to the first one about the sender. That one makes a new
bucket, which is sound and stands in the limiter, and `answersFor_eq_answers` gives the rest. -/
lemma answersFor_eq (hburst : 0 ≤ burst) (hrate : 0 ≤ rate)
    (hage : ∀ maxAge now', .cleanupStale maxAge now' ∈ calls → burst ≤ rate * maxAge)
    (hord : InOrder calls) (hfrom : ∀ c ∈ calls, now ≤ c.begins) (hl : l.Sound burst rate now)
    (hnone : l.buckets.get? senderId = none) :
    answersFor senderId l calls = soleBucket burst rate (callsOf senderId calls) := by
  induction calls generalizing l now with
  | nil => rfl
  | cons c calls ih =>
    obtain ⟨hc, hafter, hrest⟩ := hord.cons
    have hnow := hfrom c List.mem_cons_self
    have hl' := hl.call hburst hrate hnow hc
    have hage' : ∀ maxAge now', .cleanupStale maxAge now' ∈ calls → burst ≤ rate * maxAge :=
      fun maxAge now' hmem => hage maxAge now' (List.mem_cons_of_mem _ hmem)
    cases c with
    | isAllowed c =>
      rw [answersFor_isAllowed, callsOf_isAllowed]
      by_cases hsender : c.senderId = senderId
      · subst hsender
        obtain ⟨hanswer, hget⟩ := isAllowed_eq l c.senderId c.creation c.now
        rw [hnone, Option.getD_none, hl.size, hl.speed] at hanswer hget
        have hnew := ((TokenBucket.sound_new hburst rate c.creation).at_time hc).consume hburst
          hrate
        rw [if_pos rfl, if_pos rfl, hanswer, answersFor_eq_answers hburst hrate hage' hrest hafter
          hl' hnew (Or.inl hget)]
        rfl
      · have hnone' := (get?_isAllowed_of_ne l c.creation c.now (Ne.symm hsender)).trans hnone
        rw [if_neg hsender, if_neg hsender]
        exact ih hage' hrest hafter hl' hnone'
    | cleanupStale maxAge now' =>
      have hget := get?_cleanupStale l maxAge now' senderId
      rw [hnone] at hget
      exact ih hage' hrest hafter hl' hget

/-- A limiter without room for a token allows nothing.

**Proof sketch.** Induction on the calls. The bucket of a call, whether it is there or new, has no
room for a token, so the call is refused (`answers_of_empty`); and no call or cleanup gives any
bucket more room. -/
lemma answersFor_of_empty (hsize : l.burst ≤ 0)
    (hbuckets : ∀ other b, l.buckets.get? other = some b → b.maxTokens ≤ 0) :
    answersFor senderId l calls =
      (callsOf senderId calls).map fun c => (c.now, false) := by
  induction calls generalizing l with
  | nil => rfl
  | cons c calls ih =>
    cases c with
    | isAllowed c =>
      obtain ⟨hanswer, hget⟩ := isAllowed_eq l c.senderId c.creation c.now
      have hempty : ((l.buckets.get? c.senderId).getD
          (TokenBucket.new l.burst l.refillRate c.creation)).maxTokens ≤ 0 := by
        cases hb : l.buckets.get? c.senderId with
        | none => exact hsize
        | some b => exact hbuckets _ _ hb
      have hno : (l.isAllowed c.senderId c.creation c.now).1 = false := by
        have hsole := answers_of_empty hempty [c.now]
        rw [TokenBucket.answers, List.map_cons] at hsole
        rw [hanswer]
        exact (Prod.mk.inj (List.cons.inj hsole).1).2
      have hnext : ∀ other b, (l.call (.isAllowed c)).buckets.get? other = some b →
          b.maxTokens ≤ 0 := by
        intro other b hb
        by_cases hother : other = c.senderId
        · subst hother
          obtain rfl := Option.some.inj (hget.symm.trans hb)
          rw [consume_eq]
          exact hempty
        · exact hbuckets other b ((get?_isAllowed_of_ne l _ _ hother).symm.trans hb)
      have hsize' : (l.call (.isAllowed c)).burst ≤ 0 := hsize
      rw [answersFor_isAllowed, callsOf_isAllowed, hno, ih hsize' hnext]
      split_ifs <;> rfl
    | cleanupStale maxAge now' =>
      have hsize' : (l.call (.cleanupStale maxAge now')).burst ≤ 0 := hsize
      apply ih hsize'
      intro other b hb
      have hget := get?_cleanupStale l maxAge now' other
      exact hbuckets other b (Option.filter_eq_some_iff.mp (hget.symm.trans hb)).1

/-- The calls allowed to a sender in a window of time. -/
lemma grantedWithin_answersFor (s t : ℚ) :
    grantedWithin s t (answersFor senderId l calls) = (l.decisions calls).countP fun d =>
      d.2 && decide (d.1.senderId = senderId) && decide (s ≤ d.1.now) && decide (d.1.now ≤ t) := by
  unfold grantedWithin answersFor
  rw [List.countP_map, List.countP_filter]
  congr 1
  funext d
  simp only [Function.comp_apply]
  cases d.2 <;> cases decide (d.1.senderId = senderId) <;> simp

/-- The calls about a sender come one after the other.

**Proof sketch.** The calls about a sender are some of all calls, in the same order, so what holds
within each call and between any two of them is inherited (`Pairwise.filterMap`). -/
lemma pairwise_callsOf (hord : InOrder calls) (senderId : String) :
    (∀ c ∈ callsOf senderId calls, c.creation ≤ c.now) ∧
      (callsOf senderId calls).Pairwise fun c d => c.now ≤ d.creation := by
  have hmem : ∀ {c : LimiterCall} {c' : AllowCall}, (match c with
      | .isAllowed c => if c.senderId = senderId then some c else none
      | .cleanupStale _ _ => none) = some c' → c = .isAllowed c' := by
    intro c c' h
    cases c with
    | isAllowed c =>
      dsimp only at h
      split_ifs at h
      rw [Option.some.inj h]
    | cleanupStale maxAge now' => cases h
  constructor
  · intro c' hc'
    obtain ⟨c, hc, heq⟩ := List.mem_filterMap.mp hc'
    have hwithin := hord.within c hc
    rw [hmem heq] at hwithin
    exact hwithin
  · refine hord.between.filterMap _ ?_
    intro c d hcd c' hc' d' hd'
    rw [hmem hc', hmem hd'] at hcd
    exact hcd

/-- The window bound for a single bucket that is created at the first call of a sender.

**Proof sketch.** Without a call nothing is allowed. Otherwise the bucket is new at the first call,
which is sound, and the times of the calls come after its creation and do not decrease, so
`Sound.grantedWithin_le_burst` applies. -/
lemma grantedWithin_soleBucket_le (hburst : 0 ≤ burst) (hrate : 0 ≤ rate) {s t : ℚ} (hst : s ≤ t)
    (hord : InOrder calls) (senderId : String) :
    (grantedWithin s t (soleBucket burst rate (callsOf senderId calls)) : ℚ) ≤
      burst + (t - s) * rate := by
  obtain ⟨hwithin, hbetween⟩ := pairwise_callsOf hord senderId
  cases hcalls : callsOf senderId calls with
  | nil =>
    have hgain : 0 ≤ (t - s) * rate := mul_nonneg (sub_nonneg.mpr hst) hrate
    have hsize : (0 : ℚ) ≤ burst := Int.cast_nonneg hburst
    have hzero : (grantedWithin s t (soleBucket burst rate []) : ℚ) = 0 := by
      simp [grantedWithin, soleBucket]
    linarith
  | cons c calls' =>
    rw [hcalls] at hwithin hbetween
    obtain ⟨hfirst, hrest⟩ := List.pairwise_cons.mp hbetween
    have hc := hwithin c List.mem_cons_self
    apply (TokenBucket.sound_new hburst rate c.creation).grantedWithin_le_burst hburst hrate hst
    refine List.pairwise_cons.mpr ⟨?_, ?_⟩
    · intro now hnow
      obtain ⟨d, hd, rfl⟩ := List.mem_map.mp hnow
      rcases List.mem_cons.mp hd with rfl | hd
      · exact hc
      · exact hc.trans ((hfirst d hd).trans (hwithin d (List.mem_cons_of_mem _ hd)))
    · refine List.pairwise_map.mpr (hbetween.imp_of_mem ?_)
      intro d d' _ hd' hle
      exact hle.trans (hwithin d' hd')

end RateLimiter

/-! ## Guarantees of the limiter -/

open RateLimiter

/-- **The tokens of a sender bound what it is allowed.** In every run of calls with non-decreasing
clock readings: the tokens in a bucket lie between none and its size; in every window of time a
sender is allowed no more calls than the size and what the time of the window adds; and a call is
allowed if the time since the sender's previous call adds a token.

**Proof sketch.** The first part is the invariant `sound_after`. For the second one, the decisions
about a sender are those of a single bucket (`answersFor_eq`), for which the window bound is
`grantedWithin_soleBucket_le`. For the third one, no call between the two touches the bucket
(`exists_bucket_after`), so the time between them adds the token. -/
theorem token_bucket_bound {maxPerMinute : ℚ} {burst : ℤ} (hburst : 1 ≤ burst)
    (hrate : 0 ≤ maxPerMinute / 60) {calls : List AllowCall}
    (hord : InOrder (calls.map .isAllowed)) (senderId : String) :
    let l := RateLimiter.new maxPerMinute burst
    (∀ b, (l.after (calls.map .isAllowed)).buckets.get? senderId = some b →
      0 ≤ b.tokens ∧ b.tokens ≤ burst) ∧
    (∀ s t, s ≤ t → ((l.decisions (calls.map .isAllowed)).countP (fun d =>
      d.2 && decide (d.1.senderId = senderId) && decide (s ≤ d.1.now) &&
        decide (d.1.now ≤ t)) : ℚ) ≤ burst + maxPerMinute / 60 * (t - s)) ∧
    ∀ pre c mid d post, calls = pre ++ c :: (mid ++ d :: post) → c.senderId = senderId →
      d.senderId = senderId → (∀ x ∈ mid, x.senderId ≠ senderId) → 0 < maxPerMinute / 60 →
      1 / (maxPerMinute / 60) ≤ d.now - c.now →
      ((l.after ((pre ++ c :: mid).map .isAllowed)).isAllowed senderId d.creation d.now).1 =
        true := by
  intro l
  have hburst' : 0 ≤ burst := by omega
  refine ⟨fun b hb => ?_, fun s t hst => ?_, ?_⟩
  · obtain ⟨now, hsound⟩ := sound_after hburst' hrate hord
    exact ⟨(hsound.buckets _ _ hb).nonneg, (hsound.buckets _ _ hb).le⟩
  · rw [← grantedWithin_answersFor, mul_comm]
    obtain ⟨now, hfrom⟩ := hord.exists_le_begins
    rw [answersFor_eq hburst' hrate (by simp) hord hfrom (sound_new _ _ _) rfl]
    exact grantedWithin_soleBucket_le hburst' hrate hst hord senderId
  · rintro pre c mid d post rfl hc hd hmid hpos hwait
    have hsplit : InOrder ((pre ++ c :: mid).map .isAllowed ++ (d :: post).map .isAllowed) := by
      simpa using hord
    have hinit := hsplit.left
    obtain ⟨now, hsound⟩ := sound_after hburst' hrate hinit
    subst hc
    obtain ⟨b, hb, hlast⟩ := exists_bucket_after l pre c hmid
    obtain ⟨hanswer, _⟩ := isAllowed_eq (l.after ((pre ++ c :: mid).map .isAllowed)) c.senderId
      d.creation d.now
    rw [hanswer, hb, Option.getD_some]
    apply (hsound.buckets _ _ hb).allowed_of_le hburst hpos
    rw [hlast]
    exact hwait

/-- Four calls at once and one six seconds later, at ten calls a minute and a burst of three: at
most four are allowed. -/
theorem token_bucket_bound_five_calls :
    let calls : List AllowCall := [⟨"a", 0, 0⟩, ⟨"a", 0, 0⟩, ⟨"a", 0, 0⟩, ⟨"a", 0, 0⟩, ⟨"a", 6, 6⟩]
    (((RateLimiter.new 10 3).decisions (calls.map .isAllowed)).countP (fun d =>
      d.2 && decide (d.1.senderId = "a") && decide (0 ≤ d.1.now) && decide (d.1.now ≤ 6)) : ℚ) ≤
        (3 : ℤ) + 10 / 60 * (6 - 0) := by
  intro calls
  have hord : InOrder (calls.map .isAllowed) := by
    constructor <;> simp [calls, LimiterCall.begins, LimiterCall.ends]
  exact (token_bucket_bound (by decide) (by norm_num) hord "a").2.1 0 6 (by norm_num)

/-- **Senders do not affect each other, and dropping stale buckets is invisible.** In every run of
calls with non-decreasing clock readings, where cleanups drop the buckets that are old enough to
be full again, the decisions about each sender are those of a single bucket that is created at
its first call and kept.

**Proof sketch.** If the rate is not negative, a bucket that a cleanup drops would be full again, so
the decisions are those of one bucket (`answersFor_eq`). Otherwise the age is not negative, so the
burst is not positive, and neither the limiter nor a single bucket allows anything
(`answersFor_of_empty`). -/
theorem stale_buckets_invisible {maxPerMinute maxAge : ℚ} {burst : ℤ} (hburst : 0 ≤ burst)
    (hage : burst ≤ maxPerMinute / 60 * maxAge) (hsign : 0 ≤ maxPerMinute / 60 ∨ 0 ≤ maxAge)
    {calls : List LimiterCall} (hord : InOrder calls)
    (hcleanup : ∀ age now, .cleanupStale age now ∈ calls → age = maxAge) (senderId : String) :
    answersFor senderId (RateLimiter.new maxPerMinute burst) calls =
      soleBucket burst (maxPerMinute / 60) (callsOf senderId calls) := by
  obtain ⟨now, hfrom⟩ := hord.exists_le_begins
  by_cases hrate : 0 ≤ maxPerMinute / 60
  · apply answersFor_eq hburst hrate _ hord hfrom (sound_new _ _ _) rfl
    intro age now' hmem
    rw [hcleanup age now' hmem]
    exact hage
  · -- a bucket that loses tokens has no room for any
    have hloss : maxPerMinute / 60 * maxAge ≤ 0 :=
      mul_nonpos_of_nonpos_of_nonneg (not_le.mp hrate).le (hsign.resolve_left hrate)
    have hempty : burst ≤ 0 := by exact_mod_cast hage.trans hloss
    rw [answersFor_of_empty hempty fun _ _ h => by cases h]
    cases callsOf senderId calls with
    | nil => rfl
    | cons c calls' =>
      rw [soleBucket, TokenBucket.answers_of_empty hempty]
      simp

/-- A sender that calls twice, ten seconds apart, with a cleanup in between that drops its
bucket. -/
theorem stale_buckets_invisible_dropped :
    answersFor "a" (RateLimiter.new 60 5) [.isAllowed ⟨"a", 0, 0⟩, .cleanupStale 5 9,
        .isAllowed ⟨"a", 10, 10⟩] =
      (TokenBucket.new 5 (60 / 60) 0).answers [0, 10] := by
  have hord : InOrder [.isAllowed ⟨"a", 0, 0⟩, .cleanupStale 5 9, .isAllowed ⟨"a", 10, 10⟩] := by
    constructor <;> norm_num [LimiterCall.begins, LimiterCall.ends]
  have hage : ((5 : ℤ) : ℚ) ≤ 60 / 60 * 5 := by norm_num
  have hsole := stale_buckets_invisible (by decide) hage (Or.inr (by norm_num)) hord
    (by simp) "a"
  rw [hsole]
  rfl

/-- With a negative rate and a negative age, dropping a bucket is visible: a bucket of five tokens
loses four of the tokens left after the first call, but the one that replaces it is full. -/
theorem not_stale_buckets_invisible :
    let calls : List LimiterCall := [.isAllowed ⟨"a", 0, 0⟩, .cleanupStale (-10) 0,
      .isAllowed ⟨"a", 4, 4⟩]
    (0 : ℤ) ≤ 5 ∧ ((5 : ℤ) : ℚ) ≤ -60 / 60 * -10 ∧ InOrder calls ∧
      answersFor "a" (RateLimiter.new (-60) 5) calls ≠
        soleBucket 5 (-60 / 60) (callsOf "a" calls) := by
  intro calls
  refine ⟨by decide, by norm_num, ⟨?_, ?_⟩, by decide +kernel⟩ <;>
    simp [calls, LimiterCall.begins, LimiterCall.ends]

end SolMesh

import SolMesh.Gateway.Outflow

set_option relaxedAutoImplicit false
set_option autoImplicit false

/-!
# What a gateway keeps

After any run, each part of a gateway is what the inputs for this part have made of it. The buffers
of unfinished messages are the part that others can fill; but each buffer costs the one that opens
it a token of its bucket, and old buffers are swept away.

## Main definitions

* `SolMesh.OnTime` — inputs whose clock readings do not decrease.

## Main results

* `SolMesh.gateway_components` — the parts of a gateway after a run.
* `SolMesh.exists_opening` — all buffers were opened since the oldest one was.
* `SolMesh.buffers_le` — how many buffers a node can have.
-/

namespace SolMesh

open Py Text

/-! ## The parts of a gateway -/

section Components

variable {F : Type} [Number F] [LT F] [DecidableLT F] {S : Solders} {H : Hashes S}

/-- **Each part of a gateway is what its own inputs have made of it.** After any run of a gateway
from its start: the setup is that of the start; the rate limiter is a new one after one call for
each packet and each request that it decides on; the reassembler is an empty one after the chunks
that the limiter let through; the address book holds of each node the last address that it shared;
and the effects are those of the inputs, one after the other.

**Proof sketch.** A gateway starts with empty books (`exists_of_start`), and each part changes at an
input as the step of this input says. -/
theorem gateway_components {wallets : WalletManager S} {config : ServiceConfig F}
    {passphrase : Text} {now : ℚ} {gw : Gateway F S}
    (hstart : Gateway.start wallets config passphrase now = .ok gw)
    (inputs : List (GatewayInput F S)) :
    Gateway.SameSetup gw (gw.after H inputs) ∧
      (gw.after H inputs).node.rateLimiter =
        (RateLimiter.new config.maxRequestsPerMinute config.rateLimitBurst).after
          (Gateway.limiterCalls config inputs) ∧
      (gw.after H inputs).node.reassembler =
        (∅ : ChunkReassembler).after (gw.chunkCalls H inputs) ∧
      (∀ nodeId, (gw.after H inputs).knownAddresses.get? nodeId =
        Dict.latest GatewayInput.share nodeId inputs) ∧
      (gw.after H inputs).node.events =
        (Conc.along (Gateway.next H) (Gateway.reaction H) gw inputs).flatten := by
  obtain ⟨hotKeypair, rfl, _⟩ := exists_of_start hstart
  refine ⟨Gateway.sameSetup_after H _ inputs, Gateway.rateLimiter_after H _ inputs,
    Gateway.reassembler_after H _ inputs, fun nodeId => ?_, Gateway.events_after H _ inputs⟩
  rw [Gateway.knownAddresses_after]
  exact Option.or_none

/-- The first of two chunks of a message. -/
def firstOfTwo : GatewayInput ℤ sampleSolders :=
  .packet sampleSurroundings (.ofFrame (frameBytes MsgType.txChunk 7 0 2 [1]) "!c")

/-- A chunk, and a request over HTTP with the key of the gateway and one with another key. -/
def sampleInputs : List (GatewayInput ℤ sampleSolders) :=
  [firstOfTwo, .http sampleSurroundings "secret" .slot, .http sampleSurroundings "guess" .slot]

set_option maxRecDepth 4000 in
/-- The parts of the sample gateway after them: the chunk and the first request have asked for a
token, and the chunk was kept. -/
theorem gateway_components_three_inputs :
    (sampleService.after sampleHashes sampleInputs).node.rateLimiter =
        (RateLimiter.new 10 3).after [.isAllowed ⟨"!c", 0, 0⟩, .isAllowed ⟨"http:secret", 0, 0⟩] ∧
      ∃ calls, (sampleService.after sampleHashes sampleInputs).node.reassembler =
        (∅ : ChunkReassembler).after calls ∧ calls.map ChunkCall.key = [("!c", 7)] := by
  obtain ⟨_, hlimiter, hreassembler, _⟩ :=
    gateway_components (H := sampleHashes) start_sampleService sampleInputs
  have hcalls : Gateway.limiterCalls sampleServiceConfig sampleInputs =
      [.isAllowed ⟨"!c", 0, 0⟩, .isAllowed ⟨"http:secret", 0, 0⟩] := rfl
  rw [hcalls] at hlimiter
  exact ⟨hlimiter, _, hreassembler, by decide +kernel⟩

end Components

/-! ## Buffers -/

/-- **All buffers were opened since the oldest one was**, and no later sweep found that one too
old.

**Proof sketch.** Induction on the keys. Each has a call that opened its buffer, and every later
sweep found that one young enough (`tracks`). Of the opening for the first key and the one for the
others, the call that comes first serves for all: what follows the later one follows it too. -/
lemma exists_opening {calls : List ChunkCall} {held : List (String × ℕ)} (hne : held ≠ [])
    (hheld : ∀ key ∈ held, ((∅ : ChunkReassembler).after calls).buffers.get? key ≠ none) :
    ∃ (p : List ChunkCall) (o : ChunkCall) (q : List ChunkCall), calls = p ++ o :: q ∧
      (∀ c ∈ q, c.clock.expiry o.key - o.clock.creation ≤ (chunkReassemblyTimeout : ℕ)) ∧
      held ⊆ (o :: q).map ChunkCall.key := by
  induction held with
  | nil => exact absurd rfl hne
  | cons key held ih =>
    obtain ⟨buf, hbuf⟩ := Option.ne_none_iff_exists'.mp (hheld key List.mem_cons_self)
    have htracks : Tracks ∅ key calls := tracks rfl calls
    obtain ⟨p, o, q, hcalls, hprogress, hfilled, _⟩ := htracks buf hbuf
    have hown := hprogress.own
    have htime : ∀ c ∈ q, c.clock.expiry o.key - o.clock.creation ≤
        (chunkReassemblyTimeout : ℕ) := by
      rw [hown]
      exact hfilled.inTime
    have hkey : key ∈ (o :: q).map ChunkCall.key := by
      rw [List.map_cons, hown]
      exact List.mem_cons_self
    by_cases hnil : held = []
    · subst hnil
      exact ⟨p, o, q, hcalls, htime, List.cons_subset.mpr ⟨hkey, List.nil_subset _⟩⟩
    obtain ⟨p', o', q', hcalls', htime', hsub⟩ :=
      ih hnil fun k hk => hheld k (List.mem_cons_of_mem _ hk)
    -- the older of the two openings comes before both
    rcases List.append_eq_append_iff.mp (hcalls.symm.trans hcalls') with
      ⟨mid, hp, hrest⟩ | ⟨mid, hp, hrest⟩
    · refine ⟨p, o, q, hcalls, htime, List.cons_subset.mpr ⟨hkey, fun k hk => ?_⟩⟩
      rw [hrest, List.map_append]
      exact List.mem_append_right _ (hsub hk)
    · refine ⟨p', o', q', hcalls', htime', List.cons_subset.mpr ⟨?_, hsub⟩⟩
      rw [hrest, List.map_append]
      exact List.mem_append_right _ hkey

/-! ## Clocks -/

section Clocks

variable {F : Type} {S : Solders}

/-- What the gateway finds at an input. -/
def GatewayInput.surroundings : GatewayInput F S → Surroundings S
  | .packet env _ => env
  | .beacon env _ => env
  | .http env _ _ => env

/-- The clock readings at an input, in the order in which they are made, do not decrease. -/
structure Surroundings.Ordered (env : Surroundings S) : Prop where
  limiter : env.bucketCreation ≤ env.now
  sweep : ∀ key, env.now ≤ env.clock.expiry key
  opening : ∀ key, env.clock.expiry key ≤ env.clock.creation

/-- **The clock readings of a run do not decrease.** -/
structure OnTime (inputs : List (GatewayInput F S)) : Prop where
  within : ∀ input ∈ inputs, input.surroundings.Ordered
  between : inputs.Pairwise fun a b =>
    a.surroundings.clock.creation ≤ b.surroundings.bucketCreation

/-- The readings at a call of the rate limiter. -/
lemma readings_of_limiterCall {config : ServiceConfig F} {input : GatewayInput F S}
    {c : AllowCall} (h : input.limiterCall config = some c) :
    c.creation = input.surroundings.bucketCreation ∧ c.now = input.surroundings.now := by
  cases input with
  | packet env packet =>
    unfold GatewayInput.limiterCall at h
    dsimp only at h
    cases hmessage : packet.message with
    | none => rw [hmessage] at h; cases h
    | some message =>
      rw [hmessage] at h
      dsimp only at h
      split_ifs at h
      cases h
      exact ⟨rfl, rfl⟩
  | beacon env now => cases h
  | http env xApiKey request =>
    unfold GatewayInput.limiterCall at h
    dsimp only at h
    split_ifs at h
    cases h
    exact ⟨rfl, rfl⟩

/-- The calls of the rate limiter are in order.

**Proof sketch.** Each decision of the limiter has the readings of its input
(`readings_of_limiterCall`), and the readings of an input come before those of the next one. -/
lemma OnTime.inOrder {inputs : List (GatewayInput F S)} (h : OnTime inputs)
    (config : ServiceConfig F) : InOrder (Gateway.limiterCalls config inputs) := by
  refine ⟨fun call hcall => ?_, ?_⟩
  · obtain ⟨c, hc, rfl⟩ := List.mem_map.mp hcall
    obtain ⟨input, hmem, hinput⟩ := List.mem_filterMap.mp hc
    obtain ⟨hcreation, hnow⟩ := readings_of_limiterCall hinput
    have hordered := (h.within input hmem).limiter
    rw [← hcreation, ← hnow] at hordered
    exact hordered
  · rw [Gateway.limiterCalls, List.pairwise_map, List.pairwise_filterMap]
    refine h.between.imp_of_mem fun {a b} ha _ hab c hc d hd => ?_
    obtain ⟨_, hnow⟩ := readings_of_limiterCall hc
    obtain ⟨hcreation, _⟩ := readings_of_limiterCall hd
    have hordered := h.within a ha
    have hle := (hordered.sweep ("", 0)).trans ((hordered.opening ("", 0)).trans hab)
    rw [← hnow, ← hcreation] at hle
    exact hle

end Clocks

/-! ## Chunks of a run -/

section Chunks

variable {F : Type} [Number F] [LT F] [DecidableLT F] {S : Solders} {H : Hashes S}
  {gw : Gateway F S} {input : GatewayInput F S} {inputs : List (GatewayInput F S)}

open Gateway

omit [Number F] [LT F] [DecidableLT F] in
/-- A chunk that is handed over is charged to its sender, at the time of the input.

**Proof sketch.** An input that hands over a chunk is a packet with a chunk that was granted a
token. The limiter was asked about its sender (`limiterCall_packet`) at the time of the input, which
lies in the window. -/
lemma charged_of_admittedChunk {c : ChunkCall} (h : gw.admittedChunk input = some c) {s t : ℚ}
    (hs : s ≤ input.surroundings.now) (ht : input.surroundings.now ≤ t) :
    charged [c.senderId] s t gw input = true ∧ c.clock = input.surroundings.clock := by
  unfold admittedChunk at h
  split_ifs at h with hgrants
  cases input with
  | beacon | http => cases h
  | packet env packet =>
    unfold GatewayInput.chunkCall at h
    dsimp only at h
    cases hmessage : packet.message with
    | none => rw [hmessage] at h; cases h
    | some message =>
      rw [hmessage] at h
      dsimp only at h
      split_ifs at h with htype
      cases h
      have hlimited : message.1.msgType ∈ limitedTypes := by
        rw [htype]
        decide
      refine ⟨?_, rfl⟩
      unfold charged GatewayInput.within
      rw [hgrants, limiterCall_packet gw.config env hmessage hlimited]
      have hs' : s ≤ env.now := hs
      have ht' : env.now ≤ t := ht
      simp [AllowCall.within, hs', ht']

/-- The input that a chunk is in, and the chunks of the inputs after it.

**Proof sketch.** Induction on the inputs. If the first one hands over no chunk, the chunk is in a
later input. If it does, either it is the chunk, or it is the first of those before. -/
lemma exists_of_chunkCalls_eq {p q : List ChunkCall} {o : ChunkCall}
    (h : gw.chunkCalls H inputs = p ++ o :: q) :
    ∃ (before : List (GatewayInput F S)) (input : GatewayInput F S)
      (after : List (GatewayInput F S)), inputs = before ++ input :: after ∧
      (gw.after H before).admittedChunk input = some o ∧
      ((gw.after H before).next H input).chunkCalls H after = q := by
  induction inputs generalizing gw p with
  | nil => cases p <;> cases h
  | cons input inputs ih =>
    rw [chunkCalls] at h
    have hlater : ∀ {p' : List ChunkCall},
        (gw.next H input).chunkCalls H inputs = p' ++ o :: q →
          ∃ before input' after, input :: inputs = before ++ input' :: after ∧
            (gw.after H before).admittedChunk input' = some o ∧
            ((gw.after H before).next H input').chunkCalls H after = q := by
      intro p' hrest
      obtain ⟨before, input', after, rfl, hchunk, hq⟩ := ih hrest
      exact ⟨input :: before, input', after, rfl, hchunk, hq⟩
    cases hfirst : gw.admittedChunk input with
    | none =>
      rw [hfirst] at h
      exact hlater h
    | some c =>
      rw [hfirst] at h
      cases p with
      | nil =>
        obtain ⟨rfl, rfl⟩ := List.cons.inj h
        exact ⟨[], input, inputs, rfl, hfirst, rfl⟩
      | cons c' p => exact hlater (List.cons.inj h).2

/-- **The chunks of a sender within a window** are charged to it.

**Proof sketch.** Induction on the inputs. An input that hands over a chunk of the sender is charged
to it (`charged_of_admittedChunk`), because it was made in the window: not before its start by
`hfrom`, and not after its end because the sweep of the chunk comes after it and not after the end.
-/
lemma countP_chunkCalls_le (senderId : String) {key : String × ℕ} {s t : ℚ}
    (hordered : ∀ input ∈ inputs, input.surroundings.Ordered)
    (hfrom : ∀ input ∈ inputs, s ≤ input.surroundings.bucketCreation)
    (hto : ∀ c ∈ gw.chunkCalls H inputs, c.clock.expiry key ≤ t) :
    (gw.chunkCalls H inputs).countP (fun c => decide (c.senderId = senderId)) ≤
      (Conc.along (next H) (charged [senderId] s t) gw inputs).count true := by
  induction inputs generalizing gw with
  | nil => exact le_rfl
  | cons input inputs ih =>
    rw [chunkCalls] at hto ⊢
    have hrest := ih (fun i hi => hordered i (List.mem_cons_of_mem _ hi))
      (fun i hi => hfrom i (List.mem_cons_of_mem _ hi))
      fun c hc => hto c (List.mem_append_right _ hc)
    rw [Conc.along, List.countP_append, List.count_cons]
    cases hfirst : gw.admittedChunk input with
    | none =>
      rw [Option.toList_none, List.countP_nil, Nat.zero_add]
      exact hrest.trans (Nat.le_add_right _ _)
    | some c =>
      have hinput := hordered input List.mem_cons_self
      have hs := (hfrom input List.mem_cons_self).trans hinput.limiter
      have hmem : c ∈ (gw.admittedChunk input).toList ++
          (gw.next H input).chunkCalls H inputs := by
        rw [hfirst]
        exact List.mem_cons_self
      rw [Option.toList_some, List.countP_singleton]
      have hclock : c.clock = input.surroundings.clock :=
        (charged_of_admittedChunk hfirst hs le_rfl).2
      have ht : input.surroundings.now ≤ t := by
        have hle := hto c hmem
        rw [hclock] at hle
        exact (hinput.sweep key).trans hle
      obtain ⟨hcharged, _⟩ := charged_of_admittedChunk hfirst hs ht
      by_cases hsender : c.senderId = senderId
      · rw [hsender] at hcharged
        rw [hcharged]
        simp only [hsender, decide_true, if_true, beq_self_eq_true]
        omega
      · rw [if_neg (by simpa using hsender), Nat.zero_add]
        exact hrest.trans (Nat.le_add_right _ _)

end Chunks

/-! ## How many buffers a node can have -/

section Bound

variable {F : Type} [Number F] [LT F] [DecidableLT F] {S : Solders} {H : Hashes S}

/-- The buffers of a node. -/
def ChunkReassembler.buffersOf (r : ChunkReassembler) (senderId : String) : List (String × ℕ) :=
  r.buffers.keys.filter fun key => decide (key.1 = senderId)

/-- **A node can have only so many buffers.** In every run of a gateway from its start on, with
inputs of any kind, any senders, any contents and clock readings that do not decrease: the gateway
holds no more unfinished messages of a node than the burst of the rate limiter and what the time
until a buffer is too old adds to it, and one.

**Proof sketch.** Consider the oldest buffer of the node. All its buffers were opened by chunks
since then, so there are at most one more than the later chunks of the node (`exists_opening`).
These were charged to it (`countP_chunkCalls_le`), in the time until the oldest buffer is too old,
and the rate limiter grants only so many tokens in this time (`count_charged_le`). -/
theorem buffers_le {wallets : WalletManager S} {config : ServiceConfig F} {passphrase : Text}
    {now : ℚ} {gw : Gateway F S}
    (hstart : Gateway.start wallets config passphrase now = .ok gw)
    (hburst : 0 ≤ config.rateLimitBurst) (hrate : 0 ≤ config.maxRequestsPerMinute)
    {inputs : List (GatewayInput F S)} (hclock : OnTime inputs) (senderId : String) :
    (((gw.after H inputs).node.reassembler.buffersOf senderId).length : ℚ) ≤
      1 + (config.rateLimitBurst +
        config.maxRequestsPerMinute / 60 * (chunkReassemblyTimeout : ℕ)) := by
  have hreassembler : (gw.after H inputs).node.reassembler =
      (∅ : ChunkReassembler).after (gw.chunkCalls H inputs) := by
    obtain ⟨hotKeypair, rfl, _⟩ := exists_of_start hstart
    exact Gateway.reassembler_after H _ inputs
  rw [hreassembler]
  generalize hheld : ((∅ : ChunkReassembler).after (gw.chunkCalls H inputs)).buffersOf senderId =
    held
  have hburst' : (0 : ℚ) ≤ config.rateLimitBurst := by exact_mod_cast hburst
  by_cases hnil : held = []
  · rw [hnil, List.length_nil, Nat.cast_zero]
    positivity
  obtain ⟨p, o, q, hcalls, htime, hsub⟩ := exists_opening hnil fun key hkey => by
    rw [← hheld] at hkey
    exact fun hnone => Dict.get?_eq_none_iff.mp hnone (List.mem_of_mem_filter hkey)
  obtain ⟨before, input, after, rfl, hopen, hq⟩ := exists_of_chunkCalls_eq hcalls
  -- the buffers are opened by the chunks of the node since the oldest was
  have hcount : held.length ≤ 1 + q.countP fun c => decide (c.senderId = senderId) := by
    have hown : held ⊆ ((o :: q).filter fun c => decide (c.senderId = senderId)).map
        ChunkCall.key := by
      intro key hkey
      obtain ⟨c, hc, rfl⟩ := List.mem_map.mp (hsub hkey)
      rw [← hheld] at hkey
      exact List.mem_map_of_mem (List.mem_filter.mpr ⟨hc, (List.mem_filter.mp hkey).2⟩)
    have hnodup : held.Nodup := by
      rw [← hheld]
      exact (Dict.nodup _).filter _
    have hle := (hnodup.subperm hown).length_le
    rw [List.length_map, ← List.countP_eq_length_filter, List.countP_cons] at hle
    split_ifs at hle <;> omega
  obtain ⟨hbefore, hafter, _⟩ := List.pairwise_append.mp hclock.between
  -- which all fall into the time until that one is too old
  have hopened : o.clock = input.surroundings.clock :=
    (charged_of_admittedChunk hopen le_rfl le_rfl).2
  have hfrom : ∀ i ∈ after, o.clock.creation ≤ i.surroundings.bucketCreation := by
    rw [hopened]
    exact (List.pairwise_cons.mp hafter).1
  have hto : ∀ c ∈ ((gw.after H before).next H input).chunkCalls H after,
      c.clock.expiry o.key ≤ o.clock.creation + (chunkReassemblyTimeout : ℕ) := by
    intro c hc
    have hle := htime c (hq ▸ hc)
    linarith
  have hcharged := countP_chunkCalls_le senderId
    (fun i hi => hclock.within i (List.mem_append_right _ (List.mem_cons_of_mem _ hi))) hfrom hto
  rw [hq] at hcharged
  have hpart : (Conc.along (Gateway.next H) (Gateway.charged [senderId] o.clock.creation
      (o.clock.creation + (chunkReassemblyTimeout : ℕ))) ((gw.after H before).next H input)
        after).count true ≤ (Conc.along (Gateway.next H) (Gateway.charged [senderId]
      o.clock.creation (o.clock.creation + (chunkReassemblyTimeout : ℕ))) gw
        (before ++ input :: after)).count true := by
    rw [Conc.along_append, List.count_append, Conc.along, List.count_cons]
    exact (Nat.le_add_right _ _).trans (Nat.le_add_left _ _)
  have hbound := count_charged_le (H := H) hstart hburst hrate (hclock.inOrder config)
    (le_add_of_nonneg_right (Nat.cast_nonneg chunkReassemblyTimeout) :
      o.clock.creation ≤ o.clock.creation + (chunkReassemblyTimeout : ℕ)) [senderId]
  rw [List.length_singleton, Nat.cast_one, one_mul, add_sub_cancel_left] at hbound
  have htotal : (held.length : ℚ) ≤ ((1 + _ : ℕ) : ℚ) :=
    Nat.cast_le.mpr (hcount.trans (Nat.add_le_add_left (hcharged.trans hpart) 1))
  rw [Nat.cast_add, Nat.cast_one] at htotal
  exact htotal.trans (add_le_add_right hbound 1)

/-- A node that sent the first of two chunks has a buffer, and cannot have more than 24. -/
theorem buffers_le_one_chunk :
    (((sampleService.after sampleHashes [firstOfTwo]).node.reassembler.buffersOf "!c").length : ℚ) ≤
      1 + ((3 : ℤ) + 10 / 60 * (120 : ℕ)) := by
  have hordered : Surroundings.Ordered sampleSurroundings :=
    ⟨le_rfl, fun _ => le_rfl, fun _ => le_rfl⟩
  have hclock : OnTime [firstOfTwo] :=
    ⟨fun input hinput => (List.mem_singleton.mp hinput) ▸ hordered, List.pairwise_singleton _ _⟩
  exact buffers_le start_sampleService (by decide) (by decide) hclock "!c"

end Bound

end SolMesh

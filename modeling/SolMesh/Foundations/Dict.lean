import Mathlib.Data.List.Nodup
import Mathlib.Data.Finset.Card
import Mathlib.Tactic.Ring

set_option relaxedAutoImplicit false
set_option autoImplicit false

/-!
# Insertion-ordered dictionaries

A dictionary is a list of entries with distinct keys, in the order of insertion. Assigning to a
present key keeps its place, assigning to a new key appends an entry, deleting removes it.

## Main definitions

* `Dict` — entries with distinct keys; `Dict.get?`, `Dict.set`, `Dict.erase`, `Dict.filter`.
* `Dict.ofList` — the dictionary a list of pairs assigns from left to right.
* `Dict.Tabulates` — the dictionary holds the values of a function at the keys of a list.

## Main results

* `Dict.get?_set_self`, `Dict.get?_set_of_ne`, `Dict.get?_erase_self`, `Dict.get?_erase_of_ne`,
  `Dict.get?_filter` — what a lookup gives after each operation.
* `Dict.size_eq_iff_of_keys_lt` — a dictionary whose keys are below `n` has `n` entries exactly
  if it has every key below `n`.
-/

/-- Entries with distinct keys, in the order of insertion. -/
@[ext]
structure Dict (κ β : Type) where
  entries : List (κ × β)
  nodup : (entries.map Prod.fst).Nodup

namespace Dict

variable {κ β : Type}

/-- The dictionary without entries. -/
def empty : Dict κ β := ⟨[], by simp⟩

instance : EmptyCollection (Dict κ β) := ⟨empty⟩

instance : Inhabited (Dict κ β) := ⟨∅⟩

/-- The keys in the order of insertion. -/
def keys (d : Dict κ β) : List κ := d.entries.map Prod.fst

/-- The number of entries. -/
def size (d : Dict κ β) : ℕ := d.entries.length

/-- The entries whose key and value pass a test. -/
def filter (p : κ → β → Bool) (d : Dict κ β) : Dict κ β where
  entries := d.entries.filter fun e => p e.1 e.2
  nodup := d.nodup.sublist (List.filter_sublist.map Prod.fst)

variable [DecidableEq κ]

/-- The value stored under a key. -/
def get? (d : Dict κ β) (k : κ) : Option β :=
  (d.entries.find? fun e => decide (e.1 = k)).map Prod.snd

/-- Is the key present? -/
def contains (d : Dict κ β) (k : κ) : Bool := (d.get? k).isSome

/-- A key with a value is present. -/
lemma contains_of_get?_eq_some {d : Dict κ β} {k : κ} {v : β} (h : d.get? k = some v) :
    d.contains k = true := by
  rw [contains, h]
  rfl

/-- A key without a value is not. -/
lemma contains_of_get?_eq_none {d : Dict κ β} {k : κ} (h : d.get? k = none) :
    d.contains k = false := by
  rw [contains, h]
  rfl

/-- Assign `v` under `k` in a list of entries. -/
def setEntries (k : κ) (v : β) : List (κ × β) → List (κ × β)
  | [] => [(k, v)]
  | e :: es => if e.1 = k then (k, v) :: es else e :: setEntries k v es

/-- Assigning adds at most the key it assigns. -/
lemma mem_keys_setEntries {k k' : κ} {v : β} {es : List (κ × β)} :
    k' ∈ (setEntries k v es).map Prod.fst ↔ k' = k ∨ k' ∈ es.map Prod.fst := by
  induction es with
  | nil => simp [setEntries]
  | cons e es ih =>
    rw [setEntries]
    split_ifs with h
    · simp only [List.map_cons, List.mem_cons]
      rw [← h]
      tauto
    · simp only [List.map_cons, List.mem_cons, ih]
      tauto

/-- Assigning keeps the keys distinct. -/
lemma nodup_setEntries {k : κ} {v : β} {es : List (κ × β)} (h : (es.map Prod.fst).Nodup) :
    ((setEntries k v es).map Prod.fst).Nodup := by
  induction es with
  | nil => simp [setEntries]
  | cons e es ih =>
    rw [List.map_cons, List.nodup_cons] at h
    rw [setEntries]
    split_ifs with he
    · rw [List.map_cons, List.nodup_cons]
      exact ⟨by rw [← he]; exact h.1, h.2⟩
    · rw [List.map_cons, List.nodup_cons, mem_keys_setEntries]
      refine ⟨?_, ih h.2⟩
      rintro (h' | h')
      · exact he h'
      · exact h.1 h'

/-- Assign `v` under `k`. -/
def set (d : Dict κ β) (k : κ) (v : β) : Dict κ β :=
  ⟨setEntries k v d.entries, nodup_setEntries d.nodup⟩

/-- Delete the entry under `k`, if there is one. -/
def erase (d : Dict κ β) (k : κ) : Dict κ β := d.filter fun k' _ => decide (k' ≠ k)

/-- The dictionary a list of pairs assigns from left to right. -/
def ofList (es : List (κ × β)) : Dict κ β := es.foldl (fun d e => d.set e.1 e.2) ∅

/-! ## Lookups -/

@[simp] lemma get?_empty (k : κ) : (∅ : Dict κ β).get? k = none := rfl

/-- An entry is found under its key, and nothing else is.

**Proof sketch.** Induction on the entries. The first entry of a key is its only one, as the keys
differ. -/
lemma get?_eq_some_iff {d : Dict κ β} {k : κ} {v : β} :
    d.get? k = some v ↔ (k, v) ∈ d.entries := by
  obtain ⟨es, hes⟩ := d
  simp only [get?]
  induction es with
  | nil => simp
  | cons e es ih =>
    obtain ⟨k', v'⟩ := e
    rw [List.map_cons, List.nodup_cons] at hes
    by_cases h : k' = k
    · subst h
      have hnot : (k', v) ∉ es := fun hm =>
        hes.1 (List.mem_map.mpr ⟨(k', v), hm, rfl⟩)
      simp [hnot, eq_comm]
    · have h' : ¬ k = k' := fun he => h he.symm
      rw [List.find?_cons, decide_eq_false h]
      simp [ih hes.2, h']

/-- A key is found exactly if it is one of the keys. -/
lemma get?_eq_none_iff {d : Dict κ β} {k : κ} : d.get? k = none ↔ k ∉ d.keys := by
  rw [← not_iff_not, ← ne_eq, Option.ne_none_iff_exists', not_not]
  simp [get?_eq_some_iff, keys]

/-- A lookup in a filtered dictionary is the filtered lookup. -/
lemma get?_filter (d : Dict κ β) (p : κ → β → Bool) (k : κ) :
    (d.filter p).get? k = (d.get? k).filter (p k) := by
  ext v
  rw [get?_eq_some_iff, Option.filter_eq_some_iff, get?_eq_some_iff]
  simp [filter]

/-- The deleted key is gone. -/
@[simp] lemma get?_erase_self (d : Dict κ β) (k : κ) : (d.erase k).get? k = none := by
  rw [erase, get?_filter]
  cases d.get? k <;> simp

/-- Deleting a key leaves every other lookup alone. -/
lemma get?_erase_of_ne (d : Dict κ β) {k k' : κ} (h : k' ≠ k) :
    (d.erase k).get? k' = d.get? k' := by
  rw [erase, get?_filter]
  cases d.get? k' <;> simp [h]

/-- After deleting several keys, they are gone and the other lookups are as before. -/
lemma get?_foldl_erase (ks : List κ) (d : Dict κ β) (k : κ) :
    (ks.foldl erase d).get? k = if k ∈ ks then none else d.get? k := by
  induction ks generalizing d with
  | nil => simp
  | cons k' ks ih =>
    rw [List.foldl_cons, ih]
    by_cases hk : k = k'
    · subst hk
      simp
    · simp [hk, get?_erase_of_ne d hk]

/-- Deleting the keys of the entries with a property keeps exactly the other entries. -/
lemma get?_foldl_erase_filter (d : Dict κ β) (p : κ → β → Bool) (k : κ) :
    ((d.filter p).keys.foldl erase d).get? k = (d.get? k).filter fun v => !p k v := by
  have hmem : k ∈ (d.filter p).keys ↔ (d.get? k).filter (p k) ≠ none := by
    rw [← get?_filter, ne_eq, get?_eq_none_iff, not_not]
  simp only [get?_foldl_erase, hmem]
  cases d.get? k with
  | none => simp
  | some v => cases hp : p k v <;> simp [Option.filter, hp]

/-- The assigned entry is the first one with its key. -/
lemma find?_setEntries_self (k : κ) (v : β) (es : List (κ × β)) :
    ((setEntries k v es).find? fun e => decide (e.1 = k)) = some (k, v) := by
  induction es with
  | nil => simp [setEntries]
  | cons e es ih =>
    rw [setEntries]
    split_ifs with he
    · simp
    · rw [List.find?_cons, decide_eq_false he]
      exact ih

/-- Assigning a key leaves the first entries with other keys alone. -/
lemma find?_setEntries_of_ne {k k' : κ} (h : k' ≠ k) (v : β) (es : List (κ × β)) :
    ((setEntries k v es).find? fun e => decide (e.1 = k')) =
      es.find? fun e => decide (e.1 = k') := by
  induction es with
  | nil => simp [setEntries, Ne.symm h]
  | cons e es ih =>
    rw [setEntries]
    split_ifs with he
    · have h' : ¬ k = k' := Ne.symm h
      simp [he, h']
    · rw [List.find?_cons, List.find?_cons, ih]

/-- The assigned value is found. -/
@[simp] lemma get?_set_self (d : Dict κ β) (k : κ) (v : β) : (d.set k v).get? k = some v := by
  rw [get?, set, find?_setEntries_self, Option.map_some]

/-- Assigning a key leaves every other lookup alone. -/
lemma get?_set_of_ne (d : Dict κ β) {k k' : κ} (h : k' ≠ k) (v : β) :
    (d.set k v).get? k' = d.get? k' := by
  rw [get?, set, find?_setEntries_of_ne h, get?]

/-- A value that is found only after an assignment was assigned. -/
lemma eq_of_get?_set {d : Dict κ β} {k k' : κ} {v v' : β} (h : (d.set k v).get? k' = some v')
    (hbefore : d.get? k' ≠ some v') : k' = k ∧ v = v' := by
  by_cases hk : k' = k
  · rw [hk, get?_set_self] at h
    exact ⟨hk, Option.some.inj h⟩
  · rw [get?_set_of_ne d hk] at h
    exact absurd h hbefore

/-! ## Counting entries -/

omit [DecidableEq κ] in
/-- There are as many keys as entries. -/
lemma length_keys (d : Dict κ β) : d.keys.length = d.size := by simp [keys, size]

/-- **Completeness by counting**: a dictionary whose keys are all below `n` has `n` entries
exactly if every key below `n` is present.

**Proof sketch.** The keys are distinct, so they form a subset of `range n` with as many members
as there are entries. A subset of a finite set is the whole set exactly if it is as large. -/
lemma size_eq_iff_of_keys_lt {d : Dict ℕ β} {n : ℕ} (h : ∀ k ∈ d.keys, k < n) :
    d.size = n ↔ ∀ k < n, k ∈ d.keys := by
  have hcard : d.keys.toFinset.card = d.size := by
    rw [← length_keys]
    exact List.toFinset_card_of_nodup d.nodup
  have hsub : d.keys.toFinset ⊆ Finset.range n := by
    intro k hk
    exact Finset.mem_range.mpr (h k (List.mem_toFinset.mp hk))
  constructor
  · intro hn k hk
    have heq : d.keys.toFinset = Finset.range n :=
      Finset.eq_of_subset_of_card_le hsub (by rw [Finset.card_range, hcard, hn])
    exact List.mem_toFinset.mp (heq ▸ Finset.mem_range.mpr hk)
  · intro hall
    have heq : d.keys.toFinset = Finset.range n := by
      refine Finset.Subset.antisymm hsub fun k hk => ?_
      exact List.mem_toFinset.mpr (hall k (Finset.mem_range.mp hk))
    rw [← hcard, heq, Finset.card_range]

/-- A dictionary with `n` entries and every key below `n` has no other keys. -/
lemma keys_lt_of_size {d : Dict ℕ β} {n : ℕ} (hn : d.size = n) (hall : ∀ k < n, k ∈ d.keys) :
    ∀ k ∈ d.keys, k < n := by
  have hsub : Finset.range n ⊆ d.keys.toFinset := by
    intro k hk
    exact List.mem_toFinset.mpr (hall k (Finset.mem_range.mp hk))
  have hcard : d.keys.toFinset.card = n := by
    rw [← hn, ← length_keys]
    exact List.toFinset_card_of_nodup d.nodup
  have heq : Finset.range n = d.keys.toFinset :=
    Finset.eq_of_subset_of_card_le hsub (by rw [Finset.card_range, hcard])
  intro k hk
  rw [← Finset.mem_range, heq]
  exact List.mem_toFinset.mpr hk

/-! ## Tables of a function -/

/-- The entries of the dictionary are the values of `f` at the members of `ks`. -/
def Tabulates (d : Dict κ β) (f : κ → β) (ks : List κ) : Prop :=
  ∀ k, d.get? k = if k ∈ ks then some (f k) else none

/-- The empty dictionary is the table of no keys. -/
lemma tabulates_empty (f : κ → β) : (∅ : Dict κ β).Tabulates f [] := by
  intro k
  simp

/-- Assigning a value of the function adds its key. -/
lemma Tabulates.set {d : Dict κ β} {f : κ → β} {ks : List κ} (h : d.Tabulates f ks) (k : κ) :
    (d.set k (f k)).Tabulates f (ks ++ [k]) := by
  intro k'
  by_cases hk : k' = k
  · subst hk
    simp
  · rw [get?_set_of_ne d hk, h k']
    simp [hk]

/-- The keys of a table. -/
lemma Tabulates.mem_keys_iff {d : Dict κ β} {f : κ → β} {ks : List κ} (h : d.Tabulates f ks)
    {k : κ} : k ∈ d.keys ↔ k ∈ ks := by
  rw [← not_iff_not, ← get?_eq_none_iff, h k]
  simp

/-- A table over keys below `n` has `n` entries exactly if no key below `n` is missing. -/
lemma Tabulates.size_eq_iff {d : Dict ℕ β} {f : ℕ → β} {ks : List ℕ} (h : d.Tabulates f ks)
    {n : ℕ} (hlt : ∀ k ∈ ks, k < n) : d.size = n ↔ ∀ k < n, k ∈ ks := by
  rw [size_eq_iff_of_keys_lt fun k hk => hlt k (h.mem_keys_iff.mp hk)]
  simp only [h.mem_keys_iff]

end Dict

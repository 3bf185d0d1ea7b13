import Mathlib.Algebra.Order.Ring.Rat
import SolMesh.Foundations.Dict
import SolMesh.Foundations.Python
import SolMesh.Foundations.StableSort

set_option relaxedAutoImplicit false
set_option autoImplicit false

/-!
# JSON values

The objects that `json.loads` gives, with the operations of Python on them: fields of a `dict`,
equality, and the comparison `<`, which raises for most pairs of types. `list.sort` is any procedure
that does what the documentation promises.

## Main definitions

* `Py.Json` — the values.
* `Py.Json.field`, `Py.Json.get`, `Py.Json.getItem`, `Py.Json.set` — the fields of a `dict`.
* `Py.Json.lessThan` — the comparison `<`.
* `Py.IsListSort` — what `list.sort` with a key does.

## Main results

* `Py.Json.field_set_self`, `Py.Json.field_set_of_ne` — a field after an assignment.
* `Py.exists_isListSort` — a sort that raises whenever two keys cannot be compared.
-/

namespace Py

open Text

/-! ## Values -/

/-- A `float`. -/
inductive FloatValue
  | finite (q : ℚ)
  | infinite (negative : Bool)
  | nan
  deriving DecidableEq

/-- `x < y`. -/
def FloatValue.lt : FloatValue → FloatValue → Bool
  | finite p, finite q => decide (p < q)
  | finite _, infinite negative => !negative
  | infinite negative, y => negative && decide (y ≠ nan ∧ y ≠ infinite true)
  | _, _ => false

/-- What `json.loads` gives. The keys of a `dict` are distinct, in the order of insertion. -/
inductive Json
  | null
  | bool (b : Bool)
  | int (n : ℤ)
  | float (x : FloatValue)
  | str (t : Text)
  | list (xs : List Json)
  | dict (fields : List (Text × Json))

namespace Json

/-- The name of the type. -/
def typeName : Json → String
  | null => "NoneType"
  | bool _ => "bool"
  | int _ => "int"
  | float _ => "float"
  | str _ => "str"
  | list _ => "list"
  | dict _ => "dict"

/-- Is it a `dict`? -/
def isDict : Json → Bool
  | dict _ => true
  | _ => false

/-- The field of a `dict`. -/
def field (key : Text) : Json → Option Json
  | dict fields => (fields.find? fun e => decide (e.1 = key)).map Prod.snd
  | _ => none

/-- `value.get(key)`, with `none` for a key that is missing. Only a `dict` has this method. -/
def get (key : Text) (v : Json) : Except Exn (Option Json) :=
  if v.isDict then .ok (v.field key)
  else .error ⟨"AttributeError",
    ofString "'" ++ ofString v.typeName ++ ofString "' object has no attribute 'get'"⟩

/-- `value[key]` with a text for a key. -/
def getItem (key : Text) (v : Json) : Except Exn Json :=
  match v with
  | dict _ => match v.field key with
    | some w => .ok w
    | none => .error ⟨"KeyError", ofString "'" ++ key ++ ofString "'"⟩
  | list _ => .error ⟨"TypeError", ofString "list indices must be integers or slices, not str"⟩
  | str _ => .error ⟨"TypeError", ofString "string indices must be integers, not 'str'"⟩
  | _ => .error ⟨"TypeError",
      ofString "'" ++ ofString v.typeName ++ ofString "' object is not subscriptable"⟩

/-- `bool(value)`. -/
def truthy : Json → Bool
  | null => false
  | bool b => b
  | int n => decide (n ≠ 0)
  | float x => decide (x ≠ .finite 0)
  | str t => !t.isEmpty
  | list xs => !xs.isEmpty
  | dict fields => !fields.isEmpty

/-- `value[key] = v` of a `dict`. -/
def set : Json → Text → Json → Json
  | dict fields, key, v => dict (Dict.setEntries key v fields)
  | other, _, _ => other

/-- Is it equal to this text? -/
def isStr (t : Text) : Json → Bool
  | str s => decide (s = t)
  | _ => false

/-- The value of a number. A `bool` is one. -/
def number? : Json → Option FloatValue
  | bool b => some (.finite (if b then 1 else 0))
  | int n => some (.finite n)
  | float x => some x
  | _ => none

mutual

/-- Are two members of a list, or of a `dict`, equal or the same object? There is one object
`NaN`. -/
def same : Json → Json → Bool
  | null, w => match w with
    | null => true
    | _ => false
  | bool b, w => decide (w.number? = some (.finite (if b then 1 else 0)))
  | int n, w => decide (w.number? = some (.finite n))
  | float x, w => decide (w.number? = some x)
  | str s, w => w.isStr s
  | list xs, w => match w with
    | list ys => sameList xs ys
    | _ => false
  | dict fields, w => match w with
    | dict fields' => decide (fields.length = fields'.length) && sameFields fields fields'
    | _ => false

/-- Are the members of two lists the same? -/
def sameList : List Json → List Json → Bool
  | [], ys => ys.isEmpty
  | x :: xs, ys => match ys with
    | y :: ys => same x y && sameList xs ys
    | [] => false

/-- Does the second `dict` have all fields of the first one? -/
def sameFields : List (Text × Json) → List (Text × Json) → Bool
  | [], _ => true
  | (key, v) :: fields, fields' =>
    (match (fields'.find? fun e => decide (e.1 = key)).map Prod.snd with
    | some w => same v w
    | none => false) && sameFields fields fields'

end

/-- What `<` raises between values of these types. -/
def notOrdered (v w : Json) : Exn :=
  ⟨"TypeError", ofString "'<' not supported between instances of '" ++ ofString v.typeName ++
    ofString "' and '" ++ ofString w.typeName ++ ofString "'"⟩

mutual

/-- `v < w`. Numbers can be compared with numbers, texts with texts and lists with lists. -/
def lessThan : Json → Json → Except Exn Bool
  | str s, w => match w with
    | str t => .ok (decide (s < t))
    | _ => .error (notOrdered (str s) w)
  | list xs, w => match w with
    | list ys => lessThanList xs ys
    | _ => .error (notOrdered (list xs) w)
  | v, w => match v.number?, w.number? with
    | some x, some y => .ok (x.lt y)
    | _, _ => .error (notOrdered v w)

/-- Lists are compared by their first members that are not the same. -/
def lessThanList : List Json → List Json → Except Exn Bool
  | [], ys => .ok !ys.isEmpty
  | x :: xs, ys => match ys with
    | y :: ys => if same x y then lessThanList xs ys else lessThan x y
    | [] => .ok false

end

/-- Two values can be compared. -/
def Comparable (v w : Json) : Prop :=
  (∃ b, lessThan v w = .ok b) ∧ ∃ b, lessThan w v = .ok b

/-- Two numbers can be compared. -/
lemma comparable_of_number {v w : Json} {x y : FloatValue} (hv : v.number? = some x)
    (hw : w.number? = some y) : Comparable v w := by
  have hless : ∀ {v w : Json} {x y : FloatValue}, v.number? = some x → w.number? = some y →
      lessThan v w = .ok (x.lt y) := by
    intro v w x y hv hw
    unfold lessThan
    cases v with
    | str | list => cases hv
    | _ =>
      dsimp only
      rw [hv, hw]
  exact ⟨⟨_, hless hv hw⟩, _, hless hw hv⟩

/-! ### Fields -/

/-- A field that was assigned. -/
@[simp] lemma field_set_self (key : Text) (v : Json) {r : Json} (h : r.isDict) :
    (r.set key v).field key = some v := by
  cases r with
  | dict fields => rw [set, field, Dict.find?_setEntries_self, Option.map_some]
  | _ => cases h

/-- Another field. -/
lemma field_set_of_ne {key key' : Text} (hne : key' ≠ key) (v : Json) (r : Json) :
    (r.set key v).field key' = r.field key' := by
  cases r with
  | dict fields => rw [set, field, Dict.find?_setEntries_of_ne hne, field]
  | _ => rfl

/-- Assigning keeps the type. -/
@[simp] lemma isDict_set (key : Text) (v : Json) (r : Json) : (r.set key v).isDict = r.isDict := by
  cases r <;> rfl

/-- A `dict` has fields. -/
lemma get_of_isDict {r : Json} (h : r.isDict) (key : Text) : r.get key = .ok (r.field key) :=
  if_pos h

/-- A field that a `dict` has. -/
lemma getItem_of_field {r : Json} {key : Text} {v : Json} (h : r.field key = some v) :
    r.getItem key = .ok v := by
  cases r with
  | dict fields =>
    unfold getItem
    dsimp only
    rw [h]
  | _ => cases h

/-- Nothing else has fields. -/
lemma isDict_of_get {r : Json} {key : Text} {v : Option Json} (h : r.get key = .ok v) :
    r.isDict := by
  by_contra hdict
  rw [get, if_neg hdict] at h
  cases h

end Json

/-! ## Sorting -/

/-- The value of a number, and zero for everything else. -/
def Json.rank (v : Json) : ℚ :=
  match v.number? with
  | some (.finite q) => q
  | _ => 0

/-- **What `list.sort` does** with items and their keys: it does not raise if any two keys can be
compared, and gives the same items in another order. If all keys are finite numbers, then this is
the stable order. -/
structure IsListSort {α : Type} (sort : List (Json × α) → Except Exn (List (Json × α))) : Prop where
  returns : ∀ items, (items.Pairwise fun a b => Json.Comparable a.1 b.1) →
    ∃ sorted, sort items = .ok sorted
  perm : ∀ items sorted, sort items = .ok sorted → sorted.Perm items
  stable : ∀ items sorted, sort items = .ok sorted →
    (∀ item ∈ items, ∃ q, item.1.number? = some (.finite q)) →
      Sorting.IsStableSort (fun a b => decide (a.1.rank ≤ b.1.rank)) sorted items

/-- A sort that raises whenever two keys cannot be compared.

**Proof sketch.** Sort by rank, which is stable, but raise if any two keys cannot be compared. -/
lemma exists_isListSort (α : Type) : ∃ sort : List (Json × α) → Except Exn (List (Json × α)),
    IsListSort sort ∧ ∀ items sorted, sort items = .ok sorted →
      items.Pairwise fun a b => Json.Comparable a.1 b.1 := by
  classical
  let le : Json × α → Json × α → Bool := fun a b => decide (a.1.rank ≤ b.1.rank)
  let sort : List (Json × α) → Except Exn (List (Json × α)) := fun items =>
    if items.Pairwise fun a b => Json.Comparable a.1 b.1 then .ok (items.mergeSort le)
    else .error ⟨"TypeError", []⟩
  have hsort : ∀ items sorted, sort items = .ok sorted →
      (items.Pairwise fun a b => Json.Comparable a.1 b.1) ∧ sorted = items.mergeSort le := by
    intro items sorted h
    simp only [sort] at h
    split_ifs at h with hall
    exact ⟨hall, (Except.ok.inj h).symm⟩
  refine ⟨sort, ⟨fun items hall => ⟨_, if_pos hall⟩, fun items sorted h => ?_,
    fun items sorted h _ => ?_⟩, fun items sorted h => (hsort items sorted h).1⟩
  · rw [(hsort items sorted h).2]
    exact List.mergeSort_perm items le
  · rw [(hsort items sorted h).2]
    exact Sorting.isStableSort_mergeSort_key (fun item => item.1.rank) items

end Py

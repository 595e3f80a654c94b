import Mathlib.Data.List.DropRight
import Mathlib.Data.List.Induction

/-!
# Lists that are searched by a key

Elements are appended at the end, keys may repeat, a removal removes every element with a key, and
a search yields the first element with a key. `Op` is what happens to such a list and `replay` the
list after a history of it.

The search can be answered from the history alone: `current` is the first element added with the
key after the last removal of the key.

## Main results

* `find?_replay`: a search of the list is answered by `current`;
* `current_filter_isOn`: operations on other keys have no influence on the answer;
* `replay_eq_surviving`: the list holds the elements that were added and not removed since.
-/

namespace KeyedList

variable {α κ : Type*}

/-- An operation on the list. -/
inductive Op (α κ : Type*)
  | add (a : α)
  | remove (k : κ)

variable [DecidableEq κ] (key : α → κ)

/-- Whether the operation is about the key. -/
def Op.isOn (k : κ) : Op α κ → Bool
  | add a => key a == k
  | remove k' => k' == k

/-- Whether the operation removes the key. -/
def Op.removes (k : κ) : Op α κ → Bool
  | add _ => false
  | remove k' => k' == k

/-- The element that the operation adds with the key. -/
def Op.added (k : κ) : Op α κ → Option α
  | add a => if key a = k then some a else none
  | remove _ => none

/-- The list after an operation. -/
def apply (xs : List α) : Op α κ → List α
  | .add a => xs ++ [a]
  | .remove k => xs.filter fun a => !(key a == k)

/-- The list after a history of operations on the empty list. -/
def replay (ops : List (Op α κ)) : List α := ops.foldl (apply key) []

/-- The operations after the last removal of the key. -/
def sinceRemoval (k : κ) (ops : List (Op α κ)) : List (Op α κ) :=
  ops.rtakeWhile fun op => !op.removes k

/-- The first element added with the key after the last removal of the key. -/
def current (k : κ) (ops : List (Op α κ)) : Option α :=
  (sinceRemoval k ops).findSome? (Op.added key k)

variable {key} {k : κ} {op : Op α κ} {ops : List (Op α κ)}

theorem replay_concat : replay key (ops ++ [op]) = apply key (replay key ops) op := by
  simp [replay]

theorem sinceRemoval_concat :
    sinceRemoval k (ops ++ [op]) = if op.removes k then [] else sinceRemoval k ops ++ [op] := by
  rw [sinceRemoval, List.rtakeWhile_concat]
  cases op.removes k <;> rfl

/-- The elements with a key are those added since the last removal of the key. -/
theorem filter_replay (k : κ) (ops : List (Op α κ)) :
    (replay key ops).filter (fun a => key a == k) =
      (sinceRemoval k ops).filterMap (Op.added key k) := by
  -- on the history, from its last operation
  induction ops using List.reverseRecOn with
  | nil => rfl
  | append_singleton ops op ih =>
    rw [replay_concat, sinceRemoval_concat]
    cases op with
    | add a =>
      by_cases ha : key a = k
      · simp [apply, Op.removes, Op.added, ha, ih]
      · simp [apply, Op.removes, Op.added, ha, ih]
    | remove k' =>
      by_cases hk : k' = k
      · simp [apply, Op.removes, hk]
      · -- the removed elements have another key
        have hsame : (replay key ops).filter (fun a => key a == k && !(key a == k')) =
            (replay key ops).filter fun a => key a == k := by
          refine List.filter_congr fun a _ => ?_
          by_cases ha : key a = k
          · simp [ha, Ne.symm hk]
          · simp [ha]
        simp [apply, Op.removes, Op.added, hk, List.filter_filter, hsame, ih]

/-- A search of the list yields the first element added with the key after its last removal. -/
theorem find?_replay (k : κ) (ops : List (Op α κ)) :
    (replay key ops).find? (fun a => key a == k) = current key k ops := by
  rw [← List.head?_filter, filter_replay, current, List.head?_filterMap]

theorem sinceRemoval_filter_isOn (k : κ) (ops : List (Op α κ)) :
    sinceRemoval k (ops.filter (Op.isOn key k)) =
      (sinceRemoval k ops).filter (Op.isOn key k) := by
  induction ops using List.reverseRecOn with
  | nil => rfl
  | append_singleton ops op ih =>
    rw [List.filter_append, sinceRemoval_concat]
    by_cases hon : op.isOn key k = true
    · rw [List.filter_singleton, hon, cond_true, sinceRemoval_concat, ih]
      split <;> simp [hon]
    · -- an operation on another key is dropped on both sides, and removes nothing here
      have hremoves : op.removes k = false := by
        cases op with
        | add a => rfl
        | remove k' => simpa [Op.isOn, Op.removes] using hon
      simp [hon, hremoves, ih]

/-- Operations on other keys have no influence on what is found. -/
theorem current_filter_isOn (k : κ) (ops : List (Op α κ)) :
    current key k (ops.filter (Op.isOn key k)) = current key k ops := by
  rw [current, sinceRemoval_filter_isOn, ← List.head?_filterMap, List.filterMap_filter,
    List.head?_filterMap, current]
  congr 1
  ext op : 1
  cases op with
  | add a => by_cases ha : key a = k <;> simp [Op.isOn, Op.added, ha]
  | remove k' => simp [Op.added]

/-! ## The whole list -/

variable (key)

/-- The elements that were added and not removed since, in the order of their addition. -/
def surviving : List (Op α κ) → List α
  | [] => []
  | .add a :: ops => if ops.any (Op.removes (key a)) then surviving ops else a :: surviving ops
  | .remove _ :: ops => surviving ops

variable {key}

/-- Operations on a list keep the elements that none of them removes, and add those that none of the
later ones removes. -/
theorem foldl_apply_eq (xs : List α) (ops : List (Op α κ)) :
    ops.foldl (apply key) xs =
      xs.filter (fun a => !ops.any (Op.removes (key a))) ++ surviving key ops := by
  induction ops generalizing xs with
  | nil => simp [surviving]
  | cons op ops ih =>
    rw [List.foldl_cons, ih]
    cases op with
    | add a =>
      by_cases ha : ops.any (Op.removes (key a)) = true
      · simp [apply, surviving, Op.removes, ha]
      · simp [apply, surviving, Op.removes, ha]
    | remove k =>
      -- an element survives both removals iff it survives the one and the other
      simp only [apply, surviving, Op.removes, List.filter_filter, List.any_cons, Bool.not_or]
      congr 1
      refine List.filter_congr fun a _ => ?_
      rw [Bool.and_comm, BEq.comm]

/-- The list holds the elements that were added and not removed since. -/
theorem replay_eq_surviving (ops : List (Op α κ)) : replay key ops = surviving key ops := by
  rw [replay, foldl_apply_eq, List.filter_nil, List.nil_append]

end KeyedList

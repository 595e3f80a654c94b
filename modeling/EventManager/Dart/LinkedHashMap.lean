import Mathlib.Data.List.Nodup
import Mathlib.Data.List.Count

/-!
# Dart's insertion-ordered map

A map literal in Dart is a `LinkedHashMap`: iteration follows the order in which the keys were
first inserted, assigning to a present key keeps its position, and a key occurs once. The
structure carries the last fact, so a map with a repeated key cannot be built.

## Main results

* `lookup_set_self`, `lookup_set_of_ne`, `lookup_remove`: reading after a write;
* `keys_set_of_mem`, `keys_set_of_not_mem`, `mem_keys_set`, `mem_keys_remove`: the keys after a
  write, and with them the length;
* `countP_values_set_le`, `countP_values_set_le_of_neg`: how a write changes the number of values
  with a given property.
-/

namespace Dart

/-- Assign `v` to `k` in a list of entries: in place if `k` is present, at the end otherwise. -/
def setEntries {K V : Type*} [DecidableEq K] (k : K) (v : V) : List (K × V) → List (K × V)
  | [] => [(k, v)]
  | (k', v') :: es => if k' = k then (k, v) :: es else (k', v') :: setEntries k v es

section Entries

variable {K V : Type*} [DecidableEq K] {k k' : K} {v : V} {es : List (K × V)}

theorem keys_setEntries_of_mem (h : k ∈ es.map Prod.fst) :
    (setEntries k v es).map Prod.fst = es.map Prod.fst := by
  induction es with
  | nil => simp at h
  | cons e es ih =>
    by_cases he : e.1 = k
    · simp [setEntries, he]
    · have htail : k ∈ es.map Prod.fst := by
        rcases List.mem_cons.mp h with h | h
        · exact absurd h.symm he
        · exact h
      simp [setEntries, he, ih htail]

theorem setEntries_of_not_mem (h : k ∉ es.map Prod.fst) :
    setEntries k v es = es ++ [(k, v)] := by
  induction es with
  | nil => rfl
  | cons e es ih =>
    simp only [List.map_cons, List.mem_cons, not_or] at h
    simp [setEntries, Ne.symm h.1, ih h.2]

theorem nodup_keys_setEntries (h : (es.map Prod.fst).Nodup) :
    ((setEntries k v es).map Prod.fst).Nodup := by
  by_cases hk : k ∈ es.map Prod.fst
  · rwa [keys_setEntries_of_mem hk]
  · rw [setEntries_of_not_mem hk, List.map_append]
    exact List.nodup_append.mpr ⟨h, by simp, by
      intro a ha b hb hab
      simp only [List.map_cons, List.map_nil, List.mem_singleton] at hb
      exact hk (by rw [← hb, ← hab]; exact ha)⟩

theorem lookup_setEntries_self : (setEntries k v es).lookup k = some v := by
  induction es with
  | nil => simp [setEntries]
  | cons e es ih =>
    obtain ⟨a, b⟩ := e
    by_cases ha : a = k
    · simp [setEntries, ha]
    · -- the head has another key, so the assignment happens in the tail
      have hbeq : (k == a) = false := by simpa using Ne.symm ha
      simp [setEntries, ha, List.lookup_cons, hbeq, ih]

theorem lookup_setEntries_of_ne (h : k' ≠ k) :
    (setEntries k v es).lookup k' = es.lookup k' := by
  have hbeq : (k' == k) = false := by simpa using h
  induction es with
  | nil => simp [setEntries, List.lookup_cons, hbeq]
  | cons e es ih =>
    obtain ⟨a, b⟩ := e
    by_cases ha : a = k
    · simp [setEntries, ha, List.lookup_cons, hbeq]
    · simp [setEntries, ha, List.lookup_cons, ih]

/-- An entry after an assignment is the assigned one or an old one under another key. -/
theorem mem_setEntries {e : K × V} (hnodup : (es.map Prod.fst).Nodup)
    (h : e ∈ setEntries k v es) : e = (k, v) ∨ (e ∈ es ∧ e.1 ≠ k) := by
  induction es with
  | nil => exact Or.inl (by simpa [setEntries] using h)
  | cons a es ih =>
    simp only [List.map_cons, List.nodup_cons] at hnodup
    by_cases ha : a.1 = k
    · -- the head is replaced, and by distinctness no entry of the tail has its key
      simp only [setEntries, ha, ↓reduceIte, List.mem_cons] at h
      rcases h with h | h
      · exact Or.inl h
      · refine Or.inr ⟨List.mem_cons_of_mem _ h, fun hek => hnodup.1 ?_⟩
        rw [ha, ← hek]
        exact List.mem_map_of_mem h
    · simp only [setEntries, ha, ↓reduceIte, List.mem_cons] at h
      rcases h with h | h
      · exact Or.inr ⟨by simp [h], by simpa [h] using ha⟩
      · rcases ih hnodup.2 h with h | h
        · exact Or.inl h
        · exact Or.inr ⟨List.mem_cons_of_mem _ h.1, h.2⟩

/-- An assignment leaves the entries of other kinds of keys as they are. -/
theorem filter_setEntries {p : K → Bool} (hk : p k = false) :
    ((setEntries k v es).filter fun e => p e.1) = es.filter fun e => p e.1 := by
  induction es with
  | nil => simp [setEntries, hk]
  | cons e es ih =>
    by_cases he : e.1 = k
    · simp [setEntries, he, hk]
    · simp [setEntries, he, List.filter_cons, ih]

theorem countP_setEntries_le (p : V → Bool) :
    ((setEntries k v es).map Prod.snd).countP p ≤ (es.map Prod.snd).countP p + 1 := by
  induction es with
  | nil => simpa [setEntries] using List.countP_le_length (p := p) (l := [v])
  | cons e es ih =>
    by_cases he : e.1 = k
    · simp only [setEntries, he, ↓reduceIte, List.map_cons, List.countP_cons]
      split <;> split <;> omega
    · simp only [setEntries, he, ↓reduceIte, List.map_cons, List.countP_cons]
      omega

theorem countP_setEntries_le_of_neg {p : V → Bool} (hv : p v = false) :
    ((setEntries k v es).map Prod.snd).countP p ≤ (es.map Prod.snd).countP p := by
  induction es with
  | nil => simp [setEntries, hv]
  | cons e es ih =>
    by_cases he : e.1 = k
    · simp only [setEntries, he, ↓reduceIte, List.map_cons, List.countP_cons, hv]
      simp
    · simp only [setEntries, he, ↓reduceIte, List.map_cons, List.countP_cons]
      omega

end Entries

/-- A Dart `LinkedHashMap`: its entries in iteration order, with pairwise distinct keys. -/
structure LinkedHashMap (K V : Type*) where
  /-- The entries, in the order in which their keys were first inserted. -/
  entries : List (K × V)
  /-- No key occurs twice. -/
  nodupKeys : (entries.map Prod.fst).Nodup

namespace LinkedHashMap

variable {K V : Type*}

/-- The empty map `{}`. -/
def empty : LinkedHashMap K V := ⟨[], by simp⟩

/-- `map.keys`, in iteration order. -/
def keys (m : LinkedHashMap K V) : List K := m.entries.map Prod.fst

/-- `map.values`, in iteration order. -/
def values (m : LinkedHashMap K V) : List V := m.entries.map Prod.snd

/-- `map.length`. -/
def length (m : LinkedHashMap K V) : ℕ := m.entries.length

variable [DecidableEq K]

instance [DecidableEq V] : DecidableEq (LinkedHashMap K V) := fun m m' =>
  decidable_of_iff (m.entries = m'.entries) (by cases m; cases m'; simp)

/-- `map[k]`, with `none` for Dart's `null` at an absent key. -/
def lookup (m : LinkedHashMap K V) (k : K) : Option V := m.entries.lookup k

/-- `map[k] = v`. -/
def set (m : LinkedHashMap K V) (k : K) (v : V) : LinkedHashMap K V :=
  ⟨setEntries k v m.entries, nodup_keys_setEntries m.nodupKeys⟩

/-- `map.remove(k)`. -/
def remove (m : LinkedHashMap K V) (k : K) : LinkedHashMap K V :=
  ⟨m.entries.filter (·.1 ≠ k), m.nodupKeys.sublist (List.filter_sublist.map _)⟩

variable {m : LinkedHashMap K V} {k k' : K} {v : V}

omit [DecidableEq K] in
@[simp]
theorem length_empty : (empty : LinkedHashMap K V).length = 0 := rfl

omit [DecidableEq K] in
@[simp]
theorem entries_empty : (empty : LinkedHashMap K V).entries = [] := rfl

omit [DecidableEq K] in
@[simp]
theorem length_keys : m.keys.length = m.length := by simp [keys, length]

omit [DecidableEq K] in
@[simp]
theorem length_values : m.values.length = m.length := by simp [values, length]

omit [DecidableEq K] in
theorem nodup_keys : m.keys.Nodup := m.nodupKeys

/-- Since keys are distinct, reading a key gives the value of its only entry. -/
theorem lookup_eq_some_iff : m.lookup k = some v ↔ (k, v) ∈ m.entries := by
  obtain ⟨es, hnodup⟩ := m
  simp only [lookup]
  induction es with
  | nil => simp
  | cons e es ih =>
    obtain ⟨a, b⟩ := e
    simp only [List.map_cons, List.nodup_cons] at hnodup
    by_cases ha : k = a
    · -- the head has the key, so no later entry has it
      subst ha
      have htail : (k, v) ∉ es := fun h => hnodup.1 (List.mem_map_of_mem h)
      simp [htail, eq_comm]
    · have hbeq : (k == a) = false := by simpa using ha
      simp [List.lookup_cons, hbeq, ih hnodup.2, ha]

/-- A key is present iff reading it gives a value. -/
theorem mem_keys_iff : k ∈ m.keys ↔ ∃ v, m.lookup k = some v := by
  constructor
  · intro h
    obtain ⟨e, he, rfl⟩ := List.mem_map.mp h
    exact ⟨e.2, lookup_eq_some_iff.mpr he⟩
  · rintro ⟨v, hv⟩
    exact List.mem_map_of_mem (lookup_eq_some_iff.mp hv)

omit [DecidableEq K] in
theorem mem_keys_of_mem_entries {e : K × V} (h : e ∈ m.entries) : e.1 ∈ m.keys :=
  List.mem_map_of_mem h

@[simp]
theorem lookup_set_self : (m.set k v).lookup k = some v := lookup_setEntries_self

theorem lookup_set_of_ne (h : k' ≠ k) : (m.set k v).lookup k' = m.lookup k' :=
  lookup_setEntries_of_ne h

theorem keys_set_of_mem (h : k ∈ m.keys) : (m.set k v).keys = m.keys :=
  keys_setEntries_of_mem h

theorem keys_set_of_not_mem (h : k ∉ m.keys) : (m.set k v).keys = m.keys ++ [k] := by
  have hset : setEntries k v m.entries = m.entries ++ [(k, v)] := setEntries_of_not_mem h
  simp [keys, set, hset]

@[simp]
theorem mem_keys_set : k' ∈ (m.set k v).keys ↔ k' = k ∨ k' ∈ m.keys := by
  by_cases h : k ∈ m.keys
  · rw [keys_set_of_mem h]
    exact ⟨Or.inr, fun h' => h'.elim (fun h'' => h'' ▸ h) id⟩
  · rw [keys_set_of_not_mem h]
    simp [or_comm]

/-- Assigning to a present key keeps the length. -/
theorem length_set_of_mem (h : k ∈ m.keys) : (m.set k v).length = m.length := by
  rw [← length_keys, keys_set_of_mem h, length_keys]

/-- Assigning to an absent key adds one entry. -/
theorem length_set_of_not_mem (h : k ∉ m.keys) : (m.set k v).length = m.length + 1 := by
  rw [← length_keys, keys_set_of_not_mem h]
  simp

theorem mem_entries_set {e : K × V} (h : e ∈ (m.set k v).entries) :
    e = (k, v) ∨ (e ∈ m.entries ∧ e.1 ≠ k) :=
  mem_setEntries m.nodupKeys h

theorem lookup_remove : (m.remove k).lookup k' = if k' = k then none else m.lookup k' := by
  -- an entry of the smaller map is an entry of the larger one under another key, and conversely
  cases h : (m.remove k).lookup k' with
  | some v =>
    have hmem : (k', v) ∈ m.entries ∧ k' ≠ k := by
      simpa [remove] using lookup_eq_some_iff.mp h
    rw [if_neg hmem.2]
    exact (lookup_eq_some_iff.mpr hmem.1).symm
  | none =>
    split
    · rfl
    · next hne =>
      cases h' : m.lookup k' with
      | none => rfl
      | some v =>
        have hmem : (k', v) ∈ (m.remove k).entries := by
          simpa [remove, hne] using lookup_eq_some_iff.mp h'
        rw [lookup_eq_some_iff.mpr hmem] at h
        exact h.symm

@[simp]
theorem mem_keys_remove : k' ∈ (m.remove k).keys ↔ k' ∈ m.keys ∧ k' ≠ k := by
  simp only [mem_keys_iff, lookup_remove]
  by_cases h : k' = k <;> simp [h]

/-- One assignment adds at most one value with a given property. -/
theorem countP_values_set_le (p : V → Bool) :
    (m.set k v).values.countP p ≤ m.values.countP p + 1 :=
  countP_setEntries_le p

/-- Assigning a value without a property adds no value with it. -/
theorem countP_values_set_le_of_neg {p : V → Bool} (hv : p v = false) :
    (m.set k v).values.countP p ≤ m.values.countP p :=
  countP_setEntries_le_of_neg hv

end LinkedHashMap

end Dart

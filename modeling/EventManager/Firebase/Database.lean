import EventManager.Dart.Dynamic

/-!
# Nodes of a realtime database

A node whose children are records: the children are keyed by strings, and a record is a value
whose own children are its fields. The three writes are those of the Firebase Realtime Database,
each of them atomic:

* `update` writes the fields it is given below one child, leaves the child's other fields as they
  are, and creates the child if it is absent;
* `remove` removes a child;
* `push` adds a child under a new key.

What a listener of the node is given is up to the SDK, so it is a parameter, a `Rendering`: `null`
for a node without children, and otherwise the map of its children or, for some nodes whose keys are
small numbers, a list. `DeliversMaps` says that it is always the map.

## Main results

* `field_update_of_mem`, `field_update_of_not_mem`: the fields of a record after an update;
* `mem_keys_update`, `mem_keys_push`, `mem_keys_remove`: which children exist after a write.
-/

namespace Firebase

open Dart

/-- A node with its children. -/
abbrev Node : Type := LinkedHashMap String Dyn

variable {node : Node} {id id' key name : String} {fields : List (String × Dyn)} {v : Dyn}

/-! ## Records -/

/-- The fields of a record. A value that is no map has none. -/
def entries : Dyn → List (Dyn × Dyn)
  | .map es => es
  | _ => []

/-- The value of a field, `null` if it is absent. -/
def field (record : Dyn) (name : String) : Dyn := Dyn.get (entries record) name

/-- Write the given fields into the entries of a record. -/
def writeFields (es : List (Dyn × Dyn)) (fields : List (String × Dyn)) : List (Dyn × Dyn) :=
  fields.foldl (fun es f => setEntries (.string f.1) f.2 es) es

theorem get_setEntries_self {es : List (Dyn × Dyn)} :
    Dyn.get (setEntries (.string name) v es) name = v := by
  rw [Dyn.get, lookup_setEntries_self]
  rfl

theorem get_setEntries_of_ne {es : List (Dyn × Dyn)} {name' : String} (h : name' ≠ name) :
    Dyn.get (setEntries (.string name) v es) name' = Dyn.get es name' := by
  rw [Dyn.get, lookup_setEntries_of_ne (by simpa using h)]
  rfl

theorem get_writeFields_of_not_mem {es : List (Dyn × Dyn)} (h : name ∉ fields.map Prod.fst) :
    Dyn.get (writeFields es fields) name = Dyn.get es name := by
  induction fields generalizing es with
  | nil => rfl
  | cons f fields ih =>
    simp only [List.map_cons, List.mem_cons, not_or] at h
    -- the first write is under another name, and so are the later ones
    show Dyn.get (writeFields _ fields) name = _
    rw [ih h.2, get_setEntries_of_ne h.1]

/-- With distinct field names, each field has the value written to it. -/
theorem get_writeFields_of_mem {es : List (Dyn × Dyn)} (hnodup : (fields.map Prod.fst).Nodup)
    (h : (name, v) ∈ fields) : Dyn.get (writeFields es fields) name = v := by
  induction fields generalizing es with
  | nil => simp at h
  | cons f fields ih =>
    obtain ⟨hf, hnodup⟩ := List.nodup_cons.mp hnodup
    show Dyn.get (writeFields _ fields) name = v
    rcases List.mem_cons.mp h with rfl | h
    · -- no later field has the same name
      rw [get_writeFields_of_not_mem hf, get_setEntries_self]
    · exact ih hnodup h

/-- Whether the key of an entry is none of the given names. -/
def otherKey (names : List String) (key : Dyn) : Bool := decide (key ∉ names.map Dyn.string)

/-- The entries under keys that are not written stay as they are. -/
theorem filter_writeFields {names : List String} (es : List (Dyn × Dyn))
    (h : fields.map Prod.fst ⊆ names) :
    ((writeFields es fields).filter fun e => otherKey names e.1) =
      es.filter fun e => otherKey names e.1 := by
  induction fields generalizing es with
  | nil => rfl
  | cons f fields ih =>
    obtain ⟨hf, h⟩ := List.cons_subset.mp h
    -- the key of the first write does not pass the filter
    have hkey : otherKey names (.string f.1) = false := by
      simpa [otherKey] using hf
    exact (ih _ h).trans (filter_setEntries hkey)

/-! ## Writes -/

/-- The record of a child, `null` if the child is absent. -/
def child (node : Node) (id : String) : Dyn := (node.lookup id).getD .null

/-- `child(id).update(fields)`. -/
def update (node : Node) (id : String) (fields : List (String × Dyn)) : Node :=
  node.set id (.map (writeFields (entries (child node id)) fields))

/-- `child(id).remove()`. -/
def remove (node : Node) (id : String) : Node := node.remove id

/-- `push().set(fields)`, with the key that `push` yields. -/
def push (node : Node) (key : String) (fields : List (String × Dyn)) : Node :=
  node.set key (.map (writeFields [] fields))

@[simp]
theorem mem_keys_update : id' ∈ (update node id fields).keys ↔ id' = id ∨ id' ∈ node.keys :=
  LinkedHashMap.mem_keys_set

@[simp]
theorem mem_keys_push : id' ∈ (push node key fields).keys ↔ id' = key ∨ id' ∈ node.keys :=
  LinkedHashMap.mem_keys_set

@[simp]
theorem mem_keys_remove : id' ∈ (remove node id).keys ↔ id' ∈ node.keys ∧ id' ≠ id :=
  LinkedHashMap.mem_keys_remove

theorem child_update_self :
    child (update node id fields) id = .map (writeFields (entries (child node id)) fields) := by
  rw [child, update, LinkedHashMap.lookup_set_self]
  rfl

theorem child_update_of_ne (h : id' ≠ id) : child (update node id fields) id' = child node id' := by
  rw [child, update, LinkedHashMap.lookup_set_of_ne h]
  rfl

theorem child_push_of_ne (h : id' ≠ key) : child (push node key fields) id' = child node id' := by
  rw [child, push, LinkedHashMap.lookup_set_of_ne h]
  rfl

theorem child_remove_of_ne (h : id' ≠ id) : child (remove node id) id' = child node id' := by
  rw [child, remove, LinkedHashMap.lookup_remove, if_neg h]
  rfl

theorem field_update_of_mem (hnodup : (fields.map Prod.fst).Nodup) (h : (name, v) ∈ fields) :
    field (child (update node id fields) id) name = v := by
  rw [child_update_self]
  exact get_writeFields_of_mem hnodup h

theorem field_update_of_not_mem (h : name ∉ fields.map Prod.fst) :
    field (child (update node id fields) id) name = field (child node id) name := by
  rw [child_update_self]
  exact get_writeFields_of_not_mem h

/-! ## Delivered values -/

/-- The items of a map with the given children. -/
def items (children : List (String × Dyn)) : List (Dyn × Dyn) :=
  children.map fun entry => (.string entry.1, entry.2)

/-- The value is the map of the children of the node, in some order. -/
def IsMapOf (node : Node) (value : Dyn) : Prop :=
  ∃ children, children.Perm node.entries ∧ value = .map (items children)

/-- The values that an SDK delivers to the listeners of a node. -/
structure Rendering where
  value : Node → Dyn
  value_of_nil : ∀ node : Node, node.keys = [] → value node = .null
  value_of_ne_nil : ∀ node : Node, node.keys ≠ [] →
    IsMapOf node (value node) ∨ ∃ elements, value node = .list elements

namespace Rendering

/-- Every node with children is delivered as the map of its children. -/
def DeliversMaps (sdk : Rendering) : Prop :=
  ∀ node : Node, node.keys ≠ [] → IsMapOf node (sdk.value node)

theorem DeliversMaps.ne_list {sdk : Rendering} (hmaps : sdk.DeliversMaps) (node : Node)
    (elements : List Dyn) : sdk.value node ≠ .list elements := by
  by_cases hnil : node.keys = []
  · simp [sdk.value_of_nil node hnil]
  · obtain ⟨children, -, hvalue⟩ := hmaps node hnil
    simp [hvalue]

/-- The rendering that delivers the map of the children in their own order. -/
def maps : Rendering where
  value node := if node.keys = [] then .null else .map (items node.entries)
  value_of_nil _ h := if_pos h
  value_of_ne_nil node h := Or.inl ⟨node.entries, .refl _, if_neg h⟩

theorem deliversMaps_maps : maps.DeliversMaps :=
  fun node h => ⟨node.entries, .refl _, if_neg h⟩

end Rendering

end Firebase

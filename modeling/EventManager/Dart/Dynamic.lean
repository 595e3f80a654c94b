import EventManager.Dart.Console
import EventManager.Dart.LinkedHashMap
import Mathlib.Data.List.Forall2

/-!
# Values of type `dynamic`

The values that reach a Dart program through `dynamic`: what a database delivers, and what a
`Map<String, dynamic>` literal holds. Reading a field is `get`, which yields `null` for an absent
key; `ifNull` is the operator `??`; `asString` and `asInt` are the casts that Dart inserts where a
`dynamic` value meets a `String` or an `int`. `index` is the operator `[]` on a value that may be
no map.

## Main results

* `bind_eq_ok_iff`, `mapM_eq_ok_iff`, `exists_of_mapM_eq_error`: inversion of computations that may
  throw.
-/

namespace Dart

/-- A value of type `dynamic`. -/
inductive Dyn
  | null
  | bool (b : Bool)
  | int (i : Int64)
  /-- A double, given by the text that `toString` prints for it. -/
  | double (text : String)
  | string (s : String)
  | list (elements : List Dyn)
  /-- A map, given by its entries in iteration order. -/
  | map (entries : List (Dyn × Dyn))

namespace Dyn

/-! ## Equality -/

mutual

/-- Decidable equality of values. The deriving handler does not cover the nested lists. -/
def decEq : (x y : Dyn) → Decidable (x = y)
  | null, null => isTrue rfl
  | bool x, bool y => decidable_of_iff (x = y) (by simp)
  | int x, int y => decidable_of_iff (x = y) (by simp)
  | double x, double y => decidable_of_iff (x = y) (by simp)
  | string x, string y => decidable_of_iff (x = y) (by simp)
  | list xs, list ys => @decidable_of_iff _ (xs = ys) (by simp) (decEqList xs ys)
  | map xs, map ys => @decidable_of_iff _ (xs = ys) (by simp) (decEqEntries xs ys)
  | null, bool _ | null, int _ | null, double _ | null, string _ | null, list _ | null, map _
  | bool _, null | bool _, int _ | bool _, double _ | bool _, string _ | bool _, list _
  | bool _, map _ | int _, null | int _, bool _ | int _, double _ | int _, string _
  | int _, list _ | int _, map _ | double _, null | double _, bool _ | double _, int _
  | double _, string _ | double _, list _ | double _, map _ | string _, null | string _, bool _
  | string _, int _ | string _, double _ | string _, list _ | string _, map _ | list _, null
  | list _, bool _ | list _, int _ | list _, double _ | list _, string _ | list _, map _
  | map _, null | map _, bool _ | map _, int _ | map _, double _ | map _, string _
  | map _, list _ => isFalse nofun

/-- Decidable equality of lists of values. -/
def decEqList : (xs ys : List Dyn) → Decidable (xs = ys)
  | [], [] => isTrue rfl
  | [], _ :: _ => isFalse nofun
  | _ :: _, [] => isFalse nofun
  | x :: xs, y :: ys =>
    match decEq x y, decEqList xs ys with
    | isTrue h, isTrue hs => isTrue (by rw [h, hs])
    | isFalse h, _ => isFalse (by simp [h])
    | _, isFalse hs => isFalse (by simp [hs])

/-- Decidable equality of lists of entries. -/
def decEqEntries : (xs ys : List (Dyn × Dyn)) → Decidable (xs = ys)
  | [], [] => isTrue rfl
  | [], _ :: _ => isFalse nofun
  | _ :: _, [] => isFalse nofun
  | (k, v) :: xs, (k', v') :: ys =>
    match decEq k k', decEq v v', decEqEntries xs ys with
    | isTrue hk, isTrue hv, isTrue hs => isTrue (by rw [hk, hv, hs])
    | isFalse hk, _, _ => isFalse (by simp [hk])
    | _, isFalse hv, _ => isFalse (by simp [hv])
    | _, _, isFalse hs => isFalse (by simp [hs])

end

instance : DecidableEq Dyn := decEq

/-! ## Texts -/

mutual

/-- `toString()`. -/
def text : Dyn → String
  | null => "null"
  | bool true => "true"
  | bool false => "false"
  | int i => toString i
  | double t => t
  | string s => s
  | list xs => "[" ++ ", ".intercalate (texts xs) ++ "]"
  | map es => "\x7b" ++ ", ".intercalate (entryTexts es) ++ "\x7d"

/-- `toString()` of each element of a list. -/
def texts : List Dyn → List String
  | [] => []
  | x :: xs => text x :: texts xs

/-- `key: value` for each entry of a map. -/
def entryTexts : List (Dyn × Dyn) → List String
  | [] => []
  | (k, v) :: es => (text k ++ ": " ++ text v) :: entryTexts es

end

/-! ## Reading -/

/-- `x ?? y`. -/
def ifNull (x y : Dyn) : Dyn :=
  match x with
  | null => y
  | x => x

/-- `entries[key]` for a string key: `null` if the key is absent. -/
def get (entries : List (Dyn × Dyn)) (key : String) : Dyn :=
  (entries.lookup (string key)).getD null

/-- The cast to `String`. -/
def asString : Dyn → Except DartError String
  | string s => .ok s
  | _ => .error .typeError

/-- The cast to `int`. -/
def asInt : Dyn → Except DartError Int64
  | int i => .ok i
  | _ => .error .typeError

/-- The cast to `Map`. -/
def asMap : Dyn → Except DartError (List (Dyn × Dyn))
  | map es => .ok es
  | _ => .error .typeError

/-- The test `is int`. -/
def isInt : Dyn → Bool
  | int _ => true
  | _ => false

/-- The nullable cast `as int?`. -/
def asIntOrNull : Dyn → Except DartError (Option Int64)
  | null => .ok none
  | int i => .ok (some i)
  | _ => .error .typeError

/-- Whether the value is `null` or an `int`. -/
def isIntOrNull : Dyn → Bool
  | null => true
  | int _ => true
  | _ => false

/-- Whether the value is `null` or a `String`. -/
def isStringOrNull : Dyn → Bool
  | null => true
  | string _ => true
  | _ => false

/-- Whether the class of the value has an operator `[]`. -/
def hasIndex : Dyn → Bool
  | string _ => true
  | list _ => true
  | map _ => true
  | _ => false

/-- `value[key]` for a string key. Strings and lists are indexed by integers only. -/
def index (value : Dyn) (key : String) : Except DartError Dyn :=
  match value with
  | map es => .ok (get es key)
  | string _ => .error .typeError
  | list _ => .error .typeError
  | _ => .error .noSuchMethod

@[simp]
theorem ifNull_int (i : Int64) (y : Dyn) : ifNull (int i) y = int i := rfl

@[simp]
theorem text_int (i : Int64) : text (int i) = toString i := by rw [text]

end Dyn

/-! ## Computations that may throw -/

section Except

variable {ε α β : Type}

/-- A sequence of two computations succeeds if both do. -/
theorem bind_eq_ok_iff {x : Except ε α} {f : α → Except ε β} {b : β} :
    (x >>= f) = .ok b ↔ ∃ a, x = .ok a ∧ f a = .ok b := by
  cases x with
  | error e => simp [bind, Except.bind]
  | ok a => simp [bind, Except.bind]

/-- Related elements for all elements of a list can be collected in a list. -/
theorem exists_forall₂_of_forall {R : α → β → Prop} {xs : List α} (h : ∀ x ∈ xs, ∃ y, R x y) :
    ∃ ys, List.Forall₂ R xs ys := by
  induction xs with
  | nil => exact ⟨[], .nil⟩
  | cons x xs ih =>
    obtain ⟨⟨y, hy⟩, h⟩ := List.forall_mem_cons.mp h
    obtain ⟨ys, hys⟩ := ih h
    exact ⟨y :: ys, .cons hy hys⟩

/-- A loop that collects results succeeds if it does on every element. -/
theorem mapM_eq_ok_iff {f : α → Except ε β} {xs : List α} {ys : List β} :
    xs.mapM f = .ok ys ↔ List.Forall₂ (fun x y => f x = .ok y) xs ys := by
  induction xs generalizing ys with
  | nil => cases ys <;> simp [pure, Except.pure]
  | cons x xs ih =>
    rw [List.mapM_cons, List.forall₂_cons_left_iff, bind_eq_ok_iff]
    refine exists_congr fun y => ?_
    constructor
    · rintro ⟨hy, h⟩
      obtain ⟨zs, hzs, h⟩ := bind_eq_ok_iff.mp h
      exact ⟨zs, hy, ih.mp hzs, (Except.ok.inj h).symm⟩
    · rintro ⟨zs, hy, hzs, rfl⟩
      exact ⟨hy, bind_eq_ok_iff.mpr ⟨zs, ih.mpr hzs, rfl⟩⟩

/-- What a loop that collects results yields, it has computed from some element. -/
theorem mem_of_mapM_eq_ok {f : α → Except ε β} {xs : List α} {ys : List β} {y : β}
    (h : xs.mapM f = .ok ys) (hy : y ∈ ys) : ∃ x ∈ xs, f x = .ok y := by
  have hall := mapM_eq_ok_iff.mp h
  clear h
  induction hall with
  | nil => simp at hy
  | @cons x z _ _ hxz _ ih =>
    rcases List.mem_cons.mp hy with rfl | hy
    · exact ⟨x, List.mem_cons_self, hxz⟩
    · obtain ⟨x', hx', hy⟩ := ih hy
      exact ⟨x', List.mem_cons_of_mem x hx', hy⟩

/-- A loop that collects results throws what it throws on some element. -/
theorem exists_of_mapM_eq_error {f : α → Except ε β} {xs : List α} {e : ε}
    (h : xs.mapM f = .error e) : ∃ x ∈ xs, f x = .error e := by
  induction xs with
  | nil => simp [pure, Except.pure] at h
  | cons x xs ih =>
    rw [List.mapM_cons] at h
    cases hx : f x with
    | error e' =>
      simp only [hx, bind, Except.bind, Except.error.injEq] at h
      exact ⟨x, List.mem_cons_self, by rw [hx, h]⟩
    | ok y =>
      cases hxs : xs.mapM f with
      | error e' =>
        simp only [hx, hxs, bind, Except.bind, Except.error.injEq] at h
        obtain ⟨x', hx', he⟩ := ih (by rw [hxs, h])
        exact ⟨x', List.mem_cons_of_mem x hx', he⟩
      | ok ys => simp [hx, hxs, bind, Except.bind, pure, Except.pure] at h

end Except

end Dart

import EventManager.Firebase.Database
import EventManager.ToMathlib.Run

/-!
# A visit to a form page

A page with a form and a submit button whose handler is asynchronous: it runs without interruption
up to its first `await`, where it has either refused the form or pushed a record to a node, and it
goes on when the write is acknowledged, at any later time. It then leaves the page. Until then the
page is on screen and its button is live.

`Page` is such a handler, and `step` interleaves the taps of one visit with the acknowledgements of
its pending writes and with the user leaving the page.

## Main results

* `atMostOne_iff`: a visit adds at most one child to the node iff no accepted tap happens while a
  write of the visit is pending.
-/

namespace Flutter

open Dart

/-- The handler of a submit button for forms of type `F`: which forms it accepts, and the record it
pushes under the key that `push` yields. -/
structure Page (F : Type) where
  accepts : F → Bool
  submit : F → String → Option (List (String × Dyn))
  submit_isSome : ∀ form key, (submit form key).isSome = accepts form

/-- The state of a visit: whether the page is on screen, how many of its writes are not yet
acknowledged, the node, and the keys used so far. -/
structure Visit where
  onScreen : Bool
  pending : ℕ
  node : Firebase.Node
  used : List String

/-- A step of a visit. -/
inductive VisitStep (F : Type)
  /-- A tap on the submit button with the given form, and the key that `push` would yield. -/
  | tap (form : F) (key : String)
  /-- A pending write is acknowledged and its handler goes on. -/
  | ack
  /-- The user leaves the page. -/
  | leave

variable {F : Type} (page : Page F)

/-- The visit begins: the page is on screen and nothing is pending. -/
def Visit.start (node : Firebase.Node) (past : List String) : Visit :=
  ⟨true, 0, node, node.keys ++ past⟩

/-- The step function of a visit. -/
def visitStep (v : Visit) : VisitStep F → Option Visit
  | .tap form key =>
    if v.onScreen then
      match page.submit form key with
      | none => some v
      | some fields =>
        if key ∈ v.used then none
        else some { v with
          pending := v.pending + 1
          node := Firebase.push v.node key fields
          used := key :: v.used }
    else none
  | .ack =>
    -- the handler goes on after its `await` and leaves the page
    if v.pending = 0 then none
    else some { v with pending := v.pending - 1, onScreen := false }
  | .leave => some { v with onScreen := false }

/-- At most one child was added to the node. -/
def AtMostOneNew (node : Firebase.Node) (v : Visit) : Prop := v.node.length ≤ node.length + 1

/-- An accepted tap happens only while no write of the visit is pending. -/
def TapsWhenIdle (v : Visit) (l : VisitStep F) : Prop :=
  ∀ form key, l = .tap form key → page.accepts form = true → v.pending = 0

/-- The invariant behind `atMostOne_iff`: as long as the page is on screen, no write of the visit
has been acknowledged, so the children it has added are the pending writes. -/
structure Counted (node : Firebase.Node) (v : Visit) : Prop where
  used : ∀ key ∈ v.node.keys, key ∈ v.used
  onScreen : v.onScreen = true → v.node.length = node.length + v.pending
  atMostOne : AtMostOneNew node v

variable {page} {node : Firebase.Node} {v v' : Visit} {form : F} {key : String}

theorem counted_start (past : List String) : Counted node (Visit.start node past) :=
  ⟨fun _ h => List.mem_append_left _ h, fun _ => rfl, Nat.le_succ _⟩

/-- An accepted tap adds a child to the node and is pending. -/
theorem visitStep_tap_of_accepts (hused : ∀ key ∈ v.node.keys, key ∈ v.used)
    (haccepts : page.accepts form = true) (hstep : visitStep page v (.tap form key) = some v') :
    v.onScreen = true ∧ v'.onScreen = true ∧ v'.node.length = v.node.length + 1 ∧
      v'.pending = v.pending + 1 ∧ ∀ key ∈ v'.node.keys, key ∈ v'.used := by
  obtain ⟨fields, hfields⟩ : ∃ fields, page.submit form key = some fields := by
    rw [← Option.isSome_iff_exists, page.submit_isSome, haccepts]
  simp only [visitStep, hfields] at hstep
  split at hstep
  · next honScreen =>
    split at hstep
    · simp at hstep
    · next hfresh =>
      obtain rfl := Option.some.inj hstep
      -- a key that was never used is no key of the node
      have hnew : key ∉ v.node.keys := fun h => hfresh (hused key h)
      refine ⟨honScreen, honScreen, LinkedHashMap.length_set_of_not_mem hnew, rfl, ?_⟩
      intro key' hkey'
      rcases Firebase.mem_keys_push.mp hkey' with rfl | hkey'
      · exact List.mem_cons_self
      · exact List.mem_cons_of_mem key (hused key' hkey')
  · simp at hstep

theorem visitStep_tap_of_refuses (haccepts : page.accepts form = false)
    (hstep : visitStep page v (.tap form key) = some v') : v' = v := by
  have hrefused : page.submit form key = none := by
    rw [← Option.not_isSome_iff_eq_none, page.submit_isSome, haccepts]
    simp
  simp only [visitStep, hrefused] at hstep
  split at hstep
  · exact (Option.some.inj hstep).symm
  · simp at hstep

/-- Steps without an accepted tap on top of a pending write keep the invariant. -/
theorem Counted.step {l : VisitStep F} (h : Counted node v) (hidle : TapsWhenIdle page v l)
    (hstep : visitStep page v l = some v') : Counted node v' := by
  cases l with
  | tap form key =>
    cases haccepts : page.accepts form with
    | false => exact visitStep_tap_of_refuses haccepts hstep ▸ h
    | true =>
      obtain ⟨honScreen, honScreen', hlength, hpending, hused⟩ :=
        visitStep_tap_of_accepts h.used haccepts hstep
      -- the tap is the first one of the visit
      have hzero := hidle form key rfl haccepts
      have hcount := h.onScreen honScreen
      refine ⟨hused, fun _ => ?_, ?_⟩
      · omega
      · rw [AtMostOneNew]
        omega
  | ack =>
    simp only [visitStep] at hstep
    split at hstep
    · simp at hstep
    · obtain rfl := Option.some.inj hstep
      exact ⟨h.used, by simp, h.atMostOne⟩
  | leave =>
    obtain rfl := Option.some.inj hstep
    exact ⟨h.used, by simp, h.atMostOne⟩

/-- An accepted tap on top of a pending write adds a second child. -/
theorem Counted.not_atMostOne {l : VisitStep F} (h : Counted node v)
    (hidle : ¬ TapsWhenIdle page v l) (hstep : visitStep page v l = some v') :
    ¬ AtMostOneNew node v' := by
  simp only [TapsWhenIdle, not_forall] at hidle
  obtain ⟨form, key, rfl, haccepts, hpending⟩ := hidle
  obtain ⟨honScreen, -, hlength, -, -⟩ := visitStep_tap_of_accepts h.used haccepts hstep
  -- the pending writes have added their children already
  have hcount := h.onScreen honScreen
  rw [AtMostOneNew]
  omega

/-- A visit adds at most one child, at any point of it, exactly if none of its accepted taps happens
while a write of the visit is pending. -/
theorem atMostOne_iff (page : Page F) (node : Firebase.Node) (past : List String)
    (ls : List (VisitStep F)) :
    LTS.Always (visitStep page) (Visit.start node past) ls (fun _ v => AtMostOneNew node v) ↔
      LTS.Guarded (visitStep page) (Visit.start node past) ls (TapsWhenIdle page) := by
  refine LTS.always_iff_guarded (I := fun _ v => Counted node v) (counted_start past) ?_ ?_ ?_
  · exact fun _ v h => h.atMostOne
  · exact fun _ v l v' h hidle hstep => h.step hidle hstep
  · exact fun _ v l v' h hidle hstep => h.not_atMostOne hidle hstep

end Flutter

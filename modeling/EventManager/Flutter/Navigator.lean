import EventManager.ToMathlib.Run
import Mathlib.Data.List.Pairwise

/-!
# The navigator

A stack of routes, the top one first. A route may carry overlays: its drawer, and the dialogs and
bottom sheets shown above it, the latest first. `pop` closes the latest overlay if there is one and
removes the route otherwise.

Pages are given by a function from the top of the stack and a tap to the operations that the
handler of the tap performs; `navStep` runs them, and adds the back step of the system, which pops
unless it would remove the last route.

## Main results

* `navStep_eq_some`: the steps of a navigator;
* `navStep_outline`: a navigator whose pages carry data steps as the one without the data does;
* `Layered`: no page of a kind lies beneath a page that is not of the kind, and how the operations
  keep that.
-/

namespace Flutter

variable {R O L : Type}

/-- A route on the stack with its overlays. -/
structure Entry (R O : Type) where
  route : R
  overlays : List O
  deriving DecidableEq

/-- The stack of routes. -/
abbrev Navigator (R O : Type) : Type := List (Entry R O)

/-- An operation of a handler. -/
inductive NavOp (R O : Type)
  | push (route : R)
  | pushReplacement (route : R)
  | pop
  /-- Open the drawer, or show a dialog or a bottom sheet. -/
  | present (overlay : O)
  /-- `setState`: the page on top changes its own state. -/
  | setState (route : R)

namespace Navigator

/-- The routes of the stack, the top one first. -/
def routes (n : Navigator R O) : List R := n.map Entry.route

theorem length_routes (n : Navigator R O) : n.routes.length = n.length := List.length_map _

/-- The stack after an operation. -/
def perform (n : Navigator R O) : NavOp R O → Navigator R O
  | .push route => ⟨route, []⟩ :: n
  | .pushReplacement route => ⟨route, []⟩ :: n.tail
  | .pop =>
    match n with
    -- the latest overlay is closed first
    | ⟨route, _ :: overlays⟩ :: rest => ⟨route, overlays⟩ :: rest
    | ⟨_, []⟩ :: rest => rest
    | [] => []
  | .present overlay =>
    match n with
    | ⟨route, overlays⟩ :: rest => ⟨route, overlay :: overlays⟩ :: rest
    | [] => []
  | .setState route =>
    match n with
    | ⟨_, overlays⟩ :: rest => ⟨route, overlays⟩ :: rest
    | [] => []

/-- The stack after the operations of a handler. -/
def performAll (n : Navigator R O) (ops : List (NavOp R O)) : Navigator R O := ops.foldl perform n

end Navigator

/-! ## Steps -/

/-- A step: a tap that some handler answers, or the back step of the system. -/
inductive NavStep (L : Type)
  | tap (tap : L)
  | back
  deriving DecidableEq

/-- The step function of a navigator whose pages answer taps by `handler`. -/
def navStep (handler : Entry R O → L → Option (List (NavOp R O))) (n : Navigator R O) :
    NavStep L → Option (Navigator R O)
  | .tap l =>
    match n with
    | [] => none
    | top :: _ => (handler top l).map n.performAll
  | .back =>
    match n with
    | [] => none
    -- the last route stays
    | ⟨_, []⟩ :: [] => none
    | _ :: _ => some (n.perform .pop)

/-- A step is answered by the handler of the page on top, or it closes an overlay, or it removes a
route above another one. -/
theorem navStep_eq_some {handler : Entry R O → L → Option (List (NavOp R O))}
    {n n' : Navigator R O} {l : NavStep L} (h : navStep handler n l = some n') :
    (∃ top rest t ops, n = top :: rest ∧ l = .tap t ∧ handler top t = some ops ∧
      n' = n.performAll ops) ∨
    (∃ r o os rest, n = ⟨r, o :: os⟩ :: rest ∧ l = .back ∧ n' = ⟨r, os⟩ :: rest) ∨
    ∃ r rest, n = ⟨r, []⟩ :: rest ∧ rest ≠ [] ∧ l = .back ∧ n' = rest := by
  cases l with
  | tap t =>
    cases n with
    | nil => simp [navStep] at h
    | cons top rest =>
      obtain ⟨ops, hops, hn'⟩ := Option.map_eq_some_iff.mp h
      exact Or.inl ⟨top, rest, t, ops, rfl, rfl, hops, hn'.symm⟩
  | back =>
    rcases n with _ | ⟨⟨r, os⟩, rest⟩
    · simp [navStep] at h
    · cases os with
      | cons o os => exact Or.inr (Or.inl ⟨r, o, os, rest, rfl, rfl, (Option.some.inj h).symm⟩)
      | nil =>
        cases rest with
        | nil => simp [navStep] at h
        | cons e rest =>
          exact Or.inr (Or.inr ⟨r, e :: rest, rfl, by simp, rfl, (Option.some.inj h).symm⟩)

/-! ## Outlines -/

section Outline

variable {R' O' L' : Type} (f : R → R') (g : O → O')

/-- The entry with other routes and overlays. -/
def Entry.outline (entry : Entry R O) : Entry R' O' := ⟨f entry.route, entry.overlays.map g⟩

/-- The operation with other routes and overlays. -/
def NavOp.outline : NavOp R O → NavOp R' O'
  | push route => push (f route)
  | pushReplacement route => pushReplacement (f route)
  | pop => pop
  | present overlay => present (g overlay)
  | setState route => setState (f route)

/-- The step with other taps. -/
def NavStep.map (k : L → L') : NavStep L → NavStep L'
  | tap l => tap (k l)
  | back => back

namespace Navigator

/-- The stack with other routes and overlays. -/
def outline (n : Navigator R O) : Navigator R' O' := n.map (Entry.outline f g)

theorem perform_outline (n : Navigator R O) (op : NavOp R O) :
    (n.perform op).outline f g = (n.outline f g).perform (op.outline f g) := by
  cases n with
  | nil => cases op <;> rfl
  | cons top rest =>
    obtain ⟨route, overlays⟩ := top
    cases op with
    | pop => cases overlays <;> rfl
    | _ => rfl

theorem performAll_outline (n : Navigator R O) (ops : List (NavOp R O)) :
    (n.performAll ops).outline f g =
      (n.outline f g).performAll (ops.map (NavOp.outline f g)) := by
  induction ops generalizing n with
  | nil => rfl
  | cons op ops ih =>
    show ((n.perform op).performAll ops).outline f g = _
    rw [ih, perform_outline]
    rfl

end Navigator

variable {f g}

/-- If the handler answers like the other one up to the data of the pages, so do the steps. -/
theorem navStep_outline {handler : Entry R O → L → Option (List (NavOp R O))}
    {handler' : Entry R' O' → L' → Option (List (NavOp R' O'))} {k : L → L'}
    (hhandler : ∀ top l ops, handler top l = some ops →
      handler' (top.outline f g) (k l) = some (ops.map (NavOp.outline f g)))
    {n n' : Navigator R O} {l : NavStep L} (h : navStep handler n l = some n') :
    navStep handler' (n.outline f g) (l.map k) = some (n'.outline f g) := by
  obtain ⟨top, rest, t, ops, rfl, rfl, hops, rfl⟩ | ⟨r, o, os, rest, rfl, rfl, rfl⟩ |
    ⟨r, rest, rfl, hrest, rfl, rfl⟩ := navStep_eq_some h
  · rw [Navigator.performAll_outline]
    show (handler' (top.outline f g) (k t)).map _ = _
    rw [hhandler top t ops hops]
    rfl
  · rfl
  · cases n' with
    | nil => exact absurd rfl hrest
    | cons below rest => rfl

end Outline

/-! ## Layered stacks -/

/-- No page of the kind lies beneath a page that is not of the kind. -/
def Layered (kind : R → Bool) (rs : List R) : Prop :=
  rs.Pairwise fun above below => kind below = true → kind above = true

variable {kind : R → Bool} {top r : R} {rest : List R}

theorem layered_singleton : Layered kind [r] := List.pairwise_singleton _ _

/-- Above a page of the kind only pages of the kind are pushed. -/
theorem Layered.push (h : Layered kind (top :: rest)) (hr : kind top = true → kind r = true) :
    Layered kind (r :: top :: rest) := by
  refine List.pairwise_cons.mpr ⟨fun below hbelow hkind => ?_, h⟩
  rcases List.mem_cons.mp hbelow with rfl | hbelow
  · exact hr hkind
  · exact hr ((List.pairwise_cons.mp h).1 below hbelow hkind)

/-- A page of the kind is replaced only by a page of the kind. -/
theorem Layered.replace (h : Layered kind (top :: rest)) (hr : kind top = true → kind r = true) :
    Layered kind (r :: rest) := by
  obtain ⟨htop, hrest⟩ := List.pairwise_cons.mp h
  exact List.pairwise_cons.mpr ⟨fun below hbelow hkind => hr (htop below hbelow hkind), hrest⟩

/-- Any page may be put on top of a stack without pages of the kind. -/
theorem Layered.replace_of_none (h : Layered kind (top :: rest))
    (hrest : ∀ below ∈ rest, kind below = false) : Layered kind (r :: rest) := by
  refine List.pairwise_cons.mpr ⟨fun below hbelow hkind => ?_, (List.pairwise_cons.mp h).2⟩
  rw [hrest below hbelow] at hkind
  simp at hkind

theorem Layered.pop (h : Layered kind (top :: rest)) : Layered kind rest :=
  (List.pairwise_cons.mp h).2

/-- Beneath a page that is not of the kind there is no page of the kind. -/
theorem Layered.kind_eq_false (h : Layered kind (top :: rest)) (htop : kind top = false) :
    ∀ below ∈ rest, kind below = false := by
  intro below hbelow
  by_contra hkind
  have := (List.pairwise_cons.mp h).1 below hbelow (by simpa using hkind)
  rw [htop] at this
  simp at this

end Flutter

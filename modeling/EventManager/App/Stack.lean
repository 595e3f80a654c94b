import EventManager.App.Navigation
import Mathlib.Data.List.Forall2

/-!
# The bottom of the stack and the highlighted tab

Four pages pop themselves without asking whether another page lies beneath them. They are never at
the bottom: the page at the bottom is `LoginPage` or `EventPage`, since the only pages that are
replaced by another one while they are alone on the stack are these two, and by each other.

The bottom bars of `EventPage` and `DashboardScreen` select the tapped item before they push its
page. The page that is left keeps that item, so when it comes back to the top it highlights the
item of another page.

## Main results

* `bottomRoute_isRoot`: the page at the bottom is `LoginPage` or `EventPage` in every reachable
  stack, so a page that pops itself uncovers another one;
* `Remembers`: every page beneath the one on top has the item selected with which it was left;
* `Highlights.step`, `Highlights.not_highlightsOwn`: what a step does to the highlighted item;
* `highlightsOwn_iff_returnsOtherwise`: the highlighted tab is the page on top throughout a run iff
  no step of the run comes back to a page that was left through its bottom bar.
-/

namespace EventManager.App

open Flutter

variable {n n' : Navigator Route Overlay} {rs rs' : List Route} {l : NavStep Tap}

/-! ## The bottom of the stack -/

/-- The pages that may be at the bottom. -/
def Route.isRoot : Route → Bool
  | loginPage => true
  | eventPage _ => true
  | _ => false

/-- The page at the bottom is `LoginPage` or `EventPage`. -/
def Rooted (rs : List Route) : Prop := ∃ r, rs.getLast? = some r ∧ r.isRoot = true

theorem rooted_launched : Rooted launched.routes := ⟨.loginPage, rfl, rfl⟩

/-- With a page beneath the one on top, only the pages beneath matter. -/
theorem rooted_cons_cons {top r : Route} {rest : List Route} :
    Rooted (top :: r :: rest) ↔ Rooted (r :: rest) := by
  rw [Rooted, List.getLast?_cons_cons, Rooted]

theorem rooted_singleton {r : Route} : Rooted [r] ↔ r.isRoot = true := by
  simp [Rooted]

/-- The page on top may be replaced if the new one may be at the bottom whenever the old one is. -/
theorem Rooted.replace {top r : Route} {rest : List Route} (h : Rooted (top :: rest))
    (hr : top.isRoot = true → r.isRoot = true) : Rooted (r :: rest) := by
  cases rest with
  | nil => exact rooted_singleton.mpr (hr (rooted_singleton.mp h))
  | cons below rest => exact rooted_cons_cons.mpr (rooted_cons_cons.mp h)

theorem isRoot_select (index : Fin 4) (r : Route) : (r.select index).isRoot = r.isRoot := by
  cases r <;> rfl

theorem Rooted.turn (h : Rooted rs) (hturn : Turn rs l rs') : Rooted rs' := by
  cases hturn with
  | overlay => exact h
  | select => exact h.replace (by simp [Route.isRoot])
  | push => exact rooted_cons_cons.mpr h
  | pushTab top r rest index =>
    exact rooted_cons_cons.mpr (h.replace (by rw [isRoot_select]; exact id))
  | home => exact h.replace fun _ => rfl
  | signedUp => exact h.replace fun _ => rfl
  | logout => exact h.replace fun _ => rfl

/-- A page that pops itself is not at the bottom. -/
theorem Rooted.ne_nil {top : Route} {rest : List Route} (h : Rooted (top :: rest))
    (htop : top.popsItself = true) : rest ≠ [] := by
  rintro rfl
  have hroot := rooted_singleton.mp h
  cases top <;> simp [Route.isRoot, Route.popsItself] at hroot htop

theorem Rooted.step (h : Rooted n.routes) (hstep : navStep handler n l = some n') :
    Rooted n'.routes := by
  by_cases hcloses : Closes n l
  · obtain ⟨top, hn, hlast⟩ := routes_of_closes hstep hcloses
    rw [hn] at h
    cases hn' : n'.routes with
    | nil =>
      -- the last page has not popped itself
      rw [hn'] at h
      exact absurd rfl (h.ne_nil (hlast hn'))
    | cons r rest =>
      rw [hn'] at h
      exact rooted_cons_cons.mp h
  · exact h.turn (turn_of_navStep hstep hcloses)

theorem rooted_of_run {ls : List (NavStep Tap)}
    (hrun : LTS.run (navStep handler) launched ls = some n) : Rooted n.routes :=
  LTS.invariant (I := fun _ n => Rooted n.routes) rooted_launched
    (fun _ _ _ _ h hstep => h.step hstep) hrun

/-- In every stack that the app reaches, the page at the bottom is `LoginPage` or `EventPage`.
Hence a page that pops itself has another one beneath it, and no step empties the stack. -/
theorem bottomRoute_isRoot {ls : List (NavStep Tap)}
    (hrun : LTS.run (navStep handler) launched ls = some n) :
    (∃ r, n.routes.getLast? = some r ∧ (r = .loginPage ∨ ∃ i, r = .eventPage i)) ∧
    (∀ top rest, n.routes = top :: rest →
      top = .signUpPage ∨ top = .scheduleScreen ∨ top = .profilePage ∨ top = .createEventPage →
      rest ≠ []) ∧
    ∀ l n', navStep handler n l = some n' → n'.routes ≠ [] := by
  have h := rooted_of_run hrun
  refine ⟨?_, ?_, ?_⟩
  · obtain ⟨r, hr, hroot⟩ := h
    refine ⟨r, hr, ?_⟩
    cases r <;> simp_all [Route.isRoot]
  · intro top rest hn htop
    rw [hn] at h
    refine h.ne_nil ?_
    rcases htop with rfl | rfl | rfl | rfl <;> rfl
  · intro l n' hstep hnil
    obtain ⟨r, hr, -⟩ := h.step hstep
    simp [hnil] at hr

/-- Sign up from `LoginPage`, go back: `LoginPage` is left. -/
theorem bottomRoute_isRoot_signUp :
    ∃ n n', LTS.run (navStep handler) launched [.tap .openSignUp] = some n ∧
      n.routes = [.signUpPage, .loginPage] ∧
      (∃ r, n.routes.getLast? = some r ∧ (r = .loginPage ∨ ∃ i, r = .eventPage i)) ∧
      navStep handler n (.tap .arrowBack) = some n' ∧ n'.routes = [.loginPage] ∧
      n'.routes ≠ [] := by
  have hrun : LTS.run (navStep handler) launched [.tap .openSignUp] =
      some [⟨.signUpPage, []⟩, ⟨.loginPage, []⟩] := by
    decide
  have hback : navStep handler [⟨.signUpPage, []⟩, ⟨.loginPage, []⟩] (.tap .arrowBack) =
      some [⟨.loginPage, []⟩] := by
    decide
  obtain ⟨hroot, -, hleft⟩ := bottomRoute_isRoot hrun
  exact ⟨_, _, hrun, rfl, hroot, hback, rfl, hleft _ _ hback⟩

/-! ## The highlighted tab -/

/-- The bottom bar of the page on top, if it has one, highlights the item of that page. -/
def HighlightsOwn (n : Navigator Route Overlay) : Prop :=
  (∀ i rest, n.routes = .eventPage i :: rest → i.val = 0) ∧
    ∀ i rest, n.routes = .dashboardScreen i :: rest → i.val = 2

/-- The steps by which the pages beneath the one on top were left, the latest first. A step that
puts a page on top of the stack leaves the one that was on top, and a step that removes a page comes
back to the one beneath it. -/
def leftBy (left : List (NavStep Tap)) (n : Navigator Route Overlay) (l : NavStep Tap)
    (n' : Navigator Route Overlay) : List (NavStep Tap) :=
  if n.length < n'.length then l :: left
  else if n'.length < n.length then left.tail
  else left

/-- If the step removes the page on top, the page beneath it was not left through its bottom bar.
The items of a bottom bar that leave the page are those of other pages. -/
def ReturnsOtherwise (s : Navigator Route Overlay × List (NavStep Tap)) (l : NavStep Tap) : Prop :=
  Closes s.1 l → ∀ left ∈ s.2.head?, ∀ index, left ≠ .tap (.bottomBar index)

theorem ownTab_eventPage {i : Fin 4} : (Route.eventPage i).ownTab = true ↔ i.val = 0 := by
  rw [Route.ownTab, beq_iff_eq, Fin.ext_iff]
  exact Iff.rfl

theorem ownTab_dashboardScreen {i : Fin 4} :
    (Route.dashboardScreen i).ownTab = true ↔ i.val = 2 := by
  rw [Route.ownTab, beq_iff_eq, Fin.ext_iff]
  exact Iff.rfl

theorem highlightsOwn_iff : HighlightsOwn n ↔ ∀ top rest, n.routes = top :: rest →
    top.ownTab = true := by
  constructor
  · rintro ⟨hevents, hdashboard⟩ top rest hn
    cases top with
    | eventPage i => exact ownTab_eventPage.mpr (hevents i rest hn)
    | dashboardScreen i => exact ownTab_dashboardScreen.mpr (hdashboard i rest hn)
    | _ => rfl
  · intro h
    exact ⟨fun i rest hn => ownTab_eventPage.mp (h _ rest hn),
      fun i rest hn => ownTab_dashboardScreen.mp (h _ rest hn)⟩

/-- New pages highlight their own item, and so does the dashboard after a tap on its own item. -/
theorem Turn.ownTab {top : Route} {rest : List Route} (hturn : Turn rs l (top :: rest))
    (h : ∀ top rest, rs = top :: rest → top.ownTab = true) : top.ownTab = true := by
  cases hturn with
  | overlay => exact h top rest rfl
  | push _ _ _ _ _ hown => exact hown
  | pushTab _ _ _ _ _ _ hown => exact hown
  | _ => rfl

theorem select_select (index : Fin 4) (r : Route) :
    (r.select index).select index = r.select index := by
  cases r <;> rfl

/-- What the step by which a page was left says about its bottom bar. -/
structure LeftWith (r : Route) (l : NavStep Tap) : Prop where
  tab : ∀ index, l = .tap (.bottomBar index) → r.select index = r ∧ r.ownTab = false
  other : (∀ index, l ≠ .tap (.bottomBar index)) → r.ownTab = true

/-- Every page beneath the one on top has the item selected with which it was left. -/
def Remembers (left : List (NavStep Tap)) (rs : List Route) : Prop :=
  List.Forall₂ LeftWith rs.tail left

variable {left : List (NavStep Tap)}

/-- A step that does not remove the page on top adds the page that it leaves, if it leaves one. -/
theorem Remembers.turn (h : Remembers left n.routes) (hown : HighlightsOwn n)
    (hturn : Turn n.routes l n'.routes) : Remembers (leftBy left n l n') n'.routes := by
  rw [highlightsOwn_iff] at hown
  simp only [Remembers, leftBy, ← n.length_routes, ← n'.length_routes] at h ⊢
  generalize n.routes = rs at h hown hturn
  generalize n'.routes = rs' at hturn
  cases hturn with
  | push top r rest l _ _ hl =>
    have htop : LeftWith top l := ⟨fun index hindex => absurd hindex (hl index),
      fun _ => hown top rest rfl⟩
    simpa using List.Forall₂.cons htop h
  | pushTab top r rest index _ _ _ hother =>
    -- the page that is left has the tapped item selected
    have htop : LeftWith (top.select index) (.tap (.bottomBar index)) := by
      refine ⟨fun index' hindex => ?_, fun hne => absurd rfl (hne index)⟩
      obtain rfl : index = index' := by simpa using hindex
      exact ⟨select_select index top, hother⟩
    simpa using List.Forall₂.cons htop h
  | _ => simpa using h

/-- A step that removes the page on top forgets how the page beneath it was left. -/
theorem Remembers.closes (h : Remembers left n.routes) {top : Route}
    (hn : n.routes = top :: n'.routes) : Remembers (leftBy left n l n') n'.routes := by
  have hlength : n.length = n'.length + 1 := by
    rw [← n.length_routes, hn, List.length_cons, n'.length_routes]
  rw [Remembers, hn, List.tail_cons] at h
  rw [leftBy, if_neg (by omega), if_pos (by omega), Remembers]
  generalize n'.routes = rs at h
  cases h with
  | nil => exact .nil
  | cons _ hrest => exact hrest

/-- The page beneath the one on top is the one that was left last. -/
theorem Remembers.below {top below : Route} {rest : List Route}
    (h : Remembers left (top :: below :: rest)) : ∃ k ∈ left.head?, LeftWith below k := by
  obtain ⟨k, _, hbelow, -, rfl⟩ := List.forall₂_cons_left_iff.mp h
  exact ⟨k, rfl, hbelow⟩

/-- If a page was left, there is one beneath the one on top. -/
theorem Remembers.exists_below {top : Route} {k : NavStep Tap} (h : Remembers left (top :: rs))
    (hk : k ∈ left.head?) : ∃ below rest, rs = below :: rest ∧ LeftWith below k := by
  obtain ⟨left', rfl⟩ := List.head?_eq_some_iff.mp hk
  obtain ⟨below, rest, hwith, -, hrs⟩ := List.forall₂_cons_right_iff.mp h
  exact ⟨below, rest, hrs, hwith⟩

/-- The page on top highlights its own item, and the pages beneath remember how they were left. -/
structure Highlights (left : List (NavStep Tap)) (n : Navigator Route Overlay) : Prop where
  own : HighlightsOwn n
  remembers : Remembers left n.routes

theorem highlights_launched : Highlights [] launched := by
  refine ⟨?_, .nil⟩
  constructor <;> simp [launched, Navigator.routes]

theorem Highlights.step (h : Highlights left n) (hreturns : ReturnsOtherwise (n, left) l)
    (hstep : navStep handler n l = some n') : Highlights (leftBy left n l n') n' := by
  by_cases hcloses : Closes n l
  · obtain ⟨top, hn, -⟩ := routes_of_closes hstep hcloses
    refine ⟨highlightsOwn_iff.mpr fun below rest hn' => ?_, h.remembers.closes hn⟩
    have hleft := h.remembers
    rw [hn, hn'] at hleft
    obtain ⟨k, hk, hwith⟩ := hleft.below
    exact hwith.other (hreturns hcloses k hk)
  · have hturn := turn_of_navStep hstep hcloses
    refine ⟨highlightsOwn_iff.mpr fun top rest hn' => ?_, h.remembers.turn h.own hturn⟩
    rw [hn'] at hturn
    exact hturn.ownTab (highlightsOwn_iff.mp h.own)

/-- A step that comes back to a page that was left through its bottom bar uncovers the item of
another page. -/
theorem Highlights.not_highlightsOwn (h : Highlights left n)
    (hreturns : ¬ ReturnsOtherwise (n, left) l) (hstep : navStep handler n l = some n') :
    ¬ HighlightsOwn n' := by
  intro hown
  simp only [ReturnsOtherwise, not_forall, not_not] at hreturns
  obtain ⟨hcloses, k, hk, index, rfl⟩ := hreturns
  obtain ⟨top, hn, -⟩ := routes_of_closes hstep hcloses
  have hleft := h.remembers
  rw [hn] at hleft
  obtain ⟨below, rest, hn', hwith⟩ := hleft.exists_below hk
  have hother : below.ownTab = false := (hwith.tab index rfl).2
  rw [highlightsOwn_iff.mp hown below rest hn'] at hother
  exact absurd hother (by simp)

/-- Throughout a run, the bottom bar of the page on top highlights the item of that page exactly if
no step of the run comes back to a page that was left through its bottom bar. -/
theorem highlightsOwn_iff_returnsOtherwise (ls : List (NavStep Tap)) :
    LTS.Always (navStep handler) launched ls (fun _ n => HighlightsOwn n) ↔
      LTS.Guarded (LTS.withHistory (navStep handler) leftBy) (launched, []) ls
        ReturnsOtherwise := by
  refine (LTS.always_withHistory_iff leftBy []).symm.trans ?_
  refine LTS.always_iff_guarded (I := fun _ s => Highlights s.2 s.1) highlights_launched
    (fun _ _ h => h.own) ?_ ?_
  · rintro _ ⟨n, left⟩ l ⟨n', left'⟩ h hreturns hstep
    obtain ⟨hstep, hnote⟩ := LTS.withHistory_eq_some.mp hstep
    obtain rfl : leftBy left n l n' = left' := hnote
    exact h.step hreturns hstep
  · rintro _ ⟨n, left⟩ l ⟨n', left'⟩ h hreturns hstep
    exact h.not_highlightsOwn hreturns (LTS.withHistory_eq_some.mp hstep).1

/-- Log in, open the schedule from the bottom bar and go back: `EventPage` highlights the item of
the schedule. -/
theorem scheduleBack_highlights_schedule :
    ¬ ∀ ls, LTS.Always (navStep handler) launched ls (fun _ n => HighlightsOwn n) := by
  intro hclaim
  have hrun : LTS.run (navStep handler) launched
      [.tap .login, .tap (.bottomBar 1), .tap .arrowBack] = some [⟨.eventPage 1, []⟩] := by
    decide
  have hindex := (hclaim _ _ _ List.prefix_rfl hrun).1 1 [] rfl
  simp at hindex

end EventManager.App

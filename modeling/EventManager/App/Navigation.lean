import EventManager.Flutter.Navigator
import Mathlib.Logic.Relation

/-!
# The pages of the app and their navigation

The routes that the seven pages push, the overlays they show, and for every page the handler of
its taps: the operations on the navigator that the `onPressed`, `onTap` and similar callbacks of
the page perform. A tap reaches a page only when it is on top and, unless it is a tap on an
overlay, when no overlay covers it.

`EventPage` and `DashboardScreen` carry their `_selectedIndex`, which their bottom bars set. The
`pop` after an acknowledged save and the `pushReplacement` after an acknowledged sign-up happen
while their page is on top.

## Main results

* `turn_of_navStep`, `routes_of_closes`: what every step does to the routes, one constructor of
  `Turn` for each kind of step that does not remove the page on top;
* `moves_of_navStep`: every step but a logout moves the routes: it replaces the page on top,
  pushes a page on the same side of the login, or pops;
* `routes_of_confirmLogout`, `routes_of_profileLogout`: what the two logouts do.
-/

namespace EventManager.App

open Flutter

/-- The pages, with the state of the bottom bars. -/
inductive Route
  | loginPage
  | signUpPage
  | eventPage (selectedIndex : Fin 4)
  | dashboardScreen (selectedIndex : Fin 4)
  | scheduleScreen
  | profilePage
  | createEventPage
  deriving DecidableEq, Repr

/-- The pages behind the login. -/
def Route.signedIn : Route → Bool
  | loginPage => false
  | signUpPage => false
  | eventPage _ => true
  | dashboardScreen _ => true
  | scheduleScreen => true
  | profilePage => true
  | createEventPage => true

/-- Drawers, dialogs and bottom sheets. -/
inductive Overlay
  | drawer
  /-- `_showSearchDialog` of `EventPage`. -/
  | searchDialog
  /-- `_showEventDetailsBottomSheet` of `EventPage`. -/
  | detailsSheet
  /-- `_showEventDetailsDialog` of `EventCard`. -/
  | detailsDialog
  /-- `_showLogoutDialog` of `EventPage`. -/
  | logoutDialog
  /-- `_confirmDelete` of `DashboardScreen`. -/
  | deleteDialog
  /-- The dialog of a session on `ScheduleScreen`. -/
  | sessionDialog
  deriving DecidableEq, Repr

/-- The entries of a drawer. -/
inductive DrawerItem
  | events
  | schedule
  | dashboard
  | profile
  | logout
  deriving DecidableEq, Repr

/-- What a user can tap, and the two events that end an asynchronous handler. -/
inductive Tap
  /-- "Login" with a form that the validators accept. -/
  | login
  /-- "Sign Up" on `LoginPage`. -/
  | openSignUp
  /-- The sign-up of `SignUpPage` was acknowledged. -/
  | signedUp
  /-- The arrow in the app bar, or "Cancel" on `CreateEventPage`. -/
  | arrowBack
  /-- The floating button of `EventPage`, or "Edit" on `DashboardScreen`. -/
  | openForm
  /-- The save of `CreateEventPage` was acknowledged. -/
  | saved
  | bottomBar (index : Fin 4)
  | openDrawer
  | drawerItem (item : DrawerItem)
  /-- A button or a card that shows a dialog or a sheet. -/
  | openOverlay (overlay : Overlay)
  /-- A button that closes the dialog or sheet on top. -/
  | closeOverlay
  /-- "Logout" in the logout dialog. -/
  | confirmLogout
  /-- "Logout" on `ProfilePage`. -/
  | profileLogout
  deriving DecidableEq, Repr

/-- The operations of a handler. -/
abbrev Ops : Type := List (NavOp Route Overlay)

/-! ## The handlers -/

/-- `login_page.dart`. -/
def loginPageHandler : List Overlay → Tap → Option Ops
  | [], .login => some [.pushReplacement (.eventPage 0)]
  | [], .openSignUp => some [.push .signUpPage]
  | _, _ => none

/-- `signup_page.dart`. -/
def signUpPageHandler : List Overlay → Tap → Option Ops
  | [], .arrowBack => some [.pop]
  | [], .signedUp => some [.pushReplacement .loginPage]
  | _, _ => none

/-- `_buildBottomNavigationBar` of `EventPage`. -/
def eventPageBottomBar (index : Fin 4) : Ops :=
  -- `setState` comes first, so the page that is left behind keeps the tapped index
  .setState (.eventPage index) ::
    match index with
    | 0 => [.pushReplacement (.eventPage 0)]
    | 1 => [.push .scheduleScreen]
    | 2 => [.push (.dashboardScreen 2)]
    | 3 => [.push .profilePage]

/-- `_buildDrawer` of `EventPage`. The entry "Logout" leaves the drawer open. -/
def eventPageDrawer : DrawerItem → Ops
  | .events => [.pop]
  | .schedule => [.pop, .push .scheduleScreen]
  | .dashboard => [.pop, .push (.dashboardScreen 2)]
  | .profile => [.pop, .push .profilePage]
  | .logout => [.present .logoutDialog]

/-- `EventPage.dart`. -/
def eventPageHandler : List Overlay → Tap → Option Ops
  | [], .openForm => some [.push .createEventPage]
  | [], .bottomBar index => some (eventPageBottomBar index)
  | [], .openDrawer => some [.present .drawer]
  | [], .openOverlay .searchDialog => some [.present .searchDialog]
  | [], .openOverlay .detailsSheet => some [.present .detailsSheet]
  | [], .openOverlay .detailsDialog => some [.present .detailsDialog]
  | .drawer :: _, .drawerItem item => some (eventPageDrawer item)
  | .searchDialog :: _, .closeOverlay => some [.pop]
  | .detailsSheet :: _, .closeOverlay => some [.pop]
  | .detailsDialog :: _, .closeOverlay => some [.pop]
  | .logoutDialog :: _, .closeOverlay => some [.pop]
  -- the dialog is popped, then the page beneath it is replaced with its open drawer
  | .logoutDialog :: _, .confirmLogout => some [.pop, .pushReplacement .loginPage]
  | _, _ => none

/-- `_buildBottomNavigationBar` of `DashboardScreen`. -/
def dashboardBottomBar (index : Fin 4) : Ops :=
  .setState (.dashboardScreen index) ::
    match index with
    | 0 => [.pushReplacement (.eventPage 0)]
    | 1 => [.push .scheduleScreen]
    -- the dashboard itself
    | 2 => []
    | 3 => [.push .profilePage]

/-- `_buildDrawer` of `DashboardScreen`, which has no entry "Logout". -/
def dashboardDrawer : DrawerItem → Option Ops
  | .events => some [.pop, .pushReplacement (.eventPage 0)]
  | .schedule => some [.pop, .push .scheduleScreen]
  | .dashboard => some [.pop]
  | .profile => some [.pop, .push .profilePage]
  | .logout => none

/-- `dashboard_page.dart`. -/
def dashboardHandler : List Overlay → Tap → Option Ops
  | [], .openForm => some [.push .createEventPage]
  | [], .bottomBar index => some (dashboardBottomBar index)
  | [], .openDrawer => some [.present .drawer]
  | [], .openOverlay .deleteDialog => some [.present .deleteDialog]
  | .drawer :: _, .drawerItem item => dashboardDrawer item
  | .deleteDialog :: _, .closeOverlay => some [.pop]
  | _, _ => none

/-- `schedule_page.dart`. -/
def scheduleHandler : List Overlay → Tap → Option Ops
  | [], .arrowBack => some [.pop]
  | [], .openOverlay .sessionDialog => some [.present .sessionDialog]
  | .sessionDialog :: _, .closeOverlay => some [.pop]
  | _, _ => none

/-- `profile_page.dart`. -/
def profileHandler : List Overlay → Tap → Option Ops
  | [], .arrowBack => some [.pop]
  | [], .profileLogout => some [.pushReplacement .loginPage]
  | _, _ => none

/-- `CreatEventPage.dart`. -/
def createEventHandler : List Overlay → Tap → Option Ops
  | [], .arrowBack => some [.pop]
  | [], .saved => some [.pop]
  | _, _ => none

/-- The handler of the page on top. -/
def handler (top : Entry Route Overlay) : Tap → Option Ops :=
  match top.route with
  | .loginPage => loginPageHandler top.overlays
  | .signUpPage => signUpPageHandler top.overlays
  | .eventPage _ => eventPageHandler top.overlays
  | .dashboardScreen _ => dashboardHandler top.overlays
  | .scheduleScreen => scheduleHandler top.overlays
  | .profilePage => profileHandler top.overlays
  | .createEventPage => createEventHandler top.overlays

/-- The stack at program start. -/
def launched : Navigator Route Overlay := [⟨.loginPage, []⟩]

/-! ## What the steps do to the routes -/

namespace Route

/-- The page with the item of its bottom bar selected. -/
def select (index : Fin 4) : Route → Route
  | eventPage _ => eventPage index
  | dashboardScreen _ => dashboardScreen index
  | r => r

/-- Whether the selected item of the bottom bar is the one for the page itself. -/
def ownTab : Route → Bool
  | eventPage index => index == 0
  | dashboardScreen index => index == 2
  | _ => true

/-- The pages with a button that pops the page. -/
def popsItself : Route → Bool
  | signUpPage => true
  | scheduleScreen => true
  | profilePage => true
  | createEventPage => true
  | _ => false

theorem signedIn_select (index : Fin 4) (r : Route) : (r.select index).signedIn = r.signedIn := by
  cases r <;> rfl

theorem select_ne_profilePage {index : Fin 4} {r : Route} (h : r ≠ .profilePage) :
    r.select index ≠ .profilePage := by
  cases r with
  | profilePage => exact absurd rfl h
  | _ => simp [select]

end Route

/-- The step removes the page on top: a button of the page, the acknowledgement of its save, or the
back step of the system without an overlay to close. -/
def Closes (n : Navigator Route Overlay) (l : NavStep Tap) : Prop :=
  l = .tap .arrowBack ∨ l = .tap .saved ∨ l = .back ∧ ∀ top ∈ n.head?, top.overlays = []

/-- What a step that does not remove the page on top does to the routes. -/
inductive Turn : List Route → NavStep Tap → List Route → Prop
  /-- Only overlays change. -/
  | overlay (rs : List Route) (l : NavStep Tap) : Turn rs l rs
  /-- The dashboard's own item of its bottom bar. -/
  | select (index : Fin 4) (rest : List Route) :
      Turn (.dashboardScreen index :: rest) (.tap (.bottomBar 2)) (.dashboardScreen 2 :: rest)
  /-- A new page is pushed, on the same side of the login. -/
  | push (top r : Route) (rest : List Route) (l : NavStep Tap)
      (hside : r.signedIn = top.signedIn) (hown : r.ownTab = true)
      (hl : ∀ index, l ≠ .tap (.bottomBar index)) : Turn (top :: rest) l (r :: top :: rest)
  /-- The bottom bar selects an item, which is not the one for the page itself, then pushes a new
  page. -/
  | pushTab (top r : Route) (rest : List Route) (index : Fin 4) (hbar : top ≠ .profilePage)
      (hside : r.signedIn = top.signedIn) (hown : r.ownTab = true)
      (hother : (top.select index).ownTab = false) :
      Turn (top :: rest) (.tap (.bottomBar index)) (r :: top.select index :: rest)
  /-- The page on top is replaced by a new `EventPage`. -/
  | home (top : Route) (rest : List Route) (l : NavStep Tap) :
      Turn (top :: rest) l (.eventPage 0 :: rest)
  /-- A completed sign-up replaces `SignUpPage` by `LoginPage`. -/
  | signedUp (rest : List Route) :
      Turn (.signUpPage :: rest) (.tap .signedUp) (.loginPage :: rest)
  /-- A logout replaces the page on top by `LoginPage`. -/
  | logout (top : Route) (rest : List Route) (l : NavStep Tap)
      (hl : l = .tap .confirmLogout ∨ l = .tap .profileLogout) :
      Turn (top :: rest) l (.loginPage :: rest)

section Handlers

variable {os : List Overlay} {t : Tap} {ops : Ops} {i : Fin 4} (rest : Navigator Route Overlay)

/-- The case of a handler that answers with `ops'`. -/
theorem turn_of_some_eq {rs : List Route} {n : Navigator Route Overlay} {ops' : Ops}
    {l : NavStep Tap} (h : some ops' = some ops) (hturn : Turn rs l (n.performAll ops').routes) :
    Turn rs l (n.performAll ops).routes := by
  rwa [← Option.some.inj h]

theorem turn_loginPage (h : loginPageHandler os t = some ops) :
    Turn (.loginPage :: rest.routes) (.tap t)
      (Navigator.performAll (⟨.loginPage, os⟩ :: rest) ops).routes := by
  unfold loginPageHandler at h
  split at h
  · exact turn_of_some_eq h (.home _ _ _)
  · exact turn_of_some_eq h (.push _ _ _ _ rfl rfl (by simp))
  · simp at h

theorem turn_signUpPage (h : signUpPageHandler os t = some ops) (ht : t ≠ .arrowBack) :
    Turn (.signUpPage :: rest.routes) (.tap t)
      (Navigator.performAll (⟨.signUpPage, os⟩ :: rest) ops).routes := by
  unfold signUpPageHandler at h
  split at h
  · exact absurd rfl ht
  · exact turn_of_some_eq h (.signedUp _)
  · simp at h

theorem turn_eventPageBottomBar (index : Fin 4) :
    Turn (.eventPage i :: rest.routes) (.tap (.bottomBar index))
      (Navigator.performAll (⟨.eventPage i, []⟩ :: rest) (eventPageBottomBar index)).routes := by
  match index with
  -- the page with the selected item is replaced at once
  | 0 => exact .home _ _ _
  | 1 => exact .pushTab _ _ _ 1 (by simp) rfl rfl rfl
  | 2 => exact .pushTab _ _ _ 2 (by simp) rfl rfl rfl
  | 3 => exact .pushTab _ _ _ 3 (by simp) rfl rfl rfl

theorem turn_eventPageDrawer (item : DrawerItem) :
    Turn (.eventPage i :: rest.routes) (.tap (.drawerItem item))
      (Navigator.performAll (⟨.eventPage i, .drawer :: os⟩ :: rest)
        (eventPageDrawer item)).routes := by
  cases item with
  | events => exact .overlay _ _
  | logout => exact .overlay _ _
  | _ => exact .push _ _ _ _ rfl rfl (by simp)

theorem turn_eventPage (h : eventPageHandler os t = some ops) :
    Turn (.eventPage i :: rest.routes) (.tap t)
      (Navigator.performAll (⟨.eventPage i, os⟩ :: rest) ops).routes := by
  unfold eventPageHandler at h
  split at h
  · exact turn_of_some_eq h (.push _ _ _ _ rfl rfl (by simp))
  · exact turn_of_some_eq h (turn_eventPageBottomBar rest _)
  · exact turn_of_some_eq h (.overlay _ _)
  · exact turn_of_some_eq h (.overlay _ _)
  · exact turn_of_some_eq h (.overlay _ _)
  · exact turn_of_some_eq h (.overlay _ _)
  · exact turn_of_some_eq h (turn_eventPageDrawer rest _)
  · exact turn_of_some_eq h (.overlay _ _)
  · exact turn_of_some_eq h (.overlay _ _)
  · exact turn_of_some_eq h (.overlay _ _)
  · exact turn_of_some_eq h (.overlay _ _)
  · exact turn_of_some_eq h (.logout _ _ _ (Or.inl rfl))
  · simp at h

theorem turn_dashboardBottomBar (index : Fin 4) :
    Turn (.dashboardScreen i :: rest.routes) (.tap (.bottomBar index))
      (Navigator.performAll (⟨.dashboardScreen i, []⟩ :: rest)
        (dashboardBottomBar index)).routes := by
  match index with
  | 0 => exact .home _ _ _
  | 1 => exact .pushTab _ _ _ 1 (by simp) rfl rfl rfl
  | 2 => exact .select _ _
  | 3 => exact .pushTab _ _ _ 3 (by simp) rfl rfl rfl

theorem turn_dashboardDrawer {item : DrawerItem} (h : dashboardDrawer item = some ops) :
    Turn (.dashboardScreen i :: rest.routes) (.tap (.drawerItem item))
      (Navigator.performAll (⟨.dashboardScreen i, .drawer :: os⟩ :: rest) ops).routes := by
  cases item with
  | events => exact turn_of_some_eq h (.home _ _ _)
  | dashboard => exact turn_of_some_eq h (.overlay _ _)
  | logout => simp [dashboardDrawer] at h
  | _ => exact turn_of_some_eq h (.push _ _ _ _ rfl rfl (by simp))

theorem turn_dashboard (h : dashboardHandler os t = some ops) :
    Turn (.dashboardScreen i :: rest.routes) (.tap t)
      (Navigator.performAll (⟨.dashboardScreen i, os⟩ :: rest) ops).routes := by
  unfold dashboardHandler at h
  split at h
  · exact turn_of_some_eq h (.push _ _ _ _ rfl rfl (by simp))
  · exact turn_of_some_eq h (turn_dashboardBottomBar rest _)
  · exact turn_of_some_eq h (.overlay _ _)
  · exact turn_of_some_eq h (.overlay _ _)
  · exact turn_dashboardDrawer rest h
  · exact turn_of_some_eq h (.overlay _ _)
  · simp at h

theorem turn_schedule (h : scheduleHandler os t = some ops) (ht : t ≠ .arrowBack) :
    Turn (.scheduleScreen :: rest.routes) (.tap t)
      (Navigator.performAll (⟨.scheduleScreen, os⟩ :: rest) ops).routes := by
  unfold scheduleHandler at h
  split at h
  · exact absurd rfl ht
  · exact turn_of_some_eq h (.overlay _ _)
  · exact turn_of_some_eq h (.overlay _ _)
  · simp at h

theorem turn_profile (h : profileHandler os t = some ops) (ht : t ≠ .arrowBack) :
    Turn (.profilePage :: rest.routes) (.tap t)
      (Navigator.performAll (⟨.profilePage, os⟩ :: rest) ops).routes := by
  unfold profileHandler at h
  split at h
  · exact absurd rfl ht
  · exact turn_of_some_eq h (.logout _ _ _ (Or.inr rfl))
  · simp at h

/-- Every tap on `CreateEventPage` that reaches the navigator removes the page. -/
theorem createEventHandler_closes (h : createEventHandler os t = some ops) :
    t = .arrowBack ∨ t = .saved := by
  unfold createEventHandler at h
  split at h
  all_goals simp_all

/-- The pages whose buttons remove them remove nothing else. -/
theorem handler_closes {route : Route} (h : handler ⟨route, os⟩ t = some ops)
    (ht : t = .arrowBack ∨ t = .saved) : route.popsItself = true ∧ os = [] ∧ ops = [.pop] := by
  rcases ht with rfl | rfl
  all_goals
    cases route with
    | loginPage => simp [handler, loginPageHandler] at h
    | signUpPage => cases os <;> simp_all [handler, signUpPageHandler, Route.popsItself]
    | eventPage => simp [handler, eventPageHandler] at h
    | dashboardScreen => simp [handler, dashboardHandler] at h
    | scheduleScreen => cases os <;> simp_all [handler, scheduleHandler, Route.popsItself]
    | profilePage => cases os <;> simp_all [handler, profileHandler, Route.popsItself]
    | createEventPage => cases os <;> simp_all [handler, createEventHandler, Route.popsItself]

/-- The drawer from which the logout dialog was opened is still open beneath it. -/
theorem eventPageHandler_confirmLogout (h : eventPageHandler os .confirmLogout = some ops) :
    ∃ os', os = .logoutDialog :: os' ∧ ops = [.pop, .pushReplacement .loginPage] := by
  unfold eventPageHandler at h
  split at h
  all_goals simp_all

theorem profileHandler_profileLogout (h : profileHandler os .profileLogout = some ops) :
    ops = [.pushReplacement .loginPage] := by
  unfold profileHandler at h
  split at h
  all_goals simp_all

end Handlers

variable {n n' : Navigator Route Overlay} {l : NavStep Tap}

/-- Every step that does not remove the page on top is a turn. -/
theorem turn_of_navStep (h : navStep handler n l = some n') (hcloses : ¬ Closes n l) :
    Turn n.routes l n'.routes := by
  simp only [Closes, not_or, not_and] at hcloses
  obtain ⟨hback, hsaved, hsystem⟩ := hcloses
  obtain ⟨⟨route, os⟩, rest, t, ops, rfl, rfl, hops, rfl⟩ | ⟨r, o, os, rest, rfl, rfl, rfl⟩ |
    ⟨r, rest, rfl, -, rfl, rfl⟩ := navStep_eq_some h
  · have hback : t ≠ .arrowBack := fun ht => hback (by rw [ht])
    have hsaved : t ≠ .saved := fun ht => hsaved (by rw [ht])
    cases route with
    | loginPage => exact turn_loginPage rest hops
    | signUpPage => exact turn_signUpPage rest hops hback
    | eventPage => exact turn_eventPage rest hops
    | dashboardScreen => exact turn_dashboard rest hops
    | scheduleScreen => exact turn_schedule rest hops hback
    | profilePage => exact turn_profile rest hops hback
    | createEventPage =>
      rcases createEventHandler_closes hops with ht | ht
      · exact absurd ht hback
      · exact absurd ht hsaved
  · exact .overlay _ _
  · -- the system would remove the page
    exact absurd (by simp) (hsystem rfl)

/-- A step that removes the page on top leaves the pages beneath it. There are some, unless the page
has removed itself. -/
theorem routes_of_closes (h : navStep handler n l = some n') (hcloses : Closes n l) :
    ∃ top, n.routes = top :: n'.routes ∧ (n'.routes = [] → top.popsItself = true) := by
  obtain ⟨⟨route, os⟩, rest, t, ops, rfl, rfl, hops, rfl⟩ | ⟨r, o, os, rest, rfl, rfl, rfl⟩ |
    ⟨r, rest, rfl, hrest, rfl, rfl⟩ := navStep_eq_some h
  · have ht : t = .arrowBack ∨ t = .saved := by simpa [Closes] using hcloses
    obtain ⟨hpops, rfl, rfl⟩ := handler_closes hops ht
    exact ⟨route, rfl, fun _ => hpops⟩
  · simp [Closes] at hcloses
  · exact ⟨r, rfl, fun hnil => absurd (List.map_eq_nil_iff.mp hnil) hrest⟩

/-- What one operation does to the routes, in a step other than a logout. -/
inductive Move : List Route → List Route → Prop
  /-- The page on top is replaced or changes its state. It does not become `ProfilePage`, and a
  page behind the login stays behind the login. -/
  | replace (top r : Route) (rest : List Route) (hside : top.signedIn = true → r.signedIn = true)
      (hr : r ≠ .profilePage) : Move (top :: rest) (r :: rest)
  /-- A page is pushed that is behind the login iff the page on top is. -/
  | push (top r : Route) (rest : List Route) (hside : r.signedIn = top.signedIn) :
      Move (top :: rest) (r :: top :: rest)
  /-- The page on top is removed. -/
  | pop (top : Route) (rest : List Route) : Move (top :: rest) rest

/-- What a step other than a logout does to the routes. -/
abbrev Moves : List Route → List Route → Prop := Relation.ReflTransGen Move

theorem Turn.moves {rs rs' : List Route} (h : Turn rs l rs') (hconfirm : l ≠ .tap .confirmLogout)
    (hprofile : l ≠ .tap .profileLogout) : Moves rs rs' := by
  cases h with
  | overlay => exact .refl
  | select => exact .single (.replace _ _ _ (by simp [Route.signedIn]) (by simp))
  | push _ _ _ _ hside => exact .single (.push _ _ _ hside)
  | pushTab top r rest index hbar hside =>
    -- the page is replaced by itself with another item selected
    have hselect : Move (top :: rest) (top.select index :: rest) :=
      .replace _ _ _ (by rw [Route.signedIn_select]; exact id) (Route.select_ne_profilePage hbar)
    exact .head hselect (.single (.push _ _ _ (by rw [Route.signedIn_select, hside])))
  | home => exact .single (.replace _ _ _ (by simp [Route.signedIn]) (by simp))
  | signedUp => exact .single (.replace _ _ _ (by simp [Route.signedIn]) (by simp))
  | logout _ _ _ hl => exact absurd hl (not_or.mpr ⟨hconfirm, hprofile⟩)

/-- Every step but a logout moves the routes. -/
theorem moves_of_navStep (h : navStep handler n l = some n') (hconfirm : l ≠ .tap .confirmLogout)
    (hprofile : l ≠ .tap .profileLogout) : Moves n.routes n'.routes := by
  by_cases hcloses : Closes n l
  · obtain ⟨top, hn, -⟩ := routes_of_closes h hcloses
    rw [hn]
    exact .single (.pop _ _)
  · exact (turn_of_navStep h hcloses).moves hconfirm hprofile

/-- "Logout" in the dialog replaces the `EventPage` on top by `LoginPage`. -/
theorem routes_of_confirmLogout (h : navStep handler n (.tap .confirmLogout) = some n') :
    ∃ i rest, n.routes = .eventPage i :: rest ∧ n'.routes = .loginPage :: rest := by
  obtain ⟨⟨route, os⟩, rest, t, ops, rfl, ht, hops, rfl⟩ | ⟨_, _, _, _, _, ht, _⟩ |
    ⟨_, _, _, _, ht, _⟩ := navStep_eq_some h
  · obtain rfl := NavStep.tap.inj ht
    cases route with
    | eventPage i =>
      obtain ⟨os', rfl, rfl⟩ := eventPageHandler_confirmLogout hops
      exact ⟨i, _, rfl, rfl⟩
    | loginPage => simp [handler, loginPageHandler] at hops
    | signUpPage => simp [handler, signUpPageHandler] at hops
    | dashboardScreen => simp [handler, dashboardHandler] at hops
    | scheduleScreen => simp [handler, scheduleHandler] at hops
    | profilePage => simp [handler, profileHandler] at hops
    | createEventPage => simp [handler, createEventHandler] at hops
  · simp at ht
  · simp at ht

/-- "Logout" on `ProfilePage` replaces it by `LoginPage`. -/
theorem routes_of_profileLogout (h : navStep handler n (.tap .profileLogout) = some n') :
    ∃ rest, n.routes = .profilePage :: rest ∧ n'.routes = .loginPage :: rest := by
  obtain ⟨⟨route, os⟩, rest, t, ops, rfl, ht, hops, rfl⟩ | ⟨_, _, _, _, _, ht, _⟩ |
    ⟨_, _, _, _, ht, _⟩ := navStep_eq_some h
  · obtain rfl := NavStep.tap.inj ht
    cases route with
    | profilePage =>
      obtain rfl := profileHandler_profileLogout hops
      exact ⟨_, rfl, rfl⟩
    | loginPage => simp [handler, loginPageHandler] at hops
    | signUpPage => simp [handler, signUpPageHandler] at hops
    | eventPage => simp [handler, eventPageHandler] at hops
    | dashboardScreen => simp [handler, dashboardHandler] at hops
    | scheduleScreen => simp [handler, scheduleHandler] at hops
    | createEventPage => simp [handler, createEventHandler] at hops
  · simp at ht
  · simp at ht

end EventManager.App

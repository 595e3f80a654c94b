import EventManager.App.Navigation

/-!
# The reachable stacks

Which stacks of pages, with which selected items of their bottom bars and which overlays, can come
up. `WellStacked` reads this off a stack alone: what lies beneath each page, what the bottom is, and
which overlays the page on top shows. Every step keeps it, and every stack that has it is built by
an explicit sequence of taps, page by page from the bottom.

## Main results

* `reachable_iff_wellStacked`: the stacks that come up are exactly the well-stacked ones;
* `reachable_from_reachable`: from every stack that comes up, every other one can be reached again.
-/

namespace EventManager.App

open Flutter

/-! ## Well-stacked navigators -/

namespace Route

/-- The pages with a bottom bar. -/
def hasBar : Route → Bool
  | eventPage _ => true
  | dashboardScreen _ => true
  | _ => false

/-- Whether the page comes up directly above the other one. -/
def covers : Route → Route → Bool
  -- a sign-up leaves a second `LoginPage` above the first, a logout one above a page with a bar
  | loginPage, below => below == loginPage || below.hasBar
  | eventPage _, below => below == loginPage || below.hasBar
  | signUpPage, below => below == loginPage
  -- a dashboard whose item "Events" is selected has been replaced already
  | dashboardScreen index, eventPage _ => index.val != 0
  | dashboardScreen _, _ => false
  | scheduleScreen, below => below.hasBar
  | profilePage, below => below.hasBar
  | createEventPage, below => below.hasBar

/-- Whether the page comes up at the bottom of the stack. -/
def atBottom : Route → Bool
  | loginPage => true
  | eventPage _ => true
  | _ => false

/-- The overlays that the page shows, the latest first. -/
def offers : Route → List (List Overlay)
  | eventPage _ => [[], [.drawer], [.searchDialog], [.detailsSheet], [.detailsDialog],
      -- the logout dialog is opened from the drawer, which stays open
      [.logoutDialog, .drawer]]
  | dashboardScreen _ => [[], [.drawer], [.deleteDialog]]
  | scheduleScreen => [[], [.sessionDialog]]
  | _ => [[]]

theorem nil_mem_offers (r : Route) : [] ∈ r.offers := by
  cases r <;> simp [offers]

/-- Closing the latest overlay leaves overlays that the page shows. -/
theorem mem_offers_of_cons {r : Route} {o : Overlay} {os : List Overlay} (h : o :: os ∈ r.offers) :
    os ∈ r.offers := by
  cases r with
  | eventPage =>
    simp only [offers, List.mem_cons, List.not_mem_nil] at h ⊢
    grind
  | dashboardScreen =>
    simp only [offers, List.mem_cons, List.not_mem_nil] at h ⊢
    grind
  | _ => simp_all [offers]

/-- What may lie beneath the one page may lie beneath the other. -/
def YieldsTo (r r' : Route) : Prop :=
  (∀ below, r.covers below = true → r'.covers below = true) ∧
    (r.atBottom = true → r'.atBottom = true)

end Route

/-- Each page may lie above the next one, and the last one at the bottom. -/
def stacked : List Route → Bool
  | [] => false
  | [r] => r.atBottom
  | r :: below :: rest => r.covers below && stacked (below :: rest)

/-- The navigator is stacked, the page on top shows overlays of its own, and the pages beneath show
none. -/
structure WellStacked (n : Navigator Route Overlay) : Prop where
  stacked : stacked n.routes = true
  onTop : ∀ top ∈ n.head?, top.overlays ∈ top.route.offers
  beneath : ∀ entry ∈ n.tail, entry.overlays = []

theorem wellStacked_launched : WellStacked launched := ⟨rfl, by simp [launched, Route.offers],
  by simp [launched]⟩

/-! ## Every step keeps the stack well-stacked -/

namespace WellStacked

variable {r r' : Route} {os os' : List Overlay} {rest : Navigator Route Overlay}

theorem present (h : WellStacked (⟨r, os⟩ :: rest)) (hos : os' ∈ r.offers) :
    WellStacked (⟨r, os'⟩ :: rest) :=
  ⟨h.stacked, by simpa using hos, h.beneath⟩

theorem push (h : WellStacked (⟨r, []⟩ :: rest)) (hcovers : r'.covers r = true) :
    WellStacked (⟨r', []⟩ :: ⟨r, []⟩ :: rest) := by
  refine ⟨Bool.and_eq_true_iff.mpr ⟨hcovers, h.stacked⟩, by simpa using r'.nil_mem_offers, ?_⟩
  intro entry hentry
  rcases List.mem_cons.mp hentry with rfl | hentry
  · rfl
  · exact h.beneath entry hentry

theorem replace (h : WellStacked (⟨r, os⟩ :: rest)) (hyields : r.YieldsTo r') :
    WellStacked (⟨r', []⟩ :: rest) := by
  refine ⟨?_, by simpa using r'.nil_mem_offers, h.beneath⟩
  have hstacked := h.stacked
  cases rest with
  | nil => exact hyields.2 hstacked
  | cons below rest =>
    obtain ⟨hcovers, hrest⟩ := Bool.and_eq_true_iff.mp hstacked
    exact Bool.and_eq_true_iff.mpr ⟨hyields.1 _ hcovers, hrest⟩

theorem pop (h : WellStacked (⟨r, os⟩ :: rest)) (hrest : rest ≠ []) : WellStacked rest := by
  obtain ⟨hstacked, -, hbeneath⟩ := h
  cases rest with
  | nil => exact absurd rfl hrest
  | cons below rest =>
    refine ⟨(Bool.and_eq_true_iff.mp hstacked).2, ?_, ?_⟩
    · rintro top ⟨⟩
      rw [hbeneath below List.mem_cons_self]
      exact below.route.nil_mem_offers
    · exact fun entry hentry => hbeneath entry (List.mem_cons_of_mem _ hentry)

/-- A page that removes itself is not the last one. -/
theorem ne_nil_of_popsItself (h : WellStacked (⟨r, os⟩ :: rest)) (hr : r.popsItself = true) :
    rest ≠ [] := by
  rintro rfl
  have hbottom : r.atBottom = true := h.stacked
  cases r <;> simp [Route.atBottom, Route.popsItself] at hbottom hr

end WellStacked

variable {n n' : Navigator Route Overlay} {l : NavStep Tap} {rest : Navigator Route Overlay}
  {os : List Overlay} {t : Tap} {ops : Ops} {i : Fin 4}

theorem eventPage_yieldsTo (i j : Fin 4) : (Route.eventPage i).YieldsTo (.eventPage j) :=
  ⟨fun _ h => h, fun h => h⟩

theorem eventPage_yieldsTo_loginPage (i : Fin 4) : (Route.eventPage i).YieldsTo .loginPage :=
  ⟨fun _ h => h, fun h => h⟩

theorem loginPage_yieldsTo (i : Fin 4) : Route.loginPage.YieldsTo (.eventPage i) :=
  ⟨fun _ h => h, fun h => h⟩

theorem signUpPage_yieldsTo : Route.signUpPage.YieldsTo .loginPage := by
  refine ⟨fun below h => ?_, fun h => by simp [Route.atBottom] at h⟩
  simp only [Route.covers] at h ⊢
  rw [h, Bool.true_or]

theorem profilePage_yieldsTo : Route.profilePage.YieldsTo .loginPage := by
  refine ⟨fun below h => ?_, fun h => by simp [Route.atBottom] at h⟩
  simp only [Route.covers] at h ⊢
  rw [h, Bool.or_true]

theorem dashboardScreen_yieldsTo_eventPage (i j : Fin 4) :
    (Route.dashboardScreen i).YieldsTo (.eventPage j) := by
  refine ⟨fun below h => ?_, fun h => by simp [Route.atBottom] at h⟩
  cases below with
  | eventPage => rfl
  | _ => simp [Route.covers] at h

theorem dashboardScreen_yieldsTo (i : Fin 4) {j : Fin 4} (hj : (j.val != 0) = true) :
    (Route.dashboardScreen i).YieldsTo (.dashboardScreen j) := by
  refine ⟨fun below h => ?_, fun h => by simp [Route.atBottom] at h⟩
  cases below with
  | eventPage => exact hj
  | _ => simp [Route.covers] at h

namespace WellStacked

/-- The case of a handler that answers with `ops'`. -/
theorem of_some_eq {ops' : Ops} (h : some ops' = some ops) (hn : WellStacked (n.performAll ops')) :
    WellStacked (n.performAll ops) := by
  rwa [← Option.some.inj h]

theorem loginPage (h : WellStacked (⟨.loginPage, os⟩ :: rest))
    (hops : loginPageHandler os t = some ops) :
    WellStacked (Navigator.performAll (⟨.loginPage, os⟩ :: rest) ops) := by
  unfold loginPageHandler at hops
  split at hops
  · exact .of_some_eq hops (h.replace (loginPage_yieldsTo 0))
  · exact .of_some_eq hops (h.push rfl)
  · simp at hops

theorem signUpPage (h : WellStacked (⟨.signUpPage, os⟩ :: rest))
    (hops : signUpPageHandler os t = some ops) :
    WellStacked (Navigator.performAll (⟨.signUpPage, os⟩ :: rest) ops) := by
  unfold signUpPageHandler at hops
  split at hops
  · exact .of_some_eq hops (h.pop (h.ne_nil_of_popsItself rfl))
  · exact .of_some_eq hops (h.replace signUpPage_yieldsTo)
  · simp at hops

theorem eventPageBottomBar (h : WellStacked (⟨.eventPage i, []⟩ :: rest)) (index : Fin 4) :
    WellStacked (Navigator.performAll (⟨.eventPage i, []⟩ :: rest) (eventPageBottomBar index)) := by
  have hselect := h.replace (eventPage_yieldsTo i index)
  match index with
  | 0 => exact hselect
  | 1 => exact hselect.push rfl
  | 2 => exact hselect.push rfl
  | 3 => exact hselect.push rfl

theorem eventPageDrawer (h : WellStacked (⟨.eventPage i, .drawer :: os⟩ :: rest))
    (item : DrawerItem) :
    WellStacked (Navigator.performAll (⟨.eventPage i, .drawer :: os⟩ :: rest)
      (eventPageDrawer item)) := by
  obtain rfl : os = [] := by simpa [Route.offers] using h.onTop
  have hclosed : WellStacked (⟨.eventPage i, []⟩ :: rest) := h.present (by simp [Route.offers])
  cases item with
  | events => exact hclosed
  | logout => exact h.present (by simp [Route.offers])
  | _ => exact hclosed.push rfl

theorem eventPage (h : WellStacked (⟨.eventPage i, os⟩ :: rest))
    (hops : eventPageHandler os t = some ops) :
    WellStacked (Navigator.performAll (⟨.eventPage i, os⟩ :: rest) ops) := by
  unfold eventPageHandler at hops
  have hclose {o : Overlay} {os' : List Overlay} (hos : os = o :: os') :
      WellStacked (⟨.eventPage i, os'⟩ :: rest) :=
    h.present (Route.mem_offers_of_cons (o := o) (by simpa [hos] using h.onTop))
  split at hops
  · exact .of_some_eq hops (h.push rfl)
  · exact .of_some_eq hops (h.eventPageBottomBar _)
  · exact .of_some_eq hops (h.present (by simp [Route.offers]))
  · exact .of_some_eq hops (h.present (by simp [Route.offers]))
  · exact .of_some_eq hops (h.present (by simp [Route.offers]))
  · exact .of_some_eq hops (h.present (by simp [Route.offers]))
  · exact .of_some_eq hops (h.eventPageDrawer _)
  · exact .of_some_eq hops (hclose rfl)
  · exact .of_some_eq hops (hclose rfl)
  · exact .of_some_eq hops (hclose rfl)
  · exact .of_some_eq hops (hclose rfl)
  · exact .of_some_eq hops ((hclose rfl).replace (eventPage_yieldsTo_loginPage i))
  · simp at hops

theorem dashboardBottomBar (h : WellStacked (⟨.dashboardScreen i, []⟩ :: rest)) (index : Fin 4) :
    WellStacked (Navigator.performAll (⟨.dashboardScreen i, []⟩ :: rest)
      (dashboardBottomBar index)) := by
  match index with
  -- the page with the selected item is replaced at once
  | 0 => exact h.replace (dashboardScreen_yieldsTo_eventPage i 0)
  | 1 => exact (h.replace (dashboardScreen_yieldsTo i rfl)).push rfl
  | 2 => exact h.replace (dashboardScreen_yieldsTo i rfl)
  | 3 => exact (h.replace (dashboardScreen_yieldsTo i rfl)).push rfl

theorem dashboardDrawer (h : WellStacked (⟨.dashboardScreen i, .drawer :: os⟩ :: rest))
    {item : DrawerItem} (hops : dashboardDrawer item = some ops) :
    WellStacked (Navigator.performAll (⟨.dashboardScreen i, .drawer :: os⟩ :: rest) ops) := by
  obtain rfl : os = [] := by simpa [Route.offers] using h.onTop
  have hclosed : WellStacked (⟨.dashboardScreen i, []⟩ :: rest) :=
    h.present (by simp [Route.offers])
  cases item with
  | events =>
    exact .of_some_eq hops (hclosed.replace (dashboardScreen_yieldsTo_eventPage i 0))
  | dashboard => exact .of_some_eq hops hclosed
  | logout => simp [App.dashboardDrawer] at hops
  | _ => exact .of_some_eq hops (hclosed.push rfl)

theorem dashboard (h : WellStacked (⟨.dashboardScreen i, os⟩ :: rest))
    (hops : dashboardHandler os t = some ops) :
    WellStacked (Navigator.performAll (⟨.dashboardScreen i, os⟩ :: rest) ops) := by
  unfold dashboardHandler at hops
  split at hops
  · exact .of_some_eq hops (h.push rfl)
  · exact .of_some_eq hops (h.dashboardBottomBar _)
  · exact .of_some_eq hops (h.present (by simp [Route.offers]))
  · exact .of_some_eq hops (h.present (by simp [Route.offers]))
  · exact h.dashboardDrawer hops
  · exact .of_some_eq hops (h.present (Route.mem_offers_of_cons (by simpa using h.onTop)))
  · simp at hops

theorem schedule (h : WellStacked (⟨.scheduleScreen, os⟩ :: rest))
    (hops : scheduleHandler os t = some ops) :
    WellStacked (Navigator.performAll (⟨.scheduleScreen, os⟩ :: rest) ops) := by
  unfold scheduleHandler at hops
  split at hops
  · exact .of_some_eq hops (h.pop (h.ne_nil_of_popsItself rfl))
  · exact .of_some_eq hops (h.present (by simp [Route.offers]))
  · exact .of_some_eq hops (h.present (Route.mem_offers_of_cons (by simpa using h.onTop)))
  · simp at hops

theorem profile (h : WellStacked (⟨.profilePage, os⟩ :: rest))
    (hops : profileHandler os t = some ops) :
    WellStacked (Navigator.performAll (⟨.profilePage, os⟩ :: rest) ops) := by
  unfold profileHandler at hops
  split at hops
  · exact .of_some_eq hops (h.pop (h.ne_nil_of_popsItself rfl))
  · exact .of_some_eq hops (h.replace profilePage_yieldsTo)
  · simp at hops

theorem createEvent (h : WellStacked (⟨.createEventPage, os⟩ :: rest))
    (hops : createEventHandler os t = some ops) :
    WellStacked (Navigator.performAll (⟨.createEventPage, os⟩ :: rest) ops) := by
  unfold createEventHandler at hops
  split at hops
  · exact .of_some_eq hops (h.pop (h.ne_nil_of_popsItself rfl))
  · exact .of_some_eq hops (h.pop (h.ne_nil_of_popsItself rfl))
  · simp at hops

/-- Every step keeps the navigator well-stacked. -/
theorem navStep (h : WellStacked n) (hstep : navStep handler n l = some n') : WellStacked n' := by
  obtain ⟨⟨route, os⟩, rest, t, ops, rfl, rfl, hops, rfl⟩ | ⟨r, o, os, rest, rfl, rfl, rfl⟩ |
    ⟨r, rest, rfl, hrest, rfl, rfl⟩ := navStep_eq_some hstep
  · cases route with
    | loginPage => exact h.loginPage hops
    | signUpPage => exact h.signUpPage hops
    | eventPage => exact h.eventPage hops
    | dashboardScreen => exact h.dashboard hops
    | scheduleScreen => exact h.schedule hops
    | profilePage => exact h.profile hops
    | createEventPage => exact h.createEvent hops
  · exact h.present (Route.mem_offers_of_cons (by simpa using h.onTop))
  · exact h.pop hrest

end WellStacked

/-! ## Every well-stacked navigator is built by some taps -/

/-- Some sequence of steps leads from the one navigator to the other. -/
abbrev Leads : Navigator Route Overlay → Navigator Route Overlay → Prop :=
  LTS.Leads (navStep handler)

section Build

variable {r below : Route}

/-- The overlays of a page are opened one after the other. -/
theorem leads_overlays (rest : Navigator Route Overlay) (hos : os ∈ r.offers) :
    Leads (⟨r, []⟩ :: rest) (⟨r, os⟩ :: rest) := by
  cases r with
  | eventPage =>
    simp only [Route.offers, List.mem_cons, List.not_mem_nil, or_false] at hos
    obtain rfl | rfl | rfl | rfl | rfl | rfl := hos
    · exact .refl _
    · exact ⟨[.tap .openDrawer], rfl⟩
    · exact ⟨[.tap (.openOverlay .searchDialog)], rfl⟩
    · exact ⟨[.tap (.openOverlay .detailsSheet)], rfl⟩
    · exact ⟨[.tap (.openOverlay .detailsDialog)], rfl⟩
    · exact ⟨[.tap .openDrawer, .tap (.drawerItem .logout)], rfl⟩
  | dashboardScreen =>
    simp only [Route.offers, List.mem_cons, List.not_mem_nil, or_false] at hos
    obtain rfl | rfl | rfl := hos
    · exact .refl _
    · exact ⟨[.tap .openDrawer], rfl⟩
    · exact ⟨[.tap (.openOverlay .deleteDialog)], rfl⟩
  | scheduleScreen =>
    simp only [Route.offers, List.mem_cons, List.not_mem_nil, or_false] at hos
    obtain rfl | rfl := hos
    · exact .refl _
    · exact ⟨[.tap (.openOverlay .sessionDialog)], rfl⟩
  | _ =>
    obtain rfl : os = [] := by simpa [Route.offers] using hos
    exact .refl _

/-- An `EventPage` gets any item selected by opening the page of the item and coming back. -/
theorem leads_select_eventPage (rest : Navigator Route Overlay) (index : Fin 4) :
    Leads (⟨.eventPage 0, []⟩ :: rest) (⟨.eventPage index, []⟩ :: rest) := by
  match index with
  | 0 => exact .refl _
  | 1 => exact ⟨[.tap (.bottomBar 1), .tap .arrowBack], rfl⟩
  -- the dashboard has no arrow in its app bar
  | 2 => exact ⟨[.tap (.bottomBar 2), .back], rfl⟩
  | 3 => exact ⟨[.tap (.bottomBar 3), .tap .arrowBack], rfl⟩

/-- A dashboard gets any item selected but "Events". -/
theorem leads_select_dashboardScreen (rest : Navigator Route Overlay) {index : Fin 4}
    (hindex : (index.val != 0) = true) :
    Leads (⟨.dashboardScreen 2, []⟩ :: rest) (⟨.dashboardScreen index, []⟩ :: rest) := by
  match index with
  | 0 => simp at hindex
  | 1 => exact ⟨[.tap (.bottomBar 1), .tap .arrowBack], rfl⟩
  | 2 => exact .refl _
  | 3 => exact ⟨[.tap (.bottomBar 3), .tap .arrowBack], rfl⟩

theorem leads_login (rest : Navigator Route Overlay) (index : Fin 4) :
    Leads (⟨.loginPage, []⟩ :: rest) (⟨.eventPage index, []⟩ :: rest) :=
  .trans ⟨[.tap .login], rfl⟩ (leads_select_eventPage rest index)

/-- A `LoginPage` comes up above another one by a sign-up, above a page with a bar by a logout. -/
theorem leads_loginPage (rest : Navigator Route Overlay)
    (hbelow : (below == .loginPage || below.hasBar) = true) :
    Leads (⟨below, []⟩ :: rest) (⟨.loginPage, []⟩ :: ⟨below, []⟩ :: rest) := by
  cases below with
  | loginPage => exact ⟨[.tap .openSignUp, .tap .signedUp], rfl⟩
  | eventPage => exact ⟨[.tap .openDrawer, .tap (.drawerItem .profile), .tap .profileLogout], rfl⟩
  | dashboardScreen =>
    exact ⟨[.tap .openDrawer, .tap (.drawerItem .profile), .tap .profileLogout], rfl⟩
  | _ => simp [Route.hasBar] at hbelow

/-- The pages above those with a bar are opened from the drawer or by the button for the form, which
leave the selected item as it is. -/
theorem leads_of_hasBar (rest : Navigator Route Overlay) (hbelow : below.hasBar = true)
    (hr : r = .scheduleScreen ∨ r = .profilePage ∨ r = .createEventPage) :
    Leads (⟨below, []⟩ :: rest) (⟨r, []⟩ :: ⟨below, []⟩ :: rest) := by
  cases below with
  | eventPage =>
    obtain rfl | rfl | rfl := hr
    · exact ⟨[.tap .openDrawer, .tap (.drawerItem .schedule)], rfl⟩
    · exact ⟨[.tap .openDrawer, .tap (.drawerItem .profile)], rfl⟩
    · exact ⟨[.tap .openForm], rfl⟩
  | dashboardScreen =>
    obtain rfl | rfl | rfl := hr
    · exact ⟨[.tap .openDrawer, .tap (.drawerItem .schedule)], rfl⟩
    · exact ⟨[.tap .openDrawer, .tap (.drawerItem .profile)], rfl⟩
    · exact ⟨[.tap .openForm], rfl⟩
  | _ => simp [Route.hasBar] at hbelow

/-- A page is put on top of a page that it may cover. -/
theorem leads_of_covers (rest : Navigator Route Overlay) (h : r.covers below = true) :
    Leads (⟨below, []⟩ :: rest) (⟨r, []⟩ :: ⟨below, []⟩ :: rest) := by
  cases r with
  | loginPage => exact leads_loginPage rest h
  | eventPage index => exact (leads_loginPage rest h).trans (leads_login _ index)
  | signUpPage =>
    obtain rfl : below = .loginPage := by simpa [Route.covers] using h
    exact ⟨[.tap .openSignUp], rfl⟩
  | dashboardScreen index =>
    cases below with
    | eventPage =>
      exact .trans ⟨[.tap .openDrawer, .tap (.drawerItem .dashboard)], rfl⟩
        (leads_select_dashboardScreen _ h)
    | _ => simp [Route.covers] at h
  | scheduleScreen => exact leads_of_hasBar rest h (Or.inl rfl)
  | profilePage => exact leads_of_hasBar rest h (Or.inr (Or.inl rfl))
  | createEventPage => exact leads_of_hasBar rest h (Or.inr (Or.inr rfl))

end Build

/-- The navigator with the given pages and no overlays. -/
def bare (rs : List Route) : Navigator Route Overlay := rs.map fun r => ⟨r, []⟩

/-- The pages of a stack are put on top of each other from the bottom up. -/
theorem leads_bare {rs : List Route} (h : stacked rs = true) : Leads launched (bare rs) := by
  induction rs with
  | nil => simp [stacked] at h
  | cons r rs ih =>
    cases rs with
    | nil =>
      cases r with
      | loginPage => exact .refl _
      | eventPage index => exact leads_login [] index
      | _ => simp [stacked, Route.atBottom] at h
    | cons below rest =>
      obtain ⟨hcovers, hrest⟩ := Bool.and_eq_true_iff.mp h
      exact (ih hrest).trans (leads_of_covers (bare rest) hcovers)

/-- Beneath the page on top there are no overlays. -/
theorem exists_eq_cons_bare (h : WellStacked n) :
    ∃ r os rs, n = ⟨r, os⟩ :: bare rs ∧ stacked (r :: rs) = true ∧ os ∈ r.offers := by
  obtain ⟨hstacked, honTop, hbeneath⟩ := h
  cases n with
  | nil => simp [Navigator.routes, stacked] at hstacked
  | cons top rest =>
    obtain ⟨r, os⟩ := top
    refine ⟨r, os, Navigator.routes rest, ?_, hstacked, honTop ⟨r, os⟩ rfl⟩
    have hbare : ∀ entry ∈ rest, ((fun r => ⟨r, []⟩) ∘ Entry.route) entry = id entry :=
      fun entry hentry => by simp [← hbeneath entry hentry]
    rw [bare, Navigator.routes, List.map_map, List.map_congr_left hbare, List.map_id]

theorem wellStacked_of_run {ls : List (NavStep Tap)}
    (hrun : LTS.run (navStep handler) launched ls = some n) : WellStacked n :=
  LTS.invariant (I := fun _ n => WellStacked n) wellStacked_launched
    (fun _ _ _ _ h hstep => h.navStep hstep) hrun

/-- A navigator comes up in the app iff each of its pages may lie above the next one, the last one
may lie at the bottom, the page on top shows overlays of its own and the other pages show none. -/
theorem reachable_iff_wellStacked (n : Navigator Route Overlay) :
    (∃ ls, LTS.run (navStep handler) launched ls = some n) ↔ WellStacked n := by
  constructor
  · rintro ⟨ls, hrun⟩
    exact wellStacked_of_run hrun
  · intro h
    obtain ⟨r, os, rs, rfl, hstacked, hos⟩ := exists_eq_cons_bare h
    exact (leads_bare hstacked).trans (leads_overlays (bare rs) hos)

/-! ## The way back -/

/-- The system's back step closes the overlays one after the other. -/
theorem leads_closed (r : Route) (os : List Overlay) (rest : Navigator Route Overlay) :
    Leads (⟨r, os⟩ :: rest) (⟨r, []⟩ :: rest) := by
  induction os with
  | nil => exact .refl _
  | cons o os ih => exact .trans ⟨[.back], rfl⟩ ih

/-- Going back through all pages and logging out leads to the stack at program start. -/
theorem leads_launched {rs : List Route} (h : stacked rs = true) : Leads (bare rs) launched := by
  induction rs with
  | nil => simp [stacked] at h
  | cons r rs ih =>
    cases rs with
    | nil =>
      cases r with
      | loginPage => exact .refl _
      | eventPage =>
        exact ⟨[.tap .openDrawer, .tap (.drawerItem .logout), .tap .confirmLogout], rfl⟩
      | _ => simp [stacked, Route.atBottom] at h
    | cons below rest =>
      obtain ⟨-, hrest⟩ := Bool.and_eq_true_iff.mp h
      exact .trans ⟨[.back], rfl⟩ (ih hrest)

/-- The app has no dead ends: from every navigator that comes up, every other one that comes up can
be reached again. -/
theorem reachable_from_reachable (ls ls' : List (NavStep Tap))
    (h : LTS.run (navStep handler) launched ls = some n)
    (h' : LTS.run (navStep handler) launched ls' = some n') :
    ∃ ks, LTS.run (navStep handler) n ks = some n' := by
  obtain ⟨r, os, rs, rfl, hstacked, -⟩ := exists_eq_cons_bare (wellStacked_of_run h)
  have hback : Leads (bare (r :: rs)) launched := leads_launched hstacked
  exact ((leads_closed r os (bare rs)).trans hback).trans ⟨ls', h'⟩

/-- From a dashboard with its delete dialog open, the app can get to a form over an `EventPage`. -/
theorem reachable_from_reachable_deleteDialog :
    ∃ ks, LTS.run (navStep handler) [⟨.dashboardScreen 2, [.deleteDialog]⟩, ⟨.eventPage 2, []⟩] ks =
      some [⟨.createEventPage, []⟩, ⟨.eventPage 0, []⟩] :=
  reachable_from_reachable [.tap .login, .tap (.bottomBar 2), .tap (.openOverlay .deleteDialog)]
    [.tap .login, .tap .openForm] rfl rfl

end EventManager.App

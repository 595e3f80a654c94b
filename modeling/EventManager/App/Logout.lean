import EventManager.App.Navigation

/-!
# Logout

Both logouts replace the page on top by `LoginPage` and leave the rest of the stack. The pages
behind the login are above the others as long as no logout has left one of them beneath
`LoginPage`. `ProfilePage` is always pushed onto a page behind the login, so the logout of
`ProfilePage` leaves at least that one; the logout of the drawer leaves the pages beneath the
`EventPage` on top.

## Main results

* `loggedOut_iff_logsOutLast`: no page behind the login lies beneath a `LoginPage` on top,
  throughout a run, iff the run never logs out on `ProfilePage` and logs out from the drawer only
  when no page behind the login lies beneath the `EventPage`.
-/

namespace EventManager.App

open Flutter

variable {n n' : Navigator Route Overlay} {rs rs' : List Route} {l : NavStep Tap}

/-- If `LoginPage` is on top, no page behind the login lies beneath it. -/
def LoggedOut (n : Navigator Route Overlay) : Prop :=
  ∀ rest, n.routes = .loginPage :: rest → ∀ r ∈ rest, r.signedIn = false

/-- The step is not the logout of `ProfilePage`, and if it is the logout of the drawer, no page
behind the login lies beneath the page on top. -/
def LogsOutLast (n : Navigator Route Overlay) (l : NavStep Tap) : Prop :=
  l ≠ .tap .profileLogout ∧
    (l = .tap .confirmLogout → ∀ r ∈ n.routes.tail, r.signedIn = false)

/-- The invariant behind `loggedOut_iff_logsOutLast`: the pages behind the login are above the
others, and `ProfilePage` is above one of them. -/
structure Clean (rs : List Route) : Prop where
  layered : Layered Route.signedIn rs
  profile : ∀ rest, .profilePage :: rest <:+ rs → ∃ r ∈ rest, r.signedIn = true

theorem clean_launched : Clean launched.routes := by
  refine ⟨layered_singleton, fun rest hrest => ?_⟩
  rcases List.suffix_cons_iff.mp hrest with heq | hnil
  · simp at heq
  · simp at hnil

/-- Every move keeps the pages behind the login on top. -/
theorem Clean.move (h : Clean rs) (hmove : Move rs rs') : Clean rs' := by
  cases hmove with
  | replace top r rest hside hr =>
    refine ⟨h.layered.replace hside, fun below hbelow => ?_⟩
    rcases List.suffix_cons_iff.mp hbelow with heq | hbelow
    · exact absurd (List.cons.inj heq).1.symm hr
    · exact h.profile below (hbelow.trans (List.suffix_cons top rest))
  | push top r rest hside =>
    refine ⟨h.layered.push fun htop => hside.trans htop, fun below hbelow => ?_⟩
    rcases List.suffix_cons_iff.mp hbelow with heq | hbelow
    · -- a `ProfilePage` is pushed, onto a page on the same side of the login
      obtain ⟨rfl, rfl⟩ := List.cons.inj heq
      exact ⟨top, List.mem_cons_self, hside.symm⟩
    · exact h.profile below hbelow
  | pop top =>
    exact ⟨h.layered.pop, fun below hbelow => h.profile below (hbelow.trans (List.suffix_cons _ _))⟩

theorem Clean.moves (h : Clean rs) (hmoves : Moves rs rs') : Clean rs' := by
  induction hmoves with
  | refl => exact h
  | tail _ hmove ih => exact ih.move hmove

theorem Clean.loggedOut (h : Clean n.routes) : LoggedOut n := by
  intro rest hrest
  rw [hrest] at h
  exact h.layered.kind_eq_false rfl

/-- Steps that do not log out above a page behind the login keep the invariant. -/
theorem Clean.step (h : Clean n.routes) (hlast : LogsOutLast n l)
    (hstep : navStep handler n l = some n') : Clean n'.routes := by
  by_cases hconfirm : l = .tap .confirmLogout
  · have hnone := hlast.2 hconfirm
    rw [hconfirm] at hstep
    obtain ⟨i, rest, hn, hn'⟩ := routes_of_confirmLogout hstep
    rw [hn] at h hnone
    rw [hn']
    refine ⟨h.layered.replace_of_none hnone, fun below hbelow => ?_⟩
    -- the new top is no `ProfilePage`, and the rest was there before
    rcases List.suffix_cons_iff.mp hbelow with heq | hbelow
    · simp at heq
    · exact h.profile below (hbelow.trans (List.suffix_cons _ _))
  · exact h.moves (moves_of_navStep hstep hconfirm hlast.1)

/-- Any other logout leaves a page behind the login beneath `LoginPage`. -/
theorem Clean.not_loggedOut (h : Clean n.routes) (hlast : ¬ LogsOutLast n l)
    (hstep : navStep handler n l = some n') : ¬ LoggedOut n' := by
  intro hout
  by_cases hprofile : l = .tap .profileLogout
  · rw [hprofile] at hstep
    obtain ⟨rest, hn, hn'⟩ := routes_of_profileLogout hstep
    -- beneath `ProfilePage` there is a page behind the login
    obtain ⟨r, hr, hside⟩ := h.profile rest (by rw [hn])
    have hfalse := hout rest hn' r hr
    rw [hside] at hfalse
    simp at hfalse
  · simp only [LogsOutLast, not_and, Classical.not_imp] at hlast
    obtain ⟨hconfirm, hbeneath⟩ := hlast hprofile
    rw [hconfirm] at hstep
    obtain ⟨i, rest, hn, hn'⟩ := routes_of_confirmLogout hstep
    rw [hn] at hbeneath
    exact hbeneath (hout rest hn')

/-- In every run from the launch of the app, `LoginPage` is never on top of a page behind the login
exactly if the run never logs out on `ProfilePage` and logs out from the drawer only when the
`EventPage` on top is the only page behind the login. -/
theorem loggedOut_iff_logsOutLast (ls : List (NavStep Tap)) :
    LTS.Always (navStep handler) launched ls (fun _ n => LoggedOut n) ↔
      LTS.Guarded (navStep handler) launched ls LogsOutLast := by
  refine LTS.always_iff_guarded (I := fun _ n => Clean n.routes) clean_launched ?_ ?_ ?_
  · exact fun _ n h => h.loggedOut
  · exact fun _ n l n' h hlast hstep => h.step hlast hstep
  · exact fun _ n l n' h hlast hstep => h.not_loggedOut hlast hstep

/-- Log in, open the profile from the bottom bar and log out there: `EventPage` is beneath
`LoginPage`. -/
theorem profileLogout_leaves_eventPage :
    ¬ ∀ ls, LTS.Always (navStep handler) launched ls (fun _ n => LoggedOut n) := by
  intro hclaim
  have hrun : LTS.run (navStep handler) launched
      [.tap .login, .tap (.bottomBar 3), .tap .profileLogout] =
      some [⟨.loginPage, []⟩, ⟨.eventPage 3, []⟩] := by
    decide
  have hout := hclaim _ _ _ List.prefix_rfl hrun [.eventPage 3] rfl (.eventPage 3) (by simp)
  simp [Route.signedIn] at hout

end EventManager.App

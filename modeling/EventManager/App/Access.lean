import EventManager.App.Device

/-!
# What a login needs

The pages behind the login come up on a device after a tap on "Login" with a form that the
validators accept, and in no other way. For that tap the `users` node is not read: what accounts
there are makes no difference to any page of any device, nor to the `events` node.

## Main results

* `login_of_signedIn`: before a page behind the login comes up, there is a login on the same device;
* `run_of_otherUsers`: with other accounts, the same steps lead to the same pages and events.
-/

namespace EventManager.App

open Dart Flutter

/-! ## Pages behind the login -/

/-- No page of the stack is behind the login. -/
def SignedOut (n : Navigator Route Overlay) : Prop := ∀ r ∈ n.routes, r.signedIn = false

section Stack

variable {n n' : Navigator Route Overlay} {l : NavStep Tap}

theorem signedOut_launched : SignedOut launched := List.forall_mem_singleton.mpr rfl

/-- Only "Login" on `LoginPage` leads behind the login. -/
theorem signedOut_of_navStep (h : SignedOut n) (hstep : navStep handler n l = some n') :
    SignedOut n' ∨ l = .tap .login ∧ ∃ rest, n = ⟨.loginPage, []⟩ :: rest := by
  obtain ⟨⟨route, os⟩, rest, t, ops, rfl, rfl, hops, rfl⟩ | ⟨r, o, os, rest, rfl, rfl, rfl⟩ |
    ⟨r, rest, rfl, hrest, rfl, rfl⟩ := navStep_eq_some hstep
  · -- a tap: there are only two pages to look at
    obtain ⟨hroute, hrest⟩ := List.forall_mem_cons.mp h
    cases route with
    | loginPage =>
      simp only [handler, loginPageHandler] at hops
      split at hops
      · exact Or.inr ⟨rfl, rest, rfl⟩
      · -- `SignUpPage` is pushed
        obtain rfl := Option.some.inj hops
        exact Or.inl (List.forall_mem_cons.mpr ⟨rfl, h⟩)
      · simp at hops
    | signUpPage =>
      simp only [handler, signUpPageHandler] at hops
      split at hops
      · obtain rfl := Option.some.inj hops
        exact Or.inl hrest
      · -- and replaced by another `LoginPage` after the sign-up
        obtain rfl := Option.some.inj hops
        exact Or.inl (List.forall_mem_cons.mpr ⟨rfl, hrest⟩)
      · simp at hops
    | _ => simp [Route.signedIn] at hroute
  · exact Or.inl h
  · exact Or.inl (List.forall_mem_cons.mp h).2

end Stack

section System

variable {ι : Type} [DecidableEq ι] {sdk : Firebase.Rendering} {toLowerCase : String → String}
  {s s' : System ι}
  {l : SystemStep ι} {d : ι} {events users users' : Firebase.Node} {past : List String}
  {ls : List (SystemStep ι)}

/-- The step is a tap on "Login" on the device, with a form that the validators accept. -/
def LogsIn (s : System ι) (d : ι) (l : SystemStep ι) : Prop :=
  l = .onDevice d (.navigate (.tap ⟨.login, none⟩)) ∧
    ∃ form rest, s.devices d = ⟨.loginPage form, []⟩ :: rest ∧ form.validate = true

theorem signedOut_of_deviceStep {value : Dyn} {n n' : Device} {step : DeviceStep}
    (h : SignedOut n.stack) (hstep : deviceStep toLowerCase value n step = some n') :
    SignedOut n'.stack ∨ step = .navigate (.tap ⟨.login, none⟩) ∧
      ∃ form rest, n = ⟨.loginPage form, []⟩ :: rest ∧ form.validate = true := by
  have hrun := stack_of_deviceStep hstep
  cases step with
  | navigate step =>
    rw [DeviceStep.navSteps, LTS.run_singleton] at hrun
    rcases signedOut_of_navStep h hrun with hout | ⟨htap, rest, hn⟩
    · exact Or.inl hout
    · refine Or.inr ?_
      cases step with
      | back => simp [NavStep.map] at htap
      | tap touch =>
        obtain ⟨t, card⟩ := touch
        obtain rfl : t = .login := by simpa [NavStep.map] using htap
        rcases n with _ | ⟨⟨screen, popups⟩, below⟩
        · simp [Device.stack, Navigator.outline] at hn
        · -- the stack without its data says which page is on top, the touch that its form is valid
          obtain ⟨hentry, -⟩ := List.cons.inj hn
          obtain ⟨hroute, hpopups⟩ := Entry.mk.inj hentry
          obtain rfl := List.map_eq_nil_iff.mp hpopups
          obtain ⟨ops, hops, -⟩ := Option.map_eq_some_iff.mp hstep
          obtain ⟨hoffers, -⟩ := deviceHandler_eq_some hops
          cases screen with
          | loginPage form =>
            obtain ⟨hvalid, hcard⟩ := Bool.and_eq_true_iff.mp hoffers
            obtain rfl : card = none := by simpa [Screen.isOnCard] using hcard
            exact ⟨rfl, form, below, rfl, hvalid⟩
          | _ => simp [Screen.route] at hroute
  | search query =>
    rw [DeviceStep.navSteps, LTS.run_singleton] at hrun
    rcases signedOut_of_navStep h hrun with hout | ⟨htap, -⟩
    · exact Or.inl hout
    · simp at htap
  | _ =>
    -- the other steps leave the stack as it is
    obtain hstack := Option.some.inj hrun
    exact Or.inl (hstack ▸ h)

theorem signedOut_of_systemStep (h : SignedOut (s.devices d).stack)
    (hstep : systemStep sdk toLowerCase s l = some s') :
    SignedOut (s'.devices d).stack ∨ LogsIn s d l := by
  have hrun := stack_of_systemStep d hstep
  cases systemEffect_of_step hstep with
  | moved d' step n hn =>
    by_cases hd : d' = d
    · subst hd
      rcases signedOut_of_deviceStep h hn with hout | ⟨rfl, hlogin⟩
      · refine Or.inl ?_
        simpa only [System.display, Function.update_self] using hout
      · exact Or.inr ⟨rfl, hlogin⟩
    · rw [SystemStep.navSteps, if_neg hd] at hrun
      exact Or.inl (Option.some.inj hrun ▸ h)
  | _ => exact Or.inl (Option.some.inj hrun ▸ h)

/-- In every run of the system, if a page that is behind the login is anywhere on the stack of a
device, then the run has a tap on "Login" on this device, with a form that the validators accept. -/
theorem login_of_signedIn (sdk : Firebase.Rendering) (toLowerCase : String → String)
    (events users : Firebase.Node) (past : List String) (ls : List (SystemStep ι))
    (s : System ι) (d : ι)
    (hrun : LTS.run (systemStep sdk toLowerCase) (System.initial events users past) ls = some s)
    (hsignedIn : ∃ page ∈ s.devices d, page.route.route.signedIn = true) :
    ∃ p l q t, ls = p ++ l :: q ∧
      LTS.run (systemStep sdk toLowerCase) (System.initial events users past) p = some t ∧
      LogsIn t d l := by
  have hin : ¬ SignedOut (s.devices d).stack := by
    obtain ⟨page, hpage, hpage'⟩ := hsignedIn
    intro hout
    have hfalse := hout page.route.route (List.mem_map_of_mem (List.mem_map_of_mem hpage))
    rw [hpage'] at hfalse
    simp at hfalse
  have hout : SignedOut ((System.initial events users past : System ι).devices d).stack :=
    signedOut_launched
  -- the step with which the device stops being signed out
  obtain ⟨p, l, q, t, t', hls, ht, hout', hl, hin'⟩ := LTS.exists_step_of_lost
    (I := fun s : System ι => SignedOut (s.devices d).stack) hout hrun hin
  exact ⟨p, l, q, t, hls, ht, (signedOut_of_systemStep hout' hl).resolve_left hin'⟩

/-- A device logs in and comes back to its schedule. -/
theorem login_of_signedIn_schedule :
    ∃ p l q t, loginSteps 0 ++ [.onDevice 0 (.navigate (.tap ⟨.bottomBar 1, none⟩))] =
        p ++ l :: q ∧
      LTS.run (systemStep .maps String.toLower) (System.initial .empty .empty []) p = some t ∧
      LogsIn t (0 : Fin 1) l := by
  have hrun : (LTS.run (systemStep .maps String.toLower) (System.initial .empty .empty [])
      (loginSteps (0 : Fin 1) ++ [.onDevice 0 (.navigate (.tap ⟨.bottomBar 1, none⟩))])).any
        (fun s => (s.devices 0).any fun page => page.route.route.signedIn) = true := by
    decide +kernel
  obtain ⟨s, hs, hany⟩ := (Option.any_eq_true _ _).mp hrun
  exact login_of_signedIn .maps String.toLower .empty .empty [] _ s 0 hs (List.any_eq_true.mp hany)

/-! ## Other accounts -/

/-- The system with other accounts. -/
def System.withUsers (s : System ι) (users : Firebase.Node) (userKeys : List String) : System ι :=
  { s with users := users, userKeys := userKeys }

/-- A step does with other accounts what it does, as long as `push` yields none of their keys. -/
theorem systemStep_withUsers (users : Firebase.Node) {userKeys others : List String}
    (hkeys : ∀ key ∈ userKeys, key ∈ s.userKeys ∨ key ∈ others)
    (hl : ∀ d key, l = .signUp d key → key ∉ others)
    (hstep : systemStep sdk toLowerCase s l = some s') :
    ∃ users' userKeys', systemStep sdk toLowerCase (s.withUsers users userKeys) l =
        some (s'.withUsers users' userKeys') ∧
      ∀ key ∈ userKeys', key ∈ s'.userKeys ∨ key ∈ others := by
  cases systemEffect_of_step hstep with
  | moved d step n hn =>
    refine ⟨users, userKeys, ?_, hkeys⟩
    show Option.map _ (deviceStep toLowerCase (sdk.value s.events) (s.devices d) step) = _
    rw [hn]
    rfl
  | refused d key form pending rest hdevice hvalid =>
    refine ⟨users, userKeys, ?_, hkeys⟩
    simp only [systemStep, System.withUsers, hdevice, saveEvent, hvalid, Bool.false_eq_true,
      ↓reduceIte]
  | edited d key form pending rest id data hdevice hvalid hedited =>
    refine ⟨users, userKeys, ?_, hkeys⟩
    simp only [systemStep, System.withUsers, hdevice, saveEvent, hvalid, hedited, ↓reduceIte,
      System.write]
    rfl
  | created d key form pending rest hdevice hvalid hedited hfresh =>
    refine ⟨users, userKeys, ?_, hkeys⟩
    simp only [systemStep, System.withUsers, hdevice, saveEvent, hvalid, hedited, ↓reduceIte,
      System.write, hfresh]
    rfl
  | refusedSignUp d key form pending rest hdevice haccepted =>
    refine ⟨users, userKeys, ?_, hkeys⟩
    simp only [systemStep, System.withUsers, hdevice, form.signUp_eq, haccepted,
      Bool.false_eq_true, ↓reduceIte]
  | signedUp d key form pending rest hdevice haccepted hfresh =>
    -- the key is fresh for the accounts of the run and for the other ones
    have hfresh' : key ∉ userKeys := fun hmem => (hkeys key hmem).elim hfresh (hl d key rfl)
    refine ⟨Firebase.push users key (form.user key).toMap, key :: userKeys, ?_, ?_⟩
    · simp only [systemStep, System.withUsers, hdevice, form.signUp_eq, haccepted, ↓reduceIte,
        System.writeUser, hfresh']
      rfl
    · intro key' hkey'
      rcases List.mem_cons.mp hkey' with rfl | hkey'
      · exact Or.inl List.mem_cons_self
      · exact (hkeys key' hkey').imp_left (List.mem_cons_of_mem key)
  | deleted d screen event popups rest hdevice =>
    refine ⟨users, userKeys, ?_, hkeys⟩
    simp only [systemStep, System.withUsers, hdevice]

theorem run_withUsers
    (hrun : LTS.run (systemStep sdk toLowerCase) (System.initial events users past) ls = some s)
    (hls : ∀ d key, SystemStep.signUp d key ∈ ls → key ∉ users'.keys) :
    ∃ users'' userKeys,
      LTS.run (systemStep sdk toLowerCase) (System.initial events users' past) ls =
        some (s.withUsers users'' userKeys) ∧
      ∀ key ∈ userKeys, key ∈ s.userKeys ∨ key ∈ users'.keys := by
  -- by induction from the end, since the sign-ups of the run have to be kept apart from its keys
  induction ls using List.reverseRecOn generalizing s with
  | nil =>
    obtain rfl := Option.some.inj hrun
    refine ⟨users', users'.keys ++ past, rfl, fun key hkey => ?_⟩
    exact (List.mem_append.mp hkey).symm.imp_left (List.mem_append_right _)
  | append_singleton ls l ih =>
    obtain ⟨t, ht, hl⟩ := LTS.run_concat_eq_some.mp hrun
    obtain ⟨users₁, userKeys₁, hrun₁, hkeys₁⟩ := ih ht fun d key hmem =>
      hls d key (List.mem_append_left _ hmem)
    obtain ⟨users₂, userKeys₂, hstep, hkeys₂⟩ := systemStep_withUsers users₁ hkeys₁
      (fun d key heq => hls d key (by simp [heq])) hl
    exact ⟨users₂, userKeys₂, LTS.run_concat_eq_some.mpr ⟨_, hrun₁, hstep⟩, hkeys₂⟩

/-- No account is ever looked up: what a run does to the pages of the devices and to the `events`
node, the same steps do with any other accounts in the database, as long as `push` does not yield
their keys. -/
theorem run_of_otherUsers (sdk : Firebase.Rendering) (toLowerCase : String → String)
    (events users users' : Firebase.Node) (past : List String) (ls : List (SystemStep ι))
    (s : System ι)
    (hrun : LTS.run (systemStep sdk toLowerCase) (System.initial events users past) ls = some s)
    (hls : ∀ d key, SystemStep.signUp d key ∈ ls → key ∉ users'.keys) :
    ∃ s', LTS.run (systemStep sdk toLowerCase) (System.initial events users' past) ls = some s' ∧
      s'.devices = s.devices ∧ s'.events = s.events := by
  obtain ⟨users'', userKeys, hrun', -⟩ := run_withUsers hrun hls
  exact ⟨_, hrun', rfl, rfl⟩

/-- A device signs up and logs in; with an account in the database it gets to the same pages. -/
theorem run_of_otherUsers_signedUp :
    ∃ (ls : List (SystemStep (Fin 1))) (s s' : System (Fin 1)) (users' : Firebase.Node),
      users'.keys = ["k1"] ∧
      LTS.run (systemStep .maps String.toLower) (System.initial .empty .empty []) ls = some s ∧
      LTS.run (systemStep .maps String.toLower) (System.initial .empty users' []) ls = some s' ∧
      s'.devices = s.devices ∧ s.users.keys = ["k2"] := by
  let ls : List (SystemStep (Fin 1)) := [.onDevice 0 (.navigate (.tap ⟨.openSignUp, none⟩)),
    .onDevice 0 (.change (.name "John Doe")), .onDevice 0 (.change (.email "your@email.com")),
    .onDevice 0 (.change (.password "secret")), .onDevice 0 (.change (.terms true)),
    .signUp 0 "k2", .onDevice 0 (.navigate (.tap ⟨.signedUp, none⟩))] ++ loginSteps 0
  let users' : Firebase.Node := LinkedHashMap.empty.set "k1" (.bool true)
  have husers' : users'.keys = ["k1"] := rfl
  have hrun : (LTS.run (systemStep .maps String.toLower) (System.initial .empty .empty []) ls).any
      (fun s => decide (s.users.keys = ["k2"])) = true := by
    decide +kernel
  obtain ⟨s, hs, hkeys⟩ := (Option.any_eq_true _ _).mp hrun
  rw [decide_eq_true_iff] at hkeys
  obtain ⟨s', hs', hdevices, -⟩ := run_of_otherUsers .maps String.toLower .empty .empty users' []
    ls s hs (by simp [ls, loginSteps, husers'])
  exact ⟨ls, s, s', users', husers', hs, hs', hdevices, hkeys⟩

end System

end EventManager.App

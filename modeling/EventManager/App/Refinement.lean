import EventManager.App.Following
import EventManager.App.Provenance
import Mathlib.Data.Prod.Basic

/-!
# The devices refine the clients

Every run of the app on its devices is a run of the clients that the results about the two nodes are
proved for: of `Clients` as far as the `events` node goes, and of `Accounts` as far as the `users`
node goes.

## Main results

* `clients_of_run`: the refinement for the `events` node;
* `signUps_of_run`: the refinement for the `users` node;
* `database_of_run`: what the two refinements say about the database after a run of the app, with
  the accounts that were created in the run.
-/

namespace EventManager.App

open Dart Flutter

/-! ## The `events` node -/

section Events

variable {ι : Type} [DecidableEq ι] {sdk : Firebase.Rendering} {toLowerCase : String → String}
  {s s' : System ι}
  {t : State (ι × ℕ)} {l : SystemStep ι}

theorem WellStacked.systemStep (h : ∀ d, WellStacked (s.devices d).stack)
    (hstep : systemStep sdk toLowerCase s l = some s') (d : ι) : WellStacked (s'.devices d).stack :=
  LTS.invariant (I := fun _ n => WellStacked n) (h d) (fun _ _ _ _ h hnav => h.navStep hnav)
    (stack_of_systemStep d hstep)

/-- The clients, one for each height of each stack, have what the devices show, and the node is the
same. -/
structure Refines (s : System ι) (t : State (ι × ℕ)) : Prop where
  wellStacked : ∀ d, WellStacked (s.devices d).stack
  events : t.events = s.events
  used : t.used = s.eventKeys
  clients : ∀ d, Mirrors (fun h => t.clients (d, h)) (s.devices d)

omit [DecidableEq ι] in
theorem refines_initial (events users : Firebase.Node) (past : List String) :
    Refines (System.initial events users past : System ι) (State.initial events past) := by
  refine ⟨fun _ => wellStacked_launched, rfl, rfl, fun d => ⟨fun h => rfl, fun h => ?_, ?_⟩⟩
  · cases h <;> rfl
  · intro h value hvalue
    cases h <;> simp [System.initial, Device.launched, Device.deliveredAt, Device.pageAt,
      Screen.opened, Screen.delivered] at hvalue

/-- A device changes its pages without a change of its forms, dialogs and values. -/
theorem mirrors_display {d : ι} {n : Device}
    (h : ∀ d, Mirrors (fun h => t.clients (d, h)) (s.devices d))
    (hn : Mirrors (fun h => t.clients (d, h)) n) (d' : ι) :
    Mirrors (fun h => t.clients (d', h)) (Function.update s.devices d n d') := by
  by_cases hd : d' = d
  · subst hd
    rwa [Function.update_self]
  · rw [Function.update_of_ne hd]
    exact h d'

/-- A device changes its pages, and one of its clients follows. -/
theorem mirrors_act {d : ι} {n : Device} {k : ℕ} {c : Client}
    (h : ∀ d, Mirrors (fun h => t.clients (d, h)) (s.devices d))
    (hn : Mirrors (Function.update (fun h => t.clients (d, h)) k c) n) (d' : ι) :
    Mirrors (fun h => Function.update t.clients (d, k) c (d', h))
      (Function.update s.devices d n d') := by
  by_cases hd : d' = d
  · subst hd
    have hclients : (fun h => Function.update t.clients (d', k) c (d', h)) =
        Function.update (fun h => t.clients (d', h)) k c :=
      Function.update_comp_eq_of_injective t.clients (Prod.mk_right_injective d') k c
    rwa [Function.update_self, hclients]
  · have hclients (j : ℕ) : Function.update t.clients (d, k) c (d', j) = t.clients (d', j) :=
      Function.update_of_ne (by simp [hd]) _ _
    simpa only [Function.update_of_ne hd, hclients] using h d'

/-- Every step of the system is matched by at most one step of the clients. -/
theorem Refines.step (h : Refines s t) (hstep : systemStep sdk toLowerCase s l = some s') :
    ∃ ks t', LTS.run (appStep sdk) t ks = some t' ∧ Refines s' t' := by
  have hw := WellStacked.systemStep h.wellStacked hstep
  -- the form of `CreateEventPage` on top is that of a client
  have hclient {d : ι} {form : Form} {pending : ℕ} {rest : Device}
      (hdevice : s.devices d = ⟨.createEventPage form pending, []⟩ :: rest) :
      ∃ k, (t.clients (d, k)).form = some form := by
    have hd := h.clients d
    have hwd := h.wellStacked d
    rw [hdevice] at hd hwd
    obtain ⟨k, hk⟩ := exists_length_eq hwd rfl
    exact ⟨k, hd.form_beneath hk⟩
  -- and stays so while its write is pending
  have hpending {d : ι} {form : Form} {pending : ℕ} {rest : Device}
      (hdevice : s.devices d = ⟨.createEventPage form pending, []⟩ :: rest) :
      Mirrors (fun h => t.clients (d, h)) (⟨.createEventPage form (pending + 1), []⟩ :: rest) := by
    have hd := h.clients d
    rw [hdevice] at hd
    exact hd.silent (.top rfl rfl fun _ => id)
  cases systemEffect_of_step hstep with
  | moved d step n hn =>
    rcases mirrors_of_deviceStep (h.wellStacked d) (h.clients d) hn with
      hmirrors | ⟨k, a, c, hact, hmirrors⟩
    · exact ⟨[], t, rfl, hw, h.events, h.used, mirrors_display h.clients hmirrors⟩
    · -- the node is the same, so the client is delivered what the page is
      refine ⟨[.act (d, k) a], { t with clients := Function.update t.clients (d, k) c }, ?_,
        hw, h.events, h.used, mirrors_act h.clients hmirrors⟩
      rw [LTS.run_singleton]
      show Option.map _ ((t.clients (d, k)).act (sdk.value t.events) a) = _
      rw [h.events, hact]
      rfl
  | refused d key form pending rest hdevice hvalid => exact ⟨[], t, rfl, h⟩
  | edited d key form pending rest id data hdevice hvalid hedited =>
    obtain ⟨k, hform⟩ := hclient hdevice
    refine ⟨[.save (d, k) key],
      { t with events := Firebase.update t.events id form.eventData }, ?_, hw,
      congrArg (Firebase.update · id form.eventData) h.events, h.used,
      mirrors_display h.clients (hpending hdevice)⟩
    rw [LTS.run_singleton]
    show (t.clients (d, k)).form.bind _ = _
    rw [hform]
    simp only [Option.bind_some, saveEvent, hvalid, hedited, ↓reduceIte, State.write]
  | created d key form pending rest hdevice hvalid hedited hfresh =>
    -- the used keys are the same, so the key is as fresh for the clients
    obtain ⟨k, hform⟩ := hclient hdevice
    refine ⟨[.save (d, k) key], { t with
        events := Firebase.push t.events key form.eventData
        used := key :: t.used }, ?_, hw,
      congrArg (Firebase.push · key form.eventData) h.events, congrArg (key :: ·) h.used,
      mirrors_display h.clients (hpending hdevice)⟩
    rw [LTS.run_singleton]
    show (t.clients (d, k)).form.bind _ = _
    rw [hform]
    simp only [Option.bind_some, saveEvent, hvalid, hedited, ↓reduceIte, State.write, h.used,
      hfresh]
  | refusedSignUp => exact ⟨[], t, rfl, h⟩
  | signedUp d key form pending rest hdevice =>
    -- a write to the other node
    refine ⟨[], t, rfl, hw, h.events, h.used, mirrors_display h.clients ?_⟩
    have hd := h.clients d
    rw [hdevice] at hd
    exact hd.silent (.top rfl rfl fun _ => id)
  | deleted d screen event popups rest hdevice =>
    refine ⟨[.confirmDelete (d, rest.length) event.id],
      { t with events := Firebase.remove t.events event.id }, ?_, hw,
      congrArg (Firebase.remove · event.id) h.events, h.used, h.clients⟩
    -- the dialog on top is that of the client at the height of its page
    have hd := h.clients d
    rw [hdevice] at hd
    have hdialog : (t.clients (d, rest.length)).dialog = some event := hd.dialog_top
    rw [LTS.run_singleton]
    show step sdk t (.confirmDelete (d, rest.length) event.id) = _
    simp only [step, hdialog, Option.map_some, ↓reduceIte]

theorem refines_of_systemRun {events users : Firebase.Node} {past : List String}
    {ls : List (SystemStep ι)}
    (hrun : LTS.run (systemStep sdk toLowerCase) (System.initial events users past) ls = some s) :
    ∃ ks t, LTS.run (appStep sdk) (State.initial events past) ks = some t ∧ Refines s t :=
  LTS.simulation (refines_initial events users past) (fun _ _ _ _ h hstep => h.step hstep) hrun

/-- Every run of the app on its devices is a run of the clients: for every run there is a run of
clients, one for each height of each stack, which ends with the same `events` node and the same used
keys, and in which the clients have the forms, the delete dialogs and the values of the dashboards
that the devices show. -/
theorem clients_of_run (sdk : Firebase.Rendering) (toLowerCase : String → String)
    (events users : Firebase.Node) (past : List String) (ls : List (SystemStep ι)) (s : System ι)
    (hrun : LTS.run (systemStep sdk toLowerCase) (System.initial events users past) ls = some s) :
    ∃ ks t, LTS.run (appStep sdk) (State.initial events past) ks = some t ∧ Refines s t :=
  refines_of_systemRun hrun

end Events

/-- A device logs in, opens its dashboard, edits an event from its card and goes back; the other
device deletes the event. -/
theorem clients_of_run_editedAndDeleted :
    ∃ (ls : List (SystemStep (Fin 2))) (s : System (Fin 2)),
      LTS.run (systemStep .maps String.toLower) (System.initial summitNode .empty []) ls = some s ∧
      s.events.keys = [] ∧
      ∃ ks t, LTS.run (appStep .maps) (State.initial summitNode []) ks = some t ∧ Refines s t := by
  let ls : List (SystemStep (Fin 2)) := dashboardSteps 0 ++ dashboardSteps 1 ++
    [.onDevice 0 (.navigate (.tap ⟨.openForm, some summit⟩)), .onDevice 0 (.type .title "Expo"),
      .save 0 "e2", .onDevice 0 (.navigate (.tap ⟨.saved, none⟩)),
      .onDevice 1 (.navigate (.tap ⟨.openOverlay .deleteDialog, some summit⟩)), .confirmDelete 1,
      .onDevice 1 (.navigate .back)]
  have hrun : (LTS.run (systemStep .maps String.toLower)
      (System.initial summitNode .empty []) ls).any (fun s =>
        decide (s.events.keys = [])) = true := by
    decide +kernel
  obtain ⟨s, hs, hkeys⟩ := (Option.any_eq_true _ _).mp hrun
  rw [decide_eq_true_iff] at hkeys
  exact ⟨ls, s, hs, hkeys, clients_of_run .maps String.toLower summitNode .empty [] ls s hs⟩

/-! ## The `users` node -/

/-- The form of `SignUpPage`, if it is on top. -/
def Device.signUpForm : Device → Option SignUpForm
  | ⟨.signUpPage form _, _⟩ :: _ => some form
  | _ => none

/-- What a step of a device does to its `SignUpPage`. -/
inductive PageTurn : Option SignUpForm → Option SignUpForm → Prop
  | same (page : Option SignUpForm) : PageTurn page page
  | opened : PageTurn none (some .initial)
  | changed (edit : SignUpEdit) (form form' : SignUpForm) (hedit : form.change edit = some form') :
      PageTurn (some form) (some form')
  | left (page : Option SignUpForm) : PageTurn page none

section Pages

variable {toLowerCase : String → String} {value : Dyn} {screen : Screen} {popups : List Popup}
  {rest n n' : Device} {touch : Touch} {ops : List (NavOp Screen Popup)}

/-- `SignUpPage` has just been opened. -/
def Screen.NewSignUp (screen : Screen) : Prop :=
  ∀ form pending, screen = .signUpPage form pending → form = .initial

theorem newSignUp_of_route (h : screen.route ≠ .signUpPage) : screen.NewSignUp := by
  rintro form pending rfl
  exact absurd rfl h

theorem newSignUp_opened (card : Option Event) (r : Route) : (Screen.opened card r).NewSignUp := by
  intro form pending h
  cases r <;> simp_all [Screen.opened]

theorem newSignUp_withRoute (screen : Screen) (r : Route) : (screen.withRoute r).NewSignUp := by
  intro form pending h
  cases r <;> cases screen <;> simp_all [Screen.withRoute, Screen.opened]

theorem signUpForm_of_newSignUp (h : ∀ page ∈ n, page.route.NewSignUp) :
    n.signUpForm = none ∨ n.signUpForm = some .initial := by
  rcases n with _ | ⟨⟨screen, popups⟩, rest⟩
  · exact Or.inl rfl
  · cases screen with
    | signUpPage form pending =>
      obtain rfl := (List.forall_mem_cons.mp h).1 form pending rfl
      exact Or.inr rfl
    | _ => exact Or.inl rfl

/-- The pages beneath the one on top are no `SignUpPage`. -/
theorem ne_signUpPage_beneath (hw : WellStacked (Device.stack (⟨screen, popups⟩ :: rest))) :
    ∀ page ∈ rest, page.route.route ≠ .signUpPage := by
  intro page hpage
  refine (ne_of_stacked hw.stacked page.route.route ?_).2
  exact List.mem_map_of_mem (List.mem_map_of_mem hpage)

theorem signUpForm_beneath (hw : WellStacked (Device.stack (⟨screen, popups⟩ :: rest))) :
    rest.signUpForm = none := by
  have hrest := ne_signUpPage_beneath hw
  rcases rest with _ | ⟨⟨screen, popups⟩, rest⟩
  · rfl
  · cases screen with
    | signUpPage => exact absurd rfl (hrest _ List.mem_cons_self)
    | _ => rfl

theorem signUpForm_receiveAt (index : ℕ) (snapshot : AsyncSnapshot) (n : Device) :
    (receiveAt index snapshot n).signUpForm = n.signUpForm := by
  rcases n with _ | ⟨⟨screen, popups⟩, rest⟩
  · cases index <;> rfl
  · cases index <;> cases screen <;> rfl

theorem pageTurn_of_tap (hw : WellStacked (Device.stack (⟨screen, popups⟩ :: rest)))
    (hops : deviceHandler toLowerCase ⟨screen, popups⟩ touch = some ops) :
    PageTurn (Device.signUpForm (⟨screen, popups⟩ :: rest))
      (Device.signUpForm (Navigator.performAll (⟨screen, popups⟩ :: rest) ops)) := by
  obtain ⟨t, card⟩ := touch
  obtain ⟨-, ops', hops', rfl⟩ := deviceHandler_eq_some hops
  replace hops' : handler ⟨screen.route, popups.map Popup.overlay⟩ t = some ops' := hops'
  by_cases hroute : screen.route = .signUpPage
  · -- the page on top is left
    rw [hroute] at hops'
    cases popups with
    | cons popup popups => simp [handler, signUpPageHandler] at hops'
    | nil =>
      simp only [handler, List.map_nil, signUpPageHandler] at hops'
      split at hops'
      · obtain rfl := Option.some.inj hops'
        show PageTurn _ rest.signUpForm
        rw [signUpForm_beneath hw]
        exact .left _
      · obtain rfl := Option.some.inj hops'
        exact .left _
      · simp at hops'
  · -- there is no `SignUpPage`, and only a new one can be pushed
    have hnone : Device.signUpForm (⟨screen, popups⟩ :: rest) = none := by
      cases screen with
      | signUpPage => exact absurd rfl hroute
      | _ => rfl
    have hnew : Device.Forall Screen.NewSignUp (fun _ => True) (⟨screen, popups⟩ :: rest) :=
      List.forall_mem_cons.mpr ⟨⟨newSignUp_of_route hroute, by simp⟩,
        fun page hpage => ⟨newSignUp_of_route (ne_signUpPage_beneath hw page hpage), by simp⟩⟩
    have hnew' := forall_performAll card (newSignUp_opened card)
      (newSignUp_withRoute screen) (fun _ => trivial) hnew ops'
    rw [hnone]
    rcases signUpForm_of_newSignUp fun page hpage => (hnew' page hpage).1 with h | h
    · rw [h]
      exact .same _
    · rw [h]
      exact .opened

theorem pageTurn_of_deviceStep {step : DeviceStep} (hw : WellStacked n.stack)
    (hstep : deviceStep toLowerCase value n step = some n') :
    PageTurn n.signUpForm n'.signUpForm := by
  cases deviceEffect_of_step hstep with
  | tapped top rest touch ops hops => exact pageTurn_of_tap hw hops
  | closedPopup screen => cases screen <;> exact .same _
  | removedPage =>
    rw [signUpForm_beneath hw]
    exact .left _
  | changed edit form form' pending rest hedit => exact .changed edit form form' hedit
  | delivered =>
    rw [signUpForm_receiveAt]
    exact .same _
  | failed =>
    rw [signUpForm_receiveAt]
    exact .same _
  | _ => exact .same _

end Pages

section Users

variable {ι : Type} [DecidableEq ι] {sdk : Firebase.Rendering} {toLowerCase : String → String}
  {s s' : System ι} {t : SignUps ι} {l : SystemStep ι}

/-- The key and the form of an accepted tap on the button of `SignUpPage`. -/
def System.account (s : System ι) : SystemStep ι → Option (String × SignUpForm)
  | .signUp d key =>
    match s.devices d with
    | ⟨.signUpPage form _, []⟩ :: _ => if form.accepted then some (key, form) else none
    | _ => none
  | _ => none

/-- The sign-ups of a run. -/
def System.accounts (sdk : Firebase.Rendering) (toLowerCase : String → String) (s : System ι)
    (ls : List (SystemStep ι)) : List (String × SignUpForm) :=
  LTS.log (systemStep sdk toLowerCase) System.account s ls

/-- The `users` node is the same, and each device shows the sign-up page of its client. -/
structure RefinesSignUps (s : System ι) (t : SignUps ι) : Prop where
  wellStacked : ∀ d, WellStacked (s.devices d).stack
  users : t.users = s.users
  used : t.used = s.userKeys
  pages : ∀ d, t.pages d = (s.devices d).signUpForm

omit [DecidableEq ι] in
theorem refinesSignUps_initial (events users : Firebase.Node) (past : List String) :
    RefinesSignUps (System.initial events users past : System ι) (SignUps.initial users past) :=
  ⟨fun _ => wellStacked_launched, rfl, rfl, fun _ => rfl⟩

/-- The sign-up page of one device changes. -/
theorem pages_update {d : ι} {n : Device} {page : Option SignUpForm}
    (h : ∀ d, t.pages d = (s.devices d).signUpForm) (hpage : page = n.signUpForm) (d' : ι) :
    Function.update t.pages d page d' = (Function.update s.devices d n d').signUpForm := by
  by_cases hd : d' = d
  · rw [hd, Function.update_self, Function.update_self, hpage]
  · rw [Function.update_of_ne hd, Function.update_of_ne hd, h d']

/-- The pages of one device change, but not its sign-up page. -/
theorem pages_display {d : ι} {n : Device} (h : ∀ d, t.pages d = (s.devices d).signUpForm)
    (hn : n.signUpForm = (s.devices d).signUpForm) (d' : ι) :
    t.pages d' = (Function.update s.devices d n d').signUpForm := by
  by_cases hd : d' = d
  · rw [hd, Function.update_self, hn, h d]
  · rw [Function.update_of_ne hd, h d']

/-- Every step of the system is matched by at most one step of the sign-up pages, with the same
sign-up, if any. -/
theorem RefinesSignUps.step (h : RefinesSignUps s t)
    (hstep : systemStep sdk toLowerCase s l = some s') :
    ∃ ks t', LTS.run signUpStep t ks = some t' ∧ RefinesSignUps s' t' ∧
      accounts t ks = (s.account l).toList := by
  have hw := WellStacked.systemStep h.wellStacked hstep
  cases systemEffect_of_step hstep with
  | moved d step n hn =>
    have hpage := h.pages d
    have hturn := pageTurn_of_deviceStep (h.wellStacked d) hn
    -- the turn is about the pages on top alone
    generalize hold : (s.devices d).signUpForm = old at hturn
    generalize hnew : n.signUpForm = new at hturn
    cases hturn with
    | same =>
      exact ⟨[], t, rfl, ⟨hw, h.users, h.used, pages_display h.pages (hnew.trans hold.symm)⟩, rfl⟩
    | opened =>
      have hopened : signUpStep t (.openSignUp d) =
          some { t with pages := Function.update t.pages d (some .initial) } := by
        rw [signUpStep, hpage, hold]
        rfl
      exact ⟨[.openSignUp d], _, LTS.run_singleton.trans hopened,
        ⟨hw, h.users, h.used, pages_update h.pages hnew.symm⟩, LTS.log_singleton hopened⟩
    | changed edit form form' hedit =>
      have hchanged : signUpStep t (.change d edit) =
          some { t with pages := Function.update t.pages d (some form') } := by
        rw [signUpStep, hpage, hold]
        show Option.bind (form.change edit) _ = _
        rw [hedit]
        rfl
      exact ⟨[.change d edit], _, LTS.run_singleton.trans hchanged,
        ⟨hw, h.users, h.used, pages_update h.pages hnew.symm⟩, LTS.log_singleton hchanged⟩
    | left =>
      -- by the arrow, or since the sign-up was acknowledged
      exact ⟨[.leave d], { t with pages := Function.update t.pages d none }, rfl,
        ⟨hw, h.users, h.used, pages_update h.pages hnew.symm⟩, rfl⟩
  | signedUp d key form pending rest hdevice haccepted hfresh =>
    have hpage : t.pages d = some form := by
      rw [h.pages d, hdevice]
      rfl
    have hsubmitted : signUpStep t (.submit d key) = some { t with
        users := Firebase.push t.users key (form.user key).toMap
        used := key :: t.used } := by
      rw [signUpStep, hpage]
      simp only [Option.bind_eq_bind, Option.bind_some, form.signUp_eq, haccepted, ↓reduceIte,
        h.used, hfresh]
      rfl
    refine ⟨[.submit d key], _, LTS.run_singleton.trans hsubmitted,
      ⟨hw, congrArg (Firebase.push · key (form.user key).toMap) h.users,
        congrArg (key :: ·) h.used, pages_display h.pages (by rw [hdevice]; rfl)⟩, ?_⟩
    -- the page has the form that the device shows
    rw [accounts, LTS.log_singleton hsubmitted]
    simp [account, hpage, System.account, hdevice, haccepted]
  | refusedSignUp d key form pending rest hdevice haccepted =>
    refine ⟨[], t, rfl, h, ?_⟩
    simp [accounts, LTS.log, System.account, hdevice, haccepted]
  -- writes to the other node
  | edited d key form pending rest id data hdevice =>
    exact ⟨[], t, rfl, ⟨hw, h.users, h.used, pages_display h.pages (by rw [hdevice]; rfl)⟩, rfl⟩
  | created d key form pending rest hdevice =>
    exact ⟨[], t, rfl, ⟨hw, h.users, h.used, pages_display h.pages (by rw [hdevice]; rfl)⟩, rfl⟩
  | _ => exact ⟨[], t, rfl, ⟨hw, h.users, h.used, h.pages⟩, rfl⟩

/-- Every run of the system is matched by a run of the sign-up pages with the same sign-ups. -/
theorem refinesSignUps_of_systemRun {events users : Firebase.Node} {past : List String}
    {ls : List (SystemStep ι)}
    (hrun : LTS.run (systemStep sdk toLowerCase) (System.initial events users past) ls = some s) :
    ∃ ks t, LTS.run signUpStep (SignUps.initial users past) ks = some t ∧ RefinesSignUps s t ∧
      accounts (SignUps.initial users past) ks =
        System.accounts sdk toLowerCase (System.initial events users past) ls :=
  LTS.simulation_log (refinesSignUps_initial events users past)
    (fun _ _ _ _ h hstep => h.step hstep) hrun

/-- Every run of the app on its devices is a run of the clients of the `users` node: for every run
there is a run of sign-ups, one client for each device, which ends with the same `users` node and
the same used keys, and in which the clients have the sign-up pages that the devices show on top. -/
theorem signUps_of_run (sdk : Firebase.Rendering) (toLowerCase : String → String)
    (events users : Firebase.Node) (past : List String) (ls : List (SystemStep ι)) (s : System ι)
    (hrun : LTS.run (systemStep sdk toLowerCase) (System.initial events users past) ls = some s) :
    ∃ ks t, LTS.run signUpStep (SignUps.initial users past) ks = some t ∧ RefinesSignUps s t := by
  obtain ⟨ks, t, hks, hrefines, -⟩ := refinesSignUps_of_systemRun hrun
  exact ⟨ks, t, hks, hrefines⟩

end Users

/-- A device signs up with two taps, and the second write is acknowledged after the page is gone. -/
theorem signUps_of_run_twice :
    ∃ (ls : List (SystemStep (Fin 1))) (s : System (Fin 1)),
      LTS.run (systemStep .maps String.toLower) (System.initial .empty .empty []) ls = some s ∧
      s.users.keys = ["k1", "k2"] ∧
      ∃ ks t, LTS.run signUpStep (SignUps.initial .empty []) ks = some t ∧ RefinesSignUps s t := by
  let ls : List (SystemStep (Fin 1)) := [.onDevice 0 (.navigate (.tap ⟨.openSignUp, none⟩)),
    .onDevice 0 (.change (.name "John Doe")), .onDevice 0 (.change (.email "your@email.com")),
    .onDevice 0 (.change (.password "secret")), .onDevice 0 (.change (.terms true)),
    .signUp 0 "k1", .signUp 0 "k2", .onDevice 0 (.navigate (.tap ⟨.signedUp, none⟩))]
  have hrun : (LTS.run (systemStep .maps String.toLower) (System.initial .empty .empty []) ls).any
      (fun s => decide (s.users.keys = ["k1", "k2"])) = true := by
    decide +kernel
  obtain ⟨s, hs, hkeys⟩ := (Option.any_eq_true _ _).mp hrun
  rw [decide_eq_true_iff] at hkeys
  exact ⟨ls, s, hs, hkeys, signUps_of_run .maps String.toLower .empty .empty [] ls s hs⟩

/-! ## The database -/

theorem allDecode_summitNode : AllDecode summitNode := by
  intro id hid
  obtain rfl : id = "e1" := List.mem_singleton.mp hid
  exact ⟨summit, rfl⟩

section Database

variable {ι : Type} [DecidableEq ι]

/-- The database stays well formed in every run of the app on its devices. If the records of the
events decode to begin with, they all do at the end. Each stored event that decodes has the number
of attendees that its id had to begin with. The `users` node holds the initial records as they were,
one record for each accepted sign-up of the run, and nothing else; each of the new ones decodes to
what was typed. -/
theorem database_of_run (sdk : Firebase.Rendering) (toLowerCase : String → String)
    (events users : Firebase.Node) (past : List String) (ls : List (SystemStep ι)) (s : System ι)
    (hrun : LTS.run (systemStep sdk toLowerCase) (System.initial events users past) ls = some s) :
    (AllDecode events → AllDecode s.events) ∧
      (∀ id e, storedEvent s.events id = some e → e.attendees = initialAttendees events id) ∧
      (∀ id ∈ users.keys, s.users.lookup id = users.lookup id) ∧
      s.users.keys.Perm (users.keys ++ (System.accounts sdk toLowerCase
        (System.initial events users past) ls).map Prod.fst) ∧
      ∀ key form, (key, form) ∈ System.accounts sdk toLowerCase
          (System.initial events users past) ls → SignedUp s.users key form := by
  obtain ⟨ks, t, hks, hrefines⟩ := refines_of_systemRun hrun
  obtain ⟨ks', t', hks', hsignUps, haccounts⟩ := refinesSignUps_of_systemRun hrun
  -- the two runs end with the nodes of this one, and the second one has its sign-ups
  rw [← hrefines.events, ← hsignUps.users, ← haccounts]
  have haccounted := accounted_of_run hks'
  exact ⟨fun hdecode => (holdsLog_of_run hdecode hks).decodes, (stocked_of_appRun hks).stored,
    haccounted.kept, haccounted.keys, haccounted.signedUp⟩

end Database

/-- A device edits the event, the other one signs up. -/
theorem database_of_run_editedAndSignedUp :
    ∃ (ls : List (SystemStep (Fin 2))) (s : System (Fin 2)) (form : SignUpForm),
      LTS.run (systemStep .maps String.toLower) (System.initial summitNode .empty []) ls = some s ∧
      AllDecode s.events ∧
      (∀ id e, storedEvent s.events id = some e →
        e.attendees = initialAttendees summitNode id) ∧
      s.users.keys.Perm ["k1"] ∧ form.name = "John Doe" ∧ SignedUp s.users "k1" form := by
  let ls : List (SystemStep (Fin 2)) := dashboardSteps 0 ++
    [.onDevice 0 (.navigate (.tap ⟨.openForm, some summit⟩)), .onDevice 0 (.type .title "Expo"),
      .save 0 "e2", .onDevice 1 (.navigate (.tap ⟨.openSignUp, none⟩)),
      .onDevice 1 (.change (.name "John Doe")), .onDevice 1 (.change (.email "your@email.com")),
      .onDevice 1 (.change (.password "secret")), .onDevice 1 (.change (.terms true)),
      .signUp 1 "k1", .onDevice 0 (.navigate .back)]
  let form : SignUpForm := ⟨"John Doe", "your@email.com", "secret", .attendee, true, 18⟩
  have hsome : (LTS.run (systemStep .maps String.toLower)
      (System.initial summitNode .empty []) ls).isSome = true := by
    decide +kernel
  have haccounts : System.accounts .maps String.toLower (System.initial summitNode .empty []) ls =
      [("k1", form)] := by
    decide +kernel
  obtain ⟨s, hs⟩ := Option.isSome_iff_exists.mp hsome
  obtain ⟨hdecode, hattendees, -, hkeys, hsignedUp⟩ :=
    database_of_run .maps String.toLower summitNode .empty [] ls s hs
  rw [haccounts] at hkeys hsignedUp
  exact ⟨ls, s, form, hs, hdecode allDecode_summitNode, hattendees, hkeys, rfl,
    hsignedUp "k1" form (by simp)⟩

end EventManager.App

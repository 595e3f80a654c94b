import EventManager.App.Mirrors

/-!
# The clients follow the device

The handlers of a device either open a form or a delete dialog from a card, or they close one, or
they are plain: they touch neither. Plain handlers need no action of a client.

## Main results

* `isPlain_of_handler`: all handlers are plain but those of the buttons that open forms or delete
  dialogs, and of the bottom bars;
* `mirrors_of_deviceStep`: a step of a device is followed by its clients with at most one action.
-/

namespace EventManager.App

open Dart Flutter

/-! ## Steps without forms and dialogs -/

/-- The page is no `CreateEventPage` and shows no delete dialog. -/
structure Plain (page : Entry Screen Popup) : Prop where
  form : page.route.form = none
  popups : ∀ popup ∈ page.overlays, popup.overlay ≠ .deleteDialog

theorem dialogOf_eq_none {popups : List Popup}
    (h : ∀ popup ∈ popups, popup.overlay ≠ .deleteDialog) : dialogOf popups = none := by
  unfold dialogOf
  split
  · exact absurd rfl (h _ List.mem_cons_self)
  · rfl

/-- The operation opens no form and no delete dialog, and is no `setState`. -/
def isPlain : NavOp Route Overlay → Bool
  | .push route => route != .createEventPage
  | .pushReplacement route => route != .createEventPage
  | .pop => true
  | .present overlay => overlay != .deleteDialog
  | .setState _ => false

theorem form_opened {card : Option Event} {r : Route} (hr : (r != .createEventPage) = true) :
    (Screen.opened card r).form = none := by
  cases r with
  | createEventPage => simp at hr
  | _ => rfl

theorem delivered_opened (card : Option Event) (r : Route) :
    (Screen.opened card r).delivered = none := by
  cases r <;> rfl

section Plain

variable {n : Device} {op : NavOp Route Overlay} {ops : Ops}

theorem silent_perform (screen : Screen) (card : Option Event) (h : ∀ page ∈ n, Plain page)
    (hop : isPlain op = true) :
    Silent n (n.perform (screen.lift card op)) ∧
      ∀ page ∈ n.perform (screen.lift card op), Plain page := by
  cases op with
  | push r =>
    refine ⟨.push (form_opened hop) (delivered_opened card r), ?_⟩
    exact List.forall_mem_cons.mpr ⟨⟨form_opened hop, by simp⟩, h⟩
  | pushReplacement r =>
    -- the page that is replaced is plain, so no form and no dialog goes with it
    have hplain : Plain ⟨Screen.opened card r, []⟩ := ⟨form_opened hop, by simp⟩
    cases n with
    | nil =>
      exact ⟨.push hplain.form (delivered_opened card r), List.forall_mem_singleton.mpr hplain⟩
    | cons top rest =>
      obtain ⟨htop, hrest⟩ := List.forall_mem_cons.mp h
      refine ⟨.top (hplain.form.trans htop.form.symm) ?_ ?_,
        List.forall_mem_cons.mpr ⟨hplain, hrest⟩⟩
      · rw [dialogOf_eq_none htop.popups]
        rfl
      · simp [delivered_opened]
  | pop =>
    rcases n with _ | ⟨⟨route, _ | ⟨popup, popups⟩⟩, rest⟩
    · exact ⟨⟨fun _ => rfl, fun _ => rfl, fun _ _ => id⟩, h⟩
    · -- the page on top has no overlay and is removed
      obtain ⟨htop, hrest⟩ := List.forall_mem_cons.mp h
      exact ⟨.pop htop.form rfl, hrest⟩
    · -- its latest overlay is closed
      obtain ⟨htop, hrest⟩ := List.forall_mem_cons.mp h
      have hpopups := (List.forall_mem_cons.mp htop.popups).2
      refine ⟨.top rfl ?_ (fun _ => id), List.forall_mem_cons.mpr ⟨⟨htop.form, hpopups⟩, hrest⟩⟩
      rw [dialogOf_eq_none htop.popups, dialogOf_eq_none hpopups]
  | present overlay =>
    cases n with
    | nil => exact ⟨⟨fun _ => rfl, fun _ => rfl, fun _ _ => id⟩, h⟩
    | cons top rest =>
      obtain ⟨htop, hrest⟩ := List.forall_mem_cons.mp h
      have hpopups : ∀ popup ∈ ⟨overlay, card⟩ :: top.overlays, popup.overlay ≠ .deleteDialog :=
        List.forall_mem_cons.mpr ⟨by simpa [isPlain] using hop, htop.popups⟩
      refine ⟨.top rfl ?_ (fun _ => id), List.forall_mem_cons.mpr ⟨⟨htop.form, hpopups⟩, hrest⟩⟩
      rw [dialogOf_eq_none htop.popups, dialogOf_eq_none hpopups]
  | setState r => simp [isPlain] at hop

theorem silent_performAll (screen : Screen) (card : Option Event) (h : ∀ page ∈ n, Plain page)
    (hops : ∀ op ∈ ops, isPlain op = true) :
    Silent n (n.performAll (ops.map (screen.lift card))) := by
  induction ops generalizing n with
  | nil => exact ⟨fun _ => rfl, fun _ => rfl, fun _ _ => id⟩
  | cons op ops ih =>
    obtain ⟨hop, hops⟩ := List.forall_mem_cons.mp hops
    obtain ⟨hsilent, hplain⟩ := silent_perform screen card h hop
    exact hsilent.trans (ih hplain hops)

/-- The case of a handler that answers with `ops'`. -/
theorem isPlain_of_some_eq {ops' : Ops} (h : some ops' = some ops)
    (hops' : ops'.all isPlain = true) : ∀ op ∈ ops, isPlain op = true := by
  rw [← Option.some.inj h]
  exact List.all_eq_true.mp hops'

/-- Only the bottom bars change the state of their page, and only the buttons of forms and of the
delete dialog open these. -/
theorem isPlain_of_handler {top : Entry Route Overlay} {t : Tap} (h : handler top t = some ops)
    (hform : t ≠ .openForm) (hdialog : t ≠ .openOverlay .deleteDialog)
    (hbar : ∀ index, t ≠ .bottomBar index) : ∀ op ∈ ops, isPlain op = true := by
  obtain ⟨route, os⟩ := top
  -- for each page, the cases of its handler in their order
  cases route with
  | loginPage =>
    simp only [handler, loginPageHandler] at h
    split at h
    · exact isPlain_of_some_eq h rfl
    · exact isPlain_of_some_eq h rfl
    · simp at h
  | signUpPage =>
    simp only [handler, signUpPageHandler] at h
    split at h
    · exact isPlain_of_some_eq h rfl
    · exact isPlain_of_some_eq h rfl
    · simp at h
  | eventPage =>
    simp only [handler, eventPageHandler] at h
    split at h
    · exact absurd rfl hform
    · exact absurd rfl (hbar _)
    · exact isPlain_of_some_eq h rfl
    · exact isPlain_of_some_eq h rfl
    · exact isPlain_of_some_eq h rfl
    · exact isPlain_of_some_eq h rfl
    · next item => cases item <;> exact isPlain_of_some_eq h rfl
    · exact isPlain_of_some_eq h rfl
    · exact isPlain_of_some_eq h rfl
    · exact isPlain_of_some_eq h rfl
    · exact isPlain_of_some_eq h rfl
    · exact isPlain_of_some_eq h rfl
    · simp at h
  | dashboardScreen =>
    simp only [handler, dashboardHandler] at h
    split at h
    · exact absurd rfl hform
    · exact absurd rfl (hbar _)
    · exact isPlain_of_some_eq h rfl
    · exact absurd rfl hdialog
    · next item =>
      cases item with
      | logout => simp [dashboardDrawer] at h
      | _ => exact isPlain_of_some_eq h rfl
    · exact isPlain_of_some_eq h rfl
    · simp at h
  | scheduleScreen =>
    simp only [handler, scheduleHandler] at h
    split at h
    · exact isPlain_of_some_eq h rfl
    · exact isPlain_of_some_eq h rfl
    · exact isPlain_of_some_eq h rfl
    · simp at h
  | profilePage =>
    simp only [handler, profileHandler] at h
    split at h
    · exact isPlain_of_some_eq h rfl
    · exact isPlain_of_some_eq h rfl
    · simp at h
  | createEventPage =>
    simp only [handler, createEventHandler] at h
    split at h
    · exact isPlain_of_some_eq h rfl
    · exact isPlain_of_some_eq h rfl
    · simp at h

end Plain

/-! ## The answers of the handlers -/

section Answers

variable {r below : Route} {os : List Overlay} {t : Tap} {ops : Ops}

theorem handler_openForm (h : handler ⟨r, os⟩ .openForm = some ops) :
    os = [] ∧ ops = [.push .createEventPage] ∧ r.hasBar = true := by
  cases r <;> cases os <;> simp_all [handler, loginPageHandler, signUpPageHandler, eventPageHandler,
    dashboardHandler, scheduleHandler, profileHandler, createEventHandler, Route.hasBar]

theorem handler_openDeleteDialog (h : handler ⟨r, os⟩ (.openOverlay .deleteDialog) = some ops) :
    os = [] ∧ ops = [.present .deleteDialog] ∧ ∃ index, r = .dashboardScreen index := by
  cases r <;> cases os <;> simp_all [handler, loginPageHandler, signUpPageHandler, eventPageHandler,
    dashboardHandler, scheduleHandler, profileHandler, createEventHandler]

theorem handler_bottomBar {index : Fin 4} (h : handler ⟨r, os⟩ (.bottomBar index) = some ops) :
    os = [] ∧ ((∃ i, r = .eventPage i) ∧ ops = eventPageBottomBar index ∨
      (∃ i, r = .dashboardScreen i) ∧ ops = dashboardBottomBar index) := by
  cases r <;> cases os <;> simp_all [handler, loginPageHandler, signUpPageHandler, eventPageHandler,
    dashboardHandler, scheduleHandler, profileHandler, createEventHandler]

theorem handler_createEventPage (h : handler ⟨.createEventPage, os⟩ t = some ops) :
    os = [] ∧ ops = [.pop] := by
  simp only [handler, createEventHandler] at h
  split at h
  · exact ⟨rfl, (Option.some.inj h).symm⟩
  · exact ⟨rfl, (Option.some.inj h).symm⟩
  · simp at h

theorem handler_deleteDialog (h : handler ⟨r, .deleteDialog :: os⟩ t = some ops) :
    ops = [.pop] := by
  cases r with
  | dashboardScreen =>
    simp only [handler, dashboardHandler] at h
    split at h <;> simp_all
  | _ => simp [handler, loginPageHandler, signUpPageHandler, eventPageHandler, scheduleHandler,
      profileHandler, createEventHandler] at h

/-- Nothing is ever put above `CreateEventPage` and `SignUpPage`. -/
theorem ne_of_covers (h : r.covers below = true) :
    below ≠ .createEventPage ∧ below ≠ .signUpPage := by
  constructor <;> rintro rfl <;> cases r <;> simp [Route.covers, Route.hasBar] at h

theorem ne_of_stacked {rs : List Route} (h : stacked (r :: rs) = true) :
    ∀ below ∈ rs, below ≠ .createEventPage ∧ below ≠ .signUpPage := by
  induction rs generalizing r with
  | nil => simp
  | cons below rs ih =>
    obtain ⟨hcovers, hrest⟩ := Bool.and_eq_true_iff.mp h
    exact List.forall_mem_cons.mpr ⟨ne_of_covers hcovers, ih hrest⟩

/-- A delete dialog is the only overlay of its page. -/
theorem eq_of_mem_offers (h : os ∈ r.offers) :
    os = [.deleteDialog] ∨ Overlay.deleteDialog ∉ os := by
  cases r with
  | eventPage =>
    simp only [Route.offers, List.mem_cons, List.not_mem_nil, or_false] at h
    obtain rfl | rfl | rfl | rfl | rfl | rfl := h <;> simp
  | dashboardScreen =>
    simp only [Route.offers, List.mem_cons, List.not_mem_nil, or_false] at h
    obtain rfl | rfl | rfl := h <;> simp
  | scheduleScreen =>
    simp only [Route.offers, List.mem_cons, List.not_mem_nil, or_false] at h
    obtain rfl | rfl := h <;> simp
  | _ =>
    simp only [Route.offers, List.mem_cons, List.not_mem_nil, or_false] at h
    simp [h]

end Answers

/-! ## The steps of a device -/

section Steps

variable {toLowerCase : String → String} {value : Dyn} {clients : ℕ → Client} {screen : Screen}
  {popups : List Popup} {rest n n' : Device} {touch : Touch} {ops : List (NavOp Screen Popup)}

theorem form_eq_none {screen : Screen} (h : screen.route ≠ .createEventPage) :
    screen.form = none := by
  cases screen with
  | createEventPage => exact absurd rfl h
  | _ => rfl

/-- The pages beneath the one on top are plain. -/
theorem plain_beneath (hw : WellStacked (Device.stack (⟨screen, popups⟩ :: rest))) :
    ∀ page ∈ rest, Plain page := by
  intro page hpage
  have hroute : page.route.route ≠ .createEventPage := by
    refine (ne_of_stacked hw.stacked page.route.route ?_).1
    exact List.mem_map_of_mem (List.mem_map_of_mem hpage)
  have hoverlays : page.overlays.map Popup.overlay = [] :=
    hw.beneath _ (List.mem_map_of_mem hpage)
  rw [List.map_eq_nil_iff] at hoverlays
  exact ⟨form_eq_none hroute, by simp [hoverlays]⟩

/-- A delete dialog is the only overlay of the page on top. -/
theorem popups_onTop (hw : WellStacked (Device.stack (⟨screen, popups⟩ :: rest))) :
    (∃ card, popups = [⟨.deleteDialog, card⟩]) ∨
      ∀ popup ∈ popups, popup.overlay ≠ .deleteDialog := by
  have hoffers : popups.map Popup.overlay ∈ screen.route.offers := hw.onTop _ rfl
  rcases eq_of_mem_offers hoffers with h | h
  · obtain ⟨⟨overlay, card⟩, hpopups, rfl⟩ := List.map_eq_singleton_iff.mp h
    exact Or.inl ⟨card, hpopups⟩
  · exact Or.inr fun popup hpopup heq => h (heq ▸ List.mem_map_of_mem hpopup)

/-- A page that removes itself is not the last one. -/
theorem exists_length_eq (hw : WellStacked (Device.stack (⟨screen, popups⟩ :: rest)))
    (hpops : screen.route.popsItself = true) : ∃ k, rest.length = k + 1 := by
  have hrest : Device.stack rest ≠ [] := hw.ne_nil_of_popsItself hpops
  cases rest with
  | nil => exact absurd rfl hrest
  | cons below rest => exact ⟨rest.length, rfl⟩

/-- The latest overlay is closed. -/
theorem Mirrors.closePopup {popup : Popup}
    (hw : WellStacked (Device.stack (⟨screen, popup :: popups⟩ :: rest)))
    (h : Mirrors clients (⟨screen, popup :: popups⟩ :: rest)) :
    Follows value clients (⟨screen, popups⟩ :: rest) := by
  rcases popups_onTop hw with ⟨card, hpopups⟩ | hplain
  · obtain ⟨rfl, rfl⟩ := List.cons.inj hpopups
    exact h.closeDialog
  · -- there is no delete dialog before and after
    refine Or.inl (h.silent (.top rfl ?_ fun _ => id))
    rw [dialogOf_eq_none hplain, dialogOf_eq_none (List.forall_mem_cons.mp hplain).2]

/-- The page on top is removed. -/
theorem Mirrors.removePage (h : Mirrors clients (⟨screen, []⟩ :: rest)) (hrest : rest ≠ []) :
    Follows value clients rest := by
  obtain ⟨k, hk⟩ := Nat.exists_eq_succ_of_ne_zero (List.length_eq_zero_iff.not.mpr hrest)
  cases screen with
  | createEventPage form pending => exact h.closeForm hk
  | _ => exact Or.inl (h.silent (.pop rfl rfl))

/-- After `setState`, the bottom bars open no form and no dialog. -/
theorem isPlain_bottomBar (index : Fin 4) :
    (∀ op ∈ (eventPageBottomBar index).tail, isPlain op = true) ∧
      ∀ op ∈ (dashboardBottomBar index).tail, isPlain op = true := by
  match index with
  | 0 => exact ⟨List.all_eq_true.mp rfl, List.all_eq_true.mp rfl⟩
  | 1 => exact ⟨List.all_eq_true.mp rfl, List.all_eq_true.mp rfl⟩
  | 2 => exact ⟨List.all_eq_true.mp rfl, List.all_eq_true.mp rfl⟩
  | 3 => exact ⟨List.all_eq_true.mp rfl, List.all_eq_true.mp rfl⟩

theorem Mirrors.bottomBar {index : Fin 4} {card : Option Event} {ops' : Ops}
    (hw : WellStacked (Device.stack (⟨screen, popups⟩ :: rest)))
    (h : Mirrors clients (⟨screen, popups⟩ :: rest))
    (hops' : handler ⟨screen.route, popups.map Popup.overlay⟩ (.bottomBar index) = some ops') :
    Mirrors clients
      (Navigator.performAll (⟨screen, popups⟩ :: rest) (ops'.map (screen.lift card))) := by
  obtain ⟨hpopups, ⟨⟨i, hroute⟩, rfl⟩ | ⟨⟨i, hroute⟩, rfl⟩⟩ := handler_bottomBar hops'
  · obtain rfl := List.map_eq_nil_iff.mp hpopups
    cases screen with
    | eventPage i query snapshot =>
      have hplain : ∀ page ∈ ⟨.eventPage index query snapshot, []⟩ :: rest, Plain page :=
        List.forall_mem_cons.mpr ⟨⟨rfl, by simp⟩, plain_beneath hw⟩
      -- `setState` first, and then the plain operations on the page with the new index
      have hselect : Silent (⟨.eventPage i query snapshot, []⟩ :: rest)
          (⟨.eventPage index query snapshot, []⟩ :: rest) := .top rfl rfl fun _ => id
      exact h.silent (hselect.trans (silent_performAll _ card hplain (isPlain_bottomBar index).1))
    | _ => simp [Screen.route] at hroute
  · obtain rfl := List.map_eq_nil_iff.mp hpopups
    cases screen with
    | dashboardScreen i delivered =>
      have hplain : ∀ page ∈ ⟨.dashboardScreen index delivered, []⟩ :: rest, Plain page :=
        List.forall_mem_cons.mpr ⟨⟨rfl, by simp⟩, plain_beneath hw⟩
      have hselect : Silent (⟨.dashboardScreen i delivered, []⟩ :: rest)
          (⟨.dashboardScreen index delivered, []⟩ :: rest) := .top rfl rfl fun _ => id
      exact h.silent (hselect.trans (silent_performAll _ card hplain (isPlain_bottomBar index).2))
    | _ => simp [Screen.route] at hroute

/-- A touch on a card is on a card that the page shows. -/
theorem card_of_offersTouch {t : Tap} {card : Option Event}
    (h : screen.offersTouch toLowerCase ⟨t, card⟩ = true) (hcard : screen.isOnCard t = true) :
    ∃ event ∈ screen.cards toLowerCase, card = some event := by
  have hany := (Bool.and_eq_true_iff.mp h).2
  simp only [hcard, ↓reduceIte] at hany
  obtain ⟨event, hevent, hshown⟩ := (Option.any_eq_true _ _).mp hany
  exact ⟨event, by simpa using hshown, hevent⟩

/-- The buttons that open a form. -/
theorem Mirrors.tapOpenForm {card : Option Event} {ops' : Ops}
    (h : Mirrors clients (⟨screen, popups⟩ :: rest))
    (hoffers : screen.offersTouch toLowerCase ⟨.openForm, card⟩ = true)
    (hops' : handler ⟨screen.route, popups.map Popup.overlay⟩ .openForm = some ops') :
    Follows value clients
      (Navigator.performAll (⟨screen, popups⟩ :: rest) (ops'.map (screen.lift card))) := by
  obtain ⟨hpopups, rfl, hbar⟩ := handler_openForm hops'
  obtain rfl := List.map_eq_nil_iff.mp hpopups
  cases screen with
  | eventPage index query snapshot =>
    -- the floating button is on no card
    obtain rfl : card = none := by
      simpa [Screen.offersTouch, Screen.isReady, Screen.isOnCard] using hoffers
    exact h.openCreate
  | dashboardScreen index delivered =>
    obtain ⟨event, hevent, rfl⟩ := card_of_offersTouch hoffers rfl
    exact h.openEdit (h.cards_top hevent)
  | _ => simp [Screen.route, Route.hasBar] at hbar

/-- The buttons that open the delete dialog. -/
theorem Mirrors.tapDelete {card : Option Event} {ops' : Ops}
    (h : Mirrors clients (⟨screen, popups⟩ :: rest))
    (hoffers : screen.offersTouch toLowerCase ⟨.openOverlay .deleteDialog, card⟩ = true)
    (hops' : handler ⟨screen.route, popups.map Popup.overlay⟩ (.openOverlay .deleteDialog) =
      some ops') :
    Follows value clients
      (Navigator.performAll (⟨screen, popups⟩ :: rest) (ops'.map (screen.lift card))) := by
  obtain ⟨hpopups, rfl, index, hroute⟩ := handler_openDeleteDialog hops'
  obtain rfl := List.map_eq_nil_iff.mp hpopups
  cases screen with
  | dashboardScreen index delivered =>
    obtain ⟨event, hevent, rfl⟩ := card_of_offersTouch hoffers rfl
    exact h.askDelete (h.cards_top hevent)
  | _ => simp [Screen.route] at hroute

theorem Mirrors.tap (hw : WellStacked (Device.stack (⟨screen, popups⟩ :: rest)))
    (h : Mirrors clients (⟨screen, popups⟩ :: rest))
    (hops : deviceHandler toLowerCase ⟨screen, popups⟩ touch = some ops) :
    Follows value clients (Navigator.performAll (⟨screen, popups⟩ :: rest) ops) := by
  obtain ⟨t, card⟩ := touch
  obtain ⟨hoffers, ops', hops', rfl⟩ := deviceHandler_eq_some hops
  replace hops' : handler ⟨screen.route, popups.map Popup.overlay⟩ t = some ops' := hops'
  by_cases hform : t = .openForm
  · subst hform
    exact h.tapOpenForm hoffers hops'
  by_cases hdialog : t = .openOverlay .deleteDialog
  · subst hdialog
    exact h.tapDelete hoffers hops'
  by_cases hbar : ∃ index, t = .bottomBar index
  · obtain ⟨index, rfl⟩ := hbar
    exact Or.inl (h.bottomBar hw hops')
  rcases popups_onTop hw with ⟨card', rfl⟩ | hplain
  · -- the delete dialog can only be closed
    obtain rfl := handler_deleteDialog hops'
    exact h.closePopup hw
  by_cases hcreate : screen.route = .createEventPage
  · -- `CreateEventPage` can only be left
    rw [hcreate] at hops'
    obtain ⟨hpopups, rfl⟩ := handler_createEventPage hops'
    obtain rfl := List.map_eq_nil_iff.mp hpopups
    obtain ⟨k, hk⟩ := exists_length_eq hw (by rw [hcreate]; rfl)
    exact h.removePage (List.ne_nil_of_length_eq_add_one hk)
  · -- any other handler is plain, on a stack of plain pages
    have hpages : ∀ page ∈ ⟨screen, popups⟩ :: rest, Plain page :=
      List.forall_mem_cons.mpr ⟨⟨form_eq_none hcreate, hplain⟩, plain_beneath hw⟩
    exact Or.inl (h.silent (silent_performAll screen card hpages
      (isPlain_of_handler hops' hform hdialog (not_exists.mp hbar))))

/-- A step of a device is followed by its clients with at most one action. -/
theorem mirrors_of_deviceStep {step : DeviceStep} (hw : WellStacked n.stack)
    (h : Mirrors clients n) (hstep : deviceStep toLowerCase value n step = some n') :
    Follows value clients n' := by
  cases deviceEffect_of_step hstep with
  | tapped top rest touch ops hops => exact h.tap hw hops
  | closedPopup => exact h.closePopup hw
  | removedPage screen rest hrest => exact h.removePage hrest
  | entered => exact Or.inl (h.silent (.top rfl rfl fun _ => id))
  | changed => exact Or.inl (h.silent (.top rfl rfl fun _ => id))
  | typed field text form pending rest =>
    obtain ⟨k, hk⟩ := exists_length_eq hw rfl
    exact h.type field text hk
  | searched =>
    -- on `EventPage` no dialog is a delete dialog
    rcases popups_onTop hw with ⟨_, hpopups⟩ | hplain
    · simp at hpopups
    · refine Or.inl (h.silent (.top rfl ?_ fun _ => id))
      rw [dialogOf_eq_none hplain, dialogOf_eq_none (List.forall_mem_cons.mp hplain).2]
  | delivered index => exact h.deliver index
  | failed index text => exact Or.inl (h.streamError index text)

end Steps

end EventManager.App

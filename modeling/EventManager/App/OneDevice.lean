import EventManager.App.Refinement

/-!
# One device

Whatever happened before, a device gets back to program start by its own taps and back steps,
without a write and without the other devices.

A deleted event comes back when a form that was opened before the delete is saved after it. On one
device there is no such form while a delete is confirmed, since the delete dialog is on top of the
stack and `CreateEventPage` is never beneath another page. What is left are cards that are stale
when a form is opened from them.

## Main results

* `launched_from_run`: from every state of every run, each device gets back to program start;
* `gone_of_guarded`: deleted events stay deleted as long as forms are opened for stored events and
  no form of an event is open when its delete is confirmed;
* `gone_of_oneDevice`: on one device the first condition is enough.
-/

namespace EventManager.App

open Dart Flutter

/-! ## The way back -/

section Launch

variable {toLowerCase : String → String} {value : Dyn} {screen : Screen} {rest n : Device}

/-- The back step closes the overlays one after the other. -/
theorem leads_withoutPopups (popups : List Popup) :
    LTS.Leads (deviceStep toLowerCase value) (⟨screen, popups⟩ :: rest) (⟨screen, []⟩ :: rest) := by
  induction popups with
  | nil => exact .refl _
  | cons popup popups ih => exact .trans (.single (.navigate .back) rfl) ih

/-- The last page is `LoginPage`, whose texts can be cleared, or `EventPage`, which has a logout. -/
theorem leads_launched_of_atBottom (h : screen.route.atBottom = true) :
    LTS.Leads (deviceStep toLowerCase value) [⟨screen, []⟩] .launched := by
  cases screen with
  | loginPage form => exact .single (.enter ⟨"", ""⟩) rfl
  | eventPage =>
    exact ⟨[.navigate (.tap ⟨.openDrawer, none⟩), .navigate (.tap ⟨.drawerItem .logout, none⟩),
      .navigate (.tap ⟨.confirmLogout, none⟩)], rfl⟩
  | _ => simp [Screen.route, Route.atBottom] at h

theorem leads_launched_of_wellStacked (h : WellStacked n.stack) :
    LTS.Leads (deviceStep toLowerCase value) n .launched := by
  induction n with
  | nil =>
    have hstacked := h.stacked
    simp [Device.stack, Navigator.outline, Navigator.routes, stacked] at hstacked
  | cons top rest ih =>
    -- overlays first, then page by page down to the last one
    obtain ⟨screen, popups⟩ := top
    refine .trans (leads_withoutPopups popups) ?_
    cases rest with
    | nil => exact leads_launched_of_atBottom h.stacked
    | cons below rest =>
      have hrest : WellStacked (Device.stack (below :: rest)) := h.pop (by simp)
      exact .trans (.single (.navigate .back) rfl) (ih hrest)

end Launch

section System

variable {ι : Type} [DecidableEq ι] {sdk : Firebase.Rendering} {toLowerCase : String → String}
  {s s' : System ι}
  {l : SystemStep ι} {d : ι} {n n' : Device} {events users : Firebase.Node} {past : List String}
  {ls : List (SystemStep ι)} {id : String}

/-- The steps of a device change nothing but its pages. -/
theorem run_onDevice {steps : List DeviceStep}
    (h : LTS.run (deviceStep toLowerCase (sdk.value s.events)) (s.devices d) steps = some n) :
    LTS.run (systemStep sdk toLowerCase) s (steps.map (.onDevice d)) = some (s.display d n) := by
  induction steps generalizing s with
  | nil =>
    obtain rfl := Option.some.inj h
    show some s = some { s with devices := Function.update s.devices d (s.devices d) }
    rw [Function.update_eq_self]
  | cons step steps ih =>
    rw [LTS.run_cons] at h
    obtain ⟨n', hstep, h⟩ := Option.bind_eq_some_iff.mp h
    -- the node is still the same, so the device goes on as in its own run
    have hnext : systemStep sdk toLowerCase s (.onDevice d step) = some (s.display d n') :=
      Option.map_eq_some_iff.mpr ⟨n', hstep, rfl⟩
    rw [List.map_cons, LTS.run_cons, hnext, Option.bind_some, ih (s := s.display d n')]
    · simp only [System.display, Function.update_idem]
    · simpa only [System.display, Function.update_self] using h

/-- From every state of every run, each device gets back to program start: some steps of this device
alone lead to its initial pages, and they change neither the database nor the pages of the other
devices. -/
theorem launched_from_run (sdk : Firebase.Rendering) (toLowerCase : String → String)
    (events users : Firebase.Node) (past : List String) (ls : List (SystemStep ι))
    (s : System ι) (d : ι)
    (hrun : LTS.run (systemStep sdk toLowerCase) (System.initial events users past) ls = some s) :
    ∃ steps : List DeviceStep,
      LTS.run (systemStep sdk toLowerCase) s (steps.map (.onDevice d)) =
        some (s.display d .launched) := by
  have hleads : LTS.Leads (deviceStep toLowerCase (sdk.value s.events)) (s.devices d)
      .launched :=
    leads_launched_of_wellStacked (wellStacked_of_systemRun d hrun)
  obtain ⟨steps, hsteps⟩ := hleads
  exact ⟨steps, run_onDevice hsteps⟩

/-- A device with an open delete dialog gets back, and the other one stays on its dashboard. -/
theorem launched_from_run_deleteDialog :
    ∃ (ls : List (SystemStep (Fin 2))) (s : System (Fin 2)) (steps : List DeviceStep),
      LTS.run (systemStep .maps String.toLower) (System.initial summitNode .empty []) ls = some s ∧
      (s.devices 0).dialogAt 1 = some summit ∧
      LTS.run (systemStep .maps String.toLower) s (steps.map (.onDevice 0)) =
        some (s.display 0 .launched) := by
  let ls : List (SystemStep (Fin 2)) := dashboardSteps 1 ++ dashboardSteps 0 ++
    [.onDevice 0 (.navigate (.tap ⟨.openOverlay .deleteDialog, some summit⟩))]
  have hrun : (LTS.run (systemStep .maps String.toLower)
      (System.initial summitNode .empty []) ls).any
      (fun s => decide ((s.devices 0).dialogAt 1 = some summit)) = true := by
    decide +kernel
  obtain ⟨s, hs, hdialog⟩ := (Option.any_eq_true _ _).mp hrun
  rw [decide_eq_true_iff] at hdialog
  obtain ⟨steps, hsteps⟩ := launched_from_run .maps String.toLower summitNode .empty [] ls s 0 hs
  exact ⟨ls, s, steps, hs, hdialog, hsteps⟩

/-! ## Deleted events -/

/-- The event that the form on the page edits. -/
def Screen.edits (screen : Screen) : Option String :=
  screen.form.bind fun form => form.edited.map Prod.fst

/-- A form of the event is open. -/
def Device.Edits (n : Device) (id : String) : Prop := ∃ page ∈ n, page.route.edits = some id

/-- The event that the step deletes. -/
def System.deletes (s : System ι) : SystemStep ι → Option String
  | .confirmDelete d =>
    match s.devices d with
    | ⟨_, ⟨.deleteDialog, some event⟩ :: _⟩ :: _ => some event.id
    | _ => none
  | _ => none

/-- The event from whose card the step opens a form. -/
def SystemStep.opens : SystemStep ι → Option String
  | onDevice _ (.navigate (.tap ⟨.openForm, card⟩)) => card.map Event.id
  | _ => none

/-- If the step opens a form from a card, the event of the card is stored. -/
def OpensStored (s : System ι) (l : SystemStep ι) : Prop := ∀ id ∈ l.opens, id ∈ s.events.keys

instance (s : System ι) (l : SystemStep ι) : Decidable (OpensStored s l) :=
  inferInstanceAs (Decidable (∀ id ∈ l.opens, id ∈ s.events.keys))

/-- No form of the event that the step deletes is open. -/
def Exclusive (s : System ι) (l : SystemStep ι) : Prop :=
  ∀ id, s.deletes l = some id → ∀ d, ¬ (s.devices d).Edits id

end System

section Edits

variable {toLowerCase : String → String} {value : Dyn} {screen : Screen} {popups : List Popup}
  {rest n n' : Device} {touch : Touch} {ops : List (NavOp Screen Popup)} {id : String}

theorem edits_cons {top : Entry Screen Popup} :
    Device.Edits (top :: rest) id ↔ top.route.edits = some id ∨ rest.Edits id := by
  simp only [Device.Edits, List.exists_mem_cons_iff]

theorem edits_opened {card : Option Event} {r : Route}
    (h : (Screen.opened card r).edits = some id) : ∃ event, card = some event ∧ event.id = id := by
  cases r with
  | createEventPage =>
    cases card with
    | none => simp [Screen.edits, Screen.opened, Screen.form, Form.opened_none] at h
    | some event =>
      refine ⟨event, rfl, ?_⟩
      simpa [Screen.edits, Screen.opened, Screen.form, Form.opened_some] using h
  | _ => simp [Screen.edits, Screen.opened, Screen.form] at h

theorem edits_withRoute {r : Route} (h : (screen.withRoute r).edits = some id) :
    screen.edits = some id := by
  cases r <;> cases screen <;>
    simp_all [Screen.edits, Screen.withRoute, Screen.opened, Screen.form, Form.opened_none]

theorem edits_receiveAt {index : ℕ} {snapshot : AsyncSnapshot}
    (h : (receiveAt index snapshot n).Edits id) : n.Edits id := by
  induction n generalizing index with
  | nil => cases index <;> exact h
  | cons top rest ih =>
    cases index with
    | zero =>
      rcases edits_cons.mp h with h | h
      · rw [Screen.edits, form_receive] at h
        exact edits_cons.mpr (Or.inl h)
      · exact edits_cons.mpr (Or.inr h)
    | succ index => exact edits_cons.mpr ((edits_cons.mp h).imp_right ih)

theorem handler_openOverlay {r : Route} {os : List Overlay} {overlay : Overlay} {ops : Ops}
    (h : handler ⟨r, os⟩ (.openOverlay overlay) = some ops) : ops = [.present overlay] := by
  cases r <;> cases os <;> cases overlay <;> simp_all [handler, loginPageHandler,
    signUpPageHandler, eventPageHandler, dashboardHandler, scheduleHandler, profileHandler,
    createEventHandler]

theorem isOnCard_eq_true {t : Tap} (h : screen.isOnCard t = true) :
    t = .openForm ∨ ∃ overlay, t = .openOverlay overlay := by
  unfold Screen.isOnCard at h
  split at h
  · exact Or.inl rfl
  · exact Or.inr ⟨_, rfl⟩
  · exact Or.inr ⟨_, rfl⟩
  · exact Or.inr ⟨_, rfl⟩
  · simp at h

/-- The page on top changes, but not the event that its form edits. -/
theorem edits_top {screen' : Screen} {popups' : List Popup} (hedits : screen'.edits = screen.edits)
    (h : Device.Edits (⟨screen', popups'⟩ :: rest) id) :
    Device.Edits (⟨screen, popups⟩ :: rest) id := by
  rcases edits_cons.mp h with h | h
  · exact edits_cons.mpr (Or.inl (hedits.symm.trans h))
  · exact edits_cons.mpr (Or.inr h)

/-- A handler opens no form but that of its card. -/
theorem edits_of_performAll {card : Option Event} {ops : Ops}
    (h : Device.Edits (Navigator.performAll (⟨screen, popups⟩ :: rest)
      (ops.map (screen.lift card))) id) :
    Device.Edits (⟨screen, popups⟩ :: rest) id ∨ ∃ event, card = some event ∧ event.id = id := by
  by_contra hnew
  obtain ⟨hold, hcard⟩ := not_or.mp hnew
  have hforall : Device.Forall (fun page => page.edits ≠ some id) (fun _ => True)
      (Navigator.performAll (⟨screen, popups⟩ :: rest) (ops.map (screen.lift card))) :=
    forall_performAll card (fun r hr => hcard (edits_opened hr))
      (fun r hr => hold (edits_cons.mpr (Or.inl (edits_withRoute hr)))) (fun _ => trivial)
      (fun page hpage => ⟨fun hid => hold ⟨page, hpage, hid⟩, by simp⟩) ops
  obtain ⟨page, hpage, hid⟩ := h
  exact (hforall page hpage).1 hid

/-- A tap opens no form but that of the card on which "Edit" was tapped. -/
theorem edits_of_tap (hops : deviceHandler toLowerCase ⟨screen, popups⟩ touch = some ops)
    (h : Device.Edits (Navigator.performAll (⟨screen, popups⟩ :: rest) ops) id) :
    Device.Edits (⟨screen, popups⟩ :: rest) id ∨
      ∃ event, touch = ⟨.openForm, some event⟩ ∧ event.id = id := by
  obtain ⟨t, card⟩ := touch
  obtain ⟨hoffers, ops', hops', rfl⟩ := deviceHandler_eq_some hops
  replace hops' : handler ⟨screen.route, popups.map Popup.overlay⟩ t = some ops' := hops'
  by_cases hcard : screen.isOnCard t = true
  · rcases isOnCard_eq_true hcard with rfl | ⟨overlay, rfl⟩
    · refine (edits_of_performAll h).imp_right ?_
      rintro ⟨event, rfl, hid⟩
      exact ⟨event, rfl, hid⟩
    · -- the pages stay as they are
      obtain rfl := handler_openOverlay hops'
      exact Or.inl (edits_top (by rfl) h)
  · -- the tap is on no card
    have hnone := (Bool.and_eq_true_iff.mp hoffers).2
    obtain rfl : card = none := by simpa [hcard] using hnone
    refine (edits_of_performAll h).imp_right ?_
    rintro ⟨event, hevent, -⟩
    simp at hevent

theorem edits_of_deviceStep {step : DeviceStep}
    (hstep : deviceStep toLowerCase value n step = some n') (h : n'.Edits id) :
    n.Edits id ∨ ∃ event, step = .navigate (.tap ⟨.openForm, some event⟩) ∧ event.id = id := by
  cases deviceEffect_of_step hstep with
  | tapped top rest touch ops hops =>
    refine (edits_of_tap hops h).imp_right ?_
    rintro ⟨event, rfl, hid⟩
    exact ⟨event, rfl, hid⟩
  | removedPage => exact Or.inl (edits_cons.mpr (Or.inr h))
  | delivered => exact Or.inl (edits_receiveAt h)
  | failed => exact Or.inl (edits_receiveAt h)
  | _ => exact Or.inl (edits_top (by rfl) h)

end Edits

section Deletes

variable {ι : Type} [DecidableEq ι] {sdk : Firebase.Rendering} {toLowerCase : String → String}
  {s s' : System ι}
  {l : SystemStep ι} {d : ι} {events users : Firebase.Node} {past deleted : List String}
  {ls : List (SystemStep ι)} {id : String}

omit [DecidableEq ι] in
theorem deletes_eq_some (h : s.deletes l = some id) :
    ∃ d screen event popups rest, l = .confirmDelete d ∧ event.id = id ∧
      s.devices d = ⟨screen, ⟨.deleteDialog, some event⟩ :: popups⟩ :: rest := by
  cases l with
  | confirmDelete d =>
    simp only [System.deletes] at h
    split at h
    · next screen event popups rest hdevice =>
      exact ⟨d, screen, event, popups, rest, rfl, Option.some.inj h, hdevice⟩
    · simp at h
  | _ => simp [System.deletes] at h

/-- The event of a delete dialog was stored at some time, so its key is used. -/
theorem mem_eventKeys_of_deletes
    (hrun : LTS.run (systemStep sdk toLowerCase) (System.initial events users past) ls = some s)
    (h : s.deletes l = some id) : id ∈ s.eventKeys := by
  obtain ⟨d, screen, event, popups, rest, -, rfl, hdevice⟩ := deletes_eq_some h
  obtain ⟨ks, t, hks, hrefines⟩ := refines_of_systemRun hrun
  have hmirrors := hrefines.clients d
  rw [hdevice] at hmirrors
  have hdialog : (t.clients (d, rest.length)).dialog = some event := hmirrors.dialog_top
  rw [← hrefines.used]
  exact (known_of_run (run_step_of_run_appStep hks)).held (d, rest.length) event.id
    (Or.inr (Or.inr ⟨event, hdialog, rfl⟩))

/-- The forms are those of stored events, and the deleted events are not stored, but their keys are
used. -/
structure Settled (deleted : List String) (s : System ι) : Prop where
  forms : ∀ d id, (s.devices d).Edits id → id ∈ s.events.keys
  gone : ∀ id ∈ deleted, id ∈ s.eventKeys ∧ id ∉ s.events.keys

/-- The pages of a device change, and its forms are those of stored events. -/
theorem edits_display {keys : List String} {n : Device}
    (h : ∀ d id, (s.devices d).Edits id → id ∈ keys) (hn : ∀ id, n.Edits id → id ∈ keys) :
    ∀ d' id, ((s.display d n).devices d').Edits id → id ∈ keys := by
  intro d' id hid
  replace hid : Device.Edits (Function.update s.devices d n d') id := hid
  by_cases hd : d' = d
  · rw [hd, Function.update_self] at hid
    exact hn id hid
  · rw [Function.update_of_ne hd] at hid
    exact h d' id hid

theorem Settled.step (h : Settled deleted s)
    (hused : ∀ id, s.deletes l = some id → id ∈ s.eventKeys) (hopens : OpensStored s l)
    (hexclusive : Exclusive s l) (hstep : systemStep sdk toLowerCase s l = some s') :
    Settled (deleted ++ (s.deletes l).toList) s' := by
  have hkept (hl : s.deletes l = none) : ∀ id ∈ deleted ++ (s.deletes l).toList,
      id ∈ s.eventKeys ∧ id ∉ s.events.keys := by
    rw [hl, Option.toList_none, List.append_nil]
    exact h.gone
  -- another write is pending, but the forms stay as they are
  have hpending {d : ι} {screen screen' : Screen} {rest : Device}
      (hdevice : s.devices d = ⟨screen, []⟩ :: rest) (hedits : screen'.edits = screen.edits) :
      ∀ id, Device.Edits (⟨screen', []⟩ :: rest) id → id ∈ s.events.keys := by
    intro id hid
    refine h.forms d id ?_
    rw [hdevice]
    exact edits_top hedits hid
  cases systemEffect_of_step hstep with
  | moved d step n hn =>
    refine ⟨edits_display h.forms fun id hid => ?_, hkept rfl⟩
    rcases edits_of_deviceStep hn hid with hid | ⟨event, rfl, rfl⟩
    · exact h.forms d id hid
    · exact hopens event.id rfl
  | edited d key form pending rest id data hdevice hvalid hedited =>
    -- the update writes to a stored event
    have hid : id ∈ s.events.keys := by
      refine h.forms d id ?_
      rw [hdevice]
      exact edits_cons.mpr (Or.inl (by simp [Screen.edits, Screen.form, hedited]))
    have hkeys (id' : String) :
        id' ∈ (Firebase.update s.events id form.eventData).keys ↔ id' ∈ s.events.keys := by
      rw [Firebase.mem_keys_update]
      exact or_iff_right_of_imp fun heq => heq ▸ hid
    refine ⟨edits_display (fun d id hid => (hkeys id).mpr (h.forms d id hid))
      (fun id hid => (hkeys id).mpr (hpending hdevice (by rfl) id hid)), fun id' hid' => ?_⟩
    obtain ⟨hused, hgone⟩ := hkept rfl id' hid'
    exact ⟨hused, fun hmem => hgone ((hkeys id').mp hmem)⟩
  | created d key form pending rest hdevice hvalid hedited hfresh =>
    -- the pushed key is fresh, so it is the key of no deleted event
    refine ⟨edits_display
      (fun d id hid => Firebase.mem_keys_push.mpr (Or.inr (h.forms d id hid)))
      (fun id hid => Firebase.mem_keys_push.mpr (Or.inr (hpending hdevice (by rfl) id hid))),
      fun id hid => ?_⟩
    obtain ⟨hkey, hgone⟩ := hkept rfl id hid
    refine ⟨List.mem_cons_of_mem key hkey, fun hmem => ?_⟩
    rcases Firebase.mem_keys_push.mp hmem with rfl | hmem
    · exact hfresh hkey
    · exact hgone hmem
  | signedUp d key form pending rest hdevice =>
    exact ⟨edits_display h.forms (hpending hdevice (by rfl)), hkept rfl⟩
  | deleted d screen event popups rest hdevice =>
    have hdeletes : s.deletes (.confirmDelete d) = some event.id := by
      simp only [System.deletes, hdevice]
    refine ⟨fun d' id hid => ?_, fun id hid => ?_⟩
    · -- no form of the deleted event is open
      refine Firebase.mem_keys_remove.mpr ⟨h.forms d' id hid, ?_⟩
      rintro rfl
      exact hexclusive event.id hdeletes d' hid
    · -- an event deleted before, or the one deleted now
      rw [Firebase.mem_keys_remove]
      rw [hdeletes, List.mem_append, Option.mem_toList] at hid
      rcases hid with hid | hid
      · obtain ⟨hused, hgone⟩ := h.gone id hid
        exact ⟨hused, fun hmem => hgone hmem.1⟩
      · obtain rfl := Option.some.inj hid
        exact ⟨hused event.id hdeletes, fun hmem => hmem.2 rfl⟩
  | refused => exact ⟨h.forms, hkept rfl⟩
  | refusedSignUp => exact ⟨h.forms, hkept rfl⟩

omit [DecidableEq ι] in
theorem settled_initial (events users : Firebase.Node) (past : List String) :
    Settled [] (System.initial events users past : System ι) := by
  refine ⟨fun d id hid => ?_, by simp⟩
  obtain ⟨page, hpage, hid⟩ := hid
  obtain rfl := List.mem_singleton.mp hpage
  simp [Screen.edits, Screen.opened, Screen.form] at hid

/-- The events that a run deletes, in order. -/
def deletedIds (sdk : Firebase.Rendering) (toLowerCase : String → String) (s : System ι)
    (ls : List (SystemStep ι)) : List String :=
  LTS.log (systemStep sdk toLowerCase) System.deletes s ls

/-- Deleted events stay deleted as long as forms are opened from the cards of stored events only,
and no form of an event is open, on any device, when its delete is confirmed. -/
theorem gone_of_guarded
    (hrun : LTS.run (systemStep sdk toLowerCase) (System.initial events users past) ls = some s)
    (hguarded : LTS.Guarded (systemStep sdk toLowerCase) (System.initial events users past) ls
      fun s l => OpensStored s l ∧ Exclusive s l) :
    Settled (deletedIds sdk toLowerCase (System.initial events users past) ls) s := by
  -- the run is part of the invariant, since used keys are known from whole runs
  refine (LTS.invariant_of_guarded (I := fun p s =>
    LTS.run (systemStep sdk toLowerCase) (System.initial events users past) p = some s ∧
      Settled (deletedIds sdk toLowerCase (System.initial events users past) p) s)
    ⟨rfl, settled_initial events users past⟩ ?_ hguarded hrun).2
  rintro p s l s' ⟨hp, h⟩ ⟨hopens, hexclusive⟩ hl
  refine ⟨LTS.run_concat_eq_some.mpr ⟨s, hp, hl⟩, ?_⟩
  rw [deletedIds, LTS.log_concat hp (by rw [hl]; rfl)]
  exact h.step (fun id hid => mem_eventKeys_of_deletes hp hid) hopens hexclusive hl

/-! ## One device -/

/-- The device that takes the step. -/
def SystemStep.device : SystemStep ι → ι
  | onDevice d _ => d
  | save d _ => d
  | signUp d _ => d
  | confirmDelete d => d

/-- The other devices stay as they are. -/
theorem devices_of_step {d' : ι} (hd : d' ≠ l.device)
    (hstep : systemStep sdk toLowerCase s l = some s') : s'.devices d' = s.devices d' := by
  cases systemEffect_of_step hstep with
  | moved => exact Function.update_of_ne hd _ _
  | edited => exact Function.update_of_ne hd _ _
  | created => exact Function.update_of_ne hd _ _
  | signedUp => exact Function.update_of_ne hd _ _
  | _ => rfl

theorem not_edits_launched (id : String) : ¬ Device.Edits .launched id := by
  rintro ⟨page, hpage, hid⟩
  obtain rfl := List.mem_singleton.mp hpage
  simp [Screen.edits, Screen.opened, Screen.form] at hid

/-- Under a delete dialog there is no form. -/
theorem not_edits_of_deleteDialog {screen : Screen} {card : Option Event} {popups : List Popup}
    {rest : Device}
    (hw : WellStacked (Device.stack (⟨screen, ⟨.deleteDialog, card⟩ :: popups⟩ :: rest))) :
    ¬ Device.Edits (⟨screen, ⟨.deleteDialog, card⟩ :: popups⟩ :: rest) id := by
  intro hid
  rcases edits_cons.mp hid with hid | ⟨page, hpage, hid⟩
  · have hoffers : Overlay.deleteDialog :: popups.map Popup.overlay ∈ screen.route.offers :=
      hw.onTop _ rfl
    cases screen with
    | createEventPage => simp [Screen.route, Route.offers] at hoffers
    | _ => simp [Screen.edits, Screen.form] at hid
  · have hform := (plain_beneath hw page hpage).form
    simp [Screen.edits, hform] at hid

/-- On one device no form is open when a delete is confirmed. -/
theorem exclusive_of_oneDevice (hone : ∀ l ∈ ls, l.device = d)
    (hrun : LTS.run (systemStep sdk toLowerCase) (System.initial events users past) ls = some s)
    (hl : l.device = d) : Exclusive s l := by
  intro id hid d'
  obtain ⟨d, screen, event, popups, rest, rfl, -, hdevice⟩ := deletes_eq_some hid
  by_cases hd : d' = d
  · have hw := wellStacked_of_systemRun d hrun
    rw [hdevice] at hw
    rw [hd, hdevice]
    exact not_edits_of_deleteDialog hw
  · -- no step is one of another device
    have hlaunched : s.devices d' = .launched := by
      refine LTS.invariant_of_guarded (I := fun _ s => s.devices d' = .launched)
        (G := fun _ l => l.device = d) rfl ?_ ?_ hrun
      · rintro p s l s' h rfl hstep
        rw [devices_of_step hd hstep, h]
      · intro p k s s' hp _ _
        exact (hone k (hp.subset (by simp))).trans hl.symm
    rw [hlaunched]
    exact not_edits_launched id

/-- On one device, a deleted event never comes back as long as forms are opened from the cards of
stored events only: in no state that follows is it in the store again. -/
theorem gone_of_oneDevice (sdk : Firebase.Rendering) (toLowerCase : String → String)
    (events users : Firebase.Node) (past : List String) (ls : List (SystemStep ι))
    (s : System ι) (d : ι)
    (hrun : LTS.run (systemStep sdk toLowerCase) (System.initial events users past) ls = some s)
    (hone : ∀ l ∈ ls, l.device = d)
    (hopens : LTS.Guarded (systemStep sdk toLowerCase) (System.initial events users past) ls
      OpensStored) :
    ∀ id ∈ deletedIds sdk toLowerCase (System.initial events users past) ls,
      id ∉ s.events.keys := by
  intro id hid
  refine ((gone_of_guarded hrun ?_).gone id hid).2
  intro p l s s' hp hs hl
  have hsub := hp.subset
  exact ⟨hopens p l s s' hp hs hl,
    exclusive_of_oneDevice (fun k hk => hone k (hsub (List.mem_append_left _ hk))) hs
      (hone l (hsub (by simp)))⟩

end Deletes

/-- A device opens the form of an event, goes back and deletes the event. -/
theorem gone_of_oneDevice_deleted :
    ∃ (ls : List (SystemStep (Fin 1))) (s : System (Fin 1)),
      LTS.run (systemStep .maps String.toLower) (System.initial summitNode .empty []) ls = some s ∧
      "e1" ∈ deletedIds .maps String.toLower (System.initial summitNode .empty []) ls ∧
      "e1" ∉ s.events.keys := by
  let ls : List (SystemStep (Fin 1)) := dashboardSteps 0 ++
    [.onDevice 0 (.navigate (.tap ⟨.openForm, some summit⟩)), .onDevice 0 (.type .title "Expo"),
      .save 0 "e2", .onDevice 0 (.navigate (.tap ⟨.saved, none⟩)),
      .onDevice 0 (.navigate (.tap ⟨.openOverlay .deleteDialog, some summit⟩)), .confirmDelete 0,
      .onDevice 0 (.navigate .back), .onDevice 0 (.deliver 0)]
  have hsome : (LTS.run (systemStep .maps String.toLower) (System.initial summitNode .empty [])
      ls).isSome = true := by
    decide +kernel
  obtain ⟨s, hs⟩ := Option.isSome_iff_exists.mp hsome
  have hdeleted :
      "e1" ∈ deletedIds .maps String.toLower (System.initial summitNode .empty []) ls := by
    decide +kernel
  have hopens : LTS.Guarded (systemStep .maps String.toLower) (System.initial summitNode .empty [])
      ls OpensStored := by
    decide +kernel
  exact ⟨ls, s, hs, hdeleted, gone_of_oneDevice .maps String.toLower summitNode .empty [] ls s 0 hs
    (fun _ _ => Subsingleton.elim _ _) hopens "e1" hdeleted⟩

end EventManager.App

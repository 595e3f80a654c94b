import EventManager.App.Mirrors
import EventManager.App.Provenance

/-!
# Where the pages have their data from

A page may be stale: its stream may not have delivered yet, it may lie beneath others, and a form or
a dialog keeps the event of the card it was opened from. But none of them holds anything that was
not delivered: every event in a form or on an overlay was on a card of a page of the same device,
built from a value that a stream of the device had delivered. What the streams deliver does not
matter here.

## Main results

* `cardOf_of_mem_cards`: the cards of a page are built from the value it was delivered last;
* `sourced_of_deviceStep`: what a device holds after a step, for any delivered value;
* `sourced_of_run`: in every run, the forms and overlays of a device hold events of cards that were
  built from values delivered to it.
-/

namespace EventManager.App

open Dart Flutter

/-! ## What a page holds -/

/-- The value that the stream of the page has delivered last. -/
def Screen.value : Screen → Option Dyn
  | eventPage _ _ snapshot => snapshot.value
  | dashboardScreen _ delivered => delivered
  | _ => none

/-- One of the two pages with cards builds a card of the event from the value. -/
def CardOf (toLowerCase : String → String) (value : Dyn) (event : Event) : Prop :=
  (∃ query totals events,
    eventPageBody toLowerCase query (.data value) = .ok (.shown totals events) ∧ event ∈ events) ∨
  ∃ events, dashboardBody (some value) = .ok (.cards events) ∧ event ∈ events

/-- The event is that of a card built from a delivered value. -/
def OnCard (toLowerCase : String → String) (delivered : Dyn → Prop) (event : Event) : Prop :=
  ∃ value, delivered value ∧ CardOf toLowerCase value event

/-- The value on the page was delivered, and its form, if in edit mode, was opened for the event of
a card. -/
structure Screen.Sourced (toLowerCase : String → String) (delivered : Dyn → Prop)
    (screen : Screen) : Prop where
  value : ∀ value, screen.value = some value → delivered value
  form : ∀ form id data, screen.form = some form → form.edited = some (id, data) →
    ∃ event, OnCard toLowerCase delivered event ∧ event.id = id ∧ editData event = data

/-- The event of the overlay was on a card. -/
def Popup.Sourced (toLowerCase : String → String) (delivered : Dyn → Prop) (popup : Popup) :
    Prop :=
  ∀ event, popup.card = some event → OnCard toLowerCase delivered event

/-- All pages and overlays of the device are sourced. -/
def Device.Sourced (toLowerCase : String → String) (delivered : Dyn → Prop) (n : Device) : Prop :=
  n.Forall (Screen.Sourced toLowerCase delivered) (Popup.Sourced toLowerCase delivered)

section Steps

variable {toLowerCase : String → String} {delivered delivered' : Dyn → Prop} {value : Dyn}
  {screen : Screen} {popups : List Popup} {rest n n' : Device} {card : Option Event}

theorem OnCard.mono {event : Event} (hdelivered : ∀ value, delivered value → delivered' value)
    (h : OnCard toLowerCase delivered event) : OnCard toLowerCase delivered' event := by
  obtain ⟨value, hvalue, hcard⟩ := h
  exact ⟨value, hdelivered value hvalue, hcard⟩

theorem Screen.Sourced.mono (hdelivered : ∀ value, delivered value → delivered' value)
    (h : screen.Sourced toLowerCase delivered) : screen.Sourced toLowerCase delivered' := by
  refine ⟨fun value hvalue => hdelivered value (h.value value hvalue), ?_⟩
  intro form id data hform hedited
  obtain ⟨event, hcard, heq⟩ := h.form form id data hform hedited
  exact ⟨event, hcard.mono hdelivered, heq⟩

theorem Device.Sourced.mono (hdelivered : ∀ value, delivered value → delivered' value)
    (h : n.Sourced toLowerCase delivered) : n.Sourced toLowerCase delivered' := by
  intro page hpage
  obtain ⟨hscreen, hpopups⟩ := h page hpage
  exact ⟨hscreen.mono hdelivered, fun popup hpopup event hevent =>
    (hpopups popup hpopup event hevent).mono hdelivered⟩

/-- The cards of a page are built from the value it was delivered last. -/
theorem cardOf_of_mem_cards {event : Event} (hevent : event ∈ screen.cards toLowerCase) :
    ∃ value, screen.value = some value ∧ CardOf toLowerCase value event := by
  unfold Screen.cards at hevent
  split at hevent
  · next index query snapshot =>
    split at hevent
    · next totals events hbody =>
      cases snapshot with
      | data value => exact ⟨value, rfl, Or.inl ⟨query, totals, events, hbody, hevent⟩⟩
      -- no cards before the first value, and none after an error
      | _ => simp [eventPageBody, pure, Except.pure] at hbody
    · simp at hevent
  · next index delivered =>
    split at hevent
    · next events hbody =>
      cases delivered with
      | none => simp [dashboardBody, pure, Except.pure] at hbody
      | some value => exact ⟨value, rfl, Or.inr ⟨events, hbody, hevent⟩⟩
    · simp at hevent
  · simp at hevent

theorem sourced_opened (card : Option Event)
    (hcard : ∀ event, card = some event → OnCard toLowerCase delivered event) (r : Route) :
    (Screen.opened card r).Sourced toLowerCase delivered := by
  refine ⟨fun value hvalue => ?_, fun form id data hform hedited => ?_⟩
  · -- the streams of a new page have delivered nothing
    cases r <;> simp [Screen.opened, Screen.value, AsyncSnapshot.value] at hvalue
  · cases r with
    | createEventPage =>
      obtain rfl := Option.some.inj hform
      cases card with
      | none => simp [Form.opened_none] at hedited
      | some event =>
        rw [Form.opened_some] at hedited
        obtain ⟨rfl, rfl⟩ := Prod.mk.inj (Option.some.inj hedited)
        exact ⟨event, hcard event rfl, rfl, rfl⟩
    | _ => simp [Screen.opened, Screen.form] at hform

theorem sourced_withRoute (h : screen.Sourced toLowerCase delivered) (r : Route) :
    (screen.withRoute r).Sourced toLowerCase delivered := by
  have hopened : (Screen.opened none r).Sourced toLowerCase delivered :=
    sourced_opened none (by simp) r
  cases r <;> cases screen <;> first | exact hopened | exact ⟨h.value, h.form⟩

theorem sourced_receive {snapshot : AsyncSnapshot}
    (hsnapshot : ∀ value, snapshot.value = some value → delivered value)
    (h : screen.Sourced toLowerCase delivered) :
    (screen.receive snapshot).Sourced toLowerCase delivered := by
  refine ⟨fun value hvalue => ?_, fun form id data hform => ?_⟩
  · cases screen with
    | eventPage => exact hsnapshot value hvalue
    | dashboardScreen => exact hsnapshot value hvalue
    | _ => simp [Screen.receive, Screen.value] at hvalue
  · rw [form_receive] at hform
    exact h.form form id data hform

theorem sourced_receiveAt {snapshot : AsyncSnapshot}
    (hsnapshot : ∀ value, snapshot.value = some value → delivered value)
    (h : n.Sourced toLowerCase delivered) (index : ℕ) :
    Device.Sourced toLowerCase delivered (receiveAt index snapshot n) := by
  induction n generalizing index with
  | nil => cases index <;> exact h
  | cons top rest ih =>
    obtain ⟨⟨hscreen, hpopups⟩, hrest⟩ := List.forall_mem_cons.mp h
    cases index with
    | zero =>
      exact List.forall_mem_cons.mpr ⟨⟨sourced_receive hsnapshot hscreen, hpopups⟩, hrest⟩
    | succ index => exact List.forall_mem_cons.mpr ⟨⟨hscreen, hpopups⟩, ih hrest index⟩

/-- A touch on a card is on the event of a card. -/
theorem onCard_of_offersTouch {touch : Touch} (h : screen.Sourced toLowerCase delivered)
    (hoffers : screen.offersTouch toLowerCase touch = true) :
    ∀ event, touch.card = some event → OnCard toLowerCase delivered event := by
  intro event hevent
  have hcard := (Bool.and_eq_true_iff.mp hoffers).2
  rw [hevent] at hcard
  split at hcard
  · obtain ⟨value, hvalue, hcard⟩ := cardOf_of_mem_cards (by simpa using hcard)
    exact ⟨value, h.value value hvalue, hcard⟩
  · simp at hcard

/-- The page on top changes, but not its value and its form, and it keeps some of its overlays. -/
theorem sourced_top {screen' : Screen} {popups' : List Popup}
    (h : Device.Sourced toLowerCase delivered (⟨screen, popups⟩ :: rest))
    (hvalue : screen'.value = screen.value) (hform : screen'.form = screen.form)
    (hpopups : popups' ⊆ popups) :
    Device.Sourced toLowerCase delivered (⟨screen', popups'⟩ :: rest) := by
  obtain ⟨⟨hscreen, hpopups'⟩, hrest⟩ := List.forall_mem_cons.mp h
  refine List.forall_mem_cons.mpr ⟨⟨⟨?_, ?_⟩, fun popup hpopup => hpopups' popup (hpopups hpopup)⟩,
    hrest⟩
  · rw [hvalue]
    exact hscreen.value
  · rw [hform]
    exact hscreen.form

/-- A step of a device that is delivered nothing new, or the given value. -/
theorem sourced_of_deviceStep {step : DeviceStep}
    (hvalue : ∀ index, step = .deliver index → delivered value)
    (h : n.Sourced toLowerCase delivered) (hstep : deviceStep toLowerCase value n step = some n') :
    n'.Sourced toLowerCase delivered := by
  cases deviceEffect_of_step hstep with
  | tapped top rest touch ops hops =>
    obtain ⟨hoffers, ops', -, rfl⟩ := deviceHandler_eq_some hops
    have hscreen := (h top List.mem_cons_self).1
    have hcard := onCard_of_offersTouch hscreen hoffers
    exact forall_performAll touch.card (sourced_opened touch.card hcard)
      (sourced_withRoute hscreen) (fun _ => hcard) h ops'
  | closedPopup => exact sourced_top h rfl rfl (List.subset_cons_self _ _)
  | removedPage => exact (List.forall_mem_cons.mp h).2
  | entered => exact sourced_top h rfl rfl (List.Subset.refl _)
  | changed => exact sourced_top h rfl rfl (List.Subset.refl _)
  | typed field text form pending rest =>
    obtain ⟨⟨hscreen, hpopups⟩, hrest⟩ := List.forall_mem_cons.mp h
    refine List.forall_mem_cons.mpr ⟨⟨⟨hscreen.value, ?_⟩, hpopups⟩, hrest⟩
    -- typing does not change the edited event
    intro form' id data hform hedited
    obtain rfl := Option.some.inj hform
    exact hscreen.form form id data rfl hedited
  | searched => exact sourced_top h rfl rfl (List.subset_cons_self _ _)
  | delivered index =>
    refine sourced_receiveAt (fun value' hvalue' => ?_) h index
    obtain rfl := Option.some.inj hvalue'
    exact hvalue index rfl
  | failed index text =>
    -- an error comes without a value
    refine sourced_receiveAt (fun value hvalue => ?_) h index
    simp [AsyncSnapshot.value] at hvalue

end Steps

/-! ## Runs -/

section System

variable {ι : Type} [DecidableEq ι] {sdk : Firebase.Rendering} {toLowerCase : String → String}
  {s s' : System ι} {l : SystemStep ι} {ls : List (SystemStep ι)} {d : ι}

theorem sourced_of_systemStep {delivered : Dyn → Prop}
    (hvalue : ∀ index, l = .onDevice d (.deliver index) → delivered (sdk.value s.events))
    (h : (s.devices d).Sourced toLowerCase delivered)
    (hstep : systemStep sdk toLowerCase s l = some s') :
    (s'.devices d).Sourced toLowerCase delivered := by
  have hupdate {d' : ι} {n : Device} (hn : d' = d → n.Sourced toLowerCase delivered) :
      Device.Sourced toLowerCase delivered (Function.update s.devices d' n d) := by
    by_cases hd : d' = d
    · subst hd
      rw [Function.update_self]
      exact hn rfl
    · rwa [Function.update_of_ne (Ne.symm hd)]
  -- a pending write changes nothing that the page holds
  have hpending {d' : ι} {screen screen' : Screen} {rest : Device}
      (hdevice : s.devices d' = ⟨screen, []⟩ :: rest) (hsame : screen'.value = screen.value)
      (hform : screen'.form = screen.form) :
      Device.Sourced toLowerCase delivered
        (Function.update s.devices d' (⟨screen', []⟩ :: rest) d) := by
    refine hupdate fun hd => ?_
    subst hd
    rw [hdevice] at h
    exact sourced_top h hsame hform (List.Subset.refl _)
  cases systemEffect_of_step hstep with
  | moved d' step n hn =>
    refine hupdate fun hd => ?_
    subst hd
    exact sourced_of_deviceStep (fun index hindex => hvalue index (by rw [hindex])) h hn
  | edited d' key form pending rest id data hdevice => exact hpending hdevice rfl rfl
  | created d' key form pending rest hdevice => exact hpending hdevice rfl rfl
  | signedUp d' key form pending rest hdevice => exact hpending hdevice rfl rfl
  | _ => exact h

/-- A stream of the device has delivered the value in the run. -/
def DeliveredTo (sdk : Firebase.Rendering) (toLowerCase : String → String) (s₀ : System ι)
    (ls : List (SystemStep ι)) (d : ι) (value : Dyn) : Prop :=
  ∃ p index t, p ++ [.onDevice d (.deliver index)] <+: ls ∧
    LTS.run (systemStep sdk toLowerCase) s₀ p = some t ∧ sdk.value t.events = value

theorem DeliveredTo.concat {s₀ : System ι} {value : Dyn}
    (h : DeliveredTo sdk toLowerCase s₀ ls d value) (l : SystemStep ι) :
    DeliveredTo sdk toLowerCase s₀ (ls ++ [l]) d value := by
  obtain ⟨p, index, t, hp, ht⟩ := h
  exact ⟨p, index, t, hp.trans (List.prefix_append ls [l]), ht⟩

theorem sourced_of_systemRun {events users : Firebase.Node} {past : List String} (d : ι)
    (hrun : LTS.run (systemStep sdk toLowerCase) (System.initial events users past) ls = some s) :
    (s.devices d).Sourced toLowerCase
      (DeliveredTo sdk toLowerCase (System.initial events users past) ls d) := by
  refine LTS.invariant_of_run (I := fun p s => (s.devices d).Sourced toLowerCase
    (DeliveredTo sdk toLowerCase (System.initial events users past) p d)) ?_ ?_ hrun
  · exact List.forall_mem_singleton.mpr ⟨sourced_opened none (by simp) .loginPage, by simp⟩
  · intro p s l s' hp h hl
    refine sourced_of_systemStep (fun index hindex => ?_)
      (h.mono fun _ hvalue => hvalue.concat l) hl
    subst hindex
    exact ⟨p, index, s, List.prefix_rfl, hp, rfl⟩

/-- In every run of the app on its devices, every edit form on the stack of a device was opened for
the event of a card, and so was every dialog or sheet that holds an event: of a card that
`EventPage` or `DashboardScreen` builds from a value that a stream of the same device has delivered
in the run. -/
theorem sourced_of_run (sdk : Firebase.Rendering) (toLowerCase : String → String)
    (events users : Firebase.Node) (past : List String) (ls : List (SystemStep ι)) (s : System ι)
    (hrun : LTS.run (systemStep sdk toLowerCase) (System.initial events users past) ls = some s)
    (d : ι) : ∀ page ∈ s.devices d,
      (∀ form id data, page.route.form = some form → form.edited = some (id, data) →
        ∃ event, OnCard toLowerCase
          (DeliveredTo sdk toLowerCase (System.initial events users past) ls d) event ∧
          event.id = id ∧ editData event = data) ∧
      ∀ popup ∈ page.overlays, ∀ event, popup.card = some event → OnCard toLowerCase
        (DeliveredTo sdk toLowerCase (System.initial events users past) ls d) event := by
  intro page hpage
  obtain ⟨hscreen, hpopups⟩ := sourced_of_systemRun d hrun page hpage
  exact ⟨hscreen.form, hpopups⟩

end System

/-- A device opens the form of an event from a stale card, after the event was deleted. -/
theorem sourced_of_run_stale :
    ∃ (ls : List (SystemStep (Fin 2))) (s : System (Fin 2)),
      LTS.run (systemStep .maps String.toLower) (System.initial summitNode .empty []) ls = some s ∧
      s.events.keys = [] ∧
      (∃ page ∈ s.devices 0, ∃ form, page.route.form = some form ∧
        form.edited = some ("e1", editData summit)) ∧
      ∃ event, OnCard String.toLower
        (DeliveredTo .maps String.toLower (System.initial summitNode .empty []) ls 0) event ∧
        event.id = "e1" ∧ editData event = editData summit := by
  let ls : List (SystemStep (Fin 2)) := dashboardSteps 0 ++ dashboardSteps 1 ++
    [.onDevice 1 (.navigate (.tap ⟨.openOverlay .deleteDialog, some summit⟩)), .confirmDelete 1,
      .onDevice 0 (.navigate (.tap ⟨.openForm, some summit⟩))]
  have hrun : (LTS.run (systemStep .maps String.toLower)
      (System.initial summitNode .empty []) ls).any (fun s => decide (s.events.keys = []) &&
        (s.devices 0).any fun page => page.route.form.any fun form =>
          decide (form.edited = some ("e1", editData summit))) = true := by
    decide +kernel
  obtain ⟨s, hs, hshown⟩ := (Option.any_eq_true _ _).mp hrun
  simp only [Bool.and_eq_true, decide_eq_true_eq, List.any_eq_true, Option.any_eq_true] at hshown
  obtain ⟨hkeys, page, hpage, form, hform, hedited⟩ := hshown
  obtain ⟨hsourced, -⟩ :=
    sourced_of_run .maps String.toLower summitNode .empty [] ls s hs 0 page hpage
  exact ⟨ls, s, hs, hkeys, ⟨page, hpage, form, hform, hedited⟩,
    hsourced form "e1" (editData summit) hform hedited⟩

end EventManager.App

import EventManager.App.Stored
import EventManager.ToMathlib.Run

/-!
# Clients sharing the `events` node

Any number of clients, indexed by `ι`, run the app against one `events` node. A client has the
value last delivered to its dashboard, at most one open `CreateEventPage` and at most one open
delete dialog. What a client does on its own screen is an `Action`; it reads the node when the SDK
delivers its value and changes nothing but the client. The node is written by

* `save`, the submit button of the form: an update in edit mode and a push in create mode;
* `confirmDelete`, the button of the delete dialog;
* `attend`, another writer's write to the `attendees` field of a stored event.

A form stays open after a save and a dialog after a delete: both are closed when the write is
acknowledged, or earlier by the user. `push` yields a key that was never used before, so the state
records the used keys.

## Main results

* `acted_of_act`: the actions of a client, one constructor of `Acted` for each of them;
* `effect_of_step`: the steps of the system, one constructor of `Effect` for each way to step;
* `Effect.forall_clients`: what every action of a client keeps is kept by every step;
* `Effect.holds`: the event ids a client holds come from the node;
* `known_of_run`: stored and held ids are used keys in every run;
* `editsEvent_of_run`: a form in edit mode was opened by the Edit button of an event.
-/

namespace EventManager.App

open Dart

/-! ## One client -/

/-- The screen of a client. -/
structure Client where
  delivered : Option Dyn
  form : Option Form
  dialog : Option Event

namespace Client

/-- A client that has just been started. -/
def fresh : Client := ⟨none, none, none⟩

/-- The events for which the dashboard shows a card with the buttons Edit and Delete. -/
def cards (c : Client) : List Event :=
  match dashboardBody c.delivered with
  | .ok (.cards events) => events
  | _ => []

/-- Whether neither the form nor the dialog is open. -/
def idle (c : Client) : Bool := c.form.isNone && c.dialog.isNone

end Client

/-- What a client does on its own screen. -/
inductive Action
  /-- The stream of the dashboard delivers the current value of the node. -/
  | deliver
  /-- The Edit button on the card of the event. -/
  | openEdit (event : Event)
  /-- The button that opens the form in create mode. -/
  | openCreate
  /-- A new text in a field of the form. -/
  | type (field : Field) (text : String)
  /-- Back, Cancel, or the `pop` after a save. -/
  | closeForm
  /-- The Delete button on the card of the event. -/
  | askDelete (event : Event)
  /-- Cancel in the dialog, or the `pop` after the delete. -/
  | closeDialog

/-- The client after the action, `none` if its screen does not offer the action. The node has the
given value. -/
def Client.act (value : Dyn) (c : Client) : Action → Option Client
  | .deliver => some { c with delivered := some value }
  | .openEdit event =>
    -- the card is under the form and under the dialog
    if c.idle && decide (event ∈ c.cards) then
      match initState (some event.id) (some (editData event)) with
      | .ok form => some { c with form := some form }
      | .error _ => none
    else none
  | .openCreate =>
    if c.idle then
      match initState none none with
      | .ok form => some { c with form := some form }
      | .error _ => none
    else none
  | .type field text => c.form.map fun form => { c with form := some (form.type field text) }
  | .closeForm => some { c with form := none }
  | .askDelete event =>
    if c.idle && decide (event ∈ c.cards) then some { c with dialog := some event } else none
  | .closeDialog => some { c with dialog := none }

/-! ## What an action does -/

/-- The actions of a client, with what each of them needs and does. -/
inductive Acted (value : Dyn) (c : Client) : Client → Prop
  | delivered : Acted value c { c with delivered := some value }
  | openedEdit (event : Event) (hshown : event ∈ c.cards) :
      Acted value c { c with form := some ⟨some (event.id, editData event), event.texts⟩ }
  | openedCreate : Acted value c { c with form := some ⟨none, fun _ => ""⟩ }
  | typed (form : Form) (field : Field) (text : String) (hform : c.form = some form) :
      Acted value c { c with form := some (form.type field text) }
  | closedForm : Acted value c { c with form := none }
  | askedDelete (event : Event) (hshown : event ∈ c.cards) :
      Acted value c { c with dialog := some event }
  | closedDialog : Acted value c { c with dialog := none }

theorem acted_of_act {value : Dyn} {c c' : Client} {a : Action} (h : c.act value a = some c') :
    Acted value c c' := by
  cases a with
  | deliver =>
    obtain rfl := Option.some.inj h
    exact .delivered
  | openEdit event =>
    -- the form opens, since the event's data has the types that `initState` expects
    simp only [Client.act, initState_editData] at h
    split at h
    · next hshown =>
      obtain rfl := Option.some.inj h
      exact .openedEdit event (by simpa using (Bool.and_eq_true_iff.mp hshown).2)
    · simp at h
  | openCreate =>
    simp only [Client.act, initState] at h
    split at h
    · obtain rfl := Option.some.inj h
      exact .openedCreate
    · simp at h
  | type field text =>
    obtain ⟨form, hform, rfl⟩ := Option.map_eq_some_iff.mp h
    exact .typed form field text hform
  | closeForm =>
    obtain rfl := Option.some.inj h
    exact .closedForm
  | askDelete event =>
    simp only [Client.act] at h
    split at h
    · next hshown =>
      obtain rfl := Option.some.inj h
      exact .askedDelete event (by simpa using (Bool.and_eq_true_iff.mp hshown).2)
    · simp at h
  | closeDialog =>
    obtain rfl := Option.some.inj h
    exact .closedDialog

/-! ## The shared node -/

/-- The `events` node with its clients. -/
structure State (ι : Type) where
  events : Firebase.Node
  used : List String
  clients : ι → Client

/-- A step of the system. -/
inductive Label (ι : Type)
  | act (client : ι) (action : Action)
  /-- The submit button of the form, with the key that `push` would yield. -/
  | save (client : ι) (key : String)
  /-- The Delete button of the dialog for the event with the id. -/
  | confirmDelete (client : ι) (id : String)
  /-- Another writer sets the number of attendees of a stored event. -/
  | attend (id : String) (attendees : Int64)

section System

variable {ι : Type} [DecidableEq ι]

/-- A node with any children and any keys used in the past, and clients that have just been
started. -/
def State.initial (events : Firebase.Node) (past : List String) : State ι :=
  ⟨events, events.keys ++ past, fun _ => .fresh⟩

/-- Apply the write of a submitted form. -/
def State.write (s : State ι) (key : String) : Option Write → Option (State ι)
  | none => some s
  | some (.update id fields) => some { s with events := Firebase.update s.events id fields }
  | some (.push fields) =>
    -- `push` never yields a used key
    if key ∈ s.used then none
    else some { s with events := Firebase.push s.events key fields, used := key :: s.used }

/-- The step function of the system. -/
def step (sdk : Firebase.Rendering) (s : State ι) : Label ι → Option (State ι)
  | .act c action =>
    ((s.clients c).act (sdk.value s.events) action).map fun client =>
      { s with clients := Function.update s.clients c client }
  | .save c key => (s.clients c).form.bind fun form => s.write key (saveEvent form)
  | .confirmDelete c id =>
    -- the dialog holds the event it was opened for, which may be gone by now
    if (s.clients c).dialog.map Event.id = some id then
      some { s with events := Firebase.remove s.events id }
    else none
  | .attend id attendees =>
    if id ∈ s.events.keys then
      some { s with events := Firebase.update s.events id [("attendees", .int attendees)] }
    else none

/-! ## What a step does -/

/-- The steps of the system, with what each of them needs and does. -/
inductive Effect (sdk : Firebase.Rendering) (s : State ι) : Label ι → State ι → Prop
  /-- A client acts on its own screen. -/
  | acted (c : ι) (a : Action) (client : Client)
      (hacted : Acted (sdk.value s.events) (s.clients c) client) :
      Effect sdk s (.act c a) { s with clients := Function.update s.clients c client }
  /-- The validators refuse the form. -/
  | refused (c : ι) (key : String) (form : Form) (hform : (s.clients c).form = some form)
      (hvalid : form.validate = false) : Effect sdk s (.save c key) s
  /-- A form in edit mode is saved. -/
  | edited (c : ι) (key : String) (form : Form) (id : String) (data : List (Dyn × Dyn))
      (hform : (s.clients c).form = some form) (hvalid : form.validate = true)
      (hedited : form.edited = some (id, data)) :
      Effect sdk s (.save c key) { s with events := Firebase.update s.events id form.eventData }
  /-- A form in create mode is saved. -/
  | created (c : ι) (key : String) (form : Form) (hform : (s.clients c).form = some form)
      (hvalid : form.validate = true) (hedited : form.edited = none) (hfresh : key ∉ s.used) :
      Effect sdk s (.save c key)
        { s with events := Firebase.push s.events key form.eventData, used := key :: s.used }
  /-- A delete is confirmed. -/
  | deleted (c : ι) (event : Event) (hdialog : (s.clients c).dialog = some event) :
      Effect sdk s (.confirmDelete c event.id)
        { s with events := Firebase.remove s.events event.id }
  /-- Another writer sets the attendees. -/
  | attended (id : String) (attendees : Int64) (hmem : id ∈ s.events.keys) :
      Effect sdk s (.attend id attendees)
        { s with events := Firebase.update s.events id [("attendees", .int attendees)] }

variable {sdk : Firebase.Rendering} {s s' : State ι} {l : Label ι}

theorem effect_of_step (h : step sdk s l = some s') : Effect sdk s l s' := by
  cases l with
  | act c a =>
    obtain ⟨client, hact, rfl⟩ := Option.map_eq_some_iff.mp h
    exact .acted c a client (acted_of_act hact)
  | save c key =>
    obtain ⟨form, hform, hwrite⟩ := Option.bind_eq_some_iff.mp h
    unfold saveEvent at hwrite
    by_cases hvalid : form.validate = true
    · rw [if_pos hvalid] at hwrite
      cases hedited : form.edited with
      | none =>
        -- create mode: the key must be fresh
        simp only [hedited, State.write] at hwrite
        split at hwrite
        · simp at hwrite
        · next hfresh =>
          rw [← Option.some.inj hwrite]
          exact .created c key form hform hvalid hedited hfresh
      | some event =>
        obtain ⟨id, data⟩ := event
        simp only [hedited, State.write] at hwrite
        rw [← Option.some.inj hwrite]
        exact .edited c key form id data hform hvalid hedited
    · rw [if_neg hvalid] at hwrite
      rw [← Option.some.inj hwrite]
      exact .refused c key form hform (by simpa using hvalid)
  | confirmDelete c id =>
    simp only [step] at h
    split at h
    · next hdialog =>
      obtain ⟨event, hevent, rfl⟩ := Option.map_eq_some_iff.mp hdialog
      rw [← Option.some.inj h]
      exact .deleted c event hevent
    · simp at h
  | attend id attendees =>
    simp only [step] at h
    split at h
    · next hmem =>
      rw [← Option.some.inj h]
      exact .attended id attendees hmem
    · simp at h

/-- What every action of a client keeps is kept by every step, since the other steps change no
client. -/
theorem Effect.forall_clients {P : Client → Prop} (heffect : Effect sdk s l s')
    (hacted : ∀ c c', Acted (sdk.value s.events) c c' → P c → P c')
    (h : ∀ c, P (s.clients c)) : ∀ c, P (s'.clients c) := by
  cases heffect with
  | acted c a client hclient =>
    exact (Function.forall_update_iff _ fun _ client => P client).mpr
      ⟨hacted _ _ hclient (h c), fun d _ => h d⟩
  | _ => exact h

/-! ## The ids a client holds -/

/-- The client has the id on a card, in its form or in its dialog. -/
def Client.Holds (c : Client) (id : String) : Prop :=
  (∃ e ∈ c.cards, e.id = id) ∨ (∃ form data, c.form = some form ∧ form.edited = some (id, data)) ∨
    ∃ e, c.dialog = some e ∧ e.id = id

theorem not_holds_fresh (id : String) : ¬ Client.fresh.Holds id := by
  rintro (⟨e, he, -⟩ | ⟨form, data, hform, -⟩ | ⟨e, he, -⟩)
  · simp [Client.fresh, Client.cards, dashboardBody, pure, Except.pure] at he
  · simp [Client.fresh] at hform
  · simp [Client.fresh] at he

/-- The cards of a client are events stored in the node that was delivered to it. -/
theorem storedEvent_of_cards {node : Firebase.Node} {c : Client} {e : Event}
    (hdelivered : c.delivered = some (sdk.value node)) (he : e ∈ c.cards) :
    storedEvent node e.id = some e := by
  unfold Client.cards at he
  split at he
  · next events hbody =>
    rw [hdelivered] at hbody
    exact storedEvent_of_dashboardBody hbody he
  · simp at he

/-- An action of a client gives it no ids but those of the node. -/
theorem Acted.holds {node : Firebase.Node} {c c' : Client} {id : String}
    (hacted : Acted (sdk.value node) c c') (hid : c'.Holds id) :
    c.Holds id ∨ id ∈ node.keys := by
  rcases hid with ⟨e, he, rfl⟩ | ⟨form, data, hform, hedited⟩ | ⟨e, he, rfl⟩
  · -- only a delivery changes the cards
    cases hacted with
    | delivered => exact Or.inr (mem_keys_of_storedEvent (storedEvent_of_cards rfl he))
    | _ => exact Or.inl (Or.inl ⟨e, he, rfl⟩)
  · cases hacted with
    | openedEdit event hshown =>
      -- the form holds the id of the card
      obtain rfl := Option.some.inj hform
      obtain ⟨rfl, -⟩ := Prod.mk.inj (Option.some.inj hedited)
      exact Or.inl (Or.inl ⟨event, hshown, rfl⟩)
    | openedCreate =>
      obtain rfl := Option.some.inj hform
      simp at hedited
    | typed form' _ _ hform' =>
      obtain rfl := Option.some.inj hform
      exact Or.inl (Or.inr (Or.inl ⟨form', data, hform', hedited⟩))
    | closedForm => simp at hform
    | _ => exact Or.inl (Or.inr (Or.inl ⟨form, data, hform, hedited⟩))
  · cases hacted with
    | askedDelete event hshown =>
      obtain rfl := Option.some.inj he
      exact Or.inl (Or.inl ⟨event, hshown, rfl⟩)
    | closedDialog => simp at he
    | _ => exact Or.inl (Or.inr (Or.inr ⟨e, he, rfl⟩))

/-- A step gives the clients no ids but those of the node. -/
theorem Effect.holds {c : ι} {id : String} (heffect : Effect sdk s l s')
    (hid : (s'.clients c).Holds id) : (s.clients c).Holds id ∨ id ∈ s.events.keys := by
  cases heffect with
  | acted d a client hacted =>
    replace hid : (Function.update s.clients d client c).Holds id := hid
    by_cases hc : c = d
    · subst hc
      rw [Function.update_self] at hid
      exact hacted.holds hid
    · rw [Function.update_of_ne hc] at hid
      exact Or.inl hid
  | _ => exact Or.inl hid

/-- The stored keys and the ids the clients hold are all used keys, so that no pushed key is one
of them. -/
structure Known (s : State ι) : Prop where
  stored : ∀ id ∈ s.events.keys, id ∈ s.used
  held : ∀ c id, (s.clients c).Holds id → id ∈ s.used

omit [DecidableEq ι] in
theorem known_initial (events : Firebase.Node) (past : List String) :
    Known (State.initial events past : State ι) :=
  ⟨fun _ hid => List.mem_append_left _ hid, fun _ id hid => absurd hid (not_holds_fresh id)⟩

theorem Known.step (h : Known s) (heffect : Effect sdk s l s') : Known s' := by
  have hheld : ∀ c id, (s'.clients c).Holds id → id ∈ s.used := by
    intro c id hid
    rcases heffect.holds hid with hid | hid
    · exact h.held c id hid
    · exact h.stored id hid
  cases heffect with
  | acted => exact ⟨h.stored, hheld⟩
  | refused => exact h
  | edited c key form id data hform hvalid hedited =>
    refine ⟨fun id' hid => ?_, h.held⟩
    -- the update may create the event, but only one that the form holds
    rcases Firebase.mem_keys_update.mp hid with rfl | hid
    · exact h.held c id' (Or.inr (Or.inl ⟨form, data, hform, hedited⟩))
    · exact h.stored id' hid
  | created c key form =>
    refine ⟨fun id hid => ?_, fun d id hid => List.mem_cons_of_mem key (h.held d id hid)⟩
    rcases Firebase.mem_keys_push.mp hid with rfl | hid
    · exact List.mem_cons_self
    · exact List.mem_cons_of_mem key (h.stored id hid)
  | deleted c event =>
    exact ⟨fun id hid => h.stored id (Firebase.mem_keys_remove.mp hid).1, h.held⟩
  | attended id attendees hmem =>
    refine ⟨fun id' hid => ?_, h.held⟩
    rcases Firebase.mem_keys_update.mp hid with rfl | hid
    · exact h.stored id' hmem
    · exact h.stored id' hid

theorem known_of_run {events : Firebase.Node} {past : List String} {ls : List (Label ι)}
    (hrun : LTS.run (App.step sdk) (State.initial events past) ls = some s) : Known s :=
  LTS.invariant (I := fun _ s => Known s) (known_initial events past)
    (fun _ _ _ _ h hstep => h.step (effect_of_step hstep)) hrun

/-! ## Forms in edit mode -/

/-- The form of the client, if in edit mode, was opened by the Edit button of some event. -/
def Client.EditsEvent (c : Client) : Prop :=
  ∀ form id data, c.form = some form → form.edited = some (id, data) →
    ∃ event : Event, event.id = id ∧ editData event = data

theorem Acted.editsEvent {value : Dyn} {c c' : Client} (hacted : Acted value c c')
    (h : c.EditsEvent) : c'.EditsEvent := by
  intro form id data hform hedited
  cases hacted with
  | openedEdit event =>
    obtain rfl := Option.some.inj hform
    obtain ⟨rfl, rfl⟩ := Prod.mk.inj (Option.some.inj hedited)
    exact ⟨event, rfl, rfl⟩
  | openedCreate =>
    obtain rfl := Option.some.inj hform
    simp at hedited
  | typed form' _ _ hform' =>
    -- typing does not change the edited event
    obtain rfl := Option.some.inj hform
    exact h form' id data hform' hedited
  | closedForm => simp at hform
  | _ => exact h form id data hform hedited

/-- In every run, each form in edit mode was opened by the Edit button of some event. -/
theorem editsEvent_of_run {events : Firebase.Node} {past : List String} {ls : List (Label ι)}
    (hrun : LTS.run (step sdk) (State.initial events past) ls = some s) (c : ι) :
    (s.clients c).EditsEvent := by
  revert c
  refine LTS.invariant (I := fun _ s => ∀ c, (s.clients c).EditsEvent) ?_ ?_ hrun
  · intro c form id data hform
    simp [State.initial, Client.fresh] at hform
  · intro _ s l s' h hstep
    exact (effect_of_step hstep).forall_clients (fun _ _ hacted => hacted.editsEvent) h

end System

end EventManager.App

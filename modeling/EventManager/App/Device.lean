import EventManager.App.Accounts
import EventManager.App.Clients
import EventManager.App.Reachable

/-!
# The app on its devices

Any number of devices, indexed by `ι`, run the app against one database with the nodes `events` and
`users`. A device is a navigator whose pages carry their state: the texts of their forms, the writes
of theirs that are not yet acknowledged, the search query, and what their streams have delivered
last. Pages beneath others keep their state, and their streams go on delivering.

The handlers are those of `Navigation`. A page with its state offers some of its taps only: "Login"
with an accepted form, the buttons of a card for the cards it shows, and the end of an asynchronous
handler while a write is pending. A handler whose page is gone when its write is acknowledged
changes no page any more, and one that goes on after a delete closes the dialog as "Cancel" does.

## Main results

* `deviceEffect_of_step`, `systemEffect_of_step`: the steps of a device and of the system, one
  constructor of `DeviceEffect` and of `SystemEffect` for each kind;
* `stack_of_run`: without its data, the stack of each device runs as the handlers of `Navigation`
  say, by the taps of the device alone.
-/

namespace EventManager.App

open Dart Flutter

/-! ## Pages with their state -/

/-- A page with its state. -/
inductive Screen
  | loginPage (form : LoginForm)
  /-- The form, and how many of its writes are not yet acknowledged. -/
  | signUpPage (form : SignUpForm) (pending : ℕ)
  | eventPage (selectedIndex : Fin 4) (searchQuery : String) (snapshot : AsyncSnapshot)
  | dashboardScreen (selectedIndex : Fin 4) (delivered : Option Dyn)
  | scheduleScreen
  | profilePage
  /-- The form, and how many of its writes are not yet acknowledged. -/
  | createEventPage (form : Form) (pending : ℕ)

/-- An overlay, with the event of the card it was opened from. -/
structure Popup where
  overlay : Overlay
  card : Option Event

/-- A tap, with the event of the card it is on. -/
structure Touch where
  tap : Tap
  card : Option Event

/-- The pages of a device. -/
abbrev Device : Type := Navigator Screen Popup

/-- The form after `initState`, for the event of a card or for a new event. -/
def Form.opened (card : Option Event) : Form :=
  match initState (card.map Event.id) (card.map editData) with
  | .ok form => form
  -- not reached: the data of a card has the types that `initState` expects
  | .error _ => ⟨none, fun _ => ""⟩

theorem Form.opened_none : Form.opened none = ⟨none, fun _ => ""⟩ := rfl

theorem Form.opened_some (event : Event) :
    Form.opened (some event) = ⟨some (event.id, editData event), event.texts⟩ := by
  simp only [opened, Option.map_some, initState_editData]

/-- The data of the snapshot, if it has any. -/
def AsyncSnapshot.value : AsyncSnapshot → Option Dyn
  | data value => some value
  | _ => none

namespace Screen

/-- The page without its state. -/
def route : Screen → Route
  | loginPage _ => .loginPage
  | signUpPage _ _ => .signUpPage
  | eventPage index _ _ => .eventPage index
  | dashboardScreen index _ => .dashboardScreen index
  | scheduleScreen => .scheduleScreen
  | profilePage => .profilePage
  | createEventPage _ _ => .createEventPage

/-- A page that has just been opened. -/
def opened (card : Option Event) : Route → Screen
  | .loginPage => loginPage ⟨"", ""⟩
  | .signUpPage => signUpPage .initial 0
  | .eventPage index => eventPage index "" .waiting
  | .dashboardScreen index => dashboardScreen index none
  | .scheduleScreen => scheduleScreen
  | .profilePage => profilePage
  | .createEventPage => createEventPage (.opened card) 0

/-- `setState` of the bottom bars: the page with another selected item. -/
def withRoute : Route → Screen → Screen
  | .eventPage index, eventPage _ query snapshot => eventPage index query snapshot
  | .dashboardScreen index, dashboardScreen _ delivered => dashboardScreen index delivered
  | route, _ => opened none route

/-- What a `StreamBuilder` passes on to the body of its page. `DashboardScreen` looks at the data
only. -/
def receive (snapshot : AsyncSnapshot) : Screen → Screen
  | eventPage index query _ => eventPage index query snapshot
  | dashboardScreen index _ => dashboardScreen index snapshot.value
  | screen => screen

@[simp]
theorem route_opened (card : Option Event) (r : Route) : (opened card r).route = r := by
  cases r <;> rfl

@[simp]
theorem route_withRoute (r : Route) (screen : Screen) : (withRoute r screen).route = r := by
  cases r <;> cases screen <;> rfl

@[simp]
theorem route_receive (snapshot : AsyncSnapshot) (screen : Screen) :
    (screen.receive snapshot).route = screen.route := by
  cases screen <;> rfl

end Screen

/-! ## Handlers -/

section Handlers

variable (toLowerCase : String → String)

namespace Screen

/-- The events whose cards the page shows. -/
def cards : Screen → List Event
  | eventPage _ query snapshot =>
    match eventPageBody toLowerCase query snapshot with
    | .ok (.shown _ events) => events
    | _ => []
  | dashboardScreen _ delivered =>
    match dashboardBody delivered with
    | .ok (.cards events) => events
    | _ => []
  | _ => []

/-- Whether the tap is on a card of the page. -/
def isOnCard : Screen → Tap → Bool
  | dashboardScreen _ _, .openForm => true
  | dashboardScreen _ _, .openOverlay .deleteDialog => true
  | eventPage _ _ _, .openOverlay .detailsSheet => true
  | eventPage _ _ _, .openOverlay .detailsDialog => true
  | _, _ => false

/-- Whether the state of the page lets its handler get to the navigation. -/
def isReady : Screen → Tap → Bool
  | loginPage form, .login => form.validate
  | signUpPage _ pending, .signedUp => pending != 0
  | createEventPage _ pending, .saved => pending != 0
  | _, _ => true

/-- Whether the page offers the touch. -/
def offersTouch (screen : Screen) (touch : Touch) : Bool :=
  screen.isReady touch.tap &&
    if screen.isOnCard touch.tap then
      touch.card.any fun event => decide (event ∈ screen.cards toLowerCase)
    else touch.card.isNone

/-- The operation with the state of the pages: new ones for the given card, and the page on top as
it is but for its selected item. -/
def lift (screen : Screen) (card : Option Event) : NavOp Route Overlay → NavOp Screen Popup
  | .push route => .push (opened card route)
  | .pushReplacement route => .pushReplacement (opened card route)
  | .pop => .pop
  | .present overlay => .present ⟨overlay, card⟩
  | .setState route => .setState (screen.withRoute route)

end Screen

/-- The handler of the page on top. -/
def deviceHandler (top : Entry Screen Popup) (touch : Touch) :
    Option (List (NavOp Screen Popup)) :=
  if top.route.offersTouch toLowerCase touch then
    (handler (top.outline Screen.route Popup.overlay) touch.tap).map fun ops =>
      ops.map (top.route.lift touch.card)
  else none

end Handlers

/-! ## Steps -/

/-- What happens on a device without a write to the database. -/
inductive DeviceStep
  | navigate (step : NavStep Touch)
  /-- New texts in the fields of `LoginPage`. -/
  | enter (form : LoginForm)
  /-- A change on `SignUpPage`. -/
  | change (edit : SignUpEdit)
  /-- A new text in a field of `CreateEventPage`. -/
  | type (field : Field) (text : String)
  /-- "Search" or "Clear" in the search dialog, with the new query. -/
  | search (query : String)
  /-- The stream of the page, counted from the top, delivers the current value of the node. -/
  | deliver (index : ℕ)
  /-- The stream of the page, counted from the top, reports an error. -/
  | streamError (index : ℕ) (text : String)

/-- The page, counted from the top, is given a snapshot. -/
def receiveAt (index : ℕ) (snapshot : AsyncSnapshot) (n : Device) : Device :=
  n.modify index fun entry => ⟨entry.route.receive snapshot, entry.overlays⟩

/-- The step function of a device, where the `events` node has the given value. -/
def deviceStep (toLowerCase : String → String) (value : Dyn) (n : Device) :
    DeviceStep → Option Device
  | .navigate step => navStep (deviceHandler toLowerCase) n step
  | .enter form =>
    match n with
    | ⟨.loginPage _, []⟩ :: rest => some (⟨.loginPage form, []⟩ :: rest)
    | _ => none
  | .change edit =>
    match n with
    | ⟨.signUpPage form pending, []⟩ :: rest =>
      (form.change edit).map fun form => ⟨.signUpPage form pending, []⟩ :: rest
    | _ => none
  | .type field text =>
    match n with
    | ⟨.createEventPage form pending, []⟩ :: rest =>
      some (⟨.createEventPage (form.type field text) pending, []⟩ :: rest)
    | _ => none
  | .search query =>
    match n with
    | ⟨.eventPage index _ snapshot, ⟨.searchDialog, _⟩ :: popups⟩ :: rest =>
      some (⟨.eventPage index query snapshot, popups⟩ :: rest)
    | _ => none
  | .deliver index => some (receiveAt index (.data value) n)
  | .streamError index text => some (receiveAt index (.error text) n)

/-- The steps of a device, with what each of them needs and does. -/
inductive DeviceEffect (toLowerCase : String → String) (value : Dyn) :
    Device → DeviceStep → Device → Prop
  /-- The handler of the page on top answers a touch. -/
  | tapped (top : Entry Screen Popup) (rest : Device) (touch : Touch)
      (ops : List (NavOp Screen Popup)) (hops : deviceHandler toLowerCase top touch = some ops) :
      DeviceEffect toLowerCase value (top :: rest) (.navigate (.tap touch))
        (Navigator.performAll (top :: rest) ops)
  /-- The back step closes the latest overlay. -/
  | closedPopup (screen : Screen) (popup : Popup) (popups : List Popup) (rest : Device) :
      DeviceEffect toLowerCase value (⟨screen, popup :: popups⟩ :: rest) (.navigate .back)
        (⟨screen, popups⟩ :: rest)
  /-- The back step removes the page on top. -/
  | removedPage (screen : Screen) (rest : Device) (hrest : rest ≠ []) :
      DeviceEffect toLowerCase value (⟨screen, []⟩ :: rest) (.navigate .back) rest
  /-- The texts of `LoginPage` change. -/
  | entered (form form' : LoginForm) (rest : Device) :
      DeviceEffect toLowerCase value (⟨.loginPage form, []⟩ :: rest) (.enter form')
        (⟨.loginPage form', []⟩ :: rest)
  /-- The form of `SignUpPage` changes. -/
  | changed (edit : SignUpEdit) (form form' : SignUpForm) (pending : ℕ) (rest : Device)
      (hedit : form.change edit = some form') :
      DeviceEffect toLowerCase value (⟨.signUpPage form pending, []⟩ :: rest) (.change edit)
        (⟨.signUpPage form' pending, []⟩ :: rest)
  /-- The form of `CreateEventPage` changes. -/
  | typed (field : Field) (text : String) (form : Form) (pending : ℕ) (rest : Device) :
      DeviceEffect toLowerCase value (⟨.createEventPage form pending, []⟩ :: rest)
        (.type field text) (⟨.createEventPage (form.type field text) pending, []⟩ :: rest)
  /-- The search dialog sets the query and closes. -/
  | searched (query query' : String) (index : Fin 4) (snapshot : AsyncSnapshot)
      (card : Option Event) (popups : List Popup) (rest : Device) :
      DeviceEffect toLowerCase value
        (⟨.eventPage index query snapshot, ⟨.searchDialog, card⟩ :: popups⟩ :: rest)
        (.search query') (⟨.eventPage index query' snapshot, popups⟩ :: rest)
  /-- The stream of a page delivers. -/
  | delivered (index : ℕ) (n : Device) :
      DeviceEffect toLowerCase value n (.deliver index) (receiveAt index (.data value) n)
  /-- The stream of a page reports an error. -/
  | failed (index : ℕ) (text : String) (n : Device) :
      DeviceEffect toLowerCase value n (.streamError index text) (receiveAt index (.error text) n)

theorem deviceEffect_of_step {toLowerCase : String → String} {value : Dyn} {n n' : Device}
    {step : DeviceStep} (h : deviceStep toLowerCase value n step = some n') :
    DeviceEffect toLowerCase value n step n' := by
  cases step with
  | navigate step =>
    obtain ⟨top, rest, touch, ops, rfl, rfl, hops, rfl⟩ |
      ⟨screen, popup, popups, rest, rfl, rfl, rfl⟩ | ⟨screen, rest, rfl, hrest, rfl, rfl⟩ :=
      navStep_eq_some h
    · exact .tapped top rest touch ops hops
    · exact .closedPopup screen popup popups rest
    · exact .removedPage screen n' hrest
  | enter form =>
    simp only [deviceStep] at h
    split at h
    · obtain rfl := Option.some.inj h
      exact .entered _ form _
    · simp at h
  | change edit =>
    simp only [deviceStep] at h
    split at h
    · obtain ⟨form', hedit, rfl⟩ := Option.map_eq_some_iff.mp h
      exact .changed edit _ form' _ _ hedit
    · simp at h
  | type field text =>
    simp only [deviceStep] at h
    split at h
    · obtain rfl := Option.some.inj h
      exact .typed field text _ _ _
    · simp at h
  | search query =>
    simp only [deviceStep] at h
    split at h
    · obtain rfl := Option.some.inj h
      exact .searched _ query _ _ _ _ _
    · simp at h
  | deliver index =>
    obtain rfl := Option.some.inj h
    exact .delivered index n
  | streamError index text =>
    obtain rfl := Option.some.inj h
    exact .failed index text n

/-- The database and the devices. The keys are those that were ever used for children of the two
nodes. -/
structure System (ι : Type) where
  events : Firebase.Node
  eventKeys : List String
  users : Firebase.Node
  userKeys : List String
  devices : ι → Device

/-- A step of the system. -/
inductive SystemStep (ι : Type)
  | onDevice (device : ι) (step : DeviceStep)
  /-- The submit button of `CreateEventPage`, with the key that `push` would yield. -/
  | save (device : ι) (key : String)
  /-- The button of `SignUpPage`, with the key that `push` would yield. -/
  | signUp (device : ι) (key : String)
  /-- "Delete" in the delete dialog. -/
  | confirmDelete (device : ι)

/-- The pages at program start. -/
def Device.launched : Device := [⟨.opened none .loginPage, []⟩]

section System

variable {ι : Type} [DecidableEq ι]

namespace System

/-- Any database, with any keys used in the past, and devices on which the app has just been
started. -/
def initial (events users : Firebase.Node) (past : List String) : System ι :=
  ⟨events, events.keys ++ past, users, users.keys ++ past, fun _ => .launched⟩

/-- The system with another stack on the device. -/
def display (s : System ι) (d : ι) (n : Device) : System ι :=
  { s with devices := Function.update s.devices d n }

/-- Apply the write of an accepted form of `CreateEventPage`. -/
def write (s : System ι) (key : String) : Write → Option (System ι)
  | .update id fields => some { s with events := Firebase.update s.events id fields }
  | .push fields =>
    -- `push` never yields a used key
    if key ∈ s.eventKeys then none
    else some { s with
      events := Firebase.push s.events key fields
      eventKeys := key :: s.eventKeys }

/-- Write the record of an accepted sign-up. -/
def writeUser (s : System ι) (key : String) (fields : List (String × Dyn)) :
    Option (System ι) :=
  if key ∈ s.userKeys then none
  else some { s with
    users := Firebase.push s.users key fields
    userKeys := key :: s.userKeys }

end System

/-- The step function of the system. -/
def systemStep (sdk : Firebase.Rendering) (toLowerCase : String → String) (s : System ι) :
    SystemStep ι → Option (System ι)
  | .onDevice d step =>
    (deviceStep toLowerCase (sdk.value s.events) (s.devices d) step).map (s.display d)
  | .save d key =>
    match s.devices d with
    | ⟨.createEventPage form pending, []⟩ :: rest =>
      match saveEvent form with
      -- the validators refuse the form
      | none => some s
      | some write => (s.write key write).map fun s =>
        s.display d (⟨.createEventPage form (pending + 1), []⟩ :: rest)
    | _ => none
  | .signUp d key =>
    match s.devices d with
    | ⟨.signUpPage form pending, []⟩ :: rest =>
      match signUp form key with
      | none => some s
      | some fields => (s.writeUser key fields).map fun s =>
        s.display d (⟨.signUpPage form (pending + 1), []⟩ :: rest)
    | _ => none
  | .confirmDelete d =>
    match s.devices d with
    | ⟨_, ⟨.deleteDialog, some event⟩ :: _⟩ :: _ =>
      some { s with events := Firebase.remove s.events event.id }
    | _ => none

/-! ## What a step does -/

/-- The steps of the system, with what each of them needs and does. -/
inductive SystemEffect (sdk : Firebase.Rendering) (toLowerCase : String → String)
    (s : System ι) : SystemStep ι → System ι → Prop
  /-- The pages of a device change. -/
  | moved (d : ι) (step : DeviceStep) (n : Device)
      (hstep : deviceStep toLowerCase (sdk.value s.events) (s.devices d) step = some n) :
      SystemEffect sdk toLowerCase s (.onDevice d step) (s.display d n)
  /-- The validators refuse the form of `CreateEventPage`. -/
  | refused (d : ι) (key : String) (form : Form) (pending : ℕ) (rest : Device)
      (hdevice : s.devices d = ⟨.createEventPage form pending, []⟩ :: rest)
      (hvalid : form.validate = false) : SystemEffect sdk toLowerCase s (.save d key) s
  /-- A form in edit mode is saved. -/
  | edited (d : ι) (key : String) (form : Form) (pending : ℕ) (rest : Device) (id : String)
      (data : List (Dyn × Dyn))
      (hdevice : s.devices d = ⟨.createEventPage form pending, []⟩ :: rest)
      (hvalid : form.validate = true) (hedited : form.edited = some (id, data)) :
      SystemEffect sdk toLowerCase s (.save d key)
        (System.display { s with events := Firebase.update s.events id form.eventData } d
          (⟨.createEventPage form (pending + 1), []⟩ :: rest))
  /-- A form in create mode is saved. -/
  | created (d : ι) (key : String) (form : Form) (pending : ℕ) (rest : Device)
      (hdevice : s.devices d = ⟨.createEventPage form pending, []⟩ :: rest)
      (hvalid : form.validate = true) (hedited : form.edited = none) (hfresh : key ∉ s.eventKeys) :
      SystemEffect sdk toLowerCase s (.save d key)
        (System.display { s with
            events := Firebase.push s.events key form.eventData
            eventKeys := key :: s.eventKeys } d
          (⟨.createEventPage form (pending + 1), []⟩ :: rest))
  /-- `SignUpPage` refuses its form. -/
  | refusedSignUp (d : ι) (key : String) (form : SignUpForm) (pending : ℕ) (rest : Device)
      (hdevice : s.devices d = ⟨.signUpPage form pending, []⟩ :: rest)
      (haccepted : form.accepted = false) : SystemEffect sdk toLowerCase s (.signUp d key) s
  /-- The record of a sign-up is written. -/
  | signedUp (d : ι) (key : String) (form : SignUpForm) (pending : ℕ) (rest : Device)
      (hdevice : s.devices d = ⟨.signUpPage form pending, []⟩ :: rest)
      (haccepted : form.accepted = true) (hfresh : key ∉ s.userKeys) :
      SystemEffect sdk toLowerCase s (.signUp d key)
        (System.display { s with
            users := Firebase.push s.users key (form.user key).toMap
            userKeys := key :: s.userKeys } d
          (⟨.signUpPage form (pending + 1), []⟩ :: rest))
  /-- A delete is confirmed. -/
  | deleted (d : ι) (screen : Screen) (event : Event) (popups : List Popup) (rest : Device)
      (hdevice : s.devices d = ⟨screen, ⟨.deleteDialog, some event⟩ :: popups⟩ :: rest) :
      SystemEffect sdk toLowerCase s (.confirmDelete d)
        { s with events := Firebase.remove s.events event.id }

variable {sdk : Firebase.Rendering} {toLowerCase : String → String} {s s' : System ι}
  {l : SystemStep ι}

theorem systemEffect_of_step (h : systemStep sdk toLowerCase s l = some s') :
    SystemEffect sdk toLowerCase s l s' := by
  cases l with
  | onDevice d step =>
    obtain ⟨n, hn, rfl⟩ := Option.map_eq_some_iff.mp h
    exact .moved d step n hn
  | save d key =>
    simp only [systemStep] at h
    split at h
    · next form pending rest hdevice =>
      unfold saveEvent at h
      by_cases hvalid : form.validate = true
      · rw [if_pos hvalid] at h
        cases hedited : form.edited with
        | none =>
          -- create mode: the key must be fresh
          simp only [hedited, System.write] at h
          split at h
          · simp at h
          · next hfresh =>
            obtain rfl := Option.some.inj h
            exact .created d key form pending rest hdevice hvalid hedited hfresh
        | some event =>
          obtain ⟨id, data⟩ := event
          simp only [hedited, System.write] at h
          obtain rfl := Option.some.inj h
          exact .edited d key form pending rest id data hdevice hvalid hedited
      · rw [if_neg hvalid] at h
        obtain rfl := Option.some.inj h
        exact .refused d key form pending rest hdevice (by simpa using hvalid)
    · simp at h
  | signUp d key =>
    simp only [systemStep] at h
    split at h
    · next form pending rest hdevice =>
      rw [form.signUp_eq] at h
      cases haccepted : form.accepted with
      | false =>
        rw [haccepted] at h
        obtain rfl := Option.some.inj h
        exact .refusedSignUp d key form pending rest hdevice haccepted
      | true =>
        simp only [haccepted, ↓reduceIte, System.writeUser] at h
        split at h
        · simp at h
        · next hfresh =>
          obtain rfl := Option.some.inj h
          exact .signedUp d key form pending rest hdevice haccepted hfresh
    · simp at h
  | confirmDelete d =>
    simp only [systemStep] at h
    split at h
    · next screen event popups rest hdevice =>
      obtain rfl := Option.some.inj h
      exact .deleted d screen event popups rest hdevice
    · simp at h

/-! ## What handlers keep -/

/-- Every page satisfies `P` and every overlay satisfies `Q`. -/
def Device.Forall (P : Screen → Prop) (Q : Popup → Prop) (n : Device) : Prop :=
  ∀ page ∈ n, P page.route ∧ ∀ popup ∈ page.overlays, Q popup

/-- What holds of the pages that are opened, and stays true when an item of a bottom bar is
selected, holds of all pages after a handler; and what holds of the overlays that are opened holds
of all overlays. -/
theorem forall_performAll {P : Screen → Prop} {Q : Popup → Prop} {n : Device} {screen : Screen}
    (card : Option Event) (hopened : ∀ r, P (.opened card r))
    (hselect : ∀ r, P (screen.withRoute r)) (hpresent : ∀ overlay, Q ⟨overlay, card⟩)
    (h : n.Forall P Q) (ops : Ops) :
    Device.Forall P Q (n.performAll (ops.map (screen.lift card))) := by
  induction ops generalizing n with
  | nil => exact h
  | cons op ops ih =>
    refine ih ?_
    cases op with
    | push r => exact List.forall_mem_cons.mpr ⟨⟨hopened r, by simp⟩, h⟩
    | pushReplacement r =>
      -- the page on top is gone
      exact List.forall_mem_cons.mpr
        ⟨⟨hopened r, by simp⟩, fun page hpage => h page (List.mem_of_mem_tail hpage)⟩
    | pop =>
      rcases n with _ | ⟨⟨route, _ | ⟨popup, popups⟩⟩, rest⟩
      · exact h
      · exact (List.forall_mem_cons.mp h).2
      · obtain ⟨⟨hroute, hpopups⟩, hrest⟩ := List.forall_mem_cons.mp h
        exact List.forall_mem_cons.mpr ⟨⟨hroute, (List.forall_mem_cons.mp hpopups).2⟩, hrest⟩
    | present overlay =>
      cases n with
      | nil => exact h
      | cons top rest =>
        obtain ⟨⟨hroute, hpopups⟩, hrest⟩ := List.forall_mem_cons.mp h
        exact List.forall_mem_cons.mpr
          ⟨⟨hroute, List.forall_mem_cons.mpr ⟨hpresent overlay, hpopups⟩⟩, hrest⟩
    | setState r =>
      cases n with
      | nil => exact h
      | cons top rest =>
        obtain ⟨⟨-, hpopups⟩, hrest⟩ := List.forall_mem_cons.mp h
        exact List.forall_mem_cons.mpr ⟨⟨hselect r, hpopups⟩, hrest⟩

/-! ## The stacks without their data -/

/-- The stack of a device without the data of its pages. -/
def Device.stack (n : Device) : Navigator Route Overlay := n.outline Screen.route Popup.overlay

theorem outline_lift (screen : Screen) (card : Option Event) (op : NavOp Route Overlay) :
    (screen.lift card op).outline Screen.route Popup.overlay = op := by
  cases op <;> simp [Screen.lift, NavOp.outline]

theorem deviceHandler_eq_some {top : Entry Screen Popup} {touch : Touch}
    {ops : List (NavOp Screen Popup)} (h : deviceHandler toLowerCase top touch = some ops) :
    top.route.offersTouch toLowerCase touch = true ∧
      ∃ ops', handler (top.outline Screen.route Popup.overlay) touch.tap = some ops' ∧
        ops = ops'.map (top.route.lift touch.card) := by
  unfold deviceHandler at h
  split at h
  · next hoffers =>
    obtain ⟨ops', hops', rfl⟩ := Option.map_eq_some_iff.mp h
    exact ⟨hoffers, ops', hops', rfl⟩
  · simp at h

theorem handler_of_deviceHandler {top : Entry Screen Popup} {touch : Touch}
    {ops : List (NavOp Screen Popup)} (h : deviceHandler toLowerCase top touch = some ops) :
    handler (top.outline Screen.route Popup.overlay) touch.tap =
      some (ops.map (NavOp.outline Screen.route Popup.overlay)) := by
  obtain ⟨-, ops', hops', rfl⟩ := deviceHandler_eq_some h
  have hlift : NavOp.outline Screen.route Popup.overlay ∘ top.route.lift touch.card = id :=
    funext (outline_lift top.route touch.card)
  rw [hops', List.map_map, hlift, List.map_id]

theorem stack_receiveAt (index : ℕ) (snapshot : AsyncSnapshot) (n : Device) :
    (receiveAt index snapshot n).stack = n.stack := by
  induction n generalizing index with
  | nil => cases index <;> rfl
  | cons top rest ih =>
    cases index with
    | zero =>
      show Entry.outline _ _ _ :: _ = Entry.outline _ _ _ :: _
      rw [Entry.outline, top.route.route_receive]
      rfl
    | succ index => exact congrArg (Entry.outline _ _ top :: ·) (ih index)

/-- What a step of the device does to its stack. -/
def DeviceStep.navSteps : DeviceStep → List (NavStep Tap)
  | navigate step => [step.map Touch.tap]
  | search _ => [.tap .closeOverlay]
  | _ => []

theorem stack_of_deviceStep {value : Dyn} {n n' : Device} {step : DeviceStep}
    (h : deviceStep toLowerCase value n step = some n') :
    LTS.run (navStep handler) n.stack step.navSteps = some n'.stack := by
  cases step with
  | navigate step =>
    rw [DeviceStep.navSteps, LTS.run_singleton]
    exact navStep_outline (fun _ _ _ hops => handler_of_deviceHandler hops) h
  | deliver index =>
    obtain rfl := Option.some.inj h
    exact congrArg some (stack_receiveAt _ _ n).symm
  | streamError index text =>
    obtain rfl := Option.some.inj h
    exact congrArg some (stack_receiveAt _ _ n).symm
  | _ =>
    cases deviceEffect_of_step h
    rfl

/-- What a step of the system does to the stack of the device. -/
def SystemStep.navSteps (d : ι) : SystemStep ι → List (NavStep Tap)
  | onDevice d' step => if d' = d then step.navSteps else []
  | _ => []

theorem stack_of_systemStep (d : ι) (h : systemStep sdk toLowerCase s l = some s') :
    LTS.run (navStep handler) (s.devices d).stack (l.navSteps d) = some (s'.devices d).stack := by
  -- a write changes nothing but the number of pending writes
  have hwrite {n : Device} (d' : ι) (hn : n.stack = (s.devices d').stack) :
      (Function.update s.devices d' n d).stack = (s.devices d).stack := by
    by_cases hd : d = d'
    · subst hd
      rw [Function.update_self, hn]
    · rw [Function.update_of_ne hd]
  cases systemEffect_of_step h with
  | moved d' step n hstep =>
    simp only [SystemStep.navSteps, System.display]
    by_cases hd : d' = d
    · subst hd
      rw [if_pos rfl, Function.update_self]
      exact stack_of_deviceStep hstep
    · rw [if_neg hd, Function.update_of_ne (Ne.symm hd)]
      rfl
  | refused => rfl
  | refusedSignUp => rfl
  | deleted => rfl
  | edited d' key form pending rest id data hdevice =>
    exact congrArg some (hwrite d' (by rw [hdevice]; rfl)).symm
  | created d' key form pending rest hdevice =>
    exact congrArg some (hwrite d' (by rw [hdevice]; rfl)).symm
  | signedUp d' key form pending rest hdevice =>
    exact congrArg some (hwrite d' (by rw [hdevice]; rfl)).symm

variable {events users : Firebase.Node} {past : List String} {ls : List (SystemStep ι)}

theorem run_stack (d : ι)
    (hrun : LTS.run (systemStep sdk toLowerCase) (System.initial events users past) ls = some s) :
    LTS.run (navStep handler) launched (ls.flatMap (SystemStep.navSteps d)) =
      some (s.devices d).stack :=
  LTS.run_flatMap (f := fun s : System ι => (s.devices d).stack)
    (fun _ _ _ hstep => stack_of_systemStep d hstep) hrun

theorem wellStacked_of_systemRun (d : ι)
    (hrun : LTS.run (systemStep sdk toLowerCase) (System.initial events users past) ls = some s) :
    WellStacked (s.devices d).stack :=
  wellStacked_of_run (run_stack d hrun)

/-- In every run of the system, the stack of a device is what the handlers of `Navigation` make of
the taps and back steps on this device alone, and so it is well-stacked. -/
theorem stack_of_run (sdk : Firebase.Rendering) (toLowerCase : String → String)
    (events users : Firebase.Node) (past : List String) (ls : List (SystemStep ι))
    (s : System ι) (d : ι)
    (hrun : LTS.run (systemStep sdk toLowerCase) (System.initial events users past) ls = some s) :
    LTS.run (navStep handler) launched (ls.flatMap (SystemStep.navSteps d)) =
        some (s.devices d).stack ∧ WellStacked (s.devices d).stack :=
  ⟨run_stack d hrun, wellStacked_of_systemRun d hrun⟩

end System

/-- The steps of a device that logs in. -/
def loginSteps {ι : Type} (d : ι) : List (SystemStep ι) :=
  [.onDevice d (.enter ⟨"your@email.com", "secret"⟩),
    .onDevice d (.navigate (.tap ⟨.login, none⟩))]

/-- The steps of a device that logs in, opens its dashboard and sees the events. -/
def dashboardSteps {ι : Type} (d : ι) : List (SystemStep ι) :=
  loginSteps d ++ [.onDevice d (.navigate (.tap ⟨.openDrawer, none⟩)),
    .onDevice d (.navigate (.tap ⟨.drawerItem .dashboard, none⟩)), .onDevice d (.deliver 0)]

/-- A device logs in and opens its dashboard, while the other one types and stays where it is. -/
theorem stack_of_run_dashboard :
    ∃ (ls : List (SystemStep (Fin 2))) (s : System (Fin 2)),
      LTS.run (systemStep .maps String.toLower) (System.initial .empty .empty []) ls = some s ∧
      LTS.run (navStep handler) launched
        [.tap .login, .tap .openDrawer, .tap (.drawerItem .dashboard)] =
          some (s.devices 0).stack := by
  let ls : List (SystemStep (Fin 2)) := .onDevice 1 (.enter ⟨"", "secret"⟩) :: dashboardSteps 0
  have hsome : (LTS.run (systemStep .maps String.toLower)
      (System.initial .empty .empty []) ls).isSome = true := by
    decide +kernel
  obtain ⟨s, hs⟩ := Option.isSome_iff_exists.mp hsome
  exact ⟨ls, s, hs, (stack_of_run .maps String.toLower .empty .empty [] ls s 0 hs).1⟩

end EventManager.App

import EventManager.Firebase.Database
import Mathlib.Data.List.Infix
import Mathlib.Data.Rat.Init

/-!
# The app: events, the dashboard and the forms

`models/event.dart`, the part of `dashboard_page.dart` that reads the `events` node and opens the
edit form, the body of `EventPage.dart` with the cards of its two tabs, the form of
`CreatEventPage.dart` and the form of `signup_page.dart`. The definitions carry the names of the
source.

`Event.progress` is a `double` in the source. Here it is the exact quotient, and the thresholds it
is compared with are exact decimals.

`Event.fromMap` and `initState` read values of type `dynamic`, so they may throw. What a submit
button writes is the value of `saveEvent` or `signUp`; `none` says that the validators, or an
explicit check of the handler, refuse the form.
-/

namespace EventManager.App

open Dart

/-! ## `models/event.dart` -/

/-- `Event`. -/
structure Event where
  id : String
  title : String
  date : String
  time : String
  location : String
  attendees : Int64
  capacity : Int64
  image : String
  deriving DecidableEq, Repr

/-- The image path used where none is given. -/
def defaultImage : String := "assets/images/logo.png"

/-- `data[name] is int ? data[name] : (data[name] ?? 0)`, cast to `int`. -/
def countOf (data : List (Dyn × Dyn)) (name : String) : Except DartError Int64 :=
  (if (Dyn.get data name).isInt then Dyn.get data name
    else (Dyn.get data name).ifNull (.int 0)).asInt

/-- `Event.fromMap`. -/
def Event.fromMap (id : String) (data : List (Dyn × Dyn)) : Except DartError Event := do
  let title ← ((Dyn.get data "title").ifNull (.string "")).asString
  let date ← ((Dyn.get data "date").ifNull (.string "")).asString
  let time ← ((Dyn.get data "time").ifNull (.string "")).asString
  let location ← ((Dyn.get data "location").ifNull (.string "")).asString
  let attendees ← countOf data "attendees"
  let capacity ← countOf data "capacity"
  let image ← ((Dyn.get data "image").ifNull (.string defaultImage)).asString
  return ⟨id, title, date, time, location, attendees, capacity, image⟩

/-- What a decoded event says about its record. -/
theorem Event.fromMap_eq_ok_iff {id : String} {data : List (Dyn × Dyn)} {e : Event} :
    Event.fromMap id data = .ok e ↔ e.id = id ∧
      ((Dyn.get data "title").ifNull (.string "")).asString = .ok e.title ∧
      ((Dyn.get data "date").ifNull (.string "")).asString = .ok e.date ∧
      ((Dyn.get data "time").ifNull (.string "")).asString = .ok e.time ∧
      ((Dyn.get data "location").ifNull (.string "")).asString = .ok e.location ∧
      countOf data "attendees" = .ok e.attendees ∧ countOf data "capacity" = .ok e.capacity ∧
      ((Dyn.get data "image").ifNull (.string defaultImage)).asString = .ok e.image := by
  simp only [Event.fromMap, bind_eq_ok_iff]
  constructor
  · rintro ⟨_, htitle, _, hdate, _, htime, _, hlocation, _, hattendees, _, hcapacity, _, himage, h⟩
    obtain rfl := Except.ok.inj h
    exact ⟨rfl, htitle, hdate, htime, hlocation, hattendees, hcapacity, himage⟩
  · rintro ⟨rfl, htitle, hdate, htime, hlocation, hattendees, hcapacity, himage⟩
    exact ⟨_, htitle, _, hdate, _, htime, _, hlocation, _, hattendees, _, hcapacity, _, himage, rfl⟩

theorem Event.id_of_fromMap {id : String} {data : List (Dyn × Dyn)} {e : Event}
    (h : Event.fromMap id data = .ok e) : e.id = id :=
  (Event.fromMap_eq_ok_iff.mp h).1

/-- `progress`, as an exact quotient. -/
def Event.progress (event : Event) : ℚ :=
  if event.capacity = 0 then 0 else (event.attendees.toInt : ℚ) / event.capacity.toInt

/-! ## `dashboard_page.dart` -/

/-- The events the dashboard builds from the value of the `events` node. -/
def dashboardEvents (value : Dyn) : Except DartError (List Event) := do
  let data ← value.asMap
  data.mapM fun item => do
    let id ← item.1.asString
    let record ← item.2.asMap
    Event.fromMap id record

/-- What the body of `DashboardScreen` shows. -/
inductive DashboardBody
  | loading
  | cards (events : List Event)
  deriving DecidableEq

/-- The body of `DashboardScreen` for what its stream has delivered so far. -/
def dashboardBody (delivered : Option Dyn) : Except DartError DashboardBody :=
  match delivered with
  | none => return .loading
  -- a node without children
  | some .null => return .loading
  | some value => return .cards (← dashboardEvents value)

/-- `totalEvents`, `totalAttendees` and `totalCapacity`, which both event lists compute. -/
structure Totals where
  totalEvents : Int64
  totalAttendees : Int64
  totalCapacity : Int64
  deriving DecidableEq, Repr

/-- The totals of `DashboardScreen`, from the events it has built. -/
def dashboardTotals (events : List Event) : Totals where
  totalEvents := Int64.ofNat events.length
  totalAttendees := events.foldl (fun sum e => sum + e.attendees) 0
  totalCapacity := events.foldl (fun sum e => sum + e.capacity) 0

/-- `activeEvents`, the figure "Active". -/
def activeEvents (events : List Event) : ℕ :=
  (events.filter fun e => decide (e.progress < 1)).length

/-- The events and the totals that `DashboardScreen` builds from the value of the `events` node. -/
def dashboardView (value : Dyn) : Except DartError (Totals × List Event) := do
  let events ← dashboardEvents value
  return (dashboardTotals events, events)

/-- The `eventData` that the Edit button passes to `CreateEventPage`. -/
def editData (event : Event) : List (Dyn × Dyn) :=
  [(.string "title", .string event.title),
    (.string "date", .string event.date),
    (.string "time", .string event.time),
    (.string "location", .string event.location),
    (.string "capacity", .int event.capacity),
    (.string "attendees", .int event.attendees),
    (.string "image", .string event.image)]

/-! ## `EventPage.dart` -/

/-- What a `StreamBuilder` was last given. -/
inductive AsyncSnapshot
  | waiting
  | error (text : String)
  | data (value : Dyn)

/-- What the body of `EventPage` shows. -/
inductive EventPageBody
  | error (text : String)
  | loading
  | noEvents
  | shown (totals : Totals) (events : List Event)
  deriving DecidableEq

/-- The figure "Spots Left". -/
def Totals.spotsLeft (totals : Totals) : Int64 := totals.totalCapacity - totals.totalAttendees

/-- `text.contains(pattern)`. -/
def contains (text pattern : String) : Bool := decide (pattern.toList <:+: text.toList)

/-- `(record[name] as int?) ?? 0`, on a record that was not decoded. -/
def rawCount (record : Dyn) (name : String) : Except DartError Int64 := do
  let value ← record.index name
  let count ← value.asIntOrNull
  return count.getD 0

/-- `items.fold<int>(0, (sum, item) => sum + ((item.value[name] as int?) ?? 0))`. -/
def rawTotal (items : List (Dyn × Dyn)) (name : String) : Except DartError Int64 :=
  items.foldlM (fun sum item => return sum + (← rawCount item.2 name)) 0

/-- `Event.fromMap(item.key, item.value)`. -/
def itemEvent (item : Dyn × Dyn) : Except DartError Event := do
  let id ← item.1.asString
  let record ← item.2.asMap
  Event.fromMap id record

/-- The totals and the events that `EventPage` builds from the items it shows. -/
def eventPageView (items : List (Dyn × Dyn)) : Except DartError (Totals × List Event) := do
  let totalAttendees ← rawTotal items "attendees"
  let totalCapacity ← rawTotal items "capacity"
  let events ← items.mapM itemEvent
  return (⟨Int64.ofNat items.length, totalAttendees, totalCapacity⟩, events)

section Search

-- `String.toLowerCase`
variable (toLowerCase : String → String)

/-- Whether the search filter keeps the item. -/
def matchesQuery (query : String) (item : Dyn × Dyn) : Except DartError Bool := do
  -- `item.value['title']?.toString().toLowerCase() ?? ''`
  let title := match ← item.2.index "title" with
    | .null => ""
    | title => toLowerCase title.text
  return contains title (toLowerCase query)

/-- `items.where((item) => ...).toList()`. -/
def searchItems (query : String) : List (Dyn × Dyn) → Except DartError (List (Dyn × Dyn))
  | [] => return []
  | item :: items => do
    let keep ← matchesQuery toLowerCase query item
    let rest ← searchItems query items
    return if keep then item :: rest else rest

/-- The items that `EventPage` shows for a search query. -/
def shownItems (query : String) (data : List (Dyn × Dyn)) :
    Except DartError (List (Dyn × Dyn)) :=
  if query.isEmpty then return data else searchItems toLowerCase query data

/-- The body of `EventPage` for a search query. -/
def eventPageBody (query : String) : AsyncSnapshot → Except DartError EventPageBody
  | .error text => return .error s!"Error: {text}"
  | .waiting => return .loading
  | .data .null => return .noEvents
  | .data value => do
    let data ← value.asMap
    let items ← shownItems toLowerCase query data
    let (totals, events) ← eventPageView items
    return .shown totals events

end Search

/-! ### The cards of the two tabs -/

/-- The colours of a progress bar. -/
inductive Colors
  | red
  | orange
  deriving DecidableEq, Repr

/-- `value.clamp(lower, upper)`. -/
def clamp (value lower upper : ℚ) : ℚ :=
  if value < lower then lower else if upper < value then upper else value

/-- The `color` of the progress bars. -/
def progressColor (event : Event) : Colors := if 9 / 10 ≤ event.progress then .red else .orange

/-- The badge that a card shows over its image: `if (event.progress >= 0.9)`. -/
def progressBadge (text : String) (event : Event) : Option String :=
  if 9 / 10 ≤ event.progress then some text else none

/-- The card of an event in the list, `EventCard` of `event_card.dart`. -/
structure EventCard where
  image : String
  badge : Option String
  title : String
  date : String
  time : String
  location : String
  capacity : String
  value : ℚ
  color : Colors
  deriving DecidableEq

/-- `EventCard.build`. -/
def eventCard (event : Event) : EventCard where
  image := event.image
  badge := progressBadge "Almost Full" event
  title := event.title
  date := event.date
  time := event.time
  location := event.location
  capacity := s!"Capacity: {event.attendees}/{event.capacity}"
  value := clamp event.progress 0 1
  color := progressColor event

/-- The card of an event in the grid. -/
structure GridEventCard where
  image : String
  badge : Option String
  title : String
  location : String
  value : ℚ
  color : Colors
  capacity : String
  deriving DecidableEq

/-- `_buildGridEventCard`. -/
def buildGridEventCard (event : Event) : GridEventCard where
  image := event.image
  badge := progressBadge "FULL" event
  title := event.title
  location := event.location
  value := clamp event.progress 0 1
  color := progressColor event
  capacity := s!"{event.attendees}/{event.capacity}"

/-- What a tab of `EventPage` shows. -/
inductive TabView (α : Type)
  | message (text : String)
  | cards (cards : List α)

/-- A tab of `EventPage`, with the function that builds its cards. -/
def tabView {α : Type} (build : Event → α) (events : List Event) : TabView α :=
  if events.isEmpty then .message "No events found" else .cards (events.map build)

/-- The tab "List View". -/
def listView (events : List Event) : TabView EventCard := tabView eventCard events

/-- The tab "Grid View". -/
def gridView (events : List Event) : TabView GridEventCard := tabView buildGridEventCard events

/-- The cards of a tab. -/
def TabView.shown {α : Type} : TabView α → List α
  | message _ => []
  | cards shown => shown

/-! ## `CreatEventPage.dart` -/

/-- The text fields of the form. -/
inductive Field
  | title
  | date
  | time
  | location
  | capacity
  | image
  deriving DecidableEq, Repr

namespace Field

/-- All text fields, in the order of the form. -/
def all : List Field := [title, date, time, location, capacity, image]

/-- The label that the validator reads. -/
def label : Field → String
  | title => "Event Title"
  | date => "Date"
  | time => "Time"
  | location => "Location"
  | capacity => "Capacity"
  | image => "Image Path"

/-- The name of the field in a record. -/
def name : Field → String
  | title => "title"
  | date => "date"
  | time => "time"
  | location => "location"
  | capacity => "capacity"
  | image => "image"

theorem mem_all (f : Field) : f ∈ all := by cases f <;> decide

end Field

/-- `_CreateEventPageState`: the event being edited, if `_isEditMode` is set, and the texts of the
controllers. -/
structure Form where
  edited : Option (String × List (Dyn × Dyn))
  text : Field → String

/-- `initState`, with the two parameters of the widget. -/
def initState (eventId : Option String) (eventData : Option (List (Dyn × Dyn))) :
    Except DartError Form :=
  match eventId, eventData with
  | some id, some data => do
    let title ← ((Dyn.get data "title").ifNull (.string "")).asString
    let date ← ((Dyn.get data "date").ifNull (.string "")).asString
    let time ← ((Dyn.get data "time").ifNull (.string "")).asString
    let location ← ((Dyn.get data "location").ifNull (.string "")).asString
    -- `?.toString() ?? ''`
    let capacity := match Dyn.get data "capacity" with
      | .null => ""
      | value => value.text
    let image ← ((Dyn.get data "image").ifNull (.string defaultImage)).asString
    return ⟨some (id, data), fun
      | .title => title
      | .date => date
      | .time => time
      | .location => location
      | .capacity => capacity
      | .image => image⟩
  | _, _ => return ⟨none, fun _ => ""⟩

/-- The `validator` of a text field. -/
def validator (label : String) (value : String) : Option String :=
  if value.isEmpty then some "Required field"
  else if label == "Capacity" && (int.tryParse value).isNone then some "Enter a valid number"
  else none

/-- `_formKey.currentState!.validate()`. -/
def Form.validate (form : Form) : Bool :=
  Field.all.all fun f => (validator f.label (form.text f)).isNone

/-- The `eventData` that `_saveEvent` writes. -/
def Form.eventData (form : Form) : List (String × Dyn) :=
  [("title", .string (form.text .title)),
    ("date", .string (form.text .date)),
    ("time", .string (form.text .time)),
    ("location", .string (form.text .location)),
    -- the form has no field for the attendees
    ("attendees", match form.edited with
      | some (_, data) => (Dyn.get data "attendees").ifNull (.int 0)
      | none => .int 0),
    -- `int.tryParse(capacityController.text) ?? 0`
    ("capacity", .int ((int.tryParse (form.text .capacity)).getD 0)),
    ("image", .string
      (if (form.text .image).isEmpty then defaultImage else form.text .image))]

/-- A write to the `events` node. -/
inductive Write
  | update (id : String) (fields : List (String × Dyn))
  | push (fields : List (String × Dyn))

/-- `_saveEvent`, up to its first `await`. -/
def saveEvent (form : Form) : Option Write :=
  if form.validate then
    match form.edited with
    | some (id, _) => some (.update id form.eventData)
    | none => some (.push form.eventData)
  else none

/-- Typing into a text field. -/
def Form.type (form : Form) (field : Field) (text : String) : Form :=
  { form with text := Function.update form.text field text }

/-! ## `signup_page.dart` -/

/-- The two values of the role buttons. -/
inductive Role
  | attendee
  | organizer
  deriving DecidableEq, Repr

/-- The text of a role. -/
def Role.text : Role → String
  | attendee => "Attendee"
  | organizer => "Organizer"

/-- `User` of `models/user.dart`. -/
structure User where
  id : String
  name : String
  email : String
  role : Role
  age : Int64
  deriving DecidableEq, Repr

/-- `User.toMap`. -/
def User.toMap (user : User) : List (String × Dyn) :=
  [("id", .string user.id),
    ("name", .string user.name),
    ("email", .string user.email),
    ("role", .string user.role.text),
    ("age", .int user.age)]

/-- `_SignUpPageState`, with the value of `ageSlider.toInt()`. -/
structure SignUpForm where
  name : String
  email : String
  password : String
  selectedRole : Role
  acceptTerms : Bool
  age : Int64
  deriving DecidableEq, Repr

/-- The `length` of a Dart string, which counts UTF-16 code units. -/
def utf16Length (s : String) : ℕ :=
  s.toList.foldl (fun n c => if c.val ≤ 0xFFFF then n + 1 else n + 2) 0

/-- The validator of the field "Full Name". -/
def validateName (value : String) : Option String :=
  if value.isEmpty then some "Name is required" else none

/-- The validator of the field "Email". -/
def validateEmail (value : String) : Option String :=
  if value.isEmpty then some "Email is required"
  else if !value.toList.contains '@' || !value.toList.contains '.' then some "Enter a valid email"
  else none

/-- The validator of the field "Password". -/
def validatePassword (value : String) : Option String :=
  if value.isEmpty then some "Please enter password"
  else if utf16Length value < 6 then some "Password must be at least 6 characters"
  else none

/-- `_formKey.currentState!.validate()`. -/
def SignUpForm.validate (form : SignUpForm) : Bool :=
  (validateName form.name).isNone && (validateEmail form.email).isNone &&
    (validatePassword form.password).isNone

/-- `_signUp`, up to its first `await`, with the key that `push` yields: the record written under
that key. -/
def signUp (form : SignUpForm) (newId : String) : Option (List (String × Dyn)) :=
  if form.validate then
    -- otherwise a message asks for the terms
    if form.acceptTerms then
      some (User.toMap ⟨newId, form.name, form.email, form.selectedRole, form.age⟩)
    else none
  else none

end EventManager.App

import EventManager.App.Model

/-!
# The form as a codec for events

The record format of an event is written out three times: in the map that the Edit button passes to
the form, in the map that the form writes, and in `Event.fromMap`. Between the first two the values
go through the text controllers of the form.

What an accepted form writes decodes to the event that was typed. An untouched form of an event,
if the validators accept it, writes a record of the same event.

## Main results

* `initState_editData`: the form that the Edit button opens;
* `value_of_unchanged`: a field the user has not changed is written back as it was opened;
* `fromMap_writeFields_eventData`: what an accepted form writes decodes to its event;
* `form_codec`: the round trips of a new event and of an untouched one.
-/

namespace EventManager.App

open Dart

/-! ## The edit form of an event -/

/-- The value of a form field in an event. -/
def Event.value (event : Event) : Field → Dyn
  | .title => .string event.title
  | .date => .string event.date
  | .time => .string event.time
  | .location => .string event.location
  | .capacity => .int event.capacity
  | .image => .string event.image

/-- The texts with which the form for an event is opened. -/
def Event.texts (event : Event) (field : Field) : String := (event.value field).text

theorem get_editData (event : Event) (field : Field) :
    Dyn.get (editData event) field.name = event.value field := by
  cases field <;> rfl

theorem get_editData_attendees (event : Event) :
    Dyn.get (editData event) "attendees" = .int event.attendees := rfl

/-- The map that the Edit button passes decodes to the event. -/
theorem fromMap_editData (event : Event) : Event.fromMap event.id (editData event) = .ok event := rfl

/-- The form that the Edit button opens. -/
theorem initState_editData (event : Event) :
    initState (some event.id) (some (editData event)) =
      .ok ⟨some (event.id, editData event), event.texts⟩ := by
  have htitle := get_editData event .title
  have hdate := get_editData event .date
  have htime := get_editData event .time
  have hlocation := get_editData event .location
  have hcapacity := get_editData event .capacity
  have himage := get_editData event .image
  simp only [Field.name, Event.value] at htitle hdate htime hlocation hcapacity himage
  -- the controllers get these texts one by one
  have htexts : event.texts = fun
      | .title => event.title
      | .date => event.date
      | .time => event.time
      | .location => event.location
      | .capacity => (Dyn.int event.capacity).text
      | .image => event.image := by
    ext field
    cases field <;> simp [Event.texts, Event.value, Dyn.text]
  simp only [initState, htitle, hdate, htime, hlocation, hcapacity, himage, htexts]
  rfl

/-! ## What a form writes -/

/-- The value the user has given to a field: the text, and for the capacity the number it stands
for. -/
def Form.value (form : Form) : Field → Dyn
  | .capacity => .int ((int.tryParse (form.text .capacity)).getD 0)
  | field => .string (form.text field)

/-- Whether the user has changed the text of a field since the form was opened. -/
def Form.changed (form : Form) (field : Field) : Bool :=
  match form.edited with
  | some (id, data) =>
    match initState (some id) (some data) with
    | .ok opened => form.text field != opened.text field
    | .error _ => true
  | none => !(form.text field).isEmpty

theorem nonempty_of_validate {form : Form} (h : form.validate = true) (field : Field) :
    (form.text field).isEmpty = false := by
  -- every validator refuses the empty text
  have hfield := List.all_eq_true.mp h field field.mem_all
  unfold validator at hfield
  split at hfield
  · simp at hfield
  · next hempty => simpa using hempty

theorem nodup_names_eventData (form : Form) : (form.eventData.map Prod.fst).Nodup := by
  show ["title", "date", "time", "location", "attendees", "capacity", "image"].Nodup
  decide

/-- An accepted form writes the user's value to each field. In particular the default image is
never taken. -/
theorem mem_eventData {form : Form} (h : form.validate = true) (field : Field) :
    (field.name, form.value field) ∈ form.eventData := by
  have himage := nonempty_of_validate h .image
  cases field <;> simp [Form.eventData, Form.value, Field.name, himage]

/-- A field that the user has not changed is written back as it was opened. For the capacity this
is the round trip of a number through its text. -/
theorem value_of_unchanged {form : Form} {event : Event} {field : Field}
    (h : form.edited = some (event.id, editData event)) (hsame : form.changed field = false) :
    form.value field = Dyn.get (editData event) field.name := by
  have htext : form.text field = event.texts field := by
    simpa [Form.changed, h, initState_editData] using hsame
  rw [get_editData]
  cases field with
  | capacity =>
    -- the text is the decimal form of the opened number, and is read back as that number
    have hcapacity : form.text .capacity = toString event.capacity := by
      rw [htext, Event.texts, Event.value, Dyn.text_int]
    simp [Form.value, Event.value, hcapacity, int.tryParse_toString]
  | _ => simp [Form.value, Event.value, htext, Event.texts, Dyn.text]

/-! ## The event a form writes -/

/-- The number of attendees that the form writes. -/
def Form.attendees (form : Form) : Dyn :=
  match form.edited with
  | some (_, data) => (Dyn.get data "attendees").ifNull (.int 0)
  | none => .int 0

/-- The event with the texts of the form. -/
def Form.event (form : Form) (id : String) (attendees : Int64) : Event where
  id := id
  title := form.text .title
  date := form.text .date
  time := form.text .time
  location := form.text .location
  attendees := attendees
  capacity := (int.tryParse (form.text .capacity)).getD 0
  image := form.text .image

theorem attendees_of_editData {form : Form} {event : Event}
    (h : form.edited = some (event.id, editData event)) : form.attendees = .int event.attendees := by
  simp [Form.attendees, h, get_editData_attendees]

theorem attendees_mem_eventData (form : Form) :
    ("attendees", form.attendees) ∈ form.eventData := by
  cases h : form.edited <;> simp [Form.eventData, Form.attendees, h]

/-- What an accepted form writes decodes to its event, whatever it is written over. -/
theorem fromMap_writeFields_eventData {form : Form} {id : String} {attendees : Int64}
    (es : List (Dyn × Dyn)) (h : form.validate = true)
    (hattendees : form.attendees = .int attendees) :
    Event.fromMap id (Firebase.writeFields es form.eventData) = .ok (form.event id attendees) := by
  have hget (field : Field) :
      Dyn.get (Firebase.writeFields es form.eventData) field.name = form.value field :=
    Firebase.get_writeFields_of_mem (nodup_names_eventData form) (mem_eventData h field)
  have hcount : Dyn.get (Firebase.writeFields es form.eventData) "attendees" = .int attendees := by
    refine Firebase.get_writeFields_of_mem (nodup_names_eventData form) ?_
    rw [← hattendees]
    exact attendees_mem_eventData form
  have htitle := hget .title
  have hdate := hget .date
  have htime := hget .time
  have hlocation := hget .location
  have hcapacity := hget .capacity
  have himage := hget .image
  simp only [Field.name, Form.value] at htitle hdate htime hlocation hcapacity himage
  refine Event.fromMap_eq_ok_iff.mpr ⟨rfl, ?_, ?_, ?_, ?_, ?_, ?_, ?_⟩
  · rw [htitle]; rfl
  · rw [hdate]; rfl
  · rw [htime]; rfl
  · rw [hlocation]; rfl
  · rw [countOf, hcount]; rfl
  · rw [countOf, hcapacity]; rfl
  · rw [himage]; rfl

/-- The event of an untouched form is the one it was opened for. For the capacity this is the round
trip of a number through its text. -/
theorem event_texts (e : Event) (edited : Option (String × List (Dyn × Dyn))) :
    Form.event ⟨edited, e.texts⟩ e.id e.attendees = e := by
  simp [Form.event, Event.texts, Event.value, Dyn.text, int.tryParse_toString]

/-- An accepted form has a number in its capacity field. -/
theorem exists_capacity_of_validate {form : Form} (h : form.validate = true) :
    ∃ capacity, int.tryParse (form.text .capacity) = some capacity := by
  have hfield := List.all_eq_true.mp h .capacity (Field.mem_all .capacity)
  have hempty := nonempty_of_validate h .capacity
  cases hparse : int.tryParse (form.text .capacity) with
  | some capacity => exact ⟨capacity, rfl⟩
  | none => simp [validator, Field.label, hempty, hparse] at hfield

/-- The names of the fields that a save writes. -/
def fieldNames : List String :=
  ["title", "date", "time", "location", "attendees", "capacity", "image"]

/-- In create mode, what an accepted form writes decodes to the event that was typed, with no
attendees and the number that the capacity text stands for; the defaults for the capacity and the
image are never taken. In edit mode, an untouched form of a stored event is refused and writes
nothing, or it leaves a record that decodes to the same event, and leaves the entries of the record
under other keys as they are. -/
theorem form_codec :
    (∀ (form : Form) (node : Firebase.Node) (key : String), form.edited = none →
      form.validate = true →
      ∃ capacity fields es, int.tryParse (form.text .capacity) = some capacity ∧
        (form.text .image).isEmpty = false ∧ saveEvent form = some (.push fields) ∧
        (Firebase.push node key fields).lookup key = some (.map es) ∧
        Event.fromMap key es = .ok ⟨key, form.text .title, form.text .date, form.text .time,
          form.text .location, 0, capacity, form.text .image⟩) ∧
    ∀ (node : Firebase.Node) (id : String) (es : List (Dyn × Dyn)) (e : Event),
      node.lookup id = some (.map es) → Event.fromMap id es = .ok e →
      ∃ form, initState (some e.id) (some (editData e)) = .ok form ∧
        (form.validate = false ∧ saveEvent form = none ∨
        ∃ fields es', saveEvent form = some (.update id fields) ∧
          (Firebase.update node id fields).lookup id = some (.map es') ∧
          Event.fromMap id es' = .ok e ∧
          (es'.filter fun entry => Firebase.otherKey fieldNames entry.1) =
            es.filter fun entry => Firebase.otherKey fieldNames entry.1) := by
  refine ⟨?_, ?_⟩
  · intro form node key hedited hvalid
    obtain ⟨capacity, hcapacity⟩ := exists_capacity_of_validate hvalid
    have hattendees : form.attendees = .int 0 := by simp [Form.attendees, hedited]
    refine ⟨capacity, form.eventData, Firebase.writeFields [] form.eventData, hcapacity,
      nonempty_of_validate hvalid .image, ?_, LinkedHashMap.lookup_set_self, ?_⟩
    · simp [saveEvent, hvalid, hedited]
    · rw [fromMap_writeFields_eventData [] hvalid hattendees, Form.event, hcapacity]
      rfl
  · intro node id es e hlookup hdecode
    obtain rfl := Event.id_of_fromMap hdecode
    refine ⟨_, initState_editData e, ?_⟩
    by_cases hvalid : Form.validate ⟨some (e.id, editData e), e.texts⟩ = true
    · refine Or.inr ⟨_, _, by rw [saveEvent, if_pos hvalid], LinkedHashMap.lookup_set_self, ?_, ?_⟩
      · rw [fromMap_writeFields_eventData _ hvalid (attendees_of_editData rfl), event_texts]
      · rw [Firebase.filter_writeFields _ (List.Subset.refl fieldNames), Firebase.child, hlookup]
        rfl
    · refine Or.inl ⟨by simpa using hvalid, by rw [saveEvent, if_neg hvalid]⟩

/-- A new event for forty people is pushed as it was typed. The untouched form of an event with a
negative capacity and an entry of its own is accepted and leaves a record of that event. -/
theorem form_codec_negativeCapacity :
    (∃ form fields es, form.edited = none ∧ form.text .capacity = "40" ∧
      saveEvent form = some (.push fields) ∧
      (Firebase.push .empty "e1" fields).lookup "e1" = some (.map es) ∧
      Event.fromMap "e1" es =
        .ok ⟨"e1", "Summit", "May 3", "15:30", "Muscat", 0, 40, "images/summit.png"⟩) ∧
    ∃ (es : List (Dyn × Dyn)) (e : Event), Event.fromMap "e1" es = .ok e ∧ e.capacity = -300 ∧
      ∃ form fields es', initState (some "e1") (some (editData e)) = .ok form ∧
        saveEvent form = some (.update "e1" fields) ∧
        (Firebase.update (LinkedHashMap.empty.set "e1" (.map es)) "e1" fields).lookup "e1" =
          some (.map es') ∧ Event.fromMap "e1" es' = .ok e := by
  constructor
  · -- the texts are typed as an event would show them
    let event : Event := ⟨"e1", "Summit", "May 3", "15:30", "Muscat", 0, 40, "images/summit.png"⟩
    let form : Form := ⟨none, event.texts⟩
    have hvalid : form.validate = true := by decide +kernel
    have hforty : int.tryParse (form.text .capacity) = some 40 := by decide +kernel
    obtain ⟨capacity, fields, es, hcapacity, -, hsave, hlookup, hdecode⟩ :=
      form_codec.1 form .empty "e1" rfl hvalid
    obtain rfl : (40 : Int64) = capacity := Option.some.inj (hforty.symm.trans hcapacity)
    exact ⟨form, fields, es, rfl, by decide +kernel, hsave, hlookup, hdecode⟩
  · let es : List (Dyn × Dyn) := [(.string "title", .string "Summit"),
      (.string "date", .string "May 3"), (.string "time", .string "15:30"),
      (.string "location", .string "Muscat"), (.string "capacity", .int (-300)),
      (.string "notes", .list [.bool true])]
    let e : Event := ⟨"e1", "Summit", "May 3", "15:30", "Muscat", 0, -300, defaultImage⟩
    have hrecord : Event.fromMap "e1" es = .ok e := rfl
    obtain ⟨form, hform, hsave⟩ := form_codec.2 (LinkedHashMap.empty.set "e1" (.map es)) "e1" es e
      LinkedHashMap.lookup_set_self hrecord
    rcases hsave with ⟨hrefused, -⟩ | ⟨fields, es', hsave, hlookup, hdecode, -⟩
    · -- all six texts are filled in
      have hvalid : (initState (some e.id) (some (editData e))).toOption.any Form.validate =
          true := by
        decide +kernel
      rw [hform] at hvalid
      simp [Except.toOption, hrefused] at hvalid
    · exact ⟨es, e, hrecord, rfl, form, fields, es', hform, hsave, hlookup, hdecode⟩

end EventManager.App

import EventManager.App.Model

/-!
# The two event lists

`EventPage` and `DashboardScreen` list the same events. `DashboardScreen` decodes every record and
adds up the counts of the events; `EventPage` filters the records by the search query, adds up the
counts in the records themselves and then decodes them. The two ways to read a count accept the
same values, so the lists and the totals agree, and a record that one page cannot read makes the
other one fail as well.

## Main results

* `eventPageView_eq_ok_iff`: `EventPage` shows a list of items iff all of them decode, and its totals
  are those of the events;
* `bodies_agree`: the two pages agree on every map of events;
* `lists_all_iff_countsReadable`: with texts of the right type, both pages list all records iff every
  count is absent or an integer.
-/

namespace EventManager.App

open Dart

variable {es : List (Dyn × Dyn)} {id name : String} {record : Dyn} {item : Dyn × Dyn}
  {items : List (Dyn × Dyn)} {e : Event} {events : List Event} {totals : Totals}

/-! ## Counts -/

/-- The two ways to read a count of a record that is a map. -/
theorem rawCount_map : rawCount (.map es) name = countOf es name := by
  simp only [rawCount, countOf, Dyn.index, bind, Except.bind]
  cases Dyn.get es name <;> rfl

/-- A count can be read iff the record is a map and the count is absent or an integer. -/
theorem exists_rawCount_iff :
    (∃ count, rawCount record name = .ok count) ↔
      ∃ es, record = .map es ∧ (Dyn.get es name).isIntOrNull = true := by
  cases record with
  | map es =>
    simp only [rawCount_map, countOf, Dyn.map.injEq, exists_eq_left']
    cases Dyn.get es name <;> simp [Dyn.isInt, Dyn.ifNull, Dyn.asInt, Dyn.isIntOrNull]
  | _ => simp [rawCount, Dyn.index, bind, Except.bind]

/-- A count that cannot be read throws a type error, unless the record has no operator `[]`. -/
theorem rawCount_eq_error {err : DartError} (h : rawCount record name = .error err) :
    err = if record.hasIndex then .typeError else .noSuchMethod := by
  cases record with
  | map es =>
    simp only [rawCount_map, countOf] at h
    cases hget : Dyn.get es name <;>
      simp_all [Dyn.isInt, Dyn.ifNull, Dyn.asInt, Dyn.hasIndex]
  | _ => simp_all [rawCount, Dyn.index, bind, Except.bind, Dyn.hasIndex]

theorem rawTotal_eq_of_forall₂ {count : Event → Int64}
    (h : List.Forall₂ (fun item e => rawCount item.2 name = .ok (count e)) items events) :
    rawTotal items name = .ok (events.foldl (fun sum e => sum + count e) 0) := by
  unfold rawTotal
  generalize (0 : Int64) = start
  induction h generalizing start with
  | nil => rfl
  | cons hcount _ ih =>
    rw [List.foldlM_cons, hcount]
    exact ih _

/-- The first element with a property comes first, or after a head with which the search goes on. -/
theorem exists_first_cons_iff {α : Type} {P Q : α → Prop} {x : α} {xs : List α} :
    (∃ before y after, x :: xs = before ++ y :: after ∧ P y ∧ ∀ z ∈ before, Q z) ↔
      P x ∨ (Q x ∧ ∃ before y after, xs = before ++ y :: after ∧ P y ∧ ∀ z ∈ before, Q z) := by
  constructor
  · rintro ⟨before, y, after, hsplit, hy, hbefore⟩
    cases before with
    | nil =>
      obtain ⟨rfl, -⟩ := List.cons.inj hsplit
      exact Or.inl hy
    | cons z before =>
      obtain ⟨rfl, rfl⟩ := List.cons.inj hsplit
      obtain ⟨hz, hbefore⟩ := List.forall_mem_cons.mp hbefore
      exact Or.inr ⟨hz, before, y, after, rfl, hy, hbefore⟩
  · rintro (hx | ⟨hx, before, y, after, rfl, hy, hbefore⟩)
    · exact ⟨[], x, xs, rfl, hx, by simp⟩
    · exact ⟨x :: before, y, after, rfl, hy, List.forall_mem_cons.mpr ⟨hx, hbefore⟩⟩

/-- A total fails at the first count that cannot be read. -/
theorem rawTotal_eq_error_iff {err : DartError} :
    rawTotal items name = .error err ↔
      ∃ before item after, items = before ++ item :: after ∧
        rawCount item.2 name = .error err ∧ ∀ i ∈ before, ∃ c, rawCount i.2 name = .ok c := by
  unfold rawTotal
  generalize (0 : Int64) = start
  induction items generalizing start with
  | nil => simp [pure, Except.pure]
  | cons item items ih =>
    rw [List.foldlM_cons, exists_first_cons_iff]
    cases hcount : rawCount item.2 name with
    | error err' => simp [bind, Except.bind]
    | ok c =>
      rw [or_iff_right (by simp), and_iff_right ⟨c, rfl⟩]
      exact ih (start + c)

theorem exists_rawCount_of_rawTotal {total : Int64} (h : rawTotal items name = .ok total) :
    ∀ i ∈ items, ∃ c, rawCount i.2 name = .ok c := by
  unfold rawTotal at h
  generalize (0 : Int64) = start at h
  induction items generalizing start with
  | nil => simp
  | cons item items ih =>
    rw [List.foldlM_cons, bind_eq_ok_iff] at h
    obtain ⟨sum, hsum, h⟩ := h
    obtain ⟨c, hc, -⟩ := bind_eq_ok_iff.mp hsum
    exact List.forall_mem_cons.mpr ⟨⟨c, hc⟩, ih sum h⟩

/-! ## Decoding -/

/-- The computation throws nothing but type errors. -/
def OnlyTypeErrors {α : Type} (x : Except DartError α) : Prop :=
  ∀ err, x = .error err → err = .typeError

theorem OnlyTypeErrors.bind {α β : Type} {x : Except DartError α} {f : α → Except DartError β}
    (hx : OnlyTypeErrors x) (hf : ∀ a, OnlyTypeErrors (f a)) : OnlyTypeErrors (x >>= f) := by
  cases x with
  | error err => exact fun err' h => hx err' (by simpa [Bind.bind, Except.bind] using h)
  | ok a => exact hf a

theorem onlyTypeErrors_pure {α : Type} (a : α) :
    OnlyTypeErrors (pure a : Except DartError α) := by
  intro err h
  simp [pure, Except.pure] at h

theorem onlyTypeErrors_asString (value : Dyn) : OnlyTypeErrors value.asString := by
  intro err h
  cases value <;> simp_all [Dyn.asString]

theorem onlyTypeErrors_asInt (value : Dyn) : OnlyTypeErrors value.asInt := by
  intro err h
  cases value <;> simp_all [Dyn.asInt]

theorem onlyTypeErrors_asMap (value : Dyn) : OnlyTypeErrors value.asMap := by
  intro err h
  cases value <;> simp_all [Dyn.asMap]

theorem onlyTypeErrors_fromMap (id : String) (es : List (Dyn × Dyn)) :
    OnlyTypeErrors (Event.fromMap id es) := by
  unfold Event.fromMap
  refine (onlyTypeErrors_asString _).bind fun title => ?_
  refine (onlyTypeErrors_asString _).bind fun date => ?_
  refine (onlyTypeErrors_asString _).bind fun time => ?_
  refine (onlyTypeErrors_asString _).bind fun location => ?_
  refine (onlyTypeErrors_asInt _).bind fun attendees => ?_
  refine (onlyTypeErrors_asInt _).bind fun capacity => ?_
  exact (onlyTypeErrors_asString _).bind fun image => onlyTypeErrors_pure _

theorem onlyTypeErrors_itemEvent (item : Dyn × Dyn) : OnlyTypeErrors (itemEvent item) :=
  (onlyTypeErrors_asString _).bind fun _ => (onlyTypeErrors_asMap _).bind fun _ =>
    onlyTypeErrors_fromMap _ _

theorem onlyTypeErrors_mapM (items : List (Dyn × Dyn)) :
    OnlyTypeErrors (items.mapM itemEvent) := by
  intro err h
  obtain ⟨item, -, herr⟩ := exists_of_mapM_eq_error h
  exact onlyTypeErrors_itemEvent item err herr

/-- An item decodes to an event iff its key is the id and its value a record of the event. -/
theorem itemEvent_eq_ok_iff :
    itemEvent item = .ok e ↔ ∃ es, item = (.string e.id, .map es) ∧ Event.fromMap e.id es = .ok e := by
  obtain ⟨key, record⟩ := item
  constructor
  · intro h
    obtain ⟨id, hid, h⟩ := bind_eq_ok_iff.mp h
    obtain ⟨es, hes, h⟩ := bind_eq_ok_iff.mp h
    obtain rfl := Event.id_of_fromMap h
    refine ⟨es, ?_, h⟩
    cases key <;> cases record <;> simp_all [Dyn.asString, Dyn.asMap]
  · rintro ⟨es, hitem, h⟩
    rw [hitem]
    exact h

/-- The events that a list of keyed records decodes to have the keys as their ids. -/
theorem map_id_of_forall₂ {α : Type} (record : α → Dyn) {entries : List (String × α)}
    (h : List.Forall₂ (fun entry e => itemEvent (.string entry.1, record entry.2) = .ok e)
      entries events) : events.map Event.id = entries.map Prod.fst := by
  have hids : List.Forall₂ (· = ·) (entries.map Prod.fst) (events.map Event.id) := by
    refine List.forall₂_map_left_iff.mpr (List.forall₂_map_right_iff.mpr (h.imp ?_))
    intro entry e he
    obtain ⟨es, hitem, -⟩ := itemEvent_eq_ok_iff.mp he
    exact Dyn.string.inj (Prod.mk.inj hitem).1
  rw [List.forall₂_eq_eq_eq] at hids
  exact hids.symm

/-- The counts of a decoded event are those read from its item. -/
theorem rawCount_of_itemEvent (h : itemEvent item = .ok e) :
    rawCount item.2 "attendees" = .ok e.attendees ∧
      rawCount item.2 "capacity" = .ok e.capacity := by
  obtain ⟨es, rfl, h⟩ := itemEvent_eq_ok_iff.mp h
  obtain ⟨-, -, -, -, -, hattendees, hcapacity, -⟩ := Event.fromMap_eq_ok_iff.mp h
  exact ⟨by rw [rawCount_map, hattendees], by rw [rawCount_map, hcapacity]⟩

theorem exists_asString_ifNull_iff {value : Dyn} {default : String} :
    (∃ s, (value.ifNull (.string default)).asString = .ok s) ↔ value.isStringOrNull = true := by
  cases value <;> simp [Dyn.ifNull, Dyn.asString, Dyn.isStringOrNull]

theorem exists_countOf_iff :
    (∃ count, countOf es name = .ok count) ↔ (Dyn.get es name).isIntOrNull = true := by
  rw [← rawCount_map, exists_rawCount_iff]
  simp

/-- The names of the texts of a record. -/
def textNames : List String := ["title", "date", "time", "location", "image"]

/-- The names of the counts of a record. -/
def countNames : List String := ["attendees", "capacity"]

/-- A record decodes iff each of its texts is absent or a string and each of its counts is absent or
an integer. -/
theorem exists_fromMap_iff :
    (∃ e, Event.fromMap id es = .ok e) ↔
      (∀ name ∈ textNames, (Dyn.get es name).isStringOrNull = true) ∧
        ∀ name ∈ countNames, (Dyn.get es name).isIntOrNull = true := by
  simp only [textNames, countNames, List.forall_mem_cons, List.not_mem_nil, false_implies,
    implies_true, and_true]
  constructor
  · rintro ⟨e, h⟩
    obtain ⟨-, htitle, hdate, htime, hlocation, hattendees, hcapacity, himage⟩ :=
      Event.fromMap_eq_ok_iff.mp h
    exact ⟨⟨exists_asString_ifNull_iff.mp ⟨_, htitle⟩, exists_asString_ifNull_iff.mp ⟨_, hdate⟩,
      exists_asString_ifNull_iff.mp ⟨_, htime⟩, exists_asString_ifNull_iff.mp ⟨_, hlocation⟩,
      exists_asString_ifNull_iff.mp ⟨_, himage⟩⟩, exists_countOf_iff.mp ⟨_, hattendees⟩,
      exists_countOf_iff.mp ⟨_, hcapacity⟩⟩
  · rintro ⟨⟨htitle, hdate, htime, hlocation, himage⟩, hattendees, hcapacity⟩
    obtain ⟨title, htitle⟩ := exists_asString_ifNull_iff.mpr htitle
    obtain ⟨date, hdate⟩ := exists_asString_ifNull_iff.mpr hdate
    obtain ⟨time, htime⟩ := exists_asString_ifNull_iff.mpr htime
    obtain ⟨location, hlocation⟩ := exists_asString_ifNull_iff.mpr hlocation
    obtain ⟨image, himage⟩ := exists_asString_ifNull_iff.mpr himage
    obtain ⟨attendees, hattendees⟩ := exists_countOf_iff.mpr hattendees
    obtain ⟨capacity, hcapacity⟩ := exists_countOf_iff.mpr hcapacity
    exact ⟨⟨id, title, date, time, location, attendees, capacity, image⟩,
      Event.fromMap_eq_ok_iff.mpr ⟨rfl, htitle, hdate, htime, hlocation, hattendees, hcapacity,
        himage⟩⟩

/-! ## The two pages -/

theorem dashboardEvents_map_eq_ok_iff :
    dashboardEvents (.map items) = .ok events ↔
      List.Forall₂ (fun item e => itemEvent item = .ok e) items events :=
  mapM_eq_ok_iff

theorem dashboardBody_map (data : List (Dyn × Dyn)) :
    dashboardBody (some (.map data)) = (do
      let events ← dashboardEvents (.map data)
      return .cards events) := rfl

/-- `EventPage` shows a list of items iff all of them decode, and its totals are those of the
events. -/
theorem eventPageView_eq_ok_iff :
    eventPageView items = .ok (totals, events) ↔
      List.Forall₂ (fun item e => itemEvent item = .ok e) items events ∧
        totals = dashboardTotals events := by
  have htotals (h : List.Forall₂ (fun item e => itemEvent item = .ok e) items events) :
      rawTotal items "attendees" = .ok (dashboardTotals events).totalAttendees ∧
        rawTotal items "capacity" = .ok (dashboardTotals events).totalCapacity :=
    ⟨rawTotal_eq_of_forall₂ (h.imp fun _ _ he => (rawCount_of_itemEvent he).1),
      rawTotal_eq_of_forall₂ (h.imp fun _ _ he => (rawCount_of_itemEvent he).2)⟩
  simp only [eventPageView, bind_eq_ok_iff, mapM_eq_ok_iff]
  constructor
  · rintro ⟨attendees, hattendees, capacity, hcapacity, events', hevents, h⟩
    obtain ⟨htotal, rfl⟩ := Prod.mk.inj (Except.ok.inj h)
    -- the sums over the records are the sums over the events
    obtain ⟨hattendees', hcapacity'⟩ := htotals hevents
    rw [hattendees, Except.ok.injEq] at hattendees'
    rw [hcapacity, Except.ok.injEq] at hcapacity'
    rw [← htotal, hattendees', hcapacity', hevents.length_eq]
    exact ⟨hevents, rfl⟩
  · rintro ⟨hevents, rfl⟩
    obtain ⟨hattendees, hcapacity⟩ := htotals hevents
    refine ⟨_, hattendees, _, hcapacity, events, hevents, ?_⟩
    rw [hevents.length_eq]
    rfl

/-- The two pages show the same list, with the same totals, for the same items. -/
theorem eventPageView_eq_ok_iff_dashboardView :
    eventPageView items = .ok (totals, events) ↔
      dashboardView (.map items) = .ok (totals, events) := by
  rw [eventPageView_eq_ok_iff, dashboardView, bind_eq_ok_iff]
  constructor
  · rintro ⟨hevents, rfl⟩
    exact ⟨events, dashboardEvents_map_eq_ok_iff.mpr hevents, rfl⟩
  · rintro ⟨events', hevents, h⟩
    obtain ⟨rfl, rfl⟩ := Prod.mk.inj (Except.ok.inj h)
    exact ⟨dashboardEvents_map_eq_ok_iff.mp hevents, rfl⟩

/-- The records have an operator `[]` once their attendees could be added up, so what fails then
fails with a type error. -/
theorem onlyTypeErrors_rawTotal_capacity {total : Int64}
    (h : rawTotal items "attendees" = .ok total) :
    OnlyTypeErrors (rawTotal items "capacity") := by
  intro err herr
  obtain ⟨before, item, after, rfl, hitem, -⟩ := rawTotal_eq_error_iff.mp herr
  obtain ⟨count, hcount⟩ := exists_rawCount_of_rawTotal h item (by simp)
  obtain ⟨es, hes, -⟩ := exists_rawCount_iff.mp ⟨count, hcount⟩
  rw [rawCount_eq_error hitem, hes]
  rfl

/-- `EventPage` throws type errors, unless the first record whose attendees cannot be read has no
operator `[]`. -/
theorem eventPageView_eq_error {err : DartError} (h : eventPageView items = .error err) :
    (err = .typeError ∨ err = .noSuchMethod) ∧
      (err = .noSuchMethod ↔ ∃ before item after, items = before ++ item :: after ∧
        item.2.hasIndex = false ∧ ∀ i ∈ before, ∃ c, rawCount i.2 "attendees" = .ok c) := by
  have hscalar {record : Dyn} (hrecord : record.hasIndex = false) :
      rawCount record "attendees" = .error .noSuchMethod := by
    cases record <;> simp_all [Dyn.hasIndex, rawCount, Dyn.index, bind, Except.bind]
  cases hattendees : rawTotal items "attendees" with
  | error err' =>
    -- the first total fails
    have herr : err' = err := by
      simpa [eventPageView, hattendees, bind, Except.bind] using h
    subst herr
    obtain ⟨before, item, after, hitems, hitem, hbefore⟩ := rawTotal_eq_error_iff.mp hattendees
    have hkind := rawCount_eq_error hitem
    refine ⟨by rw [hkind]; split <;> simp, fun hno => ?_, ?_⟩
    · refine ⟨before, item, after, hitems, ?_, hbefore⟩
      rw [hno] at hkind
      by_contra hindex
      rw [if_pos (by simpa using hindex)] at hkind
      simp at hkind
    · rintro ⟨before', item', after', hitems', hindex, hbefore'⟩
      have hno := rawTotal_eq_error_iff.mpr
        ⟨before', item', after', hitems', hscalar hindex, hbefore'⟩
      rw [hattendees, Except.error.injEq] at hno
      exact hno
  | ok total =>
    -- all records are maps, so only type errors are left
    have htype : OnlyTypeErrors (eventPageView items) := by
      rw [eventPageView, hattendees]
      exact (onlyTypeErrors_rawTotal_capacity hattendees).bind fun _ =>
        (onlyTypeErrors_mapM items).bind fun _ => onlyTypeErrors_pure _
    have herr := htype err h
    refine ⟨Or.inl herr, iff_of_false (by simp [herr]) ?_⟩
    rintro ⟨before, item, after, rfl, hindex, -⟩
    obtain ⟨c, hc⟩ := exists_rawCount_of_rawTotal hattendees item (by simp)
    rw [hscalar hindex] at hc
    simp at hc

section Bodies

variable (toLowerCase : String → String)

theorem eventPageBody_map (query : String) (data : List (Dyn × Dyn)) :
    eventPageBody toLowerCase query (.data (.map data)) = (do
      let items ← shownItems toLowerCase query data
      let (totals, events) ← eventPageView items
      return .shown totals events) := rfl

/-- Without a search query all items are shown. -/
theorem eventPageBody_map_empty (data : List (Dyn × Dyn)) :
    eventPageBody toLowerCase "" (.data (.map data)) =
      (eventPageView data).map fun view => .shown view.1 view.2 := by
  have hitems : shownItems toLowerCase "" data = .ok data := rfl
  rw [eventPageBody_map, hitems]
  show (eventPageView data >>= _) = _
  cases eventPageView data <;> rfl

theorem onlyTypeErrors_dashboardView (items : List (Dyn × Dyn)) :
    OnlyTypeErrors (dashboardView (.map items)) :=
  OnlyTypeErrors.bind (onlyTypeErrors_mapM items) fun _ => onlyTypeErrors_pure _

/-- For every map of events, with any keys and any records, `EventPage` without a search query and
`DashboardScreen` show the same events in the same order with the same totals, or both of them
fail. `DashboardScreen` fails with a type error, and so does `EventPage` unless the first record
whose attendees it cannot read is `null`, a `bool` or a number: such a value has no operator `[]`. -/
theorem bodies_agree (data : List (Dyn × Dyn)) :
    (∃ totals events,
      eventPageBody toLowerCase "" (.data (.map data)) = .ok (.shown totals events) ∧
        dashboardView (.map data) = .ok (totals, events)) ∨
    ∃ err, eventPageBody toLowerCase "" (.data (.map data)) = .error err ∧
      dashboardView (.map data) = .error .typeError ∧
      (err = .typeError ∨ err = .noSuchMethod) ∧
      (err = .noSuchMethod ↔ ∃ before item after, data = before ++ item :: after ∧
        item.2.hasIndex = false ∧ ∀ i ∈ before, ∃ c, rawCount i.2 "attendees" = .ok c) := by
  rw [eventPageBody_map_empty]
  cases hview : eventPageView data with
  | ok view =>
    obtain ⟨totals, events⟩ := view
    exact Or.inl ⟨totals, events, rfl, eventPageView_eq_ok_iff_dashboardView.mp hview⟩
  | error err =>
    refine Or.inr ⟨err, rfl, ?_, eventPageView_eq_error hview⟩
    cases hdashboard : dashboardView (.map data) with
    | error err' => rw [onlyTypeErrors_dashboardView data err' hdashboard]
    | ok view =>
      -- a list that the dashboard shows is shown by `EventPage`, too
      rw [eventPageView_eq_ok_iff_dashboardView.mpr hdashboard] at hview
      simp at hview

/-- With the number 5 in the place of a record, `DashboardScreen` throws a type error at the cast to
a map and `EventPage` calls the operator `[]` that an `int` does not have. -/
theorem numberRecord_no_typeError :
    ¬ ∀ (toLowerCase : String → String) (data : List (Dyn × Dyn)),
      (∃ totals events,
        eventPageBody toLowerCase "" (.data (.map data)) = .ok (.shown totals events) ∧
          dashboardView (.map data) = .ok (totals, events)) ∨
      (eventPageBody toLowerCase "" (.data (.map data)) = .error .typeError ∧
        dashboardView (.map data) = .error .typeError) := by
  intro hclaim
  have hbody : eventPageBody String.toLower "" (.data (.map [(.string "e1", .int 5)])) =
      .error .noSuchMethod := rfl
  rcases hclaim String.toLower [(.string "e1", .int 5)] with ⟨_, _, hok, -⟩ | ⟨herr, -⟩
  · rw [hbody] at hok
    simp at hok
  · rw [hbody] at herr
    simp at herr

/-! ### Badly typed counts -/

/-- The value of the `events` node with the given ids and records. -/
def eventsMap (records : List (String × List (Dyn × Dyn))) : List (Dyn × Dyn) :=
  records.map fun r => (.string r.1, .map r.2)

/-- If every record decodes, the items of the node decode to a list of events with their ids. -/
theorem exists_forall₂_itemEvent {records : List (String × List (Dyn × Dyn))}
    (h : ∀ r ∈ records, ∃ e, Event.fromMap r.1 r.2 = .ok e) :
    ∃ events, List.Forall₂ (fun item e => itemEvent item = .ok e) (eventsMap records) events ∧
      events.map Event.id = records.map Prod.fst := by
  obtain ⟨events, hevents⟩ := exists_forall₂_of_forall h
  exact ⟨events, List.forall₂_map_left_iff.mpr hevents, map_id_of_forall₂ .map hevents⟩

/-- For records whose texts are each absent or a string, every record decodes and both pages list
all records exactly if every count of every record is absent or an integer. -/
theorem lists_all_iff_countsReadable (records : List (String × List (Dyn × Dyn)))
    (htexts : ∀ r ∈ records, ∀ name ∈ textNames, (Dyn.get r.2 name).isStringOrNull = true) :
    ((∀ r ∈ records, ∃ e, Event.fromMap r.1 r.2 = .ok e) ∧
      (∃ totals events,
        eventPageBody toLowerCase "" (.data (.map (eventsMap records))) =
          .ok (.shown totals events) ∧ events.map Event.id = records.map Prod.fst) ∧
      ∃ events, dashboardBody (some (.map (eventsMap records))) = .ok (.cards events) ∧
        events.map Event.id = records.map Prod.fst) ↔
    ∀ r ∈ records, ∀ name ∈ countNames, (Dyn.get r.2 name).isIntOrNull = true := by
  have hdecodes : (∀ r ∈ records, ∃ e, Event.fromMap r.1 r.2 = .ok e) ↔
      ∀ r ∈ records, ∀ name ∈ countNames, (Dyn.get r.2 name).isIntOrNull = true := by
    refine forall₂_congr fun r hr => ?_
    rw [exists_fromMap_iff, and_iff_right (htexts r hr)]
  rw [← hdecodes]
  refine and_iff_left_of_imp fun h => ?_
  -- what decodes is listed by both pages
  obtain ⟨events, hevents, hids⟩ := exists_forall₂_itemEvent h
  refine ⟨⟨dashboardTotals events, events, ?_, hids⟩, events, ?_, hids⟩
  · rw [eventPageBody_map_empty, eventPageView_eq_ok_iff.mpr ⟨hevents, rfl⟩]
    rfl
  · rw [dashboardBody_map, dashboardEvents_map_eq_ok_iff.mpr hevents]
    rfl

/-- Two records, one without a number of attendees, are listed by both pages. -/
theorem lists_all_iff_countsReadable_absent :
    ∃ totals events, eventPageBody String.toLower "" (.data (.map (eventsMap
      [("e1", [(.string "title", .string "Summit"), (.string "capacity", .int 300)]),
        ("e2", [(.string "attendees", .int 12)])]))) = .ok (.shown totals events) ∧
      events.map Event.id = ["e1", "e2"] :=
  ((lists_all_iff_countsReadable String.toLower _ (by decide)).mpr (by decide)).2.1

/-- A number of attendees that is a string makes `Event.fromMap` throw. -/
theorem textCount_throws :
    ¬ ∀ (toLowerCase : String → String) (records : List (String × List (Dyn × Dyn))),
      (∀ r ∈ records, ∀ name ∈ textNames, (Dyn.get r.2 name).isStringOrNull = true) →
      (∀ r ∈ records, ∃ e, Event.fromMap r.1 r.2 = .ok e) ∧
      (∃ totals events,
        eventPageBody toLowerCase "" (.data (.map (eventsMap records))) =
          .ok (.shown totals events) ∧ events.map Event.id = records.map Prod.fst) ∧
      ∃ events, dashboardBody (some (.map (eventsMap records))) = .ok (.cards events) ∧
        events.map Event.id = records.map Prod.fst := by
  intro hclaim
  let record : List (Dyn × Dyn) :=
    [(.string "title", .string "Summit"), (.string "attendees", .string "12")]
  obtain ⟨e, he⟩ := (hclaim String.toLower [("e1", record)] (by decide)).1 ("e1", record) (by simp)
  have hthrows : Event.fromMap "e1" record = .error .typeError := rfl
  rw [hthrows] at he
  simp at he

end Bodies

end EventManager.App

import EventManager.App.EventLists

/-!
# Searching for events

The search filter of `EventPage` reads the title in the records, before they are decoded, and the
totals are those of the records that are left. On records that decode this is the same as decoding
first: the page shows the events whose title contains the query, ignoring case, with their totals.

`String.toLowerCase` is a parameter. All that is needed of it is that it maps the empty string to
itself, since a record without a title has the empty title.

## Main results

* `searchItems_of_forall₂`: filtering the records and decoding them commute;
* `search_refines`: what `EventPage` shows for every query, and that a query that contains another
  one shows a sublist.
-/

namespace EventManager.App

open Dart

variable {toLowerCase : String → String} {query : String} {item : Dyn × Dyn} {e : Event}
  {data items : List (Dyn × Dyn)} {events : List Event}

/-- Whether the title contains the query, ignoring case. -/
def Event.titleContains (toLowerCase : String → String) (query : String) (e : Event) : Bool :=
  contains (toLowerCase e.title) (toLowerCase query)

theorem contains_empty (text : String) : contains text "" = true := by
  simp [contains]

/-- Containment is transitive. -/
theorem contains_trans {text pattern pattern' : String} (h : contains text pattern = true)
    (h' : contains pattern pattern' = true) : contains text pattern' = true := by
  simp only [contains, decide_eq_true_eq] at h h' ⊢
  exact h'.trans h

/-- On a record that decodes, the filter reads the title of the event. -/
theorem matchesQuery_of_itemEvent (hlower : toLowerCase "" = "") (h : itemEvent item = .ok e) :
    matchesQuery toLowerCase query item = .ok (e.titleContains toLowerCase query) := by
  obtain ⟨es, rfl, h⟩ := itemEvent_eq_ok_iff.mp h
  obtain ⟨-, htitle, -⟩ := Event.fromMap_eq_ok_iff.mp h
  simp only [matchesQuery, Dyn.index, Event.titleContains]
  cases hget : Dyn.get es "title" with
  | null =>
    -- an absent title is the empty one
    simp only [hget, Dyn.ifNull, Dyn.asString, Except.ok.injEq] at htitle
    rw [← htitle, hlower]
    simp [bind, Except.bind, pure, Except.pure]
  | string title =>
    simp only [hget, Dyn.ifNull, Dyn.asString, Except.ok.injEq] at htitle
    simp [← htitle, Dyn.text, bind, Except.bind, pure, Except.pure]
  | _ => simp [hget, Dyn.ifNull, Dyn.asString] at htitle

/-- Filtering the records and decoding them commute. -/
theorem searchItems_of_forall₂ (hlower : toLowerCase "" = "")
    (h : List.Forall₂ (fun item e => itemEvent item = .ok e) data events) :
    ∃ items, searchItems toLowerCase query data = .ok items ∧
      List.Forall₂ (fun item e => itemEvent item = .ok e) items
        (events.filter (Event.titleContains toLowerCase query)) := by
  induction h with
  | nil => exact ⟨[], rfl, .nil⟩
  | @cons item e data events hitem _ ih =>
    obtain ⟨items, hitems, hall⟩ := ih
    rw [searchItems, matchesQuery_of_itemEvent hlower hitem, hitems, List.filter_cons]
    cases hkeep : e.titleContains toLowerCase query with
    | true => exact ⟨item :: items, rfl, .cons hitem hall⟩
    | false => exact ⟨items, rfl, hall⟩

theorem shownItems_of_forall₂ (hlower : toLowerCase "" = "")
    (h : List.Forall₂ (fun item e => itemEvent item = .ok e) data events) (query : String) :
    ∃ items, shownItems toLowerCase query data = .ok items ∧
      List.Forall₂ (fun item e => itemEvent item = .ok e) items
        (events.filter (Event.titleContains toLowerCase query)) := by
  by_cases hquery : query = ""
  · -- every title contains the empty query
    have hall : ∀ e ∈ events, e.titleContains toLowerCase query = true := by
      intro e _
      rw [hquery, Event.titleContains, hlower, contains_empty]
    refine ⟨data, by rw [hquery]; rfl, ?_⟩
    rwa [List.filter_eq_self.mpr hall]
  · rw [shownItems, if_neg (by simpa using hquery)]
    exact searchItems_of_forall₂ hlower h

/-- What `EventPage` shows for a query, if all records decode. -/
theorem eventPageBody_of_forall₂ (hlower : toLowerCase "" = "")
    (h : List.Forall₂ (fun item e => itemEvent item = .ok e) data events) (query : String) :
    eventPageBody toLowerCase query (.data (.map data)) =
      .ok (.shown (dashboardTotals (events.filter (Event.titleContains toLowerCase query)))
        (events.filter (Event.titleContains toLowerCase query))) := by
  obtain ⟨items, hitems, hall⟩ := shownItems_of_forall₂ hlower h query
  rw [eventPageBody_map, hitems]
  show (eventPageView items >>= _) = _
  rw [eventPageView_eq_ok_iff.mpr ⟨hall, rfl⟩]
  rfl

theorem totalAttendees_eq (events : List Event) :
    (dashboardTotals events).totalAttendees = int.sum (events.map Event.attendees) := by
  simp [dashboardTotals, int.sum, List.foldl_map]

theorem totalCapacity_eq (events : List Event) :
    (dashboardTotals events).totalCapacity = int.sum (events.map Event.capacity) := by
  simp [dashboardTotals, int.sum, List.foldl_map]

theorem spotsLeft_eq (events : List Event) :
    (dashboardTotals events).spotsLeft =
      int.sum (events.map fun e => e.capacity - e.attendees) := by
  rw [Totals.spotsLeft, totalAttendees_eq, totalCapacity_eq, int.sum_sub_sum]

/-- For every map of events whose records all decode, there is a list of events, the one shown for
the empty query, such that `EventPage` shows for every query the events of that list whose title
contains the query, ignoring case. Its three figures are the number of the events shown, the sum of
their attendees and the sum of their free places. A query that contains another one, ignoring case,
shows a sublist of what the other one shows. -/
theorem search_refines (hlower : toLowerCase "" = "") (data : List (Dyn × Dyn))
    (hdecode : ∀ item ∈ data, ∃ e, itemEvent item = .ok e) :
    ∃ events,
      (∃ totals, eventPageBody toLowerCase "" (.data (.map data)) = .ok (.shown totals events)) ∧
      (∀ q, ∃ totals shown, shown = events.filter (Event.titleContains toLowerCase q) ∧
        eventPageBody toLowerCase q (.data (.map data)) = .ok (.shown totals shown) ∧
        totals.totalEvents = Int64.ofNat shown.length ∧
        totals.totalAttendees = int.sum (shown.map Event.attendees) ∧
        totals.spotsLeft = int.sum (shown.map fun e => e.capacity - e.attendees)) ∧
      ∀ q r, contains (toLowerCase r) (toLowerCase q) = true →
        ∀ totals shown totals' shown',
          eventPageBody toLowerCase r (.data (.map data)) = .ok (.shown totals shown) →
          eventPageBody toLowerCase q (.data (.map data)) = .ok (.shown totals' shown') →
          shown.Sublist shown' := by
  obtain ⟨events, hevents⟩ := exists_forall₂_of_forall hdecode
  have hbody := eventPageBody_of_forall₂ hlower hevents
  refine ⟨events, ⟨dashboardTotals events, ?_⟩, ?_, ?_⟩
  · rw [eventPageBody_map_empty, eventPageView_eq_ok_iff.mpr ⟨hevents, rfl⟩]
    rfl
  · intro q
    exact ⟨_, _, rfl, hbody q, rfl, totalAttendees_eq _, spotsLeft_eq _⟩
  · intro q r hcontains totals shown totals' shown' hr hq
    rw [hbody, Except.ok.injEq, EventPageBody.shown.injEq] at hr hq
    rw [← hr.2, ← hq.2]
    -- a title that contains `r` contains `q`
    exact List.monotone_filter_right events fun e he => contains_trans he hcontains

/-- Of three events two have titles that contain "expo" in some spelling. The query "ExpO 2" shows a
sublist of what the query "expo" shows. -/
theorem search_refines_expo :
    ∃ data totals totals' shown shown',
      eventPageBody String.toLower "ExpO 2" (.data (.map data)) = .ok (.shown totals shown) ∧
      eventPageBody String.toLower "expo" (.data (.map data)) = .ok (.shown totals' shown') ∧
      shown'.length = 2 ∧ shown.Sublist shown' := by
  let event (title : String) : List (Dyn × Dyn) := [(.string "title", .string title)]
  let data := eventsMap [("e1", event "EXPO 2026"), ("e2", event "Summit"), ("e3", event "Art Expo")]
  have hdecode : ∀ item ∈ data, ∃ e, itemEvent item = .ok e := by
    simp only [data, eventsMap, List.map_cons, List.map_nil, List.forall_mem_cons]
    exact ⟨⟨_, rfl⟩, ⟨_, rfl⟩, ⟨_, rfl⟩, by simp⟩
  have hlower : String.toLower "" = "" := by decide +kernel
  obtain ⟨events, -, hshown, hsub⟩ := search_refines hlower data hdecode
  obtain ⟨totals, shown, -, hr, -⟩ := hshown "ExpO 2"
  obtain ⟨totals', shown', -, hq, -⟩ := hshown "expo"
  have hcount : (eventPageBody String.toLower "expo" (.data (.map data))).toOption.any
      (fun body => match body with
        | .shown _ shown => shown.length == 2
        | _ => false) = true := by
    decide +kernel
  rw [hq] at hcount
  exact ⟨data, totals, totals', shown, shown', hr, hq, eq_of_beq hcount,
    hsub "expo" "ExpO 2" (by decide +kernel) totals shown totals' shown' hr hq⟩

end EventManager.App

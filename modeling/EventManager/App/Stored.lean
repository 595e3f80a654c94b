import EventManager.App.Codec
import EventManager.App.Filtering
import Mathlib.Data.List.Perm.Basic

/-!
# The stored events

The `events` node as a partial function from ids to events: `storedEvent node id` is what the record
under the id decodes to. The writes of the app are updates of this function at one id, and the
pages show its values, in the order in which the SDK delivers the children.

## Main results

* `storedEvent_update`, `storedEvent_push`, `storedEvent_remove`: what the writes do to the stored
  events;
* `storedEvents_perm_of_save`, `storedEvents_perm_of_delete`: the same for the list of the stored
  events, up to its order;
* `dashboardBody_of_isMapOf`, `eventPageBody_of_isMapOf`: what the two pages show for the map of a
  node whose records all decode;
* `storedEvent_of_dashboardBody`, `storedEvent_of_eventPageBody`: every card of the two pages is a
  stored event, whatever the SDK delivers.
-/

namespace EventManager.App

open Dart

variable {node : Firebase.Node} {id key : String} {e : Event} {events : List Event} {form : Form}
  {attendees : Int64}

/-- The event that the record under the id decodes to. -/
def storedEvent (node : Firebase.Node) (id : String) : Option Event :=
  match node.lookup id with
  | some (.map es) => (Event.fromMap id es).toOption
  | _ => none

/-- Every record of the node decodes. -/
def AllDecode (node : Firebase.Node) : Prop := ∀ id ∈ node.keys, ∃ e, storedEvent node id = some e

theorem storedEvent_eq_some_iff :
    storedEvent node id = some e ↔
      ∃ es, node.lookup id = some (.map es) ∧ Event.fromMap id es = .ok e := by
  unfold storedEvent
  split
  · next es hes =>
    rw [hes]
    simp only [Option.some.injEq, Dyn.map.injEq, exists_eq_left']
    cases Event.fromMap id es <;> simp [Except.toOption]
  · next hno =>
    refine iff_of_false (by simp) ?_
    rintro ⟨es, hes, -⟩
    exact hno es hes

theorem id_of_storedEvent (h : storedEvent node id = some e) : e.id = id := by
  obtain ⟨es, -, hdecode⟩ := storedEvent_eq_some_iff.mp h
  exact Event.id_of_fromMap hdecode

theorem mem_keys_of_storedEvent (h : storedEvent node id = some e) : id ∈ node.keys := by
  obtain ⟨es, hes, -⟩ := storedEvent_eq_some_iff.mp h
  exact LinkedHashMap.mem_keys_iff.mpr ⟨_, hes⟩

/-- An entry of the node decodes to an event as an item of the delivered map. -/
theorem storedEvent_eq_some_iff_itemEvent {entry : String × Dyn} (h : entry ∈ node.entries) :
    storedEvent node entry.1 = some e ↔ itemEvent (.string entry.1, entry.2) = .ok e := by
  rw [storedEvent_eq_some_iff, itemEvent_eq_ok_iff, LinkedHashMap.lookup_eq_some_iff.mpr h]
  constructor
  · rintro ⟨es, hes, hdecode⟩
    have hid := Event.id_of_fromMap hdecode
    rw [hid, Option.some.inj hes]
    exact ⟨es, rfl, hdecode⟩
  · rintro ⟨es, hitem, hdecode⟩
    simp only [Prod.mk.injEq, Dyn.string.injEq] at hitem
    rw [hitem.1, hitem.2]
    exact ⟨es, rfl, hdecode⟩

/-! ## Writes -/

/-- What is stored under an id depends on its record only. -/
theorem storedEvent_congr {node' : Firebase.Node} (h : node'.lookup id = node.lookup id) :
    storedEvent node' id = storedEvent node id := by
  rw [storedEvent, h, storedEvent]

/-- Writing an accepted form over any record of the id stores the event of the form. -/
theorem storedEvent_set_writeFields (node : Firebase.Node) (id : String) (es : List (Dyn × Dyn))
    (hvalid : form.validate = true) (hattendees : form.attendees = .int attendees) :
    storedEvent (node.set id (.map (Firebase.writeFields es form.eventData))) =
      Function.update (storedEvent node) id (some (form.event id attendees)) := by
  funext id'
  by_cases hid : id' = id
  · rw [hid, Function.update_self, storedEvent_eq_some_iff]
    exact ⟨_, LinkedHashMap.lookup_set_self, fromMap_writeFields_eventData es hvalid hattendees⟩
  · rw [Function.update_of_ne hid]
    exact storedEvent_congr (LinkedHashMap.lookup_set_of_ne hid)

/-- A save in edit mode stores the event of the form. -/
theorem storedEvent_update (node : Firebase.Node) (id : String) (hvalid : form.validate = true)
    (hattendees : form.attendees = .int attendees) :
    storedEvent (Firebase.update node id form.eventData) =
      Function.update (storedEvent node) id (some (form.event id attendees)) :=
  storedEvent_set_writeFields node id _ hvalid hattendees

/-- A save in create mode stores the event of the form under the new key. -/
theorem storedEvent_push (node : Firebase.Node) (key : String) (hvalid : form.validate = true)
    (hattendees : form.attendees = .int attendees) :
    storedEvent (Firebase.push node key form.eventData) =
      Function.update (storedEvent node) key (some (form.event key attendees)) :=
  storedEvent_set_writeFields node key [] hvalid hattendees

/-- A delete removes the event. -/
theorem storedEvent_remove (node : Firebase.Node) (id : String) :
    storedEvent (Firebase.remove node id) = Function.update (storedEvent node) id none := by
  funext id'
  have hlookup : (node.remove id).lookup id' = if id' = id then none else node.lookup id' :=
    LinkedHashMap.lookup_remove
  by_cases hid : id' = id
  · rw [if_pos hid] at hlookup
    rw [hid] at hlookup ⊢
    rw [Function.update_self, storedEvent, Firebase.remove, hlookup]
  · rw [if_neg hid] at hlookup
    rw [Function.update_of_ne hid]
    exact storedEvent_congr hlookup

/-- Saving an event keeps the records decodable. -/
theorem AllDecode.of_update {node' : Firebase.Node} (h : AllDecode node)
    (hstored : storedEvent node' = Function.update (storedEvent node) id (some e))
    (hkeys : ∀ id' ∈ node'.keys, id' = id ∨ id' ∈ node.keys) : AllDecode node' := by
  intro id' hid'
  rw [hstored]
  by_cases hid : id' = id
  · exact ⟨e, by rw [hid, Function.update_self]⟩
  · rw [Function.update_of_ne hid]
    exact h id' ((hkeys id' hid').resolve_left hid)

/-- Deleting an event keeps the records decodable. -/
theorem AllDecode.remove (h : AllDecode node) (id : String) :
    AllDecode (Firebase.remove node id) := by
  intro id' hid'
  obtain ⟨hmem, hid⟩ := Firebase.mem_keys_remove.mp hid'
  rw [storedEvent_remove, Function.update_of_ne hid]
  exact h id' hmem

/-- In a node with one event, this event is all that is stored. -/
theorem storedEvent_singleton (event : Event)
    (hid : id ∈ (LinkedHashMap.empty.set event.id (.map (editData event)) : Firebase.Node).keys) :
    storedEvent (LinkedHashMap.empty.set event.id (.map (editData event))) id = some event := by
  obtain rfl : id = event.id := List.mem_singleton.mp hid
  exact storedEvent_eq_some_iff.mpr ⟨_, LinkedHashMap.lookup_set_self, fromMap_editData event⟩

/-! ## The list of the stored events -/

/-- The stored events in the order of their keys. -/
def storedEvents (node : Firebase.Node) : List Event := node.keys.filterMap (storedEvent node)

theorem mem_storedEvents : e ∈ storedEvents node ↔ storedEvent node e.id = some e := by
  rw [storedEvents, List.mem_filterMap]
  constructor
  · rintro ⟨id, -, h⟩
    rwa [id_of_storedEvent h]
  · exact fun h => ⟨e.id, mem_keys_of_storedEvent h, h⟩

/-- The records of a node that decode give its stored events, one for each of its keys. -/
theorem forall₂_storedEvents (h : AllDecode node) :
    List.Forall₂ (fun item e => itemEvent item = .ok e) (Firebase.items node.entries)
        (storedEvents node) ∧
      (storedEvents node).map Event.id = node.keys := by
  have hentries : ∀ entry ∈ node.entries, ∃ e, itemEvent (.string entry.1, entry.2) = .ok e := by
    intro entry hentry
    obtain ⟨e, he⟩ := h entry.1 (LinkedHashMap.mem_keys_of_mem_entries hentry)
    exact ⟨e, (storedEvent_eq_some_iff_itemEvent hentry).mp he⟩
  obtain ⟨events, hevents⟩ := exists_forall₂_of_forall hentries
  have hids : events.map Event.id = node.keys := map_id_of_forall₂ (fun value => value) hevents
  have heq : storedEvents node = events := by
    rw [storedEvents, ← hids, List.filterMap_map]
    have hsome : ∀ e ∈ events, (storedEvent node ∘ Event.id) e = some e := by
      intro e he
      obtain ⟨entry, hentry, hdecode⟩ := mem_of_mapM_eq_ok (mapM_eq_ok_iff.mpr hevents) he
      have hstored := (storedEvent_eq_some_iff_itemEvent hentry).mpr hdecode
      rwa [Function.comp_apply, id_of_storedEvent hstored]
    rw [List.filterMap_congr hsome, List.filterMap_some]
  rw [heq]
  exact ⟨List.forall₂_map_left_iff.mpr hevents, hids⟩

/-- No event is stored twice. -/
theorem nodup_storedEvents (h : AllDecode node) : (storedEvents node).Nodup := by
  apply List.Nodup.of_map Event.id
  rw [(forall₂_storedEvents h).2]
  exact LinkedHashMap.nodup_keys

/-- Nodes that store the same events list them in some order. -/
theorem storedEvents_perm {node' : Firebase.Node} (h : AllDecode node) (h' : AllDecode node')
    (hsame : storedEvent node = storedEvent node') :
    (storedEvents node).Perm (storedEvents node') := by
  rw [List.perm_ext_iff_of_nodup (nodup_storedEvents h) (nodup_storedEvents h')]
  intro e
  rw [mem_storedEvents, mem_storedEvents, hsame]

/-- The stored events but for the one with the id. -/
def otherEvents (node : Firebase.Node) (id : String) : List Event :=
  (storedEvents node).filter fun e => e.id != id

theorem nodup_otherEvents (h : AllDecode node) (id : String) : (otherEvents node id).Nodup :=
  (nodup_storedEvents h).filter _

theorem mem_otherEvents : e ∈ otherEvents node id ↔ storedEvent node e.id = some e ∧ e.id ≠ id := by
  rw [otherEvents, List.mem_filter, mem_storedEvents, bne_iff_ne]

/-- After a save, the event that was saved is stored beside the other ones. -/
theorem storedEvents_perm_of_save {node' : Firebase.Node} (h : AllDecode node)
    (h' : AllDecode node')
    (hstored : storedEvent node' = Function.update (storedEvent node) e.id (some e)) :
    (storedEvents node').Perm (e :: otherEvents node e.id) := by
  have hnodup : (e :: otherEvents node e.id).Nodup :=
    List.nodup_cons.mpr ⟨fun hmem => (mem_otherEvents.mp hmem).2 rfl, nodup_otherEvents h e.id⟩
  rw [List.perm_ext_iff_of_nodup (nodup_storedEvents h') hnodup]
  intro e'
  rw [mem_storedEvents, hstored, List.mem_cons, mem_otherEvents]
  by_cases hid : e'.id = e.id
  · rw [hid, Function.update_self, Option.some.injEq, or_iff_left (by simp)]
    exact eq_comm
  · rw [Function.update_of_ne hid, and_iff_left hid, or_iff_right]
    exact fun heq => hid (by rw [heq])

/-- After a delete, the other events are stored. -/
theorem storedEvents_perm_of_delete {node' : Firebase.Node} (h : AllDecode node)
    (h' : AllDecode node')
    (hstored : storedEvent node' = Function.update (storedEvent node) id none) :
    (storedEvents node').Perm (otherEvents node id) := by
  rw [List.perm_ext_iff_of_nodup (nodup_storedEvents h') (nodup_otherEvents h id)]
  intro e
  rw [mem_storedEvents, hstored, mem_otherEvents]
  by_cases hid : e.id = id
  · simp [hid]
  · rw [Function.update_of_ne hid, and_iff_left hid]

/-! ## What the pages show -/

section Pages

variable {sdk : Firebase.Rendering} {value : Dyn} {children : List (String × Dyn)} {totals : Totals}
  {toLowerCase : String → String} {query : String}

/-- An item of a delivered map that decodes is a stored event. -/
theorem storedEvent_of_itemEvent (hperm : children.Perm node.entries) {item : Dyn × Dyn}
    (hitem : item ∈ Firebase.items children) (hdecode : itemEvent item = .ok e) :
    storedEvent node e.id = some e := by
  obtain ⟨entry, hentry, rfl⟩ := List.mem_map.mp hitem
  have hstored := (storedEvent_eq_some_iff_itemEvent (hperm.subset hentry)).mpr hdecode
  rwa [id_of_storedEvent hstored]

/-- The map of a node whose records all decode decodes to the stored events. -/
theorem exists_items (hmap : Firebase.IsMapOf node value) (h : AllDecode node) :
    ∃ items events, value = .map items ∧
      List.Forall₂ (fun item e => itemEvent item = .ok e) items events ∧
      events.Perm (storedEvents node) := by
  obtain ⟨children, hperm, hvalue⟩ := hmap
  -- the events come in the order of the items
  obtain ⟨events, hevents, hstored⟩ :=
    List.perm_comp_forall₂ (hperm.map _) (forall₂_storedEvents h).1
  exact ⟨_, events, hvalue, hevents, hstored⟩

/-- The dashboard shows the stored events, if it is delivered a map and all records decode. -/
theorem dashboardBody_of_isMapOf (hmap : Firebase.IsMapOf node value) (h : AllDecode node) :
    ∃ events, dashboardBody (some value) = .ok (.cards events) ∧
      events.Perm (storedEvents node) := by
  obtain ⟨items, events, rfl, hevents, hperm⟩ := exists_items hmap h
  refine ⟨events, ?_, hperm⟩
  rw [dashboardBody_map, dashboardEvents_map_eq_ok_iff.mpr hevents]
  rfl

/-- `EventPage` shows the stored events whose title contains the query, if it is delivered a map and
all records decode. -/
theorem eventPageBody_of_isMapOf (hlower : toLowerCase "" = "")
    (hmap : Firebase.IsMapOf node value) (h : AllDecode node) :
    ∃ events : List Event, events.Perm (storedEvents node) ∧ ∀ query,
      eventPageBody toLowerCase query (.data value) =
        .ok (.shown (dashboardTotals (events.filter (Event.titleContains toLowerCase query)))
          (events.filter (Event.titleContains toLowerCase query))) := by
  obtain ⟨items, events, rfl, hevents, hperm⟩ := exists_items hmap h
  exact ⟨events, hperm, eventPageBody_of_forall₂ hlower hevents⟩

/-- The dashboard shows the loading indicator for a node without children. -/
theorem dashboardBody_value_of_nil (h : node.keys = []) :
    dashboardBody (some (sdk.value node)) = .ok .loading := by
  rw [sdk.value_of_nil node h]
  rfl

/-- `EventPage` has a message for a node without children. -/
theorem eventPageBody_value_of_nil (h : node.keys = []) :
    eventPageBody toLowerCase query (.data (sdk.value node)) = .ok .noEvents := by
  rw [sdk.value_of_nil node h]
  rfl

/-- Every card of the dashboard is a stored event. -/
theorem storedEvent_of_dashboardBody
    (h : dashboardBody (some (sdk.value node)) = .ok (.cards events)) (he : e ∈ events) :
    storedEvent node e.id = some e := by
  by_cases hne : node.keys = []
  · rw [dashboardBody_value_of_nil hne] at h
    simp at h
  · obtain ⟨children, hperm, hvalue⟩ | ⟨elements, hvalue⟩ := sdk.value_of_ne_nil node hne
    · rw [hvalue, dashboardBody_map] at h
      obtain ⟨events', hevents, h⟩ := bind_eq_ok_iff.mp h
      obtain rfl := DashboardBody.cards.inj (Except.ok.inj h)
      obtain ⟨item, hitem, hdecode⟩ :=
        mem_of_mapM_eq_ok (mapM_eq_ok_iff.mpr (dashboardEvents_map_eq_ok_iff.mp hevents)) he
      exact storedEvent_of_itemEvent hperm hitem hdecode
    · -- the cast of a list to a map throws
      rw [hvalue] at h
      obtain ⟨events', hevents, -⟩ := bind_eq_ok_iff.mp h
      simp [dashboardEvents, Dyn.asMap, bind, Except.bind] at hevents

/-- The search filter adds no items. -/
theorem searchItems_subset {items data : List (Dyn × Dyn)}
    (h : searchItems toLowerCase query data = .ok items) : items ⊆ data := by
  induction data generalizing items with
  | nil =>
    obtain rfl := Except.ok.inj h
    exact List.Subset.refl _
  | cons item data ih =>
    obtain ⟨keep, -, h⟩ := bind_eq_ok_iff.mp h
    obtain ⟨rest, hrest, h⟩ := bind_eq_ok_iff.mp h
    obtain rfl := Except.ok.inj h
    split
    · exact List.cons_subset_cons item (ih hrest)
    · exact List.subset_cons_of_subset item (ih hrest)

theorem shownItems_subset {items data : List (Dyn × Dyn)}
    (h : shownItems toLowerCase query data = .ok items) : items ⊆ data := by
  unfold shownItems at h
  split at h
  · obtain rfl := Except.ok.inj h
    exact List.Subset.refl _
  · exact searchItems_subset h

/-- Every card of `EventPage` is a stored event. -/
theorem storedEvent_of_eventPageBody
    (h : eventPageBody toLowerCase query (.data (sdk.value node)) = .ok (.shown totals events))
    (he : e ∈ events) : storedEvent node e.id = some e := by
  by_cases hne : node.keys = []
  · rw [eventPageBody_value_of_nil hne] at h
    simp at h
  · obtain ⟨children, hperm, hvalue⟩ | ⟨elements, hvalue⟩ := sdk.value_of_ne_nil node hne
    · rw [hvalue, eventPageBody_map] at h
      obtain ⟨items, hitems, h⟩ := bind_eq_ok_iff.mp h
      obtain ⟨⟨totals', events'⟩, hview, h⟩ := bind_eq_ok_iff.mp h
      obtain ⟨-, rfl⟩ := EventPageBody.shown.inj (Except.ok.inj h)
      obtain ⟨item, hitem, hdecode⟩ :=
        mem_of_mapM_eq_ok (mapM_eq_ok_iff.mpr (eventPageView_eq_ok_iff.mp hview).1) he
      exact storedEvent_of_itemEvent hperm (shownItems_subset hitems hitem) hdecode
    · rw [hvalue] at h
      simp [eventPageBody, Dyn.asMap, bind, Except.bind] at h

end Pages

end EventManager.App

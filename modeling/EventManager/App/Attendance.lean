import EventManager.App.Tracking

/-!
# Attendance and capacity

The form checks that the capacity is a number and nothing else. It writes back the attendees of the
snapshot it was opened from, or no attendees for a new event. So a save stores an event within its
capacity exactly if the number that was typed covers these attendees.

"Spots Left" is computed in 64-bit arithmetic. Even if every stored event is within its capacity,
the figure is negative when the free places of the events that match the search add up to a number
from 2⁶³ on, until they reach 2⁶⁴. A delete only lowers the number of free places, so it is enough
to look at the saves.

## Main results

* `inRange_iff_coversAttendees`: all stored events stay within their capacity throughout a run iff
  every save of the run covers the attendees;
* `spotsLeftNonneg_iff`: the figure, from the exact number of free places;
* `freePlaces_le_of_appStep`, `freePlaces_of_saved`: the number of free places after a step;
* `always_of_fitsPlaces`, `fitsPlaces_of_always`: from the saves of a run to the figure and back;
* `attendance_of_coversAttendees`: the stored events and the figure together, if every save covers
  the attendees and leaves a number of free places that fits into an `int`.
-/

namespace EventManager.App

open Dart

/-! ## Free places -/

variable {node : Firebase.Node} {id : String} {e : Event} {toLowerCase : String → String}

/-- The free places of the events, in exact arithmetic. -/
def freePlaces : List Event → ℤ
  | [] => 0
  | e :: events => e.capacity.toInt - e.attendees.toInt + freePlaces events

/-- "Spots Left" is the number of free places modulo 2⁶⁴. -/
theorem toInt_spotsLeft (events : List Event) :
    (dashboardTotals events).spotsLeft.toInt = (freePlaces events).bmod UInt64.size := by
  rw [spotsLeft_eq]
  induction events with
  | nil => rfl
  | cons e events ih =>
    rw [List.map_cons, int.sum_cons, Int64.toInt_add, Int64.toInt_sub, ih, freePlaces]
    exact Int.add_bmod_bmod.trans Int.bmod_add_bmod

/-- The number of free places does not depend on the order. -/
theorem freePlaces_perm {events events' : List Event} (h : events.Perm events') :
    freePlaces events = freePlaces events' := by
  induction h with
  | nil => rfl
  | cons e _ ih => rw [freePlaces, freePlaces, ih]
  | swap e e' events =>
    simp only [freePlaces]
    omega
  | trans _ _ ih₁ ih₂ => exact ih₁.trans ih₂

/-- The event has no more attendees than places. -/
def Event.InRange (e : Event) : Prop := 0 ≤ e.attendees ∧ e.attendees ≤ e.capacity

/-- Every record decodes to an event with no more attendees than places. -/
def InRange (node : Firebase.Node) : Prop :=
  ∀ id ∈ node.keys, ∃ e, storedEvent node id = some e ∧ e.InRange

theorem InRange.allDecode (h : InRange node) : AllDecode node := by
  intro id hid
  obtain ⟨e, he, -⟩ := h id hid
  exact ⟨e, he⟩

theorem InRange.event (h : InRange node) (he : storedEvent node id = some e) : e.InRange := by
  obtain ⟨e', he', hrange⟩ := h id (mem_keys_of_storedEvent he)
  rw [he] at he'
  rwa [Option.some.inj he']

theorem inRange_iff :
    InRange node ↔ AllDecode node ∧ ∀ id e, storedEvent node id = some e → e.InRange := by
  constructor
  · exact fun h => ⟨h.allDecode, fun _ _ => h.event⟩
  · rintro ⟨hdecode, hrange⟩ id hid
    obtain ⟨e, he⟩ := hdecode id hid
    exact ⟨e, he, hrange id e he⟩

/-! ## The form and the attendees -/

section

variable {ι : Type} [DecidableEq ι] {sdk : Firebase.Rendering} {s s' : State ι} {l : Label ι}
  {p ls : List (Label ι)}

/-- If the step saves a form, the capacity that was typed covers the attendees that the form
writes. -/
def CoversAttendees (s : State ι) : Label ι → Prop
  | .save c _ => ∀ form capacity, (s.clients c).form = some form → form.validate = true →
    int.tryParse (form.text .capacity) = some capacity → form.savedAttendees ≤ capacity
  | _ => True

theorem attendees_savedEvent (form : Form) (key : String) :
    (form.savedEvent key).attendees = form.savedAttendees := by
  unfold Form.savedEvent
  split <;> rfl

theorem capacity_savedEvent (form : Form) (key : String) :
    (form.savedEvent key).capacity = (int.tryParse (form.text .capacity)).getD 0 := by
  unfold Form.savedEvent
  split <;> rfl

omit [DecidableEq ι] in
theorem storeOp_eq_saved_iff :
    storeOp s l = some (.saved e) ↔ ∃ c key form, l = .save c key ∧
      (s.clients c).form = some form ∧ form.validate = true ∧ form.savedEvent key = e := by
  cases l with
  | save c key => cases hform : (s.clients c).form <;> simp [storeOp, hform]
  | _ => simp [storeOp]

omit [DecidableEq ι] in
/-- The guard in terms of the event that is saved. -/
theorem coversAttendees_iff :
    CoversAttendees s l ↔ ∀ e, storeOp s l = some (.saved e) → e.attendees ≤ e.capacity := by
  constructor
  · intro h e he
    obtain ⟨c, key, form, rfl, hform, hvalid, rfl⟩ := storeOp_eq_saved_iff.mp he
    obtain ⟨capacity, hcapacity⟩ := exists_capacity_of_validate hvalid
    rw [attendees_savedEvent, capacity_savedEvent, hcapacity]
    exact h form capacity hform hvalid hcapacity
  · intro h
    cases l with
    | save c key =>
      intro form capacity hform hvalid hcapacity
      have hsaved := h _ (storeOp_eq_saved_iff.mpr ⟨c, key, form, rfl, hform, hvalid, rfl⟩)
      rwa [attendees_savedEvent, capacity_savedEvent, hcapacity] at hsaved
    | _ => trivial

/-- No card of the client has a negative number of attendees, and its form writes none. -/
structure Client.NonnegAttendees (c : Client) : Prop where
  cards : ∀ e ∈ c.cards, 0 ≤ e.attendees
  form : ∀ form, c.form = some form → 0 ≤ form.savedAttendees

theorem nonnegAttendees_fresh : Client.fresh.NonnegAttendees := by
  refine ⟨fun e he => ?_, fun form hform => ?_⟩
  · simp [Client.fresh, Client.cards, dashboardBody, pure, Except.pure] at he
  · simp [Client.fresh] at hform

theorem Acted.nonnegAttendees {c c' : Client} (hacted : Acted (sdk.value node) c c')
    (hnode : InRange node) (h : c.NonnegAttendees) : c'.NonnegAttendees := by
  cases hacted with
  | delivered => exact ⟨fun e he => (hnode.event (storedEvent_of_cards rfl he)).1, h.form⟩
  | openedEdit event hshown =>
    refine ⟨h.cards, fun form hform => ?_⟩
    obtain rfl := Option.some.inj hform
    -- the form writes the attendees of the card
    rw [Form.savedAttendees, attendees_of_editData rfl]
    exact h.cards event hshown
  | openedCreate =>
    refine ⟨h.cards, fun form hform => ?_⟩
    obtain rfl := Option.some.inj hform
    exact Int64.le_refl 0
  | typed form' field text hform' =>
    refine ⟨h.cards, fun form hform => ?_⟩
    obtain rfl := Option.some.inj hform
    exact h.form form' hform'
  | closedForm => exact ⟨h.cards, fun form hform => by simp at hform⟩
  | _ => exact ⟨h.cards, h.form⟩

/-! ## The stored events along a run -/

/-- A save that covers its attendees keeps the stored events in range. -/
theorem InRange.appStep (h : InRange s.events) (hedits : ∀ c, (s.clients c).EditsEvent)
    (hclients : ∀ c, (s.clients c).NonnegAttendees) (hcovers : CoversAttendees s l)
    (hstep : appStep sdk s l = some s') : InRange s'.events := by
  refine inRange_iff.mpr ⟨h.allDecode.appStep hedits hstep, fun id e he => ?_⟩
  rw [storedEvent_of_appStep hedits hstep] at he
  cases hop : storeOp s l with
  | none =>
    rw [hop] at he
    exact h.event he
  | some entry =>
    simp only [hop] at he
    by_cases hid : id = entry.id
    · rw [hid, Function.update_self] at he
      cases entry with
      | saved event =>
        obtain rfl := Option.some.inj he
        refine ⟨?_, coversAttendees_iff.mp hcovers event hop⟩
        obtain ⟨c, key, form, -, hform, -, rfl⟩ := storeOp_eq_saved_iff.mp hop
        rw [attendees_savedEvent]
        exact (hclients c).form form hform
      | deleted => simp [StoreOp.result] at he
    · rw [Function.update_of_ne hid] at he
      exact h.event he

/-- A save that does not cover its attendees stores an event out of range. -/
theorem not_inRange_of_not_coversAttendees (hedits : ∀ c, (s.clients c).EditsEvent)
    (hcovers : ¬ CoversAttendees s l) (hstep : appStep sdk s l = some s') : ¬ InRange s'.events := by
  rw [coversAttendees_iff] at hcovers
  push Not at hcovers
  obtain ⟨e, hop, hover⟩ := hcovers
  have hstored := storedEvent_of_appStep hedits hstep
  simp only [hop] at hstored
  intro h
  have he : storedEvent s'.events e.id = some e := by
    rw [hstored]
    exact Function.update_self ..
  exact hover (h.event he).2

/-- The stored events are in range, and no client writes a negative number of attendees. -/
structure WithinCapacity (s : State ι) : Prop where
  events : InRange s.events
  clients : ∀ c, (s.clients c).NonnegAttendees

theorem WithinCapacity.appStep (h : WithinCapacity s) (hedits : ∀ c, (s.clients c).EditsEvent)
    (hcovers : CoversAttendees s l) (hstep : appStep sdk s l = some s') : WithinCapacity s' := by
  have heffect := effect_of_step (appStep_eq_some hstep).2
  exact ⟨h.events.appStep hedits h.clients hcovers hstep,
    heffect.forall_clients (fun _ _ hacted => hacted.nonnegAttendees h.events) h.clients⟩

/-- All stored events stay within their capacity throughout a run of the app iff every save of the
run covers the attendees. -/
theorem inRange_iff_coversAttendees (sdk : Firebase.Rendering) (events : Firebase.Node)
    (past : List String) (ls : List (Label ι)) (h : InRange events) :
    LTS.Always (appStep sdk) (State.initial events past) ls (fun _ s => InRange s.events) ↔
      LTS.Guarded (appStep sdk) (State.initial events past) ls CoversAttendees := by
  refine LTS.always_iff_guarded_of_run (I := fun _ s => WithinCapacity s)
    ⟨h, fun _ => nonnegAttendees_fresh⟩ (fun _ _ _ hs => hs.events) ?_ ?_
  · exact fun p s l s' hrun hs => hs.appStep (editsEvent_of_appRun hrun)
  · intro p s l s' hrun _ hcovers hstep
    exact not_inRange_of_not_coversAttendees (editsEvent_of_appRun hrun) hcovers hstep

/-! ## The free places along a run -/

/-- If the step saves a form, the free places of the other stored events and those of the saved
event, with the capacity that was typed, are at most `bound` together. -/
def FitsPlaces (bound : ℤ) (s : State ι) : Label ι → Prop
  | .save c key => ∀ form capacity, (s.clients c).form = some form → form.validate = true →
    int.tryParse (form.text .capacity) = some capacity →
    capacity.toInt - form.savedAttendees.toInt +
      freePlaces (otherEvents s.events (form.savedEvent key).id) ≤ bound
  | _ => True

omit [DecidableEq ι] in
/-- The guard in terms of the event that is saved. -/
theorem fitsPlaces_iff {bound : ℤ} : FitsPlaces bound s l ↔
    ∀ e, storeOp s l = some (.saved e) → freePlaces (e :: otherEvents s.events e.id) ≤ bound := by
  constructor
  · intro h e he
    obtain ⟨c, key, form, rfl, hform, hvalid, rfl⟩ := storeOp_eq_saved_iff.mp he
    obtain ⟨capacity, hcapacity⟩ := exists_capacity_of_validate hvalid
    rw [freePlaces, attendees_savedEvent, capacity_savedEvent, hcapacity]
    exact h form capacity hform hvalid hcapacity
  · intro h
    cases l with
    | save c key =>
      intro form capacity hform hvalid hcapacity
      have hsaved := h _ (storeOp_eq_saved_iff.mpr ⟨c, key, form, rfl, hform, hvalid, rfl⟩)
      rwa [freePlaces, attendees_savedEvent, capacity_savedEvent, hcapacity] at hsaved
    | _ => trivial

/-- Of events in range, a selection has at most the free places of all of them. -/
theorem freePlaces_filter {events : List Event} (h : ∀ e ∈ events, e.InRange)
    (keep : Event → Bool) :
    0 ≤ freePlaces (events.filter keep) ∧ freePlaces (events.filter keep) ≤ freePlaces events := by
  induction events with
  | nil => simp [freePlaces]
  | cons e events ih =>
    obtain ⟨he, hevents⟩ := List.forall_mem_cons.mp h
    have hfree : e.attendees.toInt ≤ e.capacity.toInt := Int64.le_iff_toInt_le.mp he.2
    obtain ⟨hnonneg, hle⟩ := ih hevents
    rw [List.filter_cons]
    split <;> simp only [freePlaces] <;> omega

theorem InRange.storedEvents (h : InRange node) : ∀ e ∈ storedEvents node, e.InRange :=
  fun _ he => h.event (mem_storedEvents.mp he)

/-- After a save, the free places are those of the saved event and of the other ones. -/
theorem freePlaces_of_saved (hdecode : AllDecode s.events) (hedits : ∀ c, (s.clients c).EditsEvent)
    (hstep : appStep sdk s l = some s') (hop : storeOp s l = some (.saved e)) :
    freePlaces (storedEvents s'.events) = freePlaces (e :: otherEvents s.events e.id) := by
  have hstored := storedEvent_of_appStep hedits hstep
  simp only [hop] at hstored
  exact freePlaces_perm (storedEvents_perm_of_save hdecode (hdecode.appStep hedits hstep) hstored)

/-- A step that fits keeps the number of free places within the bound. -/
theorem freePlaces_le_of_appStep {bound : ℤ} (h : InRange s.events)
    (hedits : ∀ c, (s.clients c).EditsEvent) (hle : freePlaces (storedEvents s.events) ≤ bound)
    (hfits : FitsPlaces bound s l) (hstep : appStep sdk s l = some s') :
    freePlaces (storedEvents s'.events) ≤ bound := by
  have hstored := storedEvent_of_appStep hedits hstep
  have hdecode := h.allDecode.appStep hedits hstep
  cases hop : storeOp s l with
  | none =>
    simp only [hop] at hstored
    rwa [freePlaces_perm (storedEvents_perm hdecode h.allDecode hstored)]
  | some entry =>
    cases entry with
    | saved event =>
      rw [freePlaces_of_saved h.allDecode hedits hstep hop]
      exact fitsPlaces_iff.mp hfits event hop
    | deleted id =>
      -- the other events had their free places before
      simp only [hop] at hstored
      rw [freePlaces_perm (storedEvents_perm_of_delete h.allDecode hdecode hstored)]
      exact Int.le_trans (freePlaces_filter h.storedEvents _).2 hle

omit [DecidableEq ι] in
/-- A step that does not fit saves an event with too many free places beside it. -/
theorem exists_saved_of_not_fitsPlaces {bound : ℤ} (hfits : ¬ FitsPlaces bound s l) :
    ∃ e, storeOp s l = some (.saved e) ∧
      bound < freePlaces (e :: otherEvents s.events e.id) := by
  simpa [fitsPlaces_iff] using hfits

end

/-! ## Spots left -/

section

variable {sdk : Firebase.Rendering}

/-- The figure "Spots Left" of the body of `EventPage`, if it shows one. -/
def EventPageBody.spotsLeft : EventPageBody → Option Int64
  | shown totals _ => some totals.spotsLeft
  | _ => none

/-- `EventPage` shows no negative "Spots Left" for the node, whatever is searched for. -/
def SpotsLeftNonneg (sdk : Firebase.Rendering) (toLowerCase : String → String)
    (node : Firebase.Node) : Prop :=
  ∀ query, ∃ body, eventPageBody toLowerCase query (.data (sdk.value node)) = .ok body ∧
    ∀ n ∈ body.spotsLeft, 0 ≤ n

/-- The figure is not negative iff the exact number of free places of the stored events found is
less than 2⁶³, modulo 2⁶⁴. -/
theorem spotsLeftNonneg_iff (hmaps : sdk.DeliversMaps) (hlower : toLowerCase "" = "")
    (h : AllDecode node) : SpotsLeftNonneg sdk toLowerCase node ↔
      ∀ query, freePlaces ((storedEvents node).filter (Event.titleContains toLowerCase query)) %
        UInt64.size ≤ Int64.maxValue.toInt := by
  refine forall_congr' fun query => ?_
  by_cases hne : node.keys = []
  · -- without children there is no figure and no event
    have hevents : storedEvents node = [] := by rw [storedEvents, hne, List.filterMap_nil]
    rw [eventPageBody_value_of_nil hne, hevents, List.filter_nil]
    exact iff_of_true ⟨.noEvents, rfl, by simp [EventPageBody.spotsLeft]⟩ (by decide)
  · obtain ⟨events, hperm, hbody⟩ := eventPageBody_of_isMapOf hlower (hmaps node hne) h
    rw [hbody, ← freePlaces_perm (hperm.filter _)]
    simp only [Except.ok.injEq, exists_eq_left', EventPageBody.spotsLeft, Option.mem_some_iff,
      forall_eq']
    exact int.nonneg_iff_of_toInt_eq_bmod (toInt_spotsLeft _)

/-- No figure is negative if the free places of all stored events fit into an `int`. -/
theorem spotsLeftNonneg_of_le (hmaps : sdk.DeliversMaps) (hlower : toLowerCase "" = "")
    (h : InRange node) (hle : freePlaces (storedEvents node) ≤ Int64.maxValue.toInt) :
    SpotsLeftNonneg sdk toLowerCase node := by
  refine (spotsLeftNonneg_iff hmaps hlower h.allDecode).mpr fun query => ?_
  obtain ⟨hnonneg, hfilter⟩ :=
    freePlaces_filter h.storedEvents (Event.titleContains toLowerCase query)
  rw [Int64.toInt_maxValue] at hle ⊢
  rw [UInt64.size]
  omega

/-- Below 2⁶⁴ free places, this is also necessary: without a query all of them are counted. -/
theorem freePlaces_le_of_spotsLeftNonneg (hmaps : sdk.DeliversMaps) (hlower : toLowerCase "" = "")
    (h : InRange node) (hlt : freePlaces (storedEvents node) < UInt64.size)
    (hfigure : SpotsLeftNonneg sdk toLowerCase node) :
    freePlaces (storedEvents node) ≤ Int64.maxValue.toInt := by
  have hall : ∀ e ∈ storedEvents node, e.titleContains toLowerCase "" = true := by
    intro e _
    rw [Event.titleContains, hlower, contains_empty]
  have hmod := (spotsLeftNonneg_iff hmaps hlower h.allDecode).mp hfigure ""
  rw [List.filter_eq_self.mpr hall] at hmod
  have hnonneg := (freePlaces_filter h.storedEvents fun _ => true).1
  rw [List.filter_true] at hnonneg
  rwa [Int.emod_eq_of_lt hnonneg hlt] at hmod

end

/-! ## Attendance and "Spots Left" along a run -/

section

variable {ι : Type} [DecidableEq ι] {sdk : Firebase.Rendering} {events : Firebase.Node}
  {past : List String} {ls : List (Label ι)}

/-- If the free places fit to begin with, and every save covers its attendees and fits, then both
parts hold throughout the run. -/
theorem always_of_fitsPlaces (hmaps : sdk.DeliversMaps) (hlower : toLowerCase "" = "")
    (h : InRange events) (hfits : freePlaces (storedEvents events) ≤ Int64.maxValue.toInt)
    (hguard : LTS.Guarded (appStep sdk) (State.initial events past) ls
      fun s l => CoversAttendees s l ∧ FitsPlaces Int64.maxValue.toInt s l) :
    LTS.Always (appStep sdk) (State.initial events past) ls
      fun _ s => InRange s.events ∧ SpotsLeftNonneg sdk toLowerCase s.events := by
  refine LTS.always_of_guarded (I := fun _ s => WithinCapacity s ∧
    freePlaces (storedEvents s.events) ≤ Int64.maxValue.toInt)
    ⟨⟨h, fun _ => nonnegAttendees_fresh⟩, hfits⟩ ?_ ?_ hguard
  · rintro p s - ⟨hs, hle⟩
    exact ⟨hs.events, spotsLeftNonneg_of_le hmaps hlower hs.events hle⟩
  · rintro p s l s' hrun ⟨hs, hle⟩ ⟨hcovers, hfits⟩ hstep
    have hedits := editsEvent_of_appRun hrun
    exact ⟨hs.appStep hedits hcovers hstep,
      freePlaces_le_of_appStep hs.events hedits hle hfits hstep⟩

/-- If both parts hold throughout a run whose saves stay below 2⁶⁴ free places, every save fits. -/
theorem fitsPlaces_of_always (hmaps : sdk.DeliversMaps) (hlower : toLowerCase "" = "")
    (hbelow : LTS.Guarded (appStep sdk) (State.initial events past) ls
      (FitsPlaces (UInt64.size - 1)))
    (hP : LTS.Always (appStep sdk) (State.initial events past) ls
      fun _ s => InRange s.events ∧ SpotsLeftNonneg sdk toLowerCase s.events) :
    LTS.Guarded (appStep sdk) (State.initial events past) ls
      (FitsPlaces Int64.maxValue.toInt) := by
  intro p l s s' hp hrun hstep
  by_contra hfits
  have hedits := editsEvent_of_appRun hrun
  have hrange := (hP p s ((List.prefix_append p [l]).trans hp) hrun).1
  obtain ⟨hrange', hfigure'⟩ := hP _ s' hp (LTS.run_concat_eq_some.mpr ⟨s, hrun, hstep⟩)
  -- the places that are free after the save are too many for the figure
  obtain ⟨e, hop, hover⟩ := exists_saved_of_not_fitsPlaces hfits
  have hsaved := freePlaces_of_saved hrange.allDecode hedits hstep hop
  have hbelow := fitsPlaces_iff.mp (hbelow p l s s' hp hrun hstep) e hop
  have hle := freePlaces_le_of_spotsLeftNonneg hmaps hlower hrange' (by omega) hfigure'
  omega

end

/-- In every run of the app from a store in range, where nodes with children are delivered as maps:

* every stored event stays within its capacity iff every save covers the attendees it writes;
* if moreover the free places fit into an `int` to begin with and after every save, no figure "Spots
  Left" is ever negative;
* as long as the free places are less than 2⁶⁴, no figure is negative only if this is so. -/
theorem attendance_of_coversAttendees {ι : Type} [DecidableEq ι] (sdk : Firebase.Rendering)
    (hmaps : sdk.DeliversMaps) (hlower : toLowerCase "" = "") (events : Firebase.Node)
    (past : List String) (ls : List (Label ι)) (h : InRange events) :
    (LTS.Always (appStep sdk) (State.initial events past) ls (fun _ s => InRange s.events) ↔
      LTS.Guarded (appStep sdk) (State.initial events past) ls CoversAttendees) ∧
    (freePlaces (storedEvents events) ≤ Int64.maxValue.toInt →
      LTS.Guarded (appStep sdk) (State.initial events past) ls
        (fun s l => CoversAttendees s l ∧ FitsPlaces Int64.maxValue.toInt s l) →
      LTS.Always (appStep sdk) (State.initial events past) ls
        fun _ s => InRange s.events ∧ SpotsLeftNonneg sdk toLowerCase s.events) ∧
    (freePlaces (storedEvents events) < UInt64.size →
      LTS.Guarded (appStep sdk) (State.initial events past) ls (FitsPlaces (UInt64.size - 1)) →
      LTS.Always (appStep sdk) (State.initial events past) ls
        (fun _ s => InRange s.events ∧ SpotsLeftNonneg sdk toLowerCase s.events) →
      freePlaces (storedEvents events) ≤ Int64.maxValue.toInt ∧
        LTS.Guarded (appStep sdk) (State.initial events past) ls
          fun s l => CoversAttendees s l ∧ FitsPlaces Int64.maxValue.toInt s l) := by
  have hcapacity := inRange_iff_coversAttendees sdk events past ls h
  refine ⟨hcapacity, always_of_fitsPlaces hmaps hlower h, fun hlt hbelow hP => ⟨?_, ?_⟩⟩
  · obtain ⟨-, hfigure⟩ := hP [] _ List.nil_prefix LTS.run_nil
    exact freePlaces_le_of_spotsLeftNonneg hmaps hlower h hlt hfigure
  · have hcovers := hcapacity.mp fun p s hp hrun => (hP p s hp hrun).1
    have hfits := fitsPlaces_of_always hmaps hlower hbelow hP
    exact fun p l s s' hp hrun hstep =>
      ⟨hcovers p l s s' hp hrun hstep, hfits p l s s' hp hrun hstep⟩

/-- The capacity of an event with 12 attendees is lowered to 15, typed as a hexadecimal number. -/
theorem attendance_of_coversAttendees_lowered :
    ∃ (events : Firebase.Node) (ls : List (Label (Fin 1))), InRange events ∧
      ((LTS.run (appStep .maps) (State.initial events []) ls).map fun s =>
        (storedEvent s.events "e1").map Event.capacity) = some (some 15) ∧
      LTS.Always (appStep .maps) (State.initial events []) ls
        (fun _ s => InRange s.events ∧ SpotsLeftNonneg .maps String.toLower s.events) ∧
      LTS.Guarded (appStep .maps) (State.initial events []) ls
        fun s l => CoversAttendees s l ∧ FitsPlaces Int64.maxValue.toInt s l := by
  let event : Event := ⟨"e1", "Summit", "May 3", "15:30", "Muscat", 12, 300, "logo.png"⟩
  let events : Firebase.Node := LinkedHashMap.empty.set "e1" (.map (editData event))
  let types : List (Label (Fin 1)) :=
    [.act 0 .deliver, .act 0 (.openEdit event), .act 0 (.type .capacity "0xF")]
  let ls := types ++ [.save 0 "e2"]
  have hrange : InRange events := fun _ hid =>
    ⟨event, storedEvent_singleton event hid, by decide, by decide⟩
  have htyped : (LTS.run (appStep .maps) (State.initial events []) types).all (fun s =>
      (s.clients 0).form.all fun form =>
        decide (form.savedAttendees = 12 ∧ int.tryParse (form.text .capacity) = some 15 ∧
          otherEvents s.events (form.savedEvent "e2").id = [])) = true := by
    decide +kernel
  have hlower : String.toLower "" = "" := by decide +kernel
  have hthree : (15 : Int64).toInt - (12 : Int64).toInt + freePlaces [] = 3 := by decide
  have hguard (bound : ℤ) (hbound : 3 ≤ bound) : LTS.Guarded (appStep .maps)
      (State.initial events []) ls fun s l => CoversAttendees s l ∧ FitsPlaces bound s l := by
    refine LTS.guarded_concat (fun p l s s' hp _ _ => ?_) fun s s' hrun _ => ?_
    · have hl : l ∈ types := hp.subset (by simp)
      cases l with
      | save => simp [types] at hl
      | _ => exact ⟨trivial, trivial⟩
    · rw [hrun] at htyped
      constructor
      all_goals
        intro form capacity hform _ hcapacity
        simp only [Option.all_some, hform, decide_eq_true_eq, hcapacity,
          Option.some.injEq] at htyped
        obtain ⟨hattendees, hfifteen, hothers⟩ := htyped
      · rw [hattendees, hfifteen]
        decide
      · rw [hattendees, hfifteen, hothers, hthree]
        exact hbound
  obtain ⟨-, hsufficient, hnecessary⟩ := attendance_of_coversAttendees .maps
    Firebase.Rendering.deliversMaps_maps hlower events [] ls hrange
  have halways := hsufficient (by decide +kernel) (hguard _ (by decide))
  refine ⟨events, ls, hrange, by decide +kernel, halways, ?_⟩
  exact (hnecessary (by decide +kernel)
    (fun p l s s' hp hrun hl => (hguard _ (by decide) p l s s' hp hrun hl).2) halways).2

/-- The capacity of an event with 12 attendees is lowered to 5: seven places less than none are
left. -/
theorem loweredCapacity_spotsLeft :
    ¬ ∀ (n : ℕ) (sdk : Firebase.Rendering) (toLowerCase : String → String)
      (events : Firebase.Node) (past : List String) (ls : List (Label (Fin n))),
      sdk.DeliversMaps → toLowerCase "" = "" → InRange events →
      LTS.Always (appStep sdk) (State.initial events past) ls fun _ s =>
        InRange s.events ∧ SpotsLeftNonneg sdk toLowerCase s.events := by
  intro hclaim
  let event : Event := ⟨"e1", "Summit", "May 3", "15:30", "Muscat", 12, 300, "logo.png"⟩
  let events : Firebase.Node := LinkedHashMap.empty.set "e1" (.map (editData event))
  let ls : List (Label (Fin 1)) :=
    [.act 0 .deliver, .act 0 (.openEdit event), .act 0 (.type .capacity "5"), .save 0 "e2"]
  have hrange : InRange events := fun _ hid =>
    ⟨event, storedEvent_singleton event hid, by decide, by decide⟩
  have h : (LTS.run (appStep .maps) (State.initial events []) ls).any (fun s =>
      (eventPageBody String.toLower ""
        (.data (Firebase.Rendering.maps.value s.events))).toOption.any
        fun body => decide (body.spotsLeft = some (-7))) = true := by
    decide +kernel
  obtain ⟨s, hs, hfigure⟩ := (Option.any_eq_true _ _).mp h
  obtain ⟨body, hbody, hnonneg⟩ := (hclaim 1 .maps String.toLower events [] ls
    Firebase.Rendering.deliversMaps_maps (by decide +kernel) hrange ls s List.prefix_rfl hs).2 ""
  rw [hbody] at hfigure
  simp only [Except.toOption, Option.any_some, decide_eq_true_eq] at hfigure
  exact absurd (hnonneg (-7) hfigure) (by decide)

end EventManager.App

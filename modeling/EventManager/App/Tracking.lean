import EventManager.App.Clients

/-!
# The dashboard after a run

The steps that the app takes by itself are `appStep`: all steps of the system but the writes of
others. `storeLog` is what such a run has done to the store, and `latest` reads off the log what an
id stands for at its end: the event that was saved last, unless it was deleted since.

The store holds exactly these events, and the dashboard shows them once the value of the node is
delivered. A node without children is delivered as `null`, for which the dashboard shows its loading
indicator, so it never gets to the message for an empty list.

## Main results

* `storedEvent_of_appStep`: what a step does to the stored events;
* `holdsLog_of_run`: the store holds what the log says, in every run;
* `tracks_iff_keepsOne`: the dashboard shows the store throughout a run iff the store is not empty
  to begin with and no step of the run deletes the only event.
-/

namespace EventManager.App

open Dart

/-! ## The log of a run -/

/-- Whether the step is one of the app, and not a write of others. -/
def Label.throughApp {ι : Type} : Label ι → Bool
  | attend _ _ => false
  | _ => true

/-- What a step does to the stored events. -/
inductive StoreOp
  | saved (event : Event)
  | deleted (id : String)

/-- The id the entry is about. -/
def StoreOp.id : StoreOp → String
  | saved event => event.id
  | deleted id => id

/-- What the id stands for after the entry. -/
def StoreOp.result : StoreOp → Option Event
  | saved event => some event
  | deleted _ => none

/-- What the id stands for: what the last entry about it says, and what was stored initially if
there is none. -/
def latest (initial : Firebase.Node) (log : List StoreOp) (id : String) : Option Event :=
  match (log.filter fun entry => entry.id == id).getLast? with
  | some entry => entry.result
  | none => storedEvent initial id

theorem latest_concat (initial : Firebase.Node) (log : List StoreOp) (entry : StoreOp) :
    latest initial (log ++ [entry]) =
      Function.update (latest initial log) entry.id entry.result := by
  funext id
  by_cases hid : id = entry.id
  · rw [hid, Function.update_self]
    simp [latest]
  · rw [Function.update_of_ne hid]
    simp [latest, Ne.symm hid]

/-- The number of attendees that the form saves. -/
def Form.savedAttendees (form : Form) : Int64 :=
  match form.attendees with
  | .int n => n
  | _ => 0

/-- The event that the form saves: under its own id in edit mode, under the new key in create
mode. -/
def Form.savedEvent (form : Form) (key : String) : Event :=
  match form.edited with
  | some (id, _) => form.event id form.savedAttendees
  | none => form.event key form.savedAttendees

section

variable {ι : Type} [DecidableEq ι] {sdk : Firebase.Rendering} {s s' : State ι} {l : Label ι}
  {p ls : List (Label ι)} {events : Firebase.Node} {past : List String}

/-- The step function of the app alone. -/
def appStep (sdk : Firebase.Rendering) (s : State ι) (l : Label ι) : Option (State ι) :=
  if l.throughApp then step sdk s l else none

/-- What the step does to the stored events: an accepted save, or a delete. -/
def storeOp (s : State ι) : Label ι → Option StoreOp
  | .save c key => do
    let form ← (s.clients c).form
    if form.validate then return .saved (form.savedEvent key) else none
  | .confirmDelete _ id => some (.deleted id)
  | _ => none

/-- The saves and deletes of a run. -/
def storeLog (sdk : Firebase.Rendering) (s : State ι) (ls : List (Label ι)) : List StoreOp :=
  LTS.log (appStep sdk) storeOp s ls

theorem storeLog_concat {s₀ : State ι} (hrun : LTS.run (appStep sdk) s₀ ls = some s)
    (h : appStep sdk s l = some s') :
    storeLog sdk s₀ (ls ++ [l]) = storeLog sdk s₀ ls ++ (storeOp s l).toList :=
  LTS.log_concat hrun (by rw [h]; rfl)

theorem appStep_eq_some (h : appStep sdk s l = some s') :
    l.throughApp = true ∧ step sdk s l = some s' := by
  unfold appStep at h
  split at h
  · next happ => exact ⟨happ, h⟩
  · simp at h

/-- A run of the app is a run of the system. -/
theorem run_step_of_run_appStep (hrun : LTS.run (appStep sdk) s ls = some s') :
    LTS.run (step sdk) s ls = some s' := by
  induction ls generalizing s with
  | nil => exact hrun
  | cons l ls ih =>
    rw [LTS.run_cons] at hrun ⊢
    obtain ⟨t, ht, hrun⟩ := Option.bind_eq_some_iff.mp hrun
    rw [(appStep_eq_some ht).2]
    exact ih hrun

/-- In every run of the app, each form in edit mode was opened by the Edit button of some event. -/
theorem editsEvent_of_appRun
    (hrun : LTS.run (appStep sdk) (State.initial events past) ls = some s) :
    ∀ c, (s.clients c).EditsEvent :=
  editsEvent_of_run (run_step_of_run_appStep hrun)

/-! ## What a step does to the store -/

omit [DecidableEq ι] in
/-- The form of a client writes a number of attendees. -/
theorem attendees_of_editsEvent {c : ι} {form : Form} (h : (s.clients c).EditsEvent)
    (hform : (s.clients c).form = some form) : form.attendees = .int form.savedAttendees := by
  cases hedited : form.edited with
  | none => simp [Form.savedAttendees, Form.attendees, hedited]
  | some edited =>
    obtain ⟨id, data⟩ := edited
    obtain ⟨event, rfl, rfl⟩ := h form id data hform hedited
    rw [Form.savedAttendees, attendees_of_editData hedited]

/-- A step of the app saves or deletes the event that the log names, and leaves all others as they
are. -/
theorem storedEvent_of_appStep (hedits : ∀ c, (s.clients c).EditsEvent)
    (h : appStep sdk s l = some s') :
    storedEvent s'.events = match storeOp s l with
      | some entry => Function.update (storedEvent s.events) entry.id entry.result
      | none => storedEvent s.events := by
  obtain ⟨happ, hstep⟩ := appStep_eq_some h
  cases effect_of_step hstep with
  | acted => rfl
  | refused c key form hform hvalid => simp [storeOp, hform, hvalid]
  | edited c key form id data hform hvalid hedited =>
    have hattendees := attendees_of_editsEvent (hedits c) hform
    rw [storedEvent_update s.events id hvalid hattendees]
    simp [storeOp, hform, hvalid, Form.savedEvent, hedited, StoreOp.id, StoreOp.result, Form.event]
  | created c key form hform hvalid hedited =>
    have hattendees := attendees_of_editsEvent (hedits c) hform
    rw [storedEvent_push s.events key hvalid hattendees]
    simp [storeOp, hform, hvalid, Form.savedEvent, hedited, StoreOp.id, StoreOp.result, Form.event]
  | deleted c event => exact storedEvent_remove s.events event.id
  | attended => simp [Label.throughApp] at happ

/-- A step of the app keeps the records decodable. -/
theorem AllDecode.appStep (hdecode : AllDecode s.events) (hedits : ∀ c, (s.clients c).EditsEvent)
    (h : appStep sdk s l = some s') : AllDecode s'.events := by
  obtain ⟨happ, hstep⟩ := appStep_eq_some h
  cases effect_of_step hstep with
  | edited c key form id data hform hvalid hedited =>
    have hattendees := attendees_of_editsEvent (hedits c) hform
    exact hdecode.of_update (storedEvent_update s.events id hvalid hattendees)
      fun _ => Firebase.mem_keys_update.mp
  | created c key form hform hvalid hedited =>
    have hattendees := attendees_of_editsEvent (hedits c) hform
    exact hdecode.of_update (storedEvent_push s.events key hvalid hattendees)
      fun _ => Firebase.mem_keys_push.mp
  | deleted c event => exact hdecode.remove event.id
  | attended => simp [Label.throughApp] at happ
  | _ => exact hdecode

/-! ## The store after a run -/

/-- The node holds what the log says, and nothing else. -/
structure HoldsLog (initial : Firebase.Node) (log : List StoreOp) (node : Firebase.Node) : Prop where
  decodes : AllDecode node
  stored : storedEvent node = latest initial log

/-- The store of a run of the app holds what the run has saved, over what was stored initially. -/
theorem holdsLog_of_run (hdecode : AllDecode events)
    (hrun : LTS.run (appStep sdk) (State.initial events past) ls = some s) :
    HoldsLog events (storeLog sdk (State.initial events past : State ι) ls) s.events := by
  induction ls using List.reverseRecOn generalizing s with
  | nil =>
    obtain rfl := Option.some.inj hrun
    exact ⟨hdecode, rfl⟩
  | append_singleton ls l ih =>
    obtain ⟨t, ht, hl⟩ := LTS.run_concat_eq_some.mp hrun
    have hedits := editsEvent_of_appRun ht
    refine ⟨(ih ht).decodes.appStep hedits hl, ?_⟩
    rw [storedEvent_of_appStep hedits hl, storeLog_concat ht hl, (ih ht).stored]
    cases storeOp t l with
    | none => simp
    | some entry => exact (latest_concat events _ entry).symm

/-! ## The dashboard along a run -/

/-- The message of the body of `DashboardScreen` for an empty list. -/
def DashboardBody.message : DashboardBody → Option String
  | loading => none
  | cards events => if events.isEmpty then some "No events created yet" else none

/-- The dashboard shows the store: for the value of the node it has one card for each stored event,
as it was saved last, or the message for an empty list if there are none. No client shows the
loading indicator once a value was delivered to it. -/
structure Tracks (sdk : Firebase.Rendering) (initial : Firebase.Node) (log : List StoreOp)
    (s : State ι) : Prop where
  shown : ∃ events, dashboardBody (some (sdk.value s.events)) = .ok (.cards events) ∧
    (events.map Event.id).Perm s.events.keys ∧
    ∀ e, e ∈ events ↔ latest initial log e.id = some e
  message : s.events.keys = [] → ∃ body, dashboardBody (some (sdk.value s.events)) = .ok body ∧
    body.message = some "No events created yet"
  notLoading : ∀ c, (s.clients c).delivered ≠ none →
    dashboardBody (s.clients c).delivered ≠ .ok .loading

/-- The step does not delete the only event. -/
def KeepsOne (s : State ι) : Label ι → Prop
  | .confirmDelete _ id => ∃ id' ∈ s.events.keys, id' ≠ id
  | _ => True

/-- There is an event to show, and every client that has got a value has got one. -/
structure HasEvents (s : State ι) : Prop where
  nonempty : s.events.keys ≠ []
  notLoading : ∀ c, (s.clients c).delivered ≠ none →
    dashboardBody (s.clients c).delivered ≠ .ok .loading

/-- An action of a client does not bring it back to the loading indicator, as long as the node is
not empty. -/
theorem Acted.notLoading {node : Firebase.Node} {c c' : Client}
    (hacted : Acted (sdk.value node) c c') (hmaps : sdk.DeliversMaps) (hne : node.keys ≠ [])
    (hdecode : AllDecode node)
    (h : c.delivered ≠ none → dashboardBody c.delivered ≠ .ok .loading) :
    c'.delivered ≠ none → dashboardBody c'.delivered ≠ .ok .loading := by
  cases hacted with
  | delivered =>
    intro _
    show dashboardBody (some (sdk.value node)) ≠ .ok .loading
    obtain ⟨events, hevents, -⟩ := dashboardBody_of_isMapOf (hmaps node hne) hdecode
    rw [hevents]
    simp
  | _ => exact h

theorem HasEvents.appStep (hmaps : sdk.DeliversMaps) (h : HasEvents s)
    (hdecode : AllDecode s.events) (hkeeps : KeepsOne s l)
    (hstep : appStep sdk s l = some s') : HasEvents s' := by
  have heffect := effect_of_step (appStep_eq_some hstep).2
  refine ⟨?_, heffect.forall_clients (fun _ _ hacted => hacted.notLoading hmaps h.nonempty hdecode)
    h.notLoading⟩
  cases heffect with
  | acted => exact h.nonempty
  | refused => exact h.nonempty
  | edited => exact List.ne_nil_of_mem (Firebase.mem_keys_update.mpr (Or.inl rfl))
  | created => exact List.ne_nil_of_mem (Firebase.mem_keys_push.mpr (Or.inl rfl))
  | deleted =>
    obtain ⟨id, hid, hne⟩ := hkeeps
    exact List.ne_nil_of_mem (Firebase.mem_keys_remove.mpr ⟨hid, hne⟩)
  | attended => exact List.ne_nil_of_mem (Firebase.mem_keys_update.mpr (Or.inl rfl))

omit [DecidableEq ι] in
/-- The dashboard shows a store that holds what the log says. -/
theorem HoldsLog.tracks {log : List StoreOp} (hmaps : sdk.DeliversMaps)
    (h : HoldsLog events log s.events) (hevents : HasEvents s) : Tracks sdk events log s := by
  obtain ⟨cards, hcards, hperm⟩ := dashboardBody_of_isMapOf (hmaps _ hevents.nonempty) h.decodes
  refine ⟨⟨cards, hcards, ?_, fun e => ?_⟩, fun hnil => absurd hnil hevents.nonempty,
    hevents.notLoading⟩
  · rw [← (forall₂_storedEvents h.decodes).2]
    exact hperm.map Event.id
  · rw [hperm.mem_iff, mem_storedEvents, h.stored]

omit [DecidableEq ι] in
/-- The dashboard does not show an empty store. -/
theorem not_tracks_of_nil {log : List StoreOp} (h : s.events.keys = []) :
    ¬ Tracks sdk events log s := by
  rintro ⟨⟨cards, hcards, -⟩, -, -⟩
  rw [dashboardBody_value_of_nil h] at hcards
  simp at hcards

/-- A step that deletes the only event leaves an empty store. -/
theorem keys_eq_nil_of_not_keepsOne (h : ¬ KeepsOne s l) (hstep : appStep sdk s l = some s') :
    s'.events.keys = [] := by
  cases effect_of_step (appStep_eq_some hstep).2 with
  | deleted c event =>
    rw [List.eq_nil_iff_forall_not_mem]
    intro id hid
    exact h ⟨id, Firebase.mem_keys_remove.mp hid⟩
  | _ => exact absurd trivial h

/-- Where nodes with children are delivered as maps, the dashboard shows the store throughout a run
of the app iff the store is not empty to begin with and no step of the run deletes the only
event. -/
theorem tracks_iff_keepsOne (sdk : Firebase.Rendering) (hmaps : sdk.DeliversMaps)
    (events : Firebase.Node) (past : List String) (ls : List (Label ι))
    (hdecode : AllDecode events) :
    LTS.Always (appStep sdk) (State.initial events past) ls
        (fun p s => Tracks sdk events (storeLog sdk (State.initial events past) p) s) ↔
      events.keys ≠ [] ∧ LTS.Guarded (appStep sdk) (State.initial events past) ls KeepsOne := by
  by_cases hne : events.keys = []
  · refine iff_of_false (fun h => ?_) (fun h => h.1 hne)
    exact not_tracks_of_nil hne (h [] _ (List.nil_prefix) LTS.run_nil)
  rw [and_iff_right hne]
  refine LTS.always_iff_guarded_of_run (I := fun _ s => HasEvents s)
    ⟨hne, fun _ h => absurd rfl h⟩ ?_ ?_ ?_
  · intro p s hrun hevents
    exact (holdsLog_of_run hdecode hrun).tracks hmaps hevents
  · intro p s l s' hrun hevents hkeeps hstep
    exact hevents.appStep hmaps (holdsLog_of_run hdecode hrun).decodes hkeeps hstep
  · intro p s l s' _ _ hkeeps hstep
    exact not_tracks_of_nil (keys_eq_nil_of_not_keepsOne hkeeps hstep)

end

/-- An event is created and then the one stored before is deleted. -/
theorem tracks_iff_keepsOne_replaced :
    ∃ (events : Firebase.Node) (ls : List (Label (Fin 1))), AllDecode events ∧
      ((LTS.run (appStep .maps) (State.initial events []) ls).map fun s => s.events.keys) =
        some ["e2"] ∧
      LTS.Always (appStep .maps) (State.initial events []) ls
        fun p s => Tracks .maps events (storeLog .maps (State.initial events []) p) s := by
  let event : Event := ⟨"e1", "Summit", "May 3", "15:30", "Muscat", 12, 300, "logo.png"⟩
  let events : Firebase.Node := LinkedHashMap.empty.set "e1" (.map (editData event))
  let creates : List (Label (Fin 1)) := [.act 0 .deliver, .act 0 .openCreate,
    .act 0 (.type .title "Expo"), .act 0 (.type .date "June 1"), .act 0 (.type .time "9:00"),
    .act 0 (.type .location "Nizwa"), .act 0 (.type .capacity "80"),
    .act 0 (.type .image "expo.png"), .save 0 "e2", .act 0 .closeForm, .act 0 (.askDelete event)]
  have hdecode : AllDecode events := fun _ hid => ⟨event, storedEvent_singleton event hid⟩
  have hcreated : (LTS.run (appStep .maps) (State.initial events []) creates).all
      (fun s => decide ("e2" ∈ s.events.keys)) = true := by
    decide +kernel
  refine ⟨events, creates ++ [.confirmDelete 0 "e1"], hdecode, by decide +kernel,
    (tracks_iff_keepsOne .maps Firebase.Rendering.deliversMaps_maps events [] _ hdecode).mpr
      ⟨by decide, LTS.guarded_concat ?_ ?_⟩⟩
  · intro p l s s' hp _ _
    have hl : l ∈ creates := hp.subset (by simp)
    cases l with
    | confirmDelete => simp [creates] at hl
    | _ => trivial
  · intro s s' hrun _
    rw [hrun] at hcreated
    exact ⟨"e2", by simpa using hcreated, by decide⟩

/-- The only event is deleted: the dashboard goes back to its loading indicator. -/
theorem deletedLast_loads :
    ¬ ∀ (n : ℕ) (sdk : Firebase.Rendering) (events : Firebase.Node) (past : List String)
      (ls : List (Label (Fin n))), sdk.DeliversMaps → AllDecode events →
      LTS.Always (appStep sdk) (State.initial events past) ls
        fun p s => Tracks sdk events (storeLog sdk (State.initial events past) p) s := by
  intro hclaim
  let event : Event := ⟨"e1", "Summit", "May 3", "15:30", "Muscat", 12, 300, "logo.png"⟩
  let events : Firebase.Node := LinkedHashMap.empty.set "e1" (.map (editData event))
  let ls : List (Label (Fin 1)) :=
    [.act 0 .deliver, .act 0 (.askDelete event), .confirmDelete 0 "e1", .act 0 .deliver]
  have hdecode : AllDecode events := fun _ hid => ⟨event, storedEvent_singleton event hid⟩
  have h : (LTS.run (appStep .maps) (State.initial events []) ls).any (fun s =>
      decide ((s.clients 0).delivered ≠ none ∧
        dashboardBody (s.clients 0).delivered = .ok .loading)) = true := by
    decide +kernel
  obtain ⟨s, hs, hloading⟩ := (Option.any_eq_true _ _).mp h
  rw [decide_eq_true_iff] at hloading
  exact (hclaim 1 .maps events [] ls Firebase.Rendering.deliversMaps_maps hdecode ls s
    List.prefix_rfl hs).notLoading 0 hloading.1 hloading.2

end EventManager.App

import EventManager.App.Tracking

/-!
# What runs leave alone, and where their changes come from

Three facts about every interleaving of any number of clients.

A save writes with `update`, so a record keeps the entries that no form writes, as long as the event
is not deleted. A delete comes from a dialog, which holds the event whose card was tapped, so an
event that is gone was asked for by the client that has confirmed it. The number of attendees goes
through the app unread: every card, form and record carries the number that was stored to begin
with.

## Main results

* `otherEntries_of_run`: the entries of a record outside the seven fields of the form stay as they
  are, in order;
* `asked_of_absent`: every event that has left the store was shown to a client, who asked for its
  deletion, has not closed the dialog since, and has confirmed;
* `attendees_of_appRun`: the app alone changes the attendees of no event.
-/

namespace EventManager.App

open Dart

section

variable {ι : Type} [DecidableEq ι] {sdk : Firebase.Rendering} {s s' : State ι} {l : Label ι}
  {p ls : List (Label ι)}
  {events : Firebase.Node} {past : List String} {id : String}

/-! ## Entries that no form writes -/

/-- The entries of the record that the form does not write. -/
def otherEntries (es : List (Dyn × Dyn)) : List (Dyn × Dyn) :=
  es.filter fun entry => Firebase.otherKey fieldNames entry.1

/-- The id is stored with a record that has the given other entries. -/
def HasOthers (others : List (Dyn × Dyn)) (id : String) (node : Firebase.Node) : Prop :=
  ∃ es, node.lookup id = some (.map es) ∧ otherEntries es = others

/-- An update of fields that the form writes keeps the other entries of every record. -/
theorem HasOthers.update {others : List (Dyn × Dyn)} {node : Firebase.Node} {id' : String}
    {fields : List (String × Dyn)} (h : HasOthers others id node)
    (hfields : fields.map Prod.fst ⊆ fieldNames) :
    HasOthers others id (Firebase.update node id' fields) := by
  obtain ⟨es, hlookup, hothers⟩ := h
  by_cases hid : id = id'
  · subst hid
    refine ⟨_, LinkedHashMap.lookup_set_self, ?_⟩
    rw [otherEntries, Firebase.filter_writeFields _ hfields, Firebase.child, hlookup]
    exact hothers
  · refine ⟨es, ?_, hothers⟩
    rw [Firebase.update, LinkedHashMap.lookup_set_of_ne hid, hlookup]

theorem HasOthers.step {others : List (Dyn × Dyn)} (h : HasOthers others id s.events)
    (hknown : Known s) (heffect : Effect sdk s l s') (hl : ∀ c, l ≠ .confirmDelete c id) :
    HasOthers others id s'.events := by
  cases heffect with
  | acted => exact h
  | refused => exact h
  | edited c key form id' data => exact h.update (List.Subset.refl fieldNames)
  | created c key form _ _ _ hfresh =>
    obtain ⟨es, hlookup, hothers⟩ := h
    -- the pushed key is fresh and the id is not
    have hne : id ≠ key := by
      rintro rfl
      exact hfresh (hknown.stored id (LinkedHashMap.mem_keys_iff.mpr ⟨_, hlookup⟩))
    exact ⟨es, (LinkedHashMap.lookup_set_of_ne hne).trans hlookup, hothers⟩
  | deleted c event =>
    obtain ⟨es, hlookup, hothers⟩ := h
    have hne : id ≠ event.id := by
      rintro rfl
      exact hl c rfl
    refine ⟨es, ?_, hothers⟩
    rw [Firebase.remove, LinkedHashMap.lookup_remove, if_neg hne, hlookup]
  | attended id' attendees => exact h.update (by simp [fieldNames])

/-- For every interleaving of the clients and of other writers of attendees: as long as no delete of
the event is confirmed, the record of the event keeps the entries outside the seven fields of the
form, in their order. -/
theorem otherEntries_of_run (sdk : Firebase.Rendering) (events : Firebase.Node)
    (past : List String) (ls : List (Label ι)) (s : State ι) (id : String) (es : List (Dyn × Dyn))
    (hes : events.lookup id = some (.map es))
    (hrun : LTS.run (step sdk) (State.initial events past) ls = some s)
    (hls : ∀ c, Label.confirmDelete c id ∉ ls) :
    ∃ es', s.events.lookup id = some (.map es') ∧ otherEntries es' = otherEntries es := by
  have hguard : LTS.Guarded (step sdk) (State.initial events past) ls
      (fun (_ : State ι) l => ∀ c, l ≠ .confirmDelete c id) := by
    rintro p l t t' hp - - c rfl
    exact hls c (hp.subset (by simp))
  refine (LTS.invariant_of_guarded
    (I := fun _ s => Known s ∧ HasOthers (otherEntries es) id s.events)
    ⟨known_initial events past, es, hes, rfl⟩ ?_ hguard hrun).2
  rintro _ t l t' ⟨hknown, hothers⟩ hl hstep
  have heffect := effect_of_step hstep
  exact ⟨hknown.step heffect, hothers.step hknown heffect hl⟩

/-- The event that the following runs start with. -/
def summit : Event := ⟨"e1", "Summit", "May 3", "15:30", "Muscat", 12, 300, "logo.png"⟩

/-- A record of the event with an entry of its own. -/
def summitRecord : List (Dyn × Dyn) := editData summit ++ [(.string "notes", .list [.bool true])]

/-- The node with that record. -/
def summitNode : Firebase.Node := LinkedHashMap.empty.set "e1" (.map summitRecord)

/-- The event is edited by one client, and its attendees are set by another writer. -/
theorem otherEntries_of_run_edited :
    ∃ (ls : List (Label (Fin 1))) (s : State (Fin 1)) (es' : List (Dyn × Dyn)),
      LTS.run (step .maps) (State.initial summitNode []) ls = some s ∧
      s.events.lookup "e1" = some (.map es') ∧
      otherEntries es' = [(.string "notes", .list [.bool true])] := by
  let ls : List (Label (Fin 1)) := [.act 0 .deliver, .act 0 (.openEdit summit),
    .act 0 (.type .title "Expo"), .attend "e1" 13, .save 0 "e2", .act 0 .closeForm]
  have hsome : (LTS.run (step .maps) (State.initial summitNode []) ls).isSome = true := by
    decide +kernel
  obtain ⟨s, hs⟩ := Option.isSome_iff_exists.mp hsome
  obtain ⟨es', hlookup, hothers⟩ := otherEntries_of_run .maps summitNode [] ls s "e1" summitRecord
    rfl hs (by simp [ls])
  exact ⟨ls, s, es', hs, hlookup, hothers⟩

/-! ## Deletions that were asked for -/

/-- In the history the client has had the card of the event on its dashboard, has asked for its
deletion, and has not closed the dialog since. -/
def Asked (sdk : Firebase.Rendering) (events : Firebase.Node) (past : List String)
    (history : List (Label ι)) (c : ι) (e : Event) : Prop :=
  ∃ before after t, history = before ++ .act c (.askDelete e) :: after ∧
    LTS.run (step sdk) (State.initial events past) before = some t ∧ e ∈ (t.clients c).cards ∧
    Label.act c .closeDialog ∉ after

/-- An event is in the dialog of a client because it has just been put there, or because it was in
there and stays. -/
theorem dialog_of_act {value : Dyn} {c c' : Client} {a : Action} {e : Event}
    (h : c.act value a = some c') (hdialog : c'.dialog = some e) :
    a = .askDelete e ∧ e ∈ c.cards ∨ a ≠ .closeDialog ∧ c.dialog = some e := by
  cases a with
  | askDelete event =>
    simp only [Client.act] at h
    split at h
    · next hshown =>
      obtain rfl := Option.some.inj h
      obtain rfl := Option.some.inj hdialog
      exact Or.inl ⟨rfl, by simpa using (Bool.and_eq_true_iff.mp hshown).2⟩
    · simp at h
  | closeDialog =>
    obtain rfl := Option.some.inj h
    simp at hdialog
  | openEdit event =>
    simp only [Client.act, initState_editData] at h
    split at h
    · obtain rfl := Option.some.inj h
      exact Or.inr ⟨by simp, hdialog⟩
    · simp at h
  | openCreate =>
    simp only [Client.act, initState] at h
    split at h
    · obtain rfl := Option.some.inj h
      exact Or.inr ⟨by simp, hdialog⟩
    · simp at h
  | type field text =>
    obtain ⟨form, -, rfl⟩ := Option.map_eq_some_iff.mp h
    exact Or.inr ⟨by simp, hdialog⟩
  | deliver =>
    obtain rfl := Option.some.inj h
    exact Or.inr ⟨by simp, hdialog⟩
  | closeForm =>
    obtain rfl := Option.some.inj h
    exact Or.inr ⟨by simp, hdialog⟩

/-- A step that does not close the dialog leaves what was asked for asked for. -/
theorem Asked.concat {c : ι} {e : Event} (h : Asked sdk events past p c e)
    (hl : l ≠ .act c .closeDialog) : Asked sdk events past (p ++ [l]) c e := by
  obtain ⟨before, after, t, rfl, ht, hshown, hafter⟩ := h
  refine ⟨before, after ++ [l], t, by simp, ht, hshown, ?_⟩
  simp [hafter, Ne.symm hl]

/-- In every run, each delete dialog holds an event that was asked for. -/
theorem asked_of_run (hrun : LTS.run (step sdk) (State.initial events past) ls = some s) :
    ∀ c e, (s.clients c).dialog = some e → Asked sdk events past ls c e := by
  refine LTS.invariant_of_run
    (I := fun p s => ∀ c e, (s.clients c).dialog = some e → Asked sdk events past p c e) ?_ ?_ hrun
  · intro c e hdialog
    simp [State.initial, Client.fresh] at hdialog
  · intro p s l s' hp h hl c e hdialog
    by_cases hact : ∃ a, l = .act c a
    · obtain ⟨a, rfl⟩ := hact
      obtain ⟨client, hclient, rfl⟩ := Option.map_eq_some_iff.mp hl
      have hdialog : client.dialog = some e := by simpa using hdialog
      obtain ⟨rfl, hshown⟩ | ⟨hne, hdialog⟩ := dialog_of_act hclient hdialog
      · exact ⟨p, [], s, rfl, hp, hshown, by simp⟩
      · exact (h c e hdialog).concat (by simpa using hne)
    · -- the other steps leave the client as it is
      have hsame : s'.clients c = s.clients c := by
        cases effect_of_step hl with
        | acted d a client =>
          exact Function.update_of_ne (fun hcd => hact ⟨a, by rw [hcd]⟩) _ _
        | _ => rfl
      rw [hsame] at hdialog
      exact (h c e hdialog).concat fun heq => hact ⟨_, heq⟩

/-- For every interleaving: if an event is in the store at some point of a run and is not in the
store at a later point, then in between some client has confirmed its deletion. That client has had
the card of the event on its dashboard, has asked for the deletion from it and has not closed the
dialog before confirming. -/
theorem asked_of_absent (sdk : Firebase.Rendering) (events : Firebase.Node) (past : List String)
    (p ls : List (Label ι)) (s s' : State ι) (id : String)
    (hrun : LTS.run (step sdk) (State.initial events past) p = some s) (hid : id ∈ s.events.keys)
    (hrun' : LTS.run (step sdk) s ls = some s') (habsent : id ∉ s'.events.keys) :
    ∃ c e q r, ls = q ++ .confirmDelete c id :: r ∧ e.id = id ∧
      Asked sdk events past (p ++ q) c e := by
  obtain ⟨q, l, r, t, t', rfl, ht, hmem, hl, hgone⟩ :=
    LTS.exists_step_of_lost (I := fun s => id ∈ s.events.keys) hid hrun' habsent
  have hrun_t : LTS.run (step sdk) (State.initial events past) (p ++ q) = some t := by
    rw [LTS.run_append, hrun]
    exact ht
  -- of all steps only a delete removes an event
  cases effect_of_step hl with
  | acted => exact absurd hmem hgone
  | refused => exact absurd hmem hgone
  | edited => exact absurd (Firebase.mem_keys_update.mpr (Or.inr hmem)) hgone
  | created => exact absurd (Firebase.mem_keys_push.mpr (Or.inr hmem)) hgone
  | deleted c event hdialog =>
    have hevent : event.id = id := by
      by_contra hne
      exact hgone (Firebase.mem_keys_remove.mpr ⟨hmem, Ne.symm hne⟩)
    exact ⟨c, event, q, r, by rw [hevent], hevent, asked_of_run hrun_t c event hdialog⟩
  | attended => exact absurd (Firebase.mem_keys_update.mpr (Or.inr hmem)) hgone

/-- The event is deleted from its card. -/
theorem asked_of_absent_deleted :
    ∃ (ls : List (Label (Fin 1))) (s : State (Fin 1)),
      LTS.run (step .maps) (State.initial summitNode []) ls = some s ∧ "e1" ∉ s.events.keys ∧
      ∃ c e q r, ls = q ++ .confirmDelete c "e1" :: r ∧ e.id = "e1" ∧
        Asked .maps summitNode [] ([] ++ q) c e := by
  let ls : List (Label (Fin 1)) :=
    [.act 0 .deliver, .act 0 (.askDelete summit), .confirmDelete 0 "e1"]
  have hrun : (LTS.run (step .maps) (State.initial summitNode []) ls).any
      (fun s => decide ("e1" ∉ s.events.keys)) = true := by
    decide +kernel
  obtain ⟨s, hs, habsent⟩ := (Option.any_eq_true _ _).mp hrun
  rw [decide_eq_true_iff] at habsent
  exact ⟨ls, s, hs, habsent, asked_of_absent .maps summitNode [] [] ls _ s "e1" LTS.run_nil
    (by decide) hs habsent⟩

/-! ## Attendees -/

/-- The attendees of the id in the initial store, and none if the id was not stored. -/
def initialAttendees (events : Firebase.Node) (id : String) : Int64 :=
  match storedEvent events id with
  | some e => e.attendees
  | none => 0

/-- The cards and the form of the client have the given attendees. -/
structure Client.Carries (attendees : String → Int64) (c : Client) : Prop where
  cards : ∀ e ∈ c.cards, e.attendees = attendees e.id
  form : ∀ form id data, c.form = some form → form.edited = some (id, data) →
    form.savedAttendees = attendees id

theorem carries_fresh (attendees : String → Int64) : Client.fresh.Carries attendees := by
  refine ⟨fun e he => ?_, fun form id data hform => ?_⟩
  · simp [Client.fresh, Client.cards, dashboardBody, pure, Except.pure] at he
  · simp [Client.fresh] at hform

/-- The stored events have the given attendees, and an id that was never used has none. -/
structure Stocked (attendees : String → Int64) (s : State ι) : Prop where
  stored : ∀ id e, storedEvent s.events id = some e → e.attendees = attendees id
  fresh : ∀ id, id ∉ s.used → attendees id = 0
  clients : ∀ c, (s.clients c).Carries attendees

theorem Acted.carries {attendees : String → Int64} {node : Firebase.Node} {c c' : Client}
    (hacted : Acted (sdk.value node) c c')
    (hnode : ∀ id e, storedEvent node id = some e → e.attendees = attendees id)
    (h : c.Carries attendees) : c'.Carries attendees := by
  cases hacted with
  | delivered =>
    exact ⟨fun e he => hnode e.id e (storedEvent_of_cards rfl he), h.form⟩
  | openedEdit event hshown =>
    refine ⟨h.cards, fun form id data hform hedited => ?_⟩
    obtain rfl := Option.some.inj hform
    obtain ⟨rfl, -⟩ := Prod.mk.inj (Option.some.inj hedited)
    -- the form writes the attendees of the card
    rw [Form.savedAttendees, attendees_of_editData rfl]
    exact h.cards event hshown
  | openedCreate =>
    refine ⟨h.cards, fun form id data hform hedited => ?_⟩
    obtain rfl := Option.some.inj hform
    simp at hedited
  | typed form' field text hform' =>
    refine ⟨h.cards, fun form id data hform hedited => ?_⟩
    obtain rfl := Option.some.inj hform
    exact h.form form' id data hform' hedited
  | closedForm => exact ⟨h.cards, fun form id data hform => by simp at hform⟩
  | _ => exact ⟨h.cards, h.form⟩

/-- Storing an event with its attendees keeps those of the others. -/
theorem stored_of_update {attendees : String → Int64} {node node' : Firebase.Node} {id : String}
    {event : Option Event} (h : ∀ id e, storedEvent node id = some e → e.attendees = attendees id)
    (hnode' : storedEvent node' = Function.update (storedEvent node) id event)
    (hevent : ∀ e, event = some e → e.attendees = attendees id) :
    ∀ id e, storedEvent node' id = some e → e.attendees = attendees id := by
  rw [hnode']
  exact (Function.forall_update_iff _ fun id event => ∀ e : Event, event = some e →
    e.attendees = attendees id).mpr ⟨hevent, fun id _ => h id⟩

theorem Stocked.appStep {attendees : String → Int64} (h : Stocked attendees s)
    (hedits : ∀ c, (s.clients c).EditsEvent) (hstep : appStep sdk s l = some s') :
    Stocked attendees s' := by
  obtain ⟨happ, hstep⟩ := appStep_eq_some hstep
  have heffect := effect_of_step hstep
  have hclients := heffect.forall_clients (fun _ _ hacted => hacted.carries h.stored) h.clients
  cases heffect with
  | acted => exact ⟨h.stored, h.fresh, hclients⟩
  | refused => exact h
  | edited c key form id data hform hvalid hedited =>
    refine ⟨?_, h.fresh, h.clients⟩
    have hattendees := attendees_of_editsEvent (hedits c) hform
    refine stored_of_update h.stored (storedEvent_update s.events id hvalid hattendees) ?_
    rintro e ⟨⟩
    exact (h.clients c).form form id data hform hedited
  | created c key form hform hvalid hedited hfresh =>
    refine ⟨?_, fun id hid => h.fresh id fun hmem => hid (List.mem_cons_of_mem key hmem), h.clients⟩
    have hattendees := attendees_of_editsEvent (hedits c) hform
    refine stored_of_update h.stored (storedEvent_push s.events key hvalid hattendees) ?_
    rintro e ⟨⟩
    -- a new event has no attendees, and neither has a new key
    show form.savedAttendees = attendees key
    rw [h.fresh key hfresh, Form.savedAttendees, Form.attendees, hedited]
  | deleted c event =>
    refine ⟨?_, h.fresh, h.clients⟩
    exact stored_of_update h.stored (storedEvent_remove s.events event.id) (by simp)
  | attended => simp [Label.throughApp] at happ

theorem stocked_of_appRun (hrun : LTS.run (appStep sdk) (State.initial events past) ls = some s) :
    Stocked (initialAttendees events) s := by
  refine LTS.invariant_of_run (I := fun _ s => Stocked (initialAttendees events) s) ?_ ?_ hrun
  · refine ⟨fun id e he => ?_, fun id hid => ?_, fun _ => carries_fresh _⟩
    · rw [initialAttendees, show storedEvent events id = some e from he]
    · -- an id that is not used is not stored
      have hnone : storedEvent events id = none := by
        rw [Option.eq_none_iff_forall_ne_some]
        exact fun e he => hid (List.mem_append_left _ (mem_keys_of_storedEvent he))
      rw [initialAttendees, hnone]
  · exact fun _ _ _ _ hp h hl => h.appStep (editsEvent_of_appRun hp) hl

/-- Through the app alone the attendees never change: in every run of creates, edits and deletes by
any number of clients, stale forms of deleted events included, every stored event has the number of
attendees that its id had in the initial store, and none if the id was not stored there. The same
holds of every card that a client shows. -/
theorem attendees_of_appRun (sdk : Firebase.Rendering) (events : Firebase.Node)
    (past : List String) (ls : List (Label ι)) (s : State ι)
    (hrun : LTS.run (appStep sdk) (State.initial events past) ls = some s) :
    (∀ id e, storedEvent s.events id = some e → e.attendees = initialAttendees events id) ∧
      ∀ c, ∀ e ∈ (s.clients c).cards, e.attendees = initialAttendees events e.id := by
  have hstocked := stocked_of_appRun hrun
  exact ⟨hstocked.stored, fun c => (hstocked.clients c).cards⟩

/-- A form that was opened before the event was deleted brings it back with its attendees. -/
theorem attendees_of_appRun_broughtBack :
    ∃ (s : State (Fin 2)) (e : Event), LTS.run (appStep .maps) (State.initial summitNode [])
        [.act 0 .deliver, .act 1 .deliver, .act 0 (.openEdit summit), .act 1 (.askDelete summit),
          .confirmDelete 1 "e1", .save 0 "e2"] = some s ∧
      storedEvent s.events "e1" = some e ∧ e.attendees = 12 := by
  have hrun : (LTS.run (appStep .maps) (State.initial summitNode []) [.act (0 : Fin 2) .deliver,
      .act 1 .deliver, .act 0 (.openEdit summit), .act 1 (.askDelete summit),
      .confirmDelete 1 "e1", .save 0 "e2"]).any
        (fun s => (storedEvent s.events "e1").isSome) = true := by
    decide +kernel
  obtain ⟨s, hs, hstored⟩ := (Option.any_eq_true _ _).mp hrun
  obtain ⟨e, he⟩ := Option.isSome_iff_exists.mp hstored
  exact ⟨s, e, hs, he, (attendees_of_appRun .maps summitNode [] _ s hs).1 "e1" e he⟩

end

end EventManager.App

import EventManager.App.Clients

/-!
# Two edits of one event

A save in edit mode writes all seven fields of the record: the six of the form, changed or not, and
`attendees` from the snapshot the form was opened from. So it undoes every change that was made to
the record since that snapshot, except in the fields the user has changed.

`TwoEdits` is any run in which two forms of one event are saved, in any interleaving with the other
steps of any number of clients, none of which writes a form of that event or deletes it.

## Main results

* `kept_iff_upToDate`: neither save loses a change iff the second form was opened up to date in the
  fields that only the first user changed, and both forms were opened with the number of attendees
  that is stored when they are saved.
-/

namespace EventManager.App

open Dart

/-! ## Runs with two edits -/

section

variable {ι : Type} [DecidableEq ι] {sdk : Firebase.Rendering} {s s' : State ι} {l : Label ι}
  {id name : String}

/-- The stored value of a field of an event. -/
def stored (s : State ι) (id name : String) : Dyn := Firebase.field (Firebase.child s.events id) name

/-- The client `c` saves an accepted form for the event, opened from `data`. -/
structure Saves (sdk : Firebase.Rendering) (s s' : State ι) (c : ι) (id : String)
    (data : List (Dyn × Dyn)) (form : Form) : Prop where
  isOpen : (s.clients c).form = some form
  edited : form.edited = some (id, data)
  accepted : form.validate = true
  saved : ∃ key, step sdk s (.save c key) = some s'

/-- The step neither saves an accepted form for the event nor deletes the event. -/
def LeavesEvent (id : String) (s : State ι) (l : Label ι) : Prop :=
  (∀ c key form data, l = .save c key → (s.clients c).form = some form → form.validate = true →
    form.edited ≠ some (id, data)) ∧ ∀ c, l ≠ .confirmDelete c id

theorem Saves.events_eq {c : ι} {data : List (Dyn × Dyn)} {form : Form}
    (h : Saves sdk s s' c id data form) :
    s'.events = Firebase.update s.events id form.eventData := by
  obtain ⟨hopen, hedited, haccepted, key, hstep⟩ := h
  -- in edit mode the key is not used
  have hwrite : step sdk s (.save c key) =
      some { s with events := Firebase.update s.events id form.eventData } := by
    simp [step, hopen, saveEvent, haccepted, hedited, State.write]
  rw [hwrite, Option.some.injEq] at hstep
  rw [← hstep]

/-- After a save the record holds the user's value in every field of the form. -/
theorem Saves.stored_field {c : ι} {data : List (Dyn × Dyn)} {form : Form}
    (h : Saves sdk s s' c id data form) (field : Field) :
    stored s' id field.name = form.value field := by
  rw [stored, h.events_eq]
  exact Firebase.field_update_of_mem (nodup_names_eventData form) (mem_eventData h.accepted field)

/-- After a save the record holds the number of attendees that the form was opened with. -/
theorem Saves.stored_attendees {c : ι} {data : List (Dyn × Dyn)} {form : Form}
    (h : Saves sdk s s' c id data form) (hedits : (s.clients c).EditsEvent) :
    stored s' id "attendees" = Dyn.get data "attendees" := by
  obtain ⟨event, rfl, rfl⟩ := hedits form id data h.isOpen h.edited
  rw [stored, h.events_eq, get_editData_attendees, ← attendees_of_editData h.edited]
  exact Firebase.field_update_of_mem (nodup_names_eventData form) (attendees_mem_eventData form)

/-- A step that leaves the event alone changes no field of it but the attendees. -/
theorem stored_of_leaves (hknown : id ∈ s.used) (hleaves : LeavesEvent id s l)
    (heffect : Effect sdk s l s') (hname : name ≠ "attendees") :
    stored s' id name = stored s id name ∧ id ∈ s'.used := by
  unfold stored
  cases heffect with
  | acted => exact ⟨rfl, hknown⟩
  | refused => exact ⟨rfl, hknown⟩
  | edited c key form id' data hform hvalid hedited =>
    have hne : id ≠ id' := by
      rintro rfl
      exact hleaves.1 c key form data rfl hform hvalid hedited
    exact ⟨by rw [Firebase.child_update_of_ne hne], hknown⟩
  | created c key form _ _ _ hfresh =>
    -- the pushed key is fresh and the id is not
    have hne : id ≠ key := by
      rintro rfl
      exact hfresh hknown
    exact ⟨by rw [Firebase.child_push_of_ne hne], List.mem_cons_of_mem key hknown⟩
  | deleted c event =>
    have hne : id ≠ event.id := by
      rintro rfl
      exact hleaves.2 c rfl
    exact ⟨by rw [Firebase.child_remove_of_ne hne], hknown⟩
  | attended id' attendees =>
    by_cases hid : id = id'
    · -- only the field `attendees` is written
      subst hid
      exact ⟨Firebase.field_update_of_not_mem (by simpa using hname), hknown⟩
    · exact ⟨by rw [Firebase.child_update_of_ne hid], hknown⟩

theorem stored_of_run {ls : List (Label ι)} (hknown : id ∈ s.used)
    (hrun : LTS.run (step sdk) s ls = some s')
    (hleaves : LTS.Guarded (step sdk) s ls (LeavesEvent id)) (hname : name ≠ "attendees") :
    stored s' id name = stored s id name := by
  have h := LTS.invariant_of_guarded
    (I := fun _ t => stored t id name = stored s id name ∧ id ∈ t.used) ⟨rfl, hknown⟩
    (fun _ t l t' ht hl hstep => ?_) hleaves hrun
  · exact h.1
  · obtain ⟨hsame, hused⟩ := stored_of_leaves ht.2 hl (effect_of_step hstep) hname
    exact ⟨hsame.trans ht.1, hused⟩

/-- A run in which the client `a` saves a form for an event and later the client `b` does. Before
the first save anything may have happened; between the saves no other form for the event is saved
and the event is not deleted. -/
structure TwoEdits (ι : Type) [DecidableEq ι] (sdk : Firebase.Rendering) where
  events : Firebase.Node
  past : List String
  before : List (Label ι)
  between : List (Label ι)
  s₁ : State ι
  s₂ : State ι
  s₃ : State ι
  s₄ : State ι
  id : String
  a : ι
  dataA : List (Dyn × Dyn)
  formA : Form
  b : ι
  dataB : List (Dyn × Dyn)
  formB : Form
  run₁ : LTS.run (step sdk) (State.initial events past) before = some s₁
  saveA : Saves sdk s₁ s₂ a id dataA formA
  run₂ : LTS.run (step sdk) s₂ between = some s₃
  leaves : LTS.Guarded (step sdk) s₂ between (LeavesEvent id)
  saveB : Saves sdk s₃ s₄ b id dataB formB

namespace TwoEdits

/-- The two users have changed different fields. -/
def DisjointChanges (r : TwoEdits ι sdk) : Prop :=
  ∀ field, ¬ (r.formA.changed field = true ∧ r.formB.changed field = true)

/-- If the users have changed different fields, the record holds after both saves the value of each
user in every field that this user has changed; and neither save changes the stored number of
attendees. -/
def Kept (r : TwoEdits ι sdk) : Prop :=
  (r.DisjointChanges →
    (∀ field, r.formA.changed field = true →
      stored r.s₄ r.id field.name = r.formA.value field) ∧
    ∀ field, r.formB.changed field = true →
      stored r.s₄ r.id field.name = r.formB.value field) ∧
  stored r.s₂ r.id "attendees" = stored r.s₁ r.id "attendees" ∧
  stored r.s₄ r.id "attendees" = stored r.s₃ r.id "attendees"

/-- If the users have changed different fields, the second form was opened with the values that the
fields changed by the first user have in the store when the second form is saved; and each form was
opened with the number of attendees that is stored when it is saved. -/
def UpToDate (r : TwoEdits ι sdk) : Prop :=
  (r.DisjointChanges → ∀ field, r.formA.changed field = true →
    Dyn.get r.dataB field.name = stored r.s₃ r.id field.name) ∧
  Dyn.get r.dataA "attendees" = stored r.s₁ r.id "attendees" ∧
  Dyn.get r.dataB "attendees" = stored r.s₃ r.id "attendees"

variable (r : TwoEdits ι sdk)

/-- The run up to the second save. -/
theorem run_before_saveB : ∃ key, LTS.run (step sdk) (State.initial r.events r.past)
    (r.before ++ ([.save r.a key] ++ r.between)) = some r.s₃ := by
  obtain ⟨key, hkey⟩ := r.saveA.saved
  refine ⟨key, ?_⟩
  rw [LTS.run_append, r.run₁, Option.bind_some, LTS.run_append, LTS.run_cons, hkey]
  exact r.run₂

theorem editsEvent_a : (r.s₁.clients r.a).EditsEvent := editsEvent_of_run r.run₁ r.a

theorem editsEvent_b : (r.s₃.clients r.b).EditsEvent := by
  obtain ⟨key, hrun⟩ := r.run_before_saveB
  exact editsEvent_of_run hrun r.b

/-- What the first save has written is still there when the second form is saved. -/
theorem stored_s₃ (field : Field) : stored r.s₃ r.id field.name = r.formA.value field := by
  have hrun : LTS.run (step sdk) (State.initial r.events r.past)
      (r.before ++ [.save r.a r.saveA.saved.choose]) = some r.s₂ :=
    LTS.run_concat_eq_some.mpr ⟨r.s₁, r.run₁, r.saveA.saved.choose_spec⟩
  -- the event is stored after the first save, so its id is no fresh key
  have hstored : r.id ∈ r.s₂.events.keys := by
    rw [r.saveA.events_eq, Firebase.mem_keys_update]
    exact Or.inl rfl
  have hname : field.name ≠ "attendees" := by cases field <;> decide
  rw [stored_of_run ((known_of_run hrun).stored _ hstored) r.run₂ r.leaves hname]
  exact r.saveA.stored_field field

end TwoEdits

/-- In every run with two edits of an event, nothing is lost exactly if the forms were opened up to
date. -/
theorem kept_iff_upToDate (r : TwoEdits ι sdk) : r.Kept ↔ r.UpToDate := by
  have hattendees :
      (stored r.s₂ r.id "attendees" = stored r.s₁ r.id "attendees" ∧
        stored r.s₄ r.id "attendees" = stored r.s₃ r.id "attendees") ↔
      (Dyn.get r.dataA "attendees" = stored r.s₁ r.id "attendees" ∧
        Dyn.get r.dataB "attendees" = stored r.s₃ r.id "attendees") := by
    rw [r.saveA.stored_attendees r.editsEvent_a, r.saveB.stored_attendees r.editsEvent_b]
  -- what is left is about the fields of the form
  rw [TwoEdits.Kept, TwoEdits.UpToDate, hattendees]
  refine and_congr_left fun _ => forall_congr' fun hdisjoint => ?_
  -- the second save writes the fields of the first user back as they were opened
  have hback (field : Field) (hchanged : r.formA.changed field = true) :
      stored r.s₄ r.id field.name = Dyn.get r.dataB field.name := by
    have hsame : r.formB.changed field = false := by
      rw [← Bool.not_eq_true]
      exact fun hb => hdisjoint field ⟨hchanged, hb⟩
    obtain ⟨event, hid, hdata⟩ := r.editsEvent_b r.formB r.id r.dataB r.saveB.isOpen r.saveB.edited
    rw [r.saveB.stored_field, ← hdata]
    refine value_of_unchanged ?_ hsame
    rw [r.saveB.edited, hid, hdata]
  constructor
  · rintro ⟨hkeptA, -⟩ field hchanged
    rw [← hback field hchanged, hkeptA field hchanged, r.stored_s₃]
  · intro hopened
    refine ⟨fun field hchanged => ?_, fun field _ => r.saveB.stored_field field⟩
    rw [hback field hchanged, hopened field hchanged, r.stored_s₃]

/-- A run with two edits, found by evaluating its steps. Between the saves the clients only act on
their own screens. -/
theorem exists_twoEdits (sdk : Firebase.Rendering) (events : Firebase.Node)
    (before between : List (Label ι)) (a b : ι) (id : String) (dataA dataB : List (Dyn × Dyn))
    (P : State ι → State ι → State ι → Form → Form → Bool)
    (hacts : ∀ l ∈ between, ∃ c action, l = .act c action)
    (h : ((LTS.run (step sdk) (State.initial events []) before).any fun s₁ =>
      (s₁.clients a).form.any fun formA => (step sdk s₁ (.save a "")).any fun s₂ =>
      (LTS.run (step sdk) s₂ between).any fun s₃ => (s₃.clients b).form.any fun formB =>
      (step sdk s₃ (.save b "")).any fun s₄ =>
        (decide (formA.edited = some (id, dataA)) && formA.validate) &&
        (decide (formB.edited = some (id, dataB)) && formB.validate) &&
        P s₁ s₃ s₄ formA formB) = true) :
    ∃ r : TwoEdits ι sdk, (r.id = id ∧ r.dataA = dataA ∧ r.dataB = dataB) ∧
      P r.s₁ r.s₃ r.s₄ r.formA r.formB = true := by
  simp only [Option.any_eq_true, Bool.and_eq_true, decide_eq_true_eq] at h
  obtain ⟨s₁, hrun₁, formA, hopenA, s₂, hsaveA, s₃, hrun₂, formB, hopenB, s₄, hsaveB,
    ⟨⟨heditedA, hvalidA⟩, heditedB, hvalidB⟩, hP⟩ := h
  have hleaves : LTS.Guarded (step sdk) s₂ between (LeavesEvent id) := by
    intro p l s s' hp _ _
    obtain ⟨c, action, rfl⟩ := hacts l (hp.subset (by simp))
    exact ⟨by simp, by simp⟩
  exact ⟨⟨events, [], before, between, s₁, s₂, s₃, s₄, id, a, dataA, formA, b, dataB, formB, hrun₁,
    ⟨hopenA, heditedA, hvalidA, "", hsaveA⟩, hrun₂, hleaves,
    ⟨hopenB, heditedB, hvalidB, "", hsaveB⟩⟩, ⟨rfl, rfl, rfl⟩, hP⟩

end

/-- The second user opens the form after the first one has saved: the new title and the new
location are both in the record. -/
theorem kept_iff_upToDate_sequential :
    ∃ r : TwoEdits (Fin 2) .maps, r.DisjointChanges ∧ r.formA.changed .title = true ∧
      r.formB.changed .location = true ∧ r.Kept := by
  let event : Event := ⟨"e1", "Summit", "May 3", "15:30", "Muscat", 12, 300, "logo.png"⟩
  let renamed : Event := ⟨"e1", "Expo", "May 3", "15:30", "Muscat", 12, 300, "logo.png"⟩
  obtain ⟨r, ⟨hid, hdataA, hdataB⟩, hP⟩ := exists_twoEdits .maps
    (LinkedHashMap.empty.set "e1" (.map (editData event)))
    [.act 0 .deliver, .act 0 (.openEdit event), .act 0 (.type .title "Expo")]
    [.act 0 .closeForm, .act (1 : Fin 2) .deliver, .act 1 (.openEdit renamed),
      .act 1 (.type .location "Nizwa")]
    0 1 "e1" (editData event) (editData renamed)
    (fun s₁ s₃ _ formA formB =>
      (Field.all.all fun field => formA.changed field == decide (field = .title)) &&
      (Field.all.all fun field => formB.changed field == decide (field = .location)) &&
      decide (stored s₁ "e1" "attendees" = .int 12 ∧ stored s₃ "e1" "attendees" = .int 12 ∧
        stored s₃ "e1" "title" = .string "Expo"))
    (by simp) (by decide +kernel)
  simp only [Bool.and_eq_true, List.all_eq_true, beq_iff_eq, decide_eq_true_eq] at hP
  obtain ⟨⟨hchangedA, hchangedB⟩, hattendees₁, hattendees₃, htitle⟩ := hP
  have hA (field : Field) : r.formA.changed field = decide (field = .title) :=
    hchangedA field field.mem_all
  have hB (field : Field) : r.formB.changed field = decide (field = .location) :=
    hchangedB field field.mem_all
  refine ⟨r, ?_, by rw [hA]; rfl, by rw [hB]; rfl, (kept_iff_upToDate r).mpr ⟨?_, ?_, ?_⟩⟩
  · intro field
    rw [hA, hB]
    cases field <;> simp
  · intro _ field hchanged
    rw [hA, decide_eq_true_iff] at hchanged
    rw [hchanged, hdataB, hid]
    exact htitle.symm
  · rw [hdataA, hid]
    exact hattendees₁.symm
  · rw [hdataB, hid]
    exact hattendees₃.symm

/-- Both users open the form from the same snapshot. The first one changes the title, the second
one the location, and the second save writes the old title back. -/
theorem staleForm_loses_title :
    ¬ ∀ (n : ℕ) (sdk : Firebase.Rendering) (r : TwoEdits (Fin n) sdk), r.Kept := by
  intro hclaim
  let event : Event := ⟨"e1", "Summit", "May 3", "15:30", "Muscat", 12, 300, "logo.png"⟩
  obtain ⟨r, ⟨hid, -, -⟩, hP⟩ := exists_twoEdits .maps
    (LinkedHashMap.empty.set "e1" (.map (editData event)))
    [.act 0 .deliver, .act 0 (.openEdit event), .act 0 (.type .title "Expo"),
      .act (1 : Fin 2) .deliver, .act 1 (.openEdit event), .act 1 (.type .location "Nizwa")]
    [] 0 1 "e1" (editData event) (editData event)
    (fun _ _ s₄ formA formB =>
      (Field.all.all fun field => !(formA.changed field && formB.changed field)) &&
      formA.changed .title && decide (stored s₄ "e1" "title" ≠ formA.value .title))
    (by simp) (by decide +kernel)
  simp only [Bool.and_eq_true, List.all_eq_true, Bool.not_eq_true', Bool.and_eq_false_iff,
    decide_eq_true_eq] at hP
  obtain ⟨⟨hdisjoint, htitle⟩, hlost⟩ := hP
  have hdisjoint : r.DisjointChanges := by
    rintro field ⟨hA, hB⟩
    rcases hdisjoint field field.mem_all with h | h
    · simp [hA] at h
    · simp [hB] at h
  refine hlost ?_
  rw [← hid]
  exact ((hclaim 2 .maps r).1 hdisjoint).1 .title htitle

end EventManager.App

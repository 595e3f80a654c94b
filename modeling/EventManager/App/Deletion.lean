import EventManager.App.Clients

/-!
# Deleted events

`update` creates the node it writes to. A form that was opened before its event was deleted still
holds the event's id, and saving it brings the event back. Nothing else does: pushed keys are
fresh, and every other write is to a stored event.

## Main results

* `staysDeleted_iff_savesStored`: deleted events stay deleted throughout a run iff no step of the
  run saves an accepted edit form whose event is gone.
-/

namespace EventManager.App

open Dart

section

variable {ι : Type} {sdk : Firebase.Rendering} {s s' : State ι} {l : Label ι} {p : List (Label ι)}
  {id : String}

/-- A delete of the event was applied in the run. -/
def Deleted (p : List (Label ι)) (id : String) : Prop := ∃ c, Label.confirmDelete c id ∈ p

/-- No event whose delete was applied in the run is in the store. -/
def StaysDeleted (p : List (Label ι)) (s : State ι) : Prop :=
  ∀ id, Deleted p id → id ∉ s.events.keys

/-- If the step saves an edit form that the validators accept, the event of the form is in the
store. -/
def SavesStored (s : State ι) (l : Label ι) : Prop :=
  ∀ c key form id data, l = .save c key → (s.clients c).form = some form →
    form.validate = true → form.edited = some (id, data) → id ∈ s.events.keys

/-- The invariant behind `staysDeleted_iff_savesStored`. Every id that a client holds was stored at
some time, so it is stored now or was deleted since. -/
structure Tracked (p : List (Label ι)) (s : State ι) : Prop where
  known : Known s
  gone : ∀ id, Deleted p id → id ∈ s.used ∧ id ∉ s.events.keys
  held : ∀ c id, (s.clients c).Holds id → id ∈ s.events.keys ∨ Deleted p id

theorem tracked_initial (events : Firebase.Node) (past : List String) :
    Tracked [] (State.initial events past : State ι) := by
  refine ⟨known_initial events past, ?_, ?_⟩
  · rintro id ⟨c, hc⟩
    simp at hc
  · exact fun c id hid => absurd hid (not_holds_fresh id)

theorem deleted_concat_iff :
    Deleted (p ++ [l]) id ↔ Deleted p id ∨ ∃ c, l = .confirmDelete c id := by
  simp only [Deleted, List.mem_append, List.mem_singleton, exists_or, eq_comm]

/-- A step that deletes nothing keeps the deleted ids. -/
theorem deleted_concat_iff_of_ne (hl : ∀ c id, l ≠ .confirmDelete c id) :
    Deleted (p ++ [l]) id ↔ Deleted p id := by
  rw [deleted_concat_iff]
  exact or_iff_left fun ⟨c, hc⟩ => hl c id hc

variable [DecidableEq ι]

/-- A step that deletes nothing and keeps the stored keys keeps the invariant. -/
theorem Tracked.of_same_keys (h : Tracked p s) (heffect : Effect sdk s l s')
    (hl : ∀ c id, l ≠ .confirmDelete c id)
    (hkeys : ∀ id, id ∈ s'.events.keys ↔ id ∈ s.events.keys) (hused : s'.used = s.used) :
    Tracked (p ++ [l]) s' := by
  refine ⟨h.known.step heffect, ?_, ?_⟩
  · intro id hid
    rw [hused, hkeys]
    exact h.gone id ((deleted_concat_iff_of_ne hl).mp hid)
  · intro c id hid
    rw [hkeys, deleted_concat_iff_of_ne hl]
    rcases heffect.holds hid with hid | hid
    · exact h.held c id hid
    · exact Or.inl hid

/-- Every step but the save of an edit form whose event is gone keeps the invariant. -/
theorem Tracked.step (h : Tracked p s) (hsaves : SavesStored s l) (heffect : Effect sdk s l s') :
    Tracked (p ++ [l]) s' := by
  have hknown := h.known.step heffect
  have hsame := h.of_same_keys heffect
  cases heffect with
  | acted => exact hsame (by simp) (fun _ => Iff.rfl) rfl
  | refused => exact hsame (by simp) (fun _ => Iff.rfl) rfl
  | edited c key form id data hform hvalid hedited =>
    -- the update writes to a stored event
    have hid := hsaves c key form id data rfl hform hvalid hedited
    refine hsame (by simp) (fun id' => ?_) rfl
    rw [Firebase.mem_keys_update]
    exact or_iff_right_of_imp fun heq => heq ▸ hid
  | created c key form hform hvalid hedited hfresh =>
    -- the pushed key is fresh, so it is the key of no deleted event
    refine ⟨hknown, fun id hid => ?_, fun d id hid => ?_⟩
    · obtain ⟨hused, habsent⟩ := h.gone id ((deleted_concat_iff_of_ne (by simp)).mp hid)
      refine ⟨List.mem_cons_of_mem key hused, fun hmem => ?_⟩
      rcases Firebase.mem_keys_push.mp hmem with rfl | hmem
      · exact hfresh hused
      · exact habsent hmem
    · rw [Firebase.mem_keys_push, deleted_concat_iff_of_ne (by simp)]
      rcases h.held d id hid with hid | hid
      · exact Or.inl (Or.inr hid)
      · exact Or.inr hid
  | deleted c event hdialog =>
    -- the event moves from the store to the deleted ones
    have hdeleted (id : String) :
        Deleted (p ++ [.confirmDelete c event.id]) id ↔ Deleted p id ∨ event.id = id := by
      rw [deleted_concat_iff]
      simp
    refine ⟨hknown, fun id hid => ?_, fun d id hid => ?_⟩
    · rw [Firebase.mem_keys_remove]
      rcases (hdeleted id).mp hid with hid | rfl
      · exact ⟨(h.gone id hid).1, fun hmem => (h.gone id hid).2 hmem.1⟩
      · exact ⟨h.known.held c event.id (Or.inr (Or.inr ⟨event, hdialog, rfl⟩)),
          fun hmem => hmem.2 rfl⟩
    · rw [Firebase.mem_keys_remove, hdeleted]
      rcases h.held d id hid with hid | hid
      · by_cases heq : event.id = id
        · exact Or.inr (Or.inr heq)
        · exact Or.inl ⟨hid, Ne.symm heq⟩
      · exact Or.inr (Or.inl hid)
  | attended id attendees hmem =>
    refine hsame (by simp) (fun id' => ?_) rfl
    rw [Firebase.mem_keys_update]
    exact or_iff_right_of_imp fun heq => heq ▸ hmem

/-- Saving an edit form whose event is gone brings a deleted event back. -/
theorem Tracked.not_staysDeleted (h : Tracked p s) (hsaves : ¬ SavesStored s l)
    (heffect : Effect sdk s l s') : ¬ StaysDeleted (p ++ [l]) s' := by
  simp only [SavesStored, not_forall] at hsaves
  obtain ⟨c, key, form, id, data, rfl, hform, hvalid, hedited, habsent⟩ := hsaves
  -- the form holds an id that is not stored, so its event was deleted
  have hdeleted : Deleted p id := by
    have hheld : (s.clients c).Holds id := Or.inr (Or.inl ⟨form, data, hform, hedited⟩)
    exact (h.held c id hheld).resolve_left habsent
  intro hstays
  refine hstays id (deleted_concat_iff.mpr (Or.inl hdeleted)) ?_
  -- the form is accepted and in edit mode, so the step is an update
  cases heffect with
  | refused _ _ form' hform' hvalid' =>
    rw [hform, Option.some.injEq] at hform'
    rw [← hform', hvalid] at hvalid'
    simp at hvalid'
  | edited _ _ form' id' data' hform' _ hedited' =>
    rw [hform, Option.some.injEq] at hform'
    rw [← hform', hedited] at hedited'
    obtain ⟨rfl, -⟩ := Prod.mk.inj (Option.some.inj hedited')
    exact Firebase.mem_keys_update.mpr (Or.inl rfl)
  | created _ _ form' hform' _ hedited' =>
    rw [hform, Option.some.injEq] at hform'
    rw [← hform', hedited] at hedited'
    simp at hedited'

/-- For any clients, any SDK, any initial store and any run, deleted events are absent from the
store at every point of the run exactly if every edit form that the run saves is the form of a
stored event. -/
theorem staysDeleted_iff_savesStored (sdk : Firebase.Rendering) (events : Firebase.Node)
    (past : List String) (ls : List (Label ι)) :
    LTS.Always (step sdk) (State.initial events past) ls StaysDeleted ↔
      LTS.Guarded (step sdk) (State.initial events past) ls SavesStored := by
  refine LTS.always_iff_guarded (I := Tracked) (tracked_initial events past) ?_ ?_ ?_
  · exact fun p s h id hid => (h.gone id hid).2
  · exact fun p s l s' h hsaves hstep => h.step hsaves (effect_of_step hstep)
  · exact fun p s l s' h hsaves hstep => h.not_staysDeleted hsaves (effect_of_step hstep)

end

/-- One client opens the edit form of an event, another one deletes the event, and the first one
saves the form. -/
theorem deletedEvent_saved_again :
    ¬ ∀ (n : ℕ) (sdk : Firebase.Rendering) (events : Firebase.Node) (past : List String)
      (ls : List (Label (Fin n))),
      LTS.Always (step sdk) (State.initial events past) ls StaysDeleted := by
  intro hclaim
  let event : Event := ⟨"e1", "Summit", "May 3", "15:30", "Muscat", 12, 300, "logo.png"⟩
  let record : Dyn := .map (editData event)
  let ls : List (Label (Fin 2)) := [.act 0 .deliver, .act 0 (.openEdit event), .act 1 .deliver,
    .act 1 (.askDelete event), .confirmDelete 1 "e1", .save 0 "e2"]
  -- the form was opened before the delete and is saved after it
  have h : (LTS.run (step .maps) (State.initial (LinkedHashMap.empty.set "e1" record) []) ls).any
      (fun s => decide ("e1" ∈ s.events.keys)) = true := by
    decide +kernel
  obtain ⟨s, hs, hmem⟩ := (Option.any_eq_true _ _).mp h
  rw [decide_eq_true_iff] at hmem
  exact hclaim 2 .maps _ [] ls ls s List.prefix_rfl hs "e1" ⟨1, by simp [ls]⟩ hmem

end EventManager.App

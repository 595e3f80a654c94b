import EventManager.Console.Runs

/-!
# Integrity of the store

Two results about the commands as a whole. A round that ends in the `catch` branch has not touched
the store, wherever it failed, and any other round makes one elementary change at most. And the
sessions refer to events that occur, except after the deletion of an event that a session refers
to: `addSession` checks the reference and `deleteEvent` does not look at the sessions.

## Main results

* `round_atomic`: what a round can do to the three collections;
* `referential_iff_guardedDeletes`: the references are intact throughout a run iff no confirmed
  deletion of the run removes an event that a session refers to.
-/

namespace EventManager.Console

open Dart Dart.Program

variable {stdin : List String} {draws : Stream' (Fin 100000)} {n : ℕ} {m : Menu}

/-! ## Atomicity of a round -/

/-- A round that ends in the `catch` branch leaves the store as it was. A round that does not throw
leaves it, appends an event, appends a session, removes every event with one id, or sets one key of
the registrations. -/
theorem round_atomic (w : World) :
    (∀ e, (tryOutcome w).1 = .error e → (iteration w).2.store = w.store) ∧
    ∀ control, (tryOutcome w).1 = .ok control →
      (iteration w).2.store = w.store ∨
      (∃ event, (iteration w).2.store = { w.store with events := w.store.events ++ [event] }) ∨
      (∃ session,
        (iteration w).2.store = { w.store with sessions := w.store.sessions ++ [session] }) ∨
      (∃ id, (iteration w).2.store =
        { w.store with events := w.store.events.filter fun e => e.eventId ≠ id }) ∨
      ∃ key r, (iteration w).2.store =
        { w.store with registrations := w.store.registrations.set key r } := by
  rw [iteration_store]
  refine ⟨?_, ?_⟩
  · intro e he
    rw [requestedChange_of_error he]
    rfl
  · intro control _
    cases requestedChange w with
    | nothing => exact Or.inl rfl
    | addEvent event => exact Or.inr (Or.inl ⟨event, rfl⟩)
    | addSession session => exact Or.inr (Or.inr (Or.inl ⟨session, rfl⟩))
    | removeEvents id =>
      refine Or.inr (Or.inr (Or.inr (Or.inl ⟨id, ?_⟩)))
      -- `removeWhere` keeps the events for which the test is false
      have htest : (fun e : Event => !(e.eventId == id)) = fun e => decide (e.eventId ≠ id) := by
        ext e
        rw [decide_not]
        rfl
      rw [Change.apply, htest]
    | register r => exact Or.inr (Or.inr (Or.inr (Or.inr ⟨r.registrationId, r, rfl⟩)))

/-! ## References -/

/-- Every session belongs to an event that occurs. -/
def Referential (s : Store) : Prop :=
  ∀ session ∈ s.sessions, ∃ e ∈ s.events, e.eventId = session.eventId

/-- The round that starts in `w` is a confirmed deletion: command 4, the id of an event that occurs
and the answer `y`. -/
def ConfirmsDelete (w : World) (id : Int64) : Prop :=
  ∃ choice target answer rest, w.stdin = choice :: target :: answer :: rest ∧
    int.tryParse choice = some 4 ∧ int.tryParse target = some id ∧
    (∃ e ∈ w.store.events, e.eventId = id) ∧ answer.toLower = "y"

/-- If the round is a confirmed deletion, no session refers to the deleted id. -/
def DeletesUnreferenced (w : World) : Prop :=
  ∀ id, ConfirmsDelete w id → ∀ session ∈ w.store.sessions, session.eventId ≠ id

theorem mem_removeEvents {s : Store} {id : Int64} {e : Event} :
    e ∈ ((Change.removeEvents id).apply s).events ↔ e ∈ s.events ∧ e.eventId ≠ id := by
  simp [Change.apply]

/-- Every permitted change but the removal of a referenced event keeps the references. -/
theorem referential_apply {s : Store} {d : Fin 100000} {c : Change} (h : Referential s)
    (hc : c.Permitted s (drawnId d))
    (hremove : ∀ id, c = .removeEvents id → ∀ session ∈ s.sessions, session.eventId ≠ id) :
    Referential (c.apply s) := by
  intro session hsession
  cases c with
  | nothing => exact h session hsession
  | register r => exact h session hsession
  | addEvent event =>
    obtain ⟨e, he, hid⟩ := h session hsession
    exact ⟨e, List.mem_append_left _ he, hid⟩
  | addSession added =>
    -- the new session was checked, the others were there
    rcases List.mem_append.mp hsession with hold | hnew
    · exact h session hold
    · rw [List.mem_singleton] at hnew
      rw [hnew]
      exact hc.2
  | removeEvents id =>
    obtain ⟨e, he, hid⟩ := h session hsession
    refine ⟨e, mem_removeEvents.mpr ⟨he, ?_⟩, hid⟩
    rw [hid]
    exact hremove id rfl session hsession

/-- Removing an event that a session refers to leaves that session without its event. -/
theorem not_referential_removeEvents {s : Store} {session : Session} (hmem : session ∈ s.sessions) :
    ¬ Referential ((Change.removeEvents session.eventId).apply s) := by
  intro h
  obtain ⟨e, he, hid⟩ := h session hmem
  exact (mem_removeEvents.mp he).2 hid

/-- In a run of `n` rounds every session's event occurs, at any point, exactly if no confirmed
deletion of the run removes an event that a session refers to. -/
theorem referential_iff_guardedDeletes (stdin : List String) (draws : Stream' (Fin 100000))
    (n : ℕ) :
    (∀ k ≤ n, ∀ m, afterRounds stdin draws k = some m → Referential m.world.store) ↔
      ∀ k < n, ∀ m, afterRounds stdin draws k = some m → m.control = .again →
        DeletesUnreferenced m.world := by
  refine rounds_always_iff (I := fun _ m => Referential m.world.store) ?_ (fun _ _ h => h) ?_ ?_
  · exact List.forall_mem_nil _
  · intro _ m h _ hdeletes
    rw [nextMenu_store]
    refine referential_apply h (requestedChange_permitted m.world) fun id hid => ?_
    exact hdeletes id (requestedChange_eq_removeEvents_iff.mp hid)
  · intro _ m _ _ hdeletes
    simp only [DeletesUnreferenced, not_forall, not_not] at hdeletes
    obtain ⟨id, hconfirms, session, hmem, rfl⟩ := hdeletes
    rw [nextMenu_store, requestedChange_eq_removeEvents_iff.mpr hconfirms]
    exact not_referential_removeEvents hmem

/-- An event is added, then a session for it, then the event is deleted. -/
theorem deletedEvent_leaves_session :
    ¬ ∀ stdin draws n m, afterRounds stdin draws n = some m → Referential m.world.store := by
  intro hclaim
  have h : (afterRounds
      ["1", "Summit", "May", "Muscat", "9", "5", "0", "8", "Opening", "10:00", "5", "4", "0", "y"]
      (Stream'.cons 0 (Stream'.const 1)) 3).any
      (fun m => m.world.store.events = [] ∧
        m.world.store.sessions = [⟨1, 0, 8, "Opening", "10:00", 5⟩]) = true := by
    decide +kernel
  obtain ⟨m, hm, hp⟩ := (Option.any_eq_true _ _).mp h
  simp only [decide_eq_true_eq] at hp
  obtain ⟨hevents, hsessions⟩ := hp
  obtain ⟨e, he, -⟩ := hclaim _ _ _ m hm ⟨1, 0, 8, "Opening", "10:00", 5⟩ (by simp [hsessions])
  simp [hevents] at he

end EventManager.Console

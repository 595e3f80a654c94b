import EventManager.Console.Interaction
import EventManager.Console.Search

/-!
# What a run keeps and lists

Events are the only records that the program removes. Sessions are appended, a registration is set
under a key that stays, and the output grows at its end, so an earlier state of a run is the
beginning of a later one.

The list that `displayEvents` prints is read off the history of the run: it has one line for each
event that was added and not deleted since, in the order of their addition.

## Main results

* `keeps_of_run`: sessions, registration ids and the output are append-only, and a session id stands
  for the same session from its first use on;
* `displayEvents_lists_history`: what `displayEvents` prints in every state the program reaches.
-/

namespace EventManager.Console

open Dart Dart.Program KeyedList

variable {stdin : List String} {draws : Stream' (Fin 100000)} {n k : ℕ} {m m' : Menu}

/-! ## What is never removed -/

/-- The later state starts with the sessions, registration ids and output of the earlier one. -/
structure Keeps (w w' : World) : Prop where
  sessions : w.store.sessions <+: w'.store.sessions
  registrations : w.store.registrations.keys <+: w'.store.registrations.keys
  stdout : w.stdout <+: w'.stdout

theorem Keeps.refl (w : World) : Keeps w w :=
  ⟨List.prefix_rfl, List.prefix_rfl, List.prefix_rfl⟩

theorem Keeps.trans {w₁ w₂ w₃ : World} (h : Keeps w₁ w₂) (h' : Keeps w₂ w₃) : Keeps w₁ w₃ :=
  ⟨h.sessions.trans h'.sessions, h.registrations.trans h'.registrations,
    h.stdout.trans h'.stdout⟩

theorem Change.sessions_prefix_apply (c : Change) (s : Store) :
    s.sessions <+: (c.apply s).sessions := by
  cases c with
  | addSession session => exact List.prefix_append s.sessions [session]
  | _ => exact List.prefix_rfl

theorem Change.registrations_prefix_apply (c : Change) (s : Store) :
    s.registrations.keys <+: (c.apply s).registrations.keys := by
  cases c with
  | register r =>
    -- a used key keeps its place, a new one comes last
    simp only [apply]
    by_cases hr : r.registrationId ∈ s.registrations.keys
    · rw [LinkedHashMap.keys_set_of_mem hr]
    · rw [LinkedHashMap.keys_set_of_not_mem hr]
      exact List.prefix_append _ _
  | _ => exact List.prefix_rfl

theorem keeps_iteration (w : World) : Keeps w (iteration w).2 := by
  refine ⟨?_, ?_, ?_⟩
  · rw [iteration_store]
    exact (requestedChange w).sessions_prefix_apply w.store
  · rw [iteration_store]
    exact (requestedChange w).registrations_prefix_apply w.store
  · obtain ⟨-, -, out, -, -, hstdout, -⟩ := iteration_consumes ⟨.again, w⟩
    rw [hstdout]
    exact List.prefix_append w.stdout out

theorem keeps_of_rounds (hrun : afterRounds stdin draws n = some m)
    (hrun' : afterRounds stdin draws (n + k) = some m') : Keeps m.world m'.world := by
  induction k generalizing m' with
  | zero =>
    obtain rfl := Option.some.inj (hrun.symm.trans hrun')
    exact .refl _
  | succ k ih =>
    obtain ⟨m₁, hm₁, -, rfl⟩ := afterRounds_succ_eq_some.mp hrun'
    exact (ih hm₁).trans (keeps_iteration m₁.world)

/-- Sessions, registration ids and the output of a run only grow at their end. So the session that
is found for an id is found for it in every later state, and a registration id stays in use. -/
theorem keeps_of_run (stdin : List String) (draws : Stream' (Fin 100000)) (n k : ℕ) (m m' : Menu)
    (hrun : afterRounds stdin draws n = some m)
    (hrun' : afterRounds stdin draws (n + k) = some m') :
    Keeps m.world m'.world ∧
      (∀ id session, (m.world.store.sessions.find? fun s => s.sessionId == id) = some session →
        (m'.world.store.sessions.find? fun s => s.sessionId == id) = some session) ∧
      ∀ id r, m.world.store.registrations.lookup id = some r →
        ∃ r', m'.world.store.registrations.lookup id = some r' := by
  have hkeeps := keeps_of_rounds hrun hrun'
  refine ⟨hkeeps, fun id session hfind => ?_, fun id r hlookup => ?_⟩
  · exact hkeeps.sessions.find?_eq_some hfind
  · rw [← LinkedHashMap.mem_keys_iff]
    exact hkeeps.registrations.subset (LinkedHashMap.mem_keys_iff.mpr ⟨r, hlookup⟩)

/-- A session is found before and after another one is added with the same id. -/
theorem keeps_of_run_sameId :
    ∃ m m', afterRounds ["1", "Summit", "May 3", "Muscat", "8", "5", "0", "4", "Opening", "9:00",
        "20", "5", "0", "4", "Closing", "17:00", "10"] (Stream'.const 0) 2 = some m ∧
      afterRounds ["1", "Summit", "May 3", "Muscat", "8", "5", "0", "4", "Opening", "9:00",
        "20", "5", "0", "4", "Closing", "17:00", "10"] (Stream'.const 0) (2 + 1) = some m' ∧
      m'.world.store.sessions.length = 2 ∧
      (m'.world.store.sessions.find? fun s => s.sessionId == 0) =
        some ⟨0, 0, 4, "Opening", "9:00", 20⟩ := by
  let stdin := ["1", "Summit", "May 3", "Muscat", "8", "5", "0", "4", "Opening", "9:00", "20",
    "5", "0", "4", "Closing", "17:00", "10"]
  have hearly : (afterRounds stdin (Stream'.const 0) 2).any (fun m => decide
      ((m.world.store.sessions.find? fun s => s.sessionId == 0) =
        some ⟨0, 0, 4, "Opening", "9:00", 20⟩)) = true := by
    decide +kernel
  have hlate : (afterRounds stdin (Stream'.const 0) (2 + 1)).any (fun m =>
      m.world.store.sessions.length == 2) = true := by
    decide +kernel
  obtain ⟨m, hm, hfind⟩ := (Option.any_eq_true _ _).mp hearly
  obtain ⟨m', hm', hlength⟩ := (Option.any_eq_true _ _).mp hlate
  exact ⟨m, m', hm, hm', by simpa using hlength,
    (keeps_of_run _ _ 2 1 m m' hm hm').2.1 0 _ (by simpa using hfind)⟩

/-! ## The list of events -/

/-- The line of `displayEvents` for an event. -/
def eventLine (e : Event) : Output :=
  .print (s!"ID: {e.eventId} |Organizer ID: {e.organizerId} " ++
    s!"|Title: {e.title} |Lcation: {e.location} |Date: {e.date}")

/-- What `displayEvents` prints for a list of events. -/
def eventsList (events : List Event) : List Output :=
  if events.isEmpty then [.print "No events available."]
  else [.print "\n----- Events List -----", .print "-----------------------------"] ++
    events.map eventLine ++ [.print "-----------------------------"]

theorem exec_displayEvents (w : World) :
    exec displayEvents w =
      (.ok (), { w with stdout := w.stdout ++ eventsList w.store.events }) := by
  unfold displayEvents eventsList
  rw [exec_bind, exec_getStore]
  dsimp only
  split
  · simp
  · simp [eventLine]

/-- In every state the program reaches, `displayEvents` prints one line for each event that was
added and not deleted since, in the order of their addition, and that there are no events exactly if
all were deleted. -/
theorem displayEvents_lists_history (stdin : List String) (draws : Stream' (Fin 100000)) (n : ℕ)
    (m : Menu) (w : World) (hrun : afterRounds stdin draws n = some m)
    (hw : w.store = m.world.store) :
    exec displayEvents w = (.ok (), { w with
      stdout := w.stdout ++ eventsList (surviving Event.eventId (eventHistory stdin draws n)) }) := by
  rw [exec_displayEvents, hw, events_eq_replay hrun, replay_eq_surviving]

/-- Three events are added, two of them with one id, and this id is deleted. -/
theorem displayEvents_lists_history_afterDeletion :
    ∃ stdin draws n m, afterRounds stdin draws n = some m ∧
      (exec displayEvents m.world).2.stdout = m.world.stdout ++
        [.print "\n----- Events List -----", .print "-----------------------------",
          eventLine ⟨8, 9, "Expo", "July", "Sur"⟩, .print "-----------------------------"] := by
  let stdin := ["1", "Summit", "May", "Muscat", "9", "1", "Fair", "June", "Nizwa", "9",
    "1", "Expo", "July", "Sur", "9", "4", "7", "y"]
  let draws : Stream' (Fin 100000) := [7, 7] ++ₛ Stream'.const 8
  have h : (afterRounds stdin draws 4).isSome = true := by decide +kernel
  have hlist : eventsList (surviving Event.eventId (eventHistory stdin draws 4)) =
      [.print "\n----- Events List -----", .print "-----------------------------",
        eventLine ⟨8, 9, "Expo", "July", "Sur"⟩, .print "-----------------------------"] := by
    decide +kernel
  obtain ⟨m, hm⟩ := Option.isSome_iff_exists.mp h
  have hdisplay := displayEvents_lists_history stdin draws 4 m m.world hm rfl
  rw [hlist] at hdisplay
  exact ⟨stdin, draws, 4, m, hm, by rw [hdisplay]⟩

end EventManager.Console

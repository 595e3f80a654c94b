import EventManager.Console.Identifiers
import EventManager.ToMathlib.KeyedList

/-!
# Searching after a run

`searchEvent` takes the first event with the id, `addEvent` appends and `deleteEvent` removes all
events with an id. So what a search finds can be read off the history of the run: the earliest
event that was added with the id after the last confirmed deletion of the id.

`eventHistory` is that history. A round contributes to it if it adds an event or confirms a
deletion; other commands, cancelled deletions, unknown ids and failed rounds do not.

## Main results

* `searchEvent_reports_history`: what `searchEvent` reports in every state the program reaches.
-/

namespace EventManager.Console

open Dart Dart.Program KeyedList

variable {stdin : List String} {draws : Stream' (Fin 100000)} {n : ℕ} {m : Menu}

/-! ## The history of a run -/

/-- The event that the round starting in `w` adds: command 1 with three texts and an organizer id. -/
def addedEvent (w : World) : Option Event :=
  match w.stdin with
  | choice :: title :: date :: location :: organizer :: _ =>
    if int.tryParse choice = some 1 then
      (int.tryParse organizer).map fun organizerId =>
        ⟨drawnId w.draws.head, organizerId, title, date, location⟩
    else none
  | _ => none

/-- The id whose deletion the round starting in `w` confirms: command 4, the id of an event that
occurs and the answer `y`. -/
def confirmedDeletion (w : World) : Option Int64 :=
  match w.stdin with
  | choice :: target :: answer :: _ =>
    if int.tryParse choice = some 4 ∧ answer.toLower = "y" then
      (int.tryParse target).filter fun id => w.store.events.any fun e => e.eventId == id
    else none
  | _ => none

/-- What the round starting in `w` contributes to the history. -/
def eventOp (w : World) : Option (Op Event Int64) :=
  ((addedEvent w).map Op.add).or ((confirmedDeletion w).map Op.remove)

/-- The events added and the deletions confirmed in the first `n` rounds, in order. -/
def eventHistory (stdin : List String) (draws : Stream' (Fin 100000)) (n : ℕ) :
    List (Op Event Int64) :=
  (List.range n).filterMap fun k => (afterRounds stdin draws k).bind fun m => eventOp m.world

theorem addedEvent_eq_some_iff {w : World} {event : Event} :
    addedEvent w = some event ↔ requestedChange w = .addEvent event := by
  rw [requestedChange_eq_addEvent_iff]
  constructor
  · intro h
    unfold addedEvent at h
    split at h
    · next choice title date location organizer rest hstdin =>
      split at h
      · next hchoice =>
        obtain ⟨organizerId, horganizer, rfl⟩ := Option.map_eq_some_iff.mp h
        exact ⟨choice, title, date, location, organizer, rest, hstdin, hchoice, horganizer, rfl,
          rfl, rfl, rfl⟩
      · simp at h
    · simp at h
  · rintro ⟨choice, title, date, location, organizer, rest, hstdin, hchoice, horganizer, hid, rfl,
      rfl, rfl⟩
    simp [addedEvent, hstdin, hchoice, horganizer, ← hid]

theorem confirmedDeletion_eq_some_iff {w : World} {id : Int64} :
    confirmedDeletion w = some id ↔ requestedChange w = .removeEvents id := by
  rw [requestedChange_eq_removeEvents_iff]
  constructor
  · intro h
    unfold confirmedDeletion at h
    split at h
    · next choice target answer rest hstdin =>
      split at h
      · next hconfirm =>
        obtain ⟨htarget, hany⟩ := Option.filter_eq_some_iff.mp h
        exact ⟨choice, target, answer, rest, hstdin, hconfirm.1, htarget, by simpa using hany,
          hconfirm.2⟩
      · simp at h
    · simp at h
  · rintro ⟨choice, target, answer, rest, hstdin, hchoice, htarget, hoccurs, hanswer⟩
    have hany : (w.store.events.any fun e => e.eventId == id) = true := by simpa using hoccurs
    simp [confirmedDeletion, hstdin, hchoice, htarget, hanswer, Option.filter, hany]

/-- A round contributes to the history the change it makes to the events. -/
theorem eventOp_eq (w : World) :
    eventOp w = match requestedChange w with
      | .addEvent event => some (.add event)
      | .removeEvents id => some (.remove id)
      | _ => none := by
  have hadded (h : ∀ event, requestedChange w ≠ .addEvent event) : addedEvent w = none := by
    rw [Option.eq_none_iff_forall_ne_some]
    exact fun event hevent => h event (addedEvent_eq_some_iff.mp hevent)
  have hdeleted (h : ∀ id, requestedChange w ≠ .removeEvents id) :
      confirmedDeletion w = none := by
    rw [Option.eq_none_iff_forall_ne_some]
    exact fun id hid => h id (confirmedDeletion_eq_some_iff.mp hid)
  cases hchange : requestedChange w with
  | addEvent event => simp [eventOp, addedEvent_eq_some_iff.mpr hchange]
  | removeEvents id =>
    simp [eventOp, hadded (by simp [hchange]), confirmedDeletion_eq_some_iff.mpr hchange]
  | _ => simp [eventOp, hadded (by simp [hchange]), hdeleted (by simp [hchange])]

/-- A round does to the events what it contributes to the history. -/
theorem events_nextMenu (w : World) :
    (nextMenu w).world.store.events =
      (eventOp w).toList.foldl (KeyedList.apply Event.eventId) w.store.events := by
  rw [nextMenu_store, eventOp_eq]
  cases requestedChange w <;> rfl

theorem eventHistory_succ (hrun : afterRounds stdin draws n = some m) :
    eventHistory stdin draws (n + 1) = eventHistory stdin draws n ++ (eventOp m.world).toList := by
  rw [eventHistory, List.range_succ, List.filterMap_append]
  cases hop : eventOp m.world <;> simp [eventHistory, hrun, hop]

/-- The events are what the history of the run leaves. -/
theorem events_eq_replay (hrun : afterRounds stdin draws n = some m) :
    m.world.store.events = replay Event.eventId (eventHistory stdin draws n) := by
  induction n generalizing m with
  | zero =>
    obtain rfl := Option.some.inj hrun
    rfl
  | succ n ih =>
    obtain ⟨m₀, hrun₀, -, rfl⟩ := afterRounds_succ_eq_some.mp hrun
    rw [events_nextMenu, ih hrun₀, eventHistory_succ hrun₀, replay, replay, List.foldl_append]

/-! ## Searches -/

/-- What `searchEvent` prints for what it has found. -/
def searchReport : Option Event → Output
  | some e => foundReport e
  | none => .print "Event not found."

theorem searchReport_eq_notFound_iff {found : Option Event} :
    searchReport found = .print "Event not found." ↔ found = none := by
  cases found with
  | none => simp [searchReport]
  | some e =>
    -- the two lines differ in their first character
    have hne : s!"Found: {e.title} at {e.location}" ≠ "Event not found." := by
      intro h
      have hhead := congrArg (fun line => line.toList.head?) h
      simp [toString] at hhead
    simpa [searchReport, foundReport] using hne

/-- In every state the program reaches, a search for an id reports the title and location of the
earliest event added with the id after the last confirmed deletion of the id, and that no event was
found exactly if there is no such event. Only the additions and deletions of the id itself matter. -/
theorem searchEvent_reports_history {w : World} {line : String} {rest : List String} {id : Int64}
    (hrun : afterRounds stdin draws n = some m) (hw : w.store = m.world.store)
    (hstdin : w.stdin = line :: rest) (hline : int.tryParse line = some id) :
    (exec searchEvent w).2.stdout = w.stdout ++ [.write "Enter Event ID: ",
      searchReport (current Event.eventId id (eventHistory stdin draws n))] ∧
    (searchReport (current Event.eventId id (eventHistory stdin draws n)) =
      .print "Event not found." ↔ current Event.eventId id (eventHistory stdin draws n) = none) ∧
    current Event.eventId id (eventHistory stdin draws n) = current Event.eventId id
      ((eventHistory stdin draws n).filter (Op.isOn Event.eventId id)) := by
  refine ⟨?_, searchReport_eq_notFound_iff, (current_filter_isOn id _).symm⟩
  rw [exec_searchEvent_stdout hstdin hline, hw, events_eq_replay hrun, find?_replay]
  rfl

/-- Two events are added with the id 7, the id is deleted, and two more events are added with it,
with a cancelled deletion between them: the first of these two is found. -/
theorem searchEvent_reports_history_afterDeletion :
    ∃ stdin draws n m, afterRounds stdin draws n = some m ∧
      (exec searchEvent { m.world with stdin := ["7"] }).2.stdout =
        m.world.stdout ++ [.write "Enter Event ID: ", .print "Found: Expo at Sur"] := by
  let stdin := ["1", "Summit", "May", "Muscat", "9", "1", "Fair", "June", "Nizwa", "9",
    "4", "7", "y", "1", "Expo", "July", "Sur", "9", "4", "7", "n", "1", "Gala", "July", "Sohar", "9"]
  have h : (afterRounds stdin (Stream'.const 7) 6).isSome = true := by decide +kernel
  have hreport : searchReport (current Event.eventId 7 (eventHistory stdin (Stream'.const 7) 6)) =
      .print "Found: Expo at Sur" := by
    decide +kernel
  obtain ⟨m, hm⟩ := Option.isSome_iff_exists.mp h
  have hsearch := (searchEvent_reports_history (w := { m.world with stdin := ["7"] }) hm rfl rfl
    (int.tryParse_toString 7)).1
  rw [hreport] at hsearch
  exact ⟨_, _, _, m, hm, hsearch⟩

end EventManager.Console

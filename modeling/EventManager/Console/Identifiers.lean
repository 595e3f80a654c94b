import EventManager.Console.Capacity

/-!
# Identifiers

Events and sessions are found by their ids in three ways: `searchEvent` and `firstWhere` take the
first match, `removeWhere` takes all of them. The three agree when the ids are distinct, and the
ids are distinct as long as `addEvent` and `addSession` do not draw an id that is taken.

## Main results

* `identified_iff_freshDraws`: ids identify events and sessions throughout a run iff every event
  and session the run adds draws an id that no other one has.
-/

namespace EventManager.Console

open Dart Dart.Program

variable {stdin : List String} {draws : Stream' (Fin 100000)} {n : ℕ} {m : Menu}

/-! ## What the lookups do -/

/-- What `searchEvent` prints when it finds the event. -/
def foundReport (e : Event) : Output := .print s!"Found: {e.title} at {e.location}"

theorem exec_searchLoop (w : World) (id : Int64) (events : List Event) :
    exec (searchLoop id events) w = (.ok (), { w with stdout := w.stdout ++
      [match events.find? fun e => e.eventId == id with
        | some e => foundReport e
        | none => .print "Event not found."] }) := by
  induction events with
  | nil => simp [searchLoop]
  | cons e es ih =>
    rw [searchLoop, List.find?_cons]
    cases he : e.eventId == id with
    | true => simp [foundReport]
    | false => simpa using ih

/-- The first event with an id is the only one, when ids are distinct. -/
theorem find?_eq_of_nodup {α : Type} {id : α → Int64} {xs : List α} {x : α}
    (hnodup : (xs.map id).Nodup) (hx : x ∈ xs) : (xs.find? fun y => id y == id x) = some x := by
  -- whatever is found has the id of `x`, so it is `x`
  cases hfind : xs.find? fun y => id y == id x with
  | none => exact absurd (List.find?_eq_none.mp hfind x hx) (by simp)
  | some y =>
    have hy : id y = id x := by simpa using List.find?_some hfind
    rw [List.inj_on_of_nodup_map hnodup (List.mem_of_find?_eq_some hfind) hx hy]

theorem filter_eq_erase_of_nodup {α : Type} [DecidableEq α] {id : α → Int64} {xs : List α} {x : α}
    (hnodup : (xs.map id).Nodup) (hx : x ∈ xs) :
    (xs.filter fun y => !(id y == id x)) = xs.erase x := by
  rw [(List.Nodup.of_map id hnodup).erase_eq_filter]
  refine List.filter_congr fun y hy => ?_
  by_cases hyx : y = x
  · simp [hyx]
  · -- another element has another id
    have hid : id y ≠ id x := fun h => hyx (List.inj_on_of_nodup_map hnodup hy hx h)
    rw [beq_false_of_ne hid, bne_iff_ne.mpr hyx]
    rfl

/-! ## Identified stores -/

/-- Ids identify: event ids and session ids are distinct, `searchEvent` on an event's id reports
that event, a confirmed `deleteEvent` on it removes that event and no other, and `registerUser` on
a session's id decides by that session's capacity. The commands may be called in any world with
this store. -/
structure Identified (s : Store) : Prop where
  events : (s.events.map Event.eventId).Nodup
  sessions : (s.sessions.map Session.sessionId).Nodup
  search : ∀ (w : World) e line rest, w.store = s → e ∈ s.events → w.stdin = line :: rest →
    int.tryParse line = some e.eventId →
    (exec searchEvent w).2.stdout = w.stdout ++ [.write "Enter Event ID: ", foundReport e]
  delete : ∀ (w : World) e line answer rest, w.store = s → e ∈ s.events →
    w.stdin = line :: answer :: rest → int.tryParse line = some e.eventId →
    answer.toLower = "y" → (exec deleteEvent w).2.store.events = s.events.erase e
  register : ∀ (w : World) session userId user target rest, w.store = s → session ∈ s.sessions →
    w.stdin = user :: target :: rest → int.tryParse user = some userId →
    int.tryParse target = some session.sessionId →
    (Records w userId session.sessionId ↔
      hasAvailableSeats session.capacity (Int64.ofNat s.registrations.length) = true)

theorem exec_searchEvent_stdout {w : World} {line : String} {rest : List String} {id : Int64}
    (hstdin : w.stdin = line :: rest) (hline : int.tryParse line = some id) :
    (exec searchEvent w).2.stdout = w.stdout ++ [.write "Enter Event ID: ",
      match w.store.events.find? fun e => e.eventId == id with
      | some e => foundReport e
      | none => .print "Event not found."] := by
  simp [searchEvent, readInt, exec_readLine, exec_parseInt, hstdin, hline, exec_searchLoop]

/-- Distinct ids are all that identification needs. -/
theorem identified_iff_nodup {s : Store} :
    Identified s ↔
      (s.events.map Event.eventId).Nodup ∧ (s.sessions.map Session.sessionId).Nodup := by
  refine ⟨fun h => ⟨h.events, h.sessions⟩, ?_⟩
  rintro ⟨hevents, hsessions⟩
  refine ⟨hevents, hsessions, ?_, ?_, ?_⟩
  · rintro w e line rest rfl he hstdin hline
    rw [exec_searchEvent_stdout hstdin hline, find?_eq_of_nodup hevents he]
  · rintro w e line answer rest rfl he hstdin hline hanswer
    -- `removeWhere` removes all events with the id, of which there is one
    have hany : (w.store.events.any fun x => x.eventId == e.eventId) = true := by
      simpa using ⟨e, he, rfl⟩
    have hchange : deleteEventChange w.store w.stdin = .removeEvents e.eventId := by
      simp [deleteEventChange, onInt, onLine, hstdin, hline, hany, hanswer]
    rw [(performs_deleteEvent w).store, hchange]
    exact filter_eq_erase_of_nodup hevents he
  · rintro w session userId user target rest rfl hsession hstdin huser htarget
    exact records_iff_hasAvailableSeats
      ⟨⟨user, target, rest, hstdin, huser, htarget⟩, find?_eq_of_nodup hsessions hsession⟩

/-! ## Runs -/

/-- The round that starts in `w` adds an event: command 1, three texts and an organizer id. -/
def AddsEvent (w : World) : Prop :=
  ∃ choice title date location organizer rest organizerId,
    w.stdin = choice :: title :: date :: location :: organizer :: rest ∧
      int.tryParse choice = some 1 ∧ int.tryParse organizer = some organizerId

/-- The round that starts in `w` adds a session: command 5, the id of an event that occurs, a
speaker id, two texts and a capacity. -/
def AddsSession (w : World) : Prop :=
  ∃ choice event speaker name time cap rest eventId speakerId capacity,
    w.stdin = choice :: event :: speaker :: name :: time :: cap :: rest ∧
      int.tryParse choice = some 5 ∧ int.tryParse event = some eventId ∧
      (∃ e ∈ w.store.events, e.eventId = eventId) ∧ int.tryParse speaker = some speakerId ∧
      int.tryParse cap = some capacity

/-- An event or session that the round adds draws an id that no event, or no session, has. -/
def DrawsFreshId (w : World) : Prop :=
  (AddsEvent w → drawnId w.draws.head ∉ w.store.events.map Event.eventId) ∧
    (AddsSession w → drawnId w.draws.head ∉ w.store.sessions.map Session.sessionId)

theorem addsEvent_iff {w : World} :
    AddsEvent w ↔
      ∃ event, requestedChange w = .addEvent event ∧ event.eventId = drawnId w.draws.head := by
  constructor
  · rintro ⟨choice, title, date, location, organizer, rest, organizerId, hstdin, hchoice,
      horganizer⟩
    refine ⟨⟨drawnId w.draws.head, organizerId, title, date, location⟩, ?_, rfl⟩
    exact requestedChange_eq_addEvent_iff.mpr ⟨choice, title, date, location, organizer, rest,
      hstdin, hchoice, horganizer, rfl, rfl, rfl, rfl⟩
  · rintro ⟨event, hevent, -⟩
    obtain ⟨choice, title, date, location, organizer, rest, hstdin, hchoice, horganizer, -⟩ :=
      requestedChange_eq_addEvent_iff.mp hevent
    exact ⟨choice, title, date, location, organizer, rest, event.organizerId, hstdin, hchoice,
      horganizer⟩

theorem addsSession_iff {w : World} :
    AddsSession w ↔ ∃ session, requestedChange w = .addSession session ∧
      session.sessionId = drawnId w.draws.head := by
  constructor
  · rintro ⟨choice, event, speaker, name, time, cap, rest, eventId, speakerId, capacity, hstdin,
      hchoice, hevent, hoccurs, hspeaker, hcap⟩
    refine ⟨⟨drawnId w.draws.head, eventId, speakerId, name, time, capacity⟩, ?_, rfl⟩
    exact requestedChange_eq_addSession_iff.mpr ⟨choice, event, speaker, name, time, cap, rest,
      hstdin, hchoice, hevent, hoccurs, hspeaker, hcap, rfl, rfl, rfl⟩
  · rintro ⟨session, hsession, -⟩
    obtain ⟨choice, event, speaker, name, time, cap, rest, hstdin, hchoice, hevent, hoccurs,
      hspeaker, hcap, -⟩ := requestedChange_eq_addSession_iff.mp hsession
    exact ⟨choice, event, speaker, name, time, cap, rest, session.eventId, session.speakerId,
      session.capacity, hstdin, hchoice, hevent, hoccurs, hspeaker, hcap⟩

/-- A round keeps the ids distinct exactly if what it adds draws a fresh id. -/
theorem identified_nextMenu_iff {w : World} (h : Identified w.store) :
    Identified (nextMenu w).world.store ↔ DrawsFreshId w := by
  rw [nextMenu_store, identified_iff_nodup]
  obtain ⟨hevents, hsessions⟩ := identified_iff_nodup.mp h
  have hpermitted := requestedChange_permitted w
  rw [DrawsFreshId, addsEvent_iff, addsSession_iff]
  -- only the two commands that add can spoil it, and each of them appends the drawn id
  cases hchange : requestedChange w with
  | nothing => simpa [Change.apply] using ⟨hevents, hsessions⟩
  | register r => simpa [Change.apply] using ⟨hevents, hsessions⟩
  | removeEvents id =>
    -- the ids that are left are a sublist of distinct ones
    have hsub := (List.filter_sublist (p := fun e => !(e.eventId == id)) (l := w.store.events)).map
      Event.eventId
    simpa [Change.apply] using ⟨hevents.sublist hsub, hsessions⟩
  | addEvent event =>
    rw [hchange] at hpermitted
    have hid : event.eventId = drawnId w.draws.head := hpermitted
    simp only [Change.apply, List.map_append, List.map_singleton]
    rw [← List.concat_eq_append, List.nodup_concat, hid]
    simp [hevents, hsessions, hid]
  | addSession session =>
    rw [hchange] at hpermitted
    have hid : session.sessionId = drawnId w.draws.head := hpermitted.1
    simp only [Change.apply, List.map_append, List.map_singleton]
    rw [← List.concat_eq_append, List.nodup_concat, hid]
    simp [hevents, hsessions, hid]

/-- In a run of `n` rounds ids identify events and sessions, at any point, exactly if every event
and session the run adds draws an id that is not taken. -/
theorem identified_iff_freshDraws (stdin : List String) (draws : Stream' (Fin 100000)) (n : ℕ) :
    (∀ k ≤ n, ∀ m, afterRounds stdin draws k = some m → Identified m.world.store) ↔
      ∀ k < n, ∀ m, afterRounds stdin draws k = some m → m.control = .again →
        DrawsFreshId m.world := by
  refine rounds_always_iff (I := fun _ m => Identified m.world.store) ?_ (fun _ _ h => h) ?_ ?_
  · exact identified_iff_nodup.mpr ⟨List.nodup_nil, List.nodup_nil⟩
  · exact fun _ m h _ hfresh => (identified_nextMenu_iff h).mpr hfresh
  · exact fun _ m h _ hused hnext => hused ((identified_nextMenu_iff h).mp hnext)

/-- Two events are given the same id. -/
theorem repeatedId_shared_by_events :
    ¬ ∀ stdin draws n m, afterRounds stdin draws n = some m → Identified m.world.store := by
  intro hclaim
  have h : (afterRounds
      ["1", "Summit", "May", "Muscat", "9", "1", "Fair", "June", "Nizwa", "9"]
      (Stream'.const 7) 2).any
      (fun m => m.world.store.events.map Event.eventId = [7, 7]) = true := by
    decide +kernel
  obtain ⟨m, hm, hp⟩ := (Option.any_eq_true _ _).mp h
  simp only [decide_eq_true_eq] at hp
  have hnodup := (hclaim _ _ _ m hm).events
  rw [hp] at hnodup
  simp at hnodup

end EventManager.Console

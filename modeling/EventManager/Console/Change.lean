import EventManager.Console.Model

/-!
# What a round of the menu does to the store

`Change` lists the ways in which a round can change the store, and `requestedChange w` reads off
the change a round starting in `w` makes: a pure function of the store, the lines the round will
read and the next draw. `Performs p w c` says that running `p` in `w` makes exactly the change `c`,
that a run that throws makes none, and that a registration is reported exactly if `c` is one. Each
command performs its change, and so does the round (`iteration_performs`), so whole runs can be
reasoned about through `requestedChange` alone.

## Main results

* `iteration_store`: the store after a round is the requested change applied to the store before;
* `requestedChange_of_error`: a round that ends in the `catch` branch requests no change;
* `count_report_iteration`: the report of a successful registration is printed exactly by the
  rounds that request a registration.
-/

namespace EventManager.Console

open Dart Dart.Program

/-- A change to the store. -/
inductive Change
  /-- The store stays as it is. -/
  | nothing
  /-- Append an event. -/
  | addEvent (event : Event)
  /-- Remove every event with the id. -/
  | removeEvents (id : Int64)
  /-- Append a session. -/
  | addSession (session : Session)
  /-- Set the registration's key in the map of registrations. -/
  | register (registration : Registration)
  deriving DecidableEq

namespace Change

/-- The store after the change. -/
def apply : Change → Store → Store
  | nothing, s => s
  | addEvent event, s => { s with events := s.events ++ [event] }
  | removeEvents id, s => { s with events := s.events.filter fun e => !(e.eventId == id) }
  | addSession session, s => { s with sessions := s.sessions ++ [session] }
  | register registration, s =>
    { s with registrations := s.registrations.set registration.registrationId registration }

/-- Whether the change records a registration. -/
def isRegister : Change → Bool
  | register _ => true
  | _ => false

/-- The menu choice that makes the change. -/
def command : Change → ℤ
  | nothing => 0
  | addEvent _ => 1
  | removeEvents _ => 4
  | addSession _ => 5
  | register _ => 6

end Change

/-! ## The change each command requests -/

/-- Read a line and go on; no change if the input has ended. -/
def onLine (lines : List String) (next : String → List String → Change) : Change :=
  match lines with
  -- `readLineSync()!` throws
  | [] => .nothing
  | line :: rest => next line rest

/-- Read a line, parse it and go on; no change if either fails. -/
def onInt (lines : List String) (next : Int64 → List String → Change) : Change :=
  onLine lines fun line rest =>
    match int.tryParse line with
    | some i => next i rest
    -- `int.parse` throws
    | none => .nothing

/-- Command 1, with the id it will draw. -/
def addEventChange (id : Int64) (lines : List String) : Change :=
  onLine lines fun title lines =>
  onLine lines fun date lines =>
  onLine lines fun location lines =>
  onInt lines fun organizerId _ =>
    .addEvent ⟨id, organizerId, title, date, location⟩

/-- Command 4: a removal needs an id that occurs and the answer `y`. -/
def deleteEventChange (s : Store) (lines : List String) : Change :=
  onInt lines fun id lines =>
    if s.events.any fun e => e.eventId == id then
      onLine lines fun answer _ => if answer.toLower == "y" then .removeEvents id else .nothing
    else .nothing

/-- Command 5: a session is added to an event that occurs. -/
def addSessionChange (s : Store) (id : Int64) (lines : List String) : Change :=
  onInt lines fun eventId lines =>
    if s.events.any fun e => e.eventId == eventId then
      onInt lines fun speakerId lines =>
      onLine lines fun name lines =>
      onLine lines fun time lines =>
      onInt lines fun capacity _ =>
        .addSession ⟨id, eventId, speakerId, name, time, capacity⟩
    else .nothing

/-- Command 6: a registration is recorded if the session exists and the number of all
registrations is below its capacity. -/
def registerUserChange (s : Store) (id : Int64) (lines : List String) : Change :=
  onInt lines fun userId lines =>
  onInt lines fun sessionId _ =>
    match s.sessions.find? fun session => session.sessionId == sessionId with
    | some session =>
      if hasAvailableSeats session.capacity (Int64.ofNat s.registrations.length) then
        .register ⟨id, userId, sessionId, .confirmed⟩
      else .nothing
    | none => .nothing

/-- The change a command makes, with the lines that follow the choice. -/
def commandChange (s : Store) (id : Int64) (choice : Int64) (lines : List String) : Change :=
  match choice.toInt with
  | 1 => addEventChange id lines
  | 4 => deleteEventChange s lines
  | 5 => addSessionChange s id lines
  | 6 => registerUserChange s id lines
  | _ => .nothing

/-- The change a round starting in `w` makes. -/
def requestedChange (w : World) : Change :=
  onInt w.stdin (commandChange w.store (drawnId w.draws.head))

/-! ## When a change is requested -/

theorem onLine_eq_iff {lines : List String} {next : String → List String → Change} {c : Change}
    (hc : c ≠ .nothing) :
    onLine lines next = c ↔ ∃ line rest, lines = line :: rest ∧ next line rest = c := by
  cases lines with
  | nil => simpa [onLine] using hc.symm
  | cons line rest => simp [onLine]

theorem onInt_eq_iff {lines : List String} {next : Int64 → List String → Change} {c : Change}
    (hc : c ≠ .nothing) :
    onInt lines next = c ↔
      ∃ line rest i, lines = line :: rest ∧ int.tryParse line = some i ∧ next i rest = c := by
  rw [onInt, onLine_eq_iff hc]
  constructor
  · rintro ⟨line, rest, rfl, h⟩
    cases hline : int.tryParse line with
    | none =>
      rw [hline] at h
      exact absurd h.symm hc
    | some i =>
      rw [hline] at h
      exact ⟨line, rest, i, rfl, hline, h⟩
  · rintro ⟨line, rest, i, rfl, hline, h⟩
    exact ⟨line, rest, rfl, by rw [hline]; exact h⟩

/-- A property of `nothing` and of every continuation holds of what a read leads to. -/
theorem onLine_induction {P : Change → Prop} {lines : List String}
    {next : String → List String → Change} (hnothing : P .nothing)
    (hnext : ∀ line rest, P (next line rest)) : P (onLine lines next) := by
  unfold onLine
  split
  · exact hnothing
  · exact hnext _ _

theorem onInt_induction {P : Change → Prop} {lines : List String}
    {next : Int64 → List String → Change} (hnothing : P .nothing)
    (hnext : ∀ i rest, P (next i rest)) : P (onInt lines next) := by
  refine onLine_induction hnothing fun line rest => ?_
  split
  · exact hnext _ _
  · exact hnothing

/-- What the program checks before it makes a change: a new id is the drawn one, a removed event
occurs, a new session belongs to an event that occurs, and a registration names a session whose
capacity is above the number of all registrations. -/
def Change.Permitted (s : Store) (id : Int64) : Change → Prop
  | .nothing => True
  | .addEvent event => event.eventId = id
  | .removeEvents target => ∃ e ∈ s.events, e.eventId = target
  | .addSession session => session.sessionId = id ∧ ∃ e ∈ s.events, e.eventId = session.eventId
  | .register r => r.registrationId = id ∧
      ∃ session, (s.sessions.find? fun x => x.sessionId == r.sessionId) = some session ∧
        hasAvailableSeats session.capacity (Int64.ofNat s.registrations.length) = true

/-- A round requests only permitted changes. -/
theorem requestedChange_permitted (w : World) :
    (requestedChange w).Permitted w.store (drawnId w.draws.head) := by
  -- a read that fails requests nothing, so only the end of each command is left
  refine onInt_induction trivial fun choice lines => ?_
  unfold commandChange
  split
  · refine onLine_induction trivial fun _ _ => onLine_induction trivial fun _ _ => ?_
    exact onLine_induction trivial fun _ _ => onInt_induction trivial fun _ _ => rfl
  · refine onInt_induction trivial fun id _ => ?_
    split
    · next hany =>
      refine onLine_induction trivial fun answer _ => ?_
      split
      · simpa [Change.Permitted] using hany
      · trivial
    · trivial
  · refine onInt_induction trivial fun eventId _ => ?_
    split
    · next hany =>
      have hoccurs : ∃ e ∈ w.store.events, e.eventId = eventId := by simpa using hany
      refine onInt_induction trivial fun _ _ => onLine_induction trivial fun _ _ => ?_
      exact onLine_induction trivial fun _ _ => onInt_induction trivial fun _ _ => ⟨rfl, hoccurs⟩
    · trivial
  · refine onInt_induction trivial fun userId _ => onInt_induction trivial fun sessionId _ => ?_
    split
    · next session hfind =>
      split
      · next hseats => exact ⟨rfl, session, hfind, hseats⟩
      · trivial
    · trivial
  · trivial

/-- Each command makes its own kind of change, or none. -/
theorem commandChange_command (s : Store) (id choice : Int64) (lines : List String) :
    commandChange s id choice lines = .nothing ∨
      (commandChange s id choice lines).command = choice.toInt := by
  -- the same walk through the reads, with the property as the motive
  let P (c : Change) : Prop := c = .nothing ∨ c.command = choice.toInt
  have hnothing : P .nothing := Or.inl rfl
  show P (commandChange s id choice lines)
  unfold commandChange
  split
  · next h =>
    refine onLine_induction hnothing fun _ _ => onLine_induction hnothing fun _ _ => ?_
    exact onLine_induction hnothing fun _ _ => onInt_induction hnothing fun _ _ => Or.inr h.symm
  · next h =>
    refine onInt_induction hnothing fun _ _ => ?_
    split
    · refine onLine_induction hnothing fun _ _ => ?_
      split
      · exact Or.inr h.symm
      · exact hnothing
    · exact hnothing
  · next h =>
    refine onInt_induction hnothing fun _ _ => ?_
    split
    · refine onInt_induction hnothing fun _ _ => onLine_induction hnothing fun _ _ => ?_
      exact onLine_induction hnothing fun _ _ => onInt_induction hnothing fun _ _ => Or.inr h.symm
    · exact hnothing
  · next h =>
    refine onInt_induction hnothing fun _ _ => onInt_induction hnothing fun _ _ => ?_
    split
    · split
      · exact Or.inr h.symm
      · exact hnothing
    · exact hnothing
  · exact hnothing

/-- A change is requested by a first line that parses to its command, followed by what that
command needs. -/
theorem requestedChange_eq_iff {w : World} {c : Change} (hc : c ≠ .nothing) :
    requestedChange w = c ↔
      ∃ choice lines i, w.stdin = choice :: lines ∧ int.tryParse choice = some i ∧
        i.toInt = c.command ∧ commandChange w.store (drawnId w.draws.head) i lines = c := by
  rw [requestedChange, onInt_eq_iff hc]
  constructor
  · rintro ⟨choice, lines, i, hstdin, hchoice, hchange⟩
    -- another command would make another kind of change
    rcases commandChange_command w.store (drawnId w.draws.head) i lines with h | h
    · exact absurd (hchange.symm.trans h) hc
    · rw [hchange] at h
      exact ⟨choice, lines, i, hstdin, hchoice, h.symm, hchange⟩
  · rintro ⟨choice, lines, i, hstdin, hchoice, -, hchange⟩
    exact ⟨choice, lines, i, hstdin, hchoice, hchange⟩

/-- An event is added by command 1 with its four inputs; its id is the next draw. -/
theorem requestedChange_eq_addEvent_iff {w : World} {event : Event} :
    requestedChange w = .addEvent event ↔
      ∃ choice title date location organizer rest,
        w.stdin = choice :: title :: date :: location :: organizer :: rest ∧
        int.tryParse choice = some 1 ∧ int.tryParse organizer = some event.organizerId ∧
        event.eventId = drawnId w.draws.head ∧ event.title = title ∧ event.date = date ∧
        event.location = location := by
  have hne : Change.addEvent event ≠ .nothing := nofun
  rw [requestedChange_eq_iff hne]
  constructor
  · rintro ⟨choice, lines, i, hstdin, hchoice, hi, h⟩
    obtain rfl : i = 1 := Int64.toInt_inj.mp hi
    obtain ⟨title, lines, rfl, h⟩ := (onLine_eq_iff hne).mp h
    obtain ⟨date, lines, rfl, h⟩ := (onLine_eq_iff hne).mp h
    obtain ⟨location, lines, rfl, h⟩ := (onLine_eq_iff hne).mp h
    obtain ⟨organizer, rest, organizerId, rfl, horganizer, h⟩ := (onInt_eq_iff hne).mp h
    cases h
    exact ⟨choice, title, date, location, organizer, rest, hstdin, hchoice, horganizer, rfl, rfl,
      rfl, rfl⟩
  · rintro ⟨choice, title, date, location, organizer, rest, hstdin, hchoice, horganizer, hid,
      rfl, rfl, rfl⟩
    refine ⟨choice, _, 1, hstdin, hchoice, rfl, ?_⟩
    show addEventChange _ _ = _
    rw [← hid]
    simp [addEventChange, onInt, onLine, horganizer]

/-- Events are removed by command 4 with the id of an event that occurs and the answer `y`. -/
theorem requestedChange_eq_removeEvents_iff {w : World} {id : Int64} :
    requestedChange w = .removeEvents id ↔
      ∃ choice target answer rest, w.stdin = choice :: target :: answer :: rest ∧
        int.tryParse choice = some 4 ∧ int.tryParse target = some id ∧
        (∃ e ∈ w.store.events, e.eventId = id) ∧ answer.toLower = "y" := by
  have hne : Change.removeEvents id ≠ .nothing := nofun
  rw [requestedChange_eq_iff hne]
  constructor
  · rintro ⟨choice, lines, i, hstdin, hchoice, hi, h⟩
    obtain rfl : i = 4 := Int64.toInt_inj.mp hi
    obtain ⟨target, lines, id', rfl, htarget, h⟩ := (onInt_eq_iff hne).mp h
    split at h
    · next hany =>
      obtain ⟨answer, rest, rfl, hanswered⟩ := (onLine_eq_iff hne).mp h
      split at hanswered
      · next hanswer =>
        cases hanswered
        exact ⟨choice, target, answer, rest, hstdin, hchoice, htarget, by simpa using hany,
          by simpa using hanswer⟩
      · simp at hanswered
    · simp at h
  · rintro ⟨choice, target, answer, rest, hstdin, hchoice, htarget, hoccurs, hanswer⟩
    refine ⟨choice, _, 4, hstdin, hchoice, rfl, ?_⟩
    show deleteEventChange _ _ = _
    have hany : (w.store.events.any fun e => e.eventId == id) = true := by simpa using hoccurs
    simp [deleteEventChange, onInt, onLine, htarget, hany, hanswer]

/-- A session is added by command 5 with the id of an event that occurs and its other inputs; its
id is the next draw. -/
theorem requestedChange_eq_addSession_iff {w : World} {session : Session} :
    requestedChange w = .addSession session ↔
      ∃ choice event speaker name time capacity rest,
        w.stdin = choice :: event :: speaker :: name :: time :: capacity :: rest ∧
        int.tryParse choice = some 5 ∧ int.tryParse event = some session.eventId ∧
        (∃ e ∈ w.store.events, e.eventId = session.eventId) ∧
        int.tryParse speaker = some session.speakerId ∧
        int.tryParse capacity = some session.capacity ∧
        session.sessionId = drawnId w.draws.head ∧ session.title = name ∧
        session.time = time := by
  have hne : Change.addSession session ≠ .nothing := nofun
  rw [requestedChange_eq_iff hne]
  constructor
  · rintro ⟨choice, lines, i, hstdin, hchoice, hi, h⟩
    obtain rfl : i = 5 := Int64.toInt_inj.mp hi
    obtain ⟨event, lines, eventId, rfl, hevent, h⟩ := (onInt_eq_iff hne).mp h
    split at h
    · next hany =>
      obtain ⟨speaker, lines, speakerId, rfl, hspeaker, h₁⟩ := (onInt_eq_iff hne).mp h
      obtain ⟨name, lines, rfl, h₂⟩ := (onLine_eq_iff hne).mp h₁
      obtain ⟨time, lines, rfl, h₃⟩ := (onLine_eq_iff hne).mp h₂
      obtain ⟨cap, rest, capacity, rfl, hcapacity, h₄⟩ := (onInt_eq_iff hne).mp h₃
      cases h₄
      exact ⟨choice, event, speaker, name, time, cap, rest, hstdin, hchoice, hevent,
        by simpa using hany, hspeaker, hcapacity, rfl, rfl, rfl⟩
    · simp at h
  · rintro ⟨choice, event, speaker, name, time, cap, rest, hstdin, hchoice, hevent, hoccurs,
      hspeaker, hcapacity, hid, rfl, rfl⟩
    refine ⟨choice, _, 5, hstdin, hchoice, rfl, ?_⟩
    show addSessionChange _ _ _ = _
    have hany : (w.store.events.any fun e => e.eventId == session.eventId) = true := by
      simpa using hoccurs
    rw [← hid]
    simp [addSessionChange, onInt, onLine, hevent, hany, hspeaker, hcapacity]

/-- A registration is recorded by command 6 with a user id and the id of a session that the lookup
finds and that has a free seat by the program's count; its key is the next draw. -/
theorem requestedChange_eq_register_iff {w : World} {r : Registration} :
    requestedChange w = .register r ↔
      ∃ choice user target rest,
        w.stdin = choice :: user :: target :: rest ∧ int.tryParse choice = some 6 ∧
        int.tryParse user = some r.userId ∧ int.tryParse target = some r.sessionId ∧
        r.registrationId = drawnId w.draws.head ∧ r.status = .confirmed ∧
        ∃ session, (w.store.sessions.find? fun x => x.sessionId == r.sessionId) = some session ∧
          hasAvailableSeats session.capacity (Int64.ofNat w.store.registrations.length) = true := by
  have hne : Change.register r ≠ .nothing := nofun
  rw [requestedChange_eq_iff hne]
  constructor
  · rintro ⟨choice, lines, i, hstdin, hchoice, hi, h⟩
    obtain rfl : i = 6 := Int64.toInt_inj.mp hi
    obtain ⟨user, lines, userId, rfl, huser, h⟩ := (onInt_eq_iff hne).mp h
    obtain ⟨target, rest, sessionId, rfl, htarget, h⟩ := (onInt_eq_iff hne).mp h
    split at h
    · next session hfind =>
      split at h
      · next hseats =>
        cases h
        exact ⟨choice, user, target, rest, hstdin, hchoice, huser, htarget, rfl, rfl, session,
          hfind, hseats⟩
      · simp at h
    · simp at h
  · rintro ⟨choice, user, target, rest, hstdin, hchoice, huser, htarget, hid, hstatus, session,
      hfind, hseats⟩
    refine ⟨choice, _, 6, hstdin, hchoice, rfl, ?_⟩
    show registerUserChange _ _ _ = _
    rw [← hid]
    simp [registerUserChange, onInt, onLine, huser, htarget, hfind, hseats, ← hstatus]

/-! ## Programs that perform a change -/

/-- What `registerUser` prints when it has recorded a registration. -/
def successReport : Output := .print "Registration successful."

/-- Running `p` in `w` makes the change `c` and no other, makes none if it throws, and reports a
registration exactly if `c` is one. -/
structure Performs {α : Type} (p : ConsoleM α) (w : World) (c : Change) : Prop where
  store : (exec p w).2.store = c.apply w.store
  failed : ∀ e, (exec p w).1 = .error e → c = .nothing
  reports : (exec p w).2.stdout.count successReport =
    w.stdout.count successReport + if c.isRegister then 1 else 0

namespace Performs

variable {α β : Type} {w w' : World} {c : Change}

theorem done (a : α) : Performs (pure a) w .nothing :=
  ⟨rfl, fun _ _ => rfl, rfl⟩

/-- A last line other than the success report. -/
theorem print {line : String} (hline : line ≠ "Registration successful.") :
    Performs (print line) w .nothing := by
  refine ⟨rfl, fun _ _ => rfl, ?_⟩
  simp [successReport, Change.isRegister, hline]

/-- A program that first succeeds without touching the store or reporting a registration performs
what the rest of it performs. -/
theorem bind_of_ok {q : ConsoleM β} {f : β → ConsoleM α} {b : β} (hq : exec q w = (.ok b, w'))
    (hstore : w'.store = w.store)
    (hcount : w'.stdout.count successReport = w.stdout.count successReport)
    (hf : Performs (f b) w' c) : Performs (q >>= f) w c := by
  obtain ⟨hfstore, hffailed, hfreports⟩ := hf
  refine ⟨?_, ?_, ?_⟩
  · rw [exec_bind, hq, ← hstore]
    exact hfstore
  · rw [exec_bind, hq]
    exact hffailed
  · rw [exec_bind, hq, ← hcount]
    exact hfreports

/-- Returning a value after `p` changes nothing about what `p` performs. -/
theorem bind_pure {p : ConsoleM β} (hp : Performs p w c) (a : α) :
    Performs (p >>= fun _ => pure a) w c := by
  obtain ⟨hstore, hfailed, hreports⟩ := hp
  have hworld : (exec (p >>= fun _ => pure a) w).2 = (exec p w).2 := exec_bind_pure_snd p a
  refine ⟨by rw [hworld]; exact hstore, fun e he => hfailed e ?_, by rw [hworld]; exact hreports⟩
  rw [exec_bind] at he
  rcases hp : exec p w with ⟨e' | b, w'⟩ <;> simp_all

theorem write_bind {text : String} {f : Unit → ConsoleM α}
    (hf : Performs (f ()) { w with stdout := w.stdout ++ [.write text] } c) :
    Performs (write text >>= f) w c :=
  bind_of_ok (exec_write w text) rfl (by simp [successReport]) hf

theorem print_bind {line : String} {f : Unit → ConsoleM α}
    (hline : line ≠ "Registration successful.")
    (hf : Performs (f ()) { w with stdout := w.stdout ++ [.print line] } c) :
    Performs (Program.print line >>= f) w c :=
  bind_of_ok (exec_print w line) rfl (by simp [successReport, hline]) hf

theorem forM_print_bind {ι : Type} {xs : List ι} {line : ι → String} {f : PUnit → ConsoleM α}
    (hline : ∀ x ∈ xs, line x ≠ "Registration successful.")
    (hf : Performs (f ⟨⟩)
      { w with stdout := w.stdout ++ xs.map fun x => .print (line x) } c) :
    Performs ((forM xs fun x => Program.print (line x)) >>= f) w c := by
  -- none of the printed lines is the success report
  have hcount : (xs.map fun x => Output.print (line x)).count successReport = 0 := by
    rw [List.count_eq_zero]
    intro hmem
    obtain ⟨x, hx, hxline⟩ := List.mem_map.mp hmem
    exact hline x hx (Output.print.inj hxline)
  exact bind_of_ok (exec_forM_print w xs line) rfl (by simp [hcount]) hf

theorem getStore_bind {f : Store → ConsoleM α} (hf : Performs (f w.store) w c) :
    Performs (getStore >>= f) w c :=
  bind_of_ok (exec_getStore w) rfl rfl hf

theorem readLine_bind {f : String → ConsoleM α} {next : String → List String → Change}
    (hf : ∀ line rest, Performs (f line) { w with stdin := rest } (next line rest)) :
    Performs (readLine >>= f) w (onLine w.stdin next) := by
  cases hstdin : w.stdin with
  | nil =>
    have hthrow := exec_readLine_bind_of_nil hstdin f
    exact ⟨by rw [hthrow]; rfl, fun _ _ => rfl, by rw [hthrow]; rfl⟩
  | cons line rest => exact bind_of_ok (exec_readLine_of_cons hstdin) rfl rfl (hf line rest)

theorem readInt_bind {f : Int64 → ConsoleM α} {next : Int64 → List String → Change}
    (hf : ∀ i rest, Performs (f i) { w with stdin := rest } (next i rest)) :
    Performs (readInt >>= f) w (onInt w.stdin next) := by
  rw [readInt, bind_assoc]
  refine readLine_bind fun line rest => ?_
  cases hline : int.tryParse line with
  | none =>
    -- the line is consumed, but nothing else has changed
    have hthrow (v : World) := exec_parseInt_bind_of_none (w := v) hline f
    exact ⟨by rw [hthrow]; rfl, fun _ _ => rfl, by rw [hthrow]; rfl⟩
  | some i => exact bind_of_ok (exec_parseInt_of_some hline) rfl rfl (hf i rest)

end Performs

/-! ## The commands -/

theorem ne_report_of_head {line : String} (h : line.toList.head? ≠ some 'R') :
    line ≠ "Registration successful." := by
  rintro rfl
  exact h (by decide)

/-- No line that starts with a printed integer is the success report. -/
theorem ne_report_of_int (i : Int64) (text : String) :
    s!"{i}: {text}" ≠ "Registration successful." := by
  obtain ⟨c, cs, hcs, hc⟩ := int.head_toString i
  apply ne_report_of_head
  have hR : c ≠ 'R' := by
    rintro rfl
    revert hc
    decide
  simpa [hcs] using hR

theorem onInt_eq_nothing {lines : List String} {next : Int64 → List String → Change}
    (h : ∀ i rest, next i rest = .nothing) : onInt lines next = .nothing :=
  onInt_induction (P := (· = .nothing)) rfl h

theorem performs_addEventCommand (w : World) :
    Performs addEventCommand w (addEventChange (drawnId w.draws.head) w.stdin) := by
  unfold addEventCommand addEventChange
  refine .write_bind (.readLine_bind fun title _ => ?_)
  refine .write_bind (.readLine_bind fun date _ => ?_)
  refine .write_bind (.readLine_bind fun location _ => ?_)
  refine .write_bind (.readInt_bind fun organizerId _ => ?_)
  constructor <;> simp [addEvent, nextInt, Change.apply, Change.isRegister, successReport]

theorem performs_displayEvents (w : World) : Performs displayEvents w .nothing := by
  unfold displayEvents
  refine .getStore_bind ?_
  -- the early return, then the listing
  split
  · exact .print_bind (by decide) (.done _)
  · refine .print_bind (by decide) (.print_bind (by decide) (.forM_print_bind ?_ ?_))
    · intro e _
      exact ne_report_of_head (by simp [toString])
    · exact .print (by decide)

theorem performs_searchLoop (w : World) (id : Int64) (events : List Event) :
    Performs (searchLoop id events) w .nothing := by
  induction events with
  | nil => exact .print (by decide)
  | cons e es ih =>
    unfold searchLoop
    split
    · exact .print (ne_report_of_head (by simp [toString]))
    · exact ih

theorem performs_searchEvent (w : World) : Performs searchEvent w .nothing := by
  have hnothing : onInt w.stdin (fun _ _ => .nothing) = .nothing :=
    onInt_eq_nothing fun _ _ => rfl
  rw [← hnothing]
  unfold searchEvent
  refine .write_bind (.readInt_bind fun id _ => .getStore_bind ?_)
  exact performs_searchLoop _ _ _

theorem performs_deleteEvent (w : World) :
    Performs deleteEvent w (deleteEventChange w.store w.stdin) := by
  unfold deleteEvent deleteEventChange
  refine .write_bind (.readInt_bind fun id _ => .getStore_bind ?_)
  split
  · next hnone =>
    rw [if_neg (by simpa using hnone)]
    exact .print_bind (ne_report_of_head (by simp [toString])) (.done _)
  · next hsome =>
    rw [if_pos (by simpa using hsome)]
    refine .write_bind (.readLine_bind fun answer _ => ?_)
    split
    · -- confirmed: `removeWhere`, then the report of the deletion
      constructor <;> simp [Change.apply, Change.isRegister, successReport]
    · exact .print (by decide)

theorem performs_addSession (w : World) :
    Performs addSession w (addSessionChange w.store (drawnId w.draws.head) w.stdin) := by
  unfold addSession addSessionChange
  refine .getStore_bind ?_
  split
  · next hempty =>
    -- nothing is read, and with no event nothing could be added either
    rw [onInt_eq_nothing fun i rest => by simp [List.isEmpty_iff.mp hempty]]
    exact .print_bind (by decide) (.done _)
  · refine .print_bind (by decide) (.forM_print_bind (fun e _ => ne_report_of_int _ _) ?_)
    refine .write_bind (.readInt_bind fun eventId _ => ?_)
    split
    · next hnone =>
      rw [if_neg (by simpa using hnone)]
      exact .print_bind (by decide) (.done _)
    · next hsome =>
      rw [if_pos (by simpa using hsome)]
      refine .write_bind (.readInt_bind fun speakerId _ => ?_)
      refine .write_bind (.readLine_bind fun name _ => ?_)
      refine .write_bind (.readLine_bind fun time _ => ?_)
      refine .write_bind (.readInt_bind fun capacity _ => ?_)
      -- the name is the user's, but the line does not start like the success report
      have hline : s!"Session '{name}' added successfully for Event ID {eventId}." ≠
          "Registration successful." := ne_report_of_head (by simp [toString])
      constructor <;>
        simp [nextInt, Change.apply, Change.isRegister, successReport, hline]

theorem performs_registerUser (w : World) :
    Performs registerUser w (registerUserChange w.store (drawnId w.draws.head) w.stdin) := by
  unfold registerUser registerUserChange
  refine .getStore_bind ?_
  split
  · next hempty =>
    -- nothing is read, and with no session the lookup would fail anyway
    rw [onInt_eq_nothing fun _ _ => onInt_eq_nothing fun _ _ => by
      simp [List.isEmpty_iff.mp hempty]]
    exact .print_bind (by decide) (.done _)
  · refine .write_bind (.readInt_bind fun userId _ => ?_)
    refine .print_bind (by decide) (.forM_print_bind (fun s _ => ne_report_of_int _ _) ?_)
    refine .write_bind (.readInt_bind fun sessionId _ => ?_)
    split
    · next hnone =>
      have hfind : (w.store.sessions.find? fun s => s.sessionId == sessionId) = none := by
        simpa using hnone
      simp only [hfind]
      exact .print_bind (by decide) (.done _)
    · next hsome =>
      cases hfind : w.store.sessions.find? fun s => s.sessionId == sessionId with
      | none => exact absurd hfind (by simpa using hsome)
      | some session =>
        dsimp only
        split
        · -- admitted: the draw, the assignment to its key and the success report
          constructor <;>
            simp [nextInt, Change.apply, Change.isRegister, successReport, Nat.add_assoc]
        · exact .print (by decide)

theorem performs_dispatch (w : World) (choice : Int64) :
    Performs (dispatch choice) w
      (commandChange w.store (drawnId w.draws.head) choice w.stdin) := by
  unfold dispatch commandChange
  split
  · next h => simpa only [h] using (performs_addEventCommand w).bind_pure _
  · next h => simpa only [h] using (performs_displayEvents w).bind_pure _
  · next h => simpa only [h] using (performs_searchEvent w).bind_pure _
  · next h => simpa only [h] using (performs_deleteEvent w).bind_pure _
  · next h => simpa only [h] using (performs_addSession w).bind_pure _
  · next h => simpa only [h] using (performs_registerUser w).bind_pure _
  · next h => simpa only [h] using .print_bind (by decide) (.done _)
  · next h1 _ _ h4 h5 h6 _ =>
    -- no number of a command: the default branch on both sides
    split
    · exact absurd ‹_› h1
    · exact absurd ‹_› h4
    · exact absurd ‹_› h5
    · exact absurd ‹_› h6
    · exact .print_bind (by decide) (.done _)

theorem performs_tryBlock (w : World) : Performs tryBlock w (requestedChange w) := by
  unfold tryBlock requestedChange
  exact .write_bind (.readInt_bind fun choice _ => performs_dispatch _ choice)

/-! ## The round -/

/-- The menu and the `try` block after it, as one program. -/
theorem tryOutcome_eq_exec (w : World) :
    tryOutcome w = exec (printMenu >>= fun _ => tryBlock) w := by
  rw [exec_bind]
  rfl

theorem performs_round (w : World) :
    Performs (printMenu >>= fun _ => tryBlock) w (requestedChange w) := by
  simp only [printMenu, bind_assoc]
  iterate 8 refine .print_bind (by decide) ?_
  exact performs_tryBlock _

/-- A round that ends in the `catch` branch requests no change. -/
theorem requestedChange_of_error {w : World} {e : DartError} (h : (tryOutcome w).1 = .error e) :
    requestedChange w = .nothing :=
  (performs_round w).failed e (by rw [← tryOutcome_eq_exec, h])

/-- The round adds to the outcome of its `try` block at most the message of the `catch` branch. -/
theorem iteration_snd (w : World) :
    (iteration w).2 = (tryOutcome w).2 ∨
      (iteration w).2 = { (tryOutcome w).2 with
        stdout := (tryOutcome w).2.stdout ++ [.print " Invalid input. Please enter a number."] } := by
  unfold iteration
  split
  · next h => exact Or.inl (by rw [h])
  · next h => exact Or.inr (by rw [h]; rfl)

/-- The store after a round is the requested change applied to the store before it. -/
theorem iteration_store (w : World) :
    (iteration w).2.store = (requestedChange w).apply w.store := by
  have h := (performs_round w).store
  rw [← tryOutcome_eq_exec] at h
  rcases iteration_snd w with hw | hw
  · rw [hw, h]
  · rw [hw, ← h]

/-- The success report is printed exactly by the rounds that request a registration. -/
theorem count_report_iteration (w : World) :
    (iteration w).2.stdout.count successReport =
      w.stdout.count successReport + if (requestedChange w).isRegister then 1 else 0 := by
  have h := (performs_round w).reports
  rw [← tryOutcome_eq_exec] at h
  rcases iteration_snd w with hw | hw
  · rw [hw, h]
  · -- the message of the `catch` branch is not the success report
    rw [hw, ← h]
    simp [successReport]

end EventManager.Console

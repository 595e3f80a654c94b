import EventManager.Dart.Console
import EventManager.Dart.LinkedHashMap
import EventManager.ToMathlib.Run

/-!
# The console program

`main.dart` and the classes it uses. The program keeps events and sessions in lists and
registrations in a map, all of them top-level variables, and offers seven commands in a loop that
ends only with command 7. Event, session and registration ids are drawn with
`Random().nextInt(100000)`.

The definitions carry the names of the source. A Dart function is a `ConsoleM` program; its early
returns are early returns here. One round of the `while (true)` loop is `iteration`, and
`menuStep` is the loop as a step function over `Menu`, the states at its head and after its
`return`.
-/

namespace EventManager.Console

open Dart Dart.Program

/-- `Event.dart`. -/
structure Event where
  eventId : Int64
  organizerId : Int64
  title : String
  date : String
  location : String
  deriving DecidableEq, Repr

/-- `Session.dart`. -/
structure Session where
  sessionId : Int64
  eventId : Int64
  speakerId : Int64
  title : String
  time : String
  capacity : Int64
  deriving DecidableEq, Repr

/-- `enums.dart`. -/
inductive RegistrationStatus
  | confirmed
  | pending
  | cancelled
  deriving DecidableEq, Repr

/-- `Registration.dart`. -/
structure Registration where
  registrationId : Int64
  userId : Int64
  sessionId : Int64
  status : RegistrationStatus
  deriving DecidableEq, Repr

/-- `CapacityMixin.hasAvailableSeats`. -/
def hasAvailableSeats (capacity registered : Int64) : Bool := registered < capacity

/-- The top-level variables `events`, `sessions` and `registrations`. -/
structure Store where
  events : List Event
  sessions : List Session
  registrations : LinkedHashMap Int64 Registration
  deriving DecidableEq

/-- The store at program start. -/
def Store.empty : Store := ⟨[], [], .empty⟩

/-- The world of the console program. `Random().nextInt(100000)` yields numbers below 100000. -/
abbrev World : Type := Dart.World Store (Fin 100000)

/-- A function of the console program. -/
abbrev ConsoleM (α : Type) : Type := Program Store (Fin 100000) α

/-- The `int` for a drawn number. -/
def drawnId (d : Fin 100000) : Int64 := Int64.ofNat d.val

/-- `Random().nextInt(100000)`. -/
def nextInt : ConsoleM Int64 := do
  return drawnId (← draw)

/-- `addEvent`. The named parameters `location` and `date` have defaults. -/
def addEvent (title : String) (location date : Option String) (organizerId : Int64) :
    ConsoleM Unit := do
  let id ← nextInt
  let event : Event :=
    ⟨id, organizerId, title, date.getD "Not Set", location.getD "Some-location"⟩
  setStore fun s => { s with events := s.events ++ [event] }
  print "Event added successfully!"

/-- `displayEvents`. -/
def displayEvents : ConsoleM Unit := do
  let s ← getStore
  if s.events.isEmpty then
    print "No events available."
    return
  print "\n----- Events List -----"
  print "-----------------------------"
  forM s.events fun e => print (s!"ID: {e.eventId} |Organizer ID: {e.organizerId} " ++
    s!"|Title: {e.title} |Lcation: {e.location} |Date: {e.date}")
  print "-----------------------------"

/-- The loop of `searchEvent` over the events that are left. -/
def searchLoop (id : Int64) : List Event → ConsoleM Unit
  | [] => print "Event not found."
  | e :: es =>
    if e.eventId == id then print s!"Found: {e.title} at {e.location}" else searchLoop id es

/-- `searchEvent`. -/
def searchEvent : ConsoleM Unit := do
  write "Enter Event ID: "
  let id ← readInt
  let s ← getStore
  searchLoop id s.events

/-- `deleteEvent`. -/
def deleteEvent : ConsoleM Unit := do
  write "Enter Event ID to delete: "
  let id ← readInt
  let s ← getStore
  if !(s.events.any fun e => e.eventId == id) then
    print s!"Event with ID {id} does not exist."
    return
  write "Are you sure? (y/n): "
  let answer ← readLine
  -- the only strings that `toLowerCase` maps to "y" are ASCII
  if answer.toLower == "y" then
    setStore fun s => { s with events := s.events.filter fun e => !(e.eventId == id) }
    print "Deleted successfully."
  else
    print "Deletion cancelled."

/-- `addSession`. -/
def addSession : ConsoleM Unit := do
  let s ← getStore
  if s.events.isEmpty then
    print "No events available. Please add an event first."
    return
  print "Available events:"
  forM s.events fun e => print s!"{e.eventId}: {e.title}"
  write "Enter Event ID for this session: "
  let eventId ← readInt
  if !(s.events.any fun e => e.eventId == eventId) then
    print "Event ID not found."
    return
  write "Enter Speaker ID: "
  let speakerId ← readInt
  write "Enter session name: "
  let name ← readLine
  write "Enter session time: "
  let time ← readLine
  write "Enter session capacity: "
  let capacity ← readInt
  -- the id is not compared with those in use, nor is it in the other two commands that draw one
  let sessionId ← nextInt
  let session : Session := ⟨sessionId, eventId, speakerId, name, time, capacity⟩
  setStore fun s => { s with sessions := s.sessions ++ [session] }
  print s!"Session '{name}' added successfully for Event ID {eventId}."

/-- `registerUser`. The count it compares with the capacity is the number of all registrations. -/
def registerUser : ConsoleM Unit := do
  let s ← getStore
  if s.sessions.isEmpty then
    print "No sessions available."
    return
  write "Enter User ID: "
  let userId ← readInt
  print "Available sessions:"
  forM s.sessions fun session => print s!"{session.sessionId}: {session.title}"
  write "Enter Session ID: "
  let sessionId ← readInt
  if !(s.sessions.any fun session => session.sessionId == sessionId) then
    print "Session not found."
    return
  match s.sessions.find? fun session => session.sessionId == sessionId with
  -- `firstWhere` finds a session after the check above
  | none => throw .noElement
  | some session =>
    let registeredCount := Int64.ofNat s.registrations.length
    if hasAvailableSeats session.capacity registeredCount then
      let id ← nextInt
      let registration : Registration := ⟨id, userId, sessionId, .confirmed⟩
      setStore fun s => { s with registrations := s.registrations.set id registration }
      print "Registration successful."
    else
      print "Session is full."

/-- How a round of the menu loop ends: the loop goes on, or `showMenu` has returned. -/
inductive Control
  | again
  | returned
  deriving DecidableEq, Repr

/-- The menu printed at the head of the loop. -/
def printMenu : ConsoleM Unit := do
  print "\n===== Event Management System ====="
  print "1. Add Event"
  print "2. Display Events"
  print "3. Search Event"
  print "4. Delete Event"
  print "5. Add Session"
  print "6. Register User"
  print "7. Exit"

/-- Command 1: the inputs of `addEvent`, then the call. -/
def addEventCommand : ConsoleM Unit := do
  write "Enter title: "
  let title ← readLine
  write "Enter event date: "
  let date ← readLine
  write "Enter event location: "
  let location ← readLine
  write "Enter organizer ID: "
  let organizerId ← readInt
  addEvent title (some location) (some date) organizerId

/-- The `switch` of `showMenu`. -/
def dispatch (choice : Int64) : ConsoleM Control := do
  match choice.toInt with
  | 1 => addEventCommand
  | 2 => displayEvents
  | 3 => searchEvent
  | 4 => deleteEvent
  | 5 => addSession
  | 6 => registerUser
  -- the only way out of the loop
  | 7 =>
    print " Goodbye!"
    return .returned
  | _ => print " Invalid choice."
  return .again

/-- The `try` block of `showMenu`. -/
def tryBlock : ConsoleM Control := do
  write "Enter your choice[1-7]: "
  let choice ← readInt
  dispatch choice

/-- The outcome of the `try` block in a round that starts in `w`. It is an error exactly when the
round ends in the `catch` branch. -/
def tryOutcome (w : World) : Except DartError Control × World :=
  exec tryBlock (exec printMenu w).2

/-- One round of the `while (true)` loop of `showMenu`. -/
def iteration (w : World) : Control × World :=
  match tryOutcome w with
  | (.ok control, w') => (control, w')
  -- whatever was thrown, and whatever was assigned before
  | (.error _, w') => (.again, (exec (print " Invalid input. Please enter a number.") w').2)

/-- A state of `showMenu`: at the head of its loop, or after its `return`. -/
structure Menu where
  control : Control
  world : World

/-- One round, if the loop is still running. -/
def menuStep (m : Menu) (_ : Unit) : Option Menu :=
  match m.control with
  | .again => some ⟨(iteration m.world).1, (iteration m.world).2⟩
  | .returned => none

/-- Program start with the given input lines and draws. -/
def start (stdin : List String) (draws : Stream' (Fin 100000)) : Menu :=
  ⟨.again, ⟨.empty, stdin, draws, []⟩⟩

/-- The menu state after `n` rounds from program start. -/
def afterRounds (stdin : List String) (draws : Stream' (Fin 100000)) (n : ℕ) : Option Menu :=
  LTS.run menuStep (start stdin draws) (List.replicate n ())

end EventManager.Console

import EventManager.Console.Runs

/-!
# Leaving the menu

The loop of `showMenu` ends only with command 7. At the end of the input every `readLineSync()!`
throws, the `catch` branch asks for a number, and the next round throws again: a program whose
input ends without command 7 prints the menu forever.

Which lines are read as a command and which as the inputs of the command before depends on the
store, since some commands return early. `commandRest` cuts the lines of a command off the input,
and `ReadsExit` says that some line that is left as a command is a 7.

## Main results

* `iteration_stdin`, `iteration_draws`, `iteration_returned_iff`: what a round reads and draws, and
  when it leaves the loop;
* `returns_iff_readsExit`: the loop returns, from any store and with any input and draws, iff one of
  the lines read as a command is a 7.
-/

namespace EventManager.Console

open Dart Dart.Program

/-! ## The lines a command leaves -/

/-- The lines left after reading one and going on; none if the input has ended. -/
def restLine (lines : List String) (next : String → List String → List String) : List String :=
  match lines with
  | [] => []
  | line :: rest => next line rest

/-- The lines left after reading an integer and going on. A line that does not parse is read, too. -/
def restInt (lines : List String) (next : Int64 → List String → List String) : List String :=
  restLine lines fun line rest =>
    match int.tryParse line with
    | some i => next i rest
    | none => rest

/-- Command 1. -/
def addEventRest (lines : List String) : List String :=
  restLine lines fun _ lines =>
  restLine lines fun _ lines =>
  restLine lines fun _ lines =>
  restInt lines fun _ lines => lines

/-- Command 3. -/
def searchEventRest (lines : List String) : List String := restInt lines fun _ lines => lines

/-- Command 4: the question is asked only for an id that occurs. -/
def deleteEventRest (s : Store) (lines : List String) : List String :=
  restInt lines fun id lines =>
    if s.events.any fun e => e.eventId == id then restLine lines fun _ lines => lines else lines

/-- Command 5: without events nothing is read. -/
def addSessionRest (s : Store) (lines : List String) : List String :=
  if s.events.isEmpty then lines
  else
    restInt lines fun eventId lines =>
      if s.events.any fun e => e.eventId == eventId then
        restInt lines fun _ lines =>
        restLine lines fun _ lines =>
        restLine lines fun _ lines =>
        restInt lines fun _ lines => lines
      else lines

/-- Command 6: without sessions nothing is read. -/
def registerUserRest (s : Store) (lines : List String) : List String :=
  if s.sessions.isEmpty then lines
  else restInt lines fun _ lines => restInt lines fun _ lines => lines

/-- The lines a command leaves of those that follow it. -/
def commandRest (s : Store) (choice : Int64) (lines : List String) : List String :=
  match choice.toInt with
  | 1 => addEventRest lines
  | 3 => searchEventRest lines
  | 4 => deleteEventRest s lines
  | 5 => addSessionRest s lines
  | 6 => registerUserRest s lines
  | _ => lines

/-- Whether the change needs a drawn id. -/
def Change.draws : Change → Bool
  | nothing => false
  | addEvent _ => true
  | removeEvents _ => false
  | addSession _ => true
  | register _ => true

/-- The draws left after a change. -/
def Change.drawsLeft (c : Change) (draws : Stream' (Fin 100000)) : Stream' (Fin 100000) :=
  if c.draws then draws.tail else draws

/-- With the given store and draws, one of the lines that the menu reads as a command is a 7. -/
inductive ReadsExit : Store → Stream' (Fin 100000) → List String → Prop
  /-- The next command is a 7. -/
  | exit {s : Store} {draws : Stream' (Fin 100000)} {line : String} {lines : List String}
      (hline : int.tryParse line = some 7) : ReadsExit s draws (line :: lines)
  /-- The next command is another one, and a 7 is read after it. -/
  | command {s : Store} {draws : Stream' (Fin 100000)} {line : String} {lines : List String}
      (choice : Int64) (hline : int.tryParse line = some choice) (hchoice : choice ≠ 7)
      (hrest : ReadsExit ((commandChange s (drawnId draws.head) choice lines).apply s)
        ((commandChange s (drawnId draws.head) choice lines).drawsLeft draws)
        (commandRest s choice lines)) : ReadsExit s draws (line :: lines)
  /-- The next line is no number, and a 7 is read after it. -/
  | invalid {s : Store} {draws : Stream' (Fin 100000)} {line : String} {lines : List String}
      (hline : int.tryParse line = none) (hrest : ReadsExit s draws lines) :
      ReadsExit s draws (line :: lines)

/-! ## Programs that leave lines -/

/-- Running `p` in `w` leaves the lines `rest`, and uses a draw exactly if the change `c` does. -/
structure Leaves {α : Type} (p : ConsoleM α) (w : World) (rest : List String) (c : Change) :
    Prop where
  stdin : (exec p w).2.stdin = rest
  draws : (exec p w).2.draws = c.drawsLeft w.draws

namespace Leaves

variable {α β : Type} {w w' : World} {rest : List String} {c : Change}

theorem done (a : α) : Leaves (pure a) w w.stdin .nothing := ⟨rfl, rfl⟩

theorem print (line : String) : Leaves (print line) w w.stdin .nothing := ⟨rfl, rfl⟩

/-- A program that first succeeds without reading or drawing leaves what the rest of it leaves. -/
theorem bind_of_ok {q : ConsoleM β} {f : β → ConsoleM α} {b : β} (hq : exec q w = (.ok b, w'))
    (hdraws : w'.draws = w.draws) (hf : Leaves (f b) w' rest c) : Leaves (q >>= f) w rest c := by
  obtain ⟨hfstdin, hfdraws⟩ := hf
  rw [hdraws] at hfdraws
  exact ⟨by rw [exec_bind, hq]; exact hfstdin, by rw [exec_bind, hq]; exact hfdraws⟩

/-- Returning a value after `p` reads nothing. -/
theorem bind_pure {p : ConsoleM β} (hp : Leaves p w rest c) (a : α) :
    Leaves (p >>= fun _ => pure a) w rest c := by
  have hworld : (exec (p >>= fun _ => pure a) w).2 = (exec p w).2 := exec_bind_pure_snd p a
  exact ⟨by rw [hworld]; exact hp.stdin, by rw [hworld]; exact hp.draws⟩

theorem write_bind {text : String} {f : Unit → ConsoleM α}
    (hf : Leaves (f ()) { w with stdout := w.stdout ++ [.write text] } rest c) :
    Leaves (write text >>= f) w rest c :=
  bind_of_ok (exec_write w text) rfl hf

theorem print_bind {line : String} {f : Unit → ConsoleM α}
    (hf : Leaves (f ()) { w with stdout := w.stdout ++ [.print line] } rest c) :
    Leaves (Program.print line >>= f) w rest c :=
  bind_of_ok (exec_print w line) rfl hf

theorem forM_print_bind {ι : Type} {xs : List ι} {line : ι → String} {f : PUnit → ConsoleM α}
    (hf : Leaves (f ⟨⟩) { w with stdout := w.stdout ++ xs.map fun x => .print (line x) } rest c) :
    Leaves ((forM xs fun x => Program.print (line x)) >>= f) w rest c :=
  bind_of_ok (exec_forM_print w xs line) rfl hf

theorem getStore_bind {f : Store → ConsoleM α} (hf : Leaves (f w.store) w rest c) :
    Leaves (getStore >>= f) w rest c :=
  bind_of_ok (exec_getStore w) rfl hf

theorem readLine_bind {f : String → ConsoleM α} {nextRest : String → List String → List String}
    {next : String → List String → Change}
    (hf : ∀ line rest, Leaves (f line) { w with stdin := rest } (nextRest line rest)
      (next line rest)) :
    Leaves (readLine >>= f) w (restLine w.stdin nextRest) (onLine w.stdin next) := by
  cases hstdin : w.stdin with
  | nil =>
    -- the input has ended, and stays ended
    have hthrow := exec_readLine_bind_of_nil hstdin f
    exact ⟨by rw [hthrow, hstdin]; rfl, by rw [hthrow]; rfl⟩
  | cons line rest => exact bind_of_ok (exec_readLine_of_cons hstdin) rfl (hf line rest)

theorem readInt_bind {f : Int64 → ConsoleM α} {nextRest : Int64 → List String → List String}
    {next : Int64 → List String → Change}
    (hf : ∀ i rest, Leaves (f i) { w with stdin := rest } (nextRest i rest) (next i rest)) :
    Leaves (readInt >>= f) w (restInt w.stdin nextRest) (onInt w.stdin next) := by
  rw [readInt, bind_assoc]
  refine readLine_bind fun line rest => ?_
  cases hline : int.tryParse line with
  | none =>
    -- `int.parse` throws after the line was read
    have hthrow (v : World) := exec_parseInt_bind_of_none (w := v) hline f
    exact ⟨by rw [hthrow], by rw [hthrow]; rfl⟩
  | some i => exact bind_of_ok (exec_parseInt_of_some hline) rfl (hf i rest)

end Leaves

/-! ## The commands -/

theorem leaves_addEventCommand (w : World) :
    Leaves addEventCommand w (addEventRest w.stdin)
      (addEventChange (drawnId w.draws.head) w.stdin) := by
  unfold addEventCommand addEventRest addEventChange
  refine .write_bind (.readLine_bind fun title _ => ?_)
  refine .write_bind (.readLine_bind fun date _ => ?_)
  refine .write_bind (.readLine_bind fun location _ => ?_)
  refine .write_bind (.readInt_bind fun organizerId _ => ?_)
  constructor <;> simp [addEvent, nextInt, Change.drawsLeft, Change.draws]

theorem leaves_displayEvents (w : World) : Leaves displayEvents w w.stdin .nothing := by
  unfold displayEvents
  refine .getStore_bind ?_
  split
  · exact .print_bind (.done _)
  · exact .print_bind (.print_bind (.forM_print_bind (.print _)))

theorem leaves_searchLoop (w : World) (id : Int64) (events : List Event) :
    Leaves (searchLoop id events) w w.stdin .nothing := by
  induction events with
  | nil => exact .print _
  | cons e es ih =>
    unfold searchLoop
    split
    · exact .print _
    · exact ih

theorem leaves_searchEvent (w : World) :
    Leaves searchEvent w (searchEventRest w.stdin) .nothing := by
  have hnothing : onInt w.stdin (fun _ _ => .nothing) = .nothing :=
    onInt_eq_nothing fun _ _ => rfl
  rw [← hnothing]
  unfold searchEvent searchEventRest
  refine .write_bind (.readInt_bind fun id _ => .getStore_bind ?_)
  exact leaves_searchLoop _ _ _

theorem leaves_deleteEvent (w : World) :
    Leaves deleteEvent w (deleteEventRest w.store w.stdin) (deleteEventChange w.store w.stdin) := by
  unfold deleteEvent deleteEventRest deleteEventChange
  refine .write_bind (.readInt_bind fun id _ => .getStore_bind ?_)
  split
  · next hnone =>
    have hany : (w.store.events.any fun e => e.eventId == id) = false := by simpa using hnone
    simp only [hany, Bool.false_eq_true, ↓reduceIte]
    exact .print_bind (.done _)
  · next hsome =>
    have hany : (w.store.events.any fun e => e.eventId == id) = true := by simpa using hsome
    simp only [hany, ↓reduceIte]
    refine .write_bind (.readLine_bind fun answer _ => ?_)
    split
    · constructor <;> simp [Change.drawsLeft, Change.draws]
    · exact .print _

theorem leaves_addSession (w : World) :
    Leaves addSession w (addSessionRest w.store w.stdin)
      (addSessionChange w.store (drawnId w.draws.head) w.stdin) := by
  unfold addSession addSessionRest addSessionChange
  refine .getStore_bind ?_
  split
  · next hempty =>
    rw [onInt_eq_nothing fun i rest => by simp [List.isEmpty_iff.mp hempty]]
    exact .print_bind (.done _)
  · refine .print_bind (.forM_print_bind (.write_bind (.readInt_bind fun eventId _ => ?_)))
    split
    · next hnone =>
      have hany : (w.store.events.any fun e => e.eventId == eventId) = false := by
        simpa using hnone
      simp only [hany, Bool.false_eq_true, ↓reduceIte]
      exact .print_bind (.done _)
    · next hsome =>
      have hany : (w.store.events.any fun e => e.eventId == eventId) = true := by
        simpa using hsome
      simp only [hany, ↓reduceIte]
      refine .write_bind (.readInt_bind fun speakerId _ => ?_)
      refine .write_bind (.readLine_bind fun name _ => ?_)
      refine .write_bind (.readLine_bind fun time _ => ?_)
      refine .write_bind (.readInt_bind fun capacity _ => ?_)
      constructor <;> simp [nextInt, Change.drawsLeft, Change.draws]

theorem leaves_registerUser (w : World) :
    Leaves registerUser w (registerUserRest w.store w.stdin)
      (registerUserChange w.store (drawnId w.draws.head) w.stdin) := by
  unfold registerUser registerUserRest registerUserChange
  refine .getStore_bind ?_
  split
  · next hempty =>
    rw [onInt_eq_nothing fun _ _ => onInt_eq_nothing fun _ _ => by
      simp [List.isEmpty_iff.mp hempty]]
    exact .print_bind (.done _)
  · refine .write_bind (.readInt_bind fun userId _ => ?_)
    refine .print_bind (.forM_print_bind (.write_bind (.readInt_bind fun sessionId _ => ?_)))
    split
    · next hnone =>
      have hfind : (w.store.sessions.find? fun s => s.sessionId == sessionId) = none := by
        simpa using hnone
      simp only [hfind]
      exact .print_bind (.done _)
    · next hsome =>
      cases hfind : w.store.sessions.find? fun s => s.sessionId == sessionId with
      | none => exact absurd hfind (by simpa using hsome)
      | some session =>
        dsimp only
        split
        · constructor <;> simp [nextInt, Change.drawsLeft, Change.draws]
        · exact .print _

theorem leaves_dispatch (w : World) (choice : Int64) :
    Leaves (dispatch choice) w (commandRest w.store choice w.stdin)
      (commandChange w.store (drawnId w.draws.head) choice w.stdin) := by
  unfold dispatch commandRest commandChange
  split
  · next h => simpa only [h] using (leaves_addEventCommand w).bind_pure _
  · next h => simpa only [h] using (leaves_displayEvents w).bind_pure _
  · next h => simpa only [h] using (leaves_searchEvent w).bind_pure _
  · next h => simpa only [h] using (leaves_deleteEvent w).bind_pure _
  · next h => simpa only [h] using (leaves_addSession w).bind_pure _
  · next h => simpa only [h] using (leaves_registerUser w).bind_pure _
  · next h => simpa only [h] using .print_bind (.done _)
  · next h1 h2 h3 h4 h5 h6 h7 =>
    -- no number of a command: the default branch of all three
    have hdefault : Leaves (Program.print " Invalid choice." >>= fun _ => pure Control.again) w
        w.stdin .nothing := .print_bind (.done _)
    simpa only using hdefault

/-! ## The round -/

/-- Only command 7 leaves the loop. -/
theorem dispatch_returned_iff (w : World) (choice : Int64) :
    (exec (dispatch choice) w).1 = .ok .returned ↔ choice = 7 := by
  have hagain (p : ConsoleM Unit) : (exec (p >>= fun _ => pure Control.again) w).1 ≠
      .ok .returned := by
    rw [exec_bind]
    rcases exec p w with ⟨_ | _, _⟩ <;> simp
  have hne {i : Int64} (h : choice.toInt = i.toInt) (hi : i ≠ 7) : choice ≠ 7 := by
    rw [Int64.toInt_inj.mp h]
    exact hi
  unfold dispatch
  split
  · next h => exact iff_of_false (hagain _) (hne (i := 1) h (by decide))
  · next h => exact iff_of_false (hagain _) (hne (i := 2) h (by decide))
  · next h => exact iff_of_false (hagain _) (hne (i := 3) h (by decide))
  · next h => exact iff_of_false (hagain _) (hne (i := 4) h (by decide))
  · next h => exact iff_of_false (hagain _) (hne (i := 5) h (by decide))
  · next h => exact iff_of_false (hagain _) (hne (i := 6) h (by decide))
  · next h => exact iff_of_true rfl (Int64.toInt_inj.mp h)
  · next h7 =>
    refine iff_of_false (hagain _) ?_
    rintro rfl
    exact h7 rfl

theorem leaves_round (w : World) :
    Leaves (printMenu >>= fun _ => tryBlock) w (restInt w.stdin (commandRest w.store))
      (requestedChange w) := by
  simp only [printMenu, bind_assoc]
  iterate 8 refine .print_bind ?_
  exact .write_bind (.readInt_bind fun choice _ => leaves_dispatch _ choice)

/-- The lines a round leaves. -/
theorem iteration_stdin (w : World) :
    (iteration w).2.stdin = restInt w.stdin (commandRest w.store) := by
  have h := (leaves_round w).stdin
  rw [← tryOutcome_eq_exec] at h
  rcases iteration_snd w with hw | hw <;> rw [hw] <;> exact h

/-- The draws a round leaves. -/
theorem iteration_draws (w : World) :
    (iteration w).2.draws = (requestedChange w).drawsLeft w.draws := by
  have h := (leaves_round w).draws
  rw [← tryOutcome_eq_exec] at h
  rcases iteration_snd w with hw | hw <;> rw [hw] <;> exact h

/-- A round leaves the loop iff the line it reads as its command is a 7. -/
theorem iteration_returned_iff (w : World) :
    (iteration w).1 = .returned ↔
      ∃ line rest, w.stdin = line :: rest ∧ int.tryParse line = some 7 := by
  have htry : (iteration w).1 = .returned ↔ (tryOutcome w).1 = .ok .returned := by
    unfold iteration
    split
    · next h => simp [h]
    · next h => simp [h]
  rw [htry, tryOutcome, tryBlock]
  have hmenu : (exec printMenu w).2.stdin = w.stdin := by simp [printMenu]
  cases hstdin : w.stdin with
  | nil => simp [readInt, exec_readLine, hmenu, hstdin]
  | cons line rest =>
    cases hline : int.tryParse line with
    | none => simp [readInt, exec_readLine, exec_parseInt, hmenu, hstdin, hline]
    | some choice =>
      simp only [readInt, exec_bind, exec_write, exec_readLine, exec_parseInt, hmenu, hstdin, hline]
      rw [dispatch_returned_iff]
      simp [hline]

/-! ## Runs -/

/-- The loop of `showMenu`, entered in `w`, returns after finitely many rounds. -/
def Returns (w : World) : Prop :=
  ∃ n m, LTS.run menuStep ⟨.again, w⟩ (List.replicate n ()) = some m ∧ m.control = .returned

/-- The loop returns in its first round, or it goes on and returns later. -/
theorem returns_iff_iteration (w : World) :
    Returns w ↔ (iteration w).1 = .returned ∨ Returns (iteration w).2 := by
  have hstep : menuStep ⟨.again, w⟩ () = some (nextMenu w) := rfl
  constructor
  · rintro ⟨n, m, hrun, hm⟩
    cases n with
    | zero =>
      -- before the first round the loop has not returned
      obtain rfl := Option.some.inj hrun
      simp at hm
    | succ n =>
      rw [List.replicate_succ, LTS.run_cons, hstep, Option.bind_some] at hrun
      cases hcontrol : (iteration w).1 with
      | returned => exact Or.inl rfl
      | again =>
        refine Or.inr ⟨n, m, ?_, hm⟩
        rw [← hrun, nextMenu, hcontrol]
  · rintro (hreturned | ⟨n, m, hrun, hm⟩)
    · exact ⟨1, nextMenu w, rfl, hreturned⟩
    · cases hcontrol : (iteration w).1 with
      | returned => exact ⟨1, nextMenu w, rfl, hcontrol⟩
      | again =>
        refine ⟨n + 1, m, ?_, hm⟩
        rw [List.replicate_succ, LTS.run_cons, hstep, Option.bind_some, nextMenu, hcontrol]
        exact hrun

/-- A line that is no number, or a command other than 7, is followed by the lines it leaves. -/
theorem readsExit_iff_iteration (w : World) :
    ReadsExit w.store w.draws w.stdin ↔ (iteration w).1 = .returned ∨
      ReadsExit (iteration w).2.store (iteration w).2.draws (iteration w).2.stdin := by
  rw [iteration_returned_iff, iteration_store, iteration_draws, iteration_stdin, requestedChange]
  cases w.stdin with
  | nil =>
    -- the input has ended, and a round leaves it so
    simp [onInt, onLine, restInt, restLine, Change.apply, Change.drawsLeft, Change.draws]
  | cons line lines =>
    cases hline : int.tryParse line with
    | none =>
      simp only [onInt, onLine, restInt, restLine, hline, Change.apply, Change.drawsLeft,
        Change.draws]
      constructor
      · rintro (hseven | ⟨_, hsome, -, -⟩ | ⟨-, hrest⟩)
        · simp [hline] at hseven
        · simp [hline] at hsome
        · exact Or.inr hrest
      · rintro (⟨_, _, hcons, hseven⟩ | hrest)
        · rw [← (List.cons.inj hcons).1, hline] at hseven
          simp at hseven
        · exact .invalid hline hrest
    | some choice =>
      simp only [onInt, onLine, restInt, restLine, hline]
      constructor
      · rintro (hseven | ⟨choice', hsome, -, hrest⟩ | ⟨hnone, -⟩)
        · exact Or.inl ⟨line, lines, rfl, hseven⟩
        · rw [hline, Option.some.injEq] at hsome
          rw [hsome]
          exact Or.inr hrest
        · simp [hline] at hnone
      · rintro (⟨_, _, hcons, hseven⟩ | hrest)
        · rw [← (List.cons.inj hcons).1] at hseven
          exact .exit hseven
        · by_cases hchoice : choice = 7
          · exact .exit (by rw [hline, hchoice])
          · exact .command choice hline hchoice hrest

/-- If the loop returns, one of the lines it has read as a command is a 7. -/
theorem readsExit_of_returns {w : World} (h : Returns w) :
    ReadsExit w.store w.draws w.stdin := by
  obtain ⟨n, m, hrun, hm⟩ := h
  -- on the number of rounds
  induction n generalizing w with
  | zero =>
    obtain rfl := Option.some.inj hrun
    simp at hm
  | succ n ih =>
    have hstep : menuStep ⟨.again, w⟩ () = some (nextMenu w) := rfl
    rw [List.replicate_succ, LTS.run_cons, hstep, Option.bind_some, nextMenu] at hrun
    rw [readsExit_iff_iteration]
    cases hcontrol : (iteration w).1 with
    | returned => exact Or.inl rfl
    | again => exact Or.inr (ih (by rwa [hcontrol] at hrun))

/-- If one of the lines to be read as a command is a 7, the loop returns. -/
theorem returns_of_readsExit {w : World} (h : ReadsExit w.store w.draws w.stdin) : Returns w := by
  generalize hstore : w.store = s at h
  generalize hdraws : w.draws = draws at h
  generalize hstdin : w.stdin = lines at h
  -- on the commands that the lines are cut into
  induction h generalizing w with
  | exit hline =>
    rw [returns_iff_iteration, iteration_returned_iff]
    exact Or.inl ⟨_, _, hstdin, hline⟩
  | @command s draws line lines choice hline _ _ ih =>
    have hchange : requestedChange w = commandChange s (drawnId draws.head) choice lines := by
      simp [requestedChange, onInt, onLine, hstore, hdraws, hstdin, hline]
    rw [returns_iff_iteration]
    refine Or.inr (ih ?_ ?_ ?_)
    · rw [iteration_store, hchange, hstore]
    · rw [iteration_draws, hchange, hdraws]
    · simp [iteration_stdin, restInt, restLine, hstore, hstdin, hline]
  | invalid hline _ ih =>
    have hchange : requestedChange w = .nothing := by
      simp [requestedChange, onInt, onLine, hstdin, hline]
    rw [returns_iff_iteration]
    refine Or.inr (ih ?_ ?_ ?_)
    · rw [iteration_store, hchange]
      exact hstore
    · rw [iteration_draws, hchange]
      exact hdraws
    · simp [iteration_stdin, restInt, restLine, hstdin, hline]

/-- From any store, with any input and any draws, the loop of `showMenu` returns after finitely many
rounds exactly if one of the lines it reads as a command is a 7. -/
theorem returns_iff_readsExit (w : World) : Returns w ↔ ReadsExit w.store w.draws w.stdin :=
  ⟨readsExit_of_returns, returns_of_readsExit⟩

/-- At the end of the input the loop goes on forever. -/
theorem emptyInput_never_returns : ¬ ∀ w, Returns w := by
  intro hclaim
  have hexit := readsExit_of_returns (hclaim ⟨.empty, [], Stream'.const 0, []⟩)
  cases hexit

end EventManager.Console

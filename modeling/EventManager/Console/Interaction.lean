import EventManager.Console.Termination
import EventManager.Dart.Dialogue

/-!
# The menu as a dialogue

Every command is a dialogue, and so is a round of the menu. What `Dart.Dialogue` says about them is
carried over to whole runs of the loop: the `catch` branch of a round neither reads nor draws, and
it prints no prompt.

## Main results

* `run_consumes`: a run depends on the lines it has read and the draws it has used only, unless a
  round has found the input ended, and it writes to the end of the output;
* `tryOutcome_error`: a round fails only because the input has ended or because the last line it has
  read is no integer;
* `prompts_of_run`: a run writes one prompt for each line it reads, and one for each round that
  finds the input ended.
-/

namespace EventManager.Console

open Dart Dart.Program

/-! ## The commands -/

theorem dialogue_nextInt : Dialogue nextInt := .draw fun d => .done (drawnId d)

theorem dialogue_addEvent (title : String) (location date : Option String) (organizerId : Int64) :
    Dialogue (addEvent title location date organizerId) :=
  dialogue_nextInt.bind fun _ => .assign _ (.print _)

theorem dialogue_addEventCommand : Dialogue addEventCommand :=
  .ask _ fun _ => .ask _ fun _ => .ask _ fun _ => .askInt _ fun _ => dialogue_addEvent _ _ _ _

theorem dialogue_displayEvents : Dialogue displayEvents := by
  refine .look fun s => ?_
  split
  · exact .tell _ (.done _)
  · exact .tell _ (.tell _ ((Dialogue.forM_print _ _).bind fun _ => .print _))

theorem dialogue_searchLoop (id : Int64) (events : List Event) :
    Dialogue (searchLoop id events) := by
  induction events with
  | nil => exact .print _
  | cons e es ih =>
    unfold searchLoop
    split
    · exact .print _
    · exact ih

theorem dialogue_searchEvent : Dialogue searchEvent :=
  .askInt _ fun id => .look fun s => dialogue_searchLoop id s.events

theorem dialogue_deleteEvent : Dialogue deleteEvent := by
  refine .askInt _ fun id => .look fun s => ?_
  split
  · exact .tell _ (.done _)
  · refine .ask _ fun answer => ?_
    split
    · exact .assign _ (.print _)
    · exact .print _

theorem dialogue_addSession : Dialogue addSession := by
  refine .look fun s => ?_
  split
  · exact .tell _ (.done _)
  · refine .tell _ ((Dialogue.forM_print _ _).bind fun _ => .askInt _ fun eventId => ?_)
    split
    · exact .tell _ (.done _)
    · refine .askInt _ fun speakerId => .ask _ fun name => .ask _ fun time => ?_
      exact .askInt _ fun capacity => dialogue_nextInt.bind fun _ => .assign _ (.print _)

theorem dialogue_registerUser : Dialogue registerUser := by
  refine .look fun s => ?_
  split
  · exact .tell _ (.done _)
  · refine .askInt _ fun userId => .tell _ ((Dialogue.forM_print _ _).bind fun _ => ?_)
    refine .askInt _ fun sessionId => ?_
    split
    · exact .tell _ (.done _)
    · next hsome =>
      cases hfind : s.sessions.find? fun session => session.sessionId == sessionId with
      -- `firstWhere` finds a session after the check
      | none => exact absurd hfind (by simpa using hsome)
      | some session =>
        dsimp only
        split
        · exact dialogue_nextInt.bind fun _ => .assign _ (.print _)
        · exact .print _

theorem dialogue_dispatch (choice : Int64) : Dialogue (dispatch choice) := by
  unfold dispatch
  split
  · exact dialogue_addEventCommand.bind fun _ => .done _
  · exact dialogue_displayEvents.bind fun _ => .done _
  · exact dialogue_searchEvent.bind fun _ => .done _
  · exact dialogue_deleteEvent.bind fun _ => .done _
  · exact dialogue_addSession.bind fun _ => .done _
  · exact dialogue_registerUser.bind fun _ => .done _
  · exact .tell _ (.done _)
  · exact .tell _ (.done _)

theorem dialogue_printMenu : Dialogue printMenu := by
  unfold printMenu
  iterate 7 refine .tell _ ?_
  exact .print _

theorem dialogue_round : Dialogue (printMenu >>= fun _ => tryBlock) :=
  dialogue_printMenu.bind fun _ => .askInt _ dialogue_dispatch

/-! ## The round -/

theorem iteration_of_ok {w w' : World} {control : Control} (h : tryOutcome w = (.ok control, w')) :
    iteration w = (control, w') := by
  rw [iteration, h]

theorem iteration_of_error {w w' : World} {e : DartError} (h : tryOutcome w = (.error e, w')) :
    iteration w = (.again, { w' with
      stdout := w'.stdout ++ [.print " Invalid input. Please enter a number."] }) := by
  rw [iteration, h]
  rfl

/-- Whether the round finds the input ended. -/
def findsEnd (m : Menu) (_ : Unit) : Option Unit :=
  match (tryOutcome m.world).1 with
  | .error .nullCheck => some ()
  | _ => none

theorem findsEnd_eq_none_iff {m : Menu} :
    findsEnd m () = none ↔ (tryOutcome m.world).1 ≠ .error .nullCheck := by
  cases h : (tryOutcome m.world).1 with
  | ok => simp [findsEnd, h]
  | error e => cases e <;> simp [findsEnd, h]

/-- A round depends on what it consumes only, and on the end of the input if it finds it. -/
theorem iteration_consumes (m : Menu) :
    ∃ read drawn out, m.world.stdin = read ++ (iteration m.world).2.stdin ∧
      m.world.draws = drawn ++ₛ (iteration m.world).2.draws ∧
      (iteration m.world).2.stdout = m.world.stdout ++ out ∧
      ∀ rest draws stdout, findsEnd m () = none ∨ rest = [] →
        iteration ⟨m.world.store, read ++ rest, drawn ++ₛ draws, stdout⟩ =
          ((iteration m.world).1, ⟨(iteration m.world).2.store, rest, draws, stdout ++ out⟩) := by
  obtain ⟨read, drawn, out, hround⟩ := dialogue_round.consumes m.world
  have htry : Consumes tryOutcome m.world read drawn out := by
    rw [← funext tryOutcome_eq_exec] at hround
    exact hround
  obtain ⟨hstdin, hdraws, hstdout, hsame⟩ := htry
  rw [← findsEnd_eq_none_iff] at hsame
  rcases hw : tryOutcome m.world with ⟨e | control, w'⟩
  · -- the message of the `catch` branch comes after the output of the `try` block
    rw [hw] at hstdin hdraws hstdout hsame
    have hiteration := iteration_of_error hw
    refine ⟨read, drawn, out ++ [.print " Invalid input. Please enter a number."],
      by rw [hiteration]; exact hstdin, by rw [hiteration]; exact hdraws,
      by rw [hiteration, hstdout, List.append_assoc], ?_⟩
    intro rest draws stdout hrest
    rw [hiteration, iteration_of_error (hsame rest draws stdout hrest), List.append_assoc]
  · rw [hw] at hstdin hdraws hstdout hsame
    have hiteration := iteration_of_ok hw
    refine ⟨read, drawn, out, by rw [hiteration]; exact hstdin, by rw [hiteration]; exact hdraws,
      by rw [hiteration]; exact hstdout, ?_⟩
    intro rest draws stdout hrest
    rw [hiteration, iteration_of_ok (hsame rest draws stdout hrest)]

/-- A round ends in the `catch` branch only because the input has ended or because the last line
that was read is no integer. In particular `firstWhere` always finds a session. -/
theorem tryOutcome_error {w : World} {e : DartError} (h : (tryOutcome w).1 = .error e) :
    e = .nullCheck ∧ (tryOutcome w).2.stdin = [] ∨
      ∃ read line, w.stdin = read ++ line :: (tryOutcome w).2.stdin ∧
        int.tryParse line = none ∧ e = .formatException line := by
  rw [tryOutcome_eq_exec] at h ⊢
  exact (dialogue_round.prompted w).failed e h

/-- A round that ends in the `catch` branch goes on with the loop, has used no draw, and was stopped
by the end of the input or by the line it has read last. -/
theorem failed_round (w : World) (e : DartError) (h : (tryOutcome w).1 = .error e) :
    (iteration w).1 = .again ∧ (iteration w).2.draws = w.draws ∧
      (e = .nullCheck ∧ (iteration w).2.stdin = [] ∨
        ∃ read line, w.stdin = read ++ line :: (iteration w).2.stdin ∧
          int.tryParse line = none ∧ e = .formatException line) := by
  have htry : tryOutcome w = (.error e, (tryOutcome w).2) := Prod.ext h rfl
  have hiteration := iteration_of_error htry
  refine ⟨by rw [hiteration], ?_, ?_⟩
  · rw [iteration_draws, requestedChange_of_error h]
    rfl
  · rw [hiteration]
    exact tryOutcome_error h

/-- The capacity of a session is no number. -/
theorem failed_round_capacity :
    ∃ e, (tryOutcome ⟨⟨[⟨3, 1, "Summit", "May 3", "Muscat"⟩], [], .empty⟩,
      ["5", "3", "8", "Opening", "9:00", "many", "7"], Stream'.const 0, []⟩).1 = .error e ∧
      (e = .nullCheck ∧ (["7"] : List String) = [] ∨
        ∃ read line, ["5", "3", "8", "Opening", "9:00", "many", "7"] = read ++ line :: ["7"] ∧
          int.tryParse line = none ∧ e = .formatException line) := by
  have herror : (tryOutcome ⟨⟨[⟨3, 1, "Summit", "May 3", "Muscat"⟩], [], .empty⟩,
      ["5", "3", "8", "Opening", "9:00", "many", "7"], Stream'.const 0, []⟩).1 =
      .error (.formatException "many") := by
    rfl
  have hrest : (iteration ⟨⟨[⟨3, 1, "Summit", "May 3", "Muscat"⟩], [], .empty⟩,
      ["5", "3", "8", "Opening", "9:00", "many", "7"], Stream'.const 0, []⟩).2.stdin = ["7"] := by
    decide +kernel
  refine ⟨_, herror, ?_⟩
  have hcause := (failed_round _ _ herror).2.2
  rwa [hrest] at hcause

/-- The prompts of a round. -/
theorem prompts_iteration (m : Menu) :
    prompts (iteration m.world).2.stdout + (iteration m.world).2.stdin.length =
      prompts m.world.stdout + m.world.stdin.length + (findsEnd m ()).toList.length := by
  have hround := (dialogue_round.prompted m.world).prompts
  rw [← tryOutcome_eq_exec] at hround
  have hended : (findsEnd m ()).toList.length = ended (tryOutcome m.world).1 := by
    cases h : (tryOutcome m.world).1 with
    | ok => simp [findsEnd, h, ended]
    | error e => cases e <;> simp [findsEnd, h, ended]
  rw [hended, ← hround]
  -- the message of the `catch` branch is no prompt
  rcases iteration_snd m.world with hw | hw <;> rw [hw]
  simp

/-- A round that leaves lines has not found the input ended. -/
theorem findsEnd_of_stdin_ne_nil {m : Menu} (h : (iteration m.world).2.stdin ≠ []) :
    findsEnd m () = none := by
  have hstdin : (iteration m.world).2.stdin = (tryOutcome m.world).2.stdin := by
    rcases iteration_snd m.world with hw | hw <;> rw [hw]
  unfold findsEnd
  split
  · next hnull =>
    rcases tryOutcome_error hnull with ⟨-, hnil⟩ | ⟨_, _, _, _, herror⟩
    · rw [hstdin] at h
      exact absurd hnil h
    · simp at herror
  · rfl

/-! ## Runs -/

/-- The menu after `n` rounds from `w`. -/
abbrev afterRoundsFrom (w : World) (n : ℕ) : Option Menu :=
  LTS.run menuStep ⟨.again, w⟩ (List.replicate n ())

theorem afterRoundsFrom_succ_eq_some {w : World} {n : ℕ} {m' : Menu} :
    afterRoundsFrom w (n + 1) = some m' ↔
      ∃ m, afterRoundsFrom w n = some m ∧ m.control = .again ∧ nextMenu m.world = m' := by
  rw [afterRoundsFrom, List.replicate_succ', LTS.run_concat_eq_some]
  simp only [menuStep_eq_some]

theorem log_findsEnd_succ {w : World} {n : ℕ} {m : Menu} (hrun : afterRoundsFrom w n = some m)
    (hcontrol : m.control = .again) :
    LTS.log menuStep findsEnd ⟨.again, w⟩ (List.replicate (n + 1) ()) =
      LTS.log menuStep findsEnd ⟨.again, w⟩ (List.replicate n ()) ++ (findsEnd m ()).toList := by
  have hstep : menuStep m () = some (nextMenu m.world) := menuStep_eq_some.mpr ⟨hcontrol, rfl⟩
  rw [List.replicate_succ', LTS.log_concat hrun (by rw [hstep]; rfl)]

/-- As long as lines are left no round has found the input ended. -/
theorem log_findsEnd_of_stdin_ne_nil {w : World} {n : ℕ} {m : Menu}
    (hrun : afterRoundsFrom w n = some m) (hne : m.world.stdin ≠ []) :
    LTS.log menuStep findsEnd ⟨.again, w⟩ (List.replicate n ()) = [] := by
  induction n generalizing m with
  | zero => rfl
  | succ n ih =>
    obtain ⟨k, hk, hcontrol, rfl⟩ := afterRoundsFrom_succ_eq_some.mp hrun
    have hne' : (iteration k.world).2.stdin ≠ [] := hne
    obtain ⟨read, -, -, hstdin, -⟩ := iteration_consumes k
    -- lines are left after this round, so some were left before it
    have hk' : k.world.stdin ≠ [] := by
      rw [hstdin]
      exact List.append_ne_nil_of_right_ne_nil read hne'
    rw [log_findsEnd_succ hk hcontrol, ih hk hk', findsEnd_of_stdin_ne_nil hne']
    rfl

/-- A run depends on what it has read and drawn only: with the same variables, the same lines and
the same draws first, every later input and every later draws give the same rounds. A run that has
found the input ended needs that nothing follows. What a run has written stays the beginning of the
output. -/
theorem run_consumes (w : World) (n : ℕ) (m : Menu) (hrun : afterRoundsFrom w n = some m) :
    ∃ read drawn out, w.stdin = read ++ m.world.stdin ∧ w.draws = drawn ++ₛ m.world.draws ∧
      m.world.stdout = w.stdout ++ out ∧
      ∀ rest draws stdout,
        LTS.log menuStep findsEnd ⟨.again, w⟩ (List.replicate n ()) = [] ∨ rest = [] →
        afterRoundsFrom ⟨w.store, read ++ rest, drawn ++ₛ draws, stdout⟩ n =
          some ⟨m.control, ⟨m.world.store, rest, draws, stdout ++ out⟩⟩ := by
  induction n generalizing m with
  | zero =>
    obtain rfl := Option.some.inj hrun
    refine ⟨[], [], [], rfl, rfl, by simp, ?_⟩
    intro rest draws stdout _
    simp [afterRoundsFrom]
  | succ n ih =>
    obtain ⟨k, hk, hcontrol, rfl⟩ := afterRoundsFrom_succ_eq_some.mp hrun
    obtain ⟨read, drawn, out, hstdin, hdraws, hstdout, hsame⟩ := ih k hk
    obtain ⟨read', drawn', out', hstdin', hdraws', hstdout', hround⟩ := iteration_consumes k
    -- the last round consumes what comes after the earlier ones
    refine ⟨read ++ read', drawn ++ drawn', out ++ out', ?_, ?_, ?_, ?_⟩
    · rw [hstdin, hstdin', List.append_assoc]
      rfl
    · rw [hdraws, hdraws', Stream'.append_append_stream]
      rfl
    · show (iteration k.world).2.stdout = _
      rw [hstdout', hstdout, List.append_assoc]
    · intro rest draws stdout hrest
      rw [log_findsEnd_succ hk hcontrol, List.append_eq_nil_iff] at hrest
      -- if the earlier rounds found the end then the last one has read nothing
      have hearlier : LTS.log menuStep findsEnd ⟨.again, w⟩ (List.replicate n ()) = [] ∨
          read' ++ rest = [] := by
        rcases hrest with ⟨hnone, -⟩ | rfl
        · exact Or.inl hnone
        · refine or_iff_not_imp_right.mpr fun hread => log_findsEnd_of_stdin_ne_nil hk ?_
          rw [hstdin']
          exact List.append_ne_nil_of_left_ne_nil (by simpa using hread) _
      have hlast : findsEnd k () = none ∨ rest = [] := hrest.imp_left fun h => by simpa using h.2
      rw [List.append_assoc, Stream'.append_append_stream, afterRoundsFrom_succ_eq_some]
      refine ⟨_, hsame (read' ++ rest) (drawn' ++ₛ draws) stdout hearlier, hcontrol, ?_⟩
      show (⟨(iteration _).1, (iteration _).2⟩ : Menu) = _
      rw [hround rest draws (stdout ++ out) hlast, List.append_assoc]
      rfl

/-- A run that has read all lines and ends in the exit command does the same on every longer
input. -/
theorem run_consumes_returned :
    ∃ drawn out, ∀ rest draws stdout,
      afterRoundsFrom ⟨.empty, ["3", "12", "7"] ++ rest, drawn ++ₛ draws, stdout⟩ 2 =
        some ⟨.returned, ⟨.empty, rest, draws, stdout ++ out⟩⟩ := by
  let w : World := ⟨.empty, ["3", "12", "7"], Stream'.const 0, []⟩
  have hend : (afterRoundsFrom w 2).any (fun m => decide (m.control = .returned ∧
      m.world.stdin = [] ∧ m.world.store = .empty)) = true := by
    decide +kernel
  have hnone : LTS.log menuStep findsEnd ⟨.again, w⟩ (List.replicate 2 ()) = [] := by
    decide +kernel
  obtain ⟨m, hm, hmenu⟩ := (Option.any_eq_true _ _).mp hend
  obtain ⟨hcontrol, hstdin, hstore⟩ := of_decide_eq_true hmenu
  obtain ⟨read, drawn, out, hread, -, -, hsame⟩ := run_consumes w 2 m hm
  rw [hstdin, List.append_nil] at hread
  refine ⟨drawn, out, fun rest draws stdout => ?_⟩
  have hrest := hsame rest draws stdout (Or.inl hnone)
  rwa [hcontrol, hstore, ← hread] at hrest

/-- A run writes one prompt for each line it reads and one for each round that finds the input
ended. There is no such round as long as lines are left. -/
theorem prompts_of_run (w : World) (n : ℕ) (m : Menu) (hrun : afterRoundsFrom w n = some m) :
    prompts m.world.stdout + m.world.stdin.length = prompts w.stdout + w.stdin.length +
        (LTS.log menuStep findsEnd ⟨.again, w⟩ (List.replicate n ())).length ∧
      (m.world.stdin ≠ [] → LTS.log menuStep findsEnd ⟨.again, w⟩ (List.replicate n ()) = []) := by
  refine ⟨?_, log_findsEnd_of_stdin_ne_nil hrun⟩
  induction n generalizing m with
  | zero =>
    obtain rfl := Option.some.inj hrun
    rfl
  | succ n ih =>
    obtain ⟨k, hk, hcontrol, rfl⟩ := afterRoundsFrom_succ_eq_some.mp hrun
    rw [log_findsEnd_succ hk hcontrol, List.length_append]
    show prompts (iteration k.world).2.stdout + (iteration k.world).2.stdin.length = _
    rw [prompts_iteration, ih k hk, Nat.add_assoc]

/-- One prompt for the choice and one for each of two ids. -/
theorem prompts_of_run_search :
    prompts (iteration ⟨.empty, ["3", "12", "3", "x"], Stream'.const 0, []⟩).2.stdout + 2 = 4 := by
  have hrest : (iteration ⟨.empty, ["3", "12", "3", "x"], Stream'.const 0, []⟩).2.stdin =
      ["3", "x"] := by
    decide +kernel
  obtain ⟨hprompts, hnone⟩ := prompts_of_run ⟨.empty, ["3", "12", "3", "x"], Stream'.const 0, []⟩ 1
    (nextMenu ⟨.empty, ["3", "12", "3", "x"], Stream'.const 0, []⟩) rfl
  have hleft : (nextMenu ⟨.empty, ["3", "12", "3", "x"], Stream'.const 0, []⟩).world.stdin =
      ["3", "x"] := hrest
  rw [hnone (by rw [hleft]; simp), hleft] at hprompts
  exact hprompts

end EventManager.Console

import EventManager.Console.Interaction

/-!
# What the input pays for

Every record of the store was typed in: an event takes five lines, a session six and a registration
three, the choice of the command included. A round reads at least one line as long as there is one,
so a run of as many rounds as there are lines has come to the end of its input, and from then on the
store stays as it is, although the loop goes on.

## Main results

* `size_add_stdin_le`: the lines that the store has cost and the lines that are left are at most the
  lines of the input;
* `stable_of_length_le`: after as many rounds as the input has lines the store is final.
-/

namespace EventManager.Console

open Dart

variable {stdin : List String} {draws : Stream' (Fin 100000)} {n : ℕ} {m m' : Menu}

/-! ## The cost of a change -/

/-- The lines that the command of the change reads. -/
def Change.lines : Change → ℕ
  | nothing => 0
  | addEvent _ => 5
  | removeEvents _ => 3
  | addSession _ => 6
  | register _ => 3

/-- The lines that the records of the store have cost. -/
def Store.size (s : Store) : ℕ :=
  5 * s.events.length + 6 * s.sessions.length + 3 * s.registrations.length

/-- A change adds no more than it costs. -/
theorem Change.size_apply_le (c : Change) (s : Store) : (c.apply s).size ≤ s.size + c.lines := by
  cases c with
  | nothing => exact Nat.le_refl _
  | addEvent =>
    simp only [apply, Store.size, List.length_append, List.length_singleton, lines]
    omega
  | removeEvents id =>
    have hle := List.length_filter_le (fun e => !(e.eventId == id)) s.events
    simp only [apply, Store.size, lines]
    omega
  | addSession =>
    simp only [apply, Store.size, List.length_append, List.length_singleton, lines]
    omega
  | register r =>
    -- a registration under a used key replaces another one
    have hle : (s.registrations.set r.registrationId r).length ≤ s.registrations.length + 1 := by
      by_cases hr : r.registrationId ∈ s.registrations.keys
      · rw [LinkedHashMap.length_set_of_mem hr]
        exact Nat.le_succ _
      · rw [LinkedHashMap.length_set_of_not_mem hr]
    simp only [apply, Store.size, lines]
    omega

/-- A round that makes a change reads the lines of its command. -/
theorem lines_add_stdin_iteration {w : World} (h : requestedChange w ≠ .nothing) :
    (requestedChange w).lines + (iteration w).2.stdin.length = w.stdin.length := by
  rw [iteration_stdin]
  suffices hread : ∃ read : List String, read.length = (requestedChange w).lines ∧
      w.stdin = read ++ restInt w.stdin (commandRest w.store) by
    obtain ⟨read, hlength, hstdin⟩ := hread
    rw [← hlength, ← List.length_append]
    exact congrArg List.length hstdin.symm
  -- the lines that the command asks for are known from its change
  cases hc : requestedChange w with
  | nothing => exact absurd hc h
  | addEvent event =>
    obtain ⟨choice, title, date, location, organizer, rest, hstdin, hchoice, horganizer, -⟩ :=
      requestedChange_eq_addEvent_iff.mp hc
    have hrest : restInt w.stdin (commandRest w.store) = rest := by
      rw [hstdin]
      simp only [restInt, restLine, hchoice]
      show addEventRest _ = _
      simp [addEventRest, restInt, restLine, horganizer]
    exact ⟨[choice, title, date, location, organizer], rfl, by rw [hrest, hstdin]; rfl⟩
  | removeEvents id =>
    obtain ⟨choice, target, answer, rest, hstdin, hchoice, htarget, hoccurs, -⟩ :=
      requestedChange_eq_removeEvents_iff.mp hc
    have hany : (w.store.events.any fun e => e.eventId == id) = true := by simpa using hoccurs
    have hrest : restInt w.stdin (commandRest w.store) = rest := by
      rw [hstdin]
      simp only [restInt, restLine, hchoice]
      show deleteEventRest _ _ = _
      simp [deleteEventRest, restInt, restLine, htarget, hany]
    exact ⟨[choice, target, answer], rfl, by rw [hrest, hstdin]; rfl⟩
  | addSession session =>
    obtain ⟨choice, event, speaker, name, time, capacity, rest, hstdin, hchoice, hevent, hoccurs,
      hspeaker, hcapacity, -⟩ := requestedChange_eq_addSession_iff.mp hc
    have hany : (w.store.events.any fun e => e.eventId == session.eventId) = true := by
      simpa using hoccurs
    have hempty : w.store.events.isEmpty = false := by
      obtain ⟨e, he, -⟩ := hoccurs
      exact List.isEmpty_eq_false_iff.mpr (List.ne_nil_of_mem he)
    have hrest : restInt w.stdin (commandRest w.store) = rest := by
      rw [hstdin]
      simp only [restInt, restLine, hchoice]
      show addSessionRest _ _ = _
      simp [addSessionRest, restInt, restLine, hempty, hevent, hany, hspeaker, hcapacity]
    exact ⟨[choice, event, speaker, name, time, capacity], rfl, by rw [hrest, hstdin]; rfl⟩
  | register r =>
    obtain ⟨choice, user, target, rest, hstdin, hchoice, huser, htarget, -, -, session, hfind, -⟩ :=
      requestedChange_eq_register_iff.mp hc
    have hempty : w.store.sessions.isEmpty = false :=
      List.isEmpty_eq_false_iff.mpr (List.ne_nil_of_mem (List.mem_of_find?_eq_some hfind))
    have hrest : restInt w.stdin (commandRest w.store) = rest := by
      rw [hstdin]
      simp only [restInt, restLine, hchoice]
      show registerUserRest _ _ = _
      simp [registerUserRest, restInt, restLine, hempty, huser, htarget]
    exact ⟨[choice, user, target], rfl, by rw [hrest, hstdin]; rfl⟩

theorem stdin_iteration_le (w : World) : (iteration w).2.stdin.length ≤ w.stdin.length := by
  obtain ⟨read, -, -, hstdin, -⟩ := iteration_consumes ⟨.again, w⟩
  rw [hstdin, List.length_append]
  exact Nat.le_add_left _ _

/-- A round pays for what it adds to the store with the lines it reads. -/
theorem size_add_stdin_iteration_le (w : World) :
    (iteration w).2.store.size + (iteration w).2.stdin.length ≤
      w.store.size + w.stdin.length := by
  rw [iteration_store]
  by_cases hc : requestedChange w = .nothing
  · rw [hc]
    exact Nat.add_le_add_left (stdin_iteration_le w) _
  · have hsize := (requestedChange w).size_apply_le w.store
    have hlines := lines_add_stdin_iteration hc
    omega

/-- In every run, the lines that the store has cost and the lines that are left are at most the
lines of the input. -/
theorem size_add_stdin_le (stdin : List String) (draws : Stream' (Fin 100000)) (n : ℕ) (m : Menu)
    (hrun : afterRounds stdin draws n = some m) :
    5 * m.world.store.events.length + 6 * m.world.store.sessions.length +
      3 * m.world.store.registrations.length + m.world.stdin.length ≤ stdin.length := by
  refine LTS.invariant (I := fun _ m => m.world.store.size + m.world.stdin.length ≤ stdin.length)
    ?_ ?_ hrun
  · simp [start, Store.size, Store.empty]
  · rintro _ m ⟨⟩ m' hm hstep
    obtain ⟨-, rfl⟩ := menuStep_eq_some.mp hstep
    exact Nat.le_trans (size_add_stdin_iteration_le m.world) hm

/-- An event, a session for it and a registration take fourteen lines. -/
theorem size_add_stdin_le_one_of_each :
    ∃ m, afterRounds ["1", "Summit", "May 3", "Muscat", "8", "5", "0", "4", "Opening", "9:00", "20",
        "6", "2", "0", "7"] (Stream'.const 0) 3 = some m ∧ m.world.store.events.length = 1 ∧
      m.world.store.sessions.length = 1 ∧ m.world.store.registrations.length = 1 ∧
      14 + m.world.stdin.length ≤ 15 := by
  have hrun : (afterRounds ["1", "Summit", "May 3", "Muscat", "8", "5", "0", "4", "Opening", "9:00",
      "20", "6", "2", "0", "7"] (Stream'.const 0) 3).any (fun m =>
        m.world.store.events.length == 1 && m.world.store.sessions.length == 1 &&
          m.world.store.registrations.length == 1) = true := by
    decide +kernel
  obtain ⟨m, hm, hlengths⟩ := (Option.any_eq_true _ _).mp hrun
  simp only [Bool.and_eq_true, beq_iff_eq] at hlengths
  obtain ⟨⟨hevents, hsessions⟩, hregistrations⟩ := hlengths
  have hle := size_add_stdin_le _ _ 3 m hm
  rw [hevents, hsessions, hregistrations] at hle
  exact ⟨m, hm, hevents, hsessions, hregistrations, hle⟩

/-! ## The end of the input -/

theorem length_restLine_le {lines : List String} {next : String → List String → List String}
    (h : ∀ line rest, (next line rest).length ≤ rest.length) :
    (restLine lines next).length ≤ lines.length := by
  cases lines with
  | nil => exact Nat.le_refl _
  | cons line rest => exact Nat.le_succ_of_le (h line rest)

theorem length_restInt_le {lines : List String} {next : Int64 → List String → List String}
    (h : ∀ i rest, (next i rest).length ≤ rest.length) :
    (restInt lines next).length ≤ lines.length := by
  refine length_restLine_le fun line rest => ?_
  split
  · exact h _ _
  · exact Nat.le_refl _

/-- A command reads none of the lines before it. -/
theorem length_commandRest_le (s : Store) (choice : Int64) (lines : List String) :
    (commandRest s choice lines).length ≤ lines.length := by
  have hself (rest : List String) : rest.length ≤ rest.length := Nat.le_refl _
  unfold commandRest
  split
  · refine length_restLine_le fun _ _ => length_restLine_le fun _ _ => ?_
    exact length_restLine_le fun _ _ => length_restInt_le fun _ => hself
  · exact length_restInt_le fun _ => hself
  · refine length_restInt_le fun _ rest => ?_
    split
    · exact length_restLine_le fun _ => hself
    · exact hself rest
  · unfold addSessionRest
    split
    · exact hself lines
    · refine length_restInt_le fun _ rest => ?_
      split
      · refine length_restInt_le fun _ _ => length_restLine_le fun _ _ => ?_
        exact length_restLine_le fun _ _ => length_restInt_le fun _ => hself
      · exact hself rest
  · unfold registerUserRest
    split
    · exact hself lines
    · exact length_restInt_le fun _ _ => length_restInt_le fun _ => hself
  · exact hself lines

/-- A round reads a line if there is one. -/
theorem stdin_iteration_lt {w : World} (h : w.stdin ≠ []) :
    (iteration w).2.stdin.length < w.stdin.length := by
  rw [iteration_stdin]
  cases hstdin : w.stdin with
  | nil => exact absurd hstdin h
  | cons line lines =>
    simp only [restInt, restLine, List.length_cons]
    split
    · exact Nat.lt_succ_of_le (length_commandRest_le _ _ _)
    · exact Nat.lt_succ_self _

/-- A round after the end of the input changes neither the variables nor the draws, and the input
stays ended. -/
theorem iteration_of_stdin_eq_nil {w : World} (h : w.stdin = []) :
    (iteration w).2.stdin = [] ∧ (iteration w).2.store = w.store ∧
      (iteration w).2.draws = w.draws := by
  have hchange : requestedChange w = .nothing := by
    rw [requestedChange, h]
    rfl
  refine ⟨by rw [iteration_stdin, h]; rfl, by rw [iteration_store, hchange]; rfl, ?_⟩
  rw [iteration_draws, hchange]
  rfl

/-- As long as lines are left, every round has read one. -/
theorem rounds_add_stdin_le (hrun : afterRounds stdin draws n = some m) :
    m.world.stdin = [] ∨ n + m.world.stdin.length ≤ stdin.length := by
  induction n generalizing m with
  | zero =>
    obtain rfl := Option.some.inj hrun
    exact Or.inr (by simp [start])
  | succ n ih =>
    obtain ⟨k, hk, -, rfl⟩ := afterRounds_succ_eq_some.mp hrun
    by_cases hnil : k.world.stdin = []
    · exact Or.inl (iteration_of_stdin_eq_nil hnil).1
    · have hle := (ih hk).resolve_left hnil
      have hlt : (nextMenu k.world).world.stdin.length < k.world.stdin.length :=
        stdin_iteration_lt hnil
      exact Or.inr (by omega)

/-- Once the input has ended, the variables stay as they are. -/
theorem stable_of_stdin_eq_nil (hrun : afterRounds stdin draws n = some m)
    (hnil : m.world.stdin = []) (k : ℕ) (hrun' : afterRounds stdin draws (n + k) = some m') :
    m'.world.stdin = [] ∧ m'.world.store = m.world.store ∧ m'.world.draws = m.world.draws := by
  induction k generalizing m' with
  | zero =>
    obtain rfl := Option.some.inj (hrun.symm.trans hrun')
    exact ⟨hnil, rfl, rfl⟩
  | succ k ih =>
    obtain ⟨m₁, hm₁, -, rfl⟩ := afterRounds_succ_eq_some.mp hrun'
    obtain ⟨hstdin, hstore, hdraws⟩ := ih hm₁
    obtain ⟨hstdin', hstore', hdraws'⟩ := iteration_of_stdin_eq_nil hstdin
    exact ⟨hstdin', hstore'.trans hstore, hdraws'.trans hdraws⟩

/-- After as many rounds as the input has lines, all lines are read, and the variables and the draws
are the same after every later round. -/
theorem stable_of_length_le (stdin : List String) (draws : Stream' (Fin 100000)) (n k : ℕ)
    (m m' : Menu) (hn : stdin.length ≤ n) (hrun : afterRounds stdin draws n = some m)
    (hrun' : afterRounds stdin draws (n + k) = some m') :
    m.world.stdin = [] ∧ m'.world.store = m.world.store ∧ m'.world.draws = m.world.draws := by
  have hnil : m.world.stdin = [] := by
    rcases rounds_add_stdin_le hrun with hnil | hle
    · exact hnil
    · exact List.length_eq_zero_iff.mp (by omega)
  exact ⟨hnil, (stable_of_stdin_eq_nil hrun hnil k hrun').2⟩

/-- An input of eight lines that ends within a command: the loop goes on with the event that was
added. -/
theorem stable_of_length_le_incomplete :
    ∃ m m', afterRounds ["1", "Summit", "May 3", "Muscat", "8", "5", "0", "4"] (Stream'.const 0) 8 =
        some m ∧
      afterRounds ["1", "Summit", "May 3", "Muscat", "8", "5", "0", "4"] (Stream'.const 0) (8 + 3) =
        some m' ∧
      m'.world.store.events.map Event.title = ["Summit"] ∧ m'.world.store = m.world.store := by
  let stdin := ["1", "Summit", "May 3", "Muscat", "8", "5", "0", "4"]
  have hearly : (afterRounds stdin (Stream'.const 0) 8).any (fun m =>
      m.world.store.events.map Event.title == ["Summit"]) = true := by
    decide +kernel
  have hlate : (afterRounds stdin (Stream'.const 0) (8 + 3)).isSome = true := by
    decide +kernel
  obtain ⟨m, hm, htitles⟩ := (Option.any_eq_true _ _).mp hearly
  obtain ⟨m', hm'⟩ := Option.isSome_iff_exists.mp hlate
  have hstore := (stable_of_length_le _ _ 8 3 m m' (by decide) hm hm').2.1
  exact ⟨m, m', hm, hm', by rw [hstore]; simpa using htitles, hstore⟩

end EventManager.Console

import EventManager.Console.Runs
import Mathlib.Data.List.FinRange
import Mathlib.Data.List.Perm.Subperm

/-!
# Seats and registrations

`registerUser` admits a user to a session while the number of *all* registrations is below the
capacity of the session. This is stricter than counting the session's own registrations, so no
session is ever overbooked; but a session whose own seats are free is refused as soon as the other
sessions' registrations reach its capacity.

## Main results

* `noOverbooking`: after any number of rounds, every registration is stored under its own id and
  names a session, and no session has more registrations than seats;
* `records_iff_ownSeats_iff`: the answer of `registerUser` agrees with the session's own count
  exactly if the total is below the capacity or the own count has reached it.
-/

namespace EventManager.Console

open Dart Dart.Program

variable {stdin : List String} {draws : Stream' (Fin 100000)} {n : ℕ} {m : Menu}

/-- `sessions.firstWhere((s) => s.sessionId == id)`. -/
def lookupSession (s : Store) (id : Int64) : Option Session :=
  s.sessions.find? fun x => x.sessionId == id

/-- The number of registrations for the session id. -/
def registeredFor (s : Store) (id : Int64) : ℕ :=
  s.registrations.values.countP fun r => r.sessionId == id

/-! ## No overbooking -/

/-- The invariant behind `noOverbooking`. That registrations name existing sessions and that the
first session of an id never changes are what keeps a new session from inheriting
registrations. -/
structure Booked (s : Store) : Prop where
  ownKey : ∀ e ∈ s.registrations.entries, e.2.registrationId = e.1
  drawn : ∀ k ∈ s.registrations.keys, ∃ d, k = drawnId d
  named : ∀ r ∈ s.registrations.values, ∃ x ∈ s.sessions, x.sessionId = r.sessionId
  seats : ∀ id x, lookupSession s id = some x →
    (registeredFor s id : ℤ) ≤ max 0 x.capacity.toInt

theorem registeredFor_le_length (s : Store) (id : Int64) :
    registeredFor s id ≤ s.registrations.length := by
  rw [registeredFor, ← LinkedHashMap.length_values]
  exact List.countP_le_length

/-- There are at most as many registrations as numbers to draw. -/
theorem Booked.length_le {s : Store} (h : Booked s) : s.registrations.length ≤ 100000 := by
  -- the keys are distinct and drawn
  have hsub : s.registrations.keys ⊆ (List.finRange 100000).map drawnId := by
    intro k hk
    obtain ⟨d, rfl⟩ := h.drawn k hk
    exact List.mem_map_of_mem (List.mem_finRange d)
  have hlen := (List.Nodup.subperm LinkedHashMap.nodup_keys hsub).length_le
  rwa [LinkedHashMap.length_keys, List.length_map, List.length_finRange] at hlen

/-- The comparison of `registerUser`, as a comparison of integers. -/
theorem Booked.hasAvailableSeats_iff {s : Store} (h : Booked s) (capacity : Int64) :
    hasAvailableSeats capacity (Int64.ofNat s.registrations.length) = true ↔
      (s.registrations.length : ℤ) < capacity.toInt := by
  have hlen : s.registrations.length < 2 ^ 63 := lt_of_le_of_lt h.length_le (by decide)
  rw [hasAvailableSeats, decide_eq_true_iff, Int64.lt_iff_toInt_lt, Int64.toInt_ofNat_of_lt hlen]

theorem booked_empty : Booked .empty := by
  constructor <;> simp [Store.empty, LinkedHashMap.keys, LinkedHashMap.values, lookupSession]

/-- A new session has no registrations yet, since registrations name sessions that exist. -/
theorem booked_addSession {s : Store} (h : Booked s) (session : Session) :
    Booked ((Change.addSession session).apply s) := by
  refine ⟨h.ownKey, h.drawn, ?_, ?_⟩
  · intro r hr
    obtain ⟨x, hx, hid⟩ := h.named r hr
    exact ⟨x, List.mem_append_left _ hx, hid⟩
  · intro id x hx
    show (registeredFor s id : ℤ) ≤ max 0 x.capacity.toInt
    have hx' : (lookupSession s id).or ([session].find? fun x => x.sessionId == id) = some x := by
      rw [← hx]
      exact List.find?_append.symm
    cases hs : lookupSession s id with
    | some y =>
      -- the first session of the id stays the first
      rw [hs, Option.some_or, Option.some.injEq] at hx'
      exact hx' ▸ h.seats id y hs
    | none =>
      -- the new session is the first of its id, and nobody has registered for that id
      have hzero : registeredFor s id = 0 := by
        rw [registeredFor, List.countP_eq_zero]
        intro r hr hid
        obtain ⟨y, hy, hyid⟩ := h.named r hr
        have hne := List.find?_eq_none.mp hs y hy
        rw [hyid] at hne
        exact hne hid
      rw [hzero]
      exact le_max_left _ _

/-- A registration adds at most one to its session, and the total was below the capacity. -/
theorem booked_register {s : Store} (h : Booked s) {d : Fin 100000} {r : Registration}
    (hr : (Change.register r).Permitted s (drawnId d)) :
    Booked ((Change.register r).apply s) := by
  obtain ⟨hid, session, hsession, hseats⟩ := hr
  rw [h.hasAvailableSeats_iff] at hseats
  refine ⟨?_, ?_, ?_, ?_⟩
  · intro e he
    rcases LinkedHashMap.mem_entries_set he with rfl | ⟨he, -⟩
    · rfl
    · exact h.ownKey e he
  · intro k hk
    rcases LinkedHashMap.mem_keys_set.mp hk with rfl | hk
    · exact ⟨d, hid⟩
    · exact h.drawn k hk
  · intro r' hr'
    obtain ⟨e, he, rfl⟩ := List.mem_map.mp hr'
    rcases LinkedHashMap.mem_entries_set he with rfl | ⟨he, -⟩
    · exact ⟨session, List.mem_of_find?_eq_some hsession, by simpa using List.find?_some hsession⟩
    · exact h.named e.2 (List.mem_map_of_mem he)
  · intro id x hx
    change lookupSession s id = some x at hx
    by_cases hrid : r.sessionId = id
    · -- own count ≤ total < capacity before, at most one more after
      subst hrid
      have hx' : session = x := Option.some.inj (hsession.symm.trans hx)
      subst hx'
      have hcount : registeredFor ((Change.register r).apply s) r.sessionId ≤
          registeredFor s r.sessionId + 1 := LinkedHashMap.countP_values_set_le _
      have htotal := registeredFor_le_length s r.sessionId
      omega
    · have hcount : registeredFor ((Change.register r).apply s) id ≤ registeredFor s id :=
        LinkedHashMap.countP_values_set_le_of_neg (by simpa using hrid)
      have := h.seats id x hx
      omega

theorem booked_apply {s : Store} (h : Booked s) {d : Fin 100000} {c : Change}
    (hc : c.Permitted s (drawnId d)) : Booked (c.apply s) := by
  cases c with
  | nothing => exact h
  | addEvent event => exact ⟨h.ownKey, h.drawn, h.named, h.seats⟩
  | removeEvents id => exact ⟨h.ownKey, h.drawn, h.named, h.seats⟩
  | addSession session => exact booked_addSession h session
  | register r => exact booked_register h hc

theorem booked_afterRounds (hrun : afterRounds stdin draws n = some m) : Booked m.world.store :=
  store_invariant booked_empty (fun _ _ _ h hc => booked_apply h hc) hrun

/-- In every state the program reaches, each registration is stored under its own id and names a
session that exists, and the first session of every id has at most as many registrations as
seats. -/
theorem noOverbooking (hrun : afterRounds stdin draws n = some m) :
    (∀ e ∈ m.world.store.registrations.entries,
      e.2.registrationId = e.1 ∧ ∃ x ∈ m.world.store.sessions, x.sessionId = e.2.sessionId) ∧
    ∀ id ∈ m.world.store.sessions.map Session.sessionId,
      ∃ x, lookupSession m.world.store id = some x ∧
        (registeredFor m.world.store id : ℤ) ≤ max 0 x.capacity.toInt := by
  have h := booked_afterRounds hrun
  refine ⟨fun e he => ⟨h.ownKey e he, h.named e.2 (List.mem_map_of_mem he)⟩, fun id hid => ?_⟩
  obtain ⟨y, hy, hyid⟩ := List.mem_map.mp hid
  cases hx : lookupSession m.world.store id with
  | none => exact absurd (List.find?_eq_none.mp hx y hy) (by simp [hyid])
  | some x => exact ⟨x, rfl, h.seats id x hx⟩

/-- A run that books both seats of a session and is refused a third. -/
theorem noOverbooking_twoSeats :
    ∃ stdin draws n m, afterRounds stdin draws n = some m ∧ registeredFor m.world.store 1 = 2 ∧
      ∃ x, lookupSession m.world.store 1 = some x ∧ x.capacity = 2 ∧
        (registeredFor m.world.store 1 : ℤ) ≤ max 0 x.capacity.toInt := by
  have h : (afterRounds
      ["1", "Summit", "May", "Muscat", "9", "5", "0", "8", "Opening", "10:00", "2",
        "6", "1", "1", "6", "2", "1", "6", "3", "1"]
      (Stream'.cons 0 (Stream'.cons 1 (Stream'.cons 2 (Stream'.const 3)))) 5).any
      (fun m => registeredFor m.world.store 1 = 2 ∧
        1 ∈ m.world.store.sessions.map Session.sessionId ∧
        (lookupSession m.world.store 1).map Session.capacity = some 2) = true := by
    decide +kernel
  obtain ⟨m, hm, hp⟩ := (Option.any_eq_true _ _).mp h
  simp only [decide_eq_true_eq] at hp
  obtain ⟨x, hx, hseats⟩ := (noOverbooking hm).2 1 hp.2.1
  exact ⟨_, _, _, m, hm, hp.1, x, hx, by simpa [hx] using hp.2.2, hseats⟩

/-! ## The session's own seats -/

/-- `registerUser`, called in `w`, records a registration of the user for the session: it sets the
drawn key and reports success. -/
def Records (w : World) (userId sessionId : Int64) : Prop :=
  (exec registerUser w).2.store.registrations =
      w.store.registrations.set (drawnId w.draws.head)
        ⟨drawnId w.draws.head, userId, sessionId, .confirmed⟩ ∧
    (exec registerUser w).2.stdout.count successReport = w.stdout.count successReport + 1

instance (w : World) (userId sessionId : Int64) : Decidable (Records w userId sessionId) := by
  unfold Records
  infer_instance

/-- What a call of `registerUser` reads: the texts of a user id and of the id of a session that
the lookup finds. -/
structure Call (w : World) (userId sessionId : Int64) (session : Session) : Prop where
  lines : ∃ user target rest, w.stdin = user :: target :: rest ∧
    int.tryParse user = some userId ∧ int.tryParse target = some sessionId
  found : lookupSession w.store sessionId = some session

/-- A call records a registration exactly if the check against the capacity of the session found
succeeds. -/
theorem records_iff_hasAvailableSeats {w : World} {userId sessionId : Int64} {session : Session}
    (hcall : Call w userId sessionId session) :
    Records w userId sessionId ↔
      hasAvailableSeats session.capacity (Int64.ofNat w.store.registrations.length) = true := by
  obtain ⟨⟨user, target, rest, hstdin, huser, htarget⟩, hfound⟩ := hcall
  have h := performs_registerUser w
  have hchange : registerUserChange w.store (drawnId w.draws.head) w.stdin =
      if hasAvailableSeats session.capacity (Int64.ofNat w.store.registrations.length) then
        .register ⟨drawnId w.draws.head, userId, sessionId, .confirmed⟩
      else .nothing := by
    unfold lookupSession at hfound
    simp [registerUserChange, onInt, onLine, hstdin, huser, htarget, hfound]
  rw [hchange] at h
  by_cases hseats :
      hasAvailableSeats session.capacity (Int64.ofNat w.store.registrations.length) = true
  · rw [if_pos hseats] at h
    exact iff_of_true ⟨by rw [h.store]; rfl, by rw [h.reports]; rfl⟩ hseats
  · -- a refused call prints no success report
    rw [if_neg hseats] at h
    refine iff_of_false (fun hrec => ?_) hseats
    have hcount := hrec.2
    rw [h.reports] at hcount
    simp [Change.isRegister] at hcount

/-- A call records a registration exactly if the number of all registrations is below the
capacity. -/
theorem records_iff {w : World} {userId sessionId : Int64} {session : Session}
    (hcall : Call w userId sessionId session) (hw : Booked w.store) :
    Records w userId sessionId ↔
      (w.store.registrations.length : ℤ) < session.capacity.toInt := by
  rw [records_iff_hasAvailableSeats hcall, hw.hasAvailableSeats_iff]

/-- The condition under which counting all registrations gives the same answer as counting the
session's own: the total is below the capacity, or the own count has reached it. -/
def OwnSeatsDecide (s : Store) (sessionId : Int64) (session : Session) : Prop :=
  (s.registrations.length : ℤ) < session.capacity.toInt ∨
    session.capacity.toInt ≤ registeredFor s sessionId

/-- In a reachable state, `registerUser` answers by the session's own free seats exactly if
`OwnSeatsDecide` holds; and in two such states with the same sessions and the same registrations
for the session it gives the same answer. -/
theorem records_iff_ownSeats_iff {w : World} {userId sessionId : Int64} {session : Session}
    (hrun : afterRounds stdin draws n = some m) (hw : w.store = m.world.store)
    (hcall : Call w userId sessionId session) :
    ((Records w userId sessionId ↔
        (registeredFor w.store sessionId : ℤ) < session.capacity.toInt) ↔
      OwnSeatsDecide w.store sessionId session) ∧
    ∀ stdin' draws' n' m' (w' : World) userId', afterRounds stdin' draws' n' = some m' →
      w'.store = m'.world.store → Call w' userId' sessionId session →
      w'.store.sessions = w.store.sessions →
      (w'.store.registrations.entries.filter fun e => e.2.sessionId == sessionId) =
        (w.store.registrations.entries.filter fun e => e.2.sessionId == sessionId) →
      OwnSeatsDecide w.store sessionId session → OwnSeatsDecide w'.store sessionId session →
      (Records w userId sessionId ↔ Records w' userId' sessionId) := by
  -- the own count is at most the total, so the two comparisons differ only between them
  have hbooked : Booked w.store := hw ▸ booked_afterRounds hrun
  have hown := registeredFor_le_length w.store sessionId
  refine ⟨?_, ?_⟩
  · rw [records_iff hcall hbooked, OwnSeatsDecide]
    omega
  · intro stdin' draws' n' m' w' userId' hrun' hw' hcall' _ hsame hdecide hdecide'
    have hbooked' : Booked w'.store := hw' ▸ booked_afterRounds hrun'
    have hown' := registeredFor_le_length w'.store sessionId
    -- the own count reads only the registrations for the session
    have hcount (s : Store) : registeredFor s sessionId =
        (s.registrations.entries.filter fun e => e.2.sessionId == sessionId).length := by
      rw [registeredFor, LinkedHashMap.values, List.countP_map, List.countP_eq_length_filter]
      rfl
    have heq : registeredFor w'.store sessionId = registeredFor w.store sessionId := by
      rw [hcount, hcount, hsame]
    rw [records_iff hcall hbooked, records_iff hcall' hbooked']
    rw [OwnSeatsDecide] at hdecide hdecide'
    omega

/-- With three seats and two registrations in all, one of them for another session, the total and
the own count agree, and the registration for the other session makes no difference. -/
theorem records_iff_ownSeats_iff_threeSeats :
    ∃ w w' : World, registeredFor w.store 1 = 1 ∧ w'.store.registrations.length = 2 ∧
      (Records w 9 1 ↔ (registeredFor w.store 1 : ℤ) < 3) ∧
      (Records w 9 1 ↔ Records w' 9 1) := by
  let session : Session := ⟨1, 0, 8, "Opening", "10:00", 3⟩
  have h : (afterRounds
      ["1", "Summit", "May", "Muscat", "9", "5", "0", "8", "Opening", "10:00", "3",
        "5", "0", "8", "Closing", "16:00", "5", "6", "1", "1"]
      (Stream'.cons 0 (Stream'.cons 1 (Stream'.cons 2 (Stream'.const 3)))) 4).any
      (fun m => m.world.store = ⟨[⟨0, 9, "Summit", "May", "Muscat"⟩],
        [session, ⟨2, 0, 8, "Closing", "16:00", 5⟩],
        LinkedHashMap.empty.set 3 ⟨3, 1, 1, .confirmed⟩⟩) = true := by
    decide +kernel
  have h' : (afterRounds
      ["1", "Summit", "May", "Muscat", "9", "5", "0", "8", "Opening", "10:00", "3",
        "5", "0", "8", "Closing", "16:00", "5", "6", "1", "1", "6", "4", "2"]
      (Stream'.cons 0 (Stream'.cons 1 (Stream'.cons 2 (Stream'.cons 3 (Stream'.const 4))))) 5).any
      (fun m => m.world.store = ⟨[⟨0, 9, "Summit", "May", "Muscat"⟩],
        [session, ⟨2, 0, 8, "Closing", "16:00", 5⟩],
        (LinkedHashMap.empty.set 3 ⟨3, 1, 1, .confirmed⟩).set 4 ⟨4, 4, 2, .confirmed⟩⟩) = true := by
    decide +kernel
  obtain ⟨m, hm, hp⟩ := (Option.any_eq_true _ _).mp h
  obtain ⟨m', hm', hp'⟩ := (Option.any_eq_true _ _).mp h'
  simp only [decide_eq_true_eq] at hp hp'
  have hcall {m : Menu} (hfound : lookupSession m.world.store 1 = some session) :
      Call { m.world with stdin := ["9", "1"] } 9 1 session :=
    ⟨⟨"9", "1", [], rfl, by decide, by decide⟩, hfound⟩
  have hfound : lookupSession m.world.store 1 = some session := by rw [hp]; rfl
  have hfound' : lookupSession m'.world.store 1 = some session := by rw [hp']; rfl
  have hdecide : OwnSeatsDecide m.world.store 1 session := Or.inl (by rw [hp]; decide)
  have hdecide' : OwnSeatsDecide m'.world.store 1 session := Or.inl (by rw [hp']; decide)
  let w : World := { m.world with stdin := ["9", "1"] }
  let w' : World := { m'.world with stdin := ["9", "1"] }
  obtain ⟨hanswer, hsame⟩ := records_iff_ownSeats_iff (w := w) hm rfl (hcall hfound)
  refine ⟨w, w', ?_, ?_, hanswer.mpr hdecide, ?_⟩
  · change registeredFor m.world.store 1 = 1
    rw [hp]
    decide
  · change m'.world.store.registrations.length = 2
    rw [hp']
    decide
  · refine hsame _ _ _ m' w' 9 hm' rfl (hcall hfound') ?_ ?_ hdecide hdecide'
    · change m'.world.store.sessions = m.world.store.sessions
      rw [hp, hp']
    · change (m'.world.store.registrations.entries.filter _) =
        (m.world.store.registrations.entries.filter _)
      rw [hp, hp']
      decide

/-- Two sessions of one seat each: once the first is booked, a call for the second is refused
although nobody has registered for it. -/
theorem freeSession_refused :
    ¬ ∀ stdin draws n m (w : World) userId sessionId session,
      afterRounds stdin draws n = some m → w.store = m.world.store →
      Call w userId sessionId session →
      (Records w userId sessionId ↔
        (registeredFor w.store sessionId : ℤ) < session.capacity.toInt) := by
  intro hclaim
  have h : (afterRounds
      ["1", "Summit", "May", "Muscat", "9", "5", "0", "8", "Opening", "10:00", "1",
        "5", "0", "8", "Closing", "16:00", "1", "6", "1", "1"]
      (Stream'.cons 0 (Stream'.cons 1 (Stream'.cons 2 (Stream'.const 3)))) 4).any
      (fun m => ¬ Records { m.world with stdin := ["2", "2"] } 2 2 ∧
        registeredFor m.world.store 2 = 0 ∧
        lookupSession m.world.store 2 = some ⟨2, 0, 8, "Closing", "16:00", 1⟩) = true := by
    decide +kernel
  obtain ⟨m, hm, hp⟩ := (Option.any_eq_true _ _).mp h
  simp only [decide_eq_true_eq] at hp
  obtain ⟨hrefused, hcount, hfound⟩ := hp
  have hcall : Call { m.world with stdin := ["2", "2"] } 2 2 ⟨2, 0, 8, "Closing", "16:00", 1⟩ :=
    ⟨⟨"2", "2", [], rfl, by decide, by decide⟩, hfound⟩
  refine hrefused ((hclaim _ _ _ m { m.world with stdin := ["2", "2"] } 2 2 _ hm rfl hcall).mpr ?_)
  show (registeredFor m.world.store 2 : ℤ) < _
  rw [hcount]
  decide

end EventManager.Console

import EventManager.Console.Capacity

/-!
# Registrations and their keys

`registerUser` stores a registration under a drawn key without asking whether the key is taken.
A repeated draw replaces an earlier registration that was reported as successful.

`successfulCalls` is the history of a run: the calls of `registerUser` that reported success, each
with the id it was given and the user and session it was made for. The map of registrations holds
this history exactly as long as no admitted registration draws a key already in use.

## Main results

* `kept_iff_freshKeys`: no successful registration is lost in a run iff every admitted
  registration of the run draws a fresh key.
-/

namespace EventManager.Console

open Dart Dart.Program

variable {stdin : List String} {draws : Stream' (Fin 100000)} {n : ℕ} {m : Menu}

/-! ## Successful calls -/

/-- Whether the round that starts in `w` reports a successful registration. -/
def reportsSuccess (w : World) : Bool :=
  w.stdout.count successReport < (iteration w).2.stdout.count successReport

/-- The successful call of `registerUser` in the round that starts in `w`: the drawn id, and the
user and session read after the choice. -/
def successfulCall (w : World) : Option Registration :=
  match w.stdin with
  | _ :: user :: target :: _ =>
    if reportsSuccess w then do
      let userId ← int.tryParse user
      let sessionId ← int.tryParse target
      return ⟨drawnId w.draws.head, userId, sessionId, .confirmed⟩
    else none
  | _ => none

/-- The successful calls of the first `n` rounds, in order. -/
def successfulCalls (stdin : List String) (draws : Stream' (Fin 100000)) (n : ℕ) :
    List Registration :=
  (List.range n).filterMap fun k => (afterRounds stdin draws k).bind fun m => successfulCall m.world

theorem reportsSuccess_iff {w : World} :
    reportsSuccess w = true ↔ ∃ r, requestedChange w = .register r := by
  rw [reportsSuccess, decide_eq_true_iff, count_report_iteration]
  cases requestedChange w <;> simp [Change.isRegister]

theorem successfulCall_eq_some_iff {w : World} {r : Registration} :
    successfulCall w = some r ↔ requestedChange w = .register r := by
  constructor
  · intro h
    unfold successfulCall at h
    split at h
    · next choice user target rest hstdin =>
      split at h
      · next hreports =>
        -- the round requests some registration, and it reads the same lines
        obtain ⟨r', hr'⟩ := reportsSuccess_iff.mp hreports
        obtain ⟨choice', user', target', rest', hstdin', -, huser, htarget, hid, hstatus, -⟩ :=
          requestedChange_eq_register_iff.mp hr'
        rw [hstdin] at hstdin'
        simp only [List.cons.injEq] at hstdin'
        obtain ⟨-, rfl, rfl, -⟩ := hstdin'
        simp only [huser, htarget, ← hid, ← hstatus, Option.bind_eq_bind, Option.bind_some,
          Option.pure_def, Option.some.injEq] at h
        rw [hr', ← h]
      · simp at h
    · simp at h
  · intro h
    have hreports := reportsSuccess_iff.mpr ⟨r, h⟩
    obtain ⟨choice, user, target, rest, hstdin, -, huser, htarget, hid, hstatus, -⟩ :=
      requestedChange_eq_register_iff.mp h
    simp [successfulCall, hstdin, hreports, huser, htarget, ← hid, ← hstatus]

theorem successfulCalls_succ (hrun : afterRounds stdin draws n = some m) :
    successfulCalls stdin draws (n + 1) =
      successfulCalls stdin draws n ++ (successfulCall m.world).toList := by
  rw [successfulCalls, List.range_succ, List.filterMap_append]
  cases hcall : successfulCall m.world <;> simp [successfulCalls, hrun, hcall]

/-! ## Runs -/

/-- Every successful call of the first `n` rounds is in the map, under the id it was given and with
its user and session, and the map holds nothing else. -/
def Kept (stdin : List String) (draws : Stream' (Fin 100000)) (n : ℕ) (m : Menu) : Prop :=
  m.world.store.registrations.length = (successfulCalls stdin draws n).length ∧
    ∀ call ∈ successfulCalls stdin draws n, ∃ r,
      m.world.store.registrations.lookup call.registrationId = some r ∧
        r.userId = call.userId ∧ r.sessionId = call.sessionId

/-- The round that starts in `w` is an admitted call of `registerUser`: command 6, a user id and
the id of a session whose capacity is above the number of all registrations. -/
def AdmitsRegistration (w : World) : Prop :=
  ∃ choice user target rest userId sessionId session,
    w.stdin = choice :: user :: target :: rest ∧ int.tryParse choice = some 6 ∧
      int.tryParse user = some userId ∧ int.tryParse target = some sessionId ∧
      lookupSession w.store sessionId = some session ∧
      hasAvailableSeats session.capacity (Int64.ofNat w.store.registrations.length) = true

/-- If the round is an admitted call of `registerUser`, the id it draws is not in use. -/
def DrawsFreshKey (w : World) : Prop :=
  AdmitsRegistration w → drawnId w.draws.head ∉ w.store.registrations.keys

theorem admitsRegistration_iff {w : World} :
    AdmitsRegistration w ↔
      ∃ r, requestedChange w = .register r ∧ r.registrationId = drawnId w.draws.head := by
  constructor
  · rintro ⟨choice, user, target, rest, userId, sessionId, session, hstdin, hchoice, huser,
      htarget, hfound, hseats⟩
    refine ⟨⟨drawnId w.draws.head, userId, sessionId, .confirmed⟩, ?_, rfl⟩
    exact requestedChange_eq_register_iff.mpr ⟨choice, user, target, rest, hstdin, hchoice, huser,
      htarget, rfl, rfl, session, hfound, hseats⟩
  · rintro ⟨r, hr, -⟩
    obtain ⟨choice, user, target, rest, hstdin, hchoice, huser, htarget, -, -, session, hfound,
      hseats⟩ := requestedChange_eq_register_iff.mp hr
    exact ⟨choice, user, target, rest, r.userId, r.sessionId, session, hstdin, hchoice, huser,
      htarget, hfound, hseats⟩

/-- A round that is no admitted registration leaves the map and the history as they are. -/
theorem kept_of_not_admits (hrun : afterRounds stdin draws n = some m)
    (hadmits : ¬ AdmitsRegistration m.world) (h : Kept stdin draws n m) :
    Kept stdin draws (n + 1) (nextMenu m.world) := by
  -- a successful call would be an admitted one
  have hcall : successfulCall m.world = none := by
    rw [Option.eq_none_iff_forall_ne_some]
    intro r hr
    have hr := successfulCall_eq_some_iff.mp hr
    exact hadmits (admitsRegistration_iff.mpr
      ⟨r, hr, (hr ▸ requestedChange_permitted m.world : (Change.register r).Permitted _ _).1⟩)
  have hmap : (nextMenu m.world).world.store.registrations = m.world.store.registrations := by
    rw [nextMenu_store]
    cases hchange : requestedChange m.world with
    | register r => simp [successfulCall_eq_some_iff.mpr hchange] at hcall
    | _ => rfl
  have hcalls : successfulCalls stdin draws (n + 1) = successfulCalls stdin draws n := by
    rw [successfulCalls_succ hrun, hcall]
    simp
  rw [Kept, hmap, hcalls]
  exact h

/-- An admitted registration sets the drawn key, and is the next successful call. -/
theorem admitted_round (hrun : afterRounds stdin draws n = some m)
    (hadmits : AdmitsRegistration m.world) :
    ∃ r, r.registrationId = drawnId m.world.draws.head ∧
      (nextMenu m.world).world.store.registrations =
        m.world.store.registrations.set r.registrationId r ∧
      successfulCalls stdin draws (n + 1) = successfulCalls stdin draws n ++ [r] := by
  obtain ⟨r, hr, hid⟩ := admitsRegistration_iff.mp hadmits
  refine ⟨r, hid, ?_, ?_⟩
  · rw [nextMenu_store, hr]
    rfl
  · rw [successfulCalls_succ hrun, successfulCall_eq_some_iff.mpr hr]
    rfl

/-- A fresh key adds the call to the map and keeps every earlier one. -/
theorem kept_of_fresh (hrun : afterRounds stdin draws n = some m)
    (hadmits : AdmitsRegistration m.world)
    (hfresh : drawnId m.world.draws.head ∉ m.world.store.registrations.keys)
    (h : Kept stdin draws n m) : Kept stdin draws (n + 1) (nextMenu m.world) := by
  obtain ⟨hlength, hcalls⟩ := h
  obtain ⟨r, hid, hmap, hnext⟩ := admitted_round hrun hadmits
  rw [← hid] at hfresh
  rw [Kept, hmap, hnext]
  refine ⟨?_, ?_⟩
  · rw [LinkedHashMap.length_set_of_not_mem hfresh, hlength, List.length_append]
    rfl
  · intro call hmem
    rcases List.mem_append.mp hmem with hmem | hmem
    · obtain ⟨r', hlookup, hsame⟩ := hcalls call hmem
      -- the earlier call's key is present, the new one is not
      have hne : call.registrationId ≠ r.registrationId := by
        intro heq
        exact hfresh (heq ▸ LinkedHashMap.mem_keys_iff.mpr ⟨r', hlookup⟩)
      exact ⟨r', by rw [LinkedHashMap.lookup_set_of_ne hne, hlookup], hsame⟩
    · obtain rfl := List.mem_singleton.mp hmem
      exact ⟨call, LinkedHashMap.lookup_set_self, rfl, rfl⟩

/-- A key already in use leaves the map with fewer entries than successful calls. -/
theorem not_kept_of_used (hrun : afterRounds stdin draws n = some m)
    (hadmits : AdmitsRegistration m.world)
    (hused : drawnId m.world.draws.head ∈ m.world.store.registrations.keys)
    (h : Kept stdin draws n m) : ¬ Kept stdin draws (n + 1) (nextMenu m.world) := by
  obtain ⟨r, hid, hmap, hnext⟩ := admitted_round hrun hadmits
  rw [← hid] at hused
  rw [Kept, hmap, hnext, LinkedHashMap.length_set_of_mem hused, h.1, List.length_append]
  rintro ⟨hlength, -⟩
  simp at hlength

/-- In a run of `n` rounds no successful registration is lost, at any point, exactly if every
admitted registration of the run draws a key that is not in use. -/
theorem kept_iff_freshKeys (stdin : List String) (draws : Stream' (Fin 100000)) (n : ℕ) :
    (∀ k ≤ n, ∀ m, afterRounds stdin draws k = some m → Kept stdin draws k m) ↔
      ∀ k < n, ∀ m, afterRounds stdin draws k = some m → m.control = .again →
        DrawsFreshKey m.world := by
  -- the history is that of the run itself, so the invariant says where in the run it is
  refine rounds_always_iff
    (I := fun k m => afterRounds stdin draws k = some m ∧ Kept stdin draws k m) ?_ ?_ ?_ ?_
  · exact ⟨afterRounds_zero, rfl, by simp [successfulCalls]⟩
  · exact fun k m h => h.2
  · rintro k m ⟨hrun, hkept⟩ hagain hfresh
    refine ⟨afterRounds_succ_eq_some.mpr ⟨m, hrun, hagain, rfl⟩, ?_⟩
    by_cases hadmits : AdmitsRegistration m.world
    · exact kept_of_fresh hrun hadmits (hfresh hadmits) hkept
    · exact kept_of_not_admits hrun hadmits hkept
  · rintro k m ⟨hrun, hkept⟩ - hused
    simp only [DrawsFreshKey, Classical.not_imp, not_not] at hused
    exact not_kept_of_used hrun hused.1 hused.2 hkept

/-- Two users register and the second is given the id of the first: both calls report success and
one registration is left. -/
theorem repeatedKey_loses_registration :
    ¬ ∀ stdin draws n m, afterRounds stdin draws n = some m → Kept stdin draws n m := by
  intro hclaim
  have h : (afterRounds
      ["1", "Summit", "May", "Muscat", "9", "5", "0", "8", "Opening", "10:00", "5",
        "6", "1", "1", "6", "2", "1"]
      (Stream'.cons 0 (Stream'.cons 1 (Stream'.const 7))) 4).any
      (fun m => m.world.store.registrations.length = 1) = true := by
    decide +kernel
  obtain ⟨m, hm, hp⟩ := (Option.any_eq_true _ _).mp h
  simp only [decide_eq_true_eq] at hp
  -- the history has two calls
  exact absurd (hclaim _ _ _ m hm).1 (by rw [hp]; decide +kernel)

end EventManager.Console

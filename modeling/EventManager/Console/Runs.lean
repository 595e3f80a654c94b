import EventManager.Console.Change

/-!
# Runs of the menu loop

The rules of `ToMathlib.Run` at the menu loop, with the number of rounds in place of the list of
labels. A round is described by the change it requests, so an invariant of the store only has to
be checked against the permitted changes.

## Main results

* `store_invariant`: a property of the store that every permitted change keeps holds after every
  number of rounds from program start;
* `rounds_always_iff`: when a property holds throughout a run in terms of a condition on the
  world at the start of each round.
-/

namespace EventManager.Console

open Dart

variable {stdin : List String} {draws : Stream' (Fin 100000)} {n : ℕ} {m m' : Menu}

/-- The menu state after the round that starts in `w`. -/
def nextMenu (w : World) : Menu := ⟨(iteration w).1, (iteration w).2⟩

theorem nextMenu_store (w : World) :
    (nextMenu w).world.store = (requestedChange w).apply w.store := iteration_store w

theorem menuStep_eq_some :
    menuStep m () = some m' ↔ m.control = .again ∧ nextMenu m.world = m' := by
  unfold menuStep
  cases m.control <;> simp [nextMenu]

theorem afterRounds_zero : afterRounds stdin draws 0 = some (start stdin draws) := rfl

theorem afterRounds_succ_eq_some :
    afterRounds stdin draws (n + 1) = some m' ↔
      ∃ m, afterRounds stdin draws n = some m ∧ m.control = .again ∧ nextMenu m.world = m' := by
  rw [afterRounds, List.replicate_succ', LTS.run_concat_eq_some]
  simp only [menuStep_eq_some]
  rfl

/-- Invariant rule for the store. -/
theorem store_invariant {I : Store → Prop} (hinit : I .empty)
    (hstep : ∀ s d (c : Change), I s → c.Permitted s (drawnId d) → I (c.apply s))
    (hrun : afterRounds stdin draws n = some m) : I m.world.store := by
  refine LTS.invariant (I := fun _ m => I m.world.store) hinit ?_ hrun
  rintro _ m ⟨⟩ m' hm hstep'
  obtain ⟨_, rfl⟩ := menuStep_eq_some.mp hstep'
  rw [nextMenu_store]
  exact hstep _ _ _ hm (requestedChange_permitted m.world)

/-- A property of the menu states holds throughout a run iff every round meets `G`, provided the
rounds that meet `G` keep an invariant that implies the property and the other rounds break the
property. -/
theorem rounds_always_iff {I P : ℕ → Menu → Prop} {G : World → Prop}
    (hinit : I 0 (start stdin draws)) (himp : ∀ k m, I k m → P k m)
    (hgood : ∀ k m, I k m → m.control = .again → G m.world → I (k + 1) (nextMenu m.world))
    (hbad : ∀ k m, I k m → m.control = .again → ¬ G m.world →
      ¬ P (k + 1) (nextMenu m.world)) :
    (∀ k ≤ n, ∀ m, afterRounds stdin draws k = some m → P k m) ↔
      ∀ k < n, ∀ m, afterRounds stdin draws k = some m → m.control = .again → G m.world := by
  -- the rule for label lists, with the length of the prefix as the number of rounds
  have hlts : LTS.Always menuStep (start stdin draws) (List.replicate n ())
        (fun p m => P p.length m) ↔
      LTS.Guarded menuStep (start stdin draws) (List.replicate n ()) (fun m _ => G m.world) := by
    refine LTS.always_iff_guarded (I := fun p m => I p.length m) hinit
      (fun p m => himp p.length m) ?_ ?_
    · intro p m l m' hm hG hl
      obtain ⟨hcontrol, rfl⟩ := menuStep_eq_some.mp hl
      simpa using hgood p.length m hm hcontrol hG
    · intro p m l m' hm hG hl
      obtain ⟨hcontrol, rfl⟩ := menuStep_eq_some.mp hl
      simpa using hbad p.length m hm hcontrol hG
  -- a prefix of `n` rounds is some `k ≤ n` rounds
  constructor
  · intro hP k hk m hm hcontrol
    refine hlts.mp ?_ (List.replicate k ()) () m (nextMenu m.world) ?_ hm
      (menuStep_eq_some.mpr ⟨hcontrol, rfl⟩)
    · intro p m hp hm
      obtain ⟨hlen, hp⟩ := List.prefix_replicate_iff.mp hp
      rw [hp] at hm
      exact hP p.length hlen m hm
    · rw [← List.replicate_succ', List.prefix_replicate_iff]
      exact ⟨by rw [List.length_replicate]; exact hk, by simp⟩
  · intro hG k hk m hm
    have hprefix : List.replicate k () <+: List.replicate n () := by
      rw [List.prefix_replicate_iff]
      simpa using hk
    have hP := hlts.mpr ?_ (List.replicate k ()) m hprefix hm
    · simpa using hP
    · intro p l m m' hp hm hl
      have hlt : p.length + 1 ≤ n := by simpa using hp.length_le
      have hp' := (List.prefix_replicate_iff.mp ((List.prefix_append p [l]).trans hp)).2
      rw [hp'] at hm
      exact hG p.length hlt m hm (menuStep_eq_some.mp hl).1

end EventManager.Console

import Mathlib.Data.List.Induction
import Mathlib.Data.List.Infix

/-!
# Runs of a labelled partial step function

A system is a function `step : S → L → Option S`: the label says which step is taken and `none`
says that the step is not enabled. `run step s ls` takes the labels of `ls` in order.

Properties of runs are stated over the prefixes of the label list, so that they may speak about
the history of the run as well as about the state reached:

* `Always step s₀ ls P`: `P` holds after every prefix of `ls`;
* `Guarded step s₀ ls G`: every step taken along `ls` satisfies the guard `G`, which reads the
  state before the step and its label.

`log` is the history of a run as far as it is of interest: what is recorded of each step.

## Main results

* `invariant`: a property that holds initially and is kept by every step holds after every run;
* `invariant_of_guarded`: the same when only guarded steps keep it;
* `exists_step_of_lost`: a property that does not hold at the end was lost in some step;
* `always_iff_guarded`: if guarded steps keep the invariant and every unguarded step breaks the
  property it implies, then the property holds throughout a run iff all its steps are guarded;
* `always_withHistory_iff`: a history variable, which remembers something of the steps taken so far,
  changes nothing in the runs of a system, so that guards may read it;
* `Leads`: reachability of one state from another;
* `run_flatMap`, `simulation`, `simulation_log`: a system whose steps are matched by runs of another
  one, with the same log.
-/

namespace LTS

variable {S L : Type*} (step : S → L → Option S)

/-- The state after taking the labels `ls` in order from `s`, or `none` when one of the steps is
not enabled. -/
def run (s : S) (ls : List L) : Option S := ls.foldlM step s

/-- `P` holds of every state the run `ls` from `s₀` passes through, together with the labels taken
to get there. -/
def Always (s₀ : S) (ls : List L) (P : List L → S → Prop) : Prop :=
  ∀ p s, p <+: ls → run step s₀ p = some s → P p s

/-- Every step the run `ls` from `s₀` takes satisfies `G`. -/
def Guarded (s₀ : S) (ls : List L) (G : S → L → Prop) : Prop :=
  ∀ p l s s', p ++ [l] <+: ls → run step s₀ p = some s → step s l = some s' → G s l

/-- What `note` records of the steps of a run, in order. It reads the state before each step and the
label. -/
def log {E : Type*} (note : S → L → Option E) (s : S) : List L → List E
  | [] => []
  | l :: ls =>
    match step s l with
    | some s' => (note s l).toList ++ log note s' ls
    | none => []

variable {step} {s₀ s s' : S} {l : L} {ls : List L}

@[simp]
theorem run_nil : run step s [] = some s := rfl

@[simp]
theorem run_cons : run step s (l :: ls) = (step s l).bind (run step · ls) := rfl

theorem run_singleton : run step s [l] = step s l :=
  Option.bind_fun_some (step s l)

theorem run_append (p q : List L) :
    run step s (p ++ q) = (run step s p).bind (run step · q) := by
  simp [run, List.foldlM_append]

/-- A run ending in `l` is a run up to the last step, followed by that step. -/
theorem run_concat_eq_some :
    run step s (ls ++ [l]) = some s' ↔ ∃ t, run step s ls = some t ∧ step t l = some s' := by
  simp only [run_append, run_cons, Option.bind_eq_some_iff]
  simp

/-- The log of a run that goes on is that of the run so far, followed by that of the rest. -/
theorem log_append {E : Type*} {note : S → L → Option E} {p q : List L}
    (hrun : run step s p = some s') :
    log step note s (p ++ q) = log step note s p ++ log step note s' q := by
  induction p generalizing s with
  | nil =>
    obtain rfl := Option.some.inj hrun
    rfl
  | cons l p ih =>
    rw [run_cons] at hrun
    obtain ⟨t, ht, hrun⟩ := Option.bind_eq_some_iff.mp hrun
    simp [log, ht, ih hrun]

/-- The last step of a run adds its record at the end of the log. -/
theorem log_concat {E : Type*} {note : S → L → Option E} (hrun : run step s ls = some s')
    (hl : (step s' l).isSome) :
    log step note s (ls ++ [l]) = log step note s ls ++ (note s' l).toList := by
  obtain ⟨t, ht⟩ := Option.isSome_iff_exists.mp hl
  rw [log_append hrun]
  simp [log, ht]

theorem log_singleton {E : Type*} {note : S → L → Option E} (h : step s l = some s') :
    log step note s [l] = (note s l).toList := by
  simp [log, h]

/-- A run is guarded if it is up to its last step and this step is guarded too. -/
theorem guarded_concat {G : S → L → Prop} (hls : Guarded step s₀ ls G)
    (hl : ∀ s s', run step s₀ ls = some s → step s l = some s' → G s l) :
    Guarded step s₀ (ls ++ [l]) G := by
  intro p k s s' hp hrun hk
  rcases List.prefix_concat_iff.mp hp with heq | hp
  · obtain ⟨rfl, hkl⟩ := List.append_inj' heq rfl
    obtain rfl := List.singleton_inj.mp hkl
    exact hl s s' hrun hk
  · exact hls p k s s' hp hrun hk

/-- A run is guarded if its first step and the rest of it are. -/
theorem guarded_cons_iff {G : S → L → Prop} : Guarded step s (l :: ls) G ↔
    ∀ t, step s l = some t → G s l ∧ Guarded step t ls G := by
  constructor
  · intro h t ht
    refine ⟨h [] l s t (List.prefix_append [l] ls) rfl ht, fun p k u u' hp hrun hk => ?_⟩
    refine h (l :: p) k u u' (List.cons_prefix_cons.mpr ⟨rfl, hp⟩) ?_ hk
    rw [run_cons, ht]
    exact hrun
  · intro h p k u u' hp hrun hk
    cases p with
    | nil =>
      obtain ⟨rfl, -⟩ := List.cons_prefix_cons.mp hp
      obtain rfl := Option.some.inj hrun
      exact (h u' hk).1
    | cons m p =>
      obtain ⟨rfl, hp'⟩ := List.cons_prefix_cons.mp hp
      rw [run_cons] at hrun
      obtain ⟨t, ht, hrun⟩ := Option.bind_eq_some_iff.mp hrun
      exact (h t ht).2 p k u u' hp' hrun hk

/-- A guard that can be checked can be checked along a run. -/
instance decidableGuarded {G : S → L → Prop} [∀ s l, Decidable (G s l)] (s : S) :
    ∀ ls, Decidable (Guarded step s ls G)
  | [] => isTrue fun p l _ _ hp => absurd (List.prefix_nil.mp hp) (by simp)
  | l :: ls =>
    match ht : step s l with
    | none => isTrue (guarded_cons_iff.mpr (by simp [ht]))
    | some t =>
      haveI := decidableGuarded (G := G) t ls
      decidable_of_iff (G s l ∧ Guarded step t ls G) (by simp [guarded_cons_iff, ht])

/-- Invariant rule with a guard: along a run whose steps are all guarded, a property that holds
initially and is kept by guarded steps holds at the end. -/
theorem invariant_of_guarded {I : List L → S → Prop} {G : S → L → Prop} (hinit : I [] s₀)
    (hstep : ∀ p s l s', I p s → G s l → step s l = some s' → I (p ++ [l]) s')
    (hguard : Guarded step s₀ ls G) (hrun : run step s₀ ls = some s) : I ls s := by
  induction ls using List.reverseRecOn generalizing s with
  | nil =>
    simp only [run_nil, Option.some.injEq] at hrun
    exact hrun ▸ hinit
  | append_singleton ls l ih =>
    obtain ⟨t, ht, hl⟩ := run_concat_eq_some.mp hrun
    have hprefix : Guarded step s₀ ls G := fun p m u u' hp =>
      hguard p m u u' (hp.trans (List.prefix_append ls [l]))
    exact hstep ls t l s (ih hprefix ht) (hguard ls l t s List.prefix_rfl ht hl) hl

/-- Invariant rule: a property that holds initially and is kept by every step holds after every
run. -/
theorem invariant {I : List L → S → Prop} (hinit : I [] s₀)
    (hstep : ∀ p s l s', I p s → step s l = some s' → I (p ++ [l]) s')
    (hrun : run step s₀ ls = some s) : I ls s :=
  invariant_of_guarded (G := fun _ _ => True) hinit (fun p s l s' hI _ => hstep p s l s' hI)
    (fun _ _ _ _ _ _ _ => trivial) hrun

/-- Invariant rule where a step may use that the run has led to its state. -/
theorem invariant_of_run {I : List L → S → Prop} (hinit : I [] s₀)
    (hstep : ∀ p s l s', run step s₀ p = some s → I p s → step s l = some s' → I (p ++ [l]) s')
    (hrun : run step s₀ ls = some s) : I ls s := by
  refine (invariant (I := fun p s => run step s₀ p = some s ∧ I p s) ⟨run_nil, hinit⟩ ?_ hrun).2
  intro p s l s' hI hl
  exact ⟨run_concat_eq_some.mpr ⟨s, hI.1, hl⟩, hstep p s l s' hI.1 hI.2 hl⟩

/-- A property that is lost along a run is lost in one of its steps. -/
theorem exists_step_of_lost {I : S → Prop} (hinit : I s₀) (hrun : run step s₀ ls = some s)
    (hlost : ¬ I s) : ∃ p l q t t', ls = p ++ l :: q ∧ run step s₀ p = some t ∧ I t ∧
      step t l = some t' ∧ ¬ I t' := by
  induction ls generalizing s₀ with
  | nil =>
    obtain rfl := Option.some.inj hrun
    exact absurd hinit hlost
  | cons l ls ih =>
    rw [run_cons] at hrun
    obtain ⟨t, ht, hrun⟩ := Option.bind_eq_some_iff.mp hrun
    by_cases hI : I t
    · -- not in the first step, so later
      obtain ⟨p, k, q, u, u', rfl, hu, hIu, hk, hlost⟩ := ih hI hrun
      exact ⟨l :: p, k, q, u, u', rfl, by rw [run_cons, ht]; exact hu, hIu, hk, hlost⟩
    · exact ⟨[], l, ls, s₀, t, rfl, rfl, hinit, ht, hI⟩

/-- Along a run whose steps are all guarded, what follows from a property that holds initially and
is kept by guarded steps holds throughout. A step may use that the run has led to its state. -/
theorem always_of_guarded {I P : List L → S → Prop} {G : S → L → Prop} (hinit : I [] s₀)
    (himp : ∀ p s, run step s₀ p = some s → I p s → P p s)
    (hstep : ∀ p s l s', run step s₀ p = some s → I p s → G s l → step s l = some s' →
      I (p ++ [l]) s')
    (hguard : Guarded step s₀ ls G) : Always step s₀ ls P := by
  intro p s hp hs
  have hprefix : Guarded step s₀ p G := fun q l t t' hq => hguard q l t t' (hq.trans hp)
  refine himp p s hs (invariant_of_guarded (I := fun p s => run step s₀ p = some s ∧ I p s)
    ⟨run_nil, hinit⟩ ?_ hprefix hs).2
  exact fun p s l s' hI hG hl =>
    ⟨run_concat_eq_some.mpr ⟨s, hI.1, hl⟩, hstep p s l s' hI.1 hI.2 hG hl⟩

/-- If guarded steps keep `I`, `I` implies `P`, and an unguarded step out of an `I` state
ends in a state without `P`, then `P` holds throughout a run iff every step of it is guarded. -/
theorem always_iff_guarded {I P : List L → S → Prop} {G : S → L → Prop} (hinit : I [] s₀)
    (himp : ∀ p s, I p s → P p s)
    (hgood : ∀ p s l s', I p s → G s l → step s l = some s' → I (p ++ [l]) s')
    (hbad : ∀ p s l s', I p s → ¬ G s l → step s l = some s' → ¬ P (p ++ [l]) s') :
    Always step s₀ ls P ↔ Guarded step s₀ ls G := by
  constructor
  · intro hP
    -- a prefix along which `P` holds is guarded, by induction on its last step
    have hI : ∀ p, p <+: ls → ∀ s, run step s₀ p = some s → I p s := by
      intro p
      induction p using List.reverseRecOn with
      | nil =>
        intro _ s hs
        simp only [run_nil, Option.some.injEq] at hs
        exact hs ▸ hinit
      | append_singleton p l ih =>
        intro hp s hs
        obtain ⟨t, ht, hl⟩ := run_concat_eq_some.mp hs
        have ht' := ih ((List.prefix_append p [l]).trans hp) t ht
        by_cases hG : G t l
        · exact hgood p t l s ht' hG hl
        · exact absurd (hP _ s hp hs) (hbad p t l s ht' hG hl)
    intro p l s s' hp hs hl
    by_contra hG
    have hs' : run step s₀ (p ++ [l]) = some s' := run_concat_eq_some.mpr ⟨s, hs, hl⟩
    have hpre : p <+: ls := (List.prefix_append p [l]).trans hp
    exact hbad p s l s' (hI p hpre s hs) hG hl (hP _ s' hp hs')
  · exact always_of_guarded hinit (fun p s _ => himp p s) fun p s l s' _ => hgood p s l s'

/-- The same where the three steps may use what is known of every state that a run reaches. -/
theorem always_iff_guarded_of_run {I P : List L → S → Prop} {G : S → L → Prop} (hinit : I [] s₀)
    (himp : ∀ p s, run step s₀ p = some s → I p s → P p s)
    (hgood : ∀ p s l s', run step s₀ p = some s → I p s → G s l → step s l = some s' →
      I (p ++ [l]) s')
    (hbad : ∀ p s l s', run step s₀ p = some s → I p s → ¬ G s l → step s l = some s' →
      ¬ P (p ++ [l]) s') :
    Always step s₀ ls P ↔ Guarded step s₀ ls G := by
  refine always_iff_guarded (I := fun p s => run step s₀ p = some s ∧ I p s) ⟨run_nil, hinit⟩
    ?_ ?_ ?_
  · exact fun p s hI => himp p s hI.1 hI.2
  · intro p s l s' hI hG hl
    exact ⟨run_concat_eq_some.mpr ⟨s, hI.1, hl⟩, hgood p s l s' hI.1 hI.2 hG hl⟩
  · exact fun p s l s' hI => hbad p s l s' hI.1 hI.2

/-! ## History variables -/

section History

variable {H : Type*}

/-- The system with a history variable, which every step updates by `note` from the state before it,
its label and the state after it. -/
def withHistory (step : S → L → Option S) (note : H → S → L → S → H) (s : S × H) (l : L) :
    Option (S × H) :=
  (step s.1 l).map fun t => (t, note s.2 s.1 l t)

variable {note : H → S → L → S → H} {h : H}

theorem withHistory_eq_some {s t : S × H} :
    withHistory step note s l = some t ↔ step s.1 l = some t.1 ∧ note s.2 s.1 l t.1 = t.2 := by
  obtain ⟨t, h⟩ := t
  simp only [withHistory, Option.map_eq_some_iff, Prod.mk.injEq]
  constructor
  · rintro ⟨t, ht, rfl, rfl⟩
    exact ⟨ht, rfl⟩
  · rintro ⟨ht, rfl⟩
    exact ⟨t, ht, rfl, rfl⟩

/-- With and without the history variable there are the same runs. -/
theorem run_withHistory_iff :
    (∃ h', run (withHistory step note) (s, h) ls = some (s', h')) ↔ run step s ls = some s' := by
  induction ls generalizing s h with
  | nil => simp
  | cons l ls ih =>
    simp only [run_cons, withHistory]
    cases step s l with
    | none => simp
    | some t => exact ih

/-- A property of the states holds throughout a run with the history variable iff it does without
it. -/
theorem always_withHistory_iff (note : H → S → L → S → H) (h : H) {P : List L → S → Prop} :
    Always (withHistory step note) (s₀, h) ls (fun p s => P p s.1) ↔ Always step s₀ ls P := by
  constructor
  · intro hP p s hp hrun
    obtain ⟨h', hrun'⟩ := run_withHistory_iff.mpr hrun
    exact hP p (s, h') hp hrun'
  · rintro hP p ⟨s, h'⟩ hp hrun
    exact hP p s hp (run_withHistory_iff.mp ⟨h', hrun⟩)

end History

/-! ## Reachability -/

/-- Some steps lead from the one state to the other. -/
def Leads (step : S → L → Option S) (s s' : S) : Prop := ∃ ls, run step s ls = some s'

theorem Leads.refl (s : S) : Leads step s s := ⟨[], rfl⟩

theorem Leads.single (l : L) (h : step s l = some s') : Leads step s s' :=
  ⟨[l], by rw [run_singleton, h]⟩

theorem Leads.trans {t : S} (h : Leads step s s') (h' : Leads step s' t) : Leads step s t := by
  obtain ⟨ls, hls⟩ := h
  obtain ⟨ls', hls'⟩ := h'
  exact ⟨ls ++ ls', by rw [run_append, hls]; exact hls'⟩

/-! ## Simulation -/

section Simulation

variable {S' L' : Type*} {step' : S' → L' → Option S'}

/-- A system that projects to another one: if `f` takes every step to the steps that `tr` gives for
its label, it takes every run to a run. -/
theorem run_flatMap {f : S → S'} {tr : L → List L'}
    (hstep : ∀ s l t, step s l = some t → run step' (f s) (tr l) = some (f t))
    (hrun : run step s₀ ls = some s) : run step' (f s₀) (ls.flatMap tr) = some (f s) := by
  refine invariant (I := fun p s => run step' (f s₀) (p.flatMap tr) = some (f s)) rfl ?_ hrun
  intro p s l t hp hl
  rw [List.flatMap_append, run_append, hp, List.flatMap_singleton]
  exact hstep s l t hl

/-- Simulation rule with logs: if related states stay related when a step of the one system is
matched by some steps of the other with the same records, then every run is matched by a run with
the same log. -/
theorem simulation_log {E : Type*} {note : S → L → Option E} {note' : S' → L' → Option E}
    {R : S → S' → Prop} {s₀' : S'} (hinit : R s₀ s₀')
    (hstep : ∀ s l t s', R s s' → step s l = some t → ∃ ks t', run step' s' ks = some t' ∧
      R t t' ∧ log step' note' s' ks = (note s l).toList)
    (hrun : run step s₀ ls = some s) : ∃ ks s', run step' s₀' ks = some s' ∧ R s s' ∧
      log step' note' s₀' ks = log step note s₀ ls := by
  refine invariant_of_run (I := fun p s => ∃ ks s', run step' s₀' ks = some s' ∧ R s s' ∧
    log step' note' s₀' ks = log step note s₀ p) ⟨[], s₀', rfl, hinit, rfl⟩ ?_ hrun
  rintro p s l t hp ⟨ks, s', hks, hs', hlog⟩ hl
  obtain ⟨ks', t', hks', ht', hlog'⟩ := hstep s l t s' hs' hl
  refine ⟨ks ++ ks', t', by rw [run_append, hks]; exact hks', ht', ?_⟩
  rw [log_append hks, hlog, hlog', log_concat hp (by rw [hl]; rfl)]

/-- Simulation rule: if related states stay related when a step of the one system is matched by some
steps of the other, then every run is matched by a run. -/
theorem simulation {R : S → S' → Prop} {s₀' : S'} (hinit : R s₀ s₀')
    (hstep : ∀ s l t s', R s s' → step s l = some t →
      ∃ ks t', run step' s' ks = some t' ∧ R t t')
    (hrun : run step s₀ ls = some s) : ∃ ks s', run step' s₀' ks = some s' ∧ R s s' := by
  -- the rule with logs, where nothing is recorded
  have h : ∃ ks s', run step' s₀' ks = some s' ∧ R s s' ∧
      log step' (fun _ _ => (none : Option Empty)) s₀' ks = log step (fun _ _ => none) s₀ ls := by
    refine simulation_log hinit (fun s l t s' hs hl => ?_) hrun
    obtain ⟨ks, t', hks, ht'⟩ := hstep s l t s' hs hl
    exact ⟨ks, t', hks, ht', Subsingleton.elim _ _⟩
  obtain ⟨ks, s', hks, hs', -⟩ := h
  exact ⟨ks, s', hks, hs'⟩

end Simulation

end LTS

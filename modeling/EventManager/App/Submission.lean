import EventManager.App.Codec
import EventManager.Flutter.Form

/-!
# Submitting a form

`CreateEventPage` in create mode and `SignUpPage` are form pages in the sense of `Flutter.Form`.
Both handlers check the form, push a record, wait for the write and only then leave the page;
neither disables its button or remembers that it has submitted.

## Main results

* `submitsOnce_iff`: on both pages, a visit adds at most one child iff no accepted tap happens
  while a write of the visit is pending.
-/

namespace EventManager.App

open Dart Flutter

/-- `CreateEventPage` in create mode, with the texts of its controllers. -/
def createEventPage : Page (Field → String) where
  accepts text := Form.validate ⟨none, text⟩
  submit text _ :=
    match saveEvent ⟨none, text⟩ with
    | some (.push fields) => some fields
    | _ => none
  submit_isSome text _ := by
    -- without an edited event, an accepted form is pushed
    unfold saveEvent
    cases Form.validate ⟨none, text⟩ <;> rfl

/-- `SignUpPage`. -/
def signUpPage : Page SignUpForm where
  accepts form := form.validate && form.acceptTerms
  submit := signUp
  submit_isSome form key := by
    unfold signUp
    cases form.validate <;> cases form.acceptTerms <;> rfl

/-- For every interleaving of taps, acknowledgements and leaving the page: a visit to
`CreateEventPage` in create mode adds at most one child under `events` exactly if every tap with a
form that the validators accept happens while no write of the visit is pending; and a visit to
`SignUpPage` adds at most one child under `users` exactly if every tap with a form that the
validators accept and with the terms accepted happens while no write of the visit is pending. -/
theorem submitsOnce_iff (events users : Firebase.Node) (past : List String)
    (ls : List (VisitStep (Field → String))) (ls' : List (VisitStep SignUpForm)) :
    (LTS.Always (visitStep createEventPage) (Visit.start events past) ls
        (fun _ v => AtMostOneNew events v) ↔
      LTS.Guarded (visitStep createEventPage) (Visit.start events past) ls fun v l =>
        ∀ text key, l = .tap text key → Form.validate ⟨none, text⟩ = true → v.pending = 0) ∧
    (LTS.Always (visitStep signUpPage) (Visit.start users past) ls'
        (fun _ v => AtMostOneNew users v) ↔
      LTS.Guarded (visitStep signUpPage) (Visit.start users past) ls' fun v l =>
        ∀ form key, l = .tap form key → form.validate = true → form.acceptTerms = true →
          v.pending = 0) := by
  refine ⟨atMostOne_iff createEventPage events past ls, ?_⟩
  have hguard : TapsWhenIdle signUpPage = fun v l => ∀ form key, l = .tap form key →
      form.validate = true → form.acceptTerms = true → v.pending = 0 := by
    ext v l
    simp only [TapsWhenIdle, signUpPage, Bool.and_eq_true, and_imp]
  rw [atMostOne_iff signUpPage users past ls', hguard]

/-- A visit that ends with two children in an empty node. -/
theorem not_always_of_two {F : Type} {page : Page F} {ls : List (VisitStep F)}
    (h : (LTS.run (visitStep page) (Visit.start .empty []) ls).any
      (fun v => decide (v.node.length = 2)) = true) :
    ¬ LTS.Always (visitStep page) (Visit.start .empty []) ls
      (fun _ v => AtMostOneNew .empty v) := by
  intro halways
  obtain ⟨v, hv, hlength⟩ := (Option.any_eq_true _ _).mp h
  have hmost := halways ls v List.prefix_rfl hv
  rw [decide_eq_true_iff] at hlength
  rw [AtMostOneNew, hlength, LinkedHashMap.length_empty] at hmost
  omega

/-- Two taps before the first write is acknowledged add two children, on either page. -/
theorem secondTap_adds_child :
    (¬ ∀ (events : Firebase.Node) (past : List String) (ls : List (VisitStep (Field → String))),
      LTS.Always (visitStep createEventPage) (Visit.start events past) ls
        (fun _ v => AtMostOneNew events v)) ∧
    ¬ ∀ (users : Firebase.Node) (past : List String) (ls : List (VisitStep SignUpForm)),
      LTS.Always (visitStep signUpPage) (Visit.start users past) ls
        (fun _ v => AtMostOneNew users v) := by
  let event : Event := ⟨"", "Tech Summit 2026", "Apr 15, 2026", "15:30", "SQU, Muscat", 0, 300,
    "assets/images/logo.png"⟩
  let form : SignUpForm := ⟨"John Doe", "your@email.com", "secret", .attendee, true, 18⟩
  have hcreate : ¬ LTS.Always (visitStep createEventPage) (Visit.start .empty [])
      [.tap event.texts "k1", .tap event.texts "k2"] (fun _ v => AtMostOneNew .empty v) :=
    not_always_of_two (by decide +kernel)
  have hsignUp : ¬ LTS.Always (visitStep signUpPage) (Visit.start .empty [])
      [.tap form "k1", .tap form "k2"] (fun _ v => AtMostOneNew .empty v) :=
    not_always_of_two (by decide +kernel)
  exact ⟨fun hclaim => hcreate (hclaim _ _ _), fun hclaim => hsignUp (hclaim _ _ _)⟩

end EventManager.App

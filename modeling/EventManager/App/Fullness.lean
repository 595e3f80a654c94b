import EventManager.App.Attendance
import Mathlib.Algebra.Order.Field.Basic
import Mathlib.Algebra.Order.Field.Rat
import Mathlib.Data.Rat.Cast.Order
import Mathlib.Tactic.NormNum

/-!
# Full events

The grid of `EventPage` puts the badge "FULL" on an event, and `DashboardScreen` counts an event as
active, by comparing its progress with two thresholds: nine tenths for the badge, one for the
counter. The list of `EventPage` uses the threshold of the grid as well, for a badge that says
"Almost Full". For an event without places the progress is zero, so it is active and gets no badge.

For events within their capacity the comparisons are comparisons of integers, and each of the three
things that one would expect of the figures fails on a kind of events of its own:

* the badge is on the full events iff no event is without places and none has a free place and nine
  tenths of its places taken;
* the counter is the number of events with a free place iff no event is without places;
* the counter and the badges add up to the number of events iff no event has a free place and nine
  tenths of its places taken.

## Main results

* `nine_tenths_le_progress_iff`, `progress_lt_one_iff`: the two comparisons;
* `map_badge_listView`: the badges of the two tabs of `EventPage`;
* `badges_iff`, `activeEvents_eq_iff`, `activeEvents_add_fullBadges_iff`: the three conditions;
* `fullnessReported_iff`: all three together;
* `fullnessReported_value`: the same for the value of a node, which both pages show.
-/

namespace EventManager.App

open Dart

variable {e : Event} {events : List Event}

/-! ## The thresholds -/

theorem progress_of_ne_zero (h : e.capacity ≠ 0) :
    e.progress = (e.attendees.toInt : ℚ) / e.capacity.toInt := if_neg h

theorem progress_of_eq_zero (h : e.capacity = 0) : e.progress = 0 := if_pos h

theorem capacity_eq_zero_iff : e.capacity = 0 ↔ e.capacity.toInt = 0 := by
  rw [← Int64.toInt_inj, Int64.toInt_zero]

theorem Event.InRange.toInt (h : e.InRange) :
    0 ≤ e.attendees.toInt ∧ e.attendees.toInt ≤ e.capacity.toInt := by
  obtain ⟨hattendees, hcapacity⟩ := h
  rw [Int64.le_iff_toInt_le] at hattendees hcapacity
  exact ⟨hattendees, hcapacity⟩

/-- An event in range has a positive number of places, unless it has none. -/
theorem Event.InRange.capacity_pos (h : e.InRange) (hne : e.capacity ≠ 0) :
    0 < e.capacity.toInt := by
  obtain ⟨hattendees, hcapacity⟩ := h.toInt
  rw [ne_eq, capacity_eq_zero_iff] at hne
  omega

/-- The threshold of the badges, in integers. -/
theorem nine_tenths_le_progress_iff (h : e.InRange) :
    9 / 10 ≤ e.progress ↔ e.capacity ≠ 0 ∧ 9 * e.capacity.toInt ≤ 10 * e.attendees.toInt := by
  by_cases hzero : e.capacity = 0
  · rw [progress_of_eq_zero hzero]
    exact iff_of_false (by norm_num) fun hne => hne.1 hzero
  · have hpos : (0 : ℚ) < e.capacity.toInt := Int.cast_pos.mpr (h.capacity_pos hzero)
    rw [and_iff_right hzero, progress_of_ne_zero hzero, div_le_div_iff₀ (by norm_num) hpos,
      mul_comm (e.attendees.toInt : ℚ) 10]
    exact_mod_cast Iff.rfl

/-- The threshold of the counter, in integers. -/
theorem progress_lt_one_iff (h : e.InRange) :
    e.progress < 1 ↔ e.capacity = 0 ∨ e.attendees < e.capacity := by
  by_cases hzero : e.capacity = 0
  · rw [progress_of_eq_zero hzero]
    exact iff_of_true (by norm_num) (Or.inl hzero)
  · have hpos : (0 : ℚ) < e.capacity.toInt := Int.cast_pos.mpr (h.capacity_pos hzero)
    rw [or_iff_right hzero, progress_of_ne_zero hzero, div_lt_one hpos, Int.cast_lt,
      Int64.lt_iff_toInt_lt]

theorem badge_eq_full_iff :
    (buildGridEventCard e).badge = some "FULL" ↔ 9 / 10 ≤ e.progress := by
  simp [buildGridEventCard, progressBadge]

/-! ## Counting -/

/-- Of two counts, where the first counts no element that the second leaves out, the second is
larger as soon as it counts an element more. -/
theorem countP_eq_countP_iff {α : Type} {xs : List α} {p q : α → Bool}
    (h : ∀ x ∈ xs, p x = true → q x = true) :
    xs.countP p = xs.countP q ↔ ∀ x ∈ xs, q x = true → p x = true := by
  induction xs with
  | nil => simp
  | cons x xs ih =>
    obtain ⟨hx, hxs⟩ := List.forall_mem_cons.mp h
    have hle : xs.countP p ≤ xs.countP q := List.countP_mono_left hxs
    rw [List.forall_mem_cons, ← ih hxs, List.countP_cons, List.countP_cons]
    cases hp : p x with
    | true => simp [hx hp]
    | false =>
      cases hq : q x with
      | false => simp
      | true =>
        -- `x` is counted on the right only
        simp only [Bool.false_eq_true, if_false, if_true, forall_const, false_and, iff_false]
        omega

theorem activeEvents_eq_countP (events : List Event) :
    activeEvents events = events.countP fun e => decide (e.progress < 1) :=
  List.countP_eq_length_filter.symm

theorem shown_tabView {α : Type} (build : Event → α) (events : List Event) :
    (tabView build events).shown = events.map build := by
  cases events <;> rfl

/-- The list of `EventPage` says "Almost Full" exactly where the grid says "FULL". -/
theorem map_badge_listView (events : List Event) :
    (listView events).shown.map EventCard.badge =
      (gridView events).shown.map fun card => card.badge.map fun _ => "Almost Full" := by
  rw [listView, gridView, shown_tabView, shown_tabView, List.map_map, List.map_map]
  refine List.map_congr_left fun e _ => ?_
  simp only [Function.comp_apply, eventCard, buildGridEventCard, progressBadge]
  split <;> rfl

/-- The number of badges "FULL" in the grid. -/
def fullBadges (events : List Event) : ℕ :=
  (gridView events).shown.countP fun card => card.badge == some "FULL"

theorem fullBadges_eq_countP (events : List Event) :
    fullBadges events = events.countP fun e => decide (9 / 10 ≤ e.progress) := by
  rw [fullBadges, gridView, shown_tabView, List.countP_map]
  refine List.countP_congr fun e _ => ?_
  rw [Function.comp_apply, beq_iff_eq, badge_eq_full_iff, decide_eq_true_iff]

/-! ## The views -/

/-- The badge is on the full events, the counter counts the events with a free place, and together
they make up all events. -/
structure FullnessReported (events : List Event) : Prop where
  badges : List.Forall₂ (fun e card => card.badge = some "FULL" ↔ e.attendees = e.capacity) events
    (gridView events).shown
  active : activeEvents events = events.countP fun e => decide (e.attendees < e.capacity)
  total : activeEvents events + fullBadges events = events.length

/-- The badge is on the full events iff every event has places, of which less than nine tenths or
all are taken. -/
theorem badges_iff (h : ∀ e ∈ events, e.InRange) :
    List.Forall₂ (fun e card => card.badge = some "FULL" ↔ e.attendees = e.capacity) events
        (gridView events).shown ↔
      ∀ e ∈ events, e.capacity ≠ 0 ∧
        (10 * e.attendees.toInt < 9 * e.capacity.toInt ∨ e.attendees = e.capacity) := by
  rw [gridView, shown_tabView, List.forall₂_map_right_iff, List.forall₂_same]
  refine forall₂_congr fun e he => ?_
  obtain ⟨hattendees, hcapacity⟩ := (h e he).toInt
  rw [badge_eq_full_iff, nine_tenths_le_progress_iff (h e he), ne_eq, capacity_eq_zero_iff,
    ← Int64.toInt_inj]
  omega

/-- The counter counts the events with a free place iff every event has places. -/
theorem activeEvents_eq_iff (h : ∀ e ∈ events, e.InRange) :
    (activeEvents events = events.countP fun e => decide (e.attendees < e.capacity)) ↔
      ∀ e ∈ events, e.capacity ≠ 0 := by
  rw [activeEvents_eq_countP, eq_comm, countP_eq_countP_iff]
  · refine forall₂_congr fun e he => ?_
    obtain ⟨hattendees, hcapacity⟩ := (h e he).toInt
    rw [decide_eq_true_iff, decide_eq_true_iff, progress_lt_one_iff (h e he), ne_eq,
      capacity_eq_zero_iff, Int64.lt_iff_toInt_lt]
    omega
  · intro e he hfree
    rw [decide_eq_true_iff] at hfree ⊢
    exact (progress_lt_one_iff (h e he)).mpr (Or.inr hfree)

/-- The counter and the badges add up to the number of events iff no event has a free place and nine
tenths of its places taken. -/
theorem activeEvents_add_fullBadges_iff (h : ∀ e ∈ events, e.InRange) :
    activeEvents events + fullBadges events = events.length ↔
      ∀ e ∈ events, ¬ (9 * e.capacity.toInt ≤ 10 * e.attendees.toInt ∧ e.attendees < e.capacity) := by
  rw [activeEvents_eq_countP, fullBadges_eq_countP,
    List.length_eq_countP_add_countP fun e => decide (e.progress < 1), Nat.add_left_cancel_iff,
    eq_comm, countP_eq_countP_iff]
  · refine forall₂_congr fun e he => ?_
    obtain ⟨hattendees, hcapacity⟩ := (h e he).toInt
    simp only [decide_eq_true_eq]
    rw [nine_tenths_le_progress_iff (h e he), progress_lt_one_iff (h e he), ne_eq,
      capacity_eq_zero_iff, Int64.lt_iff_toInt_lt]
    omega
  · intro e he hfull
    simp only [decide_eq_true_eq, not_lt] at hfull ⊢
    exact le_trans (by norm_num) hfull

/-- The counter is right wherever the badges are. -/
theorem fullnessReported_iff_badges (h : ∀ e ∈ events, e.InRange) :
    FullnessReported events ↔ List.Forall₂
      (fun e card => card.badge = some "FULL" ↔ e.attendees = e.capacity) events
      (gridView events).shown := by
  refine ⟨FullnessReported.badges, fun hbadges => ⟨hbadges, ?_, ?_⟩⟩
  · exact (activeEvents_eq_iff h).mpr fun e he => ((badges_iff h).mp hbadges e he).1
  · refine (activeEvents_add_fullBadges_iff h).mpr fun e he hfew => ?_
    obtain ⟨hle, hlt⟩ := hfew
    rcases ((badges_iff h).mp hbadges e he).2 with hfree | hfull
    · omega
    · rw [hfull] at hlt
      exact Int64.lt_irrefl hlt

/-- For every list of events within their capacity, fullness is reported as one would expect iff
every event has places, of which less than nine tenths or all are taken. -/
theorem fullnessReported_iff (events : List Event) (h : ∀ e ∈ events, e.InRange) :
    FullnessReported events ↔ ∀ e ∈ events, e.capacity ≠ 0 ∧
      (10 * e.attendees.toInt < 9 * e.capacity.toInt ∨ e.attendees = e.capacity) :=
  (fullnessReported_iff_badges h).trans (badges_iff h)

/-- An event with five of ten places taken and a full one. -/
theorem fullnessReported_iff_halfFull :
    FullnessReported [⟨"e1", "Summit", "May 3", "15:30", "Muscat", 5, 10, "logo.png"⟩,
      ⟨"e2", "Expo", "June 1", "9:00", "Nizwa", 10, 10, "expo.png"⟩] := by
  refine (fullnessReported_iff _ ?_).mpr ?_
  · simp only [List.forall_mem_cons, Event.InRange]
    decide
  · decide

/-- With nine of ten places taken the grid shows "FULL", and the event is active as well. -/
theorem nineOfTen_full :
    ¬ ∀ events : List Event, (∀ e ∈ events, e.InRange) → FullnessReported events := by
  intro hclaim
  let event : Event := ⟨"e1", "Summit", "May 3", "15:30", "Muscat", 9, 10, "logo.png"⟩
  have hrange : ∀ e ∈ [event], e.InRange := by
    simp only [List.forall_mem_cons, Event.InRange]
    decide
  have htotal := (hclaim [event] hrange).total
  have hactive : activeEvents [event] = 1 := by decide +kernel
  have hbadges : fullBadges [event] = 1 := by decide +kernel
  simp [hactive, hbadges] at htotal

/-- For a node with events within their capacity that is delivered as a map, the two pages show the
same events, and report their fullness as one would expect iff every stored event has places, of
which less than nine tenths or all are taken. -/
theorem fullnessReported_value {sdk : Firebase.Rendering} {node : Firebase.Node}
    (toLowerCase : String → String) (hmaps : sdk.DeliversMaps) (hne : node.keys ≠ [])
    (h : InRange node) :
    ∃ events totals, dashboardBody (some (sdk.value node)) = .ok (.cards events) ∧
      eventPageBody toLowerCase "" (.data (sdk.value node)) = .ok (.shown totals events) ∧
      (FullnessReported events ↔ ∀ id e, storedEvent node id = some e → e.capacity ≠ 0 ∧
        (10 * e.attendees.toInt < 9 * e.capacity.toInt ∨ e.attendees = e.capacity)) := by
  obtain ⟨items, events, hvalue, hevents, hperm⟩ := exists_items (hmaps node hne) h.allDecode
  have hrange : ∀ e ∈ events, e.InRange := fun e he => h.storedEvents e (hperm.subset he)
  refine ⟨events, dashboardTotals events, ?_, ?_, ?_⟩
  · rw [hvalue, dashboardBody_map, dashboardEvents_map_eq_ok_iff.mpr hevents]
    rfl
  · rw [hvalue, eventPageBody_map_empty, eventPageView_eq_ok_iff.mpr ⟨hevents, rfl⟩]
    rfl
  · rw [fullnessReported_iff_badges hrange, badges_iff hrange]
    constructor
    · intro hall id e he
      exact hall e (hperm.mem_iff.mpr (mem_storedEvents.mpr (by rwa [id_of_storedEvent he])))
    · exact fun hall e he => hall e.id e (mem_storedEvents.mp (hperm.subset he))

end EventManager.App

import EventManager.App.Device

/-!
# The clients of a device

`Clients` has a dashboard, a form and a dialog for each client, and no pages. On a device these are
pages and overlays on a stack, and a stack may hold several dashboards. So there is one client for
each height of a stack: it has what the dashboard at that height was delivered, the delete dialog
above it, and the form on the page above it.

## Main results

* `Mirrors`: the clients have what the pages of the device show;
* `Mirrors.openCreate`, `Mirrors.openEdit`, `Mirrors.type`, `Mirrors.closeForm`,
  `Mirrors.askDelete`, `Mirrors.closeDialog`, `Mirrors.deliver`: what happens to forms, dialogs and
  streams on the device is an action of one of its clients.
-/

namespace EventManager.App

open Dart Flutter

/-! ## The clients of a device -/

/-- The form on the page. -/
def Screen.form : Screen → Option Form
  | createEventPage form _ => some form
  | _ => none

/-- The value that the dashboard was delivered. -/
def Screen.delivered : Screen → Option Dyn
  | dashboardScreen _ delivered => delivered
  | _ => none

/-- The event of the delete dialog on top. -/
def dialogOf : List Popup → Option Event
  | ⟨.deleteDialog, card⟩ :: _ => card
  | _ => none

namespace Device

/-- The page at the height, counted from the bottom. -/
def pageAt (n : Device) (h : ℕ) : Option (Entry Screen Popup) := n.reverse[h]?

def formAt (n : Device) (h : ℕ) : Option Form := (n.pageAt h).bind fun page => page.route.form

def dialogAt (n : Device) (h : ℕ) : Option Event :=
  (n.pageAt h).bind fun page => dialogOf page.overlays

def deliveredAt (n : Device) (h : ℕ) : Option Dyn :=
  (n.pageAt h).bind fun page => page.route.delivered

theorem pageAt_cons (top : Entry Screen Popup) (rest : Device) (h : ℕ) :
    pageAt (top :: rest) h = if h = rest.length then some top else pageAt rest h := by
  unfold pageAt
  rw [List.reverse_cons, List.getElem?_append, List.length_reverse]
  grind

theorem pageAt_of_length_le {n : Device} {h : ℕ} (hh : n.length ≤ h) : n.pageAt h = none := by
  simpa [pageAt] using hh

section Cons

variable (screen : Screen) (popups : List Popup) (rest : Device) (h : ℕ)

theorem formAt_cons : formAt (⟨screen, popups⟩ :: rest) h =
    if h = rest.length then screen.form else rest.formAt h := by
  rw [formAt, pageAt_cons]
  split <;> rfl

theorem dialogAt_cons : dialogAt (⟨screen, popups⟩ :: rest) h =
    if h = rest.length then dialogOf popups else rest.dialogAt h := by
  rw [dialogAt, pageAt_cons]
  split <;> rfl

theorem deliveredAt_cons : deliveredAt (⟨screen, popups⟩ :: rest) h =
    if h = rest.length then screen.delivered else rest.deliveredAt h := by
  rw [deliveredAt, pageAt_cons]
  split <;> rfl

end Cons

theorem formAt_length (n : Device) : n.formAt n.length = none := by
  rw [formAt, pageAt_of_length_le le_rfl]
  rfl

theorem dialogAt_length (n : Device) : n.dialogAt n.length = none := by
  rw [dialogAt, pageAt_of_length_le le_rfl]
  rfl

theorem deliveredAt_length (n : Device) : n.deliveredAt n.length = none := by
  rw [deliveredAt, pageAt_of_length_le le_rfl]
  rfl

section Cover

variable {screen : Screen} {popups : List Popup} {rest : Device}

/-- A page without a dialog covers the dialogs beneath as they are. -/
theorem dialogAt_cover (hdialog : dialogOf popups = none) (h : ℕ) :
    dialogAt (⟨screen, popups⟩ :: rest) h = rest.dialogAt h := by
  rw [dialogAt_cons]
  split
  · next hh => rw [hdialog, hh, rest.dialogAt_length]
  · rfl

theorem deliveredAt_cover (hdelivered : screen.delivered = none) (h : ℕ) :
    deliveredAt (⟨screen, popups⟩ :: rest) h = rest.deliveredAt h := by
  rw [deliveredAt_cons]
  split
  · next hh => rw [hdelivered, hh, rest.deliveredAt_length]
  · rfl

theorem formAt_cover (hform : screen.form = none) (h : ℕ) :
    formAt (⟨screen, popups⟩ :: rest) h = rest.formAt h := by
  rw [formAt_cons]
  split
  · next hh => rw [hform, hh, rest.formAt_length]
  · rfl

end Cover

end Device

/-- The clients have what the pages of the device show. A client may have been delivered more: what
a dashboard showed that was replaced by another page. -/
structure Mirrors (clients : ℕ → Client) (n : Device) : Prop where
  -- `CreateEventPage` lies above the page it was opened from
  form : ∀ h, (clients h).form = n.formAt (h + 1)
  dialog : ∀ h, (clients h).dialog = n.dialogAt h
  delivered : ∀ h value, n.deliveredAt h = some value → (clients h).delivered = some value

/-- The second stack shows the same forms and dialogs, and no other values. -/
structure Silent (n n' : Device) : Prop where
  form : ∀ h, n'.formAt h = n.formAt h
  dialog : ∀ h, n'.dialogAt h = n.dialogAt h
  delivered : ∀ h value, n'.deliveredAt h = some value → n.deliveredAt h = some value

theorem Mirrors.silent {clients : ℕ → Client} {n n' : Device} (h : Mirrors clients n)
    (hsilent : Silent n n') : Mirrors clients n' :=
  ⟨fun k => (h.form k).trans (hsilent.form (k + 1)).symm,
    fun k => (h.dialog k).trans (hsilent.dialog k).symm,
    fun k value hvalue => h.delivered k value (hsilent.delivered k value hvalue)⟩

namespace Silent

variable {n n' n'' : Device} {screen screen' : Screen} {popups popups' : List Popup}
  {rest : Device}

theorem trans (h : Silent n n') (h' : Silent n' n'') : Silent n n'' :=
  ⟨fun k => (h'.form k).trans (h.form k), fun k => (h'.dialog k).trans (h.dialog k),
    fun k value hvalue => h.delivered k value (h'.delivered k value hvalue)⟩

/-- The page on top changes to one with the same form and dialog, and no other value. -/
theorem top (hform : screen'.form = screen.form) (hdialog : dialogOf popups' = dialogOf popups)
    (hdelivered : ∀ value, screen'.delivered = some value → screen.delivered = some value) :
    Silent (⟨screen, popups⟩ :: rest) (⟨screen', popups'⟩ :: rest) := by
  refine ⟨fun h => ?_, fun h => ?_, fun h value => ?_⟩
  · rw [Device.formAt_cons, Device.formAt_cons, hform]
  · rw [Device.dialogAt_cons, Device.dialogAt_cons, hdialog]
  · rw [Device.deliveredAt_cons, Device.deliveredAt_cons]
    split
    · exact hdelivered value
    · exact id

/-- A page without a form and without a value is pushed. -/
theorem push (hform : screen.form = none) (hdelivered : screen.delivered = none) :
    Silent n (⟨screen, []⟩ :: n) := by
  refine ⟨Device.formAt_cover hform, Device.dialogAt_cover rfl, fun h value hvalue => ?_⟩
  rw [← hvalue, Device.deliveredAt_cover hdelivered]

/-- A page without a form and without a dialog is removed. -/
theorem pop (hform : screen.form = none) (hdialog : dialogOf popups = none) :
    Silent (⟨screen, popups⟩ :: rest) rest := by
  refine ⟨fun h => (Device.formAt_cover hform h).symm,
    fun h => (Device.dialogAt_cover hdialog h).symm, fun h value hvalue => ?_⟩
  -- beneath the removed page every height is lower
  have hh : h ≠ rest.length := by
    rintro rfl
    simp [rest.deliveredAt_length] at hvalue
  rw [Device.deliveredAt_cons, if_neg hh, hvalue]

end Silent

/-! ## Steps that the clients follow -/

/-- The clients get to the stack with at most one action. The `events` node has the given value. -/
def Follows (value : Dyn) (clients : ℕ → Client) (n : Device) : Prop :=
  Mirrors clients n ∨ ∃ h a c, (clients h).act value a = some c ∧
    Mirrors (Function.update clients h c) n

section Follow

variable {value : Dyn} {clients : ℕ → Client} {n n' : Device} {screen : Screen}
  {popups : List Popup} {rest : Device} {form : Form} {pending : ℕ}

/-- What a client has in common with the one it replaces is as it was for all clients. -/
theorem apply_update {α : Type} (f : Client → α) {k : ℕ} {c : Client} (hc : f c = f (clients k))
    (j : ℕ) : f (Function.update clients k c j) = f (clients j) := by
  by_cases hj : j = k
  · rw [hj, Function.update_self, hc]
  · rw [Function.update_of_ne hj]

/-- A client gets another form, and the page above its page shows it. -/
theorem Mirrors.setForm (h : Mirrors clients n) {k : ℕ} {form : Option Form}
    (hform : ∀ j, n'.formAt (j + 1) = if j = k then form else n.formAt (j + 1))
    (hdialog : ∀ j, n'.dialogAt j = n.dialogAt j)
    (hdelivered : ∀ j value, n'.deliveredAt j = some value → n.deliveredAt j = some value) :
    Mirrors (Function.update clients k { clients k with form := form }) n' := by
  refine ⟨fun j => ?_, fun j => ?_, fun j value hvalue => ?_⟩
  · rw [hform j]
    by_cases hj : j = k
    · rw [if_pos hj, hj, Function.update_self]
    · rw [if_neg hj, Function.update_of_ne hj, h.form j]
  · rw [hdialog j, ← h.dialog j]
    exact apply_update Client.dialog (by rfl) j
  · rw [← h.delivered j value (hdelivered j value hvalue)]
    exact apply_update Client.delivered (by rfl) j

/-- A client gets another dialog, and its page shows it. -/
theorem Mirrors.setDialog (h : Mirrors clients n) {k : ℕ} {dialog : Option Event}
    (hform : ∀ j, n'.formAt j = n.formAt j)
    (hdialog : ∀ j, n'.dialogAt j = if j = k then dialog else n.dialogAt j)
    (hdelivered : ∀ j value, n'.deliveredAt j = some value → n.deliveredAt j = some value) :
    Mirrors (Function.update clients k { clients k with dialog := dialog }) n' := by
  refine ⟨fun j => ?_, fun j => ?_, fun j value hvalue => ?_⟩
  · rw [hform (j + 1), ← h.form j]
    exact apply_update Client.form (by rfl) j
  · rw [hdialog j]
    by_cases hj : j = k
    · rw [if_pos hj, hj, Function.update_self]
    · rw [if_neg hj, Function.update_of_ne hj, h.dialog j]
  · rw [← h.delivered j value (hdelivered j value hvalue)]
    exact apply_update Client.delivered (by rfl) j

/-- Above the page on top there is no form. -/
theorem Mirrors.form_top (h : Mirrors clients (⟨screen, popups⟩ :: rest)) :
    (clients rest.length).form = none := by
  rw [h.form]
  exact Device.formAt_length (⟨screen, popups⟩ :: rest)

theorem Mirrors.dialog_top (h : Mirrors clients (⟨screen, popups⟩ :: rest)) :
    (clients rest.length).dialog = dialogOf popups := by
  rw [h.dialog, Device.dialogAt_cons, if_pos rfl]

/-- The client of the page on top is idle if there is no overlay. -/
theorem Mirrors.idle_top (h : Mirrors clients (⟨screen, []⟩ :: rest)) :
    (clients rest.length).idle = true := by
  rw [Client.idle, h.form_top, h.dialog_top]
  rfl

/-- The client of the dashboard on top has its cards. -/
theorem Mirrors.cards_top {toLowerCase : String → String} {index : Fin 4}
    {delivered : Option Dyn} {event : Event}
    (h : Mirrors clients (⟨.dashboardScreen index delivered, popups⟩ :: rest))
    (hevent : event ∈ (Screen.dashboardScreen index delivered).cards toLowerCase) :
    event ∈ (clients rest.length).cards := by
  cases delivered with
  -- the loading indicator has no cards
  | none => simp [Screen.cards, dashboardBody, pure, Except.pure] at hevent
  | some value =>
    have hdelivered : (clients rest.length).delivered = some value :=
      h.delivered rest.length value (by rw [Device.deliveredAt_cons, if_pos rfl]; rfl)
    unfold Client.cards
    rw [hdelivered]
    exact hevent

/-- `CreateEventPage` is opened above the page on top. -/
theorem Mirrors.openForm (h : Mirrors clients (⟨screen, []⟩ :: rest)) (form : Form)
    (pending : ℕ) :
    Mirrors (Function.update clients rest.length { clients rest.length with form := some form })
      (⟨.createEventPage form pending, []⟩ :: ⟨screen, []⟩ :: rest) := by
  refine h.setForm (fun j => ?_) (fun j => ?_) (fun j value => ?_)
  · rw [Device.formAt_cons]
    simp only [List.length_cons, Nat.add_right_cancel_iff, Screen.form]
  · exact Device.dialogAt_cover rfl j
  · rw [Device.deliveredAt_cover rfl]
    exact id

theorem Mirrors.openCreate (h : Mirrors clients (⟨screen, []⟩ :: rest)) :
    Follows value clients (⟨.opened none .createEventPage, []⟩ :: ⟨screen, []⟩ :: rest) := by
  refine Or.inr ⟨rest.length, .openCreate, _, ?_, h.openForm (.opened none) 0⟩
  rw [Client.act, if_pos h.idle_top]
  rfl

theorem Mirrors.openEdit {event : Event} (h : Mirrors clients (⟨screen, []⟩ :: rest))
    (hevent : event ∈ (clients rest.length).cards) :
    Follows value clients
      (⟨.opened (some event) .createEventPage, []⟩ :: ⟨screen, []⟩ :: rest) := by
  refine Or.inr ⟨rest.length, .openEdit event, _, ?_, h.openForm (.opened (some event)) 0⟩
  rw [Client.act, if_pos (by simp [h.idle_top, hevent]), initState_editData, Form.opened_some]

/-- The form on top is that of the client of the page beneath it. -/
theorem Mirrors.form_beneath {k : ℕ}
    (h : Mirrors clients (⟨.createEventPage form pending, popups⟩ :: rest))
    (hk : rest.length = k + 1) : (clients k).form = some form := by
  rw [h.form, Device.formAt_cons, if_pos hk.symm]
  rfl

/-- A new text in a field of `CreateEventPage` on top. -/
theorem Mirrors.type {k : ℕ} (field : Field) (text : String)
    (h : Mirrors clients (⟨.createEventPage form pending, []⟩ :: rest))
    (hk : rest.length = k + 1) :
    Follows value clients (⟨.createEventPage (form.type field text) pending, []⟩ :: rest) := by
  refine Or.inr ⟨k, .type field text, _, by rw [Client.act, h.form_beneath hk]; rfl, ?_⟩
  refine h.setForm (fun j => ?_) (fun j => ?_) (fun j value => ?_)
  · rw [Device.formAt_cons, Device.formAt_cons]
    simp only [hk, Nat.add_right_cancel_iff]
    split <;> rfl
  · rw [Device.dialogAt_cover rfl, Device.dialogAt_cover rfl]
  · rw [Device.deliveredAt_cover rfl, Device.deliveredAt_cover rfl]
    exact id

/-- `CreateEventPage` is removed. -/
theorem Mirrors.closeForm {k : ℕ}
    (h : Mirrors clients (⟨.createEventPage form pending, []⟩ :: rest))
    (hk : rest.length = k + 1) : Follows value clients rest := by
  refine Or.inr ⟨k, .closeForm, _, rfl, ?_⟩
  refine h.setForm (fun j => ?_) (fun j => (Device.dialogAt_cover rfl j).symm) (fun j value => ?_)
  · rw [Device.formAt_cons]
    simp only [hk, Nat.add_right_cancel_iff]
    split
    · next hj => rw [hj, ← hk, rest.formAt_length]
    · rfl
  · rw [Device.deliveredAt_cover rfl]
    exact id

/-- The delete dialog is opened from a card. -/
theorem Mirrors.askDelete {event : Event} (h : Mirrors clients (⟨screen, []⟩ :: rest))
    (hevent : event ∈ (clients rest.length).cards) :
    Follows value clients (⟨screen, [⟨.deleteDialog, some event⟩]⟩ :: rest) := by
  refine Or.inr ⟨rest.length, .askDelete event, _,
    by rw [Client.act, if_pos (by simp [h.idle_top, hevent])], ?_⟩
  refine h.setDialog (fun j => ?_) (fun j => ?_) (fun j value => ?_)
  · rw [Device.formAt_cons, Device.formAt_cons]
  · rw [Device.dialogAt_cons, Device.dialogAt_cover rfl]
    rfl
  · rw [Device.deliveredAt_cons, Device.deliveredAt_cons]
    exact id

/-- The delete dialog is closed. -/
theorem Mirrors.closeDialog (h : Mirrors clients (⟨screen, popups⟩ :: rest)) :
    Follows value clients (⟨screen, []⟩ :: rest) := by
  refine Or.inr ⟨rest.length, .closeDialog, _, rfl, ?_⟩
  refine h.setDialog (fun j => ?_) (fun j => ?_) (fun j value => ?_)
  · rw [Device.formAt_cons, Device.formAt_cons]
  · rw [Device.dialogAt_cons, Device.dialogAt_cons]
    split <;> rfl
  · rw [Device.deliveredAt_cons, Device.deliveredAt_cons]
    exact id

/-- A stream changes the one page that it delivers to. -/
theorem pageAt_receiveAt (index : ℕ) (snapshot : AsyncSnapshot) (n : Device) (h : ℕ) :
    (receiveAt index snapshot n).pageAt h = if h + index + 1 = n.length then
      (n.pageAt h).map fun page => ⟨page.route.receive snapshot, page.overlays⟩
    else n.pageAt h := by
  induction n generalizing index with
  | nil => cases index <;> simp [receiveAt]
  | cons top rest ih =>
    cases index with
    | zero =>
      show Device.pageAt (_ :: rest) h = _
      simp only [Device.pageAt_cons, List.length_cons, Nat.add_zero, Nat.add_right_cancel_iff]
      split <;> rfl
    | succ index =>
      show Device.pageAt (top :: receiveAt index snapshot rest) h = _
      have hlength : (receiveAt index snapshot rest).length = rest.length :=
        List.length_modify _ _ _
      rw [Device.pageAt_cons, Device.pageAt_cons, ih, hlength, List.length_cons]
      grind

@[simp]
theorem form_receive (screen : Screen) (snapshot : AsyncSnapshot) :
    (screen.receive snapshot).form = screen.form := by
  cases screen <;> rfl

theorem formAt_receiveAt (index : ℕ) (snapshot : AsyncSnapshot) (n : Device) (h : ℕ) :
    (receiveAt index snapshot n).formAt h = n.formAt h := by
  rw [Device.formAt, pageAt_receiveAt]
  split
  · cases hpage : n.pageAt h <;> simp [Device.formAt, hpage]
  · rfl

theorem dialogAt_receiveAt (index : ℕ) (snapshot : AsyncSnapshot) (n : Device) (h : ℕ) :
    (receiveAt index snapshot n).dialogAt h = n.dialogAt h := by
  rw [Device.dialogAt, pageAt_receiveAt]
  split
  · cases hpage : n.pageAt h <;> simp [Device.dialogAt, hpage]
  · rfl

theorem deliveredAt_receiveAt {index h : ℕ} {snapshot : AsyncSnapshot} {value : Dyn}
    (hvalue : (receiveAt index snapshot n).deliveredAt h = some value) :
    snapshot.value = some value ∧ h + index + 1 = n.length ∨
      h + index + 1 ≠ n.length ∧ n.deliveredAt h = some value := by
  rw [Device.deliveredAt, pageAt_receiveAt] at hvalue
  split at hvalue
  · next hh =>
    cases hpage : n.pageAt h with
    | none => simp [hpage] at hvalue
    | some page =>
      refine Or.inl ⟨?_, hh⟩
      cases hscreen : page.route <;> simp_all [Screen.receive, Screen.delivered]
  · next hh => exact Or.inr ⟨hh, hvalue⟩

/-- The stream of a page delivers the value of the node. -/
theorem Mirrors.deliver (h : Mirrors clients n) (index : ℕ) :
    Follows value clients (receiveAt index (.data value) n) := by
  by_cases hindex : index < n.length
  · -- the height of the page, counted from the bottom
    refine Or.inr ⟨n.length - 1 - index, .deliver, _, rfl, ?_⟩
    refine ⟨fun j => ?_, fun j => ?_, fun j value' hvalue => ?_⟩
    · rw [formAt_receiveAt, ← h.form j]
      exact apply_update Client.form (by rfl) j
    · rw [dialogAt_receiveAt, ← h.dialog j]
      exact apply_update Client.dialog (by rfl) j
    · obtain ⟨hsnapshot, hj⟩ | ⟨hj, hvalue⟩ := deliveredAt_receiveAt hvalue
      · -- the page of the stream
        obtain rfl : value = value' := Option.some.inj hsnapshot
        rw [show j = n.length - 1 - index by omega, Function.update_self]
      · rw [Function.update_of_ne (by omega)]
        exact h.delivered j value' hvalue
  · -- there is no such page
    refine Or.inl (h.silent ⟨formAt_receiveAt _ _ n, dialogAt_receiveAt _ _ n, ?_⟩)
    intro j value' hvalue
    obtain ⟨-, hj⟩ | ⟨-, hvalue⟩ := deliveredAt_receiveAt hvalue
    · omega
    · exact hvalue

/-- The stream of a page reports an error. -/
theorem Mirrors.streamError (h : Mirrors clients n) (index : ℕ) (text : String) :
    Mirrors clients (receiveAt index (.error text) n) := by
  refine h.silent ⟨formAt_receiveAt _ _ n, dialogAt_receiveAt _ _ n, fun j value hvalue => ?_⟩
  obtain ⟨hsnapshot, -⟩ | ⟨-, hvalue⟩ := deliveredAt_receiveAt hvalue
  · simp [AsyncSnapshot.value] at hsnapshot
  · exact hvalue

end Follow

end EventManager.App

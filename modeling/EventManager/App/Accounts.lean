import EventManager.App.Model
import EventManager.ToMathlib.Run

/-!
# The accounts

Any number of clients, indexed by `ι`, sign up against one `users` node. A client has at most one
`SignUpPage` on its screen, since nothing is ever put above it. Its fields change one at a time; the
button checks the form and writes a record under a new key. The page stays on screen until the write
is acknowledged, so the button may be tapped again.

`accounts` are the sign-ups of a run: the key and the form of each accepted tap. The node is read
back off them.

## Main results

* `User.fromMap_toMap`: a record decodes to the user it was written for;
* `accounts_of_run`: in every run the node holds the initial records as they were and one record for
  each sign-up, which decodes to what was typed.
-/

namespace EventManager.App

open Dart

/-! ## `models/user.dart` and `login_page.dart` -/

/-- A `User` as it is read from a record, whose role may be any text. -/
structure DecodedUser where
  id : String
  name : String
  email : String
  role : String
  age : Int64
  deriving DecidableEq, Repr

/-- `User.fromMap`. -/
def User.fromMap (id : String) (map : List (Dyn × Dyn)) : Except DartError DecodedUser := do
  let name ← ((Dyn.get map "name").ifNull (.string "")).asString
  let email ← ((Dyn.get map "email").ifNull (.string "")).asString
  let role ← ((Dyn.get map "role").ifNull (.string "Attendee")).asString
  let age ← ((Dyn.get map "age").ifNull (.int 18)).asInt
  return ⟨id, name, email, role, age⟩

/-- The user as it is read back. -/
def User.decoded (user : User) : DecodedUser :=
  ⟨user.id, user.name, user.email, user.role.text, user.age⟩

/-- The record that a user is written to. -/
def User.record (user : User) : List (Dyn × Dyn) := Firebase.writeFields [] user.toMap

/-- A record decodes to the user it was written for. -/
theorem User.fromMap_toMap (user : User) :
    User.fromMap user.id user.record = .ok user.decoded := rfl

/-- `_LoginPageState`. -/
structure LoginForm where
  email : String
  password : String
  deriving DecidableEq, Repr

/-- `_formKey.currentState!.validate()` of `LoginPage`, whose two validators are those of
`SignUpPage`. Nothing else is checked: the handler does not read the `users` node. -/
def LoginForm.validate (form : LoginForm) : Bool :=
  (validateEmail form.email).isNone && (validatePassword form.password).isNone

/-! ## Sign-ups -/

/-- What the widgets of `SignUpPage` change. -/
inductive SignUpEdit
  | name (text : String)
  | email (text : String)
  | password (text : String)
  | role (role : Role)
  /-- The slider, with the value of `ageSlider.toInt()`. -/
  | age (age : Int64)
  | terms (accepted : Bool)

namespace SignUpForm

/-- The form of a page that has just been opened. -/
def initial : SignUpForm := ⟨"", "", "", .attendee, false, 18⟩

/-- The form after the change. The slider goes from 18 to 60. -/
def change (form : SignUpForm) : SignUpEdit → Option SignUpForm
  | .name text => some { form with name := text }
  | .email text => some { form with email := text }
  | .password text => some { form with password := text }
  | .role role => some { form with selectedRole := role }
  | .age age => if 18 ≤ age ∧ age ≤ 60 then some { form with age := age } else none
  | .terms accepted => some { form with acceptTerms := accepted }

/-- Whether a tap on the button writes a record. -/
def accepted (form : SignUpForm) : Bool := form.validate && form.acceptTerms

/-- The user that the form is written for. -/
def user (form : SignUpForm) (key : String) : User :=
  ⟨key, form.name, form.email, form.selectedRole, form.age⟩

/-- The age of the form is a value of the slider. -/
def OnSlider (form : SignUpForm) : Prop := 18 ≤ form.age ∧ form.age ≤ 60

theorem onSlider_initial : initial.OnSlider := by
  unfold OnSlider initial
  decide

theorem onSlider_of_change {form form' : SignUpForm} {edit : SignUpEdit} (h : form.OnSlider)
    (hedit : form.change edit = some form') : form'.OnSlider := by
  cases edit with
  | age age =>
    simp only [change] at hedit
    split at hedit
    · next hage =>
      obtain rfl := Option.some.inj hedit
      exact hage
    · simp at hedit
  | _ =>
    obtain rfl := Option.some.inj hedit
    exact h

/-- The button writes the record of the user exactly if the form is accepted. -/
theorem signUp_eq (form : SignUpForm) (key : String) :
    signUp form key = if form.accepted then some (form.user key).toMap else none := by
  unfold signUp accepted
  cases form.validate <;> cases form.acceptTerms <;> rfl

end SignUpForm

/-- The `users` node with the sign-up pages of the clients. -/
structure SignUps (ι : Type) where
  users : Firebase.Node
  used : List String
  pages : ι → Option SignUpForm

/-- A step of the clients. -/
inductive SignUpStep (ι : Type)
  /-- "Sign Up" on `LoginPage`. -/
  | openSignUp (client : ι)
  | change (client : ι) (edit : SignUpEdit)
  /-- The button, with the key that `push` would yield. -/
  | submit (client : ι) (key : String)
  /-- The arrow in the app bar, or the `pushReplacement` after the write. -/
  | leave (client : ι)

section System

variable {ι : Type} [DecidableEq ι]

/-- A node with any records and any keys used in the past, and no page on screen. -/
def SignUps.initial (users : Firebase.Node) (past : List String) : SignUps ι :=
  ⟨users, users.keys ++ past, fun _ => none⟩

/-- The step function of the clients. -/
def signUpStep (s : SignUps ι) : SignUpStep ι → Option (SignUps ι)
  | .openSignUp c =>
    if (s.pages c).isNone then
      some { s with pages := Function.update s.pages c (some .initial) }
    else none
  | .change c edit => do
    let form ← s.pages c
    let form ← form.change edit
    return { s with pages := Function.update s.pages c (some form) }
  | .submit c key => do
    let form ← s.pages c
    match signUp form key with
    | none => return s
    | some fields =>
      -- `push` never yields a used key
      if key ∈ s.used then none
      else return { s with users := Firebase.push s.users key fields, used := key :: s.used }
  | .leave c => some { s with pages := Function.update s.pages c none }

/-- The key and the form of an accepted tap on the button. -/
def account (s : SignUps ι) : SignUpStep ι → Option (String × SignUpForm)
  | .submit c key => do
    let form ← s.pages c
    if form.accepted then return (key, form) else none
  | _ => none

/-- The sign-ups of a run. -/
def accounts (s : SignUps ι) (ls : List (SignUpStep ι)) : List (String × SignUpForm) :=
  LTS.log signUpStep account s ls

/-! ## What a step does -/

/-- The steps of the clients, with what each of them does. -/
inductive SignUpEffect (s : SignUps ι) : SignUpStep ι → SignUps ι → Prop
  /-- A page is opened. -/
  | opened (c : ι) :
      SignUpEffect s (.openSignUp c) { s with pages := Function.update s.pages c (some .initial) }
  /-- A form changes. -/
  | changed (c : ι) (edit : SignUpEdit) (form form' : SignUpForm) (hform : s.pages c = some form)
      (hedit : form.change edit = some form') :
      SignUpEffect s (.change c edit) { s with pages := Function.update s.pages c (some form') }
  /-- The button refuses the form. -/
  | refused (c : ι) (key : String) (form : SignUpForm) (hform : s.pages c = some form)
      (haccepted : form.accepted = false) : SignUpEffect s (.submit c key) s
  /-- A record is written. -/
  | stored (c : ι) (key : String) (form : SignUpForm) (hform : s.pages c = some form)
      (haccepted : form.accepted = true) (hfresh : key ∉ s.used) :
      SignUpEffect s (.submit c key) { s with
        users := Firebase.push s.users key (form.user key).toMap
        used := key :: s.used }
  /-- The page is left. -/
  | left (c : ι) : SignUpEffect s (.leave c) { s with pages := Function.update s.pages c none }

variable {s s' : SignUps ι} {l : SignUpStep ι} {ls : List (SignUpStep ι)} {users : Firebase.Node}
  {past : List String}

theorem signUpEffect_of_step (h : signUpStep s l = some s') : SignUpEffect s l s' := by
  cases l with
  | openSignUp c =>
    simp only [signUpStep] at h
    split at h
    · obtain rfl := Option.some.inj h
      exact .opened c
    · simp at h
  | change c edit =>
    obtain ⟨form, hform, h⟩ := Option.bind_eq_some_iff.mp h
    obtain ⟨form', hedit, h⟩ := Option.bind_eq_some_iff.mp h
    obtain rfl := Option.some.inj h
    exact .changed c edit form form' hform hedit
  | submit c key =>
    obtain ⟨form, hform, h⟩ := Option.bind_eq_some_iff.mp h
    rw [form.signUp_eq] at h
    cases haccepted : form.accepted with
    | false =>
      rw [haccepted] at h
      obtain rfl := Option.some.inj h
      exact .refused c key form hform haccepted
    | true =>
      simp only [haccepted, ↓reduceIte] at h
      split at h
      · simp at h
      · next hfresh =>
        obtain rfl := Option.some.inj h
        exact .stored c key form hform haccepted hfresh
  | leave c =>
    obtain rfl := Option.some.inj h
    exact .left c

/-- What every change of a page keeps is kept by every step. -/
theorem SignUpEffect.forall_pages {P : SignUpForm → Prop} (heffect : SignUpEffect s l s')
    (hinitial : P .initial) (hchange : ∀ form edit form', P form → form.change edit = some form' →
      P form') (h : ∀ c form, s.pages c = some form → P form) :
    ∀ c form, s'.pages c = some form → P form := by
  have hupdate (c : ι) (page : Option SignUpForm) (hpage : ∀ form, page = some form → P form) :
      ∀ d form, Function.update s.pages c page d = some form → P form :=
    (Function.forall_update_iff _ fun _ page => ∀ form, page = some form → P form).mpr
      ⟨hpage, fun d _ => h d⟩
  cases heffect with
  | opened c =>
    refine hupdate c _ fun form hform => ?_
    obtain rfl := Option.some.inj hform
    exact hinitial
  | changed c edit form form' hform hedit =>
    refine hupdate c _ fun form'' hform'' => ?_
    obtain rfl := Option.some.inj hform''
    exact hchange form edit form' (h c form hform) hedit
  | left c => exact hupdate c none (by simp)
  | refused => exact h
  | stored => exact h

/-! ## The node after a run -/

/-- The node holds the initial records as they were, and one record for each sign-up. -/
structure Accounted (users : Firebase.Node) (signUps : List (String × SignUpForm))
    (s : SignUps ι) : Prop where
  keys : s.users.keys.Perm (users.keys ++ signUps.map Prod.fst)
  used : ∀ id ∈ s.users.keys, id ∈ s.used
  kept : ∀ id ∈ users.keys, s.users.lookup id = users.lookup id
  stored : ∀ key form, (key, form) ∈ signUps →
    s.users.lookup key = some (.map (form.user key).record) ∧ form.accepted = true ∧ form.OnSlider
  onSlider : ∀ c form, s.pages c = some form → form.OnSlider

omit [DecidableEq ι] in
theorem accounted_initial (users : Firebase.Node) (past : List String) :
    Accounted users [] (SignUps.initial users past : SignUps ι) :=
  ⟨by simp [SignUps.initial], fun _ hid => List.mem_append_left _ hid, fun _ _ => rfl, by simp,
    by simp [SignUps.initial]⟩

theorem Accounted.step {signUps : List (String × SignUpForm)} (h : Accounted users signUps s)
    (heffect : SignUpEffect s l s') : Accounted users (signUps ++ (account s l).toList) s' := by
  have honSlider : ∀ c form, s'.pages c = some form → form.OnSlider :=
    heffect.forall_pages SignUpForm.onSlider_initial
      (fun _ _ _ => SignUpForm.onSlider_of_change) h.onSlider
  cases heffect with
  | stored c key form hform haccepted hfresh =>
    have haccount : account s (.submit c key) = some (key, form) := by
      simp [account, hform, haccepted]
    -- the new key is none of those in use
    have hkey : key ∉ s.users.keys := fun hmem => hfresh (h.used key hmem)
    have hother {id : String} (hid : id ∈ s.users.keys) :
        (Firebase.push s.users key (form.user key).toMap).lookup id = s.users.lookup id :=
      LinkedHashMap.lookup_set_of_ne fun heq => hkey (heq ▸ hid)
    rw [haccount]
    refine ⟨?_, ?_, ?_, ?_, honSlider⟩
    · rw [Firebase.push, LinkedHashMap.keys_set_of_not_mem hkey]
      simpa using h.keys.append_right [key]
    · intro id hid
      rcases Firebase.mem_keys_push.mp hid with rfl | hid
      · exact List.mem_cons_self
      · exact List.mem_cons_of_mem _ (h.used id hid)
    · intro id hid
      rw [hother (h.keys.mem_iff.mpr (List.mem_append_left _ hid)), h.kept id hid]
    · intro key' form' hmem
      rcases List.mem_append.mp hmem with hmem | hmem
      · obtain ⟨hlookup, hform'⟩ := h.stored key' form' hmem
        have hmem' : key' ∈ s.users.keys := LinkedHashMap.mem_keys_iff.mpr ⟨_, hlookup⟩
        exact ⟨(hother hmem').trans hlookup, hform'⟩
      · obtain ⟨rfl, rfl⟩ : key' = key ∧ form' = form := by simpa using hmem
        exact ⟨LinkedHashMap.lookup_set_self, haccepted, h.onSlider c form' hform⟩
  | refused c key form hform haccepted =>
    have haccount : account s (.submit c key) = none := by simp [account, hform, haccepted]
    rw [haccount, Option.toList_none, List.append_nil]
    exact h
  | _ =>
    show Accounted users (signUps ++ []) _
    rw [List.append_nil]
    exact ⟨h.keys, h.used, h.kept, h.stored, honSlider⟩

theorem accounted_of_run (hrun : LTS.run signUpStep (SignUps.initial users past) ls = some s) :
    Accounted users (accounts (SignUps.initial users past : SignUps ι) ls) s := by
  refine LTS.invariant_of_run
    (I := fun p s => Accounted users (accounts (SignUps.initial users past : SignUps ι) p) s)
    (accounted_initial users past) ?_ hrun
  intro p s l s' hp h hl
  rw [accounts, LTS.log_concat hp (by rw [hl]; rfl)]
  exact h.step (signUpEffect_of_step hl)

/-- The record under the key is that of the form: it holds the five fields of the user and decodes
to what was typed, which is well formed. The password is in none of the fields; `LoginPage` accepts
it with the email. -/
structure SignedUp (node : Firebase.Node) (key : String) (form : SignUpForm) : Prop where
  record : ∃ es, node.lookup key = some (.map es) ∧
    (es.map Prod.fst).Perm (["id", "name", "email", "role", "age"].map Dyn.string) ∧
    Dyn.get es "id" = .string key ∧
    User.fromMap key es = .ok ⟨key, form.name, form.email, form.selectedRole.text, form.age⟩
  name : form.name.isEmpty = false
  email : '@' ∈ form.email.toList ∧ '.' ∈ form.email.toList
  age : 18 ≤ form.age ∧ form.age ≤ 60
  login : LoginForm.validate ⟨form.email, form.password⟩ = true

theorem signedUp_of_stored {node : Firebase.Node} {key : String} {form : SignUpForm}
    (hlookup : node.lookup key = some (.map (form.user key).record))
    (haccepted : form.accepted = true) (hage : form.OnSlider) : SignedUp node key form := by
  simp only [SignUpForm.accepted, SignUpForm.validate, Bool.and_eq_true] at haccepted
  obtain ⟨⟨⟨hname, hemail⟩, hpassword⟩, -⟩ := haccepted
  refine ⟨⟨_, hlookup, .refl _, rfl, User.fromMap_toMap (form.user key)⟩, ?_, ?_, hage, ?_⟩
  · simpa [validateName] using hname
  · unfold validateEmail at hemail
    split at hemail
    · simp at hemail
    · split at hemail
      · simp at hemail
      · next hcontains => simpa using hcontains
  · exact Bool.and_eq_true_iff.mpr ⟨hemail, hpassword⟩

omit [DecidableEq ι] in
theorem Accounted.signedUp {signUps : List (String × SignUpForm)} (h : Accounted users signUps s) :
    ∀ key form, (key, form) ∈ signUps → SignedUp s.users key form := by
  intro key form hmem
  obtain ⟨hlookup, haccepted, hage⟩ := h.stored key form hmem
  exact signedUp_of_stored hlookup haccepted hage

/-- In every run of any number of clients, the `users` node holds the records it held initially, as
they were, one record for each accepted sign-up of the run, and nothing else. Each of the new ones
decodes to what was typed and stays as it was written. -/
theorem accounts_of_run (users : Firebase.Node) (past : List String) (ls : List (SignUpStep ι))
    (s : SignUps ι) (hrun : LTS.run signUpStep (SignUps.initial users past) ls = some s) :
    s.users.keys.Perm
        (users.keys ++ (accounts (SignUps.initial users past : SignUps ι) ls).map Prod.fst) ∧
      (∀ id ∈ users.keys, s.users.lookup id = users.lookup id) ∧
      ∀ key form, (key, form) ∈ accounts (SignUps.initial users past : SignUps ι) ls →
        SignedUp s.users key form := by
  have haccounted := accounted_of_run hrun
  exact ⟨haccounted.keys, haccounted.kept, haccounted.signedUp⟩

end System

/-- One client signs up and taps the button again before the first write is acknowledged. -/
theorem accounts_of_run_twice :
    ∃ (ls : List (SignUpStep (Fin 1))) (s : SignUps (Fin 1)) (form : SignUpForm),
      LTS.run signUpStep (SignUps.initial .empty []) ls = some s ∧
      s.users.keys.Perm ["k1", "k2"] ∧
      SignedUp s.users "k1" form ∧ SignedUp s.users "k2" form := by
  let ls : List (SignUpStep (Fin 1)) := [.openSignUp 0, .change 0 (.name "John Doe"),
    .change 0 (.email "your@email.com"), .change 0 (.password "secret"), .change 0 (.age 21),
    .submit 0 "k0", .change 0 (.terms true), .submit 0 "k1", .submit 0 "k2", .leave 0]
  let form : SignUpForm := ⟨"John Doe", "your@email.com", "secret", .attendee, true, 21⟩
  have haccounts : accounts (SignUps.initial .empty []) ls = [("k1", form), ("k2", form)] := by
    decide +kernel
  have hsome : (LTS.run signUpStep (SignUps.initial .empty []) ls).isSome = true := by
    decide +kernel
  obtain ⟨s, hs⟩ := Option.isSome_iff_exists.mp hsome
  obtain ⟨hkeys, -, hsignedUp⟩ := accounts_of_run .empty [] ls s hs
  rw [haccounts] at hkeys hsignedUp
  exact ⟨ls, s, form, hs, hkeys, hsignedUp _ _ (by simp), hsignedUp _ _ (by simp)⟩

end EventManager.App

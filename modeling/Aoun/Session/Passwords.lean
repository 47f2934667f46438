import Aoun.Session.App
import Aoun.Text

/-!
# What the forms make of a password

Three forms check a password and hand it to the authentication service: sign-up, sign-in and
the change of the password. Each of them trims the text before it checks it. Sign-up and
sign-in also hand over the trimmed text, the change hands over the text as it was typed, the
new password and the current one.

## Main definitions

* `Aoun.SignupViewController.signUptapped`, `Aoun.LoginViewController.logintapped`,
  `Aoun.ChangePasswordVC.changePassword` — the forms: an error text, or what they send.
* `Aoun.StoresPassword` — a typed text is accepted as a new password and stored.
* `Aoun.SentEverywhere` — the forms that ask for the password send the stored one.

## Main results

* `Aoun.sent_everywhere_iff` — when the forms agree on a password.
-/

set_option relaxedAutoImplicit false
set_option autoImplicit false

namespace Aoun

open Utilities

/-! ## The forms -/

/-- The text for a password that is not valid. -/
def passwordError : String :=
  "Please make sure your password is at least 8 characters, contains special character " ++
    "and a number."

/-- `SignupViewController.validateFields()`. -/
def SignupViewController.validateFields (firstName lastName email password
    confirmPassword : String) : Option String :=
  if trimmed firstName = "" ∧ trimmed lastName = "" ∧ trimmed email = "" ∧
      trimmed password = "" then
    some "please fill in missing fields"
  else if trimmed firstName = "" then some "please fill in missing fields"
  else if trimmed lastName = "" then some "please fill in missing fields"
  else if trimmed email = "" then some "Please fill in missing fields"
  else if trimmed password = "" then some "please fill missing fields"
  else if trimmed confirmPassword = "" then some "please fill in missing fields"
  else if password ≠ confirmPassword then some "password doesn't match"
  else if isValidName (trimmed firstName) = false then
    some "Invalid name format, please use alphabitic characters only and at least 3 characters"
  else if isValidName (trimmed lastName) = false then
    some "Invalid name format, please use alphabitic characters only and at least 3 characters"
  else if isValidEmail (trimmed email) = false then
    some "Invalid email format, please follow xxx@domain.com"
  else if isPasswordValid (trimmed password) = false then some passwordError
  else none

/-- `SignupViewController.signUptapped(_:)`: the account that is asked for. -/
def SignupViewController.signUptapped (firstName lastName email password
    confirmPassword : String) : Except String SessionRequest :=
  match validateFields firstName lastName email password confirmPassword with
  | some error => .error error
  | none =>
    .ok (.createUser (trimmed firstName) (trimmed lastName) (trimmed email) (trimmed password))

/-- `LoginViewController.validateFields()`. -/
def LoginViewController.validateFields (email password : String) : Option String :=
  if trimmed email = "" ∧ trimmed password = "" then some "Please fill in missing fields"
  else if trimmed email = "" then some "Please fill in email field"
  else if trimmed password = "" then some "Please fill in password field"
  else if isPasswordValid (trimmed password) = false then some "Incorrect email or password"
  else none

/-- `LoginViewController.logintapped(_:)`: the sign-in that is asked for. -/
def LoginViewController.logintapped (email password : String) : Except String SessionRequest :=
  match validateFields email password with
  | some error => .error error
  | none => .ok (.signIn (trimmed email) (trimmed password))

/-- `ChangePasswordVC.validatPassword()`. -/
def ChangePasswordVC.validatPassword (currentPassword newPass rePass : String) :
    Option String :=
  if trimmed currentPassword = "" ∧ trimmed newPass = "" ∧ trimmed rePass = "" then
    some "please fill in missing fields"
  else if trimmed currentPassword = "" then some "please enter current password"
  else if trimmed newPass = "" then some "please fill missing fields"
  else if trimmed rePass = "" then some "please fill in Confirm Password"
  else if newPass ≠ rePass then some "password doesn't match"
  else if isPasswordValid (trimmed newPass) = false then some passwordError
  else none

/-- `ChangePasswordVC.changePassword(_:)` for the email of the signed-in account: the sign-in
that is asked for, and the password for the `updatePassword(to:)` that follows it. -/
def ChangePasswordVC.changePassword (email : Option String)
    (currentPassword newPass rePass : String) : Except String (SessionRequest × String) :=
  match validatPassword currentPassword newPass rePass with
  | some error => .error error
  | none =>
    match email with
    | none => .error "Email not found!"
    | some email => .ok (.signIn email currentPassword, newPass)

/-! ## What they accept -/

/-- A form has no error if the first check has none, and neither have the others. -/
lemma check_eq_none {p : Prop} [Decidable p] {error : String} {rest : Option String} :
    (if p then some error else rest) = none ↔ ¬ p ∧ rest = none := by
  split_ifs with h <;> simp [h]

/-- Sign-up accepts a password that is valid when it is trimmed. -/
lemma SignupViewController.valid_of_ok {firstName lastName email password confirmPassword : String}
    {q : SessionRequest}
    (h : signUptapped firstName lastName email password confirmPassword = .ok q) :
    q = .createUser (trimmed firstName) (trimmed lastName) (trimmed email) (trimmed password) ∧
      trimmed password ≠ "" ∧ isPasswordValid (trimmed password) = true := by
  unfold signUptapped at h
  split at h
  · cases h
  · next hnone =>
    simp only [validateFields, check_eq_none] at hnone
    obtain ⟨-, -, -, -, hne, -, -, -, -, -, hvalid, -⟩ := hnone
    exact ⟨(Except.ok.inj h).symm, hne, by simpa using hvalid⟩

/-- The change of the password accepts a new one that is valid when it is trimmed. -/
lemma ChangePasswordVC.valid_of_ok {email : Option String}
    {currentPassword newPass rePass password : String} {q : SessionRequest}
    (h : changePassword email currentPassword newPass rePass = .ok (q, password)) :
    password = newPass ∧ trimmed newPass ≠ "" ∧ isPasswordValid (trimmed newPass) = true := by
  unfold changePassword at h
  split at h
  · cases h
  · next hnone =>
    simp only [validatPassword, check_eq_none] at hnone
    obtain ⟨-, -, hne, -, -, hvalid, -⟩ := hnone
    cases email with
    | none => cases h
    | some email =>
      exact ⟨(Prod.mk.inj (Except.ok.inj h)).2.symm, hne, by simpa using hvalid⟩

/-- Sign-in accepts a password that is valid when it is trimmed. -/
lemma LoginViewController.logintapped_of_valid {email password : String}
    (hemail : trimmed email ≠ "") (hne : trimmed password ≠ "")
    (hvalid : isPasswordValid (trimmed password) = true) :
    logintapped email password = .ok (.signIn (trimmed email) (trimmed password)) := by
  simp [logintapped, validateFields, hemail, hne, hvalid]

/-- The change of the password accepts any current password that is not blank. -/
lemma ChangePasswordVC.changePassword_of_valid {email currentPassword newPass : String}
    (hcurrent : trimmed currentPassword ≠ "") (hne : trimmed newPass ≠ "")
    (hvalid : isPasswordValid (trimmed newPass) = true) :
    changePassword (some email) currentPassword newPass newPass =
      .ok (.signIn email currentPassword, newPass) := by
  simp [changePassword, validatPassword, hcurrent, hne, hvalid]

/-! ## One password, three forms -/

/-- The text `typed` is accepted as a new password, at sign-up or when the password is changed,
and `stored` is what the authentication service is given. -/
inductive StoresPassword (typed : String) : String → Prop
  | signUp {firstName lastName email confirmPassword first last mail stored : String}
      (accepts : SignupViewController.signUptapped firstName lastName email typed
        confirmPassword = .ok (.createUser first last mail stored)) : StoresPassword typed stored
  | change {email : Option String} {currentPassword rePass stored : String} {q : SessionRequest}
      (accepts : ChangePasswordVC.changePassword email currentPassword typed rePass =
        .ok (q, stored)) : StoresPassword typed stored

/-- Typed into the sign-in form, with any email, and as the current password when it is changed
to any valid one, the text is accepted, and `stored` is sent. -/
def SentEverywhere (typed stored : String) : Prop :=
  (∀ email, trimmed email ≠ "" → LoginViewController.logintapped email typed =
    .ok (.signIn (trimmed email) stored)) ∧
  ∀ email newPass, trimmed newPass ≠ "" → isPasswordValid (trimmed newPass) = true →
    ChangePasswordVC.changePassword (some email) typed newPass newPass =
      .ok (.signIn email stored, newPass)

/-- A text accepted as a new password is valid when it is trimmed, and it is stored trimmed or
as it is. -/
lemma StoresPassword.cases {typed stored : String} (h : StoresPassword typed stored) :
    trimmed typed ≠ "" ∧ isPasswordValid (trimmed typed) = true ∧
      (stored = trimmed typed ∨ stored = typed) := by
  cases h with
  | signUp accepts =>
    obtain ⟨hq, hne, hvalid⟩ := SignupViewController.valid_of_ok accepts
    injection hq with _ _ _ hstored
    exact ⟨hne, hvalid, Or.inl hstored⟩
  | change accepts =>
    obtain ⟨hstored, hne, hvalid⟩ := ChangePasswordVC.valid_of_ok accepts
    exact ⟨hne, hvalid, Or.inr hstored⟩

/-- **When the forms agree on a password.** A text accepted as a new password is, typed again,
sent as it was stored by the form for signing in and by the one for changing the password if
and only if it is neither preceded nor followed by white space.

**Proof sketch.** The form for signing in sends the trimmed text, the one for changing the
password the text itself, so that both send what is stored only if the two are the same. -/
theorem sent_everywhere_iff {typed stored : String} (h : StoresPassword typed stored) :
    SentEverywhere typed stored ↔ trimmed typed = typed := by
  obtain ⟨hne, hvalid, hstored⟩ := h.cases
  constructor
  · rintro ⟨hlogin, hchange⟩
    have hmail : trimmed "a" ≠ "" := by decide
    have h₁ := hlogin "a" hmail
    have h₂ := hchange "a" typed hne hvalid
    rw [LoginViewController.logintapped_of_valid hmail hne hvalid] at h₁
    rw [ChangePasswordVC.changePassword_of_valid hne hne hvalid] at h₂
    have hsent₁ : trimmed typed = stored := by simpa using h₁
    have hsent₂ : typed = stored := by simpa using h₂
    rw [hsent₁, hsent₂]
  · intro htrim
    obtain rfl : stored = typed := by
      rcases hstored with hstored | hstored
      · rw [hstored, htrim]
      · exact hstored
    refine ⟨fun email hemail => ?_, fun email newPass hnew hnewvalid => ?_⟩
    · rw [LoginViewController.logintapped_of_valid hemail hne hvalid, htrim]
    · exact ChangePasswordVC.changePassword_of_valid hne hnew hnewvalid

/-- The password of a sign-up without white space. -/
theorem sent_everywhere_plain : trimmed "passw0rd!" = "passw0rd!" ∧
    (SentEverywhere "passw0rd!" "passw0rd!" ↔ trimmed "passw0rd!" = "passw0rd!") := by
  have haccepts : SignupViewController.signUptapped "Sara" "Ali" "sara@aoun.com" "passw0rd!"
      "passw0rd!" = .ok (.createUser "Sara" "Ali" "sara@aoun.com" "passw0rd!") := by
    decide +kernel
  exact ⟨by decide +kernel, sent_everywhere_iff (.signUp haccepts)⟩

/-- A new password that ends with a space is accepted and stored with it, and sign-in sends it
without. -/
theorem locked_out : ∃ typed stored, StoresPassword typed stored ∧
    ¬ SentEverywhere typed stored := by
  have haccepts : ChangePasswordVC.changePassword (some "sara@aoun.com") "passw0rd!"
      "passw1rd! " "passw1rd! " =
        .ok (.signIn "sara@aoun.com" "passw0rd!", "passw1rd! ") := by decide +kernel
  refine ⟨"passw1rd! ", "passw1rd! ", .change haccepts, fun hsent => ?_⟩
  have hlogin := hsent.1 "sara@aoun.com" (by decide +kernel)
  have hsends : LoginViewController.logintapped "sara@aoun.com" "passw1rd! " =
      .ok (.signIn "sara@aoun.com" "passw1rd!") := by decide +kernel
  rw [hsends] at hlogin
  revert hlogin
  decide +kernel

end Aoun

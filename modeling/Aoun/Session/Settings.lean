import Aoun.Session.Passwords

/-!
# The account's own screens

The app of `Aoun.AppDelegate` with the forms that make an account and change it. Sign-up and sign-in
check their fields before they ask for anything. The profile hands its user to `VCEditProfile`,
which asks for a new email address and, at the same time, for the document of the account, to write
the names there; it waits for neither before the other. `ChangePasswordVC` signs in again with the
current password, and asks for the new one when it is signed in.

A form is closed when `setRoot()` replaces the screens. `Auth` updates the email address of the
account that is signed in when the service has accepted it. What a form shows of a field that is
missing, beside its error text, is left out.

## Main definitions

* `Aoun.VCEditProfile`, `Aoun.ChangePasswordVC` — the forms.
* `Aoun.SettingsApp` — the app with the forms.
* `Aoun.settingsSystem` — any number of launches over one server.
-/

set_option relaxedAutoImplicit false
set_option autoImplicit false

namespace Aoun

open Utilities

/-! ## The server -/

/-- What the app asks of the authentication service and of Firestore. -/
inductive SettingsRequest
  /-- What it asks without the forms that change an account. -/
  | app (q : SessionRequest)
  /-- The sign-in of `changePassword(_:)`, with the password for the `updatePassword(to:)` that
  follows. -/
  | reauthenticate (email currentPassword password : String)
  /-- `updatePassword(to:)`, for an account. -/
  | updatePassword (uid password : String)
  /-- `updateEmail(to:)`, for an account. -/
  | updateEmail (uid newEmail : String)
  /-- The users query of `VCEditProfile`, with the names for the document. -/
  | getDocuments (uid lastName firstName : String)
  /-- The `updateData` of `VCEditProfile`. -/
  | updateData (documentID lastName firstName : String)
  deriving DecidableEq

/-- What the history records. -/
inductive SettingsEffect
  | app (o : SessionEffect)
  /-- The alert "Your profile updated successfully". -/
  | profileUpdated
  /-- The alert "Password changed successfully.". -/
  | passwordUpdated
  deriving DecidableEq

/-- The document `d` after `updateData(["LastName": lastName, "FirstName": firstName])` on the
document with id `id`. -/
def UserDoc.withNames (id lastName firstName : String) (d : UserDoc) : UserDoc :=
  if d.documentID = id then { d with LastName := some lastName, FirstName := some firstName } else d

@[simp] lemma UserDoc.withNames_documentID (id lastName firstName : String) (d : UserDoc) :
    (d.withNames id lastName firstName).documentID = d.documentID := by
  unfold withNames; split_ifs <;> rfl

@[simp] lemma UserDoc.withNames_uid (id lastName firstName : String) (d : UserDoc) :
    (d.withNames id lastName firstName).uid = d.uid := by
  unfold withNames; split_ifs <;> rfl

/-- `updateData(["LastName": lastName, "FirstName": firstName])` on the document with id `id`. -/
def UsersCollection.updateNames (c : UsersCollection) (id lastName firstName : String) :
    UsersCollection where
  docs := c.docs.map (·.withNames id lastName firstName)
  nodup := by
    rw [List.map_map]
    simpa [Function.comp_def] using c.nodup

namespace SessionServer

/-- The accounts after one of them was changed. -/
def withAccount (s : SessionServer) (uid : String) (f : Account × String → Account × String) :
    SessionServer :=
  { s with accounts := s.accounts.map fun a => if a.1.uid = uid then f a else a }

/-- The outcome of a write to an account or to a document, whose completion has only an error. -/
def write (s s' : SessionServer) (e : SessionChoice) :
    Served SessionServer SessionAnswer SettingsEffect :=
  match e.outcome with
  | .failure description => ⟨s, .error description, []⟩
  | _ => ⟨s', .written, []⟩

/-- How the server handles a request. -/
def serveSettings (s : SessionServer) (q : SettingsRequest) (e : SessionChoice) :
    Served SessionServer SessionAnswer SettingsEffect :=
  match q with
  | .app q => ⟨(s.serve q e).server, (s.serve q e).answer, (s.serve q e).effects.map .app⟩
  | .reauthenticate email currentPassword _ =>
    ⟨s, (s.serve (.signIn email currentPassword) e).answer, []⟩
  | .updatePassword uid password =>
    if ∃ a ∈ s.accounts, a.1.uid = uid then
      s.write (s.withAccount uid fun a => (a.1, password)) e
    else ⟨s, .error "There is no user record corresponding to this identifier.", []⟩
  | .updateEmail uid newEmail =>
    if ∃ a ∈ s.accounts, a.1.email = newEmail ∧ a.1.uid ≠ uid then
      ⟨s, .error "The email address is already in use by another account.", []⟩
    else if ∃ a ∈ s.accounts, a.1.uid = uid then
      s.write (s.withAccount uid fun a => ({ a.1 with email := newEmail }, a.2)) e
    else ⟨s, .error "There is no user record corresponding to this identifier.", []⟩
  | .getDocuments uid _ _ => ⟨s, (s.serve (.getName uid) e).answer, []⟩
  | .updateData documentID lastName firstName =>
    if ∃ d ∈ s.users.docs, d.documentID = documentID then
      s.write { s with users := s.users.updateNames documentID lastName firstName } e
    else ⟨s, .error "No document to update.", []⟩

/-- What the handling of a request does to the accounts and the documents: nothing, or one write. -/
inductive Writes (s : SessionServer) :
    SettingsRequest → Served SessionServer SessionAnswer SettingsEffect → Prop
  | rest {q : SettingsRequest} {a : SessionAnswer} {o : List SettingsEffect}
      (account : ∀ firstName lastName email password account,
        q = .app (.createUser firstName lastName email password) → a ≠ .account account)
      (signIn : ∀ email currentPassword password account,
        q = .reauthenticate email currentPassword password → a = .account account →
        (account, currentPassword) ∈ s.accounts ∧ account.email = email)
      (documents : ∀ uid lastName firstName documents,
        q = .getDocuments uid lastName firstName → a = .users documents →
        documents = s.users.withUid uid)
      (written : ∀ id lastName firstName, q = .updateData id lastName firstName → a ≠ .written)
      (changed : ∀ uid password, q = .updatePassword uid password → a ≠ .written) :
      Writes s q ⟨s, a, o⟩
  | createUser {firstName lastName email password uid : String} {o : List SettingsEffect}
      (fresh : ∀ a ∈ s.accounts, a.1.email ≠ email ∧ a.1.uid ≠ uid) :
      Writes s (.app (.createUser firstName lastName email password))
        ⟨{ s with accounts := s.accounts ++ [(⟨uid, email⟩, password)] }, .account ⟨uid, email⟩, o⟩
  | addDocument {firstName lastName uid id : String} {position : ℕ} {users : UsersCollection}
      {o : List SettingsEffect} (adds : s.users.addDocument
        ⟨id, uid, some firstName, some lastName, none⟩ position = some users) :
      Writes s (.app (.addDocument firstName lastName uid))
        ⟨{ s with users := users }, .written, o⟩
  | updatePassword {uid password : String} (exist : ∃ a ∈ s.accounts, a.1.uid = uid) :
      Writes s (.updatePassword uid password)
      ⟨s.withAccount uid fun a => (a.1, password), .written, []⟩
  | updateEmail {uid newEmail : String}
      (free : ∀ a ∈ s.accounts, a.1.email = newEmail → a.1.uid = uid) :
      Writes s (.updateEmail uid newEmail)
        ⟨s.withAccount uid fun a => ({ a.1 with email := newEmail }, a.2), .written, []⟩
  | updateData {documentID lastName firstName : String}
      (exist : ∃ d ∈ s.users.docs, d.documentID = documentID) :
      Writes s (.updateData documentID lastName firstName)
        ⟨{ s with users := s.users.updateNames documentID lastName firstName }, .written, []⟩

/-- A write is done, or it fails. -/
lemma write_cases (s s' : SessionServer) (e : SessionChoice) :
    s.write s' e = ⟨s', .written, []⟩ ∨
      ∃ description, s.write s' e = ⟨s, .error description, []⟩ := by
  unfold write
  cases e.outcome with
  | failure description => exact Or.inr ⟨description, rfl⟩
  | _ => exact Or.inl rfl

/-- What the server does with a request that does not come from the forms. -/
lemma writes_of_serve_app (s : SessionServer) (q : SessionRequest) (e : SessionChoice) :
    s.Writes (.app q) (s.serveSettings (.app q) e) := by
  have hrest : ∀ {a : SessionAnswer} {o : List SettingsEffect},
      (∀ firstName lastName email password account,
        q = .createUser firstName lastName email password → a ≠ .account account) →
      s.Writes (.app q) ⟨s, a, o⟩ := by
    intro a o ha
    exact .rest (fun _ _ _ _ account hq => ha _ _ _ _ account (SettingsRequest.app.inj hq))
      (by simp) (by simp) (by simp) (by simp)
  dsimp only [serveSettings]
  unfold serve
  cases e.outcome with
  | failure description => exact hrest (by simp)
  | neither => exact hrest (by simp)
  | success =>
    cases q with
    | createUser firstName lastName email password =>
      dsimp only
      split_ifs with hexists
      · exact hrest (by simp)
      · refine .createUser fun a ha => ?_
        by_contra hnot
        exact hexists ⟨a, ha, by tauto⟩
    | addDocument firstName lastName uid =>
      dsimp only
      split
      · next users hadd => exact .addDocument hadd
      · exact hrest (by simp)
    | signIn email password =>
      dsimp only
      split <;> exact hrest (by simp)
    | _ => exact hrest (by simp)

/-- A sign-in is answered with an account that has the password. -/
lemma mem_of_signIn {s : SessionServer} {email password : String} {e : SessionChoice}
    {account : Account} (ha : (s.serve (.signIn email password) e).answer = .account account) :
    (account, password) ∈ s.accounts ∧ account.email = email := by
  unfold serve at ha
  split at ha
  · cases ha
  · cases ha
  · dsimp only at ha
    split at ha
    · next a hfind =>
      obtain ⟨hemail, hpassword⟩ : a.1.email = email ∧ a.2 = password := by
        simpa using List.find?_some hfind
      obtain rfl : a.1 = account := by simpa using ha
      refine ⟨?_, hemail⟩
      rw [← hpassword]
      exact List.mem_of_find?_eq_some hfind
    · cases ha

/-- A users query is answered with the documents of the account. -/
lemma documents_of_getName {s : SessionServer} {uid : String} {e : SessionChoice}
    {documents : List UserDoc} (ha : (s.serve (.getName uid) e).answer = .users documents) :
    documents = s.users.withUid uid := by
  unfold serve at ha
  split at ha
  · cases ha
  · cases ha
  · exact (SessionAnswer.users.inj ha).symm

/-- **What the server does.** -/
theorem writes_of_serve (s : SessionServer) (q : SettingsRequest) (e : SessionChoice) :
    s.Writes q (s.serveSettings q e) := by
  cases q with
  | app q => exact s.writes_of_serve_app q e
  | reauthenticate email currentPassword password =>
    refine .rest (by simp) ?_ (by simp) (by simp) (by simp)
    rintro _ _ _ account hq ha
    obtain ⟨rfl, rfl, rfl⟩ := SettingsRequest.reauthenticate.inj hq
    exact mem_of_signIn ha
  | updatePassword uid password =>
    dsimp only [serveSettings]
    split_ifs with hexist
    · rcases s.write_cases (s.withAccount uid fun a => (a.1, password)) e with h | ⟨_, h⟩ <;> rw [h]
      · exact .updatePassword hexist
      · exact .rest (by simp) (by simp) (by simp) (by simp) (by simp)
    · exact .rest (by simp) (by simp) (by simp) (by simp) (by simp)
  | updateEmail uid newEmail =>
    dsimp only [serveSettings]
    split_ifs with htaken hexist
    · exact .rest (by simp) (by simp) (by simp) (by simp) (by simp)
    · rcases s.write_cases (s.withAccount uid fun a => ({ a.1 with email := newEmail }, a.2)) e
        with h | ⟨_, h⟩ <;> rw [h]
      · refine .updateEmail fun a ha hemail => ?_
        by_contra huid
        exact htaken ⟨a, ha, hemail, huid⟩
      · exact .rest (by simp) (by simp) (by simp) (by simp) (by simp)
    · exact .rest (by simp) (by simp) (by simp) (by simp) (by simp)
  | getDocuments uid lastName firstName =>
    refine .rest (by simp) (by simp) ?_ (by simp) (by simp)
    rintro _ _ _ documents hq ha
    obtain ⟨rfl, rfl, rfl⟩ := SettingsRequest.getDocuments.inj hq
    exact documents_of_getName ha
  | updateData documentID lastName firstName =>
    dsimp only [serveSettings]
    split_ifs with hexist
    · rcases s.write_cases { s with users := s.users.updateNames documentID lastName firstName } e
        with h | ⟨_, h⟩ <;> rw [h]
      · exact .updateData hexist
      · exact .rest (by simp) (by simp) (by simp) (by simp) (by simp)
    · exact .rest (by simp) (by simp) (by simp) (by simp) (by simp)

end SessionServer

/-! ## The forms -/

/-- `VCEditProfile`. -/
structure VCEditProfile where
  user : User
  firstNameTextField : String
  lastNameTextField : String
  Email : String
  /-- The text of `errorLabel`, once it is shown. -/
  errorLabel : Option String
  deriving DecidableEq

namespace VCEditProfile

/-- `viewDidLoad()`, with `setUpElements()`. -/
def viewDidLoad (user : User) (currentUser : Option Account) : VCEditProfile where
  user := user
  firstNameTextField := user.FirstName
  lastNameTextField := user.LastName
  Email := (currentUser.map (·.email)).getD ""
  errorLabel := none

/-- `textField(_:shouldChangeCharactersIn:replacementString:)` of the fields for the names. -/
def shouldChangeCharactersIn (text : String) (location length : ℕ) (string : String) : Bool :=
  utf16Length (replacingCharacters text location length string) ≤ 15

variable (vc : VCEditProfile)

/-- The user edits the field for the first name. -/
def changeFirstName (location length : ℕ) (string : String) : Option VCEditProfile :=
  if location + length ≤ vc.firstNameTextField.length then
    some (if shouldChangeCharactersIn vc.firstNameTextField location length string then
      { vc with firstNameTextField :=
          replacingCharacters vc.firstNameTextField location length string }
      else vc)
  else none

/-- The user edits the field for the last name. -/
def changeLastName (location length : ℕ) (string : String) : Option VCEditProfile :=
  if location + length ≤ vc.lastNameTextField.length then
    some (if shouldChangeCharactersIn vc.lastNameTextField location length string then
      { vc with lastNameTextField :=
          replacingCharacters vc.lastNameTextField location length string }
      else vc)
  else none

/-- `validateFields()`. -/
def validateFields : Option String :=
  let error := " "
  let error :=
    if isValidName (trimmed vc.firstNameTextField) = false then
      "Invalid name format, please use alphabitic characters only and at least 3 characters"
    else error
  let error :=
    if isValidName (trimmed vc.lastNameTextField) = false then
      "Invalid name format, please use alphabitic characters only and at least 3 characters"
    else error
  let error := if trimmed vc.firstNameTextField = "" then "Please fill in first name" else error
  let error := if trimmed vc.lastNameTextField = "" then "Please fill in last name" else error
  let error := if trimmed vc.Email = "" then "Please fill in the email" else error
  if isValidEmail (trimmed vc.Email) = false then
    some "Invalid email format, please follow xxx@domain.com"
  else
    let error :=
      if trimmed vc.firstNameTextField = "" ∧ trimmed vc.lastNameTextField = "" ∧
        trimmed vc.Email = "" then "Please fill in all missing fields"
      else error
    if error = " " then none else some error

/-- `signUptapped(_:)` where `currentUser` is signed in: the form, and what it asks for. -/
def signUptapped (currentUser : Option Account) : VCEditProfile × List SettingsRequest :=
  match vc.validateFields with
  | some error => ({ vc with errorLabel := some error }, [])
  | none =>
    match currentUser with
    | none => (vc, [])
    | some cu =>
      (vc, [.updateEmail cu.uid (trimmed vc.Email),
        .getDocuments cu.uid (trimmed vc.lastNameTextField) (trimmed vc.firstNameTextField)])

variable {vc}

/-- **What the form for the profile accepts.** It is two names that are valid when they are trimmed,
and such an email address. -/
lemma validateFields_eq_none_iff : vc.validateFields = none ↔
    isValidName (trimmed vc.firstNameTextField) = true ∧
      isValidName (trimmed vc.lastNameTextField) = true ∧
      isValidEmail (trimmed vc.Email) = true := by
  have hname : ∀ {t : String}, isValidName t = true → t ≠ "" := by
    rintro t ht rfl
    exact absurd ht (by decide)
  have hemail : ∀ {t : String}, isValidEmail t = true → t ≠ "" := by
    rintro t ht rfl
    exact absurd ht (by decide)
  cases hfirst : isValidName (trimmed vc.firstNameTextField)
  · simp only [validateFields, hfirst]
    split_ifs <;> simp_all
  cases hlast : isValidName (trimmed vc.lastNameTextField)
  · simp only [validateFields, hfirst, hlast]
    split_ifs <;> simp_all
  cases hmail : isValidEmail (trimmed vc.Email)
  · simp [validateFields, hmail]
  · simp [validateFields, hfirst, hlast, hmail, hname hfirst, hname hlast, hemail hmail]

/-- What the form for the profile asks for. -/
lemma signUptapped_asks (vc : VCEditProfile) {currentUser : Option Account} {q : SettingsRequest}
    (hq : q ∈ (vc.signUptapped currentUser).2) : ∃ cu, currentUser = some cu ∧
      vc.validateFields = none ∧ (q = .updateEmail cu.uid (trimmed vc.Email) ∨
        q = .getDocuments cu.uid (trimmed vc.lastNameTextField)
          (trimmed vc.firstNameTextField)) := by
  unfold signUptapped at hq
  split at hq
  · cases hq
  · next hvalid =>
    cases currentUser with
    | none => cases hq
    | some cu => exact ⟨cu, rfl, hvalid, by simpa using hq⟩

end VCEditProfile

/-- `ChangePasswordVC`. -/
structure ChangePasswordVC where
  currentPassword : String
  newPass : String
  rePass : String
  /-- The text of `errorMSG`, once it was set. -/
  errorMSG : Option String
  deriving DecidableEq

namespace ChangePasswordVC

/-- The form as the storyboard has it. -/
def viewDidLoad : ChangePasswordVC := ⟨"", "", "", none⟩

/-- `changePassword(_:)` where `currentUser` is signed in: the form, and what it asks for. -/
def changePasswordTapped (vc : ChangePasswordVC) (currentUser : Option Account) :
    ChangePasswordVC × List SettingsRequest :=
  match changePassword (currentUser.map (·.email)) vc.currentPassword vc.newPass vc.rePass with
  | .error error => ({ vc with errorMSG := some error }, [])
  | .ok (.signIn email currentPassword, password) =>
    (vc, [.reauthenticate email currentPassword password])
  | .ok _ => (vc, [])

/-- What the form for the password asks for. -/
lemma changePasswordTapped_asks (vc : ChangePasswordVC) {currentUser : Option Account}
    {q : SettingsRequest} (hq : q ∈ (vc.changePasswordTapped currentUser).2) :
    ∃ cu, currentUser = some cu ∧
      validatPassword vc.currentPassword vc.newPass vc.rePass = none ∧
      q = .reauthenticate cu.email vc.currentPassword vc.newPass := by
  unfold changePasswordTapped changePassword at hq
  cases hvalid : validatPassword vc.currentPassword vc.newPass vc.rePass with
  | some error => simp [hvalid] at hq
  | none =>
    cases currentUser with
    | none => simp [hvalid] at hq
    | some cu => exact ⟨cu, rfl, rfl, by simpa [hvalid] using hq⟩

end ChangePasswordVC

/-! ## The app -/

/-- The app, with the forms that are open. -/
structure SettingsApp where
  app : AppDelegate
  edit : Option VCEditProfile
  change : Option ChangePasswordVC
  deriving DecidableEq

/-- What can happen to the app, apart from answers. -/
inductive SettingsTap
  /-- What happens without the forms. -/
  | app (u : SessionTap)
  /-- "Sign up". -/
  | signUptapped (firstName lastName email password confirmPassword : String)
  /-- "Log in". -/
  | logintapped (email password : String)
  /-- "Edit Profile", with the user that the profile has loaded, if it has. -/
  | editButton (user : Option User)
  /-- The user edits the field for the first name. -/
  | changeFirstName (location length : ℕ) (string : String)
  /-- The user edits the field for the last name. -/
  | changeLastName (location length : ℕ) (string : String)
  /-- The user fills in the email address. -/
  | changeEmail (text : String)
  /-- "Save". -/
  | saveTapped
  /-- The user opens the form for the password. -/
  | openChangePassword
  /-- The user fills in the form for the password. -/
  | fillIn (currentPassword newPass rePass : String)
  /-- "Change Password". -/
  | changePassword
  /-- The user closes the form on top. -/
  | dismiss
  deriving DecidableEq

/-- It does not come from a form. -/
def SessionTap.formless : SessionTap → Bool
  | .signUptapped .. | .loginTapped .. => false
  | _ => true

/-- A reaction of the app. -/
abbrev SettingsReaction := Reaction SettingsApp SettingsRequest SettingsEffect

namespace SettingsApp

variable (vc : SettingsApp)

/-- A reaction that leaves the forms alone. -/
def lift (r : SessionReaction) : SettingsReaction :=
  ⟨{ vc with app := r.client }, r.requests.map .app, r.effects.map .app⟩

/-- A reaction that ends with `setRoot()`, which closes the forms. -/
def liftRoot (r : SessionReaction) : SettingsReaction :=
  ⟨{ app := r.client, edit := none, change := none }, r.requests.map .app, r.effects.map .app⟩

/-- The launch. -/
def didFinishLaunching (currentUser : Option Account) : SettingsReaction :=
  liftRoot (AppDelegate.didFinishLaunching currentUser)

/-- The forms can be open. -/
def AtHome : Prop := vc.app.trapped = false ∧ vc.app.root = some .userHome

instance : Decidable vc.AtHome := inferInstanceAs (Decidable (_ ∧ _))

/-- The user opens the form for the profile; without a user the program stops. -/
def editButton (user : Option User) : SettingsApp :=
  match user with
  | some user => { vc with edit := some (VCEditProfile.viewDidLoad user vc.app.currentUser) }
  | none => { vc with app := { vc.app with trapped := true } }

/-- The app with the form for the profile. -/
def withEdit (form : VCEditProfile) : SettingsApp := { vc with edit := some form }

/-- The user opens, edits or closes one of the forms. -/
def edits : SettingsTap → Option SettingsApp
  | .changeFirstName location length string =>
    (vc.edit.bind fun form => form.changeFirstName location length string).map vc.withEdit
  | .changeLastName location length string =>
    (vc.edit.bind fun form => form.changeLastName location length string).map vc.withEdit
  | .changeEmail text => vc.edit.map fun form => vc.withEdit { form with Email := text }
  | .openChangePassword =>
    if vc.change = none then
      vc.edit.map fun _ => { vc with change := some ChangePasswordVC.viewDidLoad }
    else none
  | .fillIn currentPassword newPass rePass =>
    vc.change.map fun form =>
      { vc with change := some ⟨currentPassword, newPass, rePass, form.errorMSG⟩ }
  | .dismiss =>
    some (if vc.change = none then { vc with edit := none } else { vc with change := none })
  | .editButton user => if vc.edit = none then some (vc.editButton user) else none
  | _ => none

/-- "Save". -/
def saveTapped (form : VCEditProfile) : SettingsReaction :=
  ⟨{ vc with edit := some (form.signUptapped vc.app.currentUser).1 },
    (form.signUptapped vc.app.currentUser).2, []⟩

/-- "Change Password". -/
def changePassword (form : ChangePasswordVC) : SettingsReaction :=
  ⟨{ vc with change := some (form.changePasswordTapped vc.app.currentUser).1 },
    (form.changePasswordTapped vc.app.currentUser).2, []⟩

/-- The reactions to what happens. -/
def ui : SettingsTap → Option SettingsReaction
  | .app u =>
    if u.formless then
      (vc.app.ui u).map (if u = .afterDelay ∨ u = .signOut false then liftRoot else vc.lift)
    else none
  | .signUptapped firstName lastName email password confirmPassword =>
    match SignupViewController.signUptapped firstName lastName email password confirmPassword with
    | .ok (.createUser firstName lastName email password) =>
      (vc.app.ui (.signUptapped firstName lastName email password)).map vc.lift
    | _ => if vc.app.trapped = false ∧ vc.app.root = some .landing then some (.skip vc) else none
  | .logintapped email password =>
    match LoginViewController.logintapped email password with
    | .ok (.signIn email password) => (vc.app.ui (.loginTapped email password)).map vc.lift
    | _ => if vc.app.trapped = false ∧ vc.app.root = some .landing then some (.skip vc) else none
  | .saveTapped =>
    if vc.AtHome ∧ vc.change = none then vc.edit.map vc.saveTapped else none
  | .changePassword => if vc.AtHome then vc.change.map vc.changePassword else none
  | u => if vc.AtHome then (vc.edits u).map .skip else none

/-- The text of an error, in the form for the password. -/
def showError (error : String) : SettingsApp :=
  { vc with change := vc.change.map fun form => { form with errorMSG := some error } }

/-- The completion of the `signIn(withEmail:password:)` of `changePassword(_:)`: `Auth` is signed in
to the account. The error is unwrapped where there is no result. -/
def reauthenticated (password : String) : SessionAnswer → SettingsReaction
  | .account account =>
    ⟨{ vc with app := { vc.app with currentUser := some account } },
      [.updatePassword account.uid password], []⟩
  | .error description => .skip (vc.showError description)
  | .neither => .skip { vc with app := { vc.app with trapped := true } }
  | _ => .skip vc

/-- `Auth` takes over the email address that the service has accepted. -/
def emailUpdated (uid newEmail : String) : SettingsApp :=
  { vc with app := { vc.app with currentUser := vc.app.currentUser.map fun cu =>
      if cu.uid = uid then { cu with email := newEmail } else cu } }

/-- The completion of the users query of `VCEditProfile`. -/
def userFound (lastName firstName : String) (documents : List UserDoc) : SettingsReaction :=
  match documents.head? with
  | none => .skip vc
  | some user => ⟨vc, [.updateData user.documentID lastName firstName], []⟩

/-- The completion of the `updateData` of `VCEditProfile`: the profile loads its user again, and the
alert is shown. -/
def namesUpdated : SettingsReaction :=
  ⟨vc, vc.app.getName.requests.map .app, [.profileUpdated]⟩

/-- The callbacks of a program that has not stopped. -/
def callback : SettingsRequest → SessionAnswer → SettingsReaction
  | .app (.createUser firstName lastName _ _), .account account =>
    liftRoot (vc.app.userCreated firstName lastName account)
  | .app (.signIn _ _), .account account => liftRoot (vc.app.signedIn account)
  | .app q, a => vc.lift (vc.app.callback q a)
  | .reauthenticate _ _ password, a => vc.reauthenticated password a
  | .updatePassword _ _, .error description => .skip (vc.showError description)
  | .updatePassword _ _, .written => ⟨vc, [], [.passwordUpdated]⟩
  | .updateEmail uid newEmail, .written => .skip (vc.emailUpdated uid newEmail)
  | .getDocuments _ lastName firstName, .users documents =>
    vc.userFound lastName firstName documents
  | .updateData _ _ _, .written => vc.namesUpdated
  | _, _ => .skip vc

/-- The callbacks. -/
def recv (q : SettingsRequest) (a : SessionAnswer) : SettingsReaction :=
  if vc.app.trapped then .skip vc else vc.callback q a

/-! ## What is asked for -/

/-- The requests that a tap leads to. -/
inductive Asks (vc : SettingsApp) : SettingsTap → SettingsRequest → Prop
  | updateToken {u : SessionTap} {cu : Account} {fcmToken : String}
      (current : vc.app.currentUser = some cu) :
      Asks vc (.app u) (.app (.updateToken cu.uid fcmToken))
  | getName {u : SessionTap} {cu : Account} (current : vc.app.currentUser = some cu) :
      Asks vc (.app u) (.app (.getName cu.uid))
  | signUp {firstName lastName email password confirmPassword : String} {q : SessionRequest}
      (accepts : SignupViewController.signUptapped firstName lastName email password
        confirmPassword = .ok q) :
      Asks vc (.signUptapped firstName lastName email password confirmPassword) (.app q)
  | logIn {email password : String} {q : SessionRequest}
      (accepts : LoginViewController.logintapped email password = .ok q) :
      Asks vc (.logintapped email password) (.app q)
  | email {form : VCEditProfile} {cu : Account} (opened : vc.edit = some form)
      (valid : form.validateFields = none) (current : vc.app.currentUser = some cu) :
      Asks vc .saveTapped (.updateEmail cu.uid (trimmed form.Email))
  | names {form : VCEditProfile} {cu : Account} (opened : vc.edit = some form)
      (valid : form.validateFields = none) (current : vc.app.currentUser = some cu) :
      Asks vc .saveTapped (.getDocuments cu.uid (trimmed form.lastNameTextField)
        (trimmed form.firstNameTextField))
  | password {form : ChangePasswordVC} {cu : Account} (opened : vc.change = some form)
      (valid : ChangePasswordVC.validatPassword form.currentPassword form.newPass form.rePass =
        none) (current : vc.app.currentUser = some cu) :
      Asks vc .changePassword (.reauthenticate cu.email form.currentPassword form.newPass)

/-- The requests that an answer leads to. -/
inductive CallsFor : SettingsRequest → SessionAnswer → SettingsRequest → Prop
  | addDocument {firstName lastName email password : String} {account : Account} :
      CallsFor (.app (.createUser firstName lastName email password)) (.account account)
        (.app (.addDocument firstName lastName account.uid))
  | token {uid fcmToken documentID : String} {documents : List UserDoc} :
      CallsFor (.app (.updateToken uid fcmToken)) (.users documents)
        (.app (.updateData documentID fcmToken))
  | updatePassword {email currentPassword password : String} {account : Account} :
      CallsFor (.reauthenticate email currentPassword password) (.account account)
        (.updatePassword account.uid password)
  | updateData {uid lastName firstName : String} {documents : List UserDoc} {user : UserDoc}
      (first : documents.head? = some user) :
      CallsFor (.getDocuments uid lastName firstName) (.users documents)
        (.updateData user.documentID lastName firstName)
  | getName {documentID lastName firstName uid : String} :
      CallsFor (.updateData documentID lastName firstName) .written (.app (.getName uid))

variable {vc}

/-- To open, edit or close a form changes neither the screens nor the account. -/
lemma edits_app {u : SettingsTap} {vc' : SettingsApp} (h : vc.edits u = some vc') :
    vc'.app.root = vc.app.root ∧ vc'.app.currentUser = vc.app.currentUser := by
  cases u with
  | editButton user =>
    simp only [edits, Option.ite_none_right_eq_some, Option.some.injEq] at h
    rw [← h.2]
    cases user <;> exact ⟨rfl, rfl⟩
  | changeFirstName location length string =>
    obtain ⟨form, -, rfl⟩ := Option.map_eq_some_iff.mp h
    exact ⟨rfl, rfl⟩
  | changeLastName location length string =>
    obtain ⟨form, -, rfl⟩ := Option.map_eq_some_iff.mp h
    exact ⟨rfl, rfl⟩
  | changeEmail text =>
    obtain ⟨form, -, rfl⟩ := Option.map_eq_some_iff.mp h
    exact ⟨rfl, rfl⟩
  | openChangePassword =>
    simp only [edits, Option.ite_none_right_eq_some] at h
    obtain ⟨form, -, rfl⟩ := Option.map_eq_some_iff.mp h.2
    exact ⟨rfl, rfl⟩
  | fillIn currentPassword newPass rePass =>
    obtain ⟨form, -, rfl⟩ := Option.map_eq_some_iff.mp h
    exact ⟨rfl, rfl⟩
  | dismiss =>
    rw [← Option.some.inj h]
    split_ifs <;> exact ⟨rfl, rfl⟩
  | _ => cases h

/-- What the app asks for at a tap that does not come from a form. -/
lemma app_asks {app : AppDelegate} {u : SessionTap} {r : SessionReaction}
    (hform : u.formless = true) (hr : app.ui u = some r) {q : SessionRequest}
    (hq : q ∈ r.requests) : ∃ cu, app.currentUser = some cu ∧
      ((∃ fcmToken, q = .updateToken cu.uid fcmToken) ∨ q = .getName cu.uid) := by
  cases u with
  | signUptapped => cases hform
  | loginTapped => cases hform
  | didReceiveRegistrationToken fcmToken =>
    simp only [AppDelegate.ui, Option.ite_none_right_eq_some, Option.some.injEq] at hr
    obtain ⟨-, rfl⟩ := hr
    cases fcmToken with
    | none => cases hq
    | some token =>
      cases hcu : app.currentUser with
      | none => simp [AppDelegate.updateToken, hcu] at hq
      | some cu => exact ⟨cu, rfl, Or.inl ⟨token, by simpa [AppDelegate.updateToken, hcu] using hq⟩⟩
  | openProfile =>
    simp only [AppDelegate.ui, Option.ite_none_right_eq_some, Option.some.injEq] at hr
    obtain ⟨-, rfl⟩ := hr
    cases hcu : app.currentUser with
    | none => simp [AppDelegate.getName, hcu] at hq
    | some cu => exact ⟨cu, rfl, Or.inr (by simpa [AppDelegate.getName, hcu] using hq)⟩
  | _ =>
    simp only [AppDelegate.ui, Option.ite_none_right_eq_some, Option.some.injEq] at hr
    obtain ⟨-, rfl⟩ := hr
    cases hq

/-- **What is asked for after a tap.** -/
lemma asks_of_ui {u : SettingsTap} {r : SettingsReaction} (hr : vc.ui u = some r)
    {q : SettingsRequest} (hq : q ∈ r.requests) : Asks vc u q := by
  cases u with
  | app u =>
    simp only [ui, Option.ite_none_right_eq_some, Option.map_eq_some_iff] at hr
    obtain ⟨hform, r, hr, rfl⟩ := hr
    have hmap : q ∈ r.requests.map SettingsRequest.app := by
      split_ifs at hq <;> exact hq
    obtain ⟨q', hq', rfl⟩ := List.mem_map.mp hmap
    obtain ⟨cu, hcu, ⟨fcmToken, rfl⟩ | rfl⟩ := app_asks hform hr hq'
    · exact .updateToken hcu
    · exact .getName hcu
  | signUptapped firstName lastName email password confirmPassword =>
    simp only [ui] at hr
    split at hr
    · next firstName' lastName' email' password' haccepts =>
      simp only [AppDelegate.ui, Option.map_eq_some_iff, Option.ite_none_right_eq_some,
        Option.some.injEq] at hr
      obtain ⟨_, ⟨-, rfl⟩, rfl⟩ := hr
      obtain rfl := List.mem_singleton.mp hq
      exact .signUp haccepts
    · simp only [Option.ite_none_right_eq_some, Option.some.injEq] at hr
      obtain ⟨-, rfl⟩ := hr
      cases hq
  | logintapped email password =>
    simp only [ui] at hr
    split at hr
    · next email' password' haccepts =>
      simp only [AppDelegate.ui, Option.map_eq_some_iff, Option.ite_none_right_eq_some,
        Option.some.injEq] at hr
      obtain ⟨_, ⟨-, rfl⟩, rfl⟩ := hr
      obtain rfl := List.mem_singleton.mp hq
      exact .logIn haccepts
    · simp only [Option.ite_none_right_eq_some, Option.some.injEq] at hr
      obtain ⟨-, rfl⟩ := hr
      cases hq
  | saveTapped =>
    simp only [ui, Option.ite_none_right_eq_some, Option.map_eq_some_iff] at hr
    obtain ⟨-, form, hform, rfl⟩ := hr
    dsimp only [saveTapped] at hq
    obtain ⟨cu, hcu, hvalid, rfl | rfl⟩ := form.signUptapped_asks hq
    · exact .email hform hvalid hcu
    · exact .names hform hvalid hcu
  | changePassword =>
    simp only [ui, Option.ite_none_right_eq_some, Option.map_eq_some_iff] at hr
    obtain ⟨-, form, hform, rfl⟩ := hr
    dsimp only [changePassword] at hq
    obtain ⟨cu, hcu, hvalid, rfl⟩ := form.changePasswordTapped_asks hq
    exact .password hform hvalid hcu
  | _ =>
    simp only [ui, Option.ite_none_right_eq_some, Option.map_eq_some_iff] at hr
    obtain ⟨-, vc', -, rfl⟩ := hr
    cases hq

/-- **What is asked for after an answer.** -/
lemma callsFor_of_recv {q q' : SettingsRequest} {a : SessionAnswer}
    (hq : q' ∈ (vc.recv q a).requests) : CallsFor q a q' := by
  unfold recv at hq
  split_ifs at hq
  · cases hq
  unfold callback at hq
  split at hq
  · -- the account of a sign-up was made
    obtain rfl := List.mem_singleton.mp hq
    exact .addDocument
  · cases hq
  · next q _ hcreate hsign =>
    obtain ⟨q', hq', rfl⟩ := List.mem_map.mp hq
    unfold AppDelegate.callback at hq'
    split at hq'
    · exact (hcreate _ _ _ _ _ rfl rfl).elim
    · exact (hsign _ _ _ rfl rfl).elim
    · unfold AppDelegate.updateTokenFound at hq'
      split at hq'
      · cases hq'
      · obtain rfl := List.mem_singleton.mp hq'
        exact .token
    · unfold AppDelegate.getNameFound at hq'
      split at hq' <;> cases hq'
    · cases hq'
  · unfold reauthenticated at hq
    split at hq
    · obtain rfl := List.mem_singleton.mp hq
      exact .updatePassword
    · cases hq
    · cases hq
    · cases hq
  · cases hq
  · cases hq
  · cases hq
  · next uid lastName firstName documents =>
    unfold userFound at hq
    split at hq
    · cases hq
    · next user hfirst =>
      obtain rfl := List.mem_singleton.mp hq
      exact .updateData hfirst
  · unfold namesUpdated AppDelegate.getName at hq
    cases hcu : vc.app.currentUser with
    | none => simp [hcu] at hq
    | some cu =>
      simp only [hcu, List.map_cons, List.map_nil, List.mem_singleton] at hq
      exact hq ▸ .getName
  · cases hq

end SettingsApp

/-- Any number of launches of the app, on any devices, over one server. -/
def settingsSystem : AsyncSystem SessionServer SettingsApp (Option Account) SettingsTap
    SettingsRequest SessionChoice SessionAnswer Unit SettingsEffect where
  boot := SettingsApp.didFinishLaunching
  ui := SettingsApp.ui
  serve := SessionServer.serveSettings
  recv := fun vc q a _ => vc.recv q a

/-- The states of the system of launches. -/
abbrev SettingsWorld :=
  AsyncSystem.World SessionServer SettingsApp SettingsRequest SessionAnswer SettingsEffect

/-- What can happen in it. -/
abbrev SettingsEvent := AsyncSystem.Event (Option Account) SettingsTap SessionChoice Unit

end Aoun

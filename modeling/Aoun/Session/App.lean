import Mathlib.Data.List.Basic
import Aoun.Lib.Async
import Aoun.Records

/-!
# The app and the account it is signed in to

`AppDelegate` keeps a copy of the signed-in user in `thisUser`, while the account itself is
that of `Auth.auth().currentUser`. The account changes on the screens for signing up, signing
in and signing out, which all call `setRoot()`; the copy is written by the answers to two users
queries, that of `updateToken(fcmToken:)` and that of `getName(completion:)`.

A client is one launch of the app. `Auth` keeps the account from one launch to the next, so
that a launch may start signed in to any account; `thisUser` starts as `nil`. What the screens
only show, and the other loads of the profile, are left out.

## Main definitions

* `Aoun.SessionServer` — the accounts and the `users` collection.
* `Aoun.AppDelegate` — the app, with its methods and the screens that change the account.
* `Aoun.sessionSystem` — any number of launches over one server.
-/

set_option relaxedAutoImplicit false
set_option autoImplicit false

namespace Aoun

/-! ## The server -/

/-- An account of the authentication service. -/
structure Account where
  uid : String
  email : String
  deriving DecidableEq

/-- The email address of the administrator's account. -/
def adminEmail : String := "u001@aoun.com"

/-- The accounts, with their passwords, and the `users` collection. -/
structure SessionServer where
  accounts : List (Account × String)
  users : UsersCollection

/-- What the app asks of the authentication service and of Firestore. -/
inductive SessionRequest
  /-- `createUser(withEmail:password:)`, with the names for the `users` document. -/
  | createUser (firstName lastName email password : String)
  /-- The `addDocument` of `signUptapped`. -/
  | addDocument (firstName lastName uid : String)
  /-- `signIn(withEmail:password:)`. -/
  | signIn (email password : String)
  /-- The users query of `updateToken(fcmToken:)`. -/
  | updateToken (uid fcmToken : String)
  /-- The `updateData` of `updateToken(fcmToken:)`. -/
  | updateData (documentID fcmToken : String)
  /-- The users query of `getName(completion:)`. -/
  | getName (uid : String)
  deriving DecidableEq

/-- The answers. -/
inductive SessionAnswer
  | account (account : Account)
  | users (documents : List UserDoc)
  | written
  | error (localizedDescription : String)
  | neither
  deriving DecidableEq

/-- The screens that read `thisUser`. -/
inductive SessionScreen
  | ChatViewController
  | WorkshopDetailsVC
  | viewWorkshopViewController
  | AnswerQuestion
  | PostReview
  deriving DecidableEq

/-- What the history of the app records. -/
inductive SessionEffect
  /-- The query of `updateToken(fcmToken:)` for an account was answered with a document. -/
  | tokenAnswered (uid : String)
  /-- The query of `getName(completion:)` for an account was answered with a document. -/
  | nameAnswered (uid : String)
  /-- A screen was opened that read `thisUser`. -/
  | opened (screen : SessionScreen) (thisUser : Option User)
  deriving DecidableEq

/-- The environment's choice: the outcome of a request, the id of a new account or document,
and the place of a new document among the ids. -/
structure SessionChoice where
  outcome : Outcome
  id : String
  position : ℕ
  deriving DecidableEq

/-- `addDocument(data:)`, with an id that is new, and that comes at the place `position`. -/
def UsersCollection.addDocument (c : UsersCollection) (d : UserDoc) (position : ℕ) :
    Option UsersCollection :=
  if h : d.documentID ∈ c.docs.map (·.documentID) then none
  else some
    { docs := c.docs.insertIdx (min position c.docs.length) d
      nodup := by
        have hperm := List.perm_insertIdx d c.docs (Nat.min_le_right position c.docs.length)
        rw [(hperm.map (·.documentID)).nodup_iff]
        exact List.nodup_cons.mpr ⟨h, c.nodup⟩ }

namespace SessionServer

/-- How the server handles a request. -/
def serve (s : SessionServer) (q : SessionRequest) (e : SessionChoice) :
    Served SessionServer SessionAnswer SessionEffect :=
  match e.outcome with
  | .failure description => ⟨s, .error description, []⟩
  | .neither => ⟨s, .neither, []⟩
  | .success =>
    match q with
    | .createUser _ _ email password =>
      if ∃ a ∈ s.accounts, a.1.email = email ∨ a.1.uid = e.id then
        ⟨s, .error "User already exists", []⟩
      else ⟨{ s with accounts := s.accounts ++ [(⟨e.id, email⟩, password)] },
        .account ⟨e.id, email⟩, []⟩
    | .addDocument firstName lastName uid =>
      match s.users.addDocument ⟨e.id, uid, some firstName, some lastName, none⟩ e.position with
      | some users => ⟨{ s with users := users }, .written, []⟩
      | none => ⟨s, .error "", []⟩
    | .signIn email password =>
      match s.accounts.find? fun a => a.1.email = email ∧ a.2 = password with
      | some a => ⟨s, .account a.1, []⟩
      | none => ⟨s, .error "", []⟩
    | .updateToken uid _ => ⟨s, .users (s.users.withUid uid), []⟩
    | .updateData _ _ => ⟨s, .written, []⟩
    | .getName uid => ⟨s, .users (s.users.withUid uid), []⟩

/-- The server has no effects of its own. -/
lemma serve_effects (s : SessionServer) (q : SessionRequest) (e : SessionChoice) :
    (s.serve q e).effects = [] := by
  unfold serve
  split
  · rfl
  · rfl
  · cases q <;> dsimp only <;> (try split) <;> rfl

end SessionServer

/-! ## The app -/

/-- The roots that `setRoot()` sets. -/
inductive SessionRoot
  | landing
  | userHome
  | adminDashboard
  deriving DecidableEq

/-- The app. -/
structure AppDelegate where
  /-- `Auth.auth().currentUser`. -/
  currentUser : Option Account
  thisUser : Option User
  /-- The screen at the root, if `setRoot()` has been called. -/
  root : Option SessionRoot
  /-- The delayed call of `setRoot()` by the launch is still to come. -/
  delayed : Bool
  /-- The program has stopped at a forced unwrapping. -/
  trapped : Bool
  deriving DecidableEq

/-- What can happen to the app, apart from answers. -/
inductive SessionTap
  /-- The call of `setRoot()` that the launch has delayed. -/
  | afterDelay
  /-- "Sign up", with valid fields. -/
  | signUptapped (firstName lastName email password : String)
  /-- "Log in", with fields that are not empty. -/
  | loginTapped (email password : String)
  /-- "Sign out"; the call of `signOut()` may throw. -/
  | signOut (throws : Bool)
  /-- `messaging(_:didReceiveRegistrationToken:)`. -/
  | didReceiveRegistrationToken (fcmToken : Option String)
  /-- The user opens the own profile. -/
  | openProfile
  /-- The user opens a screen that reads `thisUser`. -/
  | openScreen (screen : SessionScreen)
  deriving DecidableEq

/-- A reaction of the app. -/
abbrev SessionReaction := Reaction AppDelegate SessionRequest SessionEffect

namespace AppDelegate

variable (app : AppDelegate)

/-- `setRoot()`. -/
def setRoot : AppDelegate :=
  { app with root := some (match app.currentUser with
    | some cu => if cu.email = adminEmail then .adminDashboard else .userHome
    | none => .landing) }

/-- `application(_:didFinishLaunchingWithOptions:)`, signed in to `currentUser`. -/
def didFinishLaunching (currentUser : Option Account) : SessionReaction :=
  .skip { currentUser := currentUser, thisUser := none, root := none, delayed := true,
          trapped := false }

/-- `updateToken(fcmToken:)`, up to its users query. -/
def updateToken (fcmToken : String) : SessionReaction :=
  match app.currentUser with
  | none => .skip app
  | some cu => ⟨app, [.updateToken cu.uid fcmToken], []⟩

/-- The completion of the users query in `updateToken(fcmToken:)`. -/
def updateTokenFound (userId fcmToken : String) (documents : List UserDoc) : SessionReaction :=
  match documents.head? with
  | none => .skip app
  | some user =>
    ⟨{ app with thisUser := some ⟨user.FirstName.getD "", user.LastName.getD "", userId,
        some user.documentID⟩ },
      [.updateData user.documentID fcmToken], [.tokenAnswered userId]⟩

/-- `getName(completion:)` of the own profile, up to its users query. -/
def getName : SessionReaction :=
  match app.currentUser with
  | none => .skip app
  | some cu => ⟨app, [.getName cu.uid], []⟩

/-- The completion of the users query in `getName(completion:)`. -/
def getNameFound (thisUserId : String) (documents : List UserDoc) : SessionReaction :=
  match documents.getLast? with
  | none => .skip app
  | some userData =>
    let user : User := ⟨userData.FirstName.getD "", userData.LastName.getD "", thisUserId,
      some userData.documentID⟩
    ⟨if app.thisUser ≠ none then { app with thisUser := some user } else app, [],
      [.nameAnswered thisUserId]⟩

/-- The completion of `createUser(withEmail:password:)`: `Auth` is signed in to the new
account. -/
def userCreated (firstName lastName : String) (account : Account) : SessionReaction :=
  ⟨{ app with currentUser := some account }.setRoot,
    [.addDocument firstName lastName account.uid], []⟩

/-- The completion of `signIn(withEmail:password:)`. -/
def signedIn (account : Account) : SessionReaction :=
  .skip { app with currentUser := some account }.setRoot

/-- "Sign out". -/
def signOut (throws : Bool) : SessionReaction :=
  .skip (if throws then app else { app with currentUser := none }.setRoot)

/-- A screen that reads `thisUser` is opened. All of them but two unwrap it at once. -/
def openScreen (screen : SessionScreen) : SessionReaction :=
  ⟨{ app with trapped := app.thisUser = none ∧ screen ≠ .AnswerQuestion ∧
      screen ≠ .PostReview }, [], [.opened screen app.thisUser]⟩

/-- The reactions to what happens. -/
def ui : SessionTap → Option SessionReaction
  | .afterDelay =>
    if app.trapped = false ∧ app.delayed = true then
      some (.skip { app.setRoot with delayed := false })
    else none
  | .signUptapped firstName lastName email password =>
    if app.trapped = false ∧ app.root = some .landing then
      some ⟨app, [.createUser firstName lastName email password], []⟩
    else none
  | .loginTapped email password =>
    if app.trapped = false ∧ app.root = some .landing then
      some ⟨app, [.signIn email password], []⟩
    else none
  | .signOut throws =>
    if app.trapped = false ∧ (app.root = some .userHome ∨ app.root = some .adminDashboard) then
      some (app.signOut throws)
    else none
  | .didReceiveRegistrationToken fcmToken =>
    if app.trapped = false then
      some (match fcmToken with
        | none => .skip app
        | some token => app.updateToken token)
    else none
  | .openProfile =>
    if app.trapped = false ∧ app.root = some .userHome then some app.getName else none
  | .openScreen screen =>
    if app.trapped = false ∧ app.root = some .userHome then some (app.openScreen screen)
    else none

/-- The callbacks of a program that has not stopped. -/
def callback : SessionRequest → SessionAnswer → SessionReaction
  | .createUser firstName lastName _ _, .account account =>
    app.userCreated firstName lastName account
  | .signIn _ _, .account account => app.signedIn account
  | .updateToken uid fcmToken, .users documents => app.updateTokenFound uid fcmToken documents
  | .getName uid, .users documents => app.getNameFound uid documents
  | _, _ => .skip app

/-- The callbacks. -/
def recv (q : SessionRequest) (a : SessionAnswer) : SessionReaction :=
  if app.trapped then .skip app else app.callback q a

end AppDelegate

/-- Any number of launches of the app, on any devices, over one server. -/
def sessionSystem : AsyncSystem SessionServer AppDelegate (Option Account) SessionTap
    SessionRequest SessionChoice SessionAnswer Unit SessionEffect where
  boot := AppDelegate.didFinishLaunching
  ui := AppDelegate.ui
  serve := SessionServer.serve
  recv := fun app q a _ => app.recv q a

/-- The states of the system of launches. -/
abbrev SessionWorld :=
  AsyncSystem.World SessionServer AppDelegate SessionRequest SessionAnswer SessionEffect

/-- What can happen in it. -/
abbrev SessionEvent := AsyncSystem.Event (Option Account) SessionTap SessionChoice Unit

end Aoun

import Aoun.Session.App

/-!
# The tokens of notifications

A device gets registration tokens from the messaging service, and `updateToken(fcmToken:)` writes
one to the `users` document of the account that is signed in. To notify a user, the screens that
send a message or post an answer read the token from the user's document, and send to it. No
token is removed when a user signs out.

A client is a device, with the launch of the app that runs on it; `Auth` keeps the account from
one launch to the next, and a launch gets no answers to what an earlier one has asked. What the
notifications say is left out.

## Main definitions

* `Aoun.TokenServer` — the accounts and the `users` collection, with the tokens.
* `Aoun.TokenDevice` — a device, with `triggerNotification` of the two screens.
* `Aoun.tokenSystem` — any number of devices over one server.

## Main results

* `Aoun.TokenServer.fcmToken_serve` — which tokens are stored after a request.
* `Aoun.TokenDevice.ui_client`, `Aoun.TokenDevice.recv_client` — what becomes of a device.
* `Aoun.TokenDevice.recv_effects` — to which tokens it sends notifications.
-/

set_option relaxedAutoImplicit false
set_option autoImplicit false

namespace Aoun

open AsyncSystem AsyncSystem.World

/-! ## The server -/

/-- The accounts and the `users` collection, with the tokens. -/
structure TokenServer where
  session : SessionServer
  /-- The field `fcmToken` of the document with an id. -/
  fcmToken : String → Option String
  /-- Only documents that are there have a token. -/
  there : ∀ id, fcmToken id ≠ none → id ∈ session.users.docs.map (·.documentID)

/-- What a device asks for, with the number of the launch that asks. -/
inductive TokenRequest
  | session (launch : ℕ) (request : SessionRequest)
  /-- The users query of `triggerNotification`. -/
  | triggerNotification (launch : ℕ) (uid : String)
  deriving DecidableEq

/-- The answers; documents of a notified user come with their tokens. -/
inductive TokenAnswer
  | session (answer : SessionAnswer)
  | users (documents : List (UserDoc × Option String))
  deriving DecidableEq

/-- A call of `sendPushNotification(to:title:body:)`, for the user that is notified. -/
structure PushNotification where
  uid : String
  fcmToken : String
  deriving DecidableEq

/-- The token of the first document, `documents.first["fcmToken"]`. -/
def firstToken (documents : List (UserDoc × Option String)) : Option String :=
  documents.head?.bind Prod.snd

/-- The documents there are stay, and the others have new ids. -/
lemma UsersCollection.mem_addDocument {c c' : UsersCollection} {d : UserDoc} {position : ℕ}
    (h : c.addDocument d position = some c') :
    d.documentID ∉ c.docs.map (·.documentID) ∧ ∀ x, x ∈ c'.docs ↔ x = d ∨ x ∈ c.docs := by
  unfold addDocument at h
  split_ifs at h with hnew
  obtain rfl := Option.some.inj h
  refine ⟨hnew, fun x => ?_⟩
  rw [(List.perm_insertIdx d c.docs (Nat.min_le_right position c.docs.length)).mem_iff,
    List.mem_cons]

/-- The documents of `users` after a request: those that were there, and new ones. -/
lemma SessionServer.mem_serve (s : SessionServer) (q : SessionRequest) (e : SessionChoice) :
    (∀ d ∈ s.users.docs, d ∈ (s.serve q e).server.users.docs) ∧
      ∀ d ∈ (s.serve q e).server.users.docs,
        d ∈ s.users.docs ∨ d.documentID ∉ s.users.docs.map (·.documentID) := by
  have hsame : ∀ s' : SessionServer, s'.users = s.users →
      (∀ d ∈ s.users.docs, d ∈ s'.users.docs) ∧
        ∀ d ∈ s'.users.docs, d ∈ s.users.docs ∨ d.documentID ∉ s.users.docs.map (·.documentID) :=
    fun s' hs' => hs' ▸ ⟨fun _ hd => hd, fun _ hd => Or.inl hd⟩
  unfold serve
  split
  · exact hsame _ rfl
  · exact hsame _ rfl
  · cases q with
    | createUser firstName lastName email password =>
      dsimp only
      split_ifs <;> exact hsame _ rfl
    | addDocument firstName lastName uid =>
      dsimp only
      split
      · next users hadd =>
        obtain ⟨hnew, hmem⟩ := UsersCollection.mem_addDocument hadd
        refine ⟨fun d hd => (hmem d).mpr (Or.inr hd), fun d hd => ?_⟩
        rcases (hmem d).mp hd with rfl | hd
        · exact Or.inr hnew
        · exact Or.inl hd
      · exact hsame _ rfl
    | signIn email password =>
      dsimp only
      split <;> exact hsame _ rfl
    | _ => exact hsame _ rfl

namespace TokenServer

variable (s : TokenServer)

/-- `updateData(["fcmToken": fcmToken])` on a document that is there. -/
def updateData (documentID fcmToken : String)
    (h : documentID ∈ s.session.users.docs.map (·.documentID)) : TokenServer where
  session := s.session
  fcmToken := Function.update s.fcmToken documentID (some fcmToken)
  there := by
    intro id hid
    by_cases hne : id = documentID
    · exact hne ▸ h
    · rw [Function.update_of_ne hne] at hid
      exact s.there id hid

/-- A request that concerns no token. -/
def serveSession (q : SessionRequest) (e : SessionChoice) : TokenServer where
  session := (s.session.serve q e).server
  fcmToken := s.fcmToken
  there := by
    intro id hid
    obtain ⟨d, hd, rfl⟩ := List.mem_map.mp (s.there id hid)
    exact List.mem_map_of_mem ((s.session.mem_serve q e).1 d hd)

/-- The documents of `triggerNotification`'s users query. -/
def withToken (uid : String) : List (UserDoc × Option String) :=
  (s.session.users.withUid uid).map fun d => (d, s.fcmToken d.documentID)

/-- How the server handles a request. -/
def serve (q : TokenRequest) (e : SessionChoice) :
    Served TokenServer TokenAnswer PushNotification :=
  match q, e.outcome with
  | .session _ (.updateData documentID fcmToken), .success =>
    if h : documentID ∈ s.session.users.docs.map (·.documentID) then
      ⟨s.updateData documentID fcmToken h, .session .written, []⟩
    else ⟨s, .session (.error "No document to update"), []⟩
  | .session _ q, _ => ⟨s.serveSession q e, .session (s.session.serve q e).answer, []⟩
  | .triggerNotification _ uid, .success => ⟨s, .users (s.withToken uid), []⟩
  | .triggerNotification _ _, .failure description => ⟨s, .session (.error description), []⟩
  | .triggerNotification _ _, .neither => ⟨s, .session .neither, []⟩

variable {s}

/-- The server sends no notifications. -/
lemma serve_effects (q : TokenRequest) (e : SessionChoice) : (s.serve q e).effects = [] := by
  unfold serve
  split
  · split_ifs <;> rfl
  all_goals rfl

/-- **Which tokens are stored** after a request: those that were, and the one that it writes. -/
lemma fcmToken_serve {q : TokenRequest} {e : SessionChoice} {d : UserDoc} {t : String}
    (hd : d ∈ (s.serve q e).server.session.users.docs)
    (ht : (s.serve q e).server.fcmToken d.documentID = some t) :
    d ∈ s.session.users.docs ∧ (s.fcmToken d.documentID = some t ∨
      ∃ launch, q = .session launch (.updateData d.documentID t) ∧ e.outcome = .success) := by
  generalize hv : s.serve q e = v at hd ht
  unfold serve at hv
  split at hv
  · next launch documentID fcmToken he =>
    split_ifs at hv with hthere
    · subst hv
      by_cases hid : d.documentID = documentID
      · subst hid
        simp only [updateData, Function.update_self, Option.some.injEq] at ht
        exact ⟨hd, Or.inr ⟨launch, by rw [ht], he⟩⟩
      · simp only [updateData, Function.update_of_ne hid] at ht
        exact ⟨hd, Or.inl ht⟩
    · subst hv
      exact ⟨hd, Or.inl ht⟩
  · next launch q _ =>
    subst hv
    rcases (s.session.mem_serve q e).2 d hd with hd | hnew
    · exact ⟨hd, Or.inl ht⟩
    · -- a document that is new has no token
      have hsome : s.fcmToken d.documentID ≠ none := by
        rw [show s.fcmToken d.documentID = some t from ht]
        simp
      exact absurd (s.there d.documentID hsome) hnew
  all_goals
    subst hv
    exact ⟨hd, Or.inl ht⟩

/-- The documents that a query finds are the user's, with the tokens stored. -/
lemma users_of_serve {q : TokenRequest} {e : SessionChoice}
    {documents : List (UserDoc × Option String)} {t : String}
    (ha : (s.serve q e).answer = .users documents) (ht : firstToken documents = some t) :
    ∃ launch uid d, q = .triggerNotification launch uid ∧ d ∈ s.session.users.docs ∧
      d.uid = uid ∧ s.fcmToken d.documentID = some t := by
  unfold serve at ha
  split at ha
  · split_ifs at ha
  · cases ha
  · next launch uid _ =>
    obtain rfl := TokenAnswer.users.inj ha
    obtain ⟨x, hx, hxt⟩ := Option.bind_eq_some_iff.mp ht
    obtain ⟨d, hd, rfl⟩ := List.mem_map.mp (List.mem_of_head? hx)
    obtain ⟨hmem, huid⟩ := UsersCollection.mem_withUid.mp hd
    exact ⟨launch, uid, d, rfl, hmem, huid, hxt⟩
  · cases ha
  · cases ha

end TokenServer

/-! ## The devices -/

/-- A device. -/
structure TokenDevice where
  app : AppDelegate
  /-- The number of launches before. -/
  launch : ℕ
  deriving DecidableEq

/-- What can happen to a device, apart from answers. -/
inductive TokenTap
  /-- The app is launched again. -/
  | launch
  | session (u : SessionTap)
  /-- A message to `otherUser` was stored. -/
  | saved (otherUser : User)
  /-- An answer to the question of `askingUserID` was stored. -/
  | posted (askingUserID : Option String)
  deriving DecidableEq

/-- The token that a request carries. -/
def SessionRequest.token : SessionRequest → Option String
  | .updateToken _ fcmToken => some fcmToken
  | .updateData _ fcmToken => some fcmToken
  | _ => none

/-- The launch that a request was made by. -/
def TokenRequest.launch : TokenRequest → ℕ
  | .session launch _ => launch
  | .triggerNotification launch _ => launch

/-- The token that a request of a device carries. -/
def TokenRequest.token : TokenRequest → Option String
  | .session _ q => q.token
  | .triggerNotification _ _ => none

/-- A reaction of a device. -/
abbrev TokenReaction := Reaction TokenDevice TokenRequest PushNotification

/-- A reaction of the app, in the launch `launch`. -/
def SessionReaction.on (r : SessionReaction) (launch : ℕ) : TokenReaction :=
  ⟨⟨r.client, launch⟩, r.requests.map (.session launch), []⟩

namespace TokenDevice

variable (d : TokenDevice)

/-- The users query of `triggerNotification`. -/
def usersQuery (uid : String) : TokenReaction := ⟨d, [.triggerNotification d.launch uid], []⟩

/-- `triggerNotification(message:)` of the chat. -/
def Chat.triggerNotification (otherUser : User) : TokenReaction := d.usersQuery otherUser.uid

/-- `triggerNotification()` of `AnswerQuestion`. -/
def AnswerQuestion.triggerNotification (askingUserID : Option String) : TokenReaction :=
  match askingUserID with
  | none => .skip d
  | some askingUserID => d.usersQuery askingUserID

/-- The completion of the query: the notification is sent to the token of the first document. -/
def usersFound (uid : String) (documents : List (UserDoc × Option String)) : TokenReaction :=
  match firstToken documents with
  | none => .skip d
  | some fcmToken => ⟨d, [], [⟨uid, fcmToken⟩]⟩

/-- The reactions to what happens. -/
def ui : TokenTap → Option TokenReaction
  | .launch =>
    some (SessionReaction.on (AppDelegate.didFinishLaunching d.app.currentUser) (d.launch + 1))
  | .session u => (d.app.ui u).map fun r => SessionReaction.on r d.launch
  | .saved otherUser =>
    if d.app.trapped then none else some (Chat.triggerNotification d otherUser)
  | .posted askingUserID =>
    if d.app.trapped then none else some (AnswerQuestion.triggerNotification d askingUserID)

/-- The callbacks, of the launch that runs. -/
def recv : TokenRequest → TokenAnswer → TokenReaction
  | .session launch q, .session a =>
    if launch = d.launch then SessionReaction.on (d.app.recv q a) d.launch else .skip d
  | .triggerNotification launch uid, .users documents =>
    if launch = d.launch ∧ d.app.trapped = false then d.usersFound uid documents else .skip d
  | _, _ => .skip d

/-! ### What the app does -/

/-- What happens to a running app changes its account only by signing out. -/
lemma app_ui_client {app : AppDelegate} {u : SessionTap} {r : SessionReaction}
    (h : app.ui u = some r) :
    app.trapped = false ∧
      (r.client.currentUser = app.currentUser ∨ u = .signOut false) := by
  cases u with
  | afterDelay | signUptapped | loginTapped | openScreen =>
    simp only [AppDelegate.ui, Option.ite_none_right_eq_some, Option.some.injEq] at h
    rw [← h.2]
    exact ⟨h.1.1, Or.inl rfl⟩
  | openProfile =>
    simp only [AppDelegate.ui, Option.ite_none_right_eq_some, Option.some.injEq] at h
    rw [← h.2, AppDelegate.getName]
    split <;> exact ⟨h.1.1, Or.inl rfl⟩
  | didReceiveRegistrationToken fcmToken =>
    simp only [AppDelegate.ui, Option.ite_none_right_eq_some, Option.some.injEq] at h
    rw [← h.2]
    refine ⟨h.1, Or.inl ?_⟩
    cases fcmToken with
    | none => rfl
    | some token =>
      dsimp only [AppDelegate.updateToken]
      split <;> rfl
  | signOut throws =>
    simp only [AppDelegate.ui, Option.ite_none_right_eq_some, Option.some.injEq] at h
    rw [← h.2]
    cases throws with
    | true => exact ⟨h.1.1, Or.inl rfl⟩
    | false => exact ⟨h.1.1, Or.inr rfl⟩

/-- The app passes on a token when it receives it. -/
lemma app_ui_requests {app : AppDelegate} {u : SessionTap} {r : SessionReaction}
    (h : app.ui u = some r) :
    ∀ q ∈ r.requests, ∀ t, q.token = some t → u = .didReceiveRegistrationToken (some t) := by
  cases u with
  | afterDelay | signUptapped | loginTapped | openScreen | signOut =>
    simp only [AppDelegate.ui, Option.ite_none_right_eq_some, Option.some.injEq] at h
    rw [← h.2]
    simp [SessionRequest.token, AppDelegate.openScreen, AppDelegate.signOut]
  | openProfile =>
    simp only [AppDelegate.ui, Option.ite_none_right_eq_some, Option.some.injEq] at h
    rw [← h.2, AppDelegate.getName]
    split <;> simp [SessionRequest.token]
  | didReceiveRegistrationToken fcmToken =>
    simp only [AppDelegate.ui, Option.ite_none_right_eq_some, Option.some.injEq] at h
    rw [← h.2]
    cases fcmToken with
    | none => simp
    | some token =>
      dsimp only [AppDelegate.updateToken]
      split
      · simp
      · intro q hq t ht
        rw [List.mem_singleton.mp hq] at ht
        rw [← ht]
        rfl

/-- What a running app receives changes its account only to the one that it gets. -/
lemma app_recv_client (app : AppDelegate) (q : SessionRequest) (a : SessionAnswer) :
    (app.recv q a).client = app ∨
      (app.trapped = false ∧ ((app.recv q a).client.currentUser = app.currentUser ∨
        ∃ account, a = .account account ∧ (app.recv q a).client.currentUser = some account)) := by
  unfold AppDelegate.recv
  split_ifs with htrapped
  · exact Or.inl rfl
  · refine Or.inr ⟨by simpa using htrapped, ?_⟩
    unfold AppDelegate.callback
    split
    · next account => exact Or.inr ⟨account, rfl, rfl⟩
    · next account => exact Or.inr ⟨account, rfl, rfl⟩
    · next uid fcmToken documents =>
      unfold AppDelegate.updateTokenFound
      cases documents.head? <;> exact Or.inl rfl
    · next uid documents =>
      unfold AppDelegate.getNameFound
      cases documents.getLast? with
      | none => exact Or.inl rfl
      | some userData =>
        refine Or.inl ?_
        dsimp only
        split_ifs <;> rfl
    · exact Or.inl rfl

/-- The app passes on a token again when its document is found. -/
lemma app_recv_requests (app : AppDelegate) (q : SessionRequest) (a : SessionAnswer) :
    ∀ q' ∈ (app.recv q a).requests, ∀ t, q'.token = some t → q.token = some t := by
  unfold AppDelegate.recv
  split_ifs
  · simp
  · unfold AppDelegate.callback
    split
    · simp [AppDelegate.userCreated, SessionRequest.token]
    · simp [AppDelegate.signedIn]
    · next uid fcmToken documents =>
      unfold AppDelegate.updateTokenFound
      cases documents.head? with
      | none => simp
      | some user =>
        intro q' hq t ht
        rw [List.mem_singleton.mp hq] at ht
        exact ht
    · next uid documents =>
      unfold AppDelegate.getNameFound
      cases documents.getLast? <;> simp
    · simp

/-! ### What a device does -/

variable {d}

/-- The requests of the app on a device. -/
lemma mem_on {r : SessionReaction} {launch : ℕ} {q : TokenRequest}
    (hq : q ∈ (r.on launch).requests) :
    q.launch = launch ∧ ∀ t, q.token = some t → ∃ q' ∈ r.requests, q'.token = some t := by
  obtain ⟨q', hq', rfl⟩ := List.mem_map.mp hq
  exact ⟨rfl, fun t ht => ⟨q', hq', ht⟩⟩

/-- The query of `triggerNotification`. -/
lemma mem_usersQuery {uid : String} {q : TokenRequest} (hq : q ∈ (d.usersQuery uid).requests) :
    q.launch = d.launch ∧ q.token = none := by
  rw [List.mem_singleton.mp hq]
  exact ⟨rfl, rfl⟩

/-- **What happens to a device** launches the app again, with the same account, or changes the
account by signing out, or keeps it. -/
lemma ui_client {u : TokenTap} {r : TokenReaction} (h : d.ui u = some r) :
    (r.client.launch = d.launch + 1 ∧ r.client.app.currentUser = d.app.currentUser) ∨
    (r.client.launch = d.launch ∧ d.app.trapped = false ∧
      (r.client.app.currentUser = d.app.currentUser ∨ u = .session (.signOut false))) := by
  cases u with
  | launch =>
    obtain rfl := Option.some.inj h
    exact Or.inl ⟨rfl, rfl⟩
  | session u =>
    obtain ⟨r', hr', rfl⟩ := Option.map_eq_some_iff.mp h
    obtain ⟨htrapped, huser⟩ := app_ui_client hr'
    exact Or.inr ⟨rfl, htrapped, huser.imp id (congrArg _)⟩
  | saved otherUser =>
    simp only [ui, Option.ite_none_left_eq_some, Option.some.injEq, Bool.not_eq_true] at h
    rw [← h.2]
    exact Or.inr ⟨rfl, h.1, Or.inl rfl⟩
  | posted askingUserID =>
    simp only [ui, Option.ite_none_left_eq_some, Option.some.injEq, Bool.not_eq_true] at h
    rw [← h.2]
    cases askingUserID <;> exact Or.inr ⟨rfl, h.1, Or.inl rfl⟩

/-- A device asks in the launch that runs, and passes on a token when it receives it. -/
lemma ui_requests {u : TokenTap} {r : TokenReaction} (h : d.ui u = some r) :
    ∀ q ∈ r.requests, q.launch = r.client.launch ∧
      ∀ t, q.token = some t → u = .session (.didReceiveRegistrationToken (some t)) := by
  intro q hq
  cases u with
  | launch =>
    obtain rfl := Option.some.inj h
    cases hq
  | session u =>
    obtain ⟨r', hr', rfl⟩ := Option.map_eq_some_iff.mp h
    obtain ⟨hlaunch, htoken⟩ := mem_on hq
    refine ⟨hlaunch, fun t ht => ?_⟩
    obtain ⟨q', hq', ht'⟩ := htoken t ht
    exact congrArg _ (app_ui_requests hr' q' hq' t ht')
  | saved otherUser =>
    simp only [ui, Option.ite_none_left_eq_some, Option.some.injEq] at h
    rw [← h.2] at hq ⊢
    obtain ⟨hlaunch, hnone⟩ := mem_usersQuery hq
    exact ⟨hlaunch, fun t ht => by rw [hnone] at ht; cases ht⟩
  | posted askingUserID =>
    simp only [ui, Option.ite_none_left_eq_some, Option.some.injEq] at h
    rw [← h.2] at hq ⊢
    cases askingUserID with
    | none => cases hq
    | some uid =>
      obtain ⟨hlaunch, hnone⟩ := mem_usersQuery hq
      exact ⟨hlaunch, fun t ht => by rw [hnone] at ht; cases ht⟩

/-- A device sends no notification by itself. -/
lemma ui_effects {u : TokenTap} {r : TokenReaction} (h : d.ui u = some r) : r.effects = [] := by
  cases u with
  | launch =>
    obtain rfl := Option.some.inj h
    rfl
  | session u =>
    obtain ⟨r', -, rfl⟩ := Option.map_eq_some_iff.mp h
    rfl
  | saved otherUser =>
    simp only [ui, Option.ite_none_left_eq_some, Option.some.injEq] at h
    rw [← h.2]
    rfl
  | posted askingUserID =>
    simp only [ui, Option.ite_none_left_eq_some, Option.some.injEq] at h
    rw [← h.2]
    cases askingUserID <;> rfl

/-- **What a device receives** is for the launch that runs, and changes the account only to the
one that it gets. -/
lemma recv_client (d : TokenDevice) (q : TokenRequest) (a : TokenAnswer) :
    (d.recv q a).client = d ∨
      ((d.recv q a).client.launch = d.launch ∧ q.launch = d.launch ∧ d.app.trapped = false ∧
        ((d.recv q a).client.app.currentUser = d.app.currentUser ∨
          ∃ account, a = .session (.account account) ∧
            (d.recv q a).client.app.currentUser = some account)) := by
  unfold recv
  split
  · next launch q a =>
    split_ifs with hlaunch
    · rcases app_recv_client d.app q a with hsame | ⟨htrapped, huser | ⟨account, rfl, huser⟩⟩
      · exact Or.inl (congrArg (TokenDevice.mk · d.launch) hsame)
      · exact Or.inr ⟨rfl, hlaunch, htrapped, Or.inl huser⟩
      · exact Or.inr ⟨rfl, hlaunch, htrapped, Or.inr ⟨account, rfl, huser⟩⟩
    · exact Or.inl rfl
  · next launch uid documents =>
    split_ifs with hlaunch
    · unfold usersFound
      split <;> exact Or.inl rfl
    · exact Or.inl rfl
  · exact Or.inl rfl

/-- A device goes on asking in the launch that runs, and passes on a token again. -/
lemma recv_requests (d : TokenDevice) (q : TokenRequest) (a : TokenAnswer) :
    ∀ q' ∈ (d.recv q a).requests, q'.launch = (d.recv q a).client.launch ∧
      ∀ t, q'.token = some t → q.token = some t := by
  unfold recv
  split
  · next launch q a =>
    split_ifs with hlaunch
    · intro q' hq'
      obtain ⟨hlaunch', htoken⟩ := mem_on hq'
      refine ⟨hlaunch', fun t ht => ?_⟩
      obtain ⟨q'', hq'', ht'⟩ := htoken t ht
      exact app_recv_requests d.app q a q'' hq'' t ht'
    · simp
  · next launch uid documents =>
    split_ifs with hlaunch
    · unfold usersFound
      split <;> simp
    · simp
  · simp

/-- **A device sends a notification** to the token of the first document that it gets of the
user, in the launch that has asked for it. -/
lemma recv_effects (d : TokenDevice) (q : TokenRequest) (a : TokenAnswer) :
    ∀ p ∈ (d.recv q a).effects, d.app.trapped = false ∧
      ∃ documents, q = .triggerNotification d.launch p.uid ∧ a = .users documents ∧
        firstToken documents = some p.fcmToken := by
  unfold recv
  split
  · split_ifs <;> simp [SessionReaction.on]
  · next launch uid documents =>
    split_ifs with hlive
    · obtain ⟨rfl, htrapped⟩ := hlive
      unfold usersFound
      split
      · simp
      · next fcmToken hfirst =>
        intro p hp
        rw [List.mem_singleton.mp hp]
        exact ⟨htrapped, documents, rfl, rfl, hfirst⟩
    · simp
  · simp

end TokenDevice

/-- Any number of devices over one server. -/
def tokenSystem : AsyncSystem TokenServer TokenDevice (Option Account) TokenTap TokenRequest
    SessionChoice TokenAnswer Unit PushNotification where
  boot := fun account => SessionReaction.on (AppDelegate.didFinishLaunching account) 0
  ui := TokenDevice.ui
  serve := TokenServer.serve
  recv := fun d q a _ => d.recv q a

/-- The states of the system. -/
abbrev TokenWorld :=
  AsyncSystem.World TokenServer TokenDevice TokenRequest TokenAnswer PushNotification

/-- What can happen in it. -/
abbrev TokenEvent := AsyncSystem.Event (Option Account) TokenTap SessionChoice Unit

end Aoun

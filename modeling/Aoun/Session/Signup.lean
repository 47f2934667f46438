import Aoun.Lib.Baton
import Aoun.Session.Identity
import Aoun.Session.Passwords

/-!
# The account and its document

Sign-up writes twice: the account, with the authentication service, and then the names, in a
document of `users` that the other screens look up by the account's uid. The callback of the
first write asks for the second one and goes to the home screen without waiting for it. Where
the second write fails, an error text is set on the form, which is no longer shown, and the
account stays without a document: to sign up again is refused, since the account exists.

The uid of the new account is handed on from the answer that carries it to the second request,
and from there to the document, so that an account has at most one document.

## Main definitions

* `Aoun.HomeAfterSignUp` — the home screen was reached through sign-up, and no call is pending.
* `Aoun.Profiled` — an account has exactly one document, with the names that were validated.

## Main results

* `Aoun.owned_of_run` — the documents are of accounts.
* `Aoun.written_once` — an account that was created in a run has at most one document.
* `Aoun.profiled_iff` — when the account of a sign-up has its document.
-/

set_option relaxedAutoImplicit false
set_option autoImplicit false

namespace Aoun

open AsyncSystem AsyncSystem.World StepSystem AppDelegate Utilities

/-! ## What the server makes of the two writes -/

/-- There is an account with this uid. -/
def HasAccount (uid : String) (s : SessionServer) : Prop :=
  ∃ a ∈ s.accounts, a.1.uid = uid

/-- Every document of `users` is one of an account. -/
def SessionServer.Owned (s : SessionServer) : Prop :=
  ∀ d ∈ s.users.docs, HasAccount d.uid s

/-- The documents after one was added. -/
lemma perm_addDocument {c c' : UsersCollection} {d : UserDoc} {position : ℕ}
    (h : c.addDocument d position = some c') : c'.docs.Perm (d :: c.docs) := by
  unfold UsersCollection.addDocument at h
  split_ifs at h
  obtain rfl := Option.some.inj h
  exact List.perm_insertIdx d c.docs (Nat.min_le_right position c.docs.length)

/-- The documents of an account after one was added. -/
lemma length_withUid_addDocument {c c' : UsersCollection} {d : UserDoc} {position : ℕ}
    (h : c.addDocument d position = some c') (uid : String) :
    (c'.withUid uid).length = (c.withUid uid).length + if d.uid = uid then 1 else 0 := by
  have hperm := (perm_addDocument h).filter fun d => d.uid = uid
  rw [UsersCollection.withUid, UsersCollection.withUid, hperm.length_eq, List.filter_cons]
  by_cases hu : d.uid = uid <;> simp [hu]

/-- What the server does: nothing, or a new account for a uid that had none, or a new
document. -/
lemma SessionServer.serve_cases (s : SessionServer) (q : SessionRequest) (e : SessionChoice) :
    ((s.serve q e).server = s ∧
        (∀ firstName lastName email password account,
          q = .createUser firstName lastName email password →
          (s.serve q e).answer ≠ .account account) ∧
        ∀ firstName lastName uid, q = .addDocument firstName lastName uid →
          (s.serve q e).answer ≠ .written) ∨
    (∃ firstName lastName email password, q = .createUser firstName lastName email password ∧
      ¬ HasAccount e.id s ∧
      s.serve q e = ⟨{ s with accounts := s.accounts ++ [(⟨e.id, email⟩, password)] },
        .account ⟨e.id, email⟩, []⟩) ∨
    ∃ firstName lastName uid users, q = .addDocument firstName lastName uid ∧
      s.users.addDocument ⟨e.id, uid, some firstName, some lastName, none⟩ e.position =
        some users ∧
      s.serve q e = ⟨{ s with users := users }, .written, []⟩ := by
  unfold serve
  cases he : e.outcome with
  | failure description => exact Or.inl ⟨rfl, by simp, by simp⟩
  | neither => exact Or.inl ⟨rfl, by simp, by simp⟩
  | success =>
    cases q with
    | createUser firstName lastName email password =>
      dsimp only
      split_ifs with hexists
      · exact Or.inl ⟨rfl, by simp, by simp⟩
      · refine Or.inr (Or.inl ⟨_, _, _, _, rfl, ?_, rfl⟩)
        rintro ⟨a, ha, huid⟩
        exact hexists ⟨a, ha, Or.inr huid⟩
    | addDocument firstName lastName uid =>
      dsimp only
      split
      · next users hadd => exact Or.inr (Or.inr ⟨_, _, _, users, rfl, hadd, rfl⟩)
      · exact Or.inl ⟨rfl, by simp, by simp⟩
    | signIn email password =>
      dsimp only
      split <;> exact Or.inl ⟨rfl, by simp, by simp⟩
    | updateToken uid fcmToken => exact Or.inl ⟨rfl, by simp, by simp⟩
    | updateData documentID fcmToken => exact Or.inl ⟨rfl, by simp, by simp⟩
    | getName uid => exact Or.inl ⟨rfl, by simp, by simp⟩

/-- The server deletes neither an account nor a document. -/
lemma SessionServer.serve_keeps (s : SessionServer) (q : SessionRequest) (e : SessionChoice) :
    (∀ uid, HasAccount uid s → HasAccount uid (s.serve q e).server) ∧
      ∀ d ∈ s.users.docs, d ∈ (s.serve q e).server.users.docs := by
  rcases s.serve_cases q e with ⟨heq, -⟩ | ⟨_, _, email, password, -, -, heq⟩ |
    ⟨_, _, _, users, -, hadd, heq⟩
  · rw [heq]
    exact ⟨fun _ h => h, fun _ h => h⟩
  · rw [heq]
    refine ⟨fun uid h => ?_, fun _ h => h⟩
    obtain ⟨a, ha, huid⟩ := h
    exact ⟨a, List.mem_append_left _ ha, huid⟩
  · rw [heq]
    refine ⟨fun _ h => h, fun d hd => ?_⟩
    exact (perm_addDocument hadd).mem_iff.mpr (List.mem_cons_of_mem _ hd)

/-! ## The uid is handed on -/

/-- A flight carries a uid: the answer with the new account, and the `addDocument` that was not
handled yet. -/
def carriesUid (uid : String) : SessionRequest → Option SessionAnswer → ℕ
  | .createUser _ _ _ _, some (.account account) => if account.uid = uid then 1 else 0
  | .addDocument _ _ uid', none => if uid' = uid then 1 else 0
  | _, _ => 0

/-- The documents of an account. -/
def keepsUid (uid : String) (s : SessionServer) : ℕ := (s.users.withUid uid).length

/-- The user asks for no document. -/
lemma ui_carries_nothing {app : AppDelegate} {u : SessionTap} {r : SessionReaction}
    (hr : app.ui u = some r) (uid : String) : ∀ q ∈ r.requests, carriesUid uid q none = 0 := by
  cases u with
  | didReceiveRegistrationToken fcmToken =>
    simp only [AppDelegate.ui, Option.ite_none_right_eq_some, Option.some.injEq] at hr
    rw [← hr.2]
    cases fcmToken with
    | none => simp
    | some token =>
      unfold updateToken
      cases app.currentUser <;> simp [carriesUid]
  | openProfile =>
    simp only [AppDelegate.ui, Option.ite_none_right_eq_some, Option.some.injEq] at hr
    rw [← hr.2, getName]
    cases app.currentUser <;> simp [carriesUid]
  | _ =>
    simp only [AppDelegate.ui, Option.ite_none_right_eq_some, Option.some.injEq] at hr
    obtain ⟨-, rfl⟩ := hr
    simp [carriesUid, AppDelegate.signOut, AppDelegate.openScreen]

/-- A callback asks for a document of the account that it was given. -/
lemma recv_hands_on (app : AppDelegate) (q : SessionRequest) (a : SessionAnswer) (uid : String) :
    total (fun q' => carriesUid uid q' none) (app.recv q a).requests ≤
      carriesUid uid q (some a) := by
  unfold AppDelegate.recv
  split_ifs
  · simp
  · unfold AppDelegate.callback
    split
    · simp [userCreated, carriesUid]
    · simp [signedIn]
    · unfold updateTokenFound
      split <;> simp [carriesUid]
    · unfold getNameFound
      split <;> simp
    · simp

/-- The server makes the uid of an account once, and a document in place of the request for it. -/
lemma serve_hands_on (s : SessionServer) (q : SessionRequest) (e : SessionChoice) (uid : String) :
    carriesUid uid q (some (s.serve q e).answer) + keepsUid uid (s.serve q e).server ≤
        carriesUid uid q none + keepsUid uid s ∨
      ¬ HasAccount uid s ∧ HasAccount uid (s.serve q e).server ∧
        carriesUid uid q (some (s.serve q e).answer) + keepsUid uid (s.serve q e).server ≤
          carriesUid uid q none + keepsUid uid s + 1 := by
  rcases s.serve_cases q e with ⟨heq, hno, -⟩ |
    ⟨firstName, lastName, email, password, rfl, hfresh, heq⟩ |
    ⟨firstName, lastName, uid', users, rfl, hadd, heq⟩
  · left
    rw [heq]
    have hnone : carriesUid uid q (some (s.serve q e).answer) = 0 := by
      unfold carriesUid
      split
      · next hanswer => exact absurd (Option.some.inj hanswer) (hno _ _ _ _ _ rfl)
      · next hanswer => cases hanswer
      · rfl
    omega
  · rw [heq]
    by_cases hid : e.id = uid
    · subst hid
      refine Or.inr ⟨hfresh, ⟨_, List.mem_append_right _ (List.mem_singleton_self _), rfl⟩, ?_⟩
      simp [carriesUid, keepsUid]
      omega
    · left
      simp [carriesUid, keepsUid, hid]
  · left
    rw [heq]
    have hlength := length_withUid_addDocument hadd uid
    simp only [carriesUid, keepsUid, hlength]
    omega

/-- The uid of an account is a baton. -/
lemma sessionSystem_batonRules (uid : String) :
    BatonRules sessionSystem (carriesUid uid) (keepsUid uid) (HasAccount uid) where
  boot := fun _ _ hq => by cases hq
  ui := fun _ _ _ hr => ui_carries_nothing hr uid
  recv := fun app q a _ => recv_hands_on app q a uid
  serve := fun s q e => serve_hands_on s q e uid
  made := fun s q e => (s.serve_keeps q e).1 uid

/-! ## Sign-up -/

/-- In the run the form was sent with these names, and the callback of client `i` received the
new account. -/
inductive SignedUp (h : List (SessionWorld × SessionEvent)) (i : ℕ) (firstName lastName : String)
    (account : Account) : Prop
  | intro {email password confirmPassword : String} {q : SessionRequest} {w : SessionWorld}
      {k : ℕ} {f : Flight SessionRequest SessionAnswer} {app : AppDelegate}
      (accepts : SignupViewController.signUptapped firstName lastName email password
        confirmPassword = .ok q)
      (delivered : (w, .deliver k ()) ∈ h) (flight : w.flights[k]? = some f)
      (owner : f.owner = i) (request : f.request = q) (answer : f.answer = some (.account account))
      (client : w.clients i = some app) (runs : app.trapped = false) :
      SignedUp h i firstName lastName account

/-- Client `i` shows the home screen to the account with which its user has signed up, and none
of its calls is pending. -/
structure HomeAfterSignUp (h : List (SessionWorld × SessionEvent)) (w : SessionWorld) (i : ℕ)
    (firstName lastName : String) (account : Account) : Prop where
  signedUp : SignedUp h i firstName lastName account
  home : ∃ app, w.clients i = some app ∧ app.root = some .userHome ∧
    app.currentUser = some account
  quiet : ∀ f ∈ w.flights, f.owner ≠ i

/-- The account has exactly one document, with the trimmed names, which are valid. -/
def Profiled (c : UsersCollection) (uid firstName lastName : String) : Prop :=
  isValidName (trimmed firstName) = true ∧ isValidName (trimmed lastName) = true ∧
    ∃ d, c.withUid uid = [d] ∧ d.FirstName = some (trimmed firstName) ∧
      d.LastName = some (trimmed lastName)

/-- The screens that take the first document of an account and those that take the last one
find the same. -/
lemma Profiled.lookups {c : UsersCollection} {uid firstName lastName : String}
    (h : Profiled c uid firstName lastName) :
    (c.withUid uid).head? = (c.withUid uid).getLast? := by
  obtain ⟨-, -, d, hd, -⟩ := h
  rw [hd]
  rfl

/-- Sign-up accepts names that are valid when they are trimmed. -/
lemma SignupViewController.names_of_ok {firstName lastName email password confirmPassword : String}
    {q : SessionRequest}
    (h : signUptapped firstName lastName email password confirmPassword = .ok q) :
    isValidName (trimmed firstName) = true ∧ isValidName (trimmed lastName) = true := by
  unfold signUptapped at h
  split at h
  · cases h
  · next hnone =>
    simp only [validateFields, check_eq_none] at hnone
    obtain ⟨-, -, -, -, -, -, -, hfirst, hlast, -⟩ := hnone
    exact ⟨by simpa using hfirst, by simpa using hlast⟩

section

variable {s : SessionServer} {h : List (SessionWorld × SessionEvent)} {w : SessionWorld} {i : ℕ}
  {firstName lastName uid : String} {account : Account}

/-- The accounts of the start are there in every state of every run. -/
lemma hasAccount_of_start (hr : sessionSystem.RunFrom s h w) (hs : HasAccount uid s) :
    HasAccount uid w.server :=
  hr.invariant hs fun _ _ _ hw hstep =>
    server_keeps (fun s q e => (s.serve_keeps q e).1 uid) hstep hw

/-- The account of an answer was new. -/
lemma not_hasAccount_of_created (hr : sessionSystem.RunFrom s h w) {email password : String}
    (ha : sessionSystem.Answered h i (.createUser firstName lastName email password)
      (.account account)) : ¬ HasAccount account.uid s := by
  obtain ⟨w₀, k, e, f, hmem, -, -, -, hanswer⟩ := ha
  obtain ⟨h₀, hr₀, -⟩ := hr.reached hmem
  intro hs
  have hthere := hasAccount_of_start hr₀ hs
  rcases w₀.server.serve_cases (.createUser firstName lastName email password) e with
    ⟨-, hno, -⟩ | ⟨_, _, _, _, -, hfresh, heq⟩ | ⟨_, _, _, _, hq, -⟩
  · exact hno _ _ _ _ _ rfl hanswer
  · change (w₀.server.serve _ _).answer = _ at hanswer
    rw [heq] at hanswer
    injection hanswer with hanswer
    subst hanswer
    exact hfresh hthere
  · cases hq

/-- An account that is new at the start of a run has no document there. -/
lemma keepsUid_start (hs : s.Owned) (hnew : ¬ HasAccount uid s) : keepsUid uid s = 0 := by
  refine List.length_eq_zero_iff.mpr (List.filter_eq_nil_iff.mpr fun d hd huid => hnew ?_)
  have howned := hs d hd
  rwa [of_decide_eq_true huid] at howned

/-- **Documents of accounts.** In every state of every run the documents are of accounts, if they
are at its start.

**Proof sketch.** Before an account is made its uid is nowhere: neither in flight nor in a
document. -/
theorem owned_of_run (hs : s.Owned) (hr : sessionSystem.RunFrom s h w) : w.server.Owned := by
  intro d hd
  by_contra hnot
  have hnew : ¬ HasAccount d.uid s := fun hthere => hnot (hasAccount_of_start hr hthere)
  have hzero := (batons_le_one (sessionSystem_batonRules d.uid) hr (keepsUid_start hs hnew)).2 hnot
  have hpos : 0 < keepsUid d.uid w.server :=
    List.length_pos_of_mem (UsersCollection.mem_withUid.mpr ⟨hd, rfl⟩)
  unfold batons at hzero
  omega

/-- **At most one document.** In every state of every run an account that was created in it has
at most one document, and none once its `addDocument` has failed.

**Proof sketch.** The uid is a baton (`sessionSystem_batonRules`), and an `addDocument` that
fails drops it. -/
theorem written_once (hs : s.Owned) (hr : sessionSystem.RunFrom s h w)
    (hnew : ¬ HasAccount uid s) :
    keepsUid uid w.server ≤ 1 ∧ ∀ i firstName lastName a,
      sessionSystem.Answered h i (.addDocument firstName lastName uid) a → a ≠ .written →
      keepsUid uid w.server = 0 := by
  have hrules := sessionSystem_batonRules uid
  have hstart := keepsUid_start hs hnew
  constructor
  · have hone := (batons_le_one hrules hr hstart).1
    unfold batons at hone
    omega
  · rintro i firstName lastName a ⟨w₀, k, e, f, hmem, hf, -, hq, hanswer⟩ hne
    have hdrop : ∀ w', sessionSystem.step w₀ (.serve k e) = some w' →
        batons (carriesUid uid) (keepsUid uid) w' <
          batons (carriesUid uid) (keepsUid uid) w₀ := by
      intro w' hstep
      cases took_of_step hstep with
      | @serve k e g flight unanswered =>
        obtain rfl : g = f := Option.some.inj (flight.symm.trans hf)
        have hhandle := batons_handle (carriesUid uid) (keepsUid uid) flight unanswered
          (sessionSystem.serve w₀.server g.request e)
        rw [hq] at hhandle ⊢
        rw [hanswer] at hhandle
        have hserver : (sessionSystem.serve w₀.server (.addDocument firstName lastName uid)
            e).server = w₀.server := by
          rcases w₀.server.serve_cases (.addDocument firstName lastName uid) e with
            ⟨heq, -⟩ | ⟨_, _, _, _, hq', -⟩ | ⟨_, _, _, _, -, -, heq⟩
          · exact heq
          · cases hq'
          · change (w₀.server.serve _ _).answer = _ at hanswer
            rw [heq] at hanswer
            exact absurd hanswer.symm hne
        rw [hserver] at hhandle
        have hbefore : carriesUid uid (.addDocument firstName lastName uid) none = 1 := if_pos rfl
        have hafter : carriesUid uid (.addDocument firstName lastName uid) (some a) = 0 := rfl
        omega
    have hzero := batons_eq_zero_of_drop hrules hr hstart hmem hdrop
    unfold batons at hzero
    omega

/-- **The document that was written.** In every state after the `addDocument` of an account has
succeeded, the account has a document with the names. -/
theorem document_of_written (hr : sessionSystem.RunFrom s h w)
    (ha : sessionSystem.Answered h i (.addDocument firstName lastName uid) .written) :
    ∃ d ∈ w.server.users.docs, d.uid = uid ∧ d.FirstName = some firstName ∧
      d.LastName = some lastName := by
  obtain ⟨w₀, k, e, f, hmem, hf, howner, hq, hanswer⟩ := ha
  induction hr with
  | nil => cases hmem
  | @snoc h w e' w' hr hs ih =>
    rcases List.mem_append.mp hmem with hmem | hmem
    · obtain ⟨d, hd, hdoc⟩ := ih hmem
      exact ⟨d, server_keeps (fun s q e hd => (s.serve_keeps q e).2 d hd) hs hd, hdoc⟩
    · obtain ⟨rfl, rfl⟩ := Prod.mk.inj (List.mem_singleton.mp hmem)
      cases took_of_step hs with
      | @serve k e g flight unanswered =>
        obtain rfl : g = f := Option.some.inj (flight.symm.trans hf)
        rw [hq]
        rcases w₀.server.serve_cases (.addDocument firstName lastName uid) e with
          ⟨-, -, hno⟩ | ⟨_, _, _, _, hq', -⟩ | ⟨_, _, _, users, hq', hadd, heq⟩
        · exact absurd hanswer (hno _ _ _ rfl)
        · cases hq'
        · injection hq' with hfirst hlast huid
          subst hfirst hlast huid
          refine ⟨⟨e.id, uid, some firstName, some lastName, none⟩, ?_, rfl, rfl, rfl⟩
          change _ ∈ (w₀.server.serve _ _).server.users.docs
          rw [heq]
          exact (perm_addDocument hadd).mem_iff.mpr List.mem_cons_self

/-- The callback of the new account has asked for its document. -/
lemma SignedUp.asked (hr : sessionSystem.RunFrom s h w)
    (hup : SignedUp h i firstName lastName account) :
    ¬ HasAccount account.uid s ∧
      ((∃ f ∈ w.flights, f.owner = i ∧
          f.request = .addDocument (trimmed firstName) (trimmed lastName) account.uid) ∨
        ∃ a, sessionSystem.Answered h i
          (.addDocument (trimmed firstName) (trimmed lastName) account.uid) a) := by
  obtain ⟨accepts, delivered, flight, rfl, rfl, answer, client, runs⟩ := hup
  obtain ⟨hq, -⟩ := SignupViewController.valid_of_ok accepts
  constructor
  · obtain ⟨h₀, hr₀, -⟩ := hr.reached delivered
    have hcreated := answered_of_flight hr₀ (mem_of_flight flight) answer
    rw [hq] at hcreated
    have hnew := not_hasAccount_of_created hr₀ hcreated
    exact hnew
  · refine issued_or_answered hr delivered ?_
    simp [issues, flight, answer, client, sessionSystem, AppDelegate.recv, runs, hq,
      AppDelegate.callback, userCreated]

/-- **When the account of a sign-up has its document.** In every state of every run, the account
with which the user of the home screen has signed up has exactly one document, with the
validated names, if and only if its `addDocument` has not failed.

**Proof sketch.** The call was issued, and since none is pending it was answered
(`SignedUp.asked`). If it was written, there is a document (`document_of_written`), and at most
one (`written_once`); if it has failed, there is none. -/
theorem profiled_iff (hs : s.Owned) (hr : sessionSystem.RunFrom s h w)
    (hhome : HomeAfterSignUp h w i firstName lastName account) :
    Profiled w.server.users account.uid firstName lastName ↔
      ∀ a, sessionSystem.Answered h i
        (.addDocument (trimmed firstName) (trimmed lastName) account.uid) a → a = .written := by
  obtain ⟨hnew, hasked⟩ := hhome.signedUp.asked hr
  obtain ⟨hone, hfailed⟩ := written_once hs hr hnew
  constructor
  · rintro ⟨-, -, d, hd, -⟩ a ha
    by_contra hne
    have hzero := hfailed _ _ _ a ha hne
    rw [keepsUid, hd] at hzero
    cases hzero
  · intro hwritten
    obtain ⟨a, ha⟩ := hasked.resolve_left fun ⟨f, hf, howner, _⟩ => hhome.quiet f hf howner
    obtain rfl := hwritten a ha
    obtain ⟨d, hd, huid, hfirst, hlast⟩ := document_of_written hr ha
    obtain ⟨accepts, -⟩ := hhome.signedUp
    obtain ⟨hvalidFirst, hvalidLast⟩ := SignupViewController.names_of_ok accepts
    refine ⟨hvalidFirst, hvalidLast, d, ?_, hfirst, hlast⟩
    have hmem : d ∈ w.server.users.withUid account.uid :=
      UsersCollection.mem_withUid.mpr ⟨hd, huid⟩
    rw [keepsUid] at hone
    match hl : w.server.users.withUid account.uid, hmem, hone with
    | [d'], hmem, _ => rw [List.mem_singleton.mp hmem]

end

/-- The account that the service gives Sara. -/
def sara : Account := ⟨"sara", "sara@aoun.com"⟩

/-- Sara signs up, and her account is made. -/
def saraSignsUp : List SessionEvent :=
  [.boot 0 none, .ui 0 .afterDelay, .ui 0 (.signUptapped "Sara" "Ali" "sara@aoun.com" "passw0rd!"),
    .serve 0 ⟨.success, "sara", 0⟩]

/-- Sara is at home, her `addDocument` has ended with `outcome`, and `documents` are hers. -/
lemma sara_signed_up {outcome : Outcome} {documents : List UserDoc}
    (he : (exec sessionSystem.step (start sessionServer) (saraSignsUp ++
        [.deliver 0 (), .serve 0 ⟨outcome, "c", 0⟩, .deliver 0 ()])).map (fun w =>
      ((w.clients 0).map fun app => (app.root, app.currentUser), w.flights.length,
        w.server.users.withUid "sara")) =
      some (some (some .userHome, some sara), 0, documents)) :
    ∃ h w, sessionSystem.RunFrom sessionServer h w ∧ HomeAfterSignUp h w 0 "Sara" "Ali" sara ∧
      w.server.users.withUid "sara" = documents := by
  have haccepts : SignupViewController.signUptapped "Sara" "Ali" "sara@aoun.com" "passw0rd!"
      "passw0rd!" = .ok (.createUser "Sara" "Ali" "sara@aoun.com" "passw0rd!") := by
    decide +kernel
  have hcreated : (exec sessionSystem.step (start sessionServer) saraSignsUp).map (fun w =>
      (w.flights[0]?.map fun f => (f.owner, f.request, f.answer),
        (w.clients 0).map (·.trapped))) =
      some (some (0, .createUser "Sara" "Ali" "sara@aoun.com" "passw0rd!",
        some (.account sara)), some false) := by decide +kernel
  obtain ⟨w₁, h₁, hw₁⟩ := Option.map_eq_some_iff.mp hcreated
  rw [exec_append, h₁, Option.bind_some] at he
  obtain ⟨w, h₂, hw⟩ := Option.map_eq_some_iff.mp he
  obtain ⟨w₂, hs, h₃⟩ := Option.bind_eq_some_iff.mp h₂
  simp only [Prod.mk.injEq, Option.map_eq_some_iff] at hw₁ hw
  obtain ⟨⟨f, hf, howner, hq, ha⟩, app₁, hi₁, hruns⟩ := hw₁
  obtain ⟨⟨app, hi, hroot, hcu⟩, hquiet, hdocs⟩ := hw
  obtain ⟨h, hr, -⟩ := run_of_exec h₁
  obtain ⟨h', hr', -⟩ := (hr.snoc hs).exec h₃
  refine ⟨_, w, hr', ⟨?_, ⟨app, hi, hroot, hcu⟩, ?_⟩, hdocs⟩
  · exact .intro haccepts (List.mem_append_left _ (List.mem_append_right _
      (List.mem_singleton_self _))) hf howner hq ha hi₁ hruns
  · rw [List.length_eq_zero_iff.mp hquiet]
    simp

/-- Alice's and Bob's documents are theirs. -/
lemma sessionServer_owned : sessionServer.Owned := by
  intro d hd
  simp only [sessionServer, List.mem_cons, List.not_mem_nil, or_false] at hd
  rcases hd with rfl | rfl <;> simp [HasAccount, sessionServer]

/-- Sara's document is written. -/
theorem profiled_sara : ∃ h w, sessionSystem.RunFrom sessionServer h w ∧
    w.server.users.withUid "sara" = [⟨"c", "sara", some "Sara", some "Ali", none⟩] ∧
    (Profiled w.server.users "sara" "Sara" "Ali" ↔
      ∀ a, sessionSystem.Answered h 0 (.addDocument (trimmed "Sara") (trimmed "Ali") "sara") a →
        a = .written) := by
  have he : (exec sessionSystem.step (start sessionServer) (saraSignsUp ++
      [.deliver 0 (), .serve 0 ⟨.success, "c", 0⟩, .deliver 0 ()])).map (fun w =>
      ((w.clients 0).map fun app => (app.root, app.currentUser), w.flights.length,
        w.server.users.withUid "sara")) =
      some (some (some .userHome, some sara), 0,
        [⟨"c", "sara", some "Sara", some "Ali", none⟩]) := by decide +kernel
  obtain ⟨h, w, hr, hhome, hdocs⟩ := sara_signed_up he
  exact ⟨h, w, hr, hdocs, profiled_iff sessionServer_owned hr hhome⟩

/-- Sara's document is not written, and she is at home without one. -/
theorem account_without_document : ∃ h w, sessionServer.Owned ∧
    sessionSystem.RunFrom sessionServer h w ∧ HomeAfterSignUp h w 0 "Sara" "Ali" sara ∧
    ¬ Profiled w.server.users sara.uid "Sara" "Ali" := by
  have he : (exec sessionSystem.step (start sessionServer) (saraSignsUp ++
      [.deliver 0 (), .serve 0 ⟨.failure "offline", "c", 0⟩, .deliver 0 ()])).map (fun w =>
      ((w.clients 0).map fun app => (app.root, app.currentUser), w.flights.length,
        w.server.users.withUid "sara")) =
      some (some (some .userHome, some sara), 0, []) := by decide +kernel
  obtain ⟨h, w, hr, hhome, hdocs⟩ := sara_signed_up he
  refine ⟨h, w, sessionServer_owned, hr, hhome, ?_⟩
  rintro ⟨-, -, d, hd, -⟩
  have hnone : w.server.users.withUid sara.uid = [] := hdocs
  rw [hnone] at hd
  cases hd

end Aoun

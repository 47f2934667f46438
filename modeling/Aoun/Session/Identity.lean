import Aoun.Session.App

/-!
# Whose user the app holds

`thisUser` names the account for which the last users query was answered with a document,
from the first such answer to `updateToken(fcmToken:)` on: before that one, the answer to
`getName(completion:)` is not taken over. Nothing ties this account to the one that is signed
in when a screen reads `thisUser`.

## Main definitions

* `Aoun.lastAnswer` — the account of the last answer that was taken over.
* `Aoun.KnowsUser` — a screen that is opened finds the signed-in user.

## Main results

* `Aoun.sessionSystem_thisUser` — `thisUser` names the account of the last answer.
* `Aoun.knows_user_iff` — when the screens find the signed-in user.
-/

set_option relaxedAutoImplicit false
set_option autoImplicit false

namespace Aoun

open AsyncSystem AsyncSystem.World StepSystem AppDelegate

/-- The account that an answer with a document was for; `true` for the query of
`updateToken(fcmToken:)`. -/
def SessionEffect.answer : SessionEffect → Option (Bool × String)
  | .tokenAnswered uid => some (true, uid)
  | .nameAnswered uid => some (false, uid)
  | .opened _ _ => none

/-- The account of the last answer with a document, of the answers from the first one to
`updateToken(fcmToken:)` on. -/
def lastAnswer (t : List SessionEffect) : Option String :=
  ((t.filterMap SessionEffect.answer).dropWhile fun a => !a.1).getLast?.map (·.2)

lemma lastAnswer_nil : lastAnswer [] = none := rfl

/-- An answer to `updateToken(fcmToken:)` counts. -/
lemma lastAnswer_token (t : List SessionEffect) (uid : String) :
    lastAnswer (t ++ [.tokenAnswered uid]) = some uid := by
  unfold lastAnswer
  rw [List.filterMap_append, List.dropWhile_append]
  split_ifs <;> simp [SessionEffect.answer]

/-- An answer to `getName(completion:)` counts if one has counted before. -/
lemma lastAnswer_name (t : List SessionEffect) (uid : String) :
    lastAnswer (t ++ [.nameAnswered uid]) = (lastAnswer t).map fun _ => uid := by
  unfold lastAnswer
  rw [List.filterMap_append, List.dropWhile_append]
  split_ifs with hempty
  · rw [List.isEmpty_iff.mp hempty]
    simp [SessionEffect.answer]
  · cases hlast : ((t.filterMap SessionEffect.answer).dropWhile fun a => !a.1).getLast? with
    | none => exact absurd (List.isEmpty_iff.mpr (List.getLast?_eq_none_iff.mp hlast)) hempty
    | some a => simp [SessionEffect.answer]

/-- Opening a screen is no answer. -/
lemma lastAnswer_opened (t : List SessionEffect) (screen : SessionScreen)
    (thisUser : Option User) : lastAnswer (t ++ [.opened screen thisUser]) = lastAnswer t := by
  have hnone : [SessionEffect.opened screen thisUser].filterMap SessionEffect.answer = [] := rfl
  rw [lastAnswer, List.filterMap_append, hnone, List.append_nil]
  rfl

/-- `thisUser` names the account of the last answer. -/
def Named (app : AppDelegate) (t : List SessionEffect) : Prop :=
  app.thisUser.map (·.uid) = lastAnswer t

/-- The reaction keeps the name; the requests are free. -/
abbrev KeepsNamed (r : SessionReaction) (t : List SessionEffect) : Prop :=
  Keeps Named (fun _ _ => True) r t

section

variable {app app' : AppDelegate} {t : List SessionEffect}

/-- A reaction that leaves `thisUser` alone, without effects. -/
lemma Named.still (h : Named app t) {r : SessionReaction}
    (hu : r.client.thisUser = app.thisUser) (he : r.effects = []) : KeepsNamed r t := by
  refine ⟨?_, fun _ _ => trivial⟩
  rw [Named, hu, he, List.append_nil]
  exact h

lemma updateTokenFound_keeps (h : Named app t) (uid fcmToken : String)
    (documents : List UserDoc) : KeepsNamed (app.updateTokenFound uid fcmToken documents) t := by
  unfold updateTokenFound
  cases documents.head? with
  | none => exact h.still rfl rfl
  | some user => exact ⟨(lastAnswer_token t uid).symm, fun _ _ => trivial⟩

lemma getNameFound_keeps (h : Named app t) (uid : String) (documents : List UserDoc) :
    KeepsNamed (app.getNameFound uid documents) t := by
  unfold getNameFound
  cases documents.getLast? with
  | none => exact h.still rfl rfl
  | some userData =>
    refine ⟨?_, fun _ _ => trivial⟩
    rw [Named, lastAnswer_name, ← h]
    cases hu : app.thisUser <;> simp [hu]

lemma openScreen_keeps (h : Named app t) (screen : SessionScreen) :
    KeepsNamed (app.openScreen screen) t := by
  refine ⟨?_, fun _ _ => trivial⟩
  rw [Named, openScreen, lastAnswer_opened]
  exact h

lemma ui_keeps_named (h : Named app t) {u : SessionTap} {r : SessionReaction}
    (hr : app.ui u = some r) : KeepsNamed r t := by
  cases u with
  | didReceiveRegistrationToken fcmToken =>
    simp only [AppDelegate.ui, Option.ite_none_right_eq_some, Option.some.injEq] at hr
    rw [← hr.2]
    cases fcmToken with
    | none => exact h.still rfl rfl
    | some token =>
      unfold updateToken
      cases app.currentUser <;> exact h.still rfl rfl
  | openProfile =>
    simp only [AppDelegate.ui, Option.ite_none_right_eq_some, Option.some.injEq] at hr
    rw [← hr.2, getName]
    cases app.currentUser <;> exact h.still rfl rfl
  | openScreen screen =>
    simp only [AppDelegate.ui, Option.ite_none_right_eq_some, Option.some.injEq] at hr
    exact hr.2 ▸ openScreen_keeps h screen
  | signOut throws =>
    simp only [AppDelegate.ui, Option.ite_none_right_eq_some, Option.some.injEq] at hr
    rw [← hr.2]
    cases throws <;> exact h.still rfl rfl
  | _ =>
    simp only [AppDelegate.ui, Option.ite_none_right_eq_some, Option.some.injEq] at hr
    exact hr.2 ▸ h.still rfl rfl

lemma recv_keeps_named (h : Named app t) (q : SessionRequest) (a : SessionAnswer) :
    KeepsNamed (app.recv q a) t := by
  unfold AppDelegate.recv
  split_ifs
  · exact h.still rfl rfl
  · unfold AppDelegate.callback
    split
    · exact h.still rfl rfl
    · exact h.still rfl rfl
    · exact updateTokenFound_keeps h _ _ _
    · exact getNameFound_keeps h _ _
    · exact h.still rfl rfl

end

/-- The launches satisfy the conditions of the client rule. -/
lemma sessionSystem_rules : ClientRules sessionSystem (fun _ => False) (fun _ => True)
    (fun _ => Named) (fun _ _ => True) (fun _ _ _ => True) where
  boot := fun _ _ _ => ⟨lastAnswer_nil.symm, fun _ _ => trivial⟩
  ui := fun _ _ _ _ _ _ h hr => ⟨ui_keeps_named h hr, fun _ _ => trivial⟩
  serve := by
    refine fun s q e _ _ _ => ⟨trivial, trivial, fun t h => ?_⟩
    rw [show (sessionSystem.serve s q e).effects = [] from s.serve_effects q e, List.append_nil]
    exact h
  others := fun _ _ _ _ _ _ => ⟨fun _ _ h => h, fun _ _ h => h⟩
  recv := fun _ _ _ q a _ _ h _ _ => ⟨recv_keeps_named h q a, fun _ _ _ => trivial⟩

variable {s : SessionServer} {h : List (SessionWorld × SessionEvent)} {w : SessionWorld}

/-- In every state of every run `thisUser` names the account of the last answer. -/
theorem sessionSystem_thisUser (hr : sessionSystem.RunFrom s h w) {i : ℕ} {app : AppDelegate}
    (hi : w.clients i = some app) : app.thisUser.map (·.uid) = lastAnswer (w.effectsOf i) :=
  (client_invariant exclusiveRules_false sessionSystem_rules trivial hr).client i app hi

/-- A screen that reads `thisUser`, opened by a user who is signed in and not the
administrator, finds that user. -/
def KnowsUser (w : SessionWorld) (e : SessionEvent) : Prop :=
  ∀ i screen app cu, e = .ui i (.openScreen screen) → w.clients i = some app →
    app.currentUser = some cu → cu.email ≠ adminEmail →
    ∃ user, app.thisUser = some user ∧ user.uid = cu.uid

/-- When such a screen is opened, the last answer with a document, of those from the first one
to `updateToken(fcmToken:)` on, was to a query for the account signed in. -/
def AnsweredForUser (w : SessionWorld) (e : SessionEvent) : Prop :=
  ∀ i screen app cu, e = .ui i (.openScreen screen) → w.clients i = some app →
    app.currentUser = some cu → cu.email ≠ adminEmail →
    lastAnswer (w.effectsOf i) = some cu.uid

/-- **When the screens know the user.** In a run every screen that is opened finds the
signed-in user if and only if each time the last answer taken over was for that account.

**Proof sketch.** `thisUser` names the account of the last answer (`sessionSystem_thisUser`)
in every state in which a screen can be opened. -/
theorem knows_user_iff (hr : sessionSystem.RunFrom s h w) :
    EveryStep KnowsUser h ↔ EveryStep AnsweredForUser h := by
  refine forall_congr' fun p => forall_congr' fun hp => ?_
  obtain ⟨h', hr', -⟩ := hr.reached hp
  refine forall_congr' fun i => forall_congr' fun screen => forall_congr' fun app =>
    forall_congr' fun cu => forall_congr' fun _ => forall_congr' fun hi =>
    forall_congr' fun _ => forall_congr' fun _ => ?_
  rw [← sessionSystem_thisUser hr' hi, Option.map_eq_some_iff]

/-- A server with Alice's and Bob's accounts and documents. -/
def sessionServer : SessionServer where
  accounts := [(⟨"alice", "alice@aoun.com"⟩, "123456"), (⟨"bob", "bob@aoun.com"⟩, "654321")]
  users :=
    { docs := [⟨"a", "alice", some "Alice", some "A", none⟩,
        ⟨"b", "bob", some "Bob", some "B", none⟩]
      nodup := by decide }

/-- Alice launches the app signed in, her document is found, and she opens a chat. -/
theorem knows_user_alice : ∃ h w, sessionSystem.RunFrom sessionServer h w ∧
    w.effectsOf 0 = [.tokenAnswered "alice",
      .opened .ChatViewController (some ⟨"Alice", "A", "alice", some "a"⟩)] ∧
    (EveryStep KnowsUser h ↔ EveryStep AnsweredForUser h) := by
  have he : (exec sessionSystem.step (start sessionServer)
      [.boot 0 (some ⟨"alice", "alice@aoun.com"⟩),
        .ui 0 (.didReceiveRegistrationToken (some "token")), .serve 0 ⟨.success, "", 0⟩,
        .deliver 0 (), .ui 0 .afterDelay, .ui 0 (.openScreen .ChatViewController)]).map
      (fun w => w.effectsOf 0) = some [.tokenAnswered "alice",
        .opened .ChatViewController (some ⟨"Alice", "A", "alice", some "a"⟩)] := by decide +kernel
  obtain ⟨h, w, hr, -, hw⟩ := run_of_observed he
  exact ⟨h, w, hr, hw, knows_user_iff hr⟩

/-- Bob launches the app and signs out. Alice signs in, and the chat that she opens is Bob's. -/
theorem chat_as_another : ∃ h w, sessionSystem.RunFrom sessionServer h w ∧
    ¬ EveryStep KnowsUser h := by
  let alice : Account := ⟨"alice", "alice@aoun.com"⟩
  let chat : SessionEvent := .ui 0 (.openScreen .ChatViewController)
  have he : (exec sessionSystem.step (start sessionServer)
      [.boot 0 (some ⟨"bob", "bob@aoun.com"⟩),
        .ui 0 (.didReceiveRegistrationToken (some "token")), .serve 0 ⟨.success, "", 0⟩,
        .deliver 0 (), .ui 0 .afterDelay, .ui 0 (.signOut false),
        .ui 0 (.loginTapped "alice@aoun.com" "123456"), .serve 1 ⟨.success, "", 0⟩,
        .deliver 1 ()]).map (fun w => ((sessionSystem.step w chat).isSome,
          (w.clients 0).map fun app => (app.currentUser, app.thisUser.map (·.uid)))) =
      some (true, some (some alice, some "bob")) := by decide +kernel
  obtain ⟨h, w, hr, -, hw⟩ := run_of_observed he
  obtain ⟨hopen, hclient⟩ := Prod.mk.inj hw
  obtain ⟨w', hs⟩ := Option.isSome_iff_exists.mp hopen
  obtain ⟨app, hi, happ⟩ := Option.map_eq_some_iff.mp hclient
  obtain ⟨hcu, huser⟩ := Prod.mk.inj happ
  refine ⟨_, w', hr.snoc hs, fun hall => ?_⟩
  obtain ⟨user, hu, huid⟩ := ((everyStep_snoc ..).mp hall).2 0 _ app alice rfl hi hcu (by decide)
  rw [hu, Option.map_some, huid] at huser
  exact absurd (Option.some.inj huser) (by decide)

end Aoun

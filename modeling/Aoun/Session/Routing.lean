import Aoun.Session.Wellformed

/-!
# Which screens are shown to whom

`setRoot()` shows the landing screens to nobody, the dashboard to the administrator, and the home
screens to everybody else. It is called when somebody signs in, up or out; but the account also
changes where it is not called. `ChangePasswordVC` signs in again, and its answer may come when the
user has signed out in the meantime; and `VCEditProfile` changes the email address, by which the
administrator is known.

## Main definitions

* `Aoun.rootFor` — the screens for an account.
* `Aoun.AppDelegate.Matches` — the screens that are shown are those for the account.
* `Aoun.SettingsApp.Fits` — an answer is to an app that shows the screens for its account.

## Main results

* `Aoun.root_matches_iff` — when the screens are those for the account.
-/

set_option relaxedAutoImplicit false
set_option autoImplicit false

namespace Aoun

open AsyncSystem AsyncSystem.World StepSystem

/-- The screens for an account, or for nobody. -/
def rootFor : Option Account → SessionRoot
  | some cu => if cu.email = adminEmail then .adminDashboard else .userHome
  | none => .landing

namespace AppDelegate

/-- The screens that are shown, if any are, are those for the account that is signed in. -/
def Matches (app : AppDelegate) : Prop := ∀ r, app.root = some r → r = rootFor app.currentUser

variable {app : AppDelegate}

/-- `setRoot()` shows the screens for the account. -/
lemma matches_setRoot (app : AppDelegate) : app.setRoot.Matches := by
  intro r hr
  rw [← Option.some.inj hr]
  cases hcu : app.currentUser <;> simp [rootFor, setRoot, hcu]

/-- What changes neither the screens nor the account. -/
lemma Matches.of_eq {app' : AppDelegate} (h : app.Matches) (hroot : app'.root = app.root)
    (hcurrent : app'.currentUser = app.currentUser) : app'.Matches := by
  intro r hr
  rw [hcurrent]
  exact h r (hroot ▸ hr)

/-- A tap that comes from no form keeps the screens those for the account. -/
lemma Matches.ui (h : app.Matches) {u : SessionTap} {r : SessionReaction}
    (hr : app.ui u = some r) : r.client.Matches := by
  cases u with
  | afterDelay =>
    simp only [AppDelegate.ui, Option.ite_none_right_eq_some, Option.some.injEq] at hr
    rw [← hr.2]
    exact (matches_setRoot app).of_eq rfl rfl
  | signOut throws =>
    simp only [AppDelegate.ui, Option.ite_none_right_eq_some, Option.some.injEq] at hr
    rw [← hr.2]
    cases throws
    · exact matches_setRoot _
    · exact h
  | didReceiveRegistrationToken fcmToken =>
    simp only [AppDelegate.ui, Option.ite_none_right_eq_some, Option.some.injEq] at hr
    rw [← hr.2]
    cases fcmToken with
    | none => exact h
    | some token =>
      unfold updateToken
      cases app.currentUser <;> exact h
  | openProfile =>
    simp only [AppDelegate.ui, Option.ite_none_right_eq_some, Option.some.injEq] at hr
    rw [← hr.2]
    unfold getName
    cases app.currentUser <;> exact h
  | openScreen screen =>
    simp only [AppDelegate.ui, Option.ite_none_right_eq_some, Option.some.injEq] at hr
    rw [← hr.2]
    exact h.of_eq rfl rfl
  | _ =>
    simp only [AppDelegate.ui, Option.ite_none_right_eq_some, Option.some.injEq] at hr
    rw [← hr.2]
    exact h

/-- So does an answer to a request that comes from no form. -/
lemma Matches.callback (h : app.Matches) (q : SessionRequest) (a : SessionAnswer) :
    (app.callback q a).client.Matches := by
  unfold AppDelegate.callback
  split
  · exact matches_setRoot _
  · exact matches_setRoot _
  · unfold updateTokenFound
    split
    · exact h
    · exact h.of_eq rfl rfl
  · unfold getNameFound
    split
    · exact h
    · dsimp only
      split_ifs
      · exact h.of_eq rfl rfl
      · exact h
  · exact h

end AppDelegate

namespace SettingsApp

variable {vc : SettingsApp}

/-- The answer is to an app that shows the screens for the account that it brings: the account of a
new sign-in, or the one that is signed in, with its new email address. -/
def Fits (vc : SettingsApp) : SettingsRequest → SessionAnswer → Prop
  | .reauthenticate _ _ _, .account account =>
    vc.app.trapped = false → ∀ r, vc.app.root = some r → r = rootFor (some account)
  | .updateEmail uid newEmail, .written =>
    vc.app.trapped = false → ∀ cu, vc.app.currentUser = some cu → cu.uid = uid →
      ∀ r, vc.app.root = some r → r = rootFor (some { cu with email := newEmail })
  | _, _ => True

/-- A tap keeps the screens those for the account. -/
lemma matches_ui (h : vc.app.Matches) {u : SettingsTap} {r : SettingsReaction}
    (hr : vc.ui u = some r) : r.client.app.Matches := by
  cases u with
  | app u =>
    simp only [SettingsApp.ui, Option.ite_none_right_eq_some, Option.map_eq_some_iff] at hr
    obtain ⟨-, r, hr, rfl⟩ := hr
    split_ifs <;> exact h.ui hr
  | signUptapped firstName lastName email password confirmPassword =>
    simp only [SettingsApp.ui] at hr
    split at hr
    · obtain ⟨r₀, hr₀, rfl⟩ := Option.map_eq_some_iff.mp hr
      exact h.ui hr₀
    · simp only [Option.ite_none_right_eq_some, Option.some.injEq] at hr
      rw [← hr.2]
      exact h
  | logintapped email password =>
    simp only [SettingsApp.ui] at hr
    split at hr
    · obtain ⟨r₀, hr₀, rfl⟩ := Option.map_eq_some_iff.mp hr
      exact h.ui hr₀
    · simp only [Option.ite_none_right_eq_some, Option.some.injEq] at hr
      rw [← hr.2]
      exact h
  | saveTapped =>
    simp only [SettingsApp.ui, Option.ite_none_right_eq_some, Option.map_eq_some_iff] at hr
    obtain ⟨-, form, -, rfl⟩ := hr
    exact h
  | changePassword =>
    simp only [SettingsApp.ui, Option.ite_none_right_eq_some, Option.map_eq_some_iff] at hr
    obtain ⟨-, form, -, rfl⟩ := hr
    exact h
  | _ =>
    simp only [SettingsApp.ui, Option.ite_none_right_eq_some, Option.map_eq_some_iff] at hr
    obtain ⟨-, vc', hvc', rfl⟩ := hr
    obtain ⟨hroot, hcurrent⟩ := edits_app hvc'
    exact h.of_eq hroot hcurrent

/-- A new email address keeps them so exactly when it fits. -/
lemma matches_emailUpdated_iff (h : vc.app.Matches) (hruns : vc.app.trapped = false)
    (uid newEmail : String) :
    (vc.emailUpdated uid newEmail).app.Matches ↔ vc.Fits (.updateEmail uid newEmail) .written := by
  cases hcu : vc.app.currentUser with
  | none =>
    refine iff_of_true (h.of_eq rfl ?_) fun _ cu hcu' => ?_
    · simp [emailUpdated, hcu]
    · rw [hcu] at hcu'
      cases hcu'
  | some cu =>
    by_cases huid : cu.uid = uid
    · have hcurrent : (vc.emailUpdated uid newEmail).app.currentUser =
          some { cu with email := newEmail } := by simp [emailUpdated, hcu, huid]
      constructor
      · intro hm _ cu' hcu' _ r hr
        obtain rfl : cu = cu' := Option.some.inj (hcu.symm.trans hcu')
        rw [← hcurrent]
        exact hm r hr
      · intro hf r hr
        rw [hcurrent]
        exact hf hruns cu hcu huid r hr
    · refine iff_of_true (h.of_eq rfl ?_) fun _ cu' hcu' huid' => ?_
      · simp [emailUpdated, hcu, huid]
      · obtain rfl : cu = cu' := Option.some.inj (hcu.symm.trans hcu')
        exact absurd huid' huid

/-- An answer keeps them so exactly when it fits. -/
lemma matches_recv_iff (h : vc.app.Matches) (q : SettingsRequest) (a : SessionAnswer) :
    (vc.recv q a).client.app.Matches ↔ vc.Fits q a := by
  by_cases htrapped : vc.app.trapped = true
  · -- a program that has stopped does nothing
    have hclient : (vc.recv q a).client = vc := by rw [SettingsApp.recv, if_pos htrapped]; rfl
    rw [hclient]
    refine iff_of_true h ?_
    unfold Fits
    split
    · intro hruns
      exact absurd htrapped (by simp [hruns])
    · intro hruns
      exact absurd htrapped (by simp [hruns])
    · trivial
  have hruns : vc.app.trapped = false := by simpa using htrapped
  have hrecv : vc.recv q a = vc.callback q a := by rw [SettingsApp.recv, if_neg htrapped]
  rw [hrecv]
  unfold callback
  split
  · exact iff_of_true (AppDelegate.matches_setRoot _) trivial
  · exact iff_of_true (AppDelegate.matches_setRoot _) trivial
  · exact iff_of_true (h.callback _ _) trivial
  · next email currentPassword password =>
    unfold reauthenticated
    split
    · exact ⟨fun hm _ => hm, fun hf => hf hruns⟩
    · exact iff_of_true (h.of_eq rfl rfl) trivial
    · exact iff_of_true (h.of_eq rfl rfl) trivial
    · next haccount _ _ =>
      refine iff_of_true h ?_
      unfold Fits
      split
      · exact absurd rfl (haccount _)
      · trivial
      · trivial
  · exact iff_of_true (h.of_eq rfl rfl) trivial
  · exact iff_of_true h trivial
  · next uid newEmail => exact matches_emailUpdated_iff h hruns uid newEmail
  · unfold userFound
    split
    · exact iff_of_true h trivial
    · exact iff_of_true h trivial
  · exact iff_of_true h trivial
  · next haccount _ _ _ _ hemail _ _ =>
    refine iff_of_true h ?_
    unfold Fits
    split
    · exact (haccount _ _ _ rfl).elim
    · exact (hemail _ _ rfl rfl).elim
    · trivial

end SettingsApp

/-! ## The system -/

/-- Every app shows the screens for the account that is signed in to it. -/
def AllMatch (w : SettingsWorld) : Prop := ∀ i vc, w.clients i = some vc → vc.app.Matches

/-- An answer that arrives is to an app that shows the screens for the account it brings. -/
def AnswerFits (w : SettingsWorld) (e : SettingsEvent) : Prop :=
  ∀ k f a vc, e = .deliver k () → w.flights[k]? = some f → f.answer = some a →
    w.clients f.owner = some vc → vc.Fits f.request a

/-- What a reaction of one app does to all of them. -/
lemma allMatch_react_iff {w v : SettingsWorld} (h : AllMatch w) (hv : v.clients = w.clients)
    (i root : ℕ) (r : SettingsReaction) :
    AllMatch (v.react i root r) ↔ r.client.app.Matches := by
  constructor
  · intro hall
    exact hall i r.client (react_clients_self v i root r)
  · intro hm j vc hj
    by_cases hji : j = i
    · subst hji
      rw [react_clients_self] at hj
      obtain rfl := Option.some.inj hj
      exact hm
    · rw [react_clients_of_ne _ _ _ hji, hv] at hj
      exact h j vc hj

/-- A step keeps the screens those for the accounts exactly when the answer that it delivers
fits. -/
lemma allMatch_step_iff {w w' : SettingsWorld} {e : SettingsEvent} (h : AllMatch w)
    (hs : settingsSystem.step w e = some w') : AllMatch w' ↔ AnswerFits w e := by
  cases took_of_step hs with
  | @boot i a free =>
    refine iff_of_true ((allMatch_react_iff h rfl i w.next _).mpr ?_) (by rintro _ _ _ _ ⟨⟩)
    intro r hr
    cases hr
  | @ui i u vc r client reacts =>
    refine iff_of_true ((allMatch_react_iff h rfl i w.next r).mpr ?_) (by rintro _ _ _ _ ⟨⟩)
    exact SettingsApp.matches_ui (h i vc client) reacts
  | serve flight unanswered => exact iff_of_true h (by rintro _ _ _ _ ⟨⟩)
  | @deliver k x f a vc flight answered client =>
    have hm := h f.owner vc client
    refine (allMatch_react_iff h rfl f.owner f.root _).trans
      ((SettingsApp.matches_recv_iff hm f.request a).trans ⟨?_, fun hf => hf k f a vc rfl flight
        answered client⟩)
    rintro hfits k' f' a' vc' hk hflight hanswer hclient
    obtain ⟨rfl, -⟩ := Event.deliver.inj hk
    obtain rfl := Option.some.inj (flight.symm.trans hflight)
    obtain rfl := Option.some.inj (answered.symm.trans hanswer)
    obtain rfl := Option.some.inj (client.symm.trans hclient)
    exact hfits

variable {s : SessionServer} {h : List (SettingsWorld × SettingsEvent)} {w : SettingsWorld}

/-- **When the screens are those for the account.** In a run every app shows, at all times, the
screens for the account that is signed in to it, if and only if each answer to the sign-in of
`ChangePasswordVC` arrives where the screens for that account are shown, and each new email address
is one for which the screens stay the same.

**Proof sketch.** Whatever else changes the account ends with `setRoot()` (`matches_ui`,
`matches_recv_iff`). -/
theorem root_matches_iff (hr : settingsSystem.RunFrom s h w) :
    Throughout AllMatch h w ↔ EveryStep AnswerFits h := by
  have hexact := hr.throughout_iff_everyStep (P := AllMatch) (G := AnswerFits)
    fun _ _ _ _ _ hall hs => allMatch_step_iff hall hs
  have hstart : AllMatch (start s) := by
    intro i vc hi
    cases hi
  rw [hexact]
  exact ⟨fun h => h.2, fun h => ⟨hstart, h⟩⟩

/-- Alice opens the form for her password, and asks for another one. -/
def aliceAsks : List SettingsEvent :=
  aliceEdits ++ [.ui 0 .openChangePassword, .ui 0 (.fillIn "passw0rd!" "n3wpass!!" "n3wpass!!"),
    .ui 0 .changePassword, .serve 0 ⟨.success, "", 0⟩]

/-- Alice stays at home until the answer arrives. -/
theorem root_matches_iff_alice : ∃ h w, settingsSystem.RunFrom settingsServer h w ∧
    (w.clients 0).map (fun vc => (vc.app.root, vc.app.currentUser)) =
      some (some .userHome, some ⟨"alice", "alice@aoun.com"⟩) ∧
    (Throughout AllMatch h w ↔ EveryStep AnswerFits h) := by
  have he : (exec settingsSystem.step (start settingsServer) (aliceAsks ++ [.deliver 0 ()])).map
      (fun w => (w.clients 0).map fun vc => (vc.app.root, vc.app.currentUser)) =
      some (some (some .userHome, some ⟨"alice", "alice@aoun.com"⟩)) := by decide +kernel
  obtain ⟨h, w, hr, -, hw⟩ := run_of_observed he
  exact ⟨h, w, hr, hw, root_matches_iff hr⟩

/-- Alice signs out before the answer arrives, and is signed in when it does, while the landing
screens are shown. -/
lemma signed_in_on_landing : ∃ h w, settingsSystem.RunFrom settingsServer h w ∧
    ¬ Throughout AllMatch h w := by
  have he : (exec settingsSystem.step (start settingsServer)
      (aliceAsks ++ [.ui 0 (.app (.signOut false)), .deliver 0 ()])).map
      (fun w => (w.clients 0).map fun vc => (vc.app.root, vc.app.currentUser)) =
      some (some (some .landing, some ⟨"alice", "alice@aoun.com"⟩)) := by decide +kernel
  obtain ⟨h, w, hr, -, hw⟩ := run_of_observed he
  obtain ⟨vc, hi, hvc⟩ := Option.map_eq_some_iff.mp hw
  obtain ⟨hroot, hcurrent⟩ := Prod.mk.inj hvc
  refine ⟨h, w, hr, fun hall => ?_⟩
  have hmatch := hall.2 0 vc hi _ hroot
  rw [hcurrent] at hmatch
  revert hmatch
  decide

end Aoun

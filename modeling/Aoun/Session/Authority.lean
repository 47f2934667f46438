import Aoun.Session.Wellformed

/-!
# Who changes an account

The password of an account is changed for whoever is signed in when a sign-in has succeeded, and
the names in a document for whoever's query has found it; between the tap and the write other users
sign in and out, on this device and on others. Followed back from the write to the tap, every
change turns out to be one that the owner of the account has asked for: who changes a password has
given the one that the account had, and who changes names was signed in to the account of the
document, and both names are the ones that the form has checked.

## Main definitions

* `Aoun.SessionServer.password` — the password of an account.
* `Aoun.PasswordChanged`, `Aoun.NamesSaved` — what a user has done, and was answered.
* `Aoun.Credentialed` — a launch was signed in, or its user has given a password.

## Main results

* `Aoun.password_changed_by_owner` — who has changed a password.
* `Aoun.names_saved_by_owner` — who has changed the names in a document.
* `Aoun.alerts_sound` — what the alerts say has happened.
* `Aoun.signed_in_by_credentials` — who is signed in.
-/

set_option relaxedAutoImplicit false
set_option autoImplicit false

namespace Aoun

open AsyncSystem AsyncSystem.World StepSystem Utilities SettingsApp

/-! ## What is stored -/

/-- The password of an account. -/
def SessionServer.password (s : SessionServer) (uid : String) : Option String :=
  (s.accounts.find? fun a => a.1.uid = uid).map (·.2)

/-! ## What a user has done -/

/-- In the run the user of client `i` has asked for the password `password`, in a form that has
taken it, and the sign-in that came first has found that the account `uid` had the password that
was given as the current one. -/
inductive PasswordChanged (h : List (SettingsWorld × SettingsEvent)) (i : ℕ)
    (uid password : String) : Prop
  | intro {vc : SettingsApp} {form : ChangePasswordVC} {w : SettingsWorld} {k : ℕ}
      {e : SessionChoice} {f : Flight SettingsRequest SessionAnswer} {account : Account}
      (tapped : Acted h i vc .changePassword) (opened : vc.change = some form)
      (valid : ChangePasswordVC.validatPassword form.currentPassword form.newPass form.rePass =
        none) (newPass : form.newPass = password)
      (handled : (w, .serve k e) ∈ h) (flight : w.flights[k]? = some f) (owner : f.owner = i)
      (request : f.request = .reauthenticate account.email form.currentPassword password)
      (knows : (account, form.currentPassword) ∈ w.server.accounts) (account : account.uid = uid) :
      PasswordChanged h i uid password

/-- In the run the user of client `i`, signed in to the account of the document `d`, has saved the
names, in a form that has taken them, and the query that came first has found `d` first. -/
inductive NamesSaved (h : List (SettingsWorld × SettingsEvent)) (i : ℕ) (d : UserDoc)
    (lastName firstName : String) : Prop
  | intro {vc : SettingsApp} {form : VCEditProfile} {w : SettingsWorld} {k : ℕ}
      {e : SessionChoice} {f : Flight SettingsRequest SessionAnswer} {cu : Account} {d₀ : UserDoc}
      (tapped : Acted h i vc .saveTapped) (opened : vc.edit = some form)
      (valid : form.validateFields = none)
      (last : trimmed form.lastNameTextField = lastName)
      (first : trimmed form.firstNameTextField = firstName)
      (current : vc.app.currentUser = some cu) (owned : cu.uid = d.uid)
      (handled : (w, .serve k e) ∈ h) (flight : w.flights[k]? = some f) (owner : f.owner = i)
      (request : f.request = .getDocuments cu.uid lastName firstName)
      (found : (w.server.users.withUid cu.uid).head? = some d₀)
      (document : d₀.documentID = d.documentID) : NamesSaved h i d lastName firstName

/-! ## What a request changes -/

section

variable {s : SessionServer} {q : SettingsRequest}
  {v : Served SessionServer SessionAnswer SettingsEffect}

/-- What a change of an account, which keeps its uid, does to the passwords. -/
lemma password_withAccount (s : SessionServer) (uid : String)
    (f : Account × String → Account × String) (hf : ∀ a, (f a).1.uid = a.1.uid)
    (uid' : String) : (s.withAccount uid f).password uid' =
      (s.accounts.find? fun a => a.1.uid = uid').map fun a =>
        (if a.1.uid = uid then f a else a).2 := by
  rw [SessionServer.password, SessionServer.withAccount, List.find?_map, Option.map_map]
  congr 2
  funext a
  dsimp only [Function.comp_apply]
  split_ifs
  · rw [hf]
  · rfl

/-- A request leaves the passwords that there are, or it is one for another password. -/
lemma SessionServer.Writes.password (h : s.Writes q v) {uid password : String}
    (hold : s.password uid = some password) : v.server.password uid = some password ∨
      ∃ password', q = .updatePassword uid password' ∧ v.server.password uid = some password' := by
  cases h with
  | rest => exact Or.inl hold
  | createUser fresh =>
    left
    unfold SessionServer.password at hold ⊢
    obtain ⟨a, ha, rfl⟩ := Option.map_eq_some_iff.mp hold
    rw [List.find?_append, ha]
    rfl
  | addDocument adds => exact Or.inl hold
  | @updatePassword uid' password' exist =>
    obtain ⟨a, ha, rfl⟩ := Option.map_eq_some_iff.mp hold
    have huid : a.1.uid = uid := by simpa using List.find?_some ha
    rw [password_withAccount s uid' (fun a => (a.1, password')) fun _ => rfl, ha,
      Option.map_some]
    by_cases heq : a.1.uid = uid'
    · exact Or.inr ⟨password', by rw [← heq, huid], by rw [if_pos heq]⟩
    · exact Or.inl (by rw [if_neg heq])
  | @updateEmail uid' newEmail free =>
    left
    obtain ⟨a, ha, rfl⟩ := Option.map_eq_some_iff.mp hold
    rw [password_withAccount s uid' (fun a => ({ a.1 with email := newEmail }, a.2))
      fun _ => rfl, ha, Option.map_some]
    split_ifs <;> rfl
  | updateData exist => exact Or.inl hold

/-- A request leaves the names in the documents that there are, or it is one for other names. -/
lemma SessionServer.Writes.names (h : s.Writes q v) {d : UserDoc} (hd : d ∈ s.users.docs) :
    d ∈ v.server.users.docs ∨ ∃ lastName firstName,
      q = .updateData d.documentID lastName firstName ∧
      d.withNames d.documentID lastName firstName ∈ v.server.users.docs := by
  cases h with
  | addDocument adds =>
    exact Or.inl ((perm_addDocument adds).mem_iff.mpr (List.mem_cons_of_mem _ hd))
  | @updateData documentID lastName firstName exist =>
    have hmem : d.withNames documentID lastName firstName ∈
        (s.users.updateNames documentID lastName firstName).docs := List.mem_map_of_mem hd
    by_cases hid : d.documentID = documentID
    · subst hid
      exact Or.inr ⟨lastName, firstName, rfl, hmem⟩
    · rw [UserDoc.withNames, if_neg hid] at hmem
      exact Or.inl hmem
  | _ => exact Or.inl hd

/-- Where the write of a password is answered as done, it is. -/
lemma SessionServer.Writes.password_of_written {uid password : String}
    (h : s.Writes (.updatePassword uid password) v) (ha : v.answer = .written) :
    v.server.password uid = some password := by
  cases h with
  | rest account signIn documents written changed => exact absurd ha (changed _ _ rfl)
  | updatePassword exist =>
    obtain ⟨a, hfind⟩ := Option.isSome_iff_exists.mp
      (List.find?_isSome (p := fun a : Account × String => decide (a.1.uid = uid)) |>.mpr
        (by simpa using exist))
    have huid : a.1.uid = uid := by simpa using List.find?_some hfind
    rw [password_withAccount s uid (fun a => (a.1, password)) fun _ => rfl, hfind,
      Option.map_some, if_pos huid]

/-- Where the write of names is answered as done, it is. -/
lemma SessionServer.Writes.names_of_written {id lastName firstName : String}
    (h : s.Writes (.updateData id lastName firstName) v) (ha : v.answer = .written) :
    ∃ d ∈ s.users.docs, d.documentID = id ∧
      d.withNames id lastName firstName ∈ v.server.users.docs := by
  cases h with
  | rest account signIn documents written changed => exact absurd ha (written _ _ _ rfl)
  | updateData exist =>
    obtain ⟨d, hd, hid⟩ := exist
    exact ⟨d, hd, hid, List.mem_map_of_mem hd⟩

/-- Where a sign-up is answered with an account, it was not there, and is now. -/
lemma SessionServer.Writes.account_of_created {firstName lastName email password : String}
    {account : Account} (h : s.Writes (.app (.createUser firstName lastName email password)) v)
    (ha : v.answer = .account account) :
    ¬ HasAccount account.uid s ∧ HasAccount account.uid v.server := by
  cases h with
  | rest notAccount => exact absurd ha (notAccount _ _ _ _ _ rfl)
  | createUser fresh =>
    obtain rfl := SessionAnswer.account.inj ha
    refine ⟨?_, _, List.mem_append_right _ (List.mem_singleton_self _), rfl⟩
    rintro ⟨a, ha, huid⟩
    exact (fresh a ha).2 huid

/-- A request takes no document from its account. -/
lemma SessionServer.Writes.owners (h : s.Writes q v) : s.users.owners ⊆ v.server.users.owners := by
  intro o ho
  obtain ⟨d, hd, rfl⟩ := List.mem_map.mp ho
  rcases h.names hd with hd | ⟨lastName, firstName, -, hd⟩
  · exact UsersCollection.mem_owners hd
  · have hmem := UsersCollection.mem_owners hd
    rwa [UserDoc.withNames_documentID, UserDoc.withNames_uid] at hmem

end

/-! ## From the write to the tap -/

section

variable {s : SessionServer} {h : List (SettingsWorld × SettingsEvent)} {w : SettingsWorld} {i : ℕ}

/-- Who asks for another password has changed it. -/
lemma changed_of_issued (hr : settingsSystem.RunFrom s h w) {uid password : String}
    (hq : settingsSystem.IssuedBy h i (.updatePassword uid password)) :
    PasswordChanged h i uid password := by
  cases hq with
  | boot _ asks => cases asks
  | ui acted reacts asks => cases asks_of_ui reacts asks
  | recv answered asks =>
    cases callsFor_of_recv asks with
    | @updatePassword email currentPassword password account =>
      have hasked := answered.issuedBy hr
      obtain ⟨v, k, e, f, handled, flight, owner, request, answer⟩ := answered
      -- the sign-in has found an account with the password
      have hknows : (account, currentPassword) ∈ v.server.accounts ∧ account.email = email :=
        SessionServer.mem_of_signIn answer
      obtain ⟨knows, rfl⟩ := hknows
      -- and it was asked for by the form
      cases hasked with
      | boot _ asks => cases asks
      | ui acted reacts asks =>
        generalize hq : SettingsRequest.reauthenticate account.email currentPassword password = q
          at asks
        cases asks_of_ui reacts asks with
        | password opened valid current =>
          obtain ⟨-, rfl, rfl⟩ := SettingsRequest.reauthenticate.inj hq
          exact .intro acted opened valid rfl handled flight owner request knows rfl
        | _ => cases hq
      | recv answered asks =>
        cases callsFor_of_recv asks

/-- A document stays that of its account. -/
lemma owners_subset (hr : settingsSystem.RunFrom s h w) :
    ∀ p ∈ h, p.1.server.users.owners ⊆ w.server.users.owners := by
  refine StepSystem.Run.related (R := fun w w' => w.server.users.owners ⊆ w'.server.users.owners)
    hr (fun _ _ _ h₁ h₂ => List.Subset.trans h₁ h₂) fun _ w e w' _ hs => ?_
  refine server_keeps (P := fun s => w.server.users.owners ⊆ s.users.owners) ?_ hs
    (List.Subset.refl _)
  intro s q e hsub
  exact List.Subset.trans hsub (s.writes_of_serve q e).owners

/-- Who asks for other names in a document has saved them. -/
lemma saved_of_issued (hr : settingsSystem.RunFrom s h w) {d : UserDoc}
    (hd : d ∈ w.server.users.docs) {lastName firstName : String}
    (hq : settingsSystem.IssuedBy h i (.updateData d.documentID lastName firstName)) :
    NamesSaved h i d lastName firstName := by
  cases hq with
  | boot _ asks => cases asks
  | ui acted reacts asks => cases asks_of_ui reacts asks
  | recv answered asks =>
    generalize hid : SettingsRequest.updateData d.documentID lastName firstName = q at asks
    cases callsFor_of_recv asks with
    | @updateData uid _ _ documents d₀ first =>
      obtain ⟨document, rfl, rfl⟩ := SettingsRequest.updateData.inj hid
      have hasked := answered.issuedBy hr
      obtain ⟨v, k, e, f, handled, flight, owner, request, answer⟩ := answered
      -- the query has found the documents of the account
      obtain rfl : documents = v.server.users.withUid uid :=
        SessionServer.documents_of_getName answer
      -- and it was asked for by the form
      cases hasked with
      | boot _ asks => cases asks
      | ui acted reacts asks =>
        generalize hq : SettingsRequest.getDocuments uid lastName firstName = q at asks
        cases asks_of_ui reacts asks with
        | names opened valid current =>
          obtain ⟨rfl, rfl, rfl⟩ := SettingsRequest.getDocuments.inj hq
          refine .intro acted opened valid rfl rfl current ?_ handled flight owner request first
            document.symm
          -- the document has stayed that of the account
          obtain ⟨hfound, huid⟩ := UsersCollection.mem_withUid.mp (List.mem_of_mem_head? first)
          have hstays := owners_subset hr _ handled (UsersCollection.mem_owners hfound)
          obtain ⟨d', hd', howner⟩ := List.mem_map.mp hstays
          obtain ⟨hid', huid'⟩ := Prod.mk.inj howner
          obtain rfl : d' = d := List.inj_on_of_nodup_map w.server.users.nodup hd' hd
            (hid'.trans document.symm)
          rw [huid', huid]
        | _ => cases hq
      | recv answered asks =>
        generalize hq : SettingsRequest.getDocuments uid lastName firstName = q at asks
        cases callsFor_of_recv asks <;> cases hq
    | _ => cases hid

end

/-! ## The system -/

section

variable {s : SessionServer} {h h₁ h₂ : List (SettingsWorld × SettingsEvent)} {w : SettingsWorld}
  {i : ℕ}

/-- What a user has done stays done. -/
lemma PasswordChanged.append {uid password : String} (hc : PasswordChanged h₁ i uid password) :
    PasswordChanged (h₁ ++ h₂) i uid password := by
  obtain ⟨tapped, opened, valid, newPass, handled, flight, owner, request, knows, huid⟩ := hc
  exact .intro tapped.append opened valid newPass (List.mem_append_left _ handled) flight owner
    request knows huid

/-- What a user has done stays done. -/
lemma NamesSaved.append {d : UserDoc} {lastName firstName : String}
    (hn : NamesSaved h₁ i d lastName firstName) :
    NamesSaved (h₁ ++ h₂) i d lastName firstName := by
  obtain ⟨tapped, opened, valid, last, first, current, owned, handled, flight, owner, request,
    found, document⟩ := hn
  exact .intro tapped.append opened valid last first current owned
    (List.mem_append_left _ handled) flight owner request found document

/-- The handling of a request, in the run, has left the server so. -/
def LeftIn (h : List (SettingsWorld × SettingsEvent)) (P : SessionServer → Prop) : Prop :=
  ∃ w k e f, (w, .serve k e) ∈ h ∧ w.flights[k]? = some f ∧
    P (settingsSystem.serve w.server f.request e).server

/-- **Who changes a password.** Every step of every run leaves the password of an account as it is,
or it is the write that some user has asked for, who was found to know the password of the account
at a sign-in before, and whose form has taken the new one. This is so whoever is signed in when the
answers arrive, on this device or on another.

**Proof sketch.** A request for another password goes back to the answer to a sign-in, and that one
to the form (`changed_of_issued`). -/
theorem password_changed_by_owner (hr : settingsSystem.RunFrom s h w) :
    EveryStepAfter (fun h w e => ∀ w' uid password, settingsSystem.step w e = some w' →
      w.server.password uid = some password → w'.server.password uid = some password ∨
        ∃ i password', w'.server.password uid = some password' ∧
          PasswordChanged h i uid password') h := by
  rintro h₁ ⟨v, e⟩ h₂ hp w' uid password hs hold
  have hr₁ := hr.before hp
  cases took_of_step hs with
  | boot free => exact Or.inl hold
  | ui client reacts => exact Or.inl hold
  | @serve k e f flight unanswered =>
    rcases (v.server.writes_of_serve f.request e).password hold with
      hsame | ⟨password', hq, hnew⟩
    · exact Or.inl hsame
    · refine Or.inr ⟨f.owner, password', hnew, changed_of_issued hr₁ ?_⟩
      rw [← hq]
      exact issuedBy_of_flight hr₁ (mem_of_flight flight)
  | deliver flight answered client => exact Or.inl hold

/-- Alice gives her account another password. -/
def aliceChangesPassword : List SettingsEvent :=
  aliceEdits ++ [.ui 0 .openChangePassword,
    .ui 0 (.fillIn "passw0rd!" "n3wpass!!" "n3wpass!!"), .ui 0 .changePassword,
    .serve 0 ⟨.success, "", 0⟩, .deliver 0 (), .serve 0 ⟨.success, "", 0⟩, .deliver 0 ()]

/-- Alice's password is changed by Alice. -/
theorem password_changed_by_owner_alice : ∃ h w, settingsSystem.RunFrom settingsServer h w ∧
    w.server.password "alice" = some "n3wpass!!" ∧
    EveryStepAfter (fun h w e => ∀ w' uid password, settingsSystem.step w e = some w' →
      w.server.password uid = some password → w'.server.password uid = some password ∨
        ∃ i password', w'.server.password uid = some password' ∧
          PasswordChanged h i uid password') h := by
  have he : (exec settingsSystem.step (start settingsServer) aliceChangesPassword).map
      (fun w => w.server.password "alice") = some (some "n3wpass!!") := by decide +kernel
  obtain ⟨h, w, hr, -, hw⟩ := run_of_observed he
  exact ⟨h, w, hr, hw, password_changed_by_owner hr⟩

/-- **Who changes names.** Every step of every run leaves a document of `users` as it is, or it
writes the two names that some user has saved, signed in to the account of the document, in one
form that has taken both of them.

**Proof sketch.** A request for other names goes back to the answer to a query, and that one to the
form; the document that the query has found first stays that of the account
(`saved_of_issued`). -/
theorem names_saved_by_owner (hr : settingsSystem.RunFrom s h w) :
    EveryStepAfter (fun h w e => ∀ w' d, settingsSystem.step w e = some w' →
      d ∈ w.server.users.docs → d ∈ w'.server.users.docs ∨
        ∃ i lastName firstName, NamesSaved h i d lastName firstName ∧
          d.withNames d.documentID lastName firstName ∈ w'.server.users.docs) h := by
  rintro h₁ ⟨v, e⟩ h₂ hp w' d hs hd
  have hr₁ := hr.before hp
  cases took_of_step hs with
  | boot free => exact Or.inl hd
  | ui client reacts => exact Or.inl hd
  | @serve k e f flight unanswered =>
    rcases (v.server.writes_of_serve f.request e).names hd with
      hsame | ⟨lastName, firstName, hq, hnew⟩
    · exact Or.inl hsame
    · refine Or.inr ⟨f.owner, lastName, firstName, saved_of_issued hr₁ hd ?_, hnew⟩
      rw [← hq]
      exact issuedBy_of_flight hr₁ (mem_of_flight flight)
  | deliver flight answered client => exact Or.inl hd

/-- Alice saves another last name. -/
def aliceSaves : List SettingsEvent :=
  aliceEdits ++ [.ui 0 (.changeLastName 0 5 "Cole"), .ui 0 .saveTapped,
    .serve 1 ⟨.success, "", 0⟩, .deliver 1 (), .serve 1 ⟨.success, "", 0⟩, .deliver 1 ()]

/-- The names in Alice's document are saved by Alice. -/
theorem names_saved_by_owner_alice : ∃ h w, settingsSystem.RunFrom settingsServer h w ∧
    w.server.users.docs.map (·.LastName) = [some "Cole", some "Brown"] ∧
    EveryStepAfter (fun h w e => ∀ w' d, settingsSystem.step w e = some w' →
      d ∈ w.server.users.docs → d ∈ w'.server.users.docs ∨
        ∃ i lastName firstName, NamesSaved h i d lastName firstName ∧
          d.withNames d.documentID lastName firstName ∈ w'.server.users.docs) h := by
  have he : (exec settingsSystem.step (start settingsServer) aliceSaves).map
      (fun w => w.server.users.docs.map (·.LastName)) = some [some "Cole", some "Brown"] := by
    decide +kernel
  obtain ⟨h, w, hr, -, hw⟩ := run_of_observed he
  exact ⟨h, w, hr, hw, names_saved_by_owner hr⟩

/-- The effects of a tap are those of the app without the forms. -/
lemma effects_of_ui {vc : SettingsApp} {u : SettingsTap} {r : SettingsReaction}
    (hr : vc.ui u = some r) : ∃ os : List SessionEffect, r.effects = os.map .app := by
  cases u with
  | app u =>
    simp only [SettingsApp.ui, Option.ite_none_right_eq_some, Option.map_eq_some_iff] at hr
    obtain ⟨-, r, -, rfl⟩ := hr
    split_ifs <;> exact ⟨r.effects, rfl⟩
  | signUptapped firstName lastName email password confirmPassword =>
    simp only [SettingsApp.ui] at hr
    split at hr
    · obtain ⟨r, -, rfl⟩ := Option.map_eq_some_iff.mp hr
      exact ⟨r.effects, rfl⟩
    · simp only [Option.ite_none_right_eq_some, Option.some.injEq] at hr
      exact ⟨[], by rw [← hr.2]; rfl⟩
  | logintapped email password =>
    simp only [SettingsApp.ui] at hr
    split at hr
    · obtain ⟨r, -, rfl⟩ := Option.map_eq_some_iff.mp hr
      exact ⟨r.effects, rfl⟩
    · simp only [Option.ite_none_right_eq_some, Option.some.injEq] at hr
      exact ⟨[], by rw [← hr.2]; rfl⟩
  | _ =>
    simp only [SettingsApp.ui, Option.ite_none_right_eq_some, Option.map_eq_some_iff] at hr
    obtain ⟨-, _, -, rfl⟩ := hr
    exact ⟨[], rfl⟩

/-- So are those of the server. -/
lemma SessionServer.effects_of_serve (s : SessionServer) (q : SettingsRequest)
    (e : SessionChoice) :
    ∃ os : List SessionEffect, (s.serveSettings q e).effects = os.map .app := by
  have hwrite : ∀ s', (s.write s' e).effects = [] := by
    intro s'
    rcases s.write_cases s' e with h | ⟨_, h⟩ <;> rw [h]
  cases q with
  | app q => exact ⟨_, rfl⟩
  | reauthenticate => exact ⟨[], rfl⟩
  | getDocuments => exact ⟨[], rfl⟩
  | _ =>
    dsimp only [serveSettings]
    split_ifs <;> exact ⟨[], by simp [hwrite]⟩

/-- An alert is shown for a write that was done. -/
lemma written_of_alert {vc : SettingsApp} {q : SettingsRequest} {a : SessionAnswer}
    {o : SettingsEffect} (ho : o ∈ (vc.recv q a).effects) : a = .written ∧
      ((∃ uid password, q = .updatePassword uid password ∧ o = .passwordUpdated) ∨
        ∃ id lastName firstName, q = .updateData id lastName firstName ∧ o = .profileUpdated) ∨
      ∃ o', o = .app o' := by
  unfold SettingsApp.recv at ho
  split_ifs at ho
  · cases ho
  unfold callback at ho
  split at ho
  · obtain ⟨o', -, rfl⟩ := List.mem_map.mp ho
    exact Or.inr ⟨o', rfl⟩
  · obtain ⟨o', -, rfl⟩ := List.mem_map.mp ho
    exact Or.inr ⟨o', rfl⟩
  · obtain ⟨o', -, rfl⟩ := List.mem_map.mp ho
    exact Or.inr ⟨o', rfl⟩
  · unfold reauthenticated at ho
    split at ho <;> cases ho
  · cases ho
  · exact Or.inl ⟨rfl, Or.inl ⟨_, _, rfl, List.mem_singleton.mp ho⟩⟩
  · cases ho
  · unfold userFound at ho
    split at ho <;> cases ho
  · exact Or.inl ⟨rfl, Or.inr ⟨_, _, _, rfl, List.mem_singleton.mp ho⟩⟩
  · cases ho

/-- What an alert is shown for was answered. -/
lemma answered_of_alert (hr : settingsSystem.RunFrom s h w) {o : SettingsEffect}
    (ho : o ∈ w.effectsOf i) (halert : ∀ o', o ≠ .app o') :
    (∃ uid password, o = .passwordUpdated ∧
      settingsSystem.Answered h i (.updatePassword uid password) .written) ∨
    ∃ id lastName firstName, o = .profileUpdated ∧
      settingsSystem.Answered h i (.updateData id lastName firstName) .written := by
  have happ : ∀ {os : List SessionEffect}, ∀ o ∈ os.map SettingsEffect.app,
      ¬ ∀ o', o ≠ .app o' := by
    intro os o ho hne
    obtain ⟨o', -, rfl⟩ := List.mem_map.mp ho
    exact hne o' rfl
  have hui : ∀ vc u r, settingsSystem.ui vc u = some r → ∀ o ∈ r.effects, ¬ ∀ o', o ≠ .app o' := by
    intro vc u r hr
    obtain ⟨os, hos⟩ := effects_of_ui hr
    rw [hos]
    exact happ
  have hserve : ∀ s q e, ∀ o ∈ (settingsSystem.serve s q e).effects, ¬ ∀ o', o ≠ .app o' := by
    intro s q e
    obtain ⟨os, hos⟩ := s.effects_of_serve q e
    rw [show (settingsSystem.serve s q e).effects = _ from hos]
    exact happ
  obtain ⟨vc, q, a, x, hanswered, hmem⟩ :=
    answered_of_effect (fun _ => happ) hui hserve hr ho halert
  rcases written_of_alert hmem with ⟨rfl, ⟨uid, password, rfl, rfl⟩ | ⟨id, lastName, firstName,
    rfl, rfl⟩⟩ | ⟨o', rfl⟩
  · exact Or.inl ⟨uid, password, rfl, hanswered⟩
  · exact Or.inr ⟨id, lastName, firstName, rfl, hanswered⟩
  · exact absurd rfl (halert o')

/-- **What the alerts say has happened.** In every state of every run, a user who was told that the
password was changed has changed it, and the server has had it; and a user who was told that the
profile was updated has saved names, and the server has had the document with them.

**Proof sketch.** Either alert is shown when a write is answered; what was written goes back to the
form. -/
theorem alerts_sound (hr : settingsSystem.RunFrom s h w) :
    (.passwordUpdated ∈ w.effectsOf i → ∃ uid password, PasswordChanged h i uid password ∧
      LeftIn h fun s => s.password uid = some password) ∧
    (.profileUpdated ∈ w.effectsOf i → ∃ d lastName firstName,
      NamesSaved h i d lastName firstName ∧
      LeftIn h fun s => d.withNames d.documentID lastName firstName ∈ s.users.docs) := by
  constructor
  · intro ho
    rcases answered_of_alert hr ho (by simp) with ⟨uid, password, -, ha⟩ | ⟨_, _, _, ho, -⟩
    · refine ⟨uid, password, changed_of_issued hr (ha.issuedBy hr), ?_⟩
      obtain ⟨v, k, e, f, handled, flight, owner, request, answer⟩ := ha
      refine ⟨v, k, e, f, handled, flight, ?_⟩
      rw [request]
      exact (v.server.writes_of_serve _ e).password_of_written answer
    · cases ho
  · intro ho
    rcases answered_of_alert hr ho (by simp) with ⟨_, _, ho, -⟩ | ⟨id, lastName, firstName, -, ha⟩
    · cases ho
    · obtain ⟨v, k, e, f, handled, flight, rfl, request, answer⟩ := ha
      obtain ⟨d, hd, rfl, hstored⟩ := (v.server.writes_of_serve _ e).names_of_written answer
      obtain ⟨h₁, h₂, hp⟩ := List.append_of_mem handled
      refine ⟨d, lastName, firstName, ?_, v, k, e, f, handled, flight, ?_⟩
      · have hissued := issuedBy_of_handled hr hp flight
        rw [request] at hissued
        rw [hp]
        exact (saved_of_issued (hr.before hp) hd hissued).append
      · rw [request]
        exact hstored

/-- Alice is told that her password was changed. -/
theorem alerts_sound_alice : ∃ h w, settingsSystem.RunFrom settingsServer h w ∧
    w.effectsOf 0 = [.passwordUpdated] ∧ ∃ uid password, PasswordChanged h 0 uid password ∧
      LeftIn h fun s => s.password uid = some password := by
  have he : (exec settingsSystem.step (start settingsServer) aliceChangesPassword).map
      (fun w => w.effectsOf 0) = some [.passwordUpdated] := by decide +kernel
  obtain ⟨h, w, hr, -, hw⟩ := run_of_observed he
  exact ⟨h, w, hr, hw, (alerts_sound hr).1 (hw ▸ List.mem_cons_self)⟩

end

/-! ## Who is signed in -/

/-- Client `i` was launched signed in to the account `uid`, or in the run the service has made this
account for it, or has found that it had the password that was given. -/
inductive Credentialed (h : List (SettingsWorld × SettingsEvent)) (i : ℕ) (uid : String) : Prop
  | launch {w : SettingsWorld} {cu : Account} (launched : (w, .boot i (some cu)) ∈ h)
      (account : cu.uid = uid) : Credentialed h i uid
  | signUp {w : SettingsWorld} {k : ℕ} {e : SessionChoice}
      {f : Flight SettingsRequest SessionAnswer} {firstName lastName email password : String}
      (handled : (w, .serve k e) ∈ h) (flight : w.flights[k]? = some f) (owner : f.owner = i)
      (request : f.request = .app (.createUser firstName lastName email password))
      (fresh : ¬ HasAccount uid w.server)
      (made : HasAccount uid (settingsSystem.serve w.server f.request e).server) :
      Credentialed h i uid
  | signIn {w : SettingsWorld} {k : ℕ} {e : SessionChoice}
      {f : Flight SettingsRequest SessionAnswer} {account : Account} {password : String}
      (handled : (w, .serve k e) ∈ h) (flight : w.flights[k]? = some f) (owner : f.owner = i)
      (request : f.request = .app (.signIn account.email password) ∨
        ∃ password', f.request = .reauthenticate account.email password password')
      (knows : (account, password) ∈ w.server.accounts) (account : account.uid = uid) :
      Credentialed h i uid

section

variable {s : SessionServer} {h h₁ h₂ : List (SettingsWorld × SettingsEvent)} {w : SettingsWorld}
  {i : ℕ} {uid : String}

/-- What has happened stays so. -/
lemma Credentialed.append (hc : Credentialed h₁ i uid) : Credentialed (h₁ ++ h₂) i uid := by
  cases hc with
  | launch launched account => exact .launch (List.mem_append_left _ launched) account
  | signUp handled flight owner request fresh made =>
    exact .signUp (List.mem_append_left _ handled) flight owner request fresh made
  | signIn handled flight owner request knows account =>
    exact .signIn (List.mem_append_left _ handled) flight owner request knows account

/-- The requests that are answered with the account to be signed in to. -/
inductive SignsIn : SettingsRequest → Prop
  | createUser {firstName lastName email password : String} :
      SignsIn (.app (.createUser firstName lastName email password))
  | signIn {email password : String} : SignsIn (.app (.signIn email password))
  | reauthenticate {email currentPassword password : String} :
      SignsIn (.reauthenticate email currentPassword password)

/-- An account that was brought by such an answer is one that was made, or the password of which
was given. -/
lemma credentialed_of_answered {q : SettingsRequest} (hq : SignsIn q) {account : Account}
    (ha : settingsSystem.Answered h i q (.account account)) : Credentialed h i account.uid := by
  obtain ⟨v, k, e, f, handled, flight, owner, request, answer⟩ := ha
  cases hq with
  | createUser =>
    obtain ⟨fresh, made⟩ := (v.server.writes_of_serve _ e).account_of_created answer
    exact .signUp handled flight owner request fresh (request ▸ made)
  | signIn =>
    obtain ⟨knows, rfl⟩ := SessionServer.mem_of_signIn answer
    exact .signIn handled flight owner (Or.inl request) knows rfl
  | reauthenticate =>
    obtain ⟨knows, rfl⟩ := SessionServer.mem_of_signIn answer
    exact .signIn handled flight owner (Or.inr ⟨_, request⟩) knows rfl

/-- A tap that comes from no form signs nobody in. -/
lemma currentUser_of_app_ui {app : AppDelegate} {u : SessionTap} {r : SessionReaction}
    (hr : app.ui u = some r) {cu : Account} (hcu : r.client.currentUser = some cu) :
    app.currentUser = some cu := by
  cases u with
  | didReceiveRegistrationToken fcmToken =>
    simp only [AppDelegate.ui, Option.ite_none_right_eq_some, Option.some.injEq] at hr
    rw [← hr.2] at hcu
    cases fcmToken with
    | none => exact hcu
    | some token =>
      dsimp only [AppDelegate.updateToken] at hcu
      split at hcu <;> exact hcu
  | openProfile =>
    simp only [AppDelegate.ui, Option.ite_none_right_eq_some, Option.some.injEq] at hr
    rw [← hr.2] at hcu
    unfold AppDelegate.getName at hcu
    split at hcu <;> exact hcu
  | signOut throws =>
    simp only [AppDelegate.ui, Option.ite_none_right_eq_some, Option.some.injEq] at hr
    rw [← hr.2] at hcu
    cases throws
    · cases hcu
    · exact hcu
  | _ =>
    simp only [AppDelegate.ui, Option.ite_none_right_eq_some, Option.some.injEq] at hr
    rw [← hr.2] at hcu
    exact hcu

/-- A tap signs nobody in. -/
lemma currentUser_of_ui {vc : SettingsApp} {u : SettingsTap} {r : SettingsReaction}
    (hr : vc.ui u = some r) {cu : Account} (hcu : r.client.app.currentUser = some cu) :
    vc.app.currentUser = some cu := by
  cases u with
  | app u =>
    simp only [SettingsApp.ui, Option.ite_none_right_eq_some, Option.map_eq_some_iff] at hr
    obtain ⟨-, r, hr, rfl⟩ := hr
    split_ifs at hcu <;> exact currentUser_of_app_ui hr hcu
  | signUptapped firstName lastName email password confirmPassword =>
    simp only [SettingsApp.ui] at hr
    split at hr
    · obtain ⟨r₀, hr₀, rfl⟩ := Option.map_eq_some_iff.mp hr
      exact currentUser_of_app_ui hr₀ hcu
    · simp only [Option.ite_none_right_eq_some, Option.some.injEq] at hr
      rw [← hr.2] at hcu
      exact hcu
  | logintapped email password =>
    simp only [SettingsApp.ui] at hr
    split at hr
    · obtain ⟨r₀, hr₀, rfl⟩ := Option.map_eq_some_iff.mp hr
      exact currentUser_of_app_ui hr₀ hcu
    · simp only [Option.ite_none_right_eq_some, Option.some.injEq] at hr
      rw [← hr.2] at hcu
      exact hcu
  | saveTapped =>
    simp only [SettingsApp.ui, Option.ite_none_right_eq_some, Option.map_eq_some_iff] at hr
    obtain ⟨-, form, -, rfl⟩ := hr
    exact hcu
  | changePassword =>
    simp only [SettingsApp.ui, Option.ite_none_right_eq_some, Option.map_eq_some_iff] at hr
    obtain ⟨-, form, -, rfl⟩ := hr
    exact hcu
  | _ =>
    simp only [SettingsApp.ui, Option.ite_none_right_eq_some, Option.map_eq_some_iff] at hr
    obtain ⟨-, vc', hvc', rfl⟩ := hr
    rw [← (edits_app hvc').2]
    exact hcu

/-- An answer leaves the account that is signed in, or brings it. -/
lemma currentUser_of_recv {vc : SettingsApp} {q : SettingsRequest} {a : SessionAnswer}
    {cu : Account} (hcu : (vc.recv q a).client.app.currentUser = some cu) :
    (∃ cu', vc.app.currentUser = some cu' ∧ cu'.uid = cu.uid) ∨ SignsIn q ∧ a = .account cu := by
  unfold SettingsApp.recv at hcu
  split_ifs at hcu
  · exact Or.inl ⟨cu, hcu, rfl⟩
  unfold SettingsApp.callback at hcu
  split at hcu
  · obtain rfl := Option.some.inj hcu
    exact Or.inr ⟨.createUser, rfl⟩
  · obtain rfl := Option.some.inj hcu
    exact Or.inr ⟨.signIn, rfl⟩
  · next q _ hcreate hsign =>
    left
    refine ⟨cu, ?_, rfl⟩
    dsimp only [lift] at hcu
    unfold AppDelegate.callback at hcu
    split at hcu
    · exact (hcreate _ _ _ _ _ rfl rfl).elim
    · exact (hsign _ _ _ rfl rfl).elim
    · unfold AppDelegate.updateTokenFound at hcu
      split at hcu <;> exact hcu
    · unfold AppDelegate.getNameFound at hcu
      split at hcu
      · exact hcu
      · dsimp only at hcu
        split_ifs at hcu <;> exact hcu
    · exact hcu
  · unfold reauthenticated at hcu
    split at hcu
    · obtain rfl := Option.some.inj hcu
      exact Or.inr ⟨.reauthenticate, rfl⟩
    · exact Or.inl ⟨cu, hcu, rfl⟩
    · exact Or.inl ⟨cu, hcu, rfl⟩
    · exact Or.inl ⟨cu, hcu, rfl⟩
  · exact Or.inl ⟨cu, hcu, rfl⟩
  · exact Or.inl ⟨cu, hcu, rfl⟩
  · obtain ⟨cu', hcu', rfl⟩ := Option.map_eq_some_iff.mp hcu
    refine Or.inl ⟨cu', hcu', ?_⟩
    split_ifs <;> rfl
  · unfold userFound at hcu
    split at hcu <;> exact Or.inl ⟨cu, hcu, rfl⟩
  · exact Or.inl ⟨cu, hcu, rfl⟩
  · exact Or.inl ⟨cu, hcu, rfl⟩

/-- **Who is signed in.** In every state of every run, an app is signed in to an account with which
it was launched, or that the service has made for its user, or the password of which its user has
given; whatever answers arrive in the meantime, and however late.

**Proof sketch.** Only an answer to a sign-up or a sign-in brings another account
(`currentUser_of_recv`). -/
theorem signed_in_by_credentials (hr : settingsSystem.RunFrom s h w) :
    ∀ i vc cu, w.clients i = some vc → vc.app.currentUser = some cu → Credentialed h i cu.uid := by
  induction hr with
  | nil => rintro i vc cu ⟨⟩
  | @snoc h w e w' hr hs ih =>
    intro i vc cu hi hcu
    have hsame : ∀ (v : SettingsWorld) (j root : ℕ) (r : SettingsReaction),
        v.clients = w.clients → (v.react j root r).clients i = some vc →
        (i = j ∧ vc = r.client) ∨ w.clients i = some vc := by
      intro v j root r hv hi
      by_cases hj : i = j
      · subst hj
        rw [react_clients_self] at hi
        exact Or.inl ⟨rfl, (Option.some.inj hi).symm⟩
      · rw [react_clients_of_ne _ _ _ hj, hv] at hi
        exact Or.inr hi
    cases took_of_step hs with
    | @boot j a free =>
      rcases hsame w j w.next _ rfl hi with ⟨rfl, rfl⟩ | hi
      · obtain rfl : a = some cu := hcu
        exact .launch (List.mem_append_right _ (List.mem_singleton_self _)) rfl
      · exact (ih i vc cu hi hcu).append
    | @ui j u vc' r client reacts =>
      rcases hsame w j w.next _ rfl hi with ⟨rfl, rfl⟩ | hi
      · exact (ih i vc' cu client (currentUser_of_ui reacts hcu)).append
      · exact (ih i vc cu hi hcu).append
    | serve flight unanswered => exact (ih i vc cu hi hcu).append
    | @deliver k x f a vc' flight answered client =>
      rcases hsame (w.land k) f.owner f.root _ rfl hi with ⟨rfl, rfl⟩ | hi
      · rcases currentUser_of_recv hcu with ⟨cu', hcu', huid⟩ | ⟨hsigns, rfl⟩
        · rw [← huid]
          exact (ih f.owner vc' cu' client hcu').append
        · have hanswered := answered_of_flight hr (mem_of_flight flight) answered
          exact (credentialed_of_answered hsigns hanswered).append
      · exact (ih i vc cu hi hcu).append

end

/-- Alice signs out before the answer arrives, is signed in when it does, and has given her
password. -/
theorem signed_in_by_credentials_alice : ∃ h w vc, settingsSystem.RunFrom settingsServer h w ∧
    w.clients 0 = some vc ∧ vc.app.currentUser = some ⟨"alice", "alice@aoun.com"⟩ ∧
    Credentialed h 0 "alice" := by
  have he : (exec settingsSystem.step (start settingsServer) (aliceEdits ++
      [.ui 0 .openChangePassword, .ui 0 (.fillIn "passw0rd!" "n3wpass!!" "n3wpass!!"),
        .ui 0 .changePassword, .serve 0 ⟨.success, "", 0⟩, .ui 0 (.app (.signOut false)),
        .deliver 0 ()])).map (fun w => (w.clients 0).bind fun vc => vc.app.currentUser) =
      some (some ⟨"alice", "alice@aoun.com"⟩) := by decide +kernel
  obtain ⟨h, w, hr, -, hw⟩ := run_of_observed he
  obtain ⟨vc, hi, hcu⟩ := Option.bind_eq_some_iff.mp hw
  exact ⟨h, w, vc, hr, hi, hcu, signed_in_by_credentials hr 0 vc _ hi hcu⟩

end Aoun

import Mathlib.Data.List.DropRight
import Aoun.Lib.Chain
import Aoun.Session.Settings
import Aoun.Session.Signup

/-!
# What is stored passes the checks

The authentication service and Firestore store what the app sends them; that it is well formed is
left to the forms, each of which checks its own fields at its own time. Whatever the launches do
and in whatever order their requests are handled, what is stored stays well formed: every account
has an email address and a password that the forms take, no two accounts have the same, and every
document is of an account, with names that the forms take.

## Main definitions

* `Aoun.SessionServer.WellFormed` — the accounts and the documents pass the checks of the forms.

## Main results

* `Aoun.accounts_well_formed` — what is stored stays well formed.
-/

set_option relaxedAutoImplicit false
set_option autoImplicit false

namespace Aoun

open AsyncSystem AsyncSystem.World StepSystem Utilities

/-! ## Texts -/

/-- To trim a text again changes nothing. -/
lemma trimmed_trimmed (s : String) : trimmed (trimmed s) = trimmed s := by
  have hdrop : ∀ t : String, trimmed t = String.ofList
      (List.rdropWhile isWhitespaceOrNewline (t.toList.dropWhile isWhitespaceOrNewline)) :=
    fun _ => rfl
  set l := s.toList.dropWhile isWhitespaceOrNewline with hl
  set r := l.rdropWhile isWhitespaceOrNewline with hr
  have hstart : r <+: l := List.rdropWhile_prefix _ _
  -- what is left starts as the text without its leading white space does
  have hfirst : r.dropWhile isWhitespaceOrNewline = r := by
    refine List.dropWhile_eq_self_iff.mpr fun hpos => ?_
    have hlpos : 0 < l.length := lt_of_lt_of_le hpos hstart.length_le
    rw [hstart.getElem hpos]
    exact List.dropWhile_get_zero_not _ _ hlpos
  have htrim : trimmed s = String.ofList r := hdrop s
  rw [htrim, hdrop, String.toList_ofList, hfirst, hr, List.rdropWhile_idempotent]

/-! ## What is stored -/

/-- The accounts and the documents pass the checks of the forms. -/
structure SessionServer.WellFormed (s : SessionServer) : Prop where
  email : ∀ a ∈ s.accounts, isValidEmail a.1.email = true
  password : ∀ a ∈ s.accounts, isPasswordValid (trimmed a.2) = true
  /-- No two accounts have the same uid. -/
  uids : (s.accounts.map (·.1.uid)).Nodup
  /-- No two accounts have the same email address. -/
  emails : (s.accounts.map (·.1.email)).Nodup
  names : ∀ d ∈ s.users.docs, d.FirstName.any isValidName = true ∧ d.LastName.any isValidName = true
  owned : s.Owned

/-- A request carries what the forms take, and is for an account that there is. -/
def SettingsRequest.Carries (s : SessionServer) : SettingsRequest → Option SessionAnswer → Prop
  | .app (.createUser firstName lastName email password), a =>
    isValidName firstName = true ∧ isValidName lastName = true ∧ isValidEmail email = true ∧
      isPasswordValid (trimmed password) = true ∧
      ∀ account, a = some (.account account) → HasAccount account.uid s
  | .app (.addDocument firstName lastName uid), _ =>
    isValidName firstName = true ∧ isValidName lastName = true ∧ HasAccount uid s
  | .reauthenticate _ _ password, _ => isPasswordValid (trimmed password) = true
  | .updatePassword _ password, _ => isPasswordValid (trimmed password) = true
  | .updateEmail _ newEmail, _ => isValidEmail newEmail = true
  | .getDocuments _ lastName firstName, _ =>
    isValidName firstName = true ∧ isValidName lastName = true
  | .updateData _ lastName firstName, _ =>
    isValidName firstName = true ∧ isValidName lastName = true
  | _, _ => True

/-! ## What a request does -/

section

variable {s s' : SessionServer} {uid : String}

/-- There is an account if its uid is among those of the accounts. -/
lemma hasAccount_iff : HasAccount uid s ↔ uid ∈ s.accounts.map (·.1.uid) := by
  simp [HasAccount]

/-- A change of an account that keeps its uid keeps all of them. -/
lemma uids_withAccount (s : SessionServer) (uid : String)
    (f : Account × String → Account × String) (hf : ∀ a, (f a).1.uid = a.1.uid) :
    (s.withAccount uid f).accounts.map (·.1.uid) = s.accounts.map (·.1.uid) := by
  rw [SessionServer.withAccount, List.map_map]
  refine List.map_congr_left fun a _ => ?_
  dsimp only [Function.comp_apply]
  split_ifs
  · exact hf a
  · rfl

/-- What a request carries is for an account that stays. -/
lemma SettingsRequest.Carries.mono {q : SettingsRequest} {a : Option SessionAnswer}
    (h : q.Carries s a) (hkeeps : ∀ uid, HasAccount uid s → HasAccount uid s') :
    q.Carries s' a := by
  cases q with
  | app q =>
    cases q with
    | createUser firstName lastName email password =>
      obtain ⟨hfirst, hlast, hemail, hpassword, haccount⟩ := h
      exact ⟨hfirst, hlast, hemail, hpassword, fun account ha => hkeeps _ (haccount account ha)⟩
    | addDocument firstName lastName uid =>
      obtain ⟨hfirst, hlast, haccount⟩ := h
      exact ⟨hfirst, hlast, hkeeps _ haccount⟩
    | _ => trivial
  | _ => exact h

/-- A new account with an email address and a password that the forms take. -/
lemma SessionServer.WellFormed.createUser (h : s.WellFormed) {email password : String}
    (hemail : isValidEmail email = true) (hpassword : isPasswordValid (trimmed password) = true)
    (fresh : ∀ a ∈ s.accounts, a.1.email ≠ email ∧ a.1.uid ≠ uid) :
    SessionServer.WellFormed
      { s with accounts := s.accounts ++ [(⟨uid, email⟩, password)] } where
  email := by
    intro a ha
    rcases List.mem_append.mp ha with ha | ha
    · exact h.email a ha
    · rw [List.mem_singleton.mp ha]
      exact hemail
  password := by
    intro a ha
    rcases List.mem_append.mp ha with ha | ha
    · exact h.password a ha
    · rw [List.mem_singleton.mp ha]
      exact hpassword
  uids := by
    rw [List.map_append, List.map_singleton, ← List.concat_eq_append, List.nodup_concat]
    refine ⟨fun hmem => ?_, h.uids⟩
    obtain ⟨a, ha, huid⟩ := List.mem_map.mp hmem
    exact (fresh a ha).2 huid
  emails := by
    rw [List.map_append, List.map_singleton, ← List.concat_eq_append, List.nodup_concat]
    refine ⟨fun hmem => ?_, h.emails⟩
    obtain ⟨a, ha, hemail⟩ := List.mem_map.mp hmem
    exact (fresh a ha).1 hemail
  names := h.names
  owned := by
    intro d hd
    obtain ⟨a, ha, huid⟩ := h.owned d hd
    exact ⟨a, List.mem_append_left _ ha, huid⟩

/-- A new document of an account, with names that the forms take. -/
lemma SessionServer.WellFormed.addDocument (h : s.WellFormed) {firstName lastName id : String}
    {position : ℕ} {users : UsersCollection} (hfirst : isValidName firstName = true)
    (hlast : isValidName lastName = true) (haccount : HasAccount uid s)
    (adds : s.users.addDocument ⟨id, uid, some firstName, some lastName, none⟩ position =
      some users) : SessionServer.WellFormed { s with users := users } := by
  have hnew : ∀ {P : UserDoc → Prop}, (∀ d ∈ s.users.docs, P d) →
      P ⟨id, uid, some firstName, some lastName, none⟩ → ∀ d ∈ users.docs, P d := by
    intro P hold hadded d hd
    rcases List.mem_cons.mp ((perm_addDocument adds).mem_iff.mp hd) with rfl | hd
    · exact hadded
    · exact hold d hd
  exact ⟨h.email, h.password, h.uids, h.emails, hnew h.names ⟨hfirst, hlast⟩,
    hnew h.owned haccount⟩

/-- Another password that the forms take. -/
lemma SessionServer.WellFormed.updatePassword (h : s.WellFormed) {password : String}
    (hpassword : isPasswordValid (trimmed password) = true) :
    (s.withAccount uid fun a => (a.1, password)).WellFormed := by
  have huids := uids_withAccount s uid (fun a => (a.1, password)) fun _ => rfl
  have hemails : (s.withAccount uid fun a => (a.1, password)).accounts.map (·.1.email) =
      s.accounts.map (·.1.email) := by
    rw [SessionServer.withAccount, List.map_map]
    refine List.map_congr_left fun a _ => ?_
    dsimp only [Function.comp_apply]
    split_ifs <;> rfl
  refine ⟨fun a ha => ?_, fun a ha => ?_, huids ▸ h.uids, hemails ▸ h.emails, h.names,
    fun d hd => hasAccount_iff.mpr (huids ▸ hasAccount_iff.mp (h.owned d hd))⟩
  · obtain ⟨b, hb, rfl⟩ := List.mem_map.mp ha
    split_ifs
    · exact h.email b hb
    · exact h.email b hb
  · obtain ⟨b, hb, rfl⟩ := List.mem_map.mp ha
    split_ifs
    · exact hpassword
    · exact h.password b hb

/-- Another email address that the forms take, and that no other account has. -/
lemma SessionServer.WellFormed.updateEmail (h : s.WellFormed) {newEmail : String}
    (hemail : isValidEmail newEmail = true)
    (free : ∀ a ∈ s.accounts, a.1.email = newEmail → a.1.uid = uid) :
    (s.withAccount uid fun a => ({ a.1 with email := newEmail }, a.2)).WellFormed := by
  have huids := uids_withAccount s uid
    (fun a => ({ a.1 with email := newEmail }, a.2)) fun _ => rfl
  refine ⟨fun a ha => ?_, fun a ha => ?_, huids ▸ h.uids, ?_, h.names,
    fun d hd => hasAccount_iff.mpr (huids ▸ hasAccount_iff.mp (h.owned d hd))⟩
  · obtain ⟨b, hb, rfl⟩ := List.mem_map.mp ha
    split_ifs
    · exact hemail
    · exact h.email b hb
  · obtain ⟨b, hb, rfl⟩ := List.mem_map.mp ha
    split_ifs
    · exact h.password b hb
    · exact h.password b hb
  · -- of two accounts at most one has the uid, and only that one gets the address
    rw [SessionServer.withAccount, List.map_map]
    have hboth := (List.pairwise_map.mp h.uids).and (List.pairwise_map.mp h.emails)
    refine List.pairwise_map.mpr (hboth.imp_of_mem fun {a b} ha hb hne => ?_)
    dsimp only [Function.comp_apply]
    split_ifs with hau hbu hbu
    · exact absurd (hau.trans hbu.symm) hne.1
    · exact fun heq => hbu (free b hb heq.symm)
    · exact fun heq => hau (free a ha heq)
    · exact hne.2

/-- Other names that the forms take. -/
lemma SessionServer.WellFormed.updateData (h : s.WellFormed)
    {documentID lastName firstName : String} (hfirst : isValidName firstName = true)
    (hlast : isValidName lastName = true) : SessionServer.WellFormed
      { s with users := s.users.updateNames documentID lastName firstName } := by
  refine ⟨h.email, h.password, h.uids, h.emails, fun d hd => ?_, fun d hd => ?_⟩
  · obtain ⟨b, hb, rfl⟩ := List.mem_map.mp hd
    unfold UserDoc.withNames
    split_ifs
    · exact ⟨hfirst, hlast⟩
    · exact h.names b hb
  · obtain ⟨b, hb, rfl⟩ := List.mem_map.mp hd
    rw [UserDoc.withNames_uid]
    exact h.owned b hb

/-- **What a request does.** If it carries what the forms take, what is stored stays well formed, no
account is lost, and the answer is for an account that there is. -/
lemma SessionServer.WellFormed.writes (h : s.WellFormed) {q : SettingsRequest}
    (hq : q.Carries s none) {v : Served SessionServer SessionAnswer SettingsEffect}
    (hv : s.Writes q v) : v.server.WellFormed ∧ q.Carries v.server (some v.answer) ∧
      ∀ uid, HasAccount uid s → HasAccount uid v.server := by
  cases hv with
  | rest account signIn documents written changed =>
    refine ⟨h, ?_, fun _ h => h⟩
    cases q with
    | app q =>
      cases q with
      | createUser firstName lastName email password =>
        obtain ⟨hfirst, hlast, hemail, hpassword, -⟩ := hq
        exact ⟨hfirst, hlast, hemail, hpassword, fun a ha =>
          absurd (Option.some.inj ha) (account _ _ _ _ a rfl)⟩
      | addDocument => exact hq
      | _ => trivial
    | _ => exact hq
  | @createUser firstName lastName email password uid o fresh =>
    obtain ⟨hfirst, hlast, hemail, hpassword, -⟩ := hq
    refine ⟨h.createUser hemail hpassword fresh, ⟨hfirst, hlast, hemail, hpassword, ?_⟩, ?_⟩
    · intro account ha
      obtain rfl := SessionAnswer.account.inj (Option.some.inj ha)
      exact ⟨_, List.mem_append_right _ (List.mem_singleton_self _), rfl⟩
    · rintro uid' ⟨a, ha, huid⟩
      exact ⟨a, List.mem_append_left _ ha, huid⟩
  | addDocument adds =>
    obtain ⟨hfirst, hlast, haccount⟩ := hq
    exact ⟨h.addDocument hfirst hlast haccount adds, ⟨hfirst, hlast, haccount⟩, fun _ h => h⟩
  | @updatePassword uid password exist =>
    have huids := uids_withAccount s uid (fun a => (a.1, password)) fun _ => rfl
    exact ⟨h.updatePassword hq, hq,
      fun _ hu => hasAccount_iff.mpr (huids ▸ hasAccount_iff.mp hu)⟩
  | @updateEmail uid newEmail free =>
    have huids := uids_withAccount s uid
      (fun a => ({ a.1 with email := newEmail }, a.2)) fun _ => rfl
    exact ⟨h.updateEmail hq free, hq,
      fun _ hu => hasAccount_iff.mpr (huids ▸ hasAccount_iff.mp hu)⟩
  | updateData exist =>
    obtain ⟨hfirst, hlast⟩ := hq
    exact ⟨h.updateData hfirst hlast, ⟨hfirst, hlast⟩, fun _ h => h⟩

end

/-! ## The system -/

/-- Sign-up accepts an email address that is valid when it is trimmed. -/
lemma SignupViewController.email_of_ok {firstName lastName email password confirmPassword : String}
    {q : SessionRequest}
    (h : signUptapped firstName lastName email password confirmPassword = .ok q) :
    isValidEmail (trimmed email) = true := by
  unfold signUptapped at h
  split at h
  · cases h
  · next hnone =>
    simp only [validateFields, check_eq_none] at hnone
    obtain ⟨-, -, -, -, -, -, -, -, -, hemail, -⟩ := hnone
    simpa using hemail

/-- Sign-in asks for a sign-in. -/
lemma LoginViewController.signIn_of_ok {email password : String} {q : SessionRequest}
    (h : logintapped email password = .ok q) :
    q = .signIn (trimmed email) (trimmed password) := by
  unfold logintapped at h
  split at h
  · cases h
  · exact (Except.ok.inj h).symm

/-- The form for the password accepts one that is valid when it is trimmed. -/
lemma ChangePasswordVC.valid_of_validat {currentPassword newPass rePass : String}
    (h : validatPassword currentPassword newPass rePass = none) :
    isPasswordValid (trimmed newPass) = true := by
  simp only [validatPassword, check_eq_none] at h
  obtain ⟨-, -, -, -, -, hvalid, -⟩ := h
  simpa using hvalid

/-- What the forms ask for carries what they take. -/
lemma SettingsApp.Asks.carries {vc : SettingsApp} {u : SettingsTap} {q : SettingsRequest}
    (h : vc.Asks u q) (s : SessionServer) : q.Carries s none := by
  cases h with
  | updateToken current => trivial
  | getName current => trivial
  | signUp accepts =>
    obtain ⟨rfl, -, hpassword⟩ := SignupViewController.valid_of_ok accepts
    obtain ⟨hfirst, hlast⟩ := SignupViewController.names_of_ok accepts
    refine ⟨hfirst, hlast, SignupViewController.email_of_ok accepts, ?_, by simp⟩
    rw [trimmed_trimmed]
    exact hpassword
  | logIn accepts =>
    rw [LoginViewController.signIn_of_ok accepts]
    trivial
  | email opened valid current => exact (VCEditProfile.validateFields_eq_none_iff.mp valid).2.2
  | names opened valid current =>
    obtain ⟨hfirst, hlast, -⟩ := VCEditProfile.validateFields_eq_none_iff.mp valid
    exact ⟨hfirst, hlast⟩
  | password opened valid current => exact ChangePasswordVC.valid_of_validat valid

/-- So does what the app asks for after an answer. -/
lemma SettingsApp.CallsFor.carries {q q' : SettingsRequest} {a : SessionAnswer}
    (h : CallsFor q a q') {s : SessionServer} (hq : q.Carries s (some a)) :
    q'.Carries s none := by
  cases h with
  | addDocument =>
    obtain ⟨hfirst, hlast, -, -, haccount⟩ := hq
    exact ⟨hfirst, hlast, haccount _ rfl⟩
  | token => trivial
  | updatePassword => exact hq
  | updateData first => exact hq
  | getName => trivial

/-- The launches satisfy the conditions of the rule for requests in flight. -/
lemma settingsSystem_carries :
    FlightRules settingsSystem SessionServer.WellFormed fun s q a => q.Carries s a where
  boot := fun _ _ _ _ hq => by cases hq
  ui := fun s _ _ _ _ hr _ hq => (SettingsApp.asks_of_ui hr hq).carries s
  serve := fun s q e h hq => by
    obtain ⟨hserver, hanswer, -⟩ := h.writes hq (s.writes_of_serve q e)
    exact ⟨hserver, hanswer⟩
  others := fun s q e _ _ h hq hq' => hq'.mono (h.writes hq (s.writes_of_serve q e)).2.2
  recv := fun _ _ _ _ _ _ hq _ hq' => (SettingsApp.callsFor_of_recv hq').carries hq

/-- A server with Alice's and Bob's accounts and documents, as the forms take them. -/
def settingsServer : SessionServer where
  accounts := [(⟨"alice", "alice@aoun.com"⟩, "passw0rd!"), (⟨"bob", "bob@aoun.com"⟩, "n0tebook!")]
  users :=
    { docs := [⟨"a", "alice", some "Alice", some "Adams", none⟩,
        ⟨"b", "bob", some "Bob", some "Brown", none⟩]
      nodup := by decide }

/-- Alice launches the app, and opens the form for her profile. -/
def aliceEdits : List SettingsEvent :=
  [.boot 0 (some ⟨"alice", "alice@aoun.com"⟩), .ui 0 (.app .afterDelay),
    .ui 0 (.editButton (some ⟨"Alice", "Adams", "alice", some "a"⟩))]

/-- The accounts and the documents of Alice and Bob are well formed. -/
lemma settingsServer_wellFormed : settingsServer.WellFormed where
  email := List.forall_mem_cons.mpr ⟨by decide +kernel,
    List.forall_mem_singleton.mpr (by decide +kernel)⟩
  password := List.forall_mem_cons.mpr ⟨by decide +kernel,
    List.forall_mem_singleton.mpr (by decide +kernel)⟩
  uids := by decide
  emails := by decide
  names := List.forall_mem_cons.mpr ⟨by decide +kernel,
    List.forall_mem_singleton.mpr (by decide +kernel)⟩
  owned := List.forall_mem_cons.mpr ⟨⟨_, List.mem_cons_self, rfl⟩,
    List.forall_mem_singleton.mpr ⟨_, List.mem_cons_of_mem _ List.mem_cons_self, rfl⟩⟩

end Aoun

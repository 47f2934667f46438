import Aoun.Session.Identity
import Aoun.Session.Tokens

/-!
# Notifications that reach their addressee

A token stays on a user's document when the user signs out, and is written there even if the
account has changed since `updateToken(fcmToken:)` asked for the document. Notifications reach
their addressee if neither happens: the account of a device changes only while no document has a
token of it, and a token is written only while the device is signed in to the account of the
document.

The messaging service gives different devices different tokens, so that a token has a holder.

## Main definitions

* `Aoun.SendsToAddressee` — the property of a step that sends a notification.
* `Aoun.OneUserEach` — no two users have the same token.
* `Aoun.KeepsAddressee` — the condition on the steps.

## Main results

* `Aoun.addressed_step` — what such a step preserves.
* `Aoun.notified_addressee` — in every run of such steps notifications reach their addressee.
-/

set_option relaxedAutoImplicit false
set_option autoImplicit false

namespace Aoun

open AsyncSystem AsyncSystem.World StepSystem TokenDevice

/-! ## The property and its condition -/

/-- The account that a device is signed in to. -/
def accountOf (w : TokenWorld) (i : ℕ) : Option String :=
  (w.clients i).bind fun d => d.app.currentUser.map (·.uid)

/-- The documents of `users`. -/
abbrev userDocs (w : TokenWorld) : List UserDoc := w.server.session.users.docs

/-- The token stored on a document. -/
abbrev tokenOf (w : TokenWorld) (d : UserDoc) : Option String := w.server.fcmToken d.documentID

section Holder

-- the device that holds a token
variable (holder : String → ℕ)

/-- A token is received by the device that holds it. -/
def IssuedToHolder (_ : TokenWorld) (e : TokenEvent) : Prop :=
  ∀ i t, e = .ui i (.session (.didReceiveRegistrationToken (some t))) → holder t = i

/-- The notifications that a step sends reach a device that is signed in as the user that is
notified. -/
def SendsToAddressee (w : TokenWorld) (e : TokenEvent) : Prop :=
  ∀ w' i r p, tokenSystem.step w e = some w' → ⟨i, r, p⟩ ∈ w'.trace.drop w.trace.length →
    accountOf w (holder p.fcmToken) = some p.uid

/-- No two users have the same token. -/
def OneUserEach (w : TokenWorld) : Prop :=
  ∀ d ∈ userDocs w, ∀ d' ∈ userDocs w, ∀ t, tokenOf w d = some t → tokenOf w d' = some t →
    d.uid = d'.uid

/-- The launch that has made a request still runs. -/
def Live (w : TokenWorld) (f : Flight TokenRequest TokenAnswer) : Prop :=
  ∃ d, w.clients f.owner = some d ∧ f.request.launch = d.launch ∧ d.app.trapped = false

/-- The event changes the account of a device: it signs out, or is signed in to another. -/
def ChangesAccount (w : TokenWorld) (e : TokenEvent) (i : ℕ) : Prop :=
  e = .ui i (.session (.signOut false)) ∨
    ∃ k f account, e = .deliver k () ∧ w.flights[k]? = some f ∧ f.owner = i ∧ Live w f ∧
      f.answer = some (.session (.account account)) ∧ accountOf w i ≠ some account.uid

/-- A notification is about to be sent to a token. -/
def AboutToSend (w : TokenWorld) (uid t : String) : Prop :=
  ∃ f ∈ w.flights, Live w f ∧ f.request = .triggerNotification f.request.launch uid ∧
    ∃ documents, f.answer = some (.users documents) ∧ firstToken documents = some t

/-- No document has a token of the device, and no notification is about to be sent to one. -/
def Unaddressed (w : TokenWorld) (i : ℕ) : Prop :=
  (∀ d ∈ userDocs w, ∀ t, tokenOf w d = some t → holder t ≠ i) ∧
    ∀ uid t, AboutToSend w uid t → holder t ≠ i

/-- A token is written while the device is signed in to the account of the document. -/
def WritesOwn (w : TokenWorld) (e : TokenEvent) : Prop :=
  ∀ k choice f launch documentID t, e = .serve k choice → w.flights[k]? = some f →
    f.request = .session launch (.updateData documentID t) → choice.outcome = .success →
    ∀ d ∈ userDocs w, d.documentID = documentID → accountOf w f.owner = some d.uid

/-- The account of a device changes only while no token of it is in use, and tokens are written
to the documents of the accounts signed in. -/
def KeepsAddressee (w : TokenWorld) (e : TokenEvent) : Prop :=
  (∀ i, ChangesAccount w e i → Unaddressed holder w i) ∧ WritesOwn w e

/-! ## The invariant -/

/-- **The invariant**: the tokens stored, and those read to send a notification, are held by
devices signed in to the accounts they are stored for, and the tokens to be stored by the devices
that store them. -/
structure Addressed (w : TokenWorld) : Prop where
  stored : ∀ d ∈ userDocs w, ∀ t, tokenOf w d = some t → accountOf w (holder t) = some d.uid
  read : ∀ uid t, AboutToSend w uid t → accountOf w (holder t) = some uid
  issued : ∀ f ∈ w.flights, ∀ t, f.request.token = some t → holder t = f.owner
  launched : ∀ f ∈ w.flights, ∃ d, w.clients f.owner = some d ∧ f.request.launch ≤ d.launch

variable {holder} {w w' : TokenWorld} {e : TokenEvent}

/-- No two users have the same token, since a device is signed in to one account. -/
lemma Addressed.oneUserEach (hw : Addressed holder w) : OneUserEach w := by
  intro d hd d' hd' t ht ht'
  have huid : some d.uid = some d'.uid :=
    (hw.stored d hd t ht).symm.trans (hw.stored d' hd' t ht')
  exact Option.some.inj huid

/-- **What a step does to a device**: nothing, or it launches the app again, with the same
account, or something happens in the launch that runs, which may change the account. -/
lemma device_step (hs : tokenSystem.step w e = some w') {i : ℕ} {d : TokenDevice}
    (hi : w.clients i = some d) : ∃ d', w'.clients i = some d' ∧
    (d' = d ∨ (d'.launch = d.launch + 1 ∧ d'.app.currentUser = d.app.currentUser) ∨
      (d'.launch = d.launch ∧ d.app.trapped = false ∧
        (d'.app.currentUser = d.app.currentUser ∨
          d'.app.currentUser.map (·.uid) = accountOf w i ∨ ChangesAccount w e i))) := by
  cases took_of_step hs with
  | @boot j a free =>
    have hij : i ≠ j := fun hij => by rw [hij, free] at hi; cases hi
    exact ⟨d, (react_clients_of_ne _ w.next _ hij).trans hi, Or.inl rfl⟩
  | @ui j u d₁ r client reacts =>
    by_cases hij : i = j
    · subst hij
      obtain rfl := Option.some.inj (hi.symm.trans client)
      refine ⟨r.client, react_clients_self _ _ w.next _, Or.inr ?_⟩
      rcases ui_client reacts with hlaunch | ⟨hlaunch, htrapped, huser | rfl⟩
      · exact Or.inl hlaunch
      · exact Or.inr ⟨hlaunch, htrapped, Or.inl huser⟩
      · exact Or.inr ⟨hlaunch, htrapped, Or.inr (Or.inr (Or.inl rfl))⟩
    · exact ⟨d, (react_clients_of_ne _ w.next _ hij).trans hi, Or.inl rfl⟩
  | serve flight unanswered => exact ⟨d, hi, Or.inl rfl⟩
  | @deliver k x f a d₁ flight answered client =>
    by_cases hij : i = f.owner
    · subst hij
      obtain rfl := Option.some.inj (hi.symm.trans client)
      refine ⟨(d.recv f.request a).client, react_clients_self _ _ f.root _, ?_⟩
      rcases d.recv_client f.request a with hsame | ⟨hlaunch, hlive, htrapped, huser |
        ⟨account, rfl, huser⟩⟩
      · exact Or.inl hsame
      · exact Or.inr (Or.inr ⟨hlaunch, htrapped, Or.inl huser⟩)
      · refine Or.inr (Or.inr ⟨hlaunch, htrapped, Or.inr ?_⟩)
        by_cases hsame : accountOf w f.owner = some account.uid
        · exact Or.inl (by rw [huser, hsame]; rfl)
        · exact Or.inr (Or.inr ⟨k, f, account, rfl, flight, rfl, ⟨d, client, hlive, htrapped⟩,
            answered, hsame⟩)
    · exact ⟨d, (react_clients_of_ne _ f.root _ hij).trans hi, Or.inl rfl⟩

/-- A device that is signed in, and one of whose tokens is in use, keeps its account. -/
lemma accountOf_keeps (hs : tokenSystem.step w e = some w') (hG : KeepsAddressee holder w e)
    {i : ℕ} {uid : String} (hused : ¬ Unaddressed holder w i) (hi : accountOf w i = some uid) :
    accountOf w' i = some uid := by
  obtain ⟨d, hd, huid⟩ := Option.bind_eq_some_iff.mp hi
  obtain ⟨d', hd', hstep⟩ := device_step hs hd
  have hafter : accountOf w' i = d'.app.currentUser.map (·.uid) := by rw [accountOf, hd']; rfl
  rw [hafter]
  rcases hstep with rfl | ⟨-, huser⟩ | ⟨-, -, huser | huser | hchange⟩
  · exact huid
  · rw [huser, huid]
  · rw [huser, huid]
  · rw [huser, hi]
  · exact absurd (hG.1 i hchange) hused

/-- A launch that runs after a step has run before it. -/
lemma live_step (hw : Addressed holder w) (hs : tokenSystem.step w e = some w')
    {f : Flight TokenRequest TokenAnswer} (hf : f ∈ w.flights) (hlive : Live w' f) :
    Live w f := by
  obtain ⟨d, hd, hle⟩ := hw.launched f hf
  obtain ⟨d₁, hd₁, hlaunch, htrapped⟩ := hlive
  obtain ⟨d', hd', hstep⟩ := device_step hs hd
  obtain rfl := Option.some.inj (hd₁.symm.trans hd')
  rcases hstep with rfl | ⟨hmore, -⟩ | ⟨hsame, hrunning, -⟩
  · exact ⟨d₁, hd, hlaunch, htrapped⟩
  · omega
  · exact ⟨d, hd, hlaunch.trans hsame, hrunning⟩

/-- The number of launches of a device does not decrease. -/
lemma launch_step (hs : tokenSystem.step w e = some w') {i n : ℕ} {d : TokenDevice}
    (hi : w.clients i = some d) (hn : n ≤ d.launch) :
    ∃ d', w'.clients i = some d' ∧ n ≤ d'.launch := by
  obtain ⟨d', hd', hstep⟩ := device_step hs hi
  refine ⟨d', hd', ?_⟩
  rcases hstep with rfl | ⟨hmore, -⟩ | ⟨hsame, -⟩
  · exact hn
  · omega
  · omega

/-- The tokens that were stored before a step, or about to be written by it, are held by the
devices signed in to the accounts they are stored for after it. -/
lemma stored_step (hw : Addressed holder w) (hG : KeepsAddressee holder w e)
    (hs : tokenSystem.step w e = some w') :
    ∀ d ∈ userDocs w', ∀ t, tokenOf w' d = some t → accountOf w' (holder t) = some d.uid := by
  have hkept : ∀ d ∈ userDocs w, ∀ t, tokenOf w d = some t →
      accountOf w' (holder t) = some d.uid := fun d hd t ht =>
    accountOf_keeps hs hG (fun hnone => hnone.1 d hd t ht rfl) (hw.stored d hd t ht)
  cases took_of_step hs with
  | boot free => exact hkept
  | ui client reacts => exact hkept
  | @serve k choice f flight unanswered =>
    intro d hd t ht
    obtain ⟨hmem, hbefore | ⟨launch, hq, hsuccess⟩⟩ := TokenServer.fcmToken_serve hd ht
    · exact hkept d hmem t hbefore
    · rw [hw.issued f (mem_of_flight flight) t (by rw [hq]; rfl)]
      exact hG.2 k choice f launch d.documentID t rfl flight hq hsuccess d hmem rfl
  | deliver flight answered client => exact hkept

/-- **The flights after a step**: those before it, with an answer for the one that is handled, and
the requests it issues, with tokens that the device receives, or has passed on before. -/
lemma flights_step (hs : tokenSystem.step w e = some w') :
    ∀ g ∈ w'.flights, g ∈ w.flights ∨
      (∃ f ∈ w.flights, ∃ choice,
        g = { f with answer := some (w.server.serve f.request choice).answer }) ∨
      (g.answer = none ∧ (∃ d, w'.clients g.owner = some d ∧ g.request.launch = d.launch) ∧
        ∀ t, g.request.token = some t →
          e = .ui g.owner (.session (.didReceiveRegistrationToken (some t))) ∨
            ∃ f ∈ w.flights, f.owner = g.owner ∧ f.request.token = some t) := by
  intro g hg
  cases took_of_step hs with
  | @boot i a free =>
    rcases List.mem_append.mp hg with hg | hg
    · exact Or.inl hg
    · cases hg
  | @ui i u d r client reacts =>
    rcases List.mem_append.mp hg with hg | hg
    · exact Or.inl hg
    · obtain ⟨q, hq, rfl⟩ := List.mem_map.mp hg
      obtain ⟨hlaunch, htoken⟩ := ui_requests reacts q hq
      refine Or.inr (Or.inr ⟨rfl, ⟨r.client, react_clients_self _ _ w.next _, hlaunch⟩,
        fun t ht => Or.inl ?_⟩)
      rw [htoken t ht]
  | @serve k choice f flight unanswered =>
    rcases List.mem_append.mp hg with hg | hg
    · exact Or.inl (List.mem_of_mem_eraseIdx hg)
    · exact Or.inr (Or.inl ⟨f, mem_of_flight flight, choice, List.mem_singleton.mp hg⟩)
  | @deliver k x f a d flight answered client =>
    rcases List.mem_append.mp hg with hg | hg
    · exact Or.inl (List.mem_of_mem_eraseIdx hg)
    · obtain ⟨q, hq, rfl⟩ := List.mem_map.mp hg
      obtain ⟨hlaunch, htoken⟩ := d.recv_requests f.request a q hq
      exact Or.inr (Or.inr ⟨rfl, ⟨_, react_clients_self _ _ f.root _, hlaunch⟩,
        fun t ht => Or.inr ⟨f, mem_of_flight flight, rfl, htoken t ht⟩⟩)

/-- What is about to be sent after a step was so before, or was read from a document. -/
lemma read_step (hw : Addressed holder w) (hG : KeepsAddressee holder w e)
    (hs : tokenSystem.step w e = some w') :
    ∀ uid t, AboutToSend w' uid t → accountOf w' (holder t) = some uid := by
  rintro uid t ⟨g, hg, hlive, hq, documents, ha, ht⟩
  rcases flights_step hs g hg with hold | ⟨f, hf, choice, rfl⟩ | ⟨hnone, -⟩
  · have hbefore : AboutToSend w uid t :=
      ⟨g, hold, live_step hw hs hold hlive, hq, documents, ha, ht⟩
    exact accountOf_keeps hs hG (fun hunused => hunused.2 uid t hbefore rfl)
      (hw.read uid t hbefore)
  · -- the query has just found the document
    obtain ⟨launch, uid', d, hq', hd, rfl, htoken⟩ :=
      TokenServer.users_of_serve (Option.some.inj ha) ht
    obtain ⟨-, rfl⟩ := TokenRequest.triggerNotification.inj (hq'.symm.trans hq)
    exact accountOf_keeps hs hG (fun hunused => hunused.1 d hd t htoken rfl)
      (hw.stored d hd t htoken)
  · rw [hnone] at ha
    cases ha

/-- **What a step preserves**: the invariant, if the token that a device receives is its own, no
account changes with a token in use, and the tokens are written to the accounts signed in. -/
theorem addressed_step (hw : Addressed holder w) (hissued : IssuedToHolder holder w e)
    (hG : KeepsAddressee holder w e) (hs : tokenSystem.step w e = some w') :
    Addressed holder w' := by
  refine ⟨stored_step hw hG hs, read_step hw hG hs, fun g hg t ht => ?_, fun g hg => ?_⟩
  · rcases flights_step hs g hg with hold | ⟨f, hf, choice, rfl⟩ | ⟨-, -, htoken⟩
    · exact hw.issued g hold t ht
    · exact hw.issued f hf t ht
    · rcases htoken t ht with hreceived | ⟨f, hf, howner, hpassed⟩
      · exact hissued g.owner t hreceived
      · rw [← howner]
        exact hw.issued f hf t hpassed
  · have hkept : ∀ f ∈ w.flights, ∃ d, w'.clients f.owner = some d ∧
        f.request.launch ≤ d.launch := by
      intro f hf
      obtain ⟨d, hd, hle⟩ := hw.launched f hf
      exact launch_step hs hd hle
    rcases flights_step hs g hg with hold | ⟨f, hf, choice, rfl⟩ | ⟨-, ⟨d, hd, hlaunch⟩, -⟩
    · exact hkept g hold
    · exact hkept f hf
    · exact ⟨d, hd, hlaunch.le⟩

/-- The notifications that are sent reach their addressee: the token was read from a document of
the user. -/
lemma Addressed.sendsToAddressee (hw : Addressed holder w) : SendsToAddressee holder w e := by
  intro w' i r p hs hp
  have hsent : ∀ (j root : ℕ) (ps : List PushNotification),
      w'.trace = w.trace ++ ps.map (fun p => ⟨j, root, p⟩) → p ∈ ps := by
    intro j root ps htrace
    rw [htrace, List.drop_left] at hp
    obtain ⟨p', hp', heq⟩ := List.mem_map.mp hp
    obtain rfl : p' = p := congrArg Entry.effect heq
    exact hp'
  cases took_of_step hs with
  | @boot j a free => cases hsent j w.next [] rfl
  | @ui j u d r client reacts =>
    have hmem := hsent j w.next r.effects rfl
    rw [ui_effects reacts] at hmem
    cases hmem
  | @serve k choice f flight unanswered =>
    have hmem := hsent f.owner f.root (w.server.serve f.request choice).effects rfl
    rw [TokenServer.serve_effects] at hmem
    cases hmem
  | @deliver k x f a d flight answered client =>
    have hmem := hsent f.owner f.root (d.recv f.request a).effects rfl
    obtain ⟨htrapped, documents, hq, rfl, hfirst⟩ := d.recv_effects f.request a p hmem
    exact hw.read p.uid p.fcmToken ⟨f, mem_of_flight flight,
      ⟨d, client, by rw [hq]; rfl, htrapped⟩, by rw [hq]; rfl, documents, answered, hfirst⟩

variable {s : TokenServer} {h : List (TokenWorld × TokenEvent)}

/-- **Notifications that reach their addressee.** Let devices receive only tokens that they hold,
and let no token be stored at the start. In every run in which the account of a device changes
only while no token of it is in use, and tokens are written only while the device is signed in to
the account of the document, each notification is sent to a device that is signed in as the user
that is notified, and in each state no two users have the same token.

**Proof sketch.** The tokens stored, and those read to send a notification, are held by devices
signed in to the accounts they are stored for (`addressed_step`). -/
theorem notified_addressee (hr : tokenSystem.RunFrom s h w) (hs : ∀ id, s.fcmToken id = none)
    (hissued : EveryStep (IssuedToHolder holder) h) (hG : EveryStep (KeepsAddressee holder) h) :
    EveryStep (SendsToAddressee holder) h ∧ Throughout OneUserEach h w := by
  have hstart : Addressed holder (start s) := by
    refine ⟨fun d _ t ht => ?_, by simp [AboutToSend], by simp, by simp⟩
    rw [show tokenOf (start s) d = none from hs d.documentID] at ht
    cases ht
  have hboth : EveryStep (fun w e => IssuedToHolder holder w e ∧ KeepsAddressee holder w e) h :=
    fun p hp => ⟨hissued p hp, hG p hp⟩
  have hall : Throughout (Addressed holder) h w := hr.throughout_of_everyStep hstart
    (fun w e w' hw hc hstep => addressed_step hw hc.1 hc.2 hstep) hboth
  exact ⟨fun p hp => (hall.1 p hp).sendsToAddressee,
    fun p hp => (hall.1 p hp).oneUserEach, hall.2.oneUserEach⟩

end Holder

/-! ## Runs -/

/-- A server with Alice's and Bob's accounts and documents, and no tokens. -/
def tokenServer : TokenServer := ⟨sessionServer, fun _ => none, by simp⟩

/-- A test that a step meets the conditions: only the first device has a token, nobody signs out,
and a token is stored for a user who is signed in. -/
def steadyTokens (w : TokenWorld) : TokenEvent → Bool
  | .ui i (.session (.didReceiveRegistrationToken _)) => i = 0
  | .ui _ (.session (.signOut _)) => false
  | .serve k _ => (w.flights[k]?).all fun f =>
    match f.request with
    | .session _ (.updateData documentID _) => (userDocs w).all fun d =>
      d.documentID ≠ documentID ∨ accountOf w f.owner = some d.uid
    | _ => true
  | .deliver k _ => (w.flights[k]?).all fun f =>
    match f.answer with
    | some (.session (.account _)) => false
    | _ => true
  | _ => true

/-- Alice's device receives a token, which is written to her document, and Bob notifies her. -/
theorem notified_addressee_alice : ∃ h w, tokenSystem.RunFrom tokenServer h w ∧
    w.trace.map (·.effect) = [⟨"alice", "t"⟩] ∧
    EveryStep (SendsToAddressee fun _ => 0) h ∧ Throughout OneUserEach h w := by
  have he : (exec (guarded steadyTokens tokenSystem.step) (start tokenServer)
      [.boot 0 (some ⟨"alice", "alice@aoun.com"⟩),
        .ui 0 (.session (.didReceiveRegistrationToken (some "t"))), .serve 0 ⟨.success, "", 0⟩,
        .deliver 0 (), .serve 0 ⟨.success, "", 0⟩, .deliver 0 (),
        .boot 1 (some ⟨"bob", "bob@aoun.com"⟩), .ui 1 (.saved ⟨"Alice", "A", "alice", none⟩),
        .serve 0 ⟨.success, "", 0⟩, .deliver 0 ()]).map (fun w => w.trace.map (·.effect)) =
      some [⟨"alice", "t"⟩] := by decide +kernel
  obtain ⟨h, w, hr, hG, hw⟩ := run_of_guarded he
  have hissued : EveryStep (IssuedToHolder fun _ => 0) h := by
    intro p hp i t he
    have hg : steadyTokens p.1 p.2 = true := hG p hp
    rw [he] at hg
    exact (of_decide_eq_true hg).symm
  have hkeeps : EveryStep (KeepsAddressee fun _ => 0) h := by
    intro p hp
    have hg : steadyTokens p.1 p.2 = true := hG p hp
    constructor
    · rintro i (he | ⟨k, f, account, he, hf, -, -, ha, -⟩)
      · rw [he] at hg
        cases hg
      · simp [steadyTokens, he, hf, ha] at hg
    · intro k choice f launch documentID t he hf hq _ d hd hid
      simp only [steadyTokens, he, hf, hq, Option.all_some, List.all_eq_true] at hg
      simpa [hid] using hg d hd
  exact ⟨h, w, hr, hw, notified_addressee hr (fun _ => rfl) hissued hkeeps⟩

/-- Alice's device receives a token, she signs out, and Bob signs in: the token stays on her
document, and is written to his when the app is launched again. What notifies Alice reaches the
device on which Bob is signed in. -/
theorem notified_another : ∃ h w, tokenSystem.RunFrom tokenServer h w ∧
    EveryStep (IssuedToHolder fun _ => 0) h ∧ ¬ EveryStep (SendsToAddressee fun _ => 0) h ∧
    ¬ OneUserEach w := by
  let es : List TokenEvent := [.boot 0 (some ⟨"alice", "alice@aoun.com"⟩),
    .ui 0 (.session (.didReceiveRegistrationToken (some "t"))), .serve 0 ⟨.success, "", 0⟩,
    .deliver 0 (), .serve 0 ⟨.success, "", 0⟩, .deliver 0 (), .ui 0 (.session .afterDelay),
    .ui 0 (.session (.signOut false)), .ui 0 (.session (.loginTapped "bob@aoun.com" "654321")),
    .serve 0 ⟨.success, "", 0⟩, .deliver 0 (), .ui 0 .launch,
    .ui 0 (.session (.didReceiveRegistrationToken (some "t"))), .serve 0 ⟨.success, "", 0⟩,
    .deliver 0 (), .serve 0 ⟨.success, "", 0⟩, .deliver 0 (),
    .boot 1 (some ⟨"bob", "bob@aoun.com"⟩), .ui 1 (.saved ⟨"Alice", "A", "alice", none⟩),
    .serve 0 ⟨.success, "", 0⟩]
  have he : (exec tokenSystem.step (start tokenServer) es).map (fun w => (accountOf w 0,
      (tokenSystem.step w (.deliver 0 ())).map fun w' =>
        ((w'.trace.drop w.trace.length).map (·.effect),
          (userDocs w').map fun d => (d.uid, tokenOf w' d)))) =
      some (some "bob", some ([⟨"alice", "t"⟩], [("alice", some "t"), ("bob", some "t")])) := by
    decide +kernel
  obtain ⟨h, w, hr, hes, hw⟩ := run_of_observed he
  obtain ⟨haccount, hlast⟩ := Prod.mk.inj hw
  obtain ⟨w', hs, hw'⟩ := Option.map_eq_some_iff.mp hlast
  obtain ⟨hsent, hdocs⟩ := Prod.mk.inj hw'
  have hissued : EveryStep (IssuedToHolder fun _ => 0) (h ++ [(w, .deliver 0 ())]) := by
    refine (everyStep_snoc ..).mpr ⟨fun p hp i t hpe => ?_, fun i t he => by cases he⟩
    have hmem : p.2 ∈ es := hes ▸ List.mem_map_of_mem hp
    rw [hpe] at hmem
    have hzero : i = 0 ∧ t = "t" := by simpa [es] using hmem
    exact hzero.1.symm
  refine ⟨_, w', hr.snoc hs, hissued, fun hall => ?_, fun hone => ?_⟩
  · obtain ⟨x, hx, hxp⟩ := List.mem_map.mp
      (hsent ▸ List.mem_singleton_self (⟨"alice", "t"⟩ : PushNotification))
    have hreached := ((everyStep_snoc ..).mp hall).2 w' x.owner x.root x.effect hs hx
    rw [hxp, haccount] at hreached
    exact absurd hreached (by decide)
  · have hfound : ∀ x ∈ [("alice", some "t"), ("bob", some "t")],
        ∃ d ∈ userDocs w', (d.uid, tokenOf w' d) = x := fun x hx => List.mem_map.mp (hdocs ▸ hx)
    obtain ⟨d, hd, hdx⟩ := hfound ("alice", some "t") (by simp)
    obtain ⟨d', hd', hdx'⟩ := hfound ("bob", some "t") (by simp)
    obtain ⟨huid, ht⟩ := Prod.mk.inj hdx
    obtain ⟨huid', ht'⟩ := Prod.mk.inj hdx'
    have hsame := hone d hd d' hd' "t" ht ht'
    rw [huid, huid'] at hsame
    exact absurd hsame (by decide)

end Aoun

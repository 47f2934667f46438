import Aoun.Chat.Pair

/-!
# The right conversation

`loadChat()` takes the first chat of the current user that the other user is in. On a chat of
two users these two tests tell the pair apart, unless the two users are the same: a user who
opens a chat on himself passes both tests with every chat that he has. The screen is then
attached to the first of his chats, which need not be the one with himself.

## Main definitions

* `Aoun.RightConversation`, `Aoun.FirstWithSelf` — the property, and its condition.

## Main results

* `Aoun.right_conversation_iff` — when the screens are attached to the right conversation.
-/

set_option relaxedAutoImplicit false
set_option autoImplicit false

namespace Aoun

open AsyncSystem AsyncSystem.World StepSystem ChatViewController

/-- The screen is attached to a chat of which its two users are the participants, if it is
attached to one. -/
def ChatViewController.OnRightChat (c : ChatsCollection) (vc : ChatViewController) : Prop :=
  ∀ id, vc.docReference = some id → ∃ d ∈ c.docs, d.documentID = id ∧
    IsPair vc.currentUser.uid vc.otherUser.uid d.users

/-- Every screen that is attached to a chat is attached to one of which the current user and the
other user are the participants. -/
def RightConversation (w : ChatWorld) : Prop :=
  ∀ i vc, w.clients i = some vc → vc.OnRightChat w.server

/-- When the chats of a user are delivered to a screen that he has opened on himself, the first
one is a chat with himself, if there are any. -/
def FirstWithSelf (w : ChatWorld) (e : ChatEvent) : Prop :=
  ∀ k f uid documents vc, e = .deliver k () → w.flights[k]? = some f →
    f.request = .loadChat uid → f.answer = some (.chats documents) →
    w.clients f.owner = some vc → vc.trapped = false → vc.otherUser.uid = vc.currentUser.uid →
    ∀ doc, documents.head? = some doc →
      doc.2 = [vc.currentUser.uid, vc.currentUser.uid]

section

variable {c : ChatsCollection} {vc vc' : ChatViewController}

/-- If the other user is in all chats found, the screen takes the first one. -/
lemma chatsFound_of_all (vc : ChatViewController) {documents : List (ℕ × List String)}
    (hall : ∀ doc ∈ documents, vc.otherUser.uid ∈ doc.2) : vc.chatsFound documents =
      match documents.head? with
      | some doc =>
        ⟨{ vc with docReference := some doc.1, newMessageListner := some ⟨doc.1, false⟩ },
          [.listen doc.1], []⟩
      | none => vc.createNewChat := by
  cases documents with
  | nil => rfl
  | cons doc documents =>
    have hfirst : vc.otherUser.uid ∈ doc.2 := hall doc List.mem_cons_self
    simp [chatsFound, hfirst]

/-- A pair of a user with himself. -/
lemma isPair_self {a : String} {users : List String} : IsPair a a users ↔ users = [a, a] :=
  or_self_iff

lemma ChatViewController.OnRightChat.of_screen (h : vc.OnRightChat c) (hs : vc.SameScreen vc') :
    vc'.OnRightChat c := by
  obtain ⟨hcurrent, hother, hdoc, -⟩ := hs
  intro id hid
  rw [hcurrent, hother]
  exact h id (hdoc ▸ hid)

/-- What the server does leaves the screens on the chats they are on. -/
lemma ChatViewController.OnRightChat.serve (h : vc.OnRightChat c) (q : ChatRequest)
    (e : ChatChoice) : vc.OnRightChat (c.serve q e).server := by
  intro id hid
  obtain ⟨d, hd, rfl, hpair⟩ := h id hid
  obtain ⟨d', hd', hid', husers⟩ := serve_keeps_docs q e hd
  exact ⟨d', hd', hid', husers ▸ hpair⟩

/-- A reaction to the user leaves the screen on its chat. -/
lemma ChatViewController.OnRightChat.ui (h : vc.OnRightChat c) {u : ChatTap} {r : ChatReaction}
    (hr : vc.ui u = some r) : r.client.OnRightChat c := by
  rcases ui_cases hr with ⟨text, uuidString, now, -, rfl⟩ | ⟨-, rfl⟩
  · obtain ⟨message, -, -, -, heq⟩ := vc.didPressSendButtonWith_eq text uuidString now
    rw [heq]
    exact h
  · exact h

/-- The screen that takes the chat `doc` is on the right one if and only if the participants of
`doc` are its users. -/
lemma onRightChat_attach (hc : (c.docs.map (·.documentID)).Nodup) {doc : ℕ × List String}
    (hdoc : ∃ d ∈ c.docs, d.documentID = doc.1 ∧ d.users = doc.2) :
    OnRightChat c
        { vc with docReference := some doc.1, newMessageListner := some ⟨doc.1, false⟩ } ↔
      IsPair vc.currentUser.uid vc.otherUser.uid doc.2 := by
  obtain ⟨d, hd, hid, husers⟩ := hdoc
  constructor
  · intro h
    obtain ⟨d', hd', hid', hpair⟩ := h doc.1 rfl
    obtain rfl : d' = d := List.inj_on_of_nodup_map hc hd' hd (hid'.trans hid.symm)
    exact husers ▸ hpair
  · intro hpair id hid'
    obtain rfl : doc.1 = id := Option.some.inj hid'
    exact ⟨d, hd, hid, husers ▸ hpair⟩

/-- A screen that has found chats is on the right one if and only if it was not opened by a user
on himself, or the first of the chats is with himself.

**Proof sketch.** The chats found have two participants, one of them the current user. If the
other user is another one, a chat with both is theirs; if not, all chats found pass the test. -/
lemma chatsFound_onRightChat (htwo : ∀ d ∈ c.docs, ∃ x y, d.users = [x, y])
    (hnone : vc.docReference = none) {documents : List (ℕ × List String)}
    (hfound : ∀ p ∈ documents, ∃ d ∈ c.docs, d.documentID = p.1 ∧ d.users = p.2 ∧
      vc.currentUser.uid ∈ d.users) :
    (vc.chatsFound documents).client.OnRightChat c ↔
      (vc.otherUser.uid = vc.currentUser.uid → ∀ doc, documents.head? = some doc →
        doc.2 = [vc.currentUser.uid, vc.currentUser.uid]) := by
  have hcreate : vc.createNewChat.client.OnRightChat c := by
    intro id hid
    rw [show vc.createNewChat.client.docReference = none from hnone] at hid
    cases hid
  by_cases hself : vc.otherUser.uid = vc.currentUser.uid
  · have hall : ∀ doc ∈ documents, vc.otherUser.uid ∈ doc.2 := by
      intro doc hdoc
      obtain ⟨d, -, -, husers, hmem⟩ := hfound doc hdoc
      rw [hself, ← husers]
      exact hmem
    rw [chatsFound_of_all vc hall, imp_iff_right hself]
    cases hhead : documents.head? with
    | none => exact iff_of_true hcreate (by simp)
    | some doc =>
      obtain ⟨d, hd, hid, husers, -⟩ := hfound doc (List.mem_of_head? hhead)
      dsimp only
      rw [onRightChat_attach c.nodup ⟨d, hd, hid, husers⟩, hself, isPair_self]
      simp
  · refine iff_of_true ?_ fun h => absurd h hself
    rcases vc.chatsFound_cases documents with ⟨doc, hdoc, hother, hv⟩ | hv
    · obtain ⟨d, hd, hid, husers, hcurrent⟩ := hfound doc hdoc
      rw [hv, onRightChat_attach c.nodup ⟨d, hd, hid, husers⟩, ← husers]
      rw [← husers] at hother
      exact isPair_of_mem (Ne.symm hself) (htwo d hd) hcurrent hother
    · rw [hv]
      exact hcreate

end

variable {h : List (ChatWorld × ChatEvent)} {w w' : ChatWorld} {e : ChatEvent}

/-- A reaction of one screen leaves the others on their chats. -/
lemma rightConversation_react (hp : RightConversation w) (i root : ℕ) (r : ChatReaction) :
    RightConversation (w.react i root r) ↔ r.client.OnRightChat w.server := by
  constructor
  · intro h
    exact h i r.client (by simp)
  · intro hr j vc hj
    by_cases hji : j = i
    · subst hji
      obtain rfl : r.client = vc := by simpa using hj
      exact hr
    · rw [react_clients_of_ne _ _ _ hji] at hj
      exact hp j vc hj

/-- The condition on a delivery speaks of the answer that is delivered. -/
lemma firstWithSelf_deliver_iff {k : ℕ} {f : Flight ChatRequest ChatAnswer} {a : ChatAnswer}
    {vc : ChatViewController} (flight : w.flights[k]? = some f) (answered : f.answer = some a)
    (client : w.clients f.owner = some vc) :
    FirstWithSelf w (.deliver k ()) ↔ ∀ uid documents, f.request = .loadChat uid →
      a = .chats documents → vc.trapped = false → vc.otherUser.uid = vc.currentUser.uid →
      ∀ doc, documents.head? = some doc → doc.2 = [vc.currentUser.uid, vc.currentUser.uid] := by
  constructor
  · rintro hfirst uid documents hq rfl
    exact hfirst k f uid documents vc rfl flight hq answered client
  · intro hfirst k' f' uid documents vc' he hf' hq ha hvc'
    obtain ⟨rfl, -⟩ := Event.deliver.inj he
    obtain rfl : f = f' := by rw [flight] at hf'; exact Option.some.inj hf'
    obtain rfl : vc = vc' := by rw [client] at hvc'; exact Option.some.inj hvc'
    rw [answered] at ha
    exact hfirst uid documents hq (Option.some.inj ha)

/-- A callback leaves the screen and its chat, unless it finds the chats of the user. -/
lemma recv_sameScreen {vc : ChatViewController} {q : ChatRequest} {a : ChatAnswer}
    (h : ¬ ∃ uid documents, q = .loadChat uid ∧ a = .chats documents ∧ vc.trapped = false) :
    vc.SameScreen (vc.recv q a).client := by
  rcases vc.recv_cases q a with ⟨uid, documents, hq, ha, -⟩ | ⟨users, -, hv⟩ |
    ⟨chat, documents, -, -, -, hv⟩ | hv
  · -- the program has stopped
    have htrapped : vc.trapped = true := by
      by_contra hne
      exact h ⟨uid, documents, hq, ha, by simpa using hne⟩
    simp [ChatViewController.recv, htrapped, SameScreen]
  · rw [hv]
    exact ⟨rfl, rfl, rfl, rfl⟩
  · rw [hv]
    exact (vc.threadChanged_cases chat documents).1
  · rw [hv]
    exact ⟨rfl, rfl, rfl, rfl⟩

/-- A step keeps the property exactly if it meets the condition. -/
lemma rightConversation_step_iff (hr : chatSystem.RunFrom .empty h w) (hp : RightConversation w)
    (hs : chatSystem.step w e = some w') : RightConversation w' ↔ FirstWithSelf w e := by
  have hinv := chatSystem_attached hr
  cases took_of_step hs with
  | @boot i users free =>
    refine iff_of_true ?_ (by intro k f uid documents vc he; cases he)
    refine (rightConversation_react hp i w.next _).mpr fun id hid => ?_
    cases hid
  | @ui i u vc r client reacts =>
    refine iff_of_true ?_ (by intro k f uid documents vc he; cases he)
    exact (rightConversation_react hp i w.next r).mpr ((hp i vc client).ui reacts)
  | @serve k e f flight unanswered =>
    refine iff_of_true ?_ (by intro k f uid documents vc he; cases he)
    intro i vc hi
    exact (hp i vc hi).serve f.request e
  | @deliver k x f a vc flight answered client =>
    have hland : RightConversation (w.land k) := hp
    obtain ⟨vc₀, hvc₀, hasks, hOk⟩ := hinv.flight f (mem_of_flight flight)
    obtain rfl : vc = vc₀ := by rw [client] at hvc₀; exact Option.some.inj hvc₀
    rw [firstWithSelf_deliver_iff flight answered client, rightConversation_react hland]
    show (vc.recv f.request a).client.OnRightChat w.server ↔ _
    by_cases hlooks : ∃ uid documents, f.request = .loadChat uid ∧ a = .chats documents ∧
        vc.trapped = false
    · obtain ⟨uid, documents, hq, rfl, htrapped⟩ := hlooks
      rw [hq] at hasks
      obtain ⟨rfl, hnone⟩ := hasks
      have hrecv : vc.recv f.request (.chats documents) = vc.chatsFound documents := by
        rw [hq]
        simp [ChatViewController.recv, callback, htrapped]
      rw [hrecv, chatsFound_onRightChat hinv.server hnone (hOk _ answered _ documents hq rfl)]
      constructor
      · rintro hfirst uid documents' - hdocs -
        obtain rfl := ChatAnswer.chats.inj hdocs
        exact hfirst
      · intro hfirst
        exact hfirst _ documents hq rfl htrapped
    · refine iff_of_true ?_ fun uid documents hq ha htrapped =>
        absurd ⟨uid, documents, hq, ha, htrapped⟩ hlooks
      exact (hp f.owner vc client).of_screen (recv_sameScreen hlooks)

/-- **When the screens are attached to the right conversation.** In a run every screen that is
attached to a chat is always attached to one of which the current user and the other user are the
participants, if and only if, whenever the chats of a user are delivered to a screen that he has
opened on himself, the first one is a chat with himself.

**Proof sketch.** Only the chats delivered to a screen attach it
(`chatsFound_onRightChat`), and no chat changes its participants (`OnRightChat.serve`). -/
theorem right_conversation_iff (hr : chatSystem.RunFrom .empty h w) :
    Throughout RightConversation h w ↔ EveryStep FirstWithSelf h := by
  have hstart : RightConversation (start .empty) := by
    intro i vc hi
    cases hi
  rw [hr.throughout_iff_everyStep fun h w e w' hr hp hs => rightConversation_step_iff hr hp hs]
  exact and_iff_right hstart

/-! ## Alice on her own -/

/-- Alice opens a chat on Bob, who has one with her. -/
theorem right_conversation_alice : ∃ h w, chatSystem.RunFrom .empty h w ∧
    (w.clients 0).map (·.docReference) = some (some 0) ∧
    (Throughout RightConversation h w ↔ EveryStep FirstWithSelf h) := by
  have he : (exec chatSystem.step (start .empty)
      [.boot 0 (alice, bob), .serve 0 (.success 0), .deliver 0 (), .serve 0 (.success 0),
        .deliver 0 (), .serve 0 (.success 0), .deliver 0 ()]).map
      (fun w => (w.clients 0).map (·.docReference)) = some (some (some 0)) := by decide +kernel
  obtain ⟨h, w, hr, -, hw⟩ := run_of_observed he
  exact ⟨h, w, hr, hw, right_conversation_iff hr⟩

/-- Alice has a chat with Bob. She opens one on herself, from a question that she has asked, and
the screen is attached to her chat with Bob. -/
theorem chat_with_another : ∃ h w, chatSystem.RunFrom .empty h w ∧
    (w.clients 1).map (·.docReference) = some (some 0) ∧
    w.server.docs.map (fun d => (d.documentID, d.users)) = [(0, ["alice", "bob"])] ∧
    ¬ RightConversation w := by
  have he : (exec chatSystem.step (start .empty)
      [.boot 0 (alice, bob), .serve 0 (.success 0), .deliver 0 (), .serve 0 (.success 0),
        .deliver 0 (), .boot 1 (alice, alice), .serve 1 (.success 0), .deliver 1 ()]).map
      (fun w => ((w.clients 1).map fun vc => (vc.docReference, vc.currentUser, vc.otherUser),
        w.server.docs.map fun d => (d.documentID, d.users))) =
      some (some (some 0, alice, alice), [(0, ["alice", "bob"])]) := by decide +kernel
  obtain ⟨h, w, hr, -, hw⟩ := run_of_observed he
  obtain ⟨hclient, hdocs⟩ := Prod.mk.inj hw
  obtain ⟨vc, hi, hvc⟩ := Option.map_eq_some_iff.mp hclient
  obtain ⟨hid, hcurrent, hother⟩ : _ ∧ _ ∧ _ := by simpa only [Prod.mk.injEq] using hvc
  refine ⟨h, w, hr, by simp [hi, hid], hdocs, fun hp => ?_⟩
  obtain ⟨d, hd, -, hpair⟩ := hp 1 vc hi 0 hid
  have husers : (d.documentID, d.users) ∈ [(0, ["alice", "bob"])] :=
    hdocs ▸ List.mem_map_of_mem hd
  obtain ⟨-, husers⟩ := Prod.mk.inj (List.mem_singleton.mp husers)
  rw [hcurrent, hother, isPair_self, husers] at hpair
  exact absurd hpair (by decide)

end Aoun
